import TransferDrill.Matching.Account

/-!
# Comparing operations with the intent

An operation matches another when account, amount and kind are equal; its place in the
transaction, its status, what it does to coins and its own metadata do not count. A list of
observed operations is checked against the intent greedily: each observed operation takes the
first intended one that it matches and that is not taken yet. How it differs from those before is
put into words in passing, and where that is impossible the check fails.
-/

namespace TransferDrill

/-- The first part in which an observed operation differs from an intended one. -/
inductive Mismatch where
  | account (expected observed : Option AccountIdentifier)
  | amount (expected observed : Option Amount)
  | kind (expected observed : String)
deriving DecidableEq, Repr

namespace Mismatch

/-- An optional part as messages show it. -/
def showPart {α : Type} (summary : α → String) : Option α → String
  | none => "None"
  | some a => summary a

/-- How a mismatch is reported. -/
def message : Mismatch → String
  | .account expected observed =>
    let text := showPart AccountIdentifier.summary
    s!"account mismatch: expected {text expected}, observed {text observed}"
  | .amount expected observed =>
    let text := showPart Amount.summary
    s!"amount mismatch: expected {text expected}, observed {text observed}"
  | .kind expected observed => s!"type mismatch: expected {expected}, observed {observed}"

/-- Whether a mismatch can be reported, that is whether both parts can be shown. -/
def isShowable : Mismatch → Bool
  | .account expected observed =>
    expected.all AccountIdentifier.isShowable && observed.all AccountIdentifier.isShowable
  | .amount expected observed =>
    expected.all Amount.isShowable && observed.all Amount.isShowable
  | .kind _ _ => true

end Mismatch

namespace Operation

/-- How an observed operation differs from an intended one, if it does. -/
def mismatch? (intended observed : Operation) : Option Mismatch :=
  if !samePart AccountIdentifier.same intended.account observed.account then
    some (.account intended.account observed.account)
  else if !samePart Amount.same intended.amount observed.amount then
    some (.amount intended.amount observed.amount)
  else if intended.kind ≠ observed.kind then some (.kind intended.kind observed.kind)
  else none

/-- Whether an observed operation can be compared with an intended one: either they do not differ,
or how they do can be reported. -/
def comparable (intended observed : Operation) : Bool :=
  (mismatch? intended observed).all Mismatch.isShowable

/-- Whether an observed operation is an intended one. -/
def fulfils (observed intended : Operation) : Bool :=
  (mismatch? intended observed).isNone

/-- An observed operation is an intended one if account, amount and kind are equal. -/
theorem fulfils_iff {observed intended : Operation} :
    observed.fulfils intended = true ↔
      samePart AccountIdentifier.same intended.account observed.account = true ∧
        samePart Amount.same intended.amount observed.amount = true ∧
        intended.kind = observed.kind := by
  simp only [fulfils, mismatch?]
  split
  · simp_all
  · split
    · simp_all
    · split <;> simp_all

end Operation

/-- Why observed operations do not fulfil the intent, or that one of them cannot be compared with
it. -/
inductive OperationsFault where
  | overlong
  | unsuccessful (index : Nat) (status : Option String)
  | extra (index : Nat) (kind : String)
  | missing (indices : List Nat)
deriving DecidableEq, Repr

/-- How unfulfilled intent is reported. -/
def OperationsFault.message : OperationsFault → String
  | .overlong => Numeral.limitMessage
  | .unsuccessful index status =>
    let shown := (Json.ofString? status).literalText
    s!"operation {index} has unsuccessful status {shown}"
  | .extra index kind => s!"found extra operation {index}: {kind}"
  | .missing indices =>
    let shown := (Json.array (indices.map fun (i : Nat) => .int i)).literalText
    s!"unable to find match for intent operations {shown}"

namespace Matching

/-- What is asked of the observed operations beyond being intended. -/
structure Policy where
  refuseExtra : Bool
  confirmSuccess : Bool
  successful : List String
deriving DecidableEq, Repr

/-- The statuses that count as success unless said otherwise. -/
def defaultStatuses : List String := ["SUCCESS"]

/-- The policy for operations that are parsed from a transaction: none has happened yet. -/
def Policy.lenient : Policy := ⟨false, false, defaultStatuses⟩

/-- Whether a status counts as success; no status does not. -/
def Policy.accepts (policy : Policy) : Option String → Bool
  | none => false
  | some status => policy.successful.contains status

/-- Intended operations that are not taken yet, with their places in the intent. -/
abbrev Pending := List (Nat × Operation)

/-- Take the first pending operation that an observed one fulfils, if it can be compared with all
those before. -/
def take? (observed : Operation) : Pending → Except OperationsFault (Option Pending)
  | [] => .ok none
  | entry :: rest =>
    if observed.fulfils entry.2 then .ok (some rest)
    else if entry.2.comparable observed then
      (take? observed rest).map fun left => left.map (entry :: ·)
    else .error .overlong

/-- Match observed operations, the first of which has the given index; what stays pending is
returned. -/
def matchFrom (policy : Policy) :
    (index : Nat) → Pending → List Operation → Except OperationsFault Pending
  | _, pending, [] => .ok pending
  | index, pending, observed :: rest =>
    match take? observed pending with
    | .error fault => .error fault
    | .ok (some left) =>
      if policy.confirmSuccess && !policy.accepts observed.status then
        .error (.unsuccessful index observed.status)
      else matchFrom policy (index + 1) left rest
    | .ok none =>
      if policy.refuseExtra then .error (.extra index observed.kind)
      else matchFrom policy (index + 1) pending rest

/-- The operations of an intent with their places. -/
def numbered (intent : List Operation) : Pending :=
  intent.zipIdx.map fun entry => (entry.2, entry.1)

/-- Check that every intended operation is among the observed ones. -/
def checkOperations (policy : Policy) (intent observed : List Operation) :
    Except OperationsFault Unit :=
  match matchFrom policy 0 (numbered intent) observed with
  | .error fault => .error fault
  | .ok [] => .ok ()
  | .ok (entry :: rest) => .error (.missing ((entry :: rest).map (·.1)))

end Matching

end TransferDrill

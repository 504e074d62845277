import TransferDrill.Drive.Script

/-!
# What a failure was raised from

A call throws when it is cancelled, when the adapter raises an error, and when a check that the
adapter does not refuse finds a fault. A failure of the drive names the reason it was raised from,
and its report begins with that of the reason.
-/

namespace TransferDrill

/-- Why something was raised: an error of the adapter's, a fault that a check found, or something
of the drive's own. -/
inductive Reason where
  | adapter (e : AdapterError)
  | operations (fault : OperationsFault)
  | signers (fault : SignersFault)
  | keyPair (e : KeyFault)
  | failure (f : Failure)
deriving DecidableEq

/-- How a reason is reported. -/
def Reason.message : Reason → String
  | .adapter e => e.message
  | .operations fault => fault.message
  | .signers fault => fault.message
  | .keyPair e => e.message
  | .failure f => f.message

/-- The reason why a check failed, given that of a fault. -/
def CheckFault.reason {φ : Type} (own : φ → Reason) : CheckFault φ → Reason
  | .refused e => .adapter e
  | .found fault => own fault

/-- What a failure was raised from. -/
def Failure.cause? : Failure → Option Reason
  | .adapter _ e => some (.adapter e)
  | .keyPair e => some (.keyPair e)
  | .funding _ inner => some (.failure inner)
  | .step _ e => some (.adapter e)
  | .operations _ cause => some (cause.reason .operations)
  | .signers cause => some (cause.reason .signers)
  | _ => none

/-- A failure with a cause is one of constructing transfers, and no shortage. -/
theorem Failure.isConstruction_of_cause {f : Failure} {reason : Reason}
    (h : f.cause? = some reason) : f.isConstruction = true ∧ ∀ s, f ≠ .shortage s := by
  cases f with
  | cancelled _ | shortage _ | earlySigners _ | invertedRange _ | overlongNumber
  | unshowableAmount | templates _ => cases h
  | _ => exact ⟨rfl, nofun⟩

/-- The message of a failed check is that of its reason. -/
theorem CheckFault.message_reason {φ : Type} (own : φ → Reason) (cause : CheckFault φ) :
    (cause.reason own).message = cause.message fun fault => (own fault).message := by
  cases cause <;> rfl

/-- The message of a failure begins with that of its cause. -/
theorem Failure.message_of_cause {f : Failure} {reason : Reason} (h : f.cause? = some reason) :
    ∃ rest, f.message = reason.message ++ rest := by
  cases f with
  | cancelled _ | shortage _ | earlySigners _ | invertedRange _ | overlongNumber
  | unshowableAmount | templates _ => cases h
  | adapter activity e =>
    cases h
    exact ⟨": " ++ activity.complaint, String.append_assoc⟩
  | keyPair e =>
    cases h
    exact ⟨": unable to generate keypair", rfl⟩
  | funding address inner =>
    cases h
    exact ⟨": unable to get funds on " ++ address, String.append_assoc⟩
  | step failing e =>
    cases h
    exact ⟨": unable to " ++ failing.name, String.append_assoc⟩
  | operations signed cause =>
    cases h
    rw [CheckFault.message_reason]
    let which := if signed then "signed" else "unsigned"
    refine ⟨": " ++ (which ++ " parsed ops do not match intent"), ?_⟩
    rw [← String.append_assoc, ← String.append_assoc]
    rfl
  | signers cause =>
    cases h
    rw [CheckFault.message_reason]
    exact ⟨": signed transaction signers do not match intent", rfl⟩

/-- What comes out of a call that does not return, or of a sleep that is cut short. -/
inductive Thrown where
  | cancelled (c : Cancellation)
  | ordinary (reason : Reason)
deriving DecidableEq

/-- What a check that was not refused throws. -/
def Thrown.found? {φ : Type} (own : φ → Reason) : Except φ Unit → Option Thrown
  | .ok () => none
  | .error fault => some (.ordinary (own fault))

/-- What is thrown at an event. -/
def Event.thrown? : Event → Option Thrown
  | ⟨.call _, .error (.cancelled c)⟩ => some (.cancelled c)
  | ⟨.call _, .error (.raised e)⟩ => some (.ordinary (.adapter e))
  | ⟨.call (.checkOperations policy intent observed), .ok _⟩ =>
    Thrown.found? .operations (Matching.checkOperations policy intent observed)
  | ⟨.call (.checkSigners payloads signers), .ok _⟩ =>
    Thrown.found? .signers (Matching.checkSigners payloads signers)
  | ⟨.sleep _, .error c⟩ => some (.cancelled c)
  | _ => none

/-- Nothing is thrown at any of some events. -/
def Quiet (events : List Event) : Prop := ∀ e ∈ events, e.thrown? = none

/-- The address whose balance is looked up at an event. -/
def Event.lookedUp? : Event → Option String
  | ⟨.call (.accountBalance account _), _⟩ => some account.address
  | ⟨.call (.coinBalance account _), _⟩ => some account.address
  | _ => none

/-- The address whose funds are awaited after an event, given the one before: a new address is
until the first call that looks up no balance. -/
def awaitedAfter (awaited : Option String) (e : Event) : Option String :=
  match e.request with
  | .call (.addressCreated address) => some address
  | .call (.accountBalance ..) | .call (.coinBalance ..) => awaited
  | .call _ => none
  | _ => awaited

/-- The address whose funds are awaited after some events. -/
def awaited? (past : List Event) : Option String := past.foldl awaitedAfter none

/-- An event is a look-up of a new address whose funds are awaited. -/
def AwaitsFunds (past : List Event) (e : Event) : Prop :=
  ∃ address, e.lookedUp? = some address ∧ awaited? past = some address

/-- Where nothing happened, nothing was thrown. -/
theorem quiet_nil : Quiet [] := by simp [Quiet]

/-- Quiet events stay quiet with one more at which nothing is thrown. -/
theorem Quiet.append_singleton {past : List Event} (h : Quiet past) {e : Event}
    (he : e.thrown? = none) : Quiet (past ++ [e]) := by
  rw [Quiet, List.forall_mem_append]
  exact ⟨h, by simpa using he⟩

/-- One more event decides whose funds are awaited, given who it was before. -/
@[simp] theorem awaited?_append_singleton (past : List Event) (e : Event) :
    awaited? (past ++ [e]) = awaitedAfter (awaited? past) e := by
  rw [awaited?, List.foldl_append]
  rfl

end TransferDrill

import TransferDrill.Drive.Loop
import TransferDrill.Proofs.Drive.Intent
import TransferDrill.Proofs.Drive.Pipeline
import TransferDrill.Proofs.Drive.Sender
import TransferDrill.Proofs.Drive.Sizing

/-!
# What is handed off

Before every hand-off of a drive stand, in this order, the selection that offered the sender, the
sizing of a transfer that what the sender holds covers, and the construction of a transaction for
its operations. Nothing of an earlier round reaches the handler, whatever has changed since.
-/

namespace TransferDrill

/-- Every request but the hand-off of a transaction. -/
def Ask.Preparatory : Ask → Prop
  | .call (.transactionCreated ..) => False
  | _ => True

/-- What is asked for before there is an intent hands nothing off. -/
theorem Ask.preparatory_of_beforeIntent (q : Ask) (h : q.BeforeIntent) : q.Preparatory := by
  cases q with
  | call c => cases c <;> trivial
  | _ => trivial

/-- Construction hands nothing off. -/
theorem Ask.preparatory_of_inConstruction (q : Ask) (h : q.InConstruction) : q.Preparatory := by
  cases q with
  | call c => cases c <;> trivial
  | _ => trivial

namespace Drive

open Rehearsal

/-- What goes before a hand-off. -/
structure HandOff where
  earlier : List Event
  selection : Selection
  sender : Sender
  sizing : List Event
  transfer : Transfer
  replies : Replies

/-- Everything that has happened when a transaction for an intent is handed off: the last selection
of a sender, the sizing of a transfer and the construction of the transaction stand at the end. -/
def HandOff.past (h : HandOff) (settings : Settings) (intent : List Operation) : List Event :=
  h.earlier ++ h.selection.events settings ++ h.sizing ++
    h.replies.transcript settings.network intent

/-- The hand-off is of what was selected, sized and constructed last. -/
structure HandOff.Sound (h : HandOff) (settings : Settings) (intent : List Operation) : Prop where
  offered : h.selection.Offers h.sender
  sized : (sizeTransfer settings h.sender).Leads h.sizing (.done h.transfer)
  noSelection : ∀ e ∈ h.sizing, e.request ≠ .call .lockedAddresses
  covered : h.transfer.CoveredBy settings h.sender
  populated : h.transfer.populate = .ok intent
  passed : h.replies.Passed intent

/-- A hand-off from a sender's address is justified by what has happened before it. -/
def Justified (settings : Settings) (past : List Event) (address : String)
    (transaction : Transaction) (intent : List Operation) : Prop :=
  ∃ h : HandOff, past = h.past settings intent ∧ h.Sound settings intent ∧
    h.sender.address = address ∧ h.replies.transaction = transaction

/-- As long as draws lie in their ranges, every hand-off is justified. -/
def handOffContract (settings : Settings) : Contract where
  relies := Event.InBounds
  guarantees
    | past, ⟨.call (.transactionCreated address identifier content intent), _⟩ =>
      Justified settings past address ⟨identifier, content⟩ intent
    | _, _ => True

variable {settings : Settings}

/-- A request that hands nothing off has nothing to justify. -/
theorem handOffContract_preparatory (q : Ask) (hq : q.Preparatory) (past : List Event)
    (reply : q.Reply) : (handOffContract settings).guarantees past ⟨q, reply⟩ := by
  cases q with
  | call c => cases c <;> trivial
  | _ => trivial

/-- A transfer that was sized for the last sender is handed off with justification. -/
theorem makeTransfer_keeps {earlier sizing : List Event} {s : Selection} {sender : Sender}
    {transfer : Transfer} (hoffers : s.Offers sender)
    (hsized : (sizeTransfer settings sender).Leads sizing (.done transfer))
    (hcovered : transfer.CoveredBy settings sender) :
    (makeTransfer settings sender transfer).Keeps (handOffContract settings) (fun _ _ => True)
      (earlier ++ s.events settings ++ sizing) := by
  have hnoSelection : ∀ e ∈ sizing, e.request ≠ .call .lockedAddresses := by
    intro e he hlocked
    have hkind := (sizeTransfer_inSizing sender).of_leads hsized e he
    rw [hlocked] at hkind
    exact hkind
  unfold makeTransfer
  cases hpopulated : transfer.populate with
  | error fault => trivial
  | ok intent =>
    rw [Script.ofExcept, Script.bind_eq, Script.done_bind, Script.bind_eq, Script.keeps_bind_iff]
    refine ((createTransaction_inConstruction intent).mono
      Ask.preparatory_of_inConstruction).keeps handOffContract_preparatory ?_
    intro events outcome hleads _
    cases outcome with
    | failed f => trivial
    | unfinished => trivial
    | done transaction =>
      obtain ⟨r, rfl, hpassed, rfl⟩ := (createTransaction_leads_done_iff ..).mp hleads
      intro reply _
      refine ⟨⟨⟨earlier, s, sender, sizing, transfer, r⟩, rfl, ?_, rfl, rfl⟩, ?_⟩
      · exact ⟨hoffers, hsized, hnoSelection, hcovered, hpopulated, hpassed⟩
      · rcases reply with (_ | _) | _
        · trivial
        · trivial
        · exact fun _ _ => ⟨trivial, trivial⟩

/-- From any past, every hand-off of the drive is justified. -/
theorem createTransactionsFrom_keeps (patience : Nat) (wanted : Option Int) (rounds created : Nat)
    (past : List Event) :
    (createTransactionsFrom settings patience wanted rounds created).Keeps
      (handOffContract settings) (fun _ _ => True) past := by
  refine createTransactionsFrom_keeps_of_rounds ?_ ?_ rounds created past
  · exact fun q hq => handOffContract_preparatory q (q.preparatory_of_beforeIntent hq)
  · intro past selecting sizing sender transfer hfound hsized hbounds
    obtain ⟨earlier, s, rfl, hoffers⟩ := findSenderFrom_leads_done hfound
    rw [← List.append_assoc past]
    exact makeTransfer_keeps hoffers hsized (sizeTransfer_covered hsized hbounds)

/-- Whenever a drive hands off a transaction, however the run goes on, it is from a sender that the
last selection offered, for the operations of a transfer that its holding covers, and constructed
for these just before. -/
theorem createTransactions_handOff_justified {σ : Type} (answer : Environment σ)
    (hbounds : answer.RespectsBounds) (settings : Settings) (patience : Nat) (wanted : Option Int)
    (state : σ) {before after : List Event} {address content : String}
    {identifier : TransactionIdentifier} {intent : List Operation} {reply : Except Fault Unit}
    (hevents : ((createTransactions settings patience wanted).run answer state).events =
      before ++ ⟨.call (.transactionCreated address identifier content intent), reply⟩ :: after) :
    Justified settings before address ⟨identifier, content⟩ intent := by
  obtain ⟨hleads, hgives⟩ :=
    (Script.run_eq_iff answer (createTransactions settings patience wanted) state _ _ _).mp rfl
  exact (createTransactionsFrom_keeps patience wanted patience 0 []).guarantees hleads
    (hbounds.inBounds hgives) hevents

/-- In a plain rehearsal, the whole coin of the first sender goes to a recipient and to change. -/
theorem createTransactions_handOff_rehearsed :
    (answer .plain).RespectsBounds ∧
      ∃ before, Justified (plainSettings .utxo) before "a"
        ⟨⟨"hash(signed(unsigned-1,1))"⟩, "signed(unsigned-1,1)"⟩
        [plainOperation 0 "a" "-100" none, plainOperation 1 "b" "5" none,
          plainOperation 2 "new1" "94" none] := by
  let handOff : Call := .transactionCreated "a" ⟨"hash(signed(unsigned-1,1))"⟩
    "signed(unsigned-1,1)" [plainOperation 0 "a" "-100" none, plainOperation 1 "b" "5" none,
      plainOperation 2 "new1" "94" none]
  let run := (createTransactions (plainSettings .utxo) 3 (some 1)).run (answer .plain)
    (.holding [("a", 100), ("b", 50)])
  have hasked : Ask.call handOff ∈ run.events.map Event.request := by decide +kernel
  obtain ⟨⟨_, reply⟩, hevent, rfl⟩ := List.mem_map.mp hasked
  obtain ⟨before, after, hevents⟩ := List.mem_iff_append.mp hevent
  exact ⟨answer_respectsBounds .plain, before,
    createTransactions_handOff_justified (answer .plain) (answer_respectsBounds .plain)
      (plainSettings .utxo) 3 (some 1) (.holding [("a", 100), ("b", 50)]) hevents⟩

end Drive

end TransferDrill

import TransferDrill.Proofs.Drive.Purpose
import TransferDrill.Proofs.Drive.Requests
import TransferDrill.Proofs.Drive.Rounds
import TransferDrill.Proofs.Rehearsal.Plain

/-!
# What a drive counts

A transaction is complete when it has been named, it is handed off next, and it counts when the
hand-off has returned. So the transactions counted are those handed off, and those completed are
the same, but for the last one as long as its hand-off is pending and when that has failed. Nothing
that the drive waits for or tries again is counted.
-/

namespace TransferDrill

/-- Whether a transaction was handed off at an event. -/
def Event.handsOff : Event → Bool
  | ⟨.call (.transactionCreated ..), .ok _⟩ => true
  | _ => false

/-- Whether a transaction was completed at an event: it was named. -/
def Event.completes : Event → Bool
  | ⟨.call (.hash ..), .ok _⟩ => true
  | _ => false

/-- Whether a hand-off failed at an event. -/
def Event.failsHandOff : Event → Bool
  | ⟨.call (.transactionCreated ..), .error _⟩ => true
  | _ => false

/-- How many transactions have been handed off. -/
def handOffs (past : List Event) : Nat := past.countP Event.handsOff

/-- How many transactions have been completed. -/
def completions (past : List Event) : Nat := past.countP Event.completes

/-- Every request but the name of a transaction and its hand-off. -/
def Ask.Uncounted : Ask → Prop
  | .call (.hash ..) | .call (.transactionCreated ..) => False
  | _ => True

/-- What is asked for before there is an intent neither names a transaction nor hands one off. -/
theorem Ask.uncounted_of_beforeIntent (q : Ask) (h : q.BeforeIntent) : q.Uncounted := by
  cases q with
  | call c => cases c <;> trivial
  | _ => trivial

/-- At first nothing has been handed off. -/
@[simp] theorem handOffs_nil : handOffs [] = 0 := rfl

/-- A first event counts if a transaction is handed off at it. -/
@[simp] theorem handOffs_cons (e : Event) (later : List Event) :
    handOffs (e :: later) = handOffs later + e.handsOff.toNat := by
  cases h : e.handsOff <;> simp [handOffs, h]

/-- Hand-offs add up. -/
@[simp] theorem handOffs_append (past later : List Event) :
    handOffs (past ++ later) = handOffs past + handOffs later :=
  List.countP_append

/-- At first nothing has been completed. -/
@[simp] theorem completions_nil : completions [] = 0 := rfl

/-- A first event counts if a transaction is completed at it. -/
@[simp] theorem completions_cons (e : Event) (later : List Event) :
    completions (e :: later) = completions later + e.completes.toNat := by
  cases h : e.completes <;> simp [completions, h]

/-- Completions add up. -/
@[simp] theorem completions_append (past later : List Event) :
    completions (past ++ later) = completions past + completions later :=
  List.countP_append

/-- Nothing is handed off by an uncounted request. -/
theorem Event.handsOff_eq_false {e : Event} (h : e.request.Uncounted) : e.handsOff = false := by
  obtain ⟨q, reply⟩ := e
  cases q with
  | call c => cases c <;> trivial
  | _ => rfl

/-- Nothing is completed by an uncounted request. -/
theorem Event.completes_eq_false {e : Event} (h : e.request.Uncounted) : e.completes = false := by
  obtain ⟨q, reply⟩ := e
  cases q with
  | call c => cases c <;> trivial
  | _ => rfl

/-- No hand-off fails by an uncounted request. -/
theorem Event.failsHandOff_eq_false {e : Event} (h : e.request.Uncounted) :
    e.failsHandOff = false := by
  obtain ⟨q, reply⟩ := e
  cases q with
  | call c => cases c <;> trivial
  | _ => rfl

namespace Drive

open Rehearsal

variable {settings : Settings}

/-- The hand-off of the transaction completed last is pending, or it has failed. -/
inductive HandOffOpen : List Event → Option Ask → Prop
  | pending {earlier : List Event} {network : NetworkIdentifier} {sender content : String}
      {identifier : TransactionIdentifier} {intent : List Operation} :
      HandOffOpen (earlier ++ [⟨.call (.hash network content), .ok identifier⟩])
        (some (.call (.transactionCreated sender identifier content intent)))
  | failed {earlier : List Event} {network : NetworkIdentifier} {sender content : String}
      {identifier : TransactionIdentifier} {intent : List Operation} {fault : Fault} :
      HandOffOpen (earlier ++ [⟨.call (.hash network content), .ok identifier⟩] ++
        [⟨.call (.transactionCreated sender identifier content intent), .error fault⟩]) none

/-- At a moment, the transactions counted are those handed off, and those completed, but for one
whose hand-off is open; and nothing is counted for any other purpose than a transaction. -/
structure Balanced (past : List Event) (note : Note) (request : Option Ask) : Prop where
  counted : note.counted = handOffs past
  closed : ¬HandOffOpen past request → completions past = handOffs past
  opened : HandOffOpen past request → completions past = handOffs past + 1
  apart : note.purpose ≠ .construction → note.purpose ≠ .handOff → ∀ q ∈ request, q.Uncounted

/-- As many transactions as were counted have been handed off and completed, and no hand-off has
failed at last. -/
structure CountsAgree (counted : Nat) (past : List Event) : Prop where
  handOffs : handOffs past = counted
  completions : completions past = counted
  last : ∀ e, past.getLast? = some e → e.failsHandOff = false

/-- Uncounted requests leave the counts in agreement. -/
theorem CountsAgree.append {counted : Nat} {past events : List Event}
    (h : CountsAgree counted past) (hevents : ∀ e ∈ events, e.request.Uncounted) :
    CountsAgree counted (past ++ events) where
  handOffs := by
    have hnone : TransferDrill.handOffs events = 0 :=
      List.countP_eq_zero.mpr fun e he => by simp [Event.handsOff_eq_false (hevents e he)]
    rw [handOffs_append, hnone, h.handOffs, Nat.add_zero]
  completions := by
    have hnone : TransferDrill.completions events = 0 :=
      List.countP_eq_zero.mpr fun e he => by simp [Event.completes_eq_false (hevents e he)]
    rw [completions_append, hnone, h.completions, Nat.add_zero]
  last := by
    intro e he
    rcases List.eq_nil_or_concat events with rfl | ⟨earlier, last, rfl⟩
    · exact h.last e (by simpa using he)
    · rw [List.concat_eq_append, ← List.append_assoc, List.getLast?_concat] at he
      cases he
      exact Event.failsHandOff_eq_false (hevents _ (by simp))

/-- While the counts agree, they are balanced unless a hand-off is asked for. -/
theorem CountsAgree.balanced {note : Note} {past : List Event} {request : Option Ask}
    (h : CountsAgree note.counted past)
    (hrequest : ∀ sender identifier content intent,
      request ≠ some (.call (.transactionCreated sender identifier content intent)))
    (hapart : note.purpose ≠ .construction → note.purpose ≠ .handOff →
      ∀ q ∈ request, q.Uncounted) : Balanced past note request := by
  have hclosed : ¬HandOffOpen past request := by
    intro hopen
    cases hopen with
    | pending => exact hrequest _ _ _ _ rfl
    | failed => cases h.last _ List.getLast?_concat
  exact ⟨h.handOffs.symm, fun _ => h.completions.trans h.handOffs.symm,
    fun hopen => absurd hopen hclosed, hapart⟩

/-- Where the counts agree, a moment before an uncounted request is balanced. -/
theorem CountsAgree.balanced_of_uncounted {note : Note} {past : List Event} {request : Option Ask}
    (h : CountsAgree note.counted past) (hrequest : ∀ q ∈ request, q.Uncounted) :
    Balanced past note request :=
  h.balanced (fun _ _ _ _ hasked => (hrequest _ hasked).elim) fun _ _ => hrequest

section Uncounted

variable {α : Type} {counted : Nat} {purpose : Purpose} {past : List Event}

/-- Scripts that neither name nor hand off a transaction keep the counts. -/
theorem uncounted_balanced {script : Script α} (h : script.OnlyAsks Ask.Uncounted)
    (hagree : CountsAgree counted past) :
    (script.noted ⟨counted, purpose⟩).Keeps Balanced
      (fun _ later => CountsAgree counted later) past :=
  .of_onlyAsks h
    (fun _ _ hevents hrequest => (hagree.append hevents).balanced_of_uncounted hrequest)
    fun _ _ hleads => hagree.append (h.of_leads hleads)

/-- A call that neither names nor hands off a transaction keeps the counts. -/
theorem call_balanced {c : Call} {report : AdapterError → Failure} (h : (Ask.call c).Uncounted)
    (hagree : CountsAgree counted past) :
    ((Script.attempt c report).noted ⟨counted, purpose⟩).Keeps Balanced
      (fun _ later => CountsAgree counted later) past :=
  uncounted_balanced (.attempt h) hagree

/-- While there is no intent, the counts are kept. -/
theorem beforeIntent_balanced {script : Script α} (h : script.OnlyAsks Ask.BeforeIntent)
    (hagree : CountsAgree counted past) :
    (script.noted ⟨counted, purpose⟩).Keeps Balanced
      (fun _ later => CountsAgree counted later) past :=
  uncounted_balanced (h.mono Ask.uncounted_of_beforeIntent) hagree

end Uncounted

/-! ## Retries -/

/-- A look for a sender keeps the counts. -/
theorem notedLook_balanced {counted : Nat} (patience : Nat) {past : List Event}
    (hagree : CountsAgree counted past) :
    (notedLook settings patience counted).Keeps Balanced (fun _ later => CountsAgree counted later)
      past := by
  have hfund : (fundNewAddress settings patience).OnlyAsks Ask.BeforeIntent :=
    fundNewAddress_beforeIntent patience
  rw [notedLook]
  simp only [Noted.bind_eq, Noted.pure_eq]
  refine .bind (call_balanced trivial hagree) fun addresses past hagree => ?_
  split
  · exact (beforeIntent_balanced hfund hagree).bind fun _ _ hagree => hagree
  · have hselect : (bestUnlocked settings addresses).OnlyAsks Ask.BeforeIntent :=
      (bestUnlocked_reads addresses).mono Ask.beforeIntent_of_reads
    refine .bind (beforeIntent_balanced hselect hagree) fun best past hagree => ?_
    cases best with
    | some sender => exact hagree
    | none =>
      refine .bind (call_balanced trivial hagree) fun broadcasts past hagree => ?_
      split
      · exact (beforeIntent_balanced hfund hagree).bind fun _ _ hagree => hagree
      · refine .bind (uncounted_balanced (.request trivial) hagree) fun _ past hagree => ?_
        exact .bind (uncounted_balanced (.sleep trivial) hagree) fun _ _ hagree => hagree

/-- The search for a sender keeps the counts, however long it takes. -/
theorem notedSearch_balanced {counted : Nat} (patience : Nat) {past : List Event}
    (hagree : CountsAgree counted past) :
    (notedSearch settings patience counted).Keeps Balanced
      (fun _ later => CountsAgree counted later) past := by
  refine notedSearchFrom_keeps (fun past hagree => ?_) patience hagree
  refine (notedLook_balanced patience hagree).mono fun best _ hagree => ?_
  cases best <;> exact hagree

/-- The wait after a shortage keeps the counts. -/
theorem notedChange_balanced {counted : Nat} (patience : Nat) (shortage : Shortage)
    {past : List Event} (hagree : CountsAgree counted past) :
    (notedChange settings patience counted shortage).Keeps Balanced
      (fun _ later => CountsAgree counted later) past := by
  rw [notedChange]
  simp only [Noted.bind_eq]
  refine .bind (call_balanced trivial hagree) fun broadcasts past hagree => ?_
  split
  · refine .bind (uncounted_balanced (.request trivial) hagree) fun _ past hagree => ?_
    exact beforeIntent_balanced (fundNewAddress_beforeIntent patience) hagree
  · refine .bind (uncounted_balanced (.request trivial) hagree) fun _ past hagree => ?_
    exact uncounted_balanced (.sleep trivial) hagree

/-! ## Transfers -/

/-- A check that is announced keeps the counts. -/
theorem check_balanced {φ : Type} {counted : Nat} {purpose : Purpose} {past : List Event}
    {announcement : Call} {report : CheckFault φ → Failure} {verdict : Except φ Unit}
    (h : (Ask.call announcement).Uncounted) (hagree : CountsAgree counted past) :
    ((check announcement report verdict).noted ⟨counted, purpose⟩).Keeps Balanced
      (fun _ later => CountsAgree counted later) past :=
  uncounted_balanced (.bind (.attempt h) fun _ => .ofExcept) hagree

/-- A transaction that was constructed has been completed last, and is one more than were
counted. -/
theorem createTransaction_balanced {counted : Nat} (intent : List Operation) {past : List Event}
    (hagree : CountsAgree counted past) :
    ((createTransaction settings intent).noted ⟨counted, .construction⟩).Keeps Balanced
      (fun transaction later => ∃ earlier network, CountsAgree counted earlier ∧ later = earlier ++
        [⟨.call (.hash network transaction.content), .ok transaction.identifier⟩]) past := by
  rw [createTransaction]
  simp only [Script.bind_eq, Script.pure_eq, Noted.noted_bind]
  refine .bind (call_balanced trivial hagree) fun request past hagree => ?_
  refine .bind (call_balanced trivial hagree) fun metadata past hagree => ?_
  refine .bind (call_balanced trivial hagree) fun unsigned past hagree => ?_
  refine .bind (call_balanced trivial hagree) fun draft past hagree => ?_
  refine .bind (uncounted_balanced .require hagree) fun _ past hagree => ?_
  refine .bind (check_balanced trivial hagree) fun _ past hagree => ?_
  refine .bind (uncounted_balanced (.request trivial) hagree) fun _ past hagree => ?_
  refine .bind (call_balanced trivial hagree) fun signatures past hagree => ?_
  refine .bind (call_balanced trivial hagree) fun content past hagree => ?_
  refine .bind (call_balanced trivial hagree) fun parsed past hagree => ?_
  refine .bind (check_balanced trivial hagree) fun _ past hagree => ?_
  refine .bind (check_balanced trivial hagree) fun _ past hagree => ?_
  -- naming a transaction completes it, unless that fails
  have hname : ((Script.step (.hash settings.network content) .hash).noted
      ⟨counted, .construction⟩).Keeps Balanced (fun identifier later => later = past ++
        [⟨.call (.hash settings.network content), .ok identifier⟩]) past := by
    refine .attempt (hagree.balanced nofun fun h => absurd rfl h) (fun fault => ?_) fun _ => rfl
    refine CountsAgree.balanced ⟨?_, ?_, ?_⟩ nofun fun h => absurd rfl h
    · simpa [Event.handsOff] using hagree.handOffs
    · simpa [Event.completes] using hagree.completions
    · simp [Event.failsHandOff]
  exact hname.bind fun identifier later hlater => ⟨past, settings.network, hagree, hlater⟩

/-- A transfer that was made is counted, and its hand-off is the last call. -/
theorem notedTransfer_balanced {counted : Nat} (sender : Sender) (transfer : Transfer)
    {past : List Event} (hagree : CountsAgree counted past) :
    (notedTransfer settings counted sender transfer).Keeps Balanced
      (fun _ later => CountsAgree (counted + 1) later ∧
        ∀ e, lastCall? later = some e → e.handsOff = true) past := by
  rw [notedTransfer]
  simp only [Noted.bind_eq]
  refine .bind (uncounted_balanced .ofExcept hagree) fun intent past hagree => ?_
  refine (createTransaction_balanced intent hagree).bind ?_
  intro transaction completed hcompleted
  obtain ⟨earlier, network, hagree, rfl⟩ := hcompleted
  have hhandOff : ((Script.call (.transactionCreated sender.address transaction.identifier
      transaction.content intent) .announceTransaction).noted ⟨counted, .handOff⟩).Keeps Balanced
        (fun _ later => CountsAgree (counted + 1) later ∧
          ∀ e, lastCall? later = some e → e.handsOff = true)
        (earlier ++ [⟨.call (.hash network transaction.content), .ok transaction.identifier⟩]) := by
    have hhandOffs := hagree.handOffs
    have hcompletions := hagree.completions
    refine .attempt ⟨?_, ?_, fun _ => ?_, fun _ h => absurd rfl h⟩ ?_ ?_
    · simp [hhandOffs, Event.handsOff]
    · exact fun hclosed => absurd .pending hclosed
    · simp [hhandOffs, hcompletions, Event.handsOff, Event.completes]
    · refine fun fault => ⟨?_, ?_, fun _ => ?_, fun _ h => absurd rfl h⟩
      · simp [hhandOffs, Event.handsOff]
      · exact fun hclosed => absurd .failed hclosed
      · simp [hhandOffs, hcompletions, Event.handsOff, Event.completes]
    · refine fun value => ⟨⟨?_, ?_, ?_⟩, ?_⟩
      · simp [hhandOffs, Event.handsOff]
      · simp [hcompletions, Event.completes]
      · simp [Event.failsHandOff]
      · rw [lastCall?_append_singleton]
        rintro _ ⟨⟩
        rfl
  refine hhandOff.bind fun _ past h => ?_
  obtain ⟨hagree, hlast⟩ := h
  refine .request (hagree.balanced_of_uncounted (by simp [Ask.Uncounted])) fun _ => ⟨?_, ?_⟩
  · exact hagree.append (by simp [Ask.Uncounted])
  · rw [lastCall?_append_singleton]
    exact hlast

/-! ## The drive -/

/-- Between rounds the counts agree, and if they are enough the last call was a hand-off. -/
structure BetweenRounds (wanted : Option Int) (counted : Nat) (past : List Event) : Prop where
  agree : CountsAgree counted past
  last : enough wanted counted = true → ∀ e, lastCall? past = some e → e.handsOff = true

/-- A round counts the transfer that is made in it. -/
theorem notedRound_balanced (patience : Nat) {wanted : Option Int} {counted : Nat}
    {past : List Event} (hless : enough wanted counted = false)
    (hagree : CountsAgree counted past) :
    (notedRound settings patience counted).Keeps Balanced
      (fun made later => BetweenRounds wanted (counted + made.toNat) later) past := by
  rw [notedRound]
  simp only [Noted.bind_eq, Noted.pure_eq]
  refine (notedSearch_balanced patience hagree).bind fun sender past hagree => ?_
  have hsize : (sizeTransfer settings sender).catchShortage.OnlyAsks Ask.BeforeIntent :=
    ((sizeTransfer_inSizing sender).mono Ask.beforeIntent_of_inSizing).catchShortage
  refine .bind (beforeIntent_balanced hsize hagree) fun result past hagree => ?_
  cases result with
  | ok transfer =>
    exact (notedTransfer_balanced sender transfer hagree).bind fun _ _ h => ⟨h.1, fun _ => h.2⟩
  | error shortage =>
    -- nothing was counted, so there still is not enough
    refine (notedChange_balanced patience shortage hagree).bind fun _ _ hagree => ⟨hagree, ?_⟩
    intro henough
    rw [Bool.toNat_false, Nat.add_zero, hless] at henough
    cases henough

/-- The drive keeps the counts however many rounds it takes, and when it is done the last call was
a hand-off. -/
theorem notedDrive_balanced (patience : Nat) (wanted : Option Int) :
    (notedDrive settings patience wanted).Keeps Balanced
      (fun made later => enough wanted made = true ∧ BetweenRounds wanted made later) [] := by
  have hround : ∀ counted past, enough wanted counted = false →
      BetweenRounds wanted counted past → (notedRound settings patience counted).Keeps Balanced
        (fun made later => BetweenRounds wanted (counted + made.toNat) later) past :=
    fun _ _ hless hbetween => notedRound_balanced patience hless hbetween.agree
  exact notedDriveFrom_keeps hround patience ⟨⟨rfl, rfl, by simp⟩, by simp [lastCall?]⟩

/-- Every transaction is counted exactly once. At every request of a run and where it fails, the
transactions counted are those handed off, and those completed, but for one whose hand-off is
pending or has failed. A run is done only with the number wanted, none if that is negative, after as
many hand-offs with no call after the last one; if none are wanted, it asks for nothing. -/
theorem createTransactions_balanced {σ : Type} (answer : Environment σ) (settings : Settings)
    (patience : Nat) (wanted : Option Int) (start : σ) :
    let run := (createTransactions settings patience wanted).run answer start
    let moments := (notedDrive settings patience wanted).moments answer start []
    ((notedDrive settings patience wanted).forget = createTransactions settings patience wanted ∧
      (∀ m ∈ moments, Balanced m.past m.note m.request) ∧
      (∀ before e after, run.events = before ++ e :: after →
        ∃ note, ⟨before, note, some e.request⟩ ∈ moments) ∧
      ∀ f, run.outcome = .failed f → ∃ note, ⟨run.events, note, none⟩ ∈ moments) ∧
    (∀ made, run.outcome = .done made →
      (∃ count, wanted = some count ∧ (made : Int) = max 0 count) ∧
        handOffs run.events = made ∧ completions run.events = made ∧
        ∀ e, lastCall? run.events = some e → e.handsOff = true) ∧
    ∀ count, wanted = some count → count ≤ 0 → run = ⟨[], start, .done 0⟩ := by
  intro run moments
  have hforget : (notedDrive settings patience wanted).forget =
      createTransactions settings patience wanted := forget_notedDrive patience wanted
  have hkeeps : (notedDrive settings patience wanted).Keeps Balanced
      (fun made later => enough wanted made = true ∧ BetweenRounds wanted made later) [] :=
    notedDrive_balanced patience wanted
  refine ⟨⟨hforget, hkeeps.moments answer start, ?_, ?_⟩, ?_, ?_⟩
  · intro before e after hevents
    exact Noted.exists_moment answer _ start [] (by rw [hforget]; exact hevents)
  · intro f hfailed
    have hlast := Noted.exists_moment_of_failed answer (notedDrive settings patience wanted) start
      [] (by rw [hforget]; exact hfailed)
    rwa [hforget] at hlast
  · intro made houtcome
    have hleads : (createTransactions settings patience wanted).Leads run.events (.done made) :=
      houtcome ▸ Script.leads_run answer _ start
    have hreturns : (createTransactions settings patience wanted).ReturnsOnly
        fun made => ∃ count, wanted = some count ∧ made = count.toNat :=
      createTransactionsFrom_returnsOnly fun _ _ => Nat.zero_le _
    obtain ⟨count, hcount, hmade⟩ := hreturns.of_leads hleads
    obtain ⟨henough, hagree, hlast⟩ := hkeeps.returns (by rw [hforget]; exact hleads)
    exact ⟨⟨count, hcount, by omega⟩, hagree.handOffs, hagree.completions, hlast henough⟩
  · rintro count rfl hcount
    have hnone : createTransactions settings patience (some count) = .done 0 :=
      createTransactionsFrom_of_enough (enough_eq_true_iff.mpr ⟨count, rfl, hcount⟩)
    change (createTransactions settings patience (some count)).run answer start = _
    rw [hnone]
    rfl

/-- Where the handler fails, a transaction is completed and not counted. A drive that is done has
counted all, and none if fewer than none are wanted. -/
theorem createTransactions_balanced_rehearsed :
    (∃ (past : List Event) (note : Note), note.counted = 0 ∧ completions past = 1 ∧
      HandOffOpen past none ∧ Balanced past note none) ∧
    (∃ (events : List Event) (after : State),
      (createTransactions (plainSettings .account) 3 (some 1)).run (answer .plain)
        (.holding [("a", 100), ("b", 50)]) = ⟨events, after, .done 1⟩ ∧
      handOffs events = 1 ∧ completions events = 1) ∧
    (createTransactions (plainSettings .account) 3 (some (-1))).run (answer .plain)
      (.holding []) = ⟨[], .holding [], .done 0⟩ := by
  let start : State := .holding [("a", 100), ("b", 50)]
  refine ⟨?_, ?_, ?_⟩
  · let error : AdapterError := ⟨.runtime, "full"⟩
    let faulty : State :=
      { start with faults := [("transaction_created", ⟨.raised error, none⟩)] }
    let run := (createTransactions (plainSettings .account) 3 (some 1)).run (answer .plain) faulty
    have hrun : (run.outcome, handOffs run.events, completions run.events) =
        (.failed (.adapter .announceTransaction error), 0, 1) := by decide +kernel
    simp only [Prod.mk.injEq] at hrun
    obtain ⟨hfailed, hhandOffs, hcompletions⟩ := hrun
    obtain ⟨⟨-, hmoments, -, hfails⟩, -⟩ :=
      createTransactions_balanced (answer .plain) (plainSettings .account) 3 (some 1) faulty
    obtain ⟨note, hmoment⟩ := hfails _ hfailed
    have hbalanced : Balanced run.events note none := hmoments _ hmoment
    refine ⟨run.events, note, hbalanced.counted.trans hhandOffs, hcompletions, ?_, hbalanced⟩
    by_contra hclosed
    exact absurd (hcompletions.symm.trans ((hbalanced.closed hclosed).trans hhandOffs)) (by decide)
  · let run := (createTransactions (plainSettings .account) 3 (some 1)).run (answer .plain) start
    have hdone : run.outcome = .done 1 := by decide +kernel
    obtain ⟨-, hreturns, -⟩ :=
      createTransactions_balanced (answer .plain) (plainSettings .account) 3 (some 1) start
    obtain ⟨-, hhandOffs, hcompletions, -⟩ := hreturns 1 hdone
    exact ⟨run.events, run.state, by rw [← hdone], hhandOffs, hcompletions⟩
  · obtain ⟨-, -, hnone⟩ := createTransactions_balanced (answer .plain) (plainSettings .account) 3
      (some (-1)) (.holding [])
    exact hnone (-1) rfl (by decide)

end Drive

end TransferDrill

import TransferDrill.Proofs.Drive.Discipline
import TransferDrill.Proofs.Rehearsal.Plain

/-!
# The first fault of a run

What is thrown first in a run of the drive is its last event, and the failure of the run reports
it. The drive tries again only for shortages that sizing found when all its calls had returned.
-/

namespace TransferDrill

/-- A failure is raised from a reason that was thrown at an event after others: it is one of
constructing transfers and no shortage, its message begins with that of the reason, and its cause
is the reason or, where awaited funds were looked up, a failure with this cause. -/
structure Failure.RaisedFrom (f : Failure) (past : List Event) (e : Event) (reason : Reason) :
    Prop where
  construction : f.isConstruction = true
  noShortage : ∀ s, f ≠ .shortage s
  message : ∃ rest, f.message = reason.message ++ rest
  direct : ¬AwaitsFunds past e → f.cause? = some reason
  through : AwaitsFunds past e → ∃ inner : Failure,
    f.cause? = some (.failure inner) ∧ inner.isConstruction = true ∧ inner.cause? = some reason

/-- What was thrown at an event after others leaves a drive as a failure: a cancellation as it is,
anything else as what the failure is raised from. -/
def Thrown.Leaves (t : Thrown) (past : List Event) (e : Event) (f : Failure) : Prop :=
  match t with
  | .cancelled c => f = .cancelled c
  | .ordinary reason => f.RaisedFrom past e reason

/-- A failure that reports a reason is raised from it. -/
theorem Failure.raisedFrom_of_reports {past : List Event} {e : Event} {reason : Reason}
    {f : Failure} (h : Reports past e (.ordinary reason) f) : f.RaisedFrom past e reason := by
  by_cases hawaits : AwaitsFunds past e
  · obtain ⟨inner, hcause, hinner⟩ := h.2 hawaits
    obtain ⟨hconstruction, hnoShortage⟩ := isConstruction_of_cause hcause
    obtain ⟨hinside, -⟩ := isConstruction_of_cause hinner
    obtain ⟨later, hlater⟩ := message_of_cause hcause
    obtain ⟨first, hfirst⟩ := message_of_cause hinner
    have hmessage : f.message = reason.message ++ (first ++ later) := by
      rw [hlater, ← String.append_assoc, ← hfirst]
      rfl
    exact ⟨hconstruction, hnoShortage, ⟨_, hmessage⟩, fun hnot => absurd hawaits hnot,
      fun _ => ⟨inner, hcause, hinside, hinner⟩⟩
  · have hcause : f.cause? = some reason := h.1 hawaits
    obtain ⟨hconstruction, hnoShortage⟩ := isConstruction_of_cause hcause
    exact ⟨hconstruction, hnoShortage, message_of_cause hcause, fun _ => hcause,
      fun hdoes => absurd hdoes hawaits⟩

/-- What a failure reports has left the drive as this failure. -/
theorem Reports.leaves {past : List Event} {e : Event} {t : Thrown} {f : Failure}
    (h : Reports past e t f) : t.Leaves past e f := by
  cases t with
  | ordinary reason => exact Failure.raisedFrom_of_reports h
  | cancelled c =>
    by_cases hawaits : AwaitsFunds past e
    · exact h.2 hawaits
    · exact h.1 hawaits

/-- Where a script fails fast, nothing comes after something thrown, which the script's failure
reports. -/
theorem Script.Disciplined.of_leads {α : Type} {script : Script α} (h : script.Disciplined)
    {events before after : List Event} {outcome : Outcome α} {e : Event} {t : Thrown}
    (hleads : script.Leads events outcome) (hevents : events = before ++ e :: after)
    (hthrown : e.thrown? = some t) :
    after = [] ∧ ∃ f, outcome = .failed f ∧ Reports before e t f := by
  have hkeeps := h [] quiet_nil
  have hloud : ∀ {past : List Event}, e ∈ past → ¬Quiet past := by
    intro past hmem hquiet
    rw [hquiet e hmem] at hthrown
    cases hthrown
  have hlast : after = [] := by
    cases after with
    | nil => rfl
    | cons next later =>
      have hquiet : Quiet ([] ++ (before ++ [e])) :=
        hkeeps.guarantees hleads (fun _ _ => trivial) (by rw [hevents, List.append_assoc]; rfl)
      exact absurd hquiet (hloud (by simp))
  subst hlast
  have hends : EndsFast Reports (fun _ _ => True) outcome ([] ++ events) :=
    hkeeps.ends hleads fun _ _ => trivial
  rw [List.nil_append, hevents] at hends
  refine ⟨rfl, ?_⟩
  cases outcome with
  | done a => exact absurd hends.1 (hloud (by simp))
  | unfinished => exact absurd hends (hloud (by simp))
  | failed f =>
    rcases hends with hquiet | ⟨earlier, last, t', heq, -, hlast, hreports⟩
    · exact absurd hquiet (hloud (by simp))
    · obtain ⟨rfl, hsame⟩ := List.append_inj' heq rfl
      obtain rfl : e = last := List.head_eq_of_cons_eq hsame
      obtain rfl : t = t' := Option.some.inj (hthrown.symm.trans hlast)
      exact ⟨f, rfl, hreports⟩

/-- A shortage that is caught comes after quiet events. -/
theorem Script.Disciplined.quiet_of_caught {α : Type} {script : Script α} (h : script.Disciplined)
    {events : List Event} {s : Shortage}
    (hleads : script.catchShortage.Leads events (.done (.error s))) : Quiet events := by
  have hends := (h.catchShortage [] quiet_nil).ends hleads fun _ _ => trivial
  exact hends.1

namespace Drive

open Rehearsal

variable {settings : Settings}

/-! ## Who runs short -/

/-- Failures by which the drive does not run short. -/
def NotShort (f : Failure) : Prop := ∀ s, f ≠ .shortage s

/-- Looking up an address never runs short. -/
theorem holding_notShort (address : String) : (holding settings address).FailsOnly NotShort := by
  unfold holding
  cases settings.accounting with
  | account => exact .bind (.attempt (fun _ => nofun) fun _ => nofun) fun _ => trivial
  | utxo => exact .attempt (fun _ => nofun) fun _ => nofun

/-- Finding recipients never runs short. -/
theorem findRecipients_notShort (sender : String) :
    (findRecipients settings sender).FailsOnly NotShort := by
  have hdivide (addresses : List String) : (divide settings addresses).FailsOnly NotShort := by
    induction addresses with
    | nil => trivial
    | cons address rest ih =>
      refine .bind (holding_notShort address) fun held => .bind ih fun recipients => ?_
      split <;> trivial
  refine .bind (.attempt (fun _ => nofun) fun _ => nofun) fun addresses => ?_
  cases settings.accounting with
  | account => exact hdivide _
  | utxo => trivial

/-- Size a transfer to one of some recipients. -/
def sizeFor (settings : Settings) (sender : Sender) (recipients : Recipients) : Script Transfer :=
  match settings.accounting with
  | .utxo => sizeCoin settings sender.address sender.balance recipients.others sender.coin
  | .account => sizeAccount settings sender.address sender.balance recipients

/-- To size a transfer is to find recipients and to size it for them. -/
theorem sizeTransfer_eq (sender : Sender) :
    sizeTransfer settings sender =
      (findRecipients settings sender.address).bind (sizeFor settings sender) := rfl

/-- A transfer runs short only where recipients were found and it was to be sized for them. -/
theorem sizeTransfer_leads_shortage {sender : Sender} {events : List Event} {s : Shortage}
    (h : (sizeTransfer settings sender).Leads events (.failed (.shortage s))) :
    ∃ recipients found sized, events = found ++ sized ∧
      (findRecipients settings sender.address).Leads found (.done recipients) ∧
      (sizeFor settings sender recipients).Leads sized (.failed (.shortage s)) := by
  rw [sizeTransfer_eq, Script.leads_bind_failed_iff] at h
  rcases h with hfound | ⟨recipients, found, sized, hfound, hsized, rfl⟩
  · exact absurd rfl ((findRecipients_notShort sender.address).of_leads hfound s)
  · exact ⟨recipients, found, sized, rfl, hfound, hsized⟩

/-- Whatever is thrown first in a run of the drive is its last event and leaves as its failure.
Where the drive tries again for a shortage, nothing was thrown while the transfer was sized, and
the shortage is of sizing itself, once the recipients were found. -/
theorem createTransactions_failsFast {σ : Type} (answer : Environment σ) (settings : Settings)
    (patience : Nat) (wanted : Option Int) (start : σ) :
    let run := (createTransactions settings patience wanted).run answer start
    (∀ before e after t, run.events = before ++ e :: after → e.thrown? = some t →
      after = [] ∧ ∃ f, run.outcome = .failed f ∧ t.Leaves before e f) ∧
    ∀ sender state events after s,
      (sizeTransfer settings sender).catchShortage.run answer state =
        ⟨events, after, .done (.error s)⟩ →
      Quiet events ∧ ∃ recipients found sized between, events = found ++ sized ∧
        (findRecipients settings sender.address).run answer state =
          ⟨found, between, .done recipients⟩ ∧
        (sizeFor settings sender recipients).run answer between =
          ⟨sized, after, .failed (.shortage s)⟩ := by
  constructor
  · intro before e after t hevents hthrown
    obtain ⟨hleads, -⟩ :=
      (Script.run_eq_iff answer (createTransactions settings patience wanted) start _ _ _).mp rfl
    obtain ⟨hlast, f, houtcome, hreports⟩ :=
      (createTransactionsFrom_disciplined patience wanted patience 0).of_leads hleads hevents
        hthrown
    exact ⟨hlast, f, houtcome, hreports.leaves⟩
  · intro sender state events after s hrun
    obtain ⟨hleads, hgives⟩ := (Script.run_eq_iff ..).mp hrun
    have hquiet := (sizeTransfer_disciplined sender).quiet_of_caught hleads
    have hshort : (sizeTransfer settings sender).Leads events (.failed (.shortage s)) := by
      simpa using Script.leads_catchShortage_done_iff.mp hleads
    obtain ⟨recipients, found, sized, rfl, hfound, hsized⟩ := sizeTransfer_leads_shortage hshort
    obtain ⟨between, hfirst, hsecond⟩ := answer.gives_append_iff.mp hgives
    exact ⟨hquiet, recipients, found, sized, between, rfl,
      (Script.run_eq_iff ..).mpr ⟨hfound, hfirst⟩, (Script.run_eq_iff ..).mpr ⟨hsized, hsecond⟩⟩

/-- In a rehearsal without funds, the adapter claims a shortage when the funds of the first address
are looked up; the drive does not take it for its own. -/
theorem createTransactions_failsFast_rehearsed :
    ∃ (before : List Event) (e : Event) (f : Failure), AwaitsFunds before e ∧
      e.thrown? = some (.ordinary (.adapter ⟨.shortage, "no node"⟩)) ∧
      f = .funding "new1" (.adapter (.fetchBalance "new1") ⟨.shortage, "no node"⟩) ∧
      f.RaisedFrom before e (.adapter ⟨.shortage, "no node"⟩) := by
  let error : AdapterError := ⟨.shortage, "no node"⟩
  let start : State :=
    { State.holding [] with faults := [("account_balance", ⟨.raised error, none⟩)] }
  let run := (createTransactions (plainSettings .account) 3 none).run (answer .plain) start
  have hlast : (run.events.getLast?.bind Event.thrown?,
      run.events.getLast?.bind Event.lookedUp?, awaited? run.events.dropLast, run.outcome) =
      (some (.ordinary (.adapter error)), some "new1", some "new1",
        .failed (.funding "new1" (.adapter (.fetchBalance "new1") error))) := by decide +kernel
  simp only [Prod.mk.injEq, Option.bind_eq_some_iff] at hlast
  obtain ⟨⟨e, he, hthrown⟩, ⟨e', he', haddress⟩, hawaited, houtcome⟩ := hlast
  obtain rfl : e = e' := Option.some.inj (he.symm.trans he')
  have hevents : run.events = run.events.dropLast ++ e :: [] :=
    (List.dropLast_append_getLast? e he).symm
  obtain ⟨-, f, hfailed, hleaves⟩ :=
    (createTransactions_failsFast (answer .plain) (plainSettings .account) 3 none start).1 _ e [] _
      hevents hthrown
  rw [houtcome] at hfailed
  cases hfailed
  exact ⟨_, e, _, ⟨"new1", haddress, hawaited⟩, hthrown, rfl, hleaves⟩

end Drive

end TransferDrill

import TransferDrill.Proofs.Drive.Cause
import TransferDrill.Proofs.Drive.Contract

/-!
# Failing fast

The first thing that is thrown ends a drive: nothing is asked for afterwards, and the failure is
the cancellation itself or is raised from what was thrown, directly or, while funds are awaited,
through one failure in between. So a shortage on which the drive tries again is always one that it
found itself.
-/

namespace TransferDrill

/-- A failure reports what was thrown, with nothing in between. -/
def Thrown.ReportedBy : Thrown → Failure → Prop
  | .cancelled c, f => f = .cancelled c
  | .ordinary reason, f => f.cause? = some reason

/-- A failure reports what was thrown through another failure. -/
def Thrown.ReportedThrough : Thrown → Failure → Prop
  | .cancelled c, f => f = .cancelled c
  | .ordinary reason, f => ∃ inner : Failure,
      f.cause? = some (.failure inner) ∧ inner.cause? = some reason

/-- A failure reports what was thrown at an event after others. -/
def Reports (past : List Event) (e : Event) (t : Thrown) (f : Failure) : Prop :=
  (¬AwaitsFunds past e → t.ReportedBy f) ∧ (AwaitsFunds past e → t.ReportedThrough f)

/-- Every event of a drive comes after quiet ones. -/
def quietContract : Contract where
  relies _ := True
  guarantees past _ := Quiet past

namespace Script

variable {α β : Type} {reports : List Event → Event → Thrown → Failure → Prop}
  {post : α → List Event → Prop} {past : List Event}

/-- How a script ends that fails fast: quietly, or with a report of what was thrown last. -/
def EndsFast (reports : List Event → Event → Thrown → Failure → Prop)
    (post : α → List Event → Prop) : Outcome α → List Event → Prop
  | .done a, past => Quiet past ∧ post a past
  | .unfinished, past => Quiet past
  | .failed f, past => Quiet past ∨ ∃ earlier e t, past = earlier ++ [e] ∧ Quiet earlier ∧
      e.thrown? = some t ∧ reports earlier e t f

/-- From a past, a script asks for nothing after something was thrown, and reports that. -/
def FailsFast (reports : List Event → Event → Thrown → Failure → Prop)
    (post : α → List Event → Prop) (script : Script α) (past : List Event) : Prop :=
  script.Keeps quietContract (EndsFast reports post) past

/-- A value fails fast in a quiet past. -/
theorem FailsFast.done {a : α} (hquiet : Quiet past) (hpost : post a past) :
    (Script.done a).FailsFast reports post past := ⟨hquiet, hpost⟩

/-- A failure of the drive's own fails fast in a quiet past. -/
theorem FailsFast.failed {f : Failure} (hquiet : Quiet past) :
    (Script.failed f : Script α).FailsFast reports post past := .inl hquiet

/-- One script after another fails fast if each does. -/
theorem FailsFast.bind {mid : α → List Event → Prop} {post : β → List Event → Prop}
    {script : Script α} {next : α → Script β} (h : script.FailsFast reports mid past)
    (hnext : ∀ a past, Quiet past → mid a past → (next a).FailsFast reports post past) :
    (script.bind next).FailsFast reports post past := by
  refine keeps_bind_iff.mpr (h.mono ?_)
  intro outcome past hends
  cases outcome with
  | done a => exact hnext a past hends.1 hends.2
  | failed f => exact hends
  | unfinished => exact hends

/-- Less may be said of the end. -/
theorem FailsFast.weaken {weaker : α → List Event → Prop} {script : Script α}
    (h : script.FailsFast reports post past) (hpost : ∀ a past, post a past → weaker a past) :
    script.FailsFast reports weaker past := by
  refine h.mono ?_
  intro outcome past hends
  cases outcome with
  | done a => exact ⟨hends.1, hpost a past hends.2⟩
  | failed f => exact hends
  | unfinished => exact hends

/-- A request that never throws fails fast. -/
theorem FailsFast.request {q : Ask} {post : q.Reply → List Event → Prop} (hquiet : Quiet past)
    (hnever : ∀ reply, Event.thrown? ⟨q, reply⟩ = none)
    (hpost : ∀ reply, post reply (past ++ [⟨q, reply⟩])) :
    (Script.request q).FailsFast reports post past :=
  fun reply _ => ⟨hquiet, hquiet.append_singleton (hnever reply), hpost reply⟩

/-- A call fails fast if the failure is raised from the adapter's error. -/
theorem FailsFast.attempt {c : Call} {report : AdapterError → Failure}
    {post : c.Value → List Event → Prop} (hquiet : Quiet past)
    (hreports : ∀ reply t f, Thrown.ReportedBy t f → reports past ⟨.call c, reply⟩ t f)
    (hcause : ∀ e, (report e).cause? = some (.adapter e))
    (hnever : ∀ value, Event.thrown? ⟨.call c, .ok value⟩ = none)
    (hpost : ∀ value, post value (past ++ [⟨.call c, .ok value⟩])) :
    (Script.attempt c report).FailsFast reports post past := by
  intro reply _
  refine ⟨hquiet, ?_⟩
  rcases reply with (cancellation | e) | value
  · exact .inr ⟨past, _, .cancelled cancellation, rfl, hquiet, rfl, hreports _ _ _ rfl⟩
  · exact .inr ⟨past, _, .ordinary (.adapter e), rfl, hquiet, rfl, hreports _ _ _ (hcause e)⟩
  · exact ⟨hquiet.append_singleton (hnever value), hpost value⟩

/-- After a call that returns, the rest has to fail fast. -/
theorem FailsFast.attempt_bind {c : Call} {report : AdapterError → Failure}
    {next : c.Value → Script α} (hquiet : Quiet past)
    (hreports : ∀ reply t f, Thrown.ReportedBy t f → reports past ⟨.call c, reply⟩ t f)
    (hcause : ∀ e, (report e).cause? = some (.adapter e))
    (hnever : ∀ value, Event.thrown? ⟨.call c, .ok value⟩ = none)
    (hnext : ∀ value, Quiet (past ++ [⟨.call c, .ok value⟩]) →
      (next value).FailsFast reports post (past ++ [⟨.call c, .ok value⟩])) :
    ((Script.attempt c report).bind next).FailsFast reports post past := by
  have hcall : (Script.attempt c report).FailsFast reports
      (fun value later => later = past ++ [⟨.call c, .ok value⟩]) past :=
    .attempt hquiet hreports hcause hnever fun _ => rfl
  refine hcall.bind ?_
  intro value _ hquiet h
  subst h
  exact hnext value hquiet

/-- After a request that never throws, the rest has to fail fast. -/
theorem FailsFast.request_bind {q : Ask} {next : q.Reply → Script α} (hquiet : Quiet past)
    (hnever : ∀ reply, Event.thrown? ⟨q, reply⟩ = none)
    (hnext : ∀ reply, Quiet (past ++ [⟨q, reply⟩]) →
      (next reply).FailsFast reports post (past ++ [⟨q, reply⟩])) :
    ((Script.request q).bind next).FailsFast reports post past := by
  have hrequest : (Script.request q).FailsFast reports
      (fun reply later => later = past ++ [⟨q, reply⟩]) past :=
    .request hquiet hnever fun _ => rfl
  refine hrequest.bind ?_
  intro reply _ hquiet h
  subst h
  exact hnext reply hquiet

/-- A sleep that is cut short ends a script. -/
theorem FailsFast.sleep {seconds : Binary64} {post : Unit → List Event → Prop}
    (hquiet : Quiet past)
    (hreports : ∀ e c, reports past e (.cancelled c) (.cancelled c))
    (hpost : ∀ reply, post () (past ++ [⟨.sleep seconds, reply⟩])) :
    (Script.sleep seconds).FailsFast reports post past := by
  intro reply _
  refine ⟨hquiet, ?_⟩
  rcases reply with cancellation | _
  · exact .inr ⟨past, _, .cancelled cancellation, rfl, hquiet, rfl, hreports _ cancellation⟩
  · exact ⟨hquiet.append_singleton rfl, hpost _⟩

/-- A value that is missing for a reason of the drive's own ends a script quietly. -/
theorem FailsFast.ofExcept {ε : Type} {report : ε → Failure} {result : Except ε α}
    (hquiet : Quiet past) (hpost : ∀ a, result = .ok a → post a past) :
    (Script.ofExcept report result).FailsFast reports post past := by
  cases result with
  | ok a => exact ⟨hquiet, hpost a rfl⟩
  | error e => exact .inl hquiet

/-- A condition fails fast: it asks for nothing. -/
theorem FailsFast.require {condition : Bool} {failure : Failure} {post : Unit → List Event → Prop}
    (hquiet : Quiet past) (hpost : post () past) :
    (Script.require condition failure).FailsFast reports post past := by
  cases condition with
  | true => exact ⟨hquiet, hpost⟩
  | false => exact .inl hquiet

/-- A script fails fast whose failures are reported otherwise, if what is thrown still is. -/
theorem FailsFast.reportAs {inside : List Event → Event → Thrown → Failure → Prop}
    {change : Failure → Failure} {script : Script α} (h : script.FailsFast inside post past)
    (hchange : ∀ earlier e t f, inside earlier e t f → reports earlier e t (change f)) :
    (script.reportAs change).FailsFast reports post past := by
  refine keeps_reportAs_iff.mpr (h.mono ?_)
  intro outcome past hends
  cases outcome with
  | done a => exact hends
  | unfinished => exact hends
  | failed f =>
    rcases hends with hquiet | ⟨earlier, e, t, rfl, hquiet, hthrown, hreports⟩
    · exact .inl hquiet
    · exact .inr ⟨earlier, e, t, rfl, hquiet, hthrown, hchange _ _ _ _ hreports⟩

/-- Where shortages report nothing thrown, one that is caught comes after quiet events only. -/
theorem FailsFast.catchShortage {script : Script α} (h : script.FailsFast reports post past)
    (hreports : ∀ earlier e t s, ¬reports earlier e t (.shortage s)) :
    script.catchShortage.FailsFast reports (fun _ _ => True) past := by
  refine keeps_catchShortage_iff.mpr (h.mono ?_)
  intro outcome past hends
  cases outcome with
  | done a => exact ⟨hends.1, trivial⟩
  | unfinished => exact hends
  | failed f =>
    cases f with
    | shortage s =>
      rcases hends with hquiet | ⟨earlier, e, t, -, -, -, hshortage⟩
      · exact ⟨hquiet, trivial⟩
      · exact absurd hshortage (hreports earlier e t s)
    | _ => exact hends

end Script

end TransferDrill

import TransferDrill.Drive.Script
import Mathlib.Tactic.Tauto

/-!
# The paths of a script

A path is what may happen when a script is run: requests with any replies of their types, and how
the script ends. A run is a path whose replies are those of the environment, so what holds of all
paths holds of all runs, and a question about runs splits into one about the script and one about
the environment.
-/

namespace TransferDrill

/-- A script that ends without a value ends what would follow in the same way. -/
inductive Outcome.Stops {α β : Type} : Outcome α → Outcome β → Prop
  | failed (f : Failure) : Stops (.failed f) (.failed f)
  | unfinished : Stops .unfinished .unfinished

/-- How a call that does not return is reported; cancellation goes through. -/
def Fault.failure (report : AdapterError → Failure) : Fault → Failure
  | .cancelled c => .cancelled c
  | .raised e => report e

namespace Script

variable {α β : Type}

/-- A script leads along events to an outcome. -/
inductive Leads : Script α → List Event → Outcome α → Prop
  | done (a : α) : Leads (.done a) [] (.done a)
  | failed (f : Failure) : Leads (.failed f) [] (.failed f)
  | unfinished : Leads .unfinished [] .unfinished
  | ask {q : Ask} {next : q.Reply → Script α} {reply : q.Reply} {events : List Event}
      {outcome : Outcome α} (h : Leads (next reply) events outcome) :
      Leads (.ask q next) (⟨q, reply⟩ :: events) outcome

/-- A value is led to by no event. -/
@[simp] theorem leads_done_iff {a : α} {events : List Event} {outcome : Outcome α} :
    (Script.done a).Leads events outcome ↔ events = [] ∧ outcome = .done a :=
  ⟨fun h => by cases h; exact ⟨rfl, rfl⟩, fun ⟨h, h'⟩ => h ▸ h' ▸ .done a⟩

/-- A failure is led to by no event. -/
@[simp] theorem leads_failed_iff {f : Failure} {events : List Event} {outcome : Outcome α} :
    (Script.failed f).Leads events outcome ↔ events = [] ∧ outcome = .failed f :=
  ⟨fun h => by cases h; exact ⟨rfl, rfl⟩, fun ⟨h, h'⟩ => h ▸ h' ▸ .failed f⟩

/-- Where a script is cut off, nothing more happens. -/
@[simp] theorem leads_unfinished_iff {events : List Event} {outcome : Outcome α} :
    (Script.unfinished : Script α).Leads events outcome ↔ events = [] ∧ outcome = .unfinished :=
  ⟨fun h => by cases h; exact ⟨rfl, rfl⟩, fun ⟨h, h'⟩ => h ▸ h' ▸ .unfinished⟩

/-- A request is the first event, and a reply to it decides how the path goes on. -/
theorem leads_ask_iff {q : Ask} {next : q.Reply → Script α} {events : List Event}
    {outcome : Outcome α} :
    (Script.ask q next).Leads events outcome ↔
      ∃ reply later, events = ⟨q, reply⟩ :: later ∧ (next reply).Leads later outcome :=
  ⟨fun h => by cases h with | ask h => exact ⟨_, _, rfl, h⟩, fun ⟨_, _, h, h'⟩ => h ▸ .ask h'⟩

/-- A path of one script after another to a value is a path of each to a value. -/
theorem leads_bind_done_iff {script : Script α} {next : α → Script β} {events : List Event}
    {b : β} :
    (script.bind next).Leads events (.done b) ↔
      ∃ a first second, script.Leads first (.done a) ∧ (next a).Leads second (.done b) ∧
        events = first ++ second := by
  induction script generalizing events with
  | done a =>
    constructor
    · exact fun h => ⟨a, [], events, .done a, h, rfl⟩
    · intro h
      obtain ⟨_, _, second, h, h', rfl⟩ := h
      cases h
      exact h'
  | failed f => simp
  | unfinished => simp
  | ask q more ih =>
    rw [ask_bind, leads_ask_iff]
    constructor
    · intro h
      obtain ⟨reply, later, rfl, h⟩ := h
      obtain ⟨a, first, second, hfirst, hsecond, rfl⟩ := (ih reply).mp h
      exact ⟨a, ⟨q, reply⟩ :: first, second, .ask hfirst, hsecond, rfl⟩
    · intro h
      obtain ⟨a, first, second, hfirst, hsecond, rfl⟩ := h
      obtain ⟨reply, later, rfl, h⟩ := leads_ask_iff.mp hfirst
      exact ⟨reply, later ++ second, rfl, (ih reply).mpr ⟨a, later, second, h, hsecond, rfl⟩⟩

/-- A path of one script after another to a failure is one of the first, or goes on from a value of
the first to a failure of the second. -/
theorem leads_bind_failed_iff {script : Script α} {next : α → Script β} {events : List Event}
    {f : Failure} :
    (script.bind next).Leads events (.failed f) ↔ script.Leads events (.failed f) ∨
      ∃ a first second, script.Leads first (.done a) ∧ (next a).Leads second (.failed f) ∧
        events = first ++ second := by
  induction script generalizing events with
  | done a =>
    constructor
    · exact fun h => .inr ⟨a, [], events, .done a, h, rfl⟩
    · intro h
      rcases h with h | ⟨_, _, second, h, h', rfl⟩
      · simp at h
      · cases h
        exact h'
  | failed g => simp
  | unfinished => simp
  | ask q more ih =>
    rw [ask_bind, leads_ask_iff]
    constructor
    · intro h
      obtain ⟨reply, later, rfl, h⟩ := h
      rcases (ih reply).mp h with hfirst | ⟨a, first, second, hfirst, hsecond, rfl⟩
      · exact .inl (.ask hfirst)
      · exact .inr ⟨a, ⟨q, reply⟩ :: first, second, .ask hfirst, hsecond, rfl⟩
    · intro h
      rcases h with hfirst | ⟨a, first, second, hfirst, hsecond, rfl⟩
      · obtain ⟨reply, later, rfl, h⟩ := leads_ask_iff.mp hfirst
        exact ⟨reply, later, rfl, (ih reply).mpr (.inl h)⟩
      · obtain ⟨reply, later, rfl, h⟩ := leads_ask_iff.mp hfirst
        have hnext := (ih reply).mpr (.inr ⟨a, later, second, h, hsecond, rfl⟩)
        exact ⟨reply, later ++ second, rfl, hnext⟩

/-- A path of one script after another goes on from a value of the first, or is one of the first to
an end at which both stop. -/
theorem leads_bind {script : Script α} {next : α → Script β} {events : List Event}
    {outcome : Outcome β} (h : (script.bind next).Leads events outcome) :
    (∃ a first second, script.Leads first (.done a) ∧ (next a).Leads second outcome ∧
      events = first ++ second) ∨
      ∃ cut : Outcome α, cut.Stops outcome ∧ script.Leads events cut := by
  induction script generalizing events with
  | done a => exact .inl ⟨a, [], events, .done a, h, rfl⟩
  | failed f =>
    obtain ⟨rfl, rfl⟩ := leads_failed_iff.mp h
    exact .inr ⟨.failed f, .failed f, .failed f⟩
  | unfinished =>
    obtain ⟨rfl, rfl⟩ := leads_unfinished_iff.mp h
    exact .inr ⟨.unfinished, .unfinished, .unfinished⟩
  | ask q more ih =>
    obtain ⟨reply, later, rfl, hlater⟩ := leads_ask_iff.mp h
    rcases ih reply hlater with ⟨a, first, second, hfirst, hsecond, rfl⟩ | ⟨cut, hcut, hleads⟩
    · exact .inl ⟨a, ⟨q, reply⟩ :: first, second, .ask hfirst, hsecond, rfl⟩
    · exact .inr ⟨cut, hcut, .ask hleads⟩

/-- A path that begins with a call stops with a report of the fault if the call does not return, and
goes on if it does. -/
theorem leads_attempt_bind {c : Call} {report : AdapterError → Failure}
    {next : c.Value → Script β} {events : List Event} {outcome : Outcome β}
    (h : ((attempt c report).bind next).Leads events outcome) :
    (∃ fault : Fault, events = [⟨.call c, .error fault⟩] ∧
      outcome = .failed (fault.failure report)) ∨
      ∃ value later, events = ⟨.call c, .ok value⟩ :: later ∧ (next value).Leads later outcome := by
  rw [attempt, ask_bind, leads_ask_iff] at h
  obtain ⟨reply, later, rfl, hlater⟩ := h
  rcases reply with (cancellation | e) | value
  · obtain ⟨rfl, rfl⟩ := leads_failed_iff.mp hlater
    exact .inl ⟨.cancelled cancellation, rfl, rfl⟩
  · obtain ⟨rfl, rfl⟩ := leads_failed_iff.mp hlater
    exact .inl ⟨.raised e, rfl, rfl⟩
  · exact .inr ⟨value, later, rfl, hlater⟩

/-- A script that begins with a call leads to a value exactly if the call returns and the rest leads
there. -/
theorem leads_attempt_bind_iff {c : Call} {report : AdapterError → Failure}
    {next : c.Value → Script β} {events : List Event} {b : β} :
    ((attempt c report).bind next).Leads events (.done b) ↔
      ∃ value later, events = ⟨.call c, .ok value⟩ :: later ∧
        (next value).Leads later (.done b) := by
  rw [attempt, ask_bind, leads_ask_iff]
  constructor
  · intro h
    obtain ⟨reply, later, rfl, h⟩ := h
    rcases reply with (cancellation | e) | value
    · simp at h
    · simp at h
    · exact ⟨value, later, rfl, h⟩
  · intro h
    obtain ⟨value, later, rfl, h⟩ := h
    exact ⟨.ok value, later, rfl, h⟩

/-- A script that begins with a request leads to a value exactly if the rest leads there. -/
theorem leads_request_bind_iff {q : Ask} {next : q.Reply → Script β} {events : List Event} {b : β} :
    ((request q).bind next).Leads events (.done b) ↔
      ∃ reply later, events = ⟨q, reply⟩ :: later ∧ (next reply).Leads later (.done b) := by
  rw [request, ask_bind, leads_ask_iff]
  rfl

/-- A script that begins with a sleep leads to a value exactly if it is not cut short and the rest
leads there. -/
theorem leads_sleep_bind_iff {seconds : Binary64} {next : Unit → Script β} {events : List Event}
    {b : β} :
    ((sleep seconds).bind next).Leads events (.done b) ↔
      ∃ later, events = ⟨.sleep seconds, .ok ()⟩ :: later ∧ (next ()).Leads later (.done b) := by
  rw [sleep, ask_bind, leads_ask_iff]
  constructor
  · intro h
    obtain ⟨reply, later, rfl, h⟩ := h
    rcases reply with c | _
    · simp at h
    · exact ⟨later, rfl, h⟩
  · intro h
    obtain ⟨later, rfl, h⟩ := h
    exact ⟨.ok (), later, rfl, h⟩

/-- A script that begins with a condition leads to a value only if the condition holds. -/
theorem leads_require_bind_iff {condition : Bool} {failure : Failure} {next : Unit → Script β}
    {events : List Event} {b : β} :
    ((require condition failure).bind next).Leads events (.done b) ↔
      condition = true ∧ (next ()).Leads events (.done b) := by
  cases condition <;> simp [require]

/-- How failures are reported makes no difference to the paths to a value. -/
theorem leads_reportAs_done_iff {change : Failure → Failure} {script : Script α}
    {events : List Event} {a : α} :
    (script.reportAs change).Leads events (.done a) ↔ script.Leads events (.done a) := by
  induction script generalizing events with
  | done b => rfl
  | failed f => simp [reportAs]
  | unfinished => rfl
  | ask q next ih => simp only [reportAs, leads_ask_iff, ih]

/-- A script whose shortages are caught is done along its own paths and along those on which it
runs short. -/
theorem leads_catchShortage_done_iff {script : Script α} {events : List Event}
    {result : Except Shortage α} :
    script.catchShortage.Leads events (.done result) ↔
      (∃ a, result = .ok a ∧ script.Leads events (.done a)) ∨
        ∃ s, result = .error s ∧ script.Leads events (.failed (.shortage s)) := by
  induction script generalizing events with
  | done a => simp [catchShortage]; tauto
  | failed f => cases f <;> simp [catchShortage]; tauto
  | unfinished => simp [catchShortage]
  | ask q next ih =>
    simp only [catchShortage, leads_ask_iff, ih]
    constructor
    · intro h
      obtain ⟨reply, later, rfl, ⟨a, rfl, h⟩ | ⟨s, rfl, h⟩⟩ := h
      · exact .inl ⟨a, rfl, reply, later, rfl, h⟩
      · exact .inr ⟨s, rfl, reply, later, rfl, h⟩
    · intro h
      rcases h with ⟨a, rfl, reply, later, rfl, h⟩ | ⟨s, rfl, reply, later, rfl, h⟩
      · exact ⟨reply, later, rfl, .inl ⟨a, rfl, h⟩⟩
      · exact ⟨reply, later, rfl, .inr ⟨s, rfl, h⟩⟩

/-- A path of a script whose failures are reported otherwise is a path of the script, to the same
end or to the failure that is reported. -/
theorem leads_reportAs {change : Failure → Failure} {script : Script α} {events : List Event}
    {outcome : Outcome α} (h : (script.reportAs change).Leads events outcome) :
    script.Leads events outcome ∨
      ∃ f, outcome = .failed (change f) ∧ script.Leads events (.failed f) := by
  induction script generalizing events with
  | done a => exact .inl h
  | failed f =>
    obtain ⟨rfl, rfl⟩ := leads_failed_iff.mp h
    exact .inr ⟨f, rfl, .failed f⟩
  | unfinished => exact .inl h
  | ask q next ih =>
    obtain ⟨reply, later, rfl, hlater⟩ := leads_ask_iff.mp h
    rcases ih reply hlater with hsame | ⟨f, rfl, hfailed⟩
    · exact .inl (.ask hsame)
    · exact .inr ⟨f, rfl, .ask hfailed⟩

/-- A path of a script whose shortages are caught is a path of the script, to a value or a shortage
that it is done with, or to an end at which both stop. -/
theorem leads_catchShortage {script : Script α} {events : List Event}
    {outcome : Outcome (Except Shortage α)} (h : script.catchShortage.Leads events outcome) :
    (∃ a, outcome = .done (.ok a) ∧ script.Leads events (.done a)) ∨
      (∃ s, outcome = .done (.error s) ∧ script.Leads events (.failed (.shortage s))) ∨
      ∃ cut : Outcome α, cut.Stops outcome ∧ script.Leads events cut := by
  induction script generalizing events with
  | done a =>
    obtain ⟨rfl, rfl⟩ := leads_done_iff.mp h
    exact .inl ⟨a, rfl, .done a⟩
  | failed f =>
    cases f with
    | shortage s =>
      obtain ⟨rfl, rfl⟩ := leads_done_iff.mp h
      exact .inr (.inl ⟨s, rfl, .failed _⟩)
    | _ =>
      obtain ⟨rfl, rfl⟩ := leads_failed_iff.mp h
      exact .inr (.inr ⟨_, .failed _, .failed _⟩)
  | unfinished =>
    obtain ⟨rfl, rfl⟩ := leads_unfinished_iff.mp h
    exact .inr (.inr ⟨_, .unfinished, .unfinished⟩)
  | ask q next ih =>
    obtain ⟨reply, later, rfl, hlater⟩ := leads_ask_iff.mp h
    rcases ih reply hlater with ⟨a, rfl, hdone⟩ | ⟨s, rfl, hshort⟩ | ⟨cut, hcut, hleads⟩
    · exact .inl ⟨a, rfl, .ask hdone⟩
    · exact .inr (.inl ⟨s, rfl, .ask hshort⟩)
    · exact .inr (.inr ⟨cut, hcut, .ask hleads⟩)

/-! ## Requests that a script may make -/

/-- All requests that a script may make are of a kind. -/
def OnlyAsks (kind : Ask → Prop) : Script α → Prop
  | .ask q next => kind q ∧ ∀ reply, (next reply).OnlyAsks kind
  | _ => True

section OnlyAsks

variable {kind : Ask → Prop}

/-- Two scripts one after another ask for what each of them asks for. -/
theorem OnlyAsks.bind {script : Script α} {next : α → Script β} (h : script.OnlyAsks kind)
    (hnext : ∀ a, (next a).OnlyAsks kind) : (script.bind next).OnlyAsks kind := by
  induction script with
  | done a => exact hnext a
  | failed f => trivial
  | unfinished => trivial
  | ask q more ih => exact ⟨h.1, fun reply => ih reply (h.2 reply)⟩

/-- What asks only for some kind of request asks only for a wider one. -/
theorem OnlyAsks.mono {wider : Ask → Prop} (hkind : ∀ q, kind q → wider q) {script : Script α}
    (h : script.OnlyAsks kind) : script.OnlyAsks wider := by
  induction script with
  | ask q more ih => exact ⟨hkind q h.1, fun reply => ih reply (h.2 reply)⟩
  | _ => trivial

/-- Every script asks only for something. -/
theorem OnlyAsks.any {script : Script α} : script.OnlyAsks fun _ => True := by
  induction script with
  | ask q next ih => exact ⟨trivial, ih⟩
  | _ => trivial

/-- A request asks for itself. -/
theorem OnlyAsks.request {q : Ask} (h : kind q) : (Script.request q).OnlyAsks kind :=
  ⟨h, fun _ => trivial⟩

/-- A call asks for itself, however its failure is reported. -/
theorem OnlyAsks.attempt {c : Call} {report : AdapterError → Failure} (h : kind (.call c)) :
    (Script.attempt c report).OnlyAsks kind := by
  refine ⟨h, fun reply => ?_⟩
  rcases reply with (_ | _) | _ <;> trivial

/-- A sleep asks for itself. -/
theorem OnlyAsks.sleep {seconds : Binary64} (h : kind (.sleep seconds)) :
    (Script.sleep seconds).OnlyAsks kind := by
  refine ⟨h, fun reply => ?_⟩
  rcases reply with _ | _ <;> trivial

/-- A result that is at hand asks for nothing. -/
theorem OnlyAsks.ofExcept {ε : Type} {report : ε → Failure} {result : Except ε α} :
    (Script.ofExcept report result).OnlyAsks kind := by
  cases result <;> trivial

/-- A condition asks for nothing. -/
theorem OnlyAsks.require {condition : Bool} {failure : Failure} :
    (Script.require condition failure).OnlyAsks kind := by
  cases condition <;> trivial

/-- Reporting failures otherwise asks for nothing more. -/
theorem OnlyAsks.reportAs {change : Failure → Failure} {script : Script α}
    (h : script.OnlyAsks kind) : (script.reportAs change).OnlyAsks kind := by
  induction script with
  | ask q more ih => exact ⟨h.1, fun reply => ih reply (h.2 reply)⟩
  | _ => trivial

/-- Catching shortages asks for nothing more. -/
theorem OnlyAsks.catchShortage {script : Script α} (h : script.OnlyAsks kind) :
    script.catchShortage.OnlyAsks kind := by
  induction script with
  | done a => trivial
  | failed f => cases f <;> trivial
  | unfinished => trivial
  | ask q more ih => exact ⟨h.1, fun reply => ih reply (h.2 reply)⟩

/-- What a script does not ask for is asked for by what follows it. -/
theorem OnlyAsks.leads_bind {script : Script α} {next : α → Script β} {before after : List Event}
    {e : Event} {outcome : Outcome β} (h : script.OnlyAsks kind) (he : ¬kind e.request)
    (hleads : (script.bind next).Leads (before ++ e :: after) outcome) :
    ∃ a between, (next a).Leads (between ++ e :: after) outcome := by
  induction script generalizing before with
  | done a => exact ⟨a, before, hleads⟩
  | failed f => simp at hleads
  | unfinished => simp at hleads
  | ask q more ih =>
    obtain ⟨reply, later, hevents, hlater⟩ := leads_ask_iff.mp hleads
    cases before with
    | nil =>
      obtain ⟨rfl, -⟩ := List.cons.inj hevents
      exact absurd h.1 he
    | cons first before =>
      obtain ⟨-, rfl⟩ := List.cons.inj hevents
      exact ih reply (h.2 reply) hlater

/-- On a path of a script, all requests are of the kind of those that it may make. -/
theorem OnlyAsks.of_leads {script : Script α} {events : List Event} {outcome : Outcome α}
    (h : script.OnlyAsks kind) (hleads : script.Leads events outcome) :
    ∀ e ∈ events, kind e.request := by
  induction hleads with
  | ask hleads ih => exact List.forall_mem_cons.mpr ⟨h.1, ih (h.2 _)⟩
  | _ => simp

end OnlyAsks

/-! ## Failures that a script may end with -/

/-- All failures that a script may end with are of a kind. -/
def FailsOnly (kind : Failure → Prop) : Script α → Prop
  | .failed f => kind f
  | .ask _ next => ∀ reply, (next reply).FailsOnly kind
  | _ => True

section FailsOnly

variable {kind : Failure → Prop}

/-- Two scripts one after another fail as each of them does. -/
theorem FailsOnly.bind {script : Script α} {next : α → Script β} (h : script.FailsOnly kind)
    (hnext : ∀ a, (next a).FailsOnly kind) : (script.bind next).FailsOnly kind := by
  induction script with
  | done a => exact hnext a
  | failed f => exact h
  | unfinished => trivial
  | ask q more ih => exact fun reply => ih reply (h reply)

/-- A call fails by cancellation or as its report says. -/
theorem FailsOnly.attempt {c : Call} {report : AdapterError → Failure}
    (hcancelled : ∀ c, kind (.cancelled c)) (hreport : ∀ e, kind (report e)) :
    (Script.attempt c report).FailsOnly kind := by
  intro h
  rcases h with (cancellation | e) | value
  · exact hcancelled cancellation
  · exact hreport e
  · trivial

/-- A result at hand fails as its report says. -/
theorem FailsOnly.ofExcept {ε : Type} {report : ε → Failure} {result : Except ε α}
    (hreport : ∀ e, kind (report e)) : (Script.ofExcept report result).FailsOnly kind := by
  cases result with
  | ok a => trivial
  | error e => exact hreport e

/-- A path of a script to a failure is to one of the kind of those that it may end with. -/
theorem FailsOnly.of_leads {script : Script α} {events : List Event} {f : Failure}
    (h : script.FailsOnly kind) (hleads : script.Leads events (.failed f)) : kind f := by
  induction script generalizing events with
  | done a => simp at hleads
  | failed g =>
    obtain ⟨-, hfailed⟩ := leads_failed_iff.mp hleads
    cases hfailed
    exact h
  | unfinished => simp at hleads
  | ask q next ih =>
    obtain ⟨reply, later, -, hlater⟩ := leads_ask_iff.mp hleads
    exact ih reply (h reply) hlater

end FailsOnly

/-! ## Values that a script may end with -/

/-- All values that a script may end with are of a kind. -/
def ReturnsOnly (kind : α → Prop) : Script α → Prop
  | .done a => kind a
  | .ask _ next => ∀ reply, (next reply).ReturnsOnly kind
  | _ => True

section ReturnsOnly

variable {kind : α → Prop}

/-- Of two scripts one after another, the second decides what is returned. -/
theorem ReturnsOnly.bind {script : Script β} {next : β → Script α}
    (hnext : ∀ b, (next b).ReturnsOnly kind) : (script.bind next).ReturnsOnly kind := by
  induction script with
  | done b => exact hnext b
  | failed f => trivial
  | unfinished => trivial
  | ask q more ih => exact ih

/-- A path of a script to a value is to one of the kind of those that it may end with. -/
theorem ReturnsOnly.of_leads {script : Script α} {events : List Event} {a : α}
    (h : script.ReturnsOnly kind) (hleads : script.Leads events (.done a)) : kind a := by
  induction script generalizing events with
  | done b =>
    obtain ⟨-, hdone⟩ := leads_done_iff.mp hleads
    cases hdone
    exact h
  | failed f => simp at hleads
  | unfinished => simp at hleads
  | ask q next ih =>
    obtain ⟨reply, later, -, hlater⟩ := leads_ask_iff.mp hleads
    exact ih reply (h reply) hlater

/-- What follows a script matters only at the values that the script may end with. -/
theorem ReturnsOnly.bind_congr {script : Script α} {next other : α → Script β}
    (h : script.ReturnsOnly kind) (hnext : ∀ a, kind a → next a = other a) :
    script.bind next = script.bind other := by
  induction script with
  | done a => exact hnext a h
  | failed f => rfl
  | unfinished => rfl
  | ask q more ih => exact congrArg (Script.ask q) (funext fun reply => ih reply (h reply))

end ReturnsOnly

end Script

/-! ## Calls -/

/-- Whether an event is a call. -/
def Event.isCall (e : Event) : Bool :=
  match e.request with
  | .call _ => true
  | _ => false

/-- The last call among some events. -/
def lastCall? (events : List Event) : Option Event := (events.filter Event.isCall).getLast?

/-- One more event is the last call if it is a call at all. -/
@[simp] theorem lastCall?_append_singleton (past : List Event) (e : Event) :
    lastCall? (past ++ [e]) = if e.isCall then some e else lastCall? past := by
  by_cases h : e.isCall = true <;> simp [lastCall?, List.filter_append, h]

/-- Events that are no calls leave the last call as it was. -/
theorem lastCall?_append (past : List Event) {events : List Event}
    (h : ∀ e ∈ events, e.isCall = false) : lastCall? (past ++ events) = lastCall? past := by
  have hnone : events.filter Event.isCall = [] := List.filter_eq_nil_iff.mpr (by simpa using h)
  rw [lastCall?, List.filter_append, hnone, List.append_nil, lastCall?]

/-- The last call is one of the events. -/
theorem mem_of_lastCall? {events : List Event} {e : Event} (h : lastCall? events = some e) :
    e ∈ events :=
  (List.mem_filter.mp (List.mem_of_getLast? h)).1

/-! ## Runs -/

/-- The environment gives the replies of events one after another, and its state changes. -/
def Environment.Gives {σ : Type} (answer : Environment σ) : σ → List Event → σ → Prop
  | state, [], after => after = state
  | state, event :: rest, after =>
    (answer event.request state).1 = event.reply ∧
      Gives answer (answer event.request state).2 rest after

/-- Replies to some events and then to others are given through a state between them. -/
theorem Environment.gives_append_iff {σ : Type} (answer : Environment σ) {state after : σ}
    {first second : List Event} :
    answer.Gives state (first ++ second) after ↔
      ∃ between, answer.Gives state first between ∧ answer.Gives between second after := by
  induction first generalizing state with
  | nil => exact ⟨fun h => ⟨state, rfl, h⟩, fun ⟨_, h, h'⟩ => h ▸ h'⟩
  | cons event rest ih =>
    simp only [List.cons_append, Gives, ih]
    constructor
    · intro h
      obtain ⟨hreply, between, hrest, hsecond⟩ := h
      exact ⟨between, ⟨hreply, hrest⟩, hsecond⟩
    · intro h
      obtain ⟨between, ⟨hreply, hrest⟩, hsecond⟩ := h
      exact ⟨hreply, between, hrest, hsecond⟩

/-- The environment draws uniform integers from the range that it is asked for. -/
def Environment.RespectsBounds {σ : Type} (answer : Environment σ) : Prop :=
  ∀ (low high : Int) (state : σ), low ≤ high →
    low ≤ (answer (.uniform low high) state).1 ∧ (answer (.uniform low high) state).1 ≤ high

/-- If the event is the draw of a uniform integer, the integer lies in its range. -/
def Event.InBounds : Event → Prop
  | ⟨.uniform low high, n⟩ => low ≤ high → low ≤ n ∧ n ≤ high
  | _ => True

/-- The draws that such an environment gives lie in their ranges. -/
theorem Environment.RespectsBounds.inBounds {σ : Type} {answer : Environment σ}
    (h : answer.RespectsBounds) {state after : σ} {events : List Event}
    (hgives : answer.Gives state events after) : ∀ e ∈ events, e.InBounds := by
  induction events generalizing state with
  | nil => simp
  | cons event rest ih =>
    obtain ⟨hreply, hrest⟩ := hgives
    refine List.forall_mem_cons.mpr ⟨?_, ih hrest⟩
    obtain ⟨q, reply⟩ := event
    cases q with
    | uniform low high =>
      intro hrange
      have hdraw := h low high state hrange
      rwa [show (answer (.uniform low high) state).1 = reply from hreply] at hdraw
    | _ => trivial

/-- A run begins with the reply to the first request and goes on from the state after it. -/
theorem Script.run_ask {σ α : Type} (answer : Environment σ) (q : Ask) (next : q.Reply → Script α)
    (state : σ) :
    (Script.ask q next).run answer state =
      let rest := (next (answer q state).1).run answer (answer q state).2
      { rest with events := ⟨q, (answer q state).1⟩ :: rest.events } := rfl

/-- A run without events gives no replies and leaves the state alone. -/
theorem Environment.gives_nil_iff {σ α : Type} (answer : Environment σ) {state after : σ}
    {events : List Event} {outcome found : Outcome α} :
    (⟨[], state, outcome⟩ : Run σ α) = ⟨events, after, found⟩ ↔
      (events = [] ∧ found = outcome) ∧ answer.Gives state events after := by
  rw [Run.mk.injEq]
  constructor
  · intro h
    obtain ⟨rfl, rfl, rfl⟩ := h
    exact ⟨⟨rfl, rfl⟩, rfl⟩
  · intro h
    obtain ⟨⟨rfl, rfl⟩, rfl⟩ := h
    exact ⟨rfl, rfl, rfl⟩

/-- A run is a path on which the environment gives the replies. -/
theorem Script.run_eq_iff {σ α : Type} (answer : Environment σ) (script : Script α)
    (state after : σ) (events : List Event) (outcome : Outcome α) :
    script.run answer state = ⟨events, after, outcome⟩ ↔
      script.Leads events outcome ∧ answer.Gives state events after := by
  induction script generalizing state events with
  | done a => rw [run, leads_done_iff, answer.gives_nil_iff]
  | failed f => rw [run, leads_failed_iff, answer.gives_nil_iff]
  | unfinished => rw [run, leads_unfinished_iff, answer.gives_nil_iff]
  | ask q next ih =>
    rw [run_ask, leads_ask_iff, Run.mk.injEq]
    constructor
    · intro h
      obtain ⟨rfl, rfl, rfl⟩ := h
      obtain ⟨hleads, hgives⟩ := (ih _ _ _).mp rfl
      exact ⟨⟨_, _, rfl, hleads⟩, rfl, hgives⟩
    · intro h
      obtain ⟨⟨reply, later, rfl, hleads⟩, hreply, hgives⟩ := h
      obtain rfl : (answer q state).1 = reply := hreply
      have hrest := (ih _ _ _).mpr ⟨hleads, hgives⟩
      exact ⟨by rw [hrest], by rw [hrest], by rw [hrest]⟩

/-- What happens in a run is a path to its outcome. -/
theorem Script.leads_run {σ α : Type} (answer : Environment σ) (script : Script α) (state : σ) :
    script.Leads (script.run answer state).events (script.run answer state).outcome :=
  ((run_eq_iff answer script state _ _ _).mp rfl).1

end TransferDrill

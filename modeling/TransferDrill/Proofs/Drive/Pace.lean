import TransferDrill.Proofs.Drive.Path
import Mathlib.Data.List.Induction

/-!
# The pace of scripts

A script is paced if it sleeps only when it has made a call since it began or slept last, stops at a
call that is cancelled, and is not cut off before it has made a number of calls. Against an
environment that answers so many calls and cancels all later ones, a paced script comes to an end.
-/

namespace TransferDrill

/-- Whether an event is a sleep. -/
def Event.isSleep (e : Event) : Bool :=
  match e.request with
  | .sleep _ => true
  | _ => false

/-- Whether an event is a call that was cancelled. -/
def Event.isCancelled : Event → Bool
  | ⟨.call _, .error (.cancelled _)⟩ => true
  | _ => false

/-- How many calls were made. -/
def calls (events : List Event) : Nat := events.countP Event.isCall

/-- How many sleeps there were. -/
def sleeps (events : List Event) : Nat := events.countP Event.isSleep

/-- How many calls were cancelled. -/
def cancellations (events : List Event) : Nat := events.countP Event.isCancelled

section Counts

variable (e : Event) (first second : List Event)

/-- Where nothing happened, no call was made. -/
@[simp] theorem calls_nil : calls [] = 0 := rfl

/-- A first event counts if it is a call. -/
@[simp] theorem calls_cons : calls (e :: second) = calls second + e.isCall.toNat := by
  cases h : e.isCall <;> simp [calls, h]

/-- Calls add up. -/
@[simp] theorem calls_append : calls (first ++ second) = calls first + calls second :=
  List.countP_append

/-- Where nothing happened, nobody slept. -/
@[simp] theorem sleeps_nil : sleeps [] = 0 := rfl

/-- A first event counts if it is a sleep. -/
@[simp] theorem sleeps_cons : sleeps (e :: second) = sleeps second + e.isSleep.toNat := by
  cases h : e.isSleep <;> simp [sleeps, h]

/-- Where nothing happened, nothing was cancelled. -/
@[simp] theorem cancellations_nil : cancellations [] = 0 := rfl

/-- A first event counts if it is a call that was cancelled. -/
@[simp] theorem cancellations_cons :
    cancellations (e :: second) = cancellations second + e.isCancelled.toNat := by
  cases h : e.isCancelled <;> simp [cancellations, h]

/-- Cancellations add up. -/
@[simp] theorem cancellations_append :
    cancellations (first ++ second) = cancellations first + cancellations second :=
  List.countP_append

end Counts

/-! ## Events -/

/-- Every sleep comes after a call that has been made since the last sleep; whether one had been
made at the beginning is told. -/
inductive Paced : (called : Bool) → List Event → Prop
  | nil (called : Bool) : Paced called []
  | call {called : Bool} {e : Event} {later : List Event} (hcall : e.isCall = true)
      (h : Paced true later) : Paced called (e :: later)
  | sleep {e : Event} {later : List Event} (hsleep : e.isSleep = true) (h : Paced false later) :
      Paced true (e :: later)
  | other {called : Bool} {e : Event} {later : List Event} (hcall : e.isCall = false)
      (hsleep : e.isSleep = false) (h : Paced called later) : Paced called (e :: later)

/-- A call is no sleep. -/
theorem Event.isSleep_of_isCall {e : Event} (h : e.isCall = true) : e.isSleep = false := by
  obtain ⟨q, reply⟩ := e
  cases q <;> first | rfl | cases h

/-- A sleep is no call. -/
theorem Event.isCall_of_isSleep {e : Event} (h : e.isSleep = true) : e.isCall = false := by
  obtain ⟨q, reply⟩ := e
  cases q <;> first | rfl | cases h

/-- A call that has been made does no harm. -/
theorem Paced.called {called : Bool} {events : List Event} (h : Paced called events) :
    Paced true events := by
  induction h with
  | nil called => exact .nil true
  | call hcall h _ => exact .call hcall h
  | sleep hsleep h _ => exact .sleep hsleep h
  | other hcall hsleep _ ih => exact .other hcall hsleep ih

/-- What is paced goes on paced if what comes next is, even with no call made before. -/
theorem Paced.append {called : Bool} {first second : List Event} (h : Paced called first)
    (h' : Paced false second) : Paced called (first ++ second) := by
  induction h with
  | nil called =>
    cases called with
    | false => exact h'
    | true => exact h'.called
  | call hcall _ ih => exact .call hcall ih
  | sleep hsleep _ ih => exact .sleep hsleep ih
  | other hcall hsleep _ ih => exact .other hcall hsleep ih

/-- There are no more sleeps than calls, one at the beginning included. -/
theorem Paced.sleeps_le {called : Bool} {events : List Event} (h : Paced called events) :
    sleeps events ≤ calls events + called.toNat := by
  induction h with
  | nil called => simp
  | call hcall _ ih =>
    simp only [sleeps_cons, calls_cons, hcall, Event.isSleep_of_isCall hcall, Bool.toNat_true,
      Bool.toNat_false] at ih ⊢
    omega
  | sleep hsleep _ ih =>
    simp only [sleeps_cons, calls_cons, Event.isCall_of_isSleep hsleep, hsleep, Bool.toNat_true,
      Bool.toNat_false] at ih ⊢
    omega
  | other hcall hsleep _ ih =>
    simp only [sleeps_cons, calls_cons, hcall, hsleep, Bool.toNat_false] at ih ⊢
    omega

/-- Before a sleep there is a call, unless one had been made at the beginning. -/
theorem Paced.exists_call {between after : List Event} {e : Event}
    (h : Paced false (between ++ e :: after)) (hsleep : e.isSleep = true) :
    ∃ c ∈ between, c.isCall = true := by
  induction between with
  | nil =>
    cases h with
    | call hcall _ => simp [Event.isCall_of_isSleep hsleep] at hcall
    | other _ hawake _ => simp [hawake] at hsleep
  | cons first between ih =>
    cases h with
    | call hcall _ => exact ⟨first, List.mem_cons_self, hcall⟩
    | other _ _ h =>
      obtain ⟨c, hmem, hcall⟩ := ih h
      exact ⟨c, List.mem_cons_of_mem _ hmem, hcall⟩

/-- What comes after a sleep is paced from there. -/
theorem Paced.of_append {called : Bool} {before after : List Event} {e : Event}
    (h : Paced called (before ++ e :: after)) (hsleep : e.isSleep = true) : Paced false after := by
  induction before generalizing called with
  | nil =>
    cases h with
    | call hcall _ => simp [Event.isCall_of_isSleep hsleep] at hcall
    | sleep _ h => exact h
    | other _ hawake _ => simp [hawake] at hsleep
  | cons first before ih =>
    cases h with
    | call _ h => exact ih h
    | sleep _ h => exact ih h
    | other _ _ h => exact ih h

/-- Between two sleeps there is a call. -/
theorem Paced.call_between {called : Bool} {before between after : List Event}
    {first second : Event} (h : Paced called (before ++ first :: (between ++ second :: after)))
    (hfirst : first.isSleep = true) (hsecond : second.isSleep = true) :
    ∃ c ∈ between, c.isCall = true :=
  (h.of_append hfirst).exists_call hsecond

/-! ## Scripts -/

/-- Events up to an outcome are brisk: they are paced, only the last call may be cancelled, which
the outcome tells, and there are so many calls if the script was cut off. -/
structure Brisk (called : Bool) (rounds : Nat) {α : Type} (events : List Event)
    (outcome : Outcome α) : Prop where
  paced : Paced called events
  cancelled : cancellations events = 0 ∨
    cancellations events = 1 ∧ ∃ c, outcome = .failed (.cancelled c)
  cutOff : outcome = .unfinished → rounds ≤ calls events

namespace Brisk

variable {α β : Type} {called : Bool} {rounds : Nat} {events : List Event}

/-- Only an outcome that tells of a cancellation comes after one. -/
theorem cancellations_eq_zero {outcome : Outcome α} (h : Brisk called rounds events outcome)
    (houtcome : ∀ c, outcome ≠ .failed (.cancelled c)) : cancellations events = 0 :=
  h.cancelled.resolve_right fun ⟨_, c, hcancelled⟩ => houtcome c hcancelled

/-- A value at the end tells of no cancellation and of no cut. -/
theorem done {outcome : Outcome α} (h : Brisk called rounds events outcome)
    (houtcome : ∀ c, outcome ≠ .failed (.cancelled c)) (b : β) :
    Brisk called rounds events (.done b) :=
  ⟨h.paced, .inl (h.cancellations_eq_zero houtcome), nofun⟩

/-- What ends without a value stays brisk when it ends what would follow. -/
theorem of_stops {cut : Outcome α} {outcome : Outcome β} (h : Brisk called rounds events cut)
    (hcut : cut.Stops outcome) : Brisk called rounds events outcome := by
  cases hcut with
  | failed f =>
    refine ⟨h.paced, h.cancelled.imp_right fun ⟨hone, c, hc⟩ => ⟨hone, c, ?_⟩, nofun⟩
    cases hc
    rfl
  | unfinished => exact ⟨h.paced, .inl (h.cancellations_eq_zero nofun), fun _ => h.cutOff rfl⟩

end Brisk

namespace Script

variable {α β : Type} {called : Bool} {rounds : Nat}

/-- On every path, a script is brisk. -/
def IsBrisk (called : Bool) (rounds : Nat) (script : Script α) : Prop :=
  ∀ events outcome, script.Leads events outcome → Brisk called rounds events outcome

/-- A brisk script is brisk for fewer rounds too, and after a call as well. -/
theorem IsBrisk.mono {script : Script α} (h : script.IsBrisk false rounds) {fewer : Nat}
    (hfewer : fewer ≤ rounds) : script.IsBrisk called fewer := by
  intro events outcome hleads
  obtain ⟨hpaced, hcancelled, hcutOff⟩ := h events outcome hleads
  refine ⟨?_, hcancelled, fun hunfinished => Nat.le_trans hfewer (hcutOff hunfinished)⟩
  cases called with
  | false => exact hpaced
  | true => exact hpaced.called

/-- A value is brisk. -/
theorem IsBrisk.done (a : α) : (Script.done a).IsBrisk called rounds := by
  intro events outcome hleads
  obtain ⟨rfl, rfl⟩ := leads_done_iff.mp hleads
  exact ⟨.nil called, .inl rfl, nofun⟩

/-- A failure is brisk. -/
theorem IsBrisk.failed (f : Failure) : (Script.failed f : Script α).IsBrisk called rounds := by
  intro events outcome hleads
  obtain ⟨rfl, rfl⟩ := leads_failed_iff.mp hleads
  exact ⟨.nil called, .inl rfl, nofun⟩

/-- A script that is cut off is brisk for no rounds at all. -/
theorem IsBrisk.unfinished : (Script.unfinished : Script α).IsBrisk called 0 := by
  intro events outcome hleads
  obtain ⟨rfl, rfl⟩ := leads_unfinished_iff.mp hleads
  exact ⟨.nil called, .inl rfl, fun _ => Nat.le_refl 0⟩

/-- One script after another is brisk if both are; calls that the first has made are calls that the
other does not have to make before it is cut off. -/
theorem IsBrisk.bind_of_calls {script : Script α} {next : α → Script β} {made : Nat}
    (h : script.IsBrisk called (rounds + made))
    (hmade : ∀ events a, script.Leads events (.done a) → made ≤ calls events)
    (hnext : ∀ a, (next a).IsBrisk false rounds) :
    (script.bind next).IsBrisk called (rounds + made) := by
  intro events outcome hleads
  rcases leads_bind hleads with ⟨a, first, second, hfirst, hsecond, rfl⟩ | ⟨cut, hcut, hstop⟩
  · have hbefore : Brisk called (rounds + made) first (.done a) := h first _ hfirst
    obtain ⟨hlater, hcancelled, hcutOff⟩ := hnext a second outcome hsecond
    refine ⟨hbefore.paced.append hlater, ?_, fun hunfinished => ?_⟩
    · rwa [cancellations_append, hbefore.cancellations_eq_zero nofun, Nat.zero_add]
    · have hcalls := hmade first a hfirst
      have hmore := hcutOff hunfinished
      rw [calls_append]
      omega
  · exact (h events cut hstop).of_stops hcut

/-- One brisk script after another is brisk, for the same rounds. -/
theorem IsBrisk.bind {script : Script α} {next : α → Script β} (h : script.IsBrisk called rounds)
    (hnext : ∀ a, (next a).IsBrisk false rounds) : (script.bind next).IsBrisk called rounds :=
  h.bind_of_calls (fun _ _ _ => Nat.zero_le _) hnext

/-- A script that begins with a call has made a call. -/
theorem IsBrisk.attempt_bind {c : Call} {report : AdapterError → Failure}
    {next : c.Value → Script β} (hnext : ∀ value, (next value).IsBrisk true rounds) :
    ((Script.attempt c report).bind next).IsBrisk called (rounds + 1) := by
  intro events outcome hleads
  rcases leads_attempt_bind hleads with ⟨fault, rfl, rfl⟩ | ⟨value, later, rfl, hlater⟩
  · refine ⟨.call rfl (.nil true), ?_, nofun⟩
    cases fault with
    | cancelled c => exact .inr ⟨rfl, c, rfl⟩
    | raised e => exact .inl rfl
  · obtain ⟨hpaced, hcancelled, hcutOff⟩ := hnext value later outcome hlater
    refine ⟨.call rfl hpaced, by simpa [Event.isCancelled] using hcancelled, fun hunfinished => ?_⟩
    simpa [Event.isCall] using hcutOff hunfinished

/-- A call is brisk: it is the last one if it is cancelled, and the failure says so. -/
theorem IsBrisk.attempt {c : Call} {report : AdapterError → Failure} :
    (Script.attempt c report).IsBrisk called rounds := by
  rw [← bind_done (Script.attempt c report)]
  intro events outcome hleads
  have h : ((Script.attempt c report).bind .done).IsBrisk called (rounds + 1) :=
    .attempt_bind fun value => .done value
  obtain ⟨hpaced, hcancelled, hcutOff⟩ := h events outcome hleads
  exact ⟨hpaced, hcancelled, fun hunfinished => Nat.le_of_succ_le (hcutOff hunfinished)⟩

/-- A request that is neither a call nor a sleep makes no difference. -/
theorem IsBrisk.request_bind {q : Ask} {next : q.Reply → Script β}
    (hcall : ∀ reply, Event.isCall ⟨q, reply⟩ = false)
    (hsleep : ∀ reply, Event.isSleep ⟨q, reply⟩ = false)
    (hnext : ∀ reply, (next reply).IsBrisk called rounds) :
    ((Script.request q).bind next).IsBrisk called rounds := by
  intro events outcome hleads
  obtain ⟨reply, later, rfl, hlater⟩ := leads_ask_iff.mp hleads
  obtain ⟨hpaced, hcancelled, hcutOff⟩ := hnext reply later outcome hlater
  have hkept : Event.isCancelled ⟨q, reply⟩ = false := by
    have hother := hcall reply
    cases q <;> first | rfl | cases hother
  refine ⟨.other (hcall reply) (hsleep reply) hpaced, ?_, fun hunfinished => ?_⟩
  · simpa [hkept] using hcancelled
  · simpa [hcall reply] using hcutOff hunfinished

/-- A script may sleep when it has made a call. -/
theorem IsBrisk.sleep_bind {seconds : Binary64} {next : Unit → Script β}
    (hnext : (next ()).IsBrisk false rounds) :
    ((Script.sleep seconds).bind next).IsBrisk true rounds := by
  intro events outcome hleads
  obtain ⟨reply, later, rfl, hlater⟩ := leads_ask_iff.mp hleads
  rcases reply with c | _
  · obtain ⟨rfl, rfl⟩ := leads_failed_iff.mp hlater
    exact ⟨.sleep rfl (.nil false), .inl rfl, nofun⟩
  · obtain ⟨hpaced, hcancelled, hcutOff⟩ := hnext later outcome hlater
    refine ⟨.sleep rfl hpaced, by simpa [Event.isCancelled] using hcancelled, fun hunfinished => ?_⟩
    simpa [Event.isCall] using hcutOff hunfinished

/-- Failures may be reported otherwise, but for cancellation. -/
theorem IsBrisk.reportAs {script : Script α} {change : Failure → Failure}
    (h : script.IsBrisk called rounds) (hchange : ∀ c, change (.cancelled c) = .cancelled c) :
    (script.reportAs change).IsBrisk called rounds := by
  intro events outcome hleads
  rcases leads_reportAs hleads with hsame | ⟨f, rfl, hfailed⟩
  · exact h events outcome hsame
  · obtain ⟨hpaced, hcancelled, -⟩ := h events _ hfailed
    refine ⟨hpaced, hcancelled.imp_right fun hlast => ⟨hlast.1, ?_⟩, nofun⟩
    obtain ⟨-, c, hc⟩ := hlast
    cases hc
    exact ⟨c, congrArg Outcome.failed (hchange c)⟩

/-- Shortages may be caught, as cancellation is none. -/
theorem IsBrisk.catchShortage {script : Script α} (h : script.IsBrisk called rounds) :
    script.catchShortage.IsBrisk called rounds := by
  intro events outcome hleads
  rcases leads_catchShortage hleads with
    ⟨a, rfl, hdone⟩ | ⟨s, rfl, hshort⟩ | ⟨cut, hcut, hstop⟩
  · exact (h events _ hdone).done nofun _
  · exact (h events _ hshort).done nofun _
  · exact (h events cut hstop).of_stops hcut

end Script

/-! ## Environments that stop answering -/

/-- From a state, an environment answers at most so many calls and cancels every later one. -/
def Environment.AnswersAtMost {σ : Type} (answer : Environment σ) (limit : Nat) (start : σ) :
    Prop :=
  ∀ before e after, answer.Gives start (before ++ [e]) after → e.isCall = true →
    limit ≤ calls before → e.isCancelled = true

/-- All calls beyond the limit are cancelled. -/
theorem Environment.AnswersAtMost.calls_le {σ : Type} {answer : Environment σ} {limit : Nat}
    {start after : σ} {events : List Event} (h : answer.AnswersAtMost limit start)
    (hgives : answer.Gives start events after) : calls events ≤ limit + cancellations events := by
  induction events using List.reverseRecOn generalizing after with
  | nil => simp
  | append_singleton before e ih =>
    obtain ⟨between, hbefore, -⟩ := answer.gives_append_iff.mp hgives
    have hless := ih hbefore
    simp only [calls_append, cancellations_append, calls_cons, cancellations_cons, calls_nil,
      cancellations_nil]
    by_cases hcall : e.isCall = true
    · by_cases hmany : limit ≤ calls before
      · have hlast := h before e after hgives hcall hmany
        simp only [hcall, hlast, Bool.toNat_true]
        omega
      · simp only [hcall, Bool.toNat_true]
        omega
    · simp only [hcall, Bool.toNat_false]
      omega

/-- An environment that answers so many calls of those made and cancels all later ones. -/
def Environment.limited {σ : Type} (answer : Environment σ) (limit : Nat) : Environment (σ × Nat)
  | .call c, (state, made) =>
    if made < limit then
      let (reply, after) := answer (.call c) state
      (reply, after, made + 1)
    else (.error (.cancelled ⟨"no more calls"⟩), state, made + 1)
  | q, (state, made) =>
    let (reply, after) := answer q state
    (reply, after, made)

/-- A limited environment counts the calls. -/
theorem Environment.limited_gives {σ : Type} {answer : Environment σ} {limit : Nat}
    {start after : σ × Nat} {events : List Event}
    (h : (answer.limited limit).Gives start events after) : after.2 = start.2 + calls events := by
  induction events generalizing start with
  | nil => exact congrArg Prod.snd h
  | cons e later ih =>
    obtain ⟨-, hlater⟩ := h
    rw [ih hlater, calls_cons]
    obtain ⟨q, reply⟩ := e
    cases q with
    | call c =>
      simp only [limited, Event.isCall, Bool.toNat_true]
      split <;> simp only <;> omega
    | _ => simp [limited, Event.isCall]

/-- A limited environment answers at most as many calls as its limit allows. -/
theorem Environment.limited_answersAtMost {σ : Type} (answer : Environment σ) (limit : Nat)
    (start : σ) : (answer.limited limit).AnswersAtMost limit (start, 0) := by
  intro before e after hgives hcall hmany
  obtain ⟨between, hbefore, hreply, -⟩ := (Environment.gives_append_iff _).mp hgives
  have hmade : between.2 = calls before := by simpa using limited_gives hbefore
  obtain ⟨q, reply⟩ := e
  cases q with
  | call c =>
    rw [limited, if_neg (by omega)] at hreply
    obtain rfl : .error (.cancelled ⟨"no more calls"⟩) = reply := hreply
    rfl
  | _ => cases hcall

end TransferDrill

import TransferDrill.Proofs.Drive.Path

/-!
# Scripts that are cut off

A loop without a bound of its own is cut off after a number of rounds. Cut off later, it goes on
where it was unfinished and is the same everywhere else, so a run that ends does not depend on the
number of rounds. What a loop does when it is never cut off is what the bounded loops do together:
the runs in which one of them ends, and the events along which one of them goes.
-/

namespace TransferDrill

namespace Script

variable {α β : Type}

/-- A script is another one that may have been cut off earlier. -/
inductive CutFrom : Script α → Script α → Prop
  | done (a : α) : CutFrom (.done a) (.done a)
  | failed (f : Failure) : CutFrom (.failed f) (.failed f)
  | unfinished (whole : Script α) : CutFrom .unfinished whole
  | ask {q : Ask} {next whole : q.Reply → Script α}
      (h : ∀ reply, CutFrom (next reply) (whole reply)) :
      CutFrom (.ask q next) (.ask q whole)

namespace CutFrom

/-- A script is itself, cut off nowhere. -/
@[refl] protected theorem rfl {script : Script α} : script.CutFrom script := by
  induction script with
  | done a => exact .done a
  | failed f => exact .failed f
  | unfinished => exact .unfinished _
  | ask q next ih => exact .ask ih

/-- Being cut off earlier is transitive. -/
theorem trans {first second third : Script α} (h : first.CutFrom second)
    (h' : second.CutFrom third) : first.CutFrom third := by
  induction h generalizing third with
  | done a => exact h'
  | failed f => exact h'
  | unfinished => exact .unfinished third
  | ask h ih =>
    cases h' with
    | ask h' => exact .ask fun reply => ih reply (h' reply)

/-- One script after another is cut off if both are. -/
theorem bind {script whole : Script α} {next wholeNext : α → Script β}
    (h : script.CutFrom whole) (hnext : ∀ a, (next a).CutFrom (wholeNext a)) :
    (script.bind next).CutFrom (whole.bind wholeNext) := by
  induction h with
  | done a => exact hnext a
  | failed f => exact .failed f
  | unfinished => exact .unfinished _
  | ask h ih => exact .ask ih

/-- How failures are reported does not matter to where a script is cut off. -/
theorem reportAs {change : Failure → Failure} {script whole : Script α}
    (h : script.CutFrom whole) : (script.reportAs change).CutFrom (whole.reportAs change) := by
  induction h with
  | done a => exact .done a
  | failed f => exact .failed (change f)
  | unfinished => exact .unfinished _
  | ask h ih => exact .ask ih

/-- What was seen before a script was cut off is the beginning of what is seen without that. -/
theorem events_prefix {σ : Type} (answer : Environment σ) {script whole : Script α}
    (h : script.CutFrom whole) (state : σ) :
    (script.run answer state).events <+: (whole.run answer state).events := by
  induction h generalizing state with
  | done a => exact List.prefix_rfl
  | failed f => exact List.prefix_rfl
  | unfinished => exact List.nil_prefix
  | ask h ih =>
    rw [run_ask, run_ask]
    exact (List.prefix_cons_inj _).mpr (ih _ _)

/-- A run that ends is the same whether a script is cut off later or not at all. -/
theorem run_eq {σ : Type} (answer : Environment σ) {script whole : Script α}
    (h : script.CutFrom whole) {state : σ}
    (hends : (script.run answer state).outcome ≠ .unfinished) :
    whole.run answer state = script.run answer state := by
  induction h generalizing state with
  | done a => rfl
  | failed f => rfl
  | unfinished => exact absurd rfl hends
  | ask h ih =>
    rw [run_ask] at hends
    rw [run_ask, run_ask, ih _ hends]

end CutFrom

/-- What is seen of a script is the beginning of what is seen when another follows. -/
theorem events_prefix_bind {σ : Type} (answer : Environment σ) (script : Script α)
    (next : α → Script β) (state : σ) :
    (script.run answer state).events <+: ((script.bind next).run answer state).events := by
  rw [run_bind, Run.continue]
  split
  · exact List.prefix_append ..
  · exact List.prefix_rfl
  · exact List.prefix_rfl

end Script

/-! ## Loops without a bound -/

variable {α : Type}

/-- A loop, given by its scripts for every bound on the rounds, ends in a run. -/
def EndsIn {σ : Type} (loop : Nat → Script α) (answer : Environment σ) (start : σ)
    (run : Run σ α) : Prop :=
  ∃ rounds, (loop rounds).run answer start = run ∧ run.outcome ≠ .unfinished

/-- A loop, given by its scripts for every bound on the rounds, goes along events, whether it ends
or not. -/
def GoesAlong {σ : Type} (loop : Nat → Script α) (answer : Environment σ) (start : σ)
    (events : List Event) : Prop :=
  ∃ rounds, events <+: ((loop rounds).run answer start).events

/-- Two loops cannot be told apart: in every environment and from every state, both end in the same
run, and both go along the same events, be it for ever. -/
structure SameRuns (first second : Nat → Script α) : Prop where
  ends : ∀ {σ : Type} (answer : Environment σ) (start : σ) (run : Run σ α),
    EndsIn first answer start run ↔ EndsIn second answer start run
  goes : ∀ {σ : Type} (answer : Environment σ) (start : σ) (events : List Event),
    GoesAlong first answer start events ↔ GoesAlong second answer start events

/-- A loop that goes on where it was cut off ends in one run at most. -/
theorem EndsIn.unique {σ : Type} {loop : Nat → Script α}
    (h : ∀ {rounds later}, rounds ≤ later → (loop rounds).CutFrom (loop later))
    {answer : Environment σ} {start : σ} {run other : Run σ α}
    (hends : EndsIn loop answer start run) (hother : EndsIn loop answer start other) :
    run = other := by
  obtain ⟨rounds, rfl, hends⟩ := hends
  obtain ⟨later, rfl, hother⟩ := hother
  rcases Nat.le_total rounds later with hle | hle
  · exact ((h hle).run_eq answer hends).symm
  · exact (h hle).run_eq answer hother

/-- A loop whose scripts are cut from those of another one ends where the other does. -/
theorem EndsIn.of_cutFrom {σ : Type} {first second : Nat → Script α}
    (h : ∀ rounds, ∃ later, (first rounds).CutFrom (second later)) {answer : Environment σ}
    {start : σ} {run : Run σ α} (hends : EndsIn first answer start run) :
    EndsIn second answer start run := by
  obtain ⟨rounds, rfl, hends⟩ := hends
  obtain ⟨later, hcut⟩ := h rounds
  exact ⟨later, hcut.run_eq answer hends, hends⟩

/-- A loop whose scripts are cut from those of another one goes along no other events. -/
theorem GoesAlong.of_cutFrom {σ : Type} {first : Nat → Script α} {second : Nat → Script α}
    (h : ∀ rounds, ∃ later, (first rounds).CutFrom (second later)) {answer : Environment σ}
    {start : σ} {events : List Event} (hgoes : GoesAlong first answer start events) :
    GoesAlong second answer start events := by
  obtain ⟨rounds, hprefix⟩ := hgoes
  obtain ⟨later, hcut⟩ := h rounds
  exact ⟨later, hprefix.trans (hcut.events_prefix answer start)⟩

/-- Loops whose scripts are cut from one another cannot be told apart. -/
theorem SameRuns.of_cutFrom {first second : Nat → Script α}
    (h : ∀ rounds, ∃ later, (first rounds).CutFrom (second later))
    (h' : ∀ rounds, ∃ later, (second rounds).CutFrom (first later)) : SameRuns first second where
  ends _ _ _ := ⟨.of_cutFrom h, .of_cutFrom h'⟩
  goes _ _ _ := ⟨.of_cutFrom h, .of_cutFrom h'⟩

end TransferDrill

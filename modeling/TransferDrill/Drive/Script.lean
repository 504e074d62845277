import TransferDrill.Drive.Ask

/-!
# Scripts

A script is a drive as a tree of requests: it is done, has failed, or asks for something and goes
on with the reply. Running it against an environment gives the requests with their replies in
order, the environment's last state and the outcome. Loops without a bound of their own are cut
off after a number of rounds, and a script that was cut off is unfinished.
-/

namespace TransferDrill

/-- A drive that ends with a value of a type. -/
inductive Script (α : Type) : Type where
  | done (value : α)
  | failed (failure : Failure)
  | unfinished
  | ask (request : Ask) (next : request.Reply → Script α)

namespace Script

variable {α β : Type}

/-- Go on with the value that a script ends with. -/
def bind (script : Script α) (next : α → Script β) : Script β :=
  match script with
  | .done a => next a
  | .failed f => .failed f
  | .unfinished => .unfinished
  | .ask request more => .ask request fun reply => (more reply).bind next

instance : Monad Script where
  pure := .done
  bind := bind

/-- Ask and end with the reply. -/
def request (q : Ask) : Script q.Reply := .ask q .done

/-- Make a call; cancellation goes through, an error is reported as a failure of the drive. -/
def attempt (c : Call) (report : AdapterError → Failure) : Script c.Value :=
  .ask (.call c) fun
    | .ok value => .done value
    | .error (.cancelled c) => .failed (.cancelled c)
    | .error (.raised e) => .failed (report e)

/-- Make a call for an activity of the drive. -/
def call (c : Call) (activity : Activity) : Script c.Value :=
  attempt c (.adapter activity)

/-- Make a call for a step of constructing a transaction. -/
def step (c : Call) (step : Step) : Script c.Value :=
  attempt c (.step step)

/-- Write a log line. -/
def log (level : LogLevel) (text : String) : Script Unit := request (.log level text)

/-- Sleep, unless that is cut short. -/
def sleep (seconds : Binary64) : Script Unit :=
  .ask (.sleep seconds) fun
    | .ok () => .done ()
    | .error c => .failed (.cancelled c)

/-- Change how a script's failure is reported. -/
def reportAs (change : Failure → Failure) : Script α → Script α
  | .done a => .done a
  | .failed f => .failed (change f)
  | .unfinished => .unfinished
  | .ask q next => .ask q fun reply => (next reply).reportAs change

/-- Turn a shortage of the drive's own into a value. -/
def catchShortage : Script α → Script (Except Shortage α)
  | .done a => .done (.ok a)
  | .failed (.shortage s) => .done (.error s)
  | .failed f => .failed f
  | .unfinished => .unfinished
  | .ask q next => .ask q fun reply => (next reply).catchShortage

/-- Fail unless a condition holds. -/
def require (condition : Bool) (failure : Failure) : Script Unit :=
  if condition then .done () else .failed failure

/-- A value that may be missing for a reason. -/
def ofExcept {ε : Type} (report : ε → Failure) : Except ε α → Script α
  | .ok a => .done a
  | .error e => .failed (report e)

/-- A pure script is a value. -/
@[simp] theorem pure_eq (a : α) : (pure a : Script α) = .done a := rfl

/-- Scripts in sequence are bound. -/
@[simp] theorem bind_eq (script : Script α) (next : α → Script β) :
    script >>= next = script.bind next := rfl

/-- After a value, the script goes on with it. -/
@[simp] theorem done_bind (a : α) (next : α → Script β) :
    (Script.done a).bind next = next a := rfl

/-- After a failure, nothing follows. -/
@[simp] theorem failed_bind (f : Failure) (next : α → Script β) :
    (Script.failed f).bind next = .failed f := rfl

/-- After being cut off, nothing follows. -/
@[simp] theorem unfinished_bind (next : α → Script β) :
    (Script.unfinished : Script α).bind next = .unfinished := rfl

/-- What follows comes after the reply to the request. -/
@[simp] theorem ask_bind (q : Ask) (more : q.Reply → Script α) (next : α → Script β) :
    (Script.ask q more).bind next = .ask q fun reply => (more reply).bind next := rfl

/-- Returning what a script ends with changes nothing. -/
@[simp] theorem bind_done (script : Script α) : script.bind .done = script := by
  induction script with
  | done a => rfl
  | failed f => rfl
  | unfinished => rfl
  | ask q next ih => simp [ih]

/-- Three scripts in sequence may be bracketed either way. -/
theorem bind_assoc {γ : Type} (script : Script α) (f : α → Script β) (g : β → Script γ) :
    (script.bind f).bind g = script.bind fun a => (f a).bind g := by
  induction script with
  | done a => rfl
  | failed f => rfl
  | unfinished => rfl
  | ask q next ih => simp [ih]

instance : LawfulMonad Script :=
  LawfulMonad.mk' Script bind_done (fun _ _ => rfl) bind_assoc

end Script

/-- A request and the reply to it. -/
structure Event where
  request : Ask
  reply : request.Reply

/-- How a script ends. -/
inductive Outcome (α : Type) where
  | done (value : α)
  | failed (failure : Failure)
  | unfinished
deriving DecidableEq, Repr

/-- What answers the requests of a script, with a state that changes on the way. -/
abbrev Environment (σ : Type) := (q : Ask) → σ → q.Reply × σ

/-- A script that was run: what happened, the last state, and how it ended. -/
structure Run (σ α : Type) where
  events : List Event
  state : σ
  outcome : Outcome α

/-- Run a script from a state. -/
def Script.run {σ α : Type} (answer : Environment σ) : Script α → σ → Run σ α
  | .done a, state => ⟨[], state, .done a⟩
  | .failed f, state => ⟨[], state, .failed f⟩
  | .unfinished, state => ⟨[], state, .unfinished⟩
  | .ask q next, state =>
    let (reply, after) := answer q state
    let rest := (next reply).run answer after
    { rest with events := ⟨q, reply⟩ :: rest.events }

/-- Continue a run with what follows when it is done. -/
def Run.continue {σ α β : Type} (run : Run σ α) (next : α → σ → Run σ β) : Run σ β :=
  match run.outcome with
  | .done a =>
    let rest := next a run.state
    { rest with events := run.events ++ rest.events }
  | .failed f => ⟨run.events, run.state, .failed f⟩
  | .unfinished => ⟨run.events, run.state, .unfinished⟩

/-- Running one script after another is continuing the run of the first. -/
theorem Script.run_bind {σ α β : Type} (answer : Environment σ) (script : Script α)
    (next : α → Script β) (state : σ) :
    (script.bind next).run answer state =
      (script.run answer state).continue fun a after => (next a).run answer after := by
  induction script generalizing state with
  | done a => rfl
  | failed f => rfl
  | unfinished => rfl
  | ask q more ih =>
    simp only [ask_bind, run, ih, Run.continue]
    split <;> simp_all

end TransferDrill

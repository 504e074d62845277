import TransferDrill.Rehearsal.Adapter
import TransferDrill.Rehearsal.Report
import TransferDrill.Drive.Loop

/-!
# Sessions

A session runs the parts of a drive one after another in one world. It remembers the last
transfer that was sized and the last intent made from it, so that later steps can use them. A
step that fails does not end the session.
-/

namespace TransferDrill.Rehearsal

open Schema

/-- The steps of a session. -/
inductive Instruction where
  | mutate (m : Mutation)
  | requiredBalance (action : String)
  | holding (address : String)
  | awaitFunds (address : String)
  | newAddress
  | findSender
  | findRecipients (sender : String)
  | pickAddress (candidates : List String)
  | sizeTransfer (sender : Sender)
  | sizeAccount (sender : String) (balance : Int) (recipients : Recipients)
  | sizeCoin (sender : String) (coinValue : Int) (candidates : List String)
      (coin : Option CoinIdentifier)
  | populateLast
  | scribbleOnLast
  | createTransaction (intent : Option (List Operation))
  | createTransactions (wanted : Option Int)
deriving DecidableEq, Repr

/-- What a step gives. -/
inductive Result where
  | nothing
  | amount (n : Int)
  | holding (h : Holding)
  | address (a : String)
  | sender (s : Sender)
  | recipients (r : Recipients)
  | pick (p : Pick)
  | transfer (t : Transfer)
  | operations (ops : List Operation)
  | scribbled (changed templates : List Operation)
  | transaction (t : Transaction)
deriving DecidableEq, Repr

/-- Why a step gives nothing. -/
inductive StepFault where
  | failed (f : Failure)
  | unknownAction (name : String)
  | nothingRemembered
  | unfinished
deriving DecidableEq, Repr

/-- The state of a session: the world's, and what is remembered. -/
structure Memory where
  state : State
  transfer : Option Transfer
  intent : Option (List Operation)

/-- What is reported of a step. -/
structure Report where
  result : Except StepFault Result
  events : List Event
  state : State

namespace Session

variable (settings : Settings) (world : World)

/-- Rounds after which a loop of the drive has met the limit of calls: each makes one at least. -/
def patience : Nat := world.callLimit.toNat + 2

/-- Run a script as a step; `keep` says what is remembered of its value. -/
def perform {α : Type} (memory : Memory) (script : Script α) (result : α → Result)
    (keep : Memory → α → Memory) : Report × Memory :=
  let run := script.run (answer world) memory.state
  let after := { memory with state := run.state }
  match run.outcome with
  | .done a => (⟨.ok (result a), run.events, run.state⟩, keep after a)
  | .failed f => (⟨.error (.failed f), run.events, run.state⟩, after)
  | .unfinished => (⟨.error .unfinished, run.events, run.state⟩, after)

/-- Run a script of whose value nothing is remembered. -/
def observe {α : Type} (memory : Memory) (script : Script α) (result : α → Result) :
    Report × Memory :=
  perform world memory script result fun memory _ => memory

/-- Run a script that sizes a transfer, which is remembered. -/
def size (memory : Memory) (script : Script Transfer) : Report × Memory :=
  perform world memory script .transfer fun memory transfer =>
    { memory with transfer := some transfer }

/-- Answer a step without running anything. -/
def reply (memory : Memory) (result : Except StepFault Result) : Report × Memory :=
  (⟨result, [], memory.state⟩, memory)

/-- Write over the kind and the account of an operation. -/
def scribble (operation : Operation) : Operation :=
  { operation with
    kind := "MUTATED"
    account := operation.account.map fun account => { account with address := "MUTATED" } }

/-- Take one step. -/
def step (memory : Memory) : Instruction → Report × Memory
  | .mutate m => reply { memory with state := memory.state.apply m } (.ok .nothing)
  | .requiredBalance name =>
    match (Choice.ofLabel? name : Option Action) with
    | some action => reply memory (.ok (.amount (settings.requiredBalance action)))
    | none => reply memory (.error (.unknownAction name))
  | .holding address => observe world memory (Drive.holding settings address) .holding
  | .awaitFunds address =>
    observe world memory (Drive.awaitFunds settings (patience world) address)
      fun found => .holding ⟨some found.1, found.2⟩
  | .newAddress => observe world memory (Drive.newAddress settings) .address
  | .findSender => observe world memory (Drive.findSender settings (patience world)) .sender
  | .findRecipients sender =>
    observe world memory (Drive.findRecipients settings sender) .recipients
  | .pickAddress candidates => observe world memory (Drive.pickAddress settings candidates) .pick
  | .sizeTransfer sender => size world memory (Drive.sizeTransfer settings sender)
  | .sizeAccount sender balance recipients =>
    size world memory (Drive.sizeAccount settings sender balance recipients)
  | .sizeCoin sender coinValue candidates coin =>
    size world memory (Drive.sizeCoin settings sender coinValue candidates coin)
  | .populateLast =>
    match memory.transfer with
    | none => reply memory (.error .nothingRemembered)
    | some transfer =>
      perform world memory (Script.ofExcept .templates transfer.populate) .operations
        fun memory intent => { memory with intent := some intent }
  | .scribbleOnLast =>
    match memory.transfer with
    | none => reply memory (.error .nothingRemembered)
    | some transfer =>
      let changed := transfer.templates.map scribble
      reply { memory with transfer := some { transfer with templates := changed } }
        (.ok (.scribbled changed settings.templates))
  | .createTransaction given =>
    match given.or memory.intent with
    | none => reply memory (.error .nothingRemembered)
    | some intent => observe world memory (Drive.createTransaction settings intent) .transaction
  | .createTransactions wanted =>
    observe world memory (Drive.createTransactions settings (patience world) wanted)
      fun count => .amount count

/-- Take steps one after another. -/
def steps : Memory → List Instruction → List Report
  | _, [] => []
  | memory, instruction :: rest =>
    let (report, memory) := step settings world memory instruction
    report :: steps memory rest

/-- The reports of a session that starts in a state, if its settings can be written down. -/
def run (start : State) (instructions : List Instruction) : Except TooDeep (List Report) :=
  (Record.write true settings).map fun _ => steps settings world ⟨start, none, none⟩ instructions

end Session

end TransferDrill.Rehearsal

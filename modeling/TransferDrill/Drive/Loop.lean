import TransferDrill.Drive.Sizing
import TransferDrill.Drive.Pipeline

/-!
# The drive

Transfers are made one after another until there are as many as wanted. When balances allow
none, the drive waits for pending broadcasts or funds a new address and tries again; every other
failure ends it.
-/

namespace TransferDrill.Drive

variable (settings : Settings)

/-- Make one transfer from a sender: size it, construct its transaction and hand that off. -/
def makeTransfer (sender : Sender) (transfer : Transfer) : Script Unit := do
  let intent ← Script.ofExcept .templates transfer.populate
  let transaction ← createTransaction settings intent
  Script.call
    (.transactionCreated sender.address transaction.identifier transaction.content intent)
    .announceTransaction
  Script.log .info s!"Created transaction {transaction.identifier.hash} from {sender.address}"

/-- Wait until a transfer may be possible that was not. -/
def awaitChange (patience : Nat) (shortage : Shortage) : Script Unit := do
  let broadcasts ← Script.call .allBroadcasts .listBroadcasts
  if broadcasts.isEmpty then
    Script.log .warning
      s!"Insufficient funds ({shortage.message}), requesting funds on a new address"
    fundNewAddress settings patience
  else
    Script.log .debug
      s!"Insufficient funds ({shortage.message}), waiting on {broadcasts.length} broadcasts"
    Script.sleep settings.sleepTime

/-- Whether as many transactions were created as wanted; without a number, there never are. -/
def enough (wanted : Option Int) (created : Nat) : Bool :=
  wanted.any fun count => count ≤ (created : Int)

/-- Make transfers, for a number of rounds, when some have been made already. -/
def createTransactionsFrom (patience : Nat) (wanted : Option Int) :
    (rounds : Nat) → (created : Nat) → Script Nat
  | 0, created => if enough wanted created then .done created else .unfinished
  | rounds + 1, created =>
    if enough wanted created then .done created
    else do
      let sender ← findSender settings patience
      match ← (sizeTransfer settings sender).catchShortage with
      | .ok transfer =>
        makeTransfer settings sender transfer
        createTransactionsFrom patience wanted rounds (created + 1)
      | .error shortage =>
        awaitChange settings patience shortage
        createTransactionsFrom patience wanted rounds created

/-- Make transfers until as many as wanted have been handed off. -/
def createTransactions (patience : Nat) (wanted : Option Int) : Script Nat :=
  createTransactionsFrom settings patience wanted patience 0

end TransferDrill.Drive

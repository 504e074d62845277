import TransferDrill.Key.Pair
import TransferDrill.Matching.Operations
import TransferDrill.Matching.Signers
import TransferDrill.Random.Source
import TransferDrill.Scenario.Populate

/-!
# How a drive fails

An adapter's call can be cancelled or raise an error. Cancellation passes through a drive as it
is; an error is reported with what the drive was doing. The drive has failures of its own too:
balances that allow no transfer, and transactions that are not what was asked for.
-/

namespace TransferDrill

/-- The kinds of error that an adapter raises. -/
inductive ErrorKind where
  | runtime
  | value
  | construction
  | shortage
deriving DecidableEq, Repr

/-- An error raised by an adapter. -/
structure AdapterError where
  kind : ErrorKind
  message : String
deriving DecidableEq, Repr

/-- The drive is told to stop. -/
structure Cancellation where
  message : String
deriving DecidableEq, Repr

/-- Why a call does not return. -/
inductive Fault where
  | cancelled (c : Cancellation)
  | raised (e : AdapterError)
deriving DecidableEq, Repr

/-- What the drive uses the adapter for outside the construction of a transaction. -/
inductive Activity where
  | fetchBalance (address : String)
  | deriveAddress
  | storeAddress
  | announceAddress
  | listLocked
  | listAddresses
  | listAvailable
  | listBroadcasts
  | announceTransaction
deriving DecidableEq, Repr

/-- What could not be done. -/
def Activity.complaint : Activity → String
  | .fetchBalance address => s!"unable to fetch balance for {address}"
  | .deriveAddress => "unable to derive address"
  | .storeAddress => "unable to store address"
  | .announceAddress => "could not handle address creation"
  | .listLocked => "unable to get locked addresses"
  | .listAddresses => "unable to get addresses"
  | .listAvailable => "unable to get available addresses"
  | .listBroadcasts => "unable to get broadcasts"
  | .announceTransaction => "could not handle transaction creation"

/-- The steps of constructing a transaction. -/
inductive Step where
  | preprocess
  | metadata
  | payloads
  | parse (signed : Bool)
  | sign
  | combine
  | hash
deriving DecidableEq, Repr

/-- The name of a step. -/
def Step.name : Step → String
  | .preprocess => "preprocess"
  | .metadata => "construct metadata"
  | .payloads => "construct payloads"
  | .parse false => "parse unsigned transaction"
  | .parse true => "parse signed transaction"
  | .sign => "sign payloads"
  | .combine => "combine signatures"
  | .hash => "get transaction hash"

/-- Why no transfer can be made from a sender. -/
inductive Shortage where
  | noFundedRecipient (sender : String)
  | balanceBelow (balance : Int) (sender : String) (required : Int)
  | coinBelow (value : Int) (sender : String) (required : Int)
deriving DecidableEq, Repr

/-- How a shortage is reported. -/
def Shortage.message : Shortage → String
  | .noFundedRecipient sender => s!"{sender} can only send to funded accounts but none exist"
  | .balanceBelow balance sender required => s!"balance {balance} on {sender} is below {required}"
  | .coinBelow value sender required => s!"coin value {value} on {sender} is below {required}"

/-- The numbers in the report of a shortage. -/
def Shortage.numbers : Shortage → List Int
  | .noFundedRecipient _ => []
  | .balanceBelow balance _ required => [balance, required]
  | .coinBelow value _ required => [value, required]

/-- Why a check of a transaction failed: the adapter refused it, or it found a fault. -/
inductive CheckFault (α : Type) where
  | refused (e : AdapterError)
  | found (fault : α)
deriving DecidableEq, Repr

/-- How a failed check is reported, given how a fault is. -/
def CheckFault.message {α : Type} (text : α → String) : CheckFault α → String
  | .refused e => e.message
  | .found fault => text fault

/-- How a drive fails. -/
inductive Failure where
  | cancelled (c : Cancellation)
  | shortage (s : Shortage)
  | adapter (activity : Activity) (e : AdapterError)
  | keyPair (e : KeyFault)
  | funding (address : String) (inner : Failure)
  | step (failing : Step) (e : AdapterError)
  | earlySigners (count : Nat)
  | operations (signed : Bool) (cause : CheckFault OperationsFault)
  | signers (cause : CheckFault SignersFault)
  | invertedRange (e : Random.InvertedRange)
  | overlongNumber
  | unshowableAmount
  | templates (e : PopulateFault)
deriving DecidableEq, Repr

namespace Failure

/-- A shortage as a failure, if its numbers can be written. -/
def ofShortage (s : Shortage) : Failure :=
  if s.numbers.all Numeral.isShort then .shortage s else .overlongNumber

/-- How a failure is reported; malformed templates are reported by their issues instead. -/
def message : Failure → String
  | .cancelled c => c.message
  | .shortage s => s.message
  | .adapter activity e => s!"{e.message}: {activity.complaint}"
  | .keyPair e => s!"{e.message}: unable to generate keypair"
  | .funding address inner => s!"{inner.message}: unable to get funds on {address}"
  | .step failing e => s!"{e.message}: unable to {failing.name}"
  | .earlySigners count => s!"signers should be empty in unsigned transaction but found {count}"
  | .operations signed cause =>
    let text := cause.message OperationsFault.message
    let which := if signed then "signed" else "unsigned"
    s!"{text}: {which} parsed ops do not match intent"
  | .signers cause =>
    let text := cause.message SignersFault.message
    s!"{text}: signed transaction signers do not match intent"
  | .invertedRange e => e.message
  | .overlongNumber => Numeral.limitMessage
  | .unshowableAmount => "[<class 'decimal.InvalidOperation'>]"
  | .templates (.tooDeep e) => e.message
  | .templates .overlong => Numeral.limitMessage
  | .templates _ => ""

/-- Whether a failure is one of constructing transfers, which waiting for funds reports again. -/
def isConstruction : Failure → Bool
  | .cancelled _ | .invertedRange _ | .overlongNumber | .unshowableAmount | .templates _ => false
  | _ => true

end Failure

end TransferDrill

import TransferDrill.Drive.Failure

/-!
# What a drive asks for

A drive calls an adapter for a chain and a handler for what it has made, draws key material and
random numbers, sleeps and writes log lines. Each request has a type of replies.
-/

namespace TransferDrill

/-- What is known to be at an address; on a chain of coins, its largest coin. -/
structure Holding where
  balance : Option Int
  coin : Option CoinIdentifier
deriving DecidableEq, Repr

/-- An unsigned transaction and what has to be signed for it. -/
structure Unsigned where
  content : String
  payloads : List SigningPayload
deriving DecidableEq, Repr

/-- What a transaction is parsed into. -/
structure Parsed where
  operations : List Operation
  signers : List String
deriving DecidableEq, Repr

/-- Calls of the adapter and the handler. -/
inductive Call where
  /-- Every address with a stored key. -/
  | allAddresses
  /-- The addresses with an unconfirmed transaction of their own. -/
  | lockedAddresses
  /-- The transactions that are not yet confirmed. -/
  | allBroadcasts
  /-- The balance of an account. -/
  | accountBalance (account : AccountIdentifier) (currency : Currency)
  /-- The largest unspent coin of an account. -/
  | coinBalance (account : AccountIdentifier) (currency : Currency)
  /-- The address of a public key. -/
  | derive (network : NetworkIdentifier) (key : PublicKey)
  /-- Keep a key pair under its address. -/
  | storeKey (address : String) (pair : KeyPair)
  /-- Tell the handler of a new address. -/
  | addressCreated (address : String)
  /-- The request for the data that an intent needs. -/
  | preprocess (network : NetworkIdentifier) (intent : List Operation)
  /-- The data that an intent needs. -/
  | metadata (network : NetworkIdentifier) (request : Option Json.Members)
  /-- An unsigned transaction and what has to be signed. -/
  | payloads (network : NetworkIdentifier) (intent : List Operation)
      (metadata : Option Json.Members)
  /-- The operations and signers of a transaction. -/
  | parse (network : NetworkIdentifier) (signed : Bool) (transaction : String)
  /-- Announce that operations are about to be checked. -/
  | checkOperations (policy : Matching.Policy) (intent observed : List Operation)
  /-- Announce that signers are about to be checked. -/
  | checkSigners (payloads : List SigningPayload) (signers : List String)
  /-- Sign payloads with stored keys. -/
  | sign (payloads : List SigningPayload)
  /-- A signed transaction. -/
  | combine (network : NetworkIdentifier) (unsigned : String) (signatures : List Signature)
  /-- The name of a transaction. -/
  | hash (network : NetworkIdentifier) (transaction : String)
  /-- Hand a verified transaction to the handler. -/
  | transactionCreated (sender : String) (identifier : TransactionIdentifier) (transaction : String)
      (intent : List Operation)
deriving DecidableEq, Repr

/-- What a call returns. -/
@[reducible] def Call.Value : Call → Type
  | .allAddresses => List String
  | .lockedAddresses => List String
  | .allBroadcasts => List Broadcast
  | .accountBalance .. => Option Int
  | .coinBalance .. => Holding
  | .derive .. => String
  | .storeKey .. => Unit
  | .addressCreated .. => Unit
  | .preprocess .. => Option Json.Members
  | .metadata .. => Option Json.Members
  | .payloads .. => Unsigned
  | .parse .. => Parsed
  | .checkOperations .. => Unit
  | .checkSigners .. => Unit
  | .sign .. => List Signature
  | .combine .. => String
  | .hash .. => TransactionIdentifier
  | .transactionCreated .. => Unit

/-- The weight of a log line. -/
inductive LogLevel where
  | debug
  | info
  | warning
deriving DecidableEq, Repr

/-- Everything that a drive asks for. -/
inductive Ask where
  | call (c : Call)
  /-- Secret bytes for a key on secp256k1. -/
  | secretBytes
  /-- The public and the secret bytes of a key pair on edwards25519. -/
  | edwardsPair
  /-- A number from zero to one. -/
  | probability
  /-- A uniform integer of a range. -/
  | uniform (low high : Int)
  /-- Time to pass. -/
  | sleep (seconds : Binary64)
  /-- A log line to be written. -/
  | log (level : LogLevel) (text : String)
deriving DecidableEq, Repr

/-- What comes back for a request; calls can fail, and sleep can be cut short. -/
@[reducible] def Ask.Reply : Ask → Type
  | .call c => Except Fault c.Value
  | .secretBytes => List UInt8
  | .edwardsPair => List UInt8 × List UInt8
  | .probability => Binary64
  | .uniform _ _ => Int
  | .sleep _ => Except Cancellation Unit
  | .log _ _ => Unit

end TransferDrill

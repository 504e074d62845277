import TransferDrill.Drive.Script

/-!
# A scripted world

A rehearsal runs a drive without a chain. Its world has a script, which says how the adapter
behaves, and a state, which calls and the passing of time change: who holds what, what is locked
and pending, which calls are going to fail, and what was counted and remembered so far.
-/

namespace TransferDrill.Rehearsal

/-- A fault that is planned for a call, at one occurrence of it or at all. -/
structure PlannedFault where
  fault : Fault
  occurrence : Option Int
deriving DecidableEq, Repr

/-- A change to the state of the world; holdings are merged, the rest is replaced if given. -/
structure Mutation where
  balances : Keyed (Option Int)
  coins : Keyed Holding
  addresses : Option (List String)
  locked : Option (List String)
  broadcasts : Option (List Broadcast)
  faults : Option (Keyed PlannedFault)
deriving DecidableEq, Repr

/-- How addresses are derived. -/
inductive Derivation where
  | counted
  | fromKey
  | listed (addresses : List String)
deriving DecidableEq, Repr

/-- How a transaction is parsed: from operations given or those of the intent, some are dropped,
others appended, and all possibly reversed; the signers may be given too. -/
structure ParseScript where
  operations : Option (List Operation)
  dropped : List Int
  appended : List Operation
  reversed : Bool
  signers : Option (List String)
deriving DecidableEq, Repr

/-- How the adapter and the handler behave. -/
structure World where
  derivation : Derivation
  entropy : List (List UInt8)
  storesKeys : Bool
  newFunds : List Int
  request : Option (Option Json.Members)
  metadata : Option (Option Json.Members)
  payloads : Option (List SigningPayload)
  parseUnsigned : ParseScript
  parseSigned : ParseScript
  keepsLedger : Bool
  locksSenders : Bool
  callLimit : Int
deriving DecidableEq, Repr

/-- The state of the world. -/
structure State where
  addresses : List String
  balances : Keyed (Option Int)
  coins : Keyed Holding
  locked : List String
  broadcasts : List Broadcast
  faults : Keyed PlannedFault
  whileSleeping : List Mutation
  afterTransactions : List Mutation
  source : Random.Source
  calls : Nat
  counts : Keyed Nat
  keyPairs : Nat
  intent : List Operation
  payloads : List SigningPayload

/-- Change the state. -/
def State.apply (state : State) (m : Mutation) : State :=
  { state with
    balances := Keyed.merge state.balances m.balances
    coins := Keyed.merge state.coins m.coins
    addresses := m.addresses.getD state.addresses
    locked := m.locked.getD state.locked
    broadcasts := m.broadcasts.getD state.broadcasts
    faults := m.faults.getD state.faults }

/-- How often a call was made. -/
def State.count (state : State) (name : String) : Nat :=
  (Keyed.get? name state.counts).getD 0

/-- Count a call. -/
def State.counted (state : State) (name : String) : State :=
  { state with
    calls := state.calls + 1
    counts := Keyed.put name (state.count name + 1) state.counts }

end TransferDrill.Rehearsal

namespace TransferDrill

/-- The name of a call. -/
def Call.name : Call → String
  | .allAddresses => "all_addresses"
  | .lockedAddresses => "locked_addresses"
  | .allBroadcasts => "all_broadcasts"
  | .accountBalance .. => "account_balance"
  | .coinBalance .. => "coin_balance"
  | .derive .. => "derive"
  | .storeKey .. => "store_key"
  | .addressCreated .. => "address_created"
  | .preprocess .. => "preprocess"
  | .metadata .. => "metadata"
  | .payloads .. => "payloads"
  | .parse _ false _ => "parse_unsigned"
  | .parse _ true _ => "parse_signed"
  | .checkOperations .. => "expected_operations"
  | .checkSigners .. => "expected_signers"
  | .sign .. => "sign"
  | .combine .. => "combine"
  | .hash .. => "hash"
  | .transactionCreated .. => "transaction_created"

end TransferDrill

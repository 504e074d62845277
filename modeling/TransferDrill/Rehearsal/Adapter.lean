import TransferDrill.Rehearsal.Ledger

/-!
# The adapter of a scripted world

Every call is counted first; then it fails if too many calls were made or a fault is planned for
it, before it has any effect; and else it is answered from the state and the world's script.
-/

namespace TransferDrill.Rehearsal

/-- The fault that a counted call meets, if any. -/
def fault? (world : World) (state : State) (name : String) : Option Fault :=
  if world.callLimit < state.calls then some (.cancelled ⟨"call limit"⟩)
  else (Keyed.get? name state.faults).bind fun planned =>
    if planned.occurrence.all (· == (state.count name : Int)) then some planned.fault else none

/-- The address of the key that is derived next. -/
def derived (world : World) (state : State) (key : PublicKey) : String :=
  let count := state.count "derive"
  match world.derivation with
  | .counted => s!"new{count}"
  | .fromKey => "addr_" ++ String.ofList (key.hexBytes.toList.take 16)
  | .listed addresses => Random.Source.cycled "" addresses (count - 1)

/-- Store a key: a new address may come with funds. -/
def stored (world : World) (state : State) (address : String) : State :=
  if world.storesKeys && !state.addresses.contains address then
    let state := { state with addresses := state.addresses ++ [address] }
    match world.newFunds[state.count "store_key" - 1]? with
    | none => state
    | some value =>
      { state with
        balances := Keyed.put address (some value) state.balances
        coins := Keyed.put address ⟨some value, some ⟨s!"{address}:0"⟩⟩ state.coins }
  else state

/-- The data for an intent, if the world does not say otherwise: a nonce and the request. -/
def defaultMetadata (request : Option Json.Members) : Json.Members :=
  Keyed.merge [("nonce", .int 7)] (request.getD [])

/-- One payload for every operation that takes from an account. -/
def defaultPayloads (intent : List Operation) : List SigningPayload :=
  intent.filterMap fun operation =>
    match operation.account, operation.amount with
    | some account, some amount =>
      if amount.value.startsWith "-" then some ⟨some account, none, "", none⟩ else none
    | _, _ => none

/-- The operations that a transaction is parsed into. -/
def ParseScript.parsed (script : ParseScript) (intent : List Operation) : List Operation :=
  let given := script.operations.getD intent
  let kept := given.zipIdx.filterMap fun (operation, index) =>
    if script.dropped.contains (index : Int) then none else some operation
  let all := kept ++ script.appended
  if script.reversed then all.reverse else all

/-- A stand-in for a signature. -/
def signature (payload : SigningPayload) : Signature :=
  ⟨payload, ⟨"", .secp256k1⟩, .ecdsa, ""⟩

/-- Take the next change that follows a transaction. -/
def afterTransaction (state : State) : State :=
  match state.afterTransactions with
  | [] => state
  | m :: rest => { state.apply m with afterTransactions := rest }

/-- Receive a transaction. -/
def received (world : World) (state : State) (sender : String) (identifier : TransactionIdentifier)
    (intent : List Operation) : Except Fault Unit × State :=
  let booked :=
    if world.keepsLedger then state.bookFrom identifier.hash 0 intent else (state, .ok ())
  match booked with
  | (state, .error e) => (.error (.raised e), state)
  | (state, .ok ()) =>
    let state :=
      if world.locksSenders then
        { state with
          locked := state.locked ++ [sender]
          broadcasts := state.broadcasts ++ [⟨identifier, sender⟩] }
      else state
    (.ok (), afterTransaction state)

/-- Answer a call that does not fail. -/
def respond (world : World) (state : State) : (c : Call) → Except Fault c.Value × State
  | .allAddresses => (.ok state.addresses, state)
  | .lockedAddresses => (.ok state.locked, state)
  | .allBroadcasts => (.ok state.broadcasts, state)
  | .accountBalance account _ =>
    (.ok ((Keyed.get? account.address state.balances).getD (some 0)), state)
  | .coinBalance account _ =>
    (.ok ((Keyed.get? account.address state.coins).getD ⟨some 0, none⟩), state)
  | .derive _ key => (.ok (derived world state key), state)
  | .storeKey address _ => (.ok (), stored world state address)
  | .addressCreated _ => (.ok (), state)
  | .preprocess _ intent =>
    (.ok (world.request.getD (some [("operation_count", .int intent.length)])), state)
  | .metadata _ request => (.ok (world.metadata.getD (some (defaultMetadata request))), state)
  | .payloads _ intent _ =>
    let payloads := world.payloads.getD (defaultPayloads intent)
    let count := state.count "payloads"
    (.ok ⟨s!"unsigned-{count}", payloads⟩, { state with intent, payloads })
  | .parse _ false _ =>
    (.ok ⟨world.parseUnsigned.parsed state.intent, world.parseUnsigned.signers.getD []⟩, state)
  | .parse _ true _ =>
    (.ok ⟨world.parseSigned.parsed state.intent,
      world.parseSigned.signers.getD (Matching.intendedSigners state.payloads)⟩, state)
  | .checkOperations .. => (.ok (), state)
  | .checkSigners .. => (.ok (), state)
  | .sign payloads => (.ok (payloads.map signature), state)
  | .combine _ unsigned signatures => (.ok s!"signed({unsigned},{signatures.length})", state)
  | .hash _ transaction => (.ok ⟨s!"hash({transaction})"⟩, state)
  | .transactionCreated sender identifier _ intent =>
    received world state sender identifier intent

/-- The key material for the next key pair: given, or made up from the number of the pair. -/
def nextEntropy (world : World) (state : State) (madeUp : Nat → List UInt8) : List UInt8 × State :=
  let number := state.keyPairs + 1
  (world.entropy.getD state.keyPairs (madeUp number), { state with keyPairs := number })

/-- The bytes made up for a key pair on edwards25519. -/
def madeUpPair (number : Nat) : List UInt8 :=
  let publicBytes := List.replicate 32 (UInt8.ofNat number)
  publicBytes ++ List.replicate 32 (UInt8.ofNat (number + 100)) ++ publicBytes

/-- Answer a request. -/
def answer (world : World) : Environment State
  | .call c, state =>
    let state := state.counted c.name
    match fault? world state c.name with
    | some fault => (.error fault, state)
    | none => respond world state c
  | .secretBytes, state => nextEntropy world state (Secp256k1.bigEndian 32)
  | .edwardsPair, state =>
    let (bytes, state) := nextEntropy world state madeUpPair
    ((bytes.take 32, bytes.drop 32), state)
  | .probability, state =>
    let (x, source) := state.source.probability
    (x, { state with source })
  | .uniform low high, state =>
    let (n, source) := state.source.uniform low high
    (n, { state with source })
  | .sleep _, state =>
    match state.whileSleeping with
    | [] => (.error ⟨"cancelled while sleeping"⟩, state)
    | m :: rest => (.ok (), { state.apply m with whileSleeping := rest })
  | .log _ _, state => ((), state)

end TransferDrill.Rehearsal

import TransferDrill.Rehearsal.World

/-!
# Reports of a rehearsal

From the events of a run: the trace of calls, draws and sleeps, and the log lines.
-/

namespace TransferDrill.Rehearsal

open Schema

/-- The signers of payloads. -/
def signerList (payloads : List SigningPayload) : Json :=
  .array (payloads.map fun payload => .string payload.signer)

/-- The trace entry of a call, after its name. -/
def callDetails (derivation : Derivation) : Call → List Json
  | .allAddresses => []
  | .lockedAddresses => []
  | .allBroadcasts => []
  | .accountBalance account currency => [.string account.address, .string currency.symbol]
  | .coinBalance account currency => [.string account.address, .string currency.symbol]
  | .derive network key =>
    let shown := if derivation = .fromKey then .string key.hexBytes else .null
    [.string network.network, Choice.dump key.curve, shown, .null]
  | .storeKey address pair =>
    [.string address, Choice.dump pair.publicKey.curve, .string pair.privateKey]
  | .addressCreated address => [.string address]
  | .preprocess network intent => [.string network.network, .int intent.length, .null]
  | .metadata network request => [.string network.network, Json.ofMembers? request]
  | .payloads network intent metadata =>
    [.string network.network, .int intent.length, Json.ofMembers? metadata]
  | .parse network _ transaction => [.string network.network, .string transaction]
  | .checkOperations policy intent observed =>
    [.int intent.length, .int observed.length, .bool policy.refuseExtra,
      .bool policy.confirmSuccess]
  | .checkSigners payloads signers => [signerList payloads, .array (signers.map .string)]
  | .sign payloads => [signerList payloads]
  | .combine network unsigned signatures =>
    [.string network.network, .string unsigned, .int signatures.length]
  | .hash network transaction => [.string network.network, .string transaction]
  | .transactionCreated sender identifier transaction intent =>
    [.string sender, .string identifier.hash, .string transaction,
      .array (intent.map (Record.written true))]

/-- The trace entry of an event, if it has one. -/
def traceLine? (derivation : Derivation) : Event → Option Json
  | ⟨.call c, _⟩ => some (.array (.string c.name :: callDetails derivation c))
  | ⟨.probability, _⟩ => some (.array [.string "random"])
  | ⟨.uniform low high, n⟩ => some (.array [.string "randint", .int low, .int high, .int n])
  | ⟨.sleep seconds, _⟩ => some (.array [.string "sleep", .float seconds])
  | ⟨.secretBytes, _⟩ => none
  | ⟨.edwardsPair, _⟩ => none
  | ⟨.log _ _, _⟩ => none

/-- The trace of events. -/
def trace (derivation : Derivation) (events : List Event) : List Json :=
  events.filterMap (traceLine? derivation)

/-- The name of a log level. -/
def levelName : LogLevel → String
  | .debug => "DEBUG"
  | .info => "INFO"
  | .warning => "WARNING"

/-- The log line of an event, if it is one. -/
def logLine? : Event → Option String
  | ⟨.log level text, _⟩ =>
    let name := levelName level
    some s!"{name}: {text}"
  | _ => none

/-- The log lines of events. -/
def logLines (events : List Event) : List String :=
  events.filterMap logLine?

end TransferDrill.Rehearsal

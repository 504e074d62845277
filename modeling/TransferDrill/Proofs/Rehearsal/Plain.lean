import TransferDrill.Model.Settings
import TransferDrill.Rehearsal.Adapter
import TransferDrill.Scenario.Context
import TransferDrill.Proofs.Drive.Path
import TransferDrill.Proofs.Matching.Operations

/-!
# Plain rehearsals

A rehearsal in which nothing is out of the ordinary: no fault is planned, the adapter parses back
what it was asked for, and every address known holds some funds. It serves as the concrete case of
statements about all environments. Its draws respect their bounds, as those of any rehearsal do.
-/

namespace TransferDrill

/-- Whether a value was reached that passes a test. -/
def Outcome.any {α : Type} (test : α → Bool) : Outcome α → Bool
  | .done a => test a
  | _ => false

/-- A run to a value that passes a test, written out. -/
theorem Run.exists_of_any {σ α : Type} {run : Run σ α} {test : α → Bool}
    (h : run.outcome.any test = true) :
    ∃ a, run = ⟨run.events, run.state, .done a⟩ ∧ test a = true := by
  obtain ⟨events, state, outcome⟩ := run
  cases outcome with
  | done a => exact ⟨a, rfl, h⟩
  | failed f => cases h
  | unfinished => cases h

namespace Rehearsal

/-- The draws of a rehearsal respect their bounds. -/
theorem answer_respectsBounds (world : World) : (answer world).RespectsBounds := by
  intro low high state h
  exact state.source.uniform_mem h

/-- An adapter and a handler that behave as they should. -/
def World.plain : World where
  derivation := .counted
  entropy := []
  storesKeys := true
  newFunds := []
  request := none
  metadata := none
  payloads := none
  parseUnsigned := ⟨none, [], [], false, none⟩
  parseSigned := ⟨none, [], [], true, none⟩
  keepsLedger := false
  locksSenders := false
  callLimit := 300

/-- A state in which each of some addresses holds a balance, which is also that of its coin. -/
def State.holding (funds : List (String × Int)) : State where
  addresses := funds.map (·.1)
  balances := funds.map fun entry => (entry.1, some entry.2)
  coins := funds.map fun entry => (entry.1, ⟨some entry.2, some ⟨entry.1 ++ ":0"⟩⟩)
  locked := []
  broadcasts := []
  faults := []
  whileSleeping := []
  afterTransactions := []
  source := .scripted [] [] 0 0
  calls := 0
  counts := []
  keyPairs := 0
  intent := []
  payloads := []

/-- A state without addresses, in which the first one that is made is funded during a sleep. -/
def State.fundedAsleep (amount : Int) : State :=
  { State.holding [] with whileSleeping := [⟨[("new1", some amount)], [], none, none, none, none⟩] }

/-- A currency of eight decimal places. -/
def plainCurrency : Currency := ⟨"TST", 8, none⟩

/-- An operation that moves a value to an account, or from it. -/
def plainOperation (index : Nat) (address value : String) (data : Option Json.Members) :
    Operation where
  identifier := ⟨index, none⟩
  related := none
  kind := "transfer"
  status := none
  account := some ⟨address, none, data⟩
  amount := some ⟨value, plainCurrency, none⟩
  coinChange := none
  metadata := none

/-- A plain operation has distinct names if its data has. -/
theorem plainOperation_namesDistinct {index : Nat} {address value : String}
    {data : Option Json.Members} (h : Json.NamesDistinct? data) :
    (plainOperation index address value data).NamesDistinct where
  account := by
    intro account h
    cases h
    exact ⟨nofun, h⟩
  amount := by
    intro amount h
    cases h
    exact ⟨nofun, nofun⟩

/-- An intent that takes twice from one account and names its data in different orders. -/
def plainIntent : List Operation :=
  [plainOperation 0 "a" "-10" (some [("k", .int 1), ("l", .null)]),
    plainOperation 1 "b" "20" none,
    plainOperation 2 "a" "-10" (some [("l", .null), ("k", .bool true)])]

/-- The plain intent has distinct names. -/
theorem plainIntent_namesDistinct : ∀ op ∈ plainIntent, op.NamesDistinct := by
  intro op hop
  simp only [plainIntent, List.mem_cons, List.not_mem_nil, or_false] at hop
  rcases hop with rfl | rfl | rfl
  all_goals
    refine plainOperation_namesDistinct ?_
    simp [Json.NamesDistinct?, Json.NamesDistinct, Json.ValuesNamesDistinct]

/-- Settings for transfers from a sender to a recipient; where coins are spent, there is change. -/
def plainSettings (accounting : AccountingModel) : Settings where
  network := ⟨"chain", "net", none⟩
  accounting := accounting
  currency := plainCurrency
  minimumBalance := 5
  maximumFee := 1
  curve := .secp256k1
  newAddressProbability := .ofInt 1
  maxAddresses := 3
  templates :=
    [plainOperation 0 Placeholder.sender.mark ("-" ++ Placeholder.senderValue.mark) none,
      plainOperation 1 Placeholder.recipient.mark Placeholder.recipientValue.mark none]
  changeTemplate := match accounting with
    | .account => none
    | .utxo =>
      some (plainOperation 2 Placeholder.changeAddress.mark Placeholder.changeValue.mark none)
  sleepTime := .ofInt 10

/-- A sized transfer with change, between accounts whose addresses need escapes. -/
def plainContext : Context where
  sender := "a\"\\"
  senderValue := 30
  recipient := "\n\x7b\x7b CHANGE_VALUE \x7d\x7dé"
  recipientValue := 20
  currency := plainCurrency
  changeAddress := "c"
  changeValue := some 9
  coin := some ⟨"a:0"⟩

end Rehearsal

end TransferDrill

import TransferDrill.Model.Operation

/-!
# The settings of a drill

The chain under test, the balance policy, how new addresses come about, and the operation
templates of a transfer. A template for change makes sense only where coins are spent whole.
-/

namespace TransferDrill

open Schema

/-- How transfers are made. Balances count atomic units of the currency. -/
structure Settings where
  network : NetworkIdentifier
  accounting : AccountingModel
  currency : Currency
  minimumBalance : Nat
  maximumFee : Nat
  curve : Curve
  newAddressProbability : Binary64
  maxAddresses : Nat
  templates : List Operation
  changeTemplate : Option Operation
  sleepTime : Binary64
deriving DecidableEq, Repr

namespace Settings

/-- All templates, that for change being the last. -/
def allTemplates (s : Settings) : List Operation := s.templates ++ s.changeTemplate.toList

/-- What the single members cannot tell: change needs coins. -/
def checkChange (s : Settings) : Reading Settings :=
  if s.changeTemplate.isSome ∧ s.accounting ≠ .utxo then
    .refuse (.inconsistent "change_scenario is only supported with the utxo accounting model")
  else .accepted s

instance : Record Settings where
  title := "ConstructionConfig"
  ofMembers m :=
    Reading.andThen
      (Settings.mk
        <$> required "network" Record.read m
        <*> defaulted "accounting_model" .account Choice.read m
        <*> required "currency" Record.read m
        <*> defaulted "minimum_balance" 0 (natural 0) m
        <*> defaulted "maximum_fee" 0 (natural 0) m
        <*> defaulted "curve_type" .secp256k1 Choice.read m
        <*> defaulted "new_account_probability" (.ofDecimal false 5 (-1)) probability m
        <*> defaulted "max_addresses" 200 (natural 1) m
        <*> required "scenario" (nonEmptyList Record.read) m
        <*> optional "change_scenario" Record.read m
        <*> defaulted "sleep_time" (.ofInt 10) positive m)
      checkChange
  toMembers keepAbsent a :=
    [("network", Record.dump keepAbsent a.network),
      ("accounting_model", Choice.dump a.accounting),
      ("currency", Record.dump keepAbsent a.currency),
      ("minimum_balance", .int a.minimumBalance),
      ("maximum_fee", .int a.maximumFee),
      ("curve_type", Choice.dump a.curve),
      ("new_account_probability", .float a.newAddressProbability),
      ("max_addresses", .int a.maxAddresses),
      ("scenario", .array (a.templates.map (Record.dump keepAbsent)))]
      ++ optionalMember keepAbsent "change_scenario" (a.changeTemplate.map (Record.dump keepAbsent))
      ++ [("sleep_time", .float a.sleepTime)]
  portable a :=
    { a with
      network := Record.portable a.network
      currency := Record.portable a.currency
      templates := a.templates.map Record.portable
      changeTemplate := a.changeTemplate.map Record.portable }
  -- a template stands one level further in
  nesting a :=
    deepest (Record.nesting a.network :: Record.nesting a.currency ::
      a.allTemplates.map (Record.nesting · + 1))

end Settings

end TransferDrill

import TransferDrill.Schema.Record
import TransferDrill.Model.Kinds

/-!
# Chains, accounts and amounts

The names by which an adapter and the drill talk about a chain, its currency, the accounts on it
and what they hold.
-/

namespace TransferDrill

open Schema

/-- A network of a chain. -/
structure NetworkIdentifier where
  blockchain : String
  network : String
  subNetwork : Option Json.Members
deriving DecidableEq, Repr

instance : Record NetworkIdentifier where
  title := "NetworkIdentifier"
  ofMembers m :=
    NetworkIdentifier.mk
      <$> required "blockchain" nonEmptyString m
      <*> required "network" nonEmptyString m
      <*> optional "sub_network_identifier" members m
  toMembers keepAbsent a :=
    [("blockchain", .string a.blockchain), ("network", .string a.network)]
      ++ optionalMember keepAbsent "sub_network_identifier" (a.subNetwork.map .object)
  portable a := { a with subNetwork := a.subNetwork.map Json.portableMembers }
  nesting a := memberNesting a.subNetwork

/-- A currency and the number of its decimal places. -/
structure Currency where
  symbol : String
  decimals : Nat
  metadata : Option Json.Members
deriving DecidableEq, Repr

instance : Record Currency where
  title := "Currency"
  ofMembers m :=
    Currency.mk
      <$> required "symbol" nonEmptyString m
      <*> required "decimals" (natural 0) m
      <*> optional "metadata" members m
  toMembers keepAbsent a :=
    [("symbol", .string a.symbol), ("decimals", .int a.decimals)]
      ++ optionalMember keepAbsent "metadata" (a.metadata.map .object)
  portable a := { a with metadata := a.metadata.map Json.portableMembers }
  nesting a := memberNesting a.metadata

/-- An account on a chain. -/
structure AccountIdentifier where
  address : String
  subAccount : Option Json.Members
  metadata : Option Json.Members
deriving DecidableEq, Repr

/-- The plain account at an address. -/
def AccountIdentifier.ofAddress (address : String) : AccountIdentifier := ⟨address, none, none⟩

instance : Record AccountIdentifier where
  title := "AccountIdentifier"
  ofMembers m :=
    AccountIdentifier.mk
      <$> required "address" string m
      <*> optional "sub_account" members m
      <*> optional "metadata" members m
  toMembers keepAbsent a :=
    [("address", .string a.address)]
      ++ optionalMember keepAbsent "sub_account" (a.subAccount.map .object)
      ++ optionalMember keepAbsent "metadata" (a.metadata.map .object)
  portable a :=
    { a with
      subAccount := a.subAccount.map Json.portableMembers
      metadata := a.metadata.map Json.portableMembers }
  nesting a := deepest [memberNesting a.subAccount, memberNesting a.metadata]

/-- An amount of a currency; the value stays text, for in a template it holds placeholders. -/
structure Amount where
  value : String
  currency : Currency
  metadata : Option Json.Members
deriving DecidableEq, Repr

instance : Record Amount where
  title := "Amount"
  ofMembers m :=
    Amount.mk
      <$> required "value" string m
      <*> required "currency" Record.read m
      <*> optional "metadata" members m
  toMembers keepAbsent a :=
    [("value", .string a.value), ("currency", Record.dump keepAbsent a.currency)]
      ++ optionalMember keepAbsent "metadata" (a.metadata.map .object)
  portable a :=
    { a with
      currency := Record.portable a.currency
      metadata := a.metadata.map Json.portableMembers }
  nesting a := deepest [Record.nesting a.currency, memberNesting a.metadata]

/-- An unspent coin. -/
structure CoinIdentifier where
  identifier : String
deriving DecidableEq, Repr

instance : Record CoinIdentifier where
  title := "CoinIdentifier"
  ofMembers m := CoinIdentifier.mk <$> required "identifier" string m
  toMembers _ a := [("identifier", .string a.identifier)]

/-- What an operation does to which coin. -/
structure CoinChange where
  coin : CoinIdentifier
  action : CoinAction
deriving DecidableEq, Repr

instance : Record CoinChange where
  title := "CoinChange"
  ofMembers m :=
    CoinChange.mk
      <$> required "coin_identifier" Record.read m
      <*> required "coin_action" Choice.read m
  toMembers keepAbsent a :=
    [("coin_identifier", Record.dump keepAbsent a.coin), ("coin_action", Choice.dump a.action)]

end TransferDrill

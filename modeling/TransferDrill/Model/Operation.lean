import TransferDrill.Model.Chain

/-!
# Operations

A transaction is a list of operations, each of which changes at most one balance.
-/

namespace TransferDrill

open Schema

/-- The place of an operation in its transaction. -/
structure OperationIdentifier where
  index : Nat
  networkIndex : Option Int
deriving DecidableEq, Repr

instance : Record OperationIdentifier where
  title := "OperationIdentifier"
  ofMembers m :=
    OperationIdentifier.mk
      <$> required "index" (natural 0) m
      <*> optional "network_index" integer m
  toMembers keepAbsent a :=
    [("index", .int a.index)] ++ optionalMember keepAbsent "network_index" (a.networkIndex.map .int)

/-- A single change of a balance inside a transaction. -/
structure Operation where
  identifier : OperationIdentifier
  related : Option (List OperationIdentifier)
  kind : String
  status : Option String
  account : Option AccountIdentifier
  amount : Option Amount
  coinChange : Option CoinChange
  metadata : Option Json.Members
deriving DecidableEq, Repr

instance : Record Operation where
  title := "Operation"
  ofMembers m :=
    Operation.mk
      <$> required "operation_identifier" Record.read m
      <*> optional "related_operations" (list Record.read) m
      <*> required "type" string m
      <*> optional "status" string m
      <*> optional "account" Record.read m
      <*> optional "amount" Record.read m
      <*> optional "coin_change" Record.read m
      <*> optional "metadata" members m
  toMembers keepAbsent a :=
    [("operation_identifier", Record.dump keepAbsent a.identifier)]
      ++ optionalMember keepAbsent "related_operations"
        (a.related.map fun items => .array (items.map (Record.dump keepAbsent)))
      ++ [("type", .string a.kind)]
      ++ optionalMember keepAbsent "status" (a.status.map .string)
      ++ optionalMember keepAbsent "account" (a.account.map (Record.dump keepAbsent))
      ++ optionalMember keepAbsent "amount" (a.amount.map (Record.dump keepAbsent))
      ++ optionalMember keepAbsent "coin_change" (a.coinChange.map (Record.dump keepAbsent))
      ++ optionalMember keepAbsent "metadata" (a.metadata.map .object)
  portable a :=
    { a with
      account := a.account.map Record.portable
      amount := a.amount.map Record.portable
      metadata := a.metadata.map Json.portableMembers }
  nesting a := deepest [partNesting a.account, partNesting a.amount, memberNesting a.metadata]

end TransferDrill

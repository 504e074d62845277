import TransferDrill.Model.Operation
import TransferDrill.Json.Equality
import TransferDrill.Json.Literal
import TransferDrill.Json.Writable

/-!
# Comparing and showing accounts and amounts

Accounts and amounts are equal when all their parts are, free-form data by meaning. In messages
a record shows its members in order, and a record inside another one its title as well. A record
cannot be shown if an integer in it has too many digits to be written.
-/

namespace TransferDrill

/-- Equality of optional parts, given that of the parts. -/
def samePart {α : Type} (same : α → α → Bool) : Option α → Option α → Bool
  | none, none => true
  | some a, some b => same a b
  | _, _ => false

/-- Equality of accounts by meaning. -/
def AccountIdentifier.same (a b : AccountIdentifier) : Bool :=
  a.address == b.address && Json.sameMembers? a.subAccount b.subAccount &&
    Json.sameMembers? a.metadata b.metadata

/-- Equality of currencies by meaning. -/
def Currency.same (a b : Currency) : Bool :=
  a.symbol == b.symbol && a.decimals == b.decimals && Json.sameMembers? a.metadata b.metadata

/-- Equality of amounts by meaning. -/
def Amount.same (a b : Amount) : Bool :=
  a.value == b.value && a.currency.same b.currency && Json.sameMembers? a.metadata b.metadata

/-- The literal of optional free-form data. -/
def metadataLiteral (metadata : Option Json.Members) : String :=
  (Json.ofMembers? metadata).literalText

/-- An account as messages show it. -/
def AccountIdentifier.summary (a : AccountIdentifier) : String :=
  s!"address={Text.Quoted.quote a.address} sub_account={metadataLiteral a.subAccount}" ++
    s!" metadata={metadataLiteral a.metadata}"

/-- A currency as messages show it inside an amount. -/
def Currency.literalText (a : Currency) : String :=
  s!"Currency(symbol={Text.Quoted.quote a.symbol}, decimals={a.decimals}, " ++
    s!"metadata={metadataLiteral a.metadata})"

/-- An amount as messages show it. -/
def Amount.summary (a : Amount) : String :=
  s!"value={Text.Quoted.quote a.value} currency={a.currency.literalText}" ++
    s!" metadata={metadataLiteral a.metadata}"

/-- Whether an account can be shown. -/
def AccountIdentifier.isShowable (a : AccountIdentifier) : Bool :=
  (Json.ofMembers? a.subAccount).isWritable && (Json.ofMembers? a.metadata).isWritable

/-- Whether a currency can be shown. -/
def Currency.isShowable (a : Currency) : Bool :=
  Numeral.isShort a.decimals && (Json.ofMembers? a.metadata).isWritable

/-- Whether an amount can be shown. -/
def Amount.isShowable (a : Amount) : Bool :=
  a.currency.isShowable && (Json.ofMembers? a.metadata).isWritable

end TransferDrill

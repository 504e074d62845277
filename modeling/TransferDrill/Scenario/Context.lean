import TransferDrill.Model.Chain
import TransferDrill.Scenario.Placeholder
import TransferDrill.Numeric.Numeral

/-!
# The context of a transfer

The addresses and amounts of one transfer, and what they put in for each placeholder.
-/

namespace TransferDrill

/-- A transfer that has been sized; an empty change address means that there is no change. -/
structure Context where
  sender : String
  senderValue : Int
  recipient : String
  recipientValue : Int
  currency : Currency
  changeAddress : String
  changeValue : Option Int
  coin : Option CoinIdentifier
deriving DecidableEq, Repr

namespace Context

/-- Whether the transfer has a change output. -/
def hasChange (context : Context) : Bool := !context.changeAddress.isEmpty

/-- The amounts that are written for placeholders. -/
def amounts (context : Context) : List Int :=
  [context.senderValue, context.recipientValue] ++
    if context.hasChange then context.changeValue.toList else []

/-- The text of an amount in a template. -/
def amountText (n : Int) : String := String.ofList (Numeral.ofInt n)

/-- The text of an optional amount. -/
def amountText? : Option Int → String
  | none => "None"
  | some n => amountText n

/-- The placeholders that are filled and their texts, in the order in which they are put in. -/
def fillings (context : Context) : List (Placeholder × String) :=
  [(.senderValue, amountText context.senderValue), (.sender, context.sender),
    (.recipientValue, amountText context.recipientValue), (.recipient, context.recipient)]
    ++ (match context.coin with
      | some coin => [(.coinIdentifier, coin.identifier)]
      | none => [])
    ++ (if context.hasChange then
        [(.changeAddress, context.changeAddress), (.changeValue, amountText? context.changeValue)]
      else [])

end Context

end TransferDrill

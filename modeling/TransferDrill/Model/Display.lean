import TransferDrill.Model.Chain
import TransferDrill.Numeric.FixedPoint

/-!
# Amounts for people

Amounts count atomic units; people read whole units with the symbol behind.
-/

namespace TransferDrill

open Numeric

/-- An atomic amount in whole units, unless the currency has more places than can be shown. -/
def Currency.display? (currency : Currency) (amount : Int) : Option String :=
  if FixedPoint.maxPlaces < currency.decimals then none
  else
    let value := String.ofList (FixedPoint.ofScaled amount currency.decimals).text
    some s!"{value} {currency.symbol}"

end TransferDrill

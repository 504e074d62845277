import TransferDrill.Numeric.Rounding

/-!
# Fixed point numbers of limited precision

An integer divided by a power of ten, with at most 28 significant digits and an exponent no lower
than -1000026. What does not fit is rounded once, half to even, and the exponent grows by the
number of digits given up. The text has all digits down to the exponent, or down to the units
when the exponent is positive.
-/

namespace TransferDrill.Numeric

/-- A sign, a coefficient and a power of ten. -/
structure FixedPoint where
  negative : Bool
  coefficient : Nat
  exponent : Int
deriving DecidableEq, Repr

namespace FixedPoint

/-- The number of significant digits that are kept. -/
def precision : Nat := 28

/-- The lowest exponent. -/
def lowestExponent : Int := -1000026

/-- The largest number of places by which a number can be shifted. -/
def maxPlaces : Nat := 2000054

/-- The number of decimal digits of a number; zero has one. -/
def size (n : Nat) : Nat := (Nat.toDigits 10 n).length

/-- The exponent at which `n / 10 ^ places` is kept. -/
def keptExponent (n places : Nat) : Int :=
  max (((size n - precision : Nat) : Int) - places) lowestExponent

/-- The number kept of `amount / 10 ^ places`; a carry into one more digit moves the exponent. -/
def ofScaled (amount : Int) (places : Nat) : FixedPoint :=
  let exponent := keptExponent amount.natAbs places
  let kept := roundHalfEven amount.natAbs (10 ^ (exponent + places).toNat)
  if kept = 10 ^ precision then ⟨amount < 0, 10 ^ (precision - 1), exponent + 1⟩
  else ⟨amount < 0, kept, exponent⟩

/-- Digits with a point in front of the last `places`; at least one digit stands before it. -/
def point (digits : List Char) (places : Nat) : List Char :=
  if places = 0 then digits
  else
    let padded := List.replicate (places + 1 - digits.length) '0' ++ digits
    padded.take (padded.length - places) ++ '.' :: padded.drop (padded.length - places)

/-- The text of a number. -/
def text (x : FixedPoint) : List Char :=
  let digits := Nat.toDigits 10 x.coefficient ++ List.replicate x.exponent.toNat '0'
  let body := point digits (-x.exponent).toNat
  if x.negative then '-' :: body else body

example : (ofScaled 150000000 8).text = "1.50000000".toList := by decide +kernel
example : (ofScaled (-5) 3).text = "-0.005".toList := by decide +kernel
example : (ofScaled (10 ^ 29 + 50) 2).text = "1000000000000000000000000000".toList := by
  decide +kernel
example : (ofScaled (10 ^ 29 - 1) 2).text = "1000000000000000000000000000".toList := by
  decide +kernel

end FixedPoint

end TransferDrill.Numeric

import TransferDrill.Numeric.Rounding

/-!
# Binary floating point of 64 bits

A number is its bit pattern. Every finite one is a whole multiple of the smallest positive one,
2^-1074, so the exact value of a pattern is an integer count of these units, and comparing
numbers of all kinds is comparing integers. Rounding a quotient to the nearest number is exact,
with ties going to the even pattern.
-/

namespace TransferDrill

/-- A floating point number, as its bits. -/
structure Binary64 where
  bits : UInt64
deriving DecidableEq, Repr, Inhabited

/-- What a number is worth: finite values are counted in units of 2^-1074. -/
inductive Exact where
  | notANumber
  | infinite (negative : Bool)
  | finite (units : Int)
deriving DecidableEq, Repr

namespace Exact

/-- Units in one. -/
def unitsPerOne : Int := 2 ^ 1074

/-- The exact value of an integer. -/
def ofInt (n : Int) : Exact := .finite (n * unitsPerOne)

/-- Order of numbers; what is not a number is not below anything. -/
def less : Exact → Exact → Bool
  | .notANumber, _ => false
  | _, .notANumber => false
  | .infinite a, .infinite b => a && !b
  | .infinite a, .finite _ => a
  | .finite _, .infinite b => !b
  | .finite a, .finite b => a < b

/-- Order or equality of numbers; what is not a number is not even at most itself. -/
def atMost (a b : Exact) : Bool :=
  a.less b || (a != .notANumber && a == b)

end Exact

namespace Binary64

/-- The pattern of infinity without its sign. -/
def infinityMagnitude : Nat := 0x7ff0000000000000

/-- The pattern without its sign. -/
def magnitude (x : Binary64) : Nat := x.bits.toNat % 2 ^ 63

/-- Whether the sign bit is set. -/
def isNegative (x : Binary64) : Bool := 2 ^ 63 ≤ x.bits.toNat

/-- A pattern from its sign and the rest. -/
def ofMagnitude (negative : Bool) (magnitude : Nat) : Binary64 :=
  ⟨UInt64.ofNat (if negative then 2 ^ 63 + magnitude else magnitude)⟩

/-- The biased exponent. -/
def exponentField (x : Binary64) : Nat := x.magnitude / 2 ^ 52

/-- The bits after the binary point. -/
def fractionField (x : Binary64) : Nat := x.magnitude % 2 ^ 52

/-- The whole significand; the leading bit is implicit in normal numbers. -/
def significand (x : Binary64) : Nat :=
  if x.exponentField = 0 then x.fractionField else 2 ^ 52 + x.fractionField

/-- The exponent of the last significand bit, counted from that of the unit. -/
def scale (x : Binary64) : Nat := x.exponentField - 1

/-- The exact value of a pattern. -/
def exact (x : Binary64) : Exact :=
  if infinityMagnitude < x.magnitude then .notANumber
  else if x.magnitude = infinityMagnitude then .infinite x.isNegative
  else
    let units : Int := x.significand * 2 ^ x.scale
    .finite (if x.isNegative then -units else units)

/-- Whether the value is finite. -/
def isFinite (x : Binary64) : Bool := x.magnitude < infinityMagnitude

/-- The pattern of a quiet value that is not a number. -/
def notANumber : Binary64 := ⟨0x7ff8000000000000⟩

/-- Infinity of either sign. -/
def infinity (negative : Bool) : Binary64 := ofMagnitude negative infinityMagnitude

/-- Zero of either sign. -/
def zero (negative : Bool) : Binary64 := ofMagnitude negative 0

/-- The exponent of the last bit kept of a positive quotient: 53 bits, or down to the unit. -/
def lastBit (num den : Nat) : Int :=
  let guess : Int := (Nat.log2 num : Int) - Nat.log2 den
  let top := if num * 2 ^ (-guess).toNat < den * 2 ^ guess.toNat then guess - 1 else guess
  max (top - 52) (-1074)

/-- The number nearest to a quotient, with ties to the even pattern; beyond the range, infinity. -/
def ofRatio (negative : Bool) (num den : Nat) : Binary64 :=
  if num = 0 then zero negative
  else
    let last := lastBit num den
    let kept := Numeric.roundHalfEven (num * 2 ^ (-last).toNat) (den * 2 ^ last.toNat)
    ofMagnitude negative (min ((last + 1074).toNat * 2 ^ 52 + kept) infinityMagnitude)

/-- The number nearest to an integer. -/
def ofInt (n : Int) : Binary64 := ofRatio (n < 0) n.natAbs 1

/-- The number nearest to `coefficient * 10 ^ exponent`; exponents far out of range are settled
without computing the power. -/
def ofDecimal (negative : Bool) (coefficient : Nat) (exponent : Int) : Binary64 :=
  let top : Int := exponent + (Nat.toDigits 10 coefficient).length
  if coefficient = 0 ∨ top < -330 then zero negative
  else if 330 < top then infinity negative
  else ofRatio negative (coefficient * 10 ^ exponent.toNat) (10 ^ (-exponent).toNat)

/-- The integer that a finite number without fraction equals. -/
def toInt? (x : Binary64) : Option Int :=
  match x.exact with
  | .finite units =>
    if units % Exact.unitsPerOne = 0 then some (units / Exact.unitsPerOne) else none
  | _ => none

example : ofDecimal false 5 (-1) = ⟨0x3fe0000000000000⟩ := by decide +kernel
example : ofInt (-9007199254740993) = ⟨0xc340000000000000⟩ := by decide +kernel
example : ofDecimal true 1 400 = infinity true := by decide +kernel
example : ofDecimal false 5 (-324) = ⟨1⟩ := by decide +kernel

end Binary64

end TransferDrill

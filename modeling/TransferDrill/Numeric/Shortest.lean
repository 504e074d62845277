import TransferDrill.Numeric.Binary64

/-!
# The shortest decimal text of a floating point number

A finite number is written with the fewest digits that read back as the same number, and among
those with the digits nearest to its exact value. Powers of ten from 10^-4 up to below 10^16 are
written positionally, others with an exponent of two digits at least.
-/

namespace TransferDrill.Binary64

/-- Decimal digits and the place of their leading digit: `d₁.d₂d₃… * 10 ^ top`. -/
structure Digits where
  digits : List Char
  top : Int
deriving DecidableEq, Repr

/-- The power of ten of the leading digit of a positive quotient. -/
def leadingPlace (num den : Nat) : Int :=
  if den ≤ num then ((Nat.toDigits 10 (num / den)).length : Int) - 1
  else -((Nat.toDigits 10 ((den - 1) / num)).length : Int)

/-- Take off trailing zeros, at most `limit` of them. -/
def dropZeros : (limit : Nat) → (coefficient : Nat) → (exponent : Int) → Nat × Int
  | 0, coefficient, exponent => (coefficient, exponent)
  | limit + 1, coefficient, exponent =>
    if coefficient % 10 = 0 then dropZeros limit (coefficient / 10) (exponent + 1)
    else (coefficient, exponent)

/-- The better neighbour of a positive quotient among the multiples of `10 ^ exponent` that read
back as `x`. -/
def onGrid? (x : Binary64) (num den : Nat) (exponent : Int) : Option Nat :=
  let num := num * 10 ^ (-exponent).toNat
  let den := den * 10 ^ exponent.toNat
  let low := num / den
  let reads := fun n => decide (ofDecimal false n exponent = x)
  match reads low, reads (low + 1) with
  | true, true => some (Numeric.roundHalfEven num den)
  | true, false => some low
  | false, true => some (low + 1)
  | false, false => none

/-- The shortest digits of a positive finite number, trying `count` digits and then more. -/
def shortestFrom (x : Binary64) (num den : Nat) (place : Int) :
    (tries : Nat) → (count : Nat) → Nat × Int
  | 0, count =>
    let exponent := place - count
    (Numeric.roundHalfEven (num * 10 ^ (-exponent).toNat) (den * 10 ^ exponent.toNat), exponent)
  | tries + 1, count =>
    match onGrid? x num den (place - count) with
    | some n => (n, place - count)
    | none => shortestFrom x num den place tries (count + 1)

/-- The shortest digits of a positive finite number; seventeen always suffice. -/
def shortest (x : Binary64) : Digits :=
  let num := x.significand * 2 ^ x.scale
  let den := 2 ^ 1074
  let (n, exponent) := shortestFrom x num den (leadingPlace num den) 17 0
  let (n, exponent) := dropZeros 17 n exponent
  let digits := Nat.toDigits 10 n
  ⟨digits, exponent + digits.length - 1⟩

/-- Digits with a decimal point among them, and at least one on each side. -/
def Digits.positional (d : Digits) : List Char :=
  if d.top < 0 then '0' :: '.' :: List.replicate (-d.top - 1).toNat '0' ++ d.digits
  else
    let whole := d.top.toNat + 1
    let padded := d.digits ++ List.replicate (whole - d.digits.length) '0'
    let fraction := padded.drop whole
    padded.take whole ++ '.' :: (if fraction.isEmpty then ['0'] else fraction)

/-- Digits with the point after the first and the exponent behind. -/
def Digits.scientific (d : Digits) : List Char :=
  let mantissa := match d.digits with
    | [] => []
    | [c] => [c]
    | c :: rest => c :: '.' :: rest
  let exponent := Nat.toDigits 10 d.top.natAbs
  let padded := if exponent.length < 2 then '0' :: exponent else exponent
  mantissa ++ 'e' :: (if d.top < 0 then '-' else '+') :: padded

/-- The text of a finite number. -/
def finiteText (x : Binary64) : List Char :=
  let body :=
    if x.magnitude = 0 then ['0', '.', '0']
    else
      let d := shortest (ofMagnitude false x.magnitude)
      if -4 ≤ d.top ∧ d.top < 16 then d.positional else d.scientific
  if x.isNegative then '-' :: body else body

/-- The text of a number in which `infinity` and `other` spell what is not finite. -/
def text (infinity other : String) (x : Binary64) : List Char :=
  match x.exact with
  | .finite _ => x.finiteText
  | .infinite negative => (if negative then ['-'] else []) ++ infinity.toList
  | .notANumber => other.toList

example : (ofDecimal false 5 (-1)).finiteText = "0.5".toList := by decide +kernel
example : (ofInt (-100)).finiteText = "-100.0".toList := by decide +kernel
example : (ofDecimal false 1 16).finiteText = "1e+16".toList := by decide +kernel
example : (ofDecimal false 1 (-5)).finiteText = "1e-05".toList := by decide +kernel
example : (⟨1⟩ : Binary64).finiteText = "5e-324".toList := by decide +kernel
example : (ofDecimal false 30000000000000004 (-17)).finiteText = "0.30000000000000004".toList := by
  decide +kernel

end TransferDrill.Binary64

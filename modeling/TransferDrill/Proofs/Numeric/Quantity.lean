import TransferDrill.Numeric.Binary64
import Mathlib.Algebra.Order.Field.Rat
import Mathlib.Tactic.Positivity

/-!
# What floating point numbers are worth

A pattern of bits stands for a rational number, for an infinity, or for no number. The rule of the
format tells which: normal numbers have a leading bit that is not written, subnormal ones have none,
and the largest exponent is kept for the rest. The exact value of a pattern, an integer count of
units, is the same number by another way of counting; so comparing counts compares rational numbers.
-/

namespace TransferDrill

/-- What a number is worth. -/
inductive Quantity where
  | finite (value : ℚ)
  | infinite (negative : Bool)
  | indefinite
deriving DecidableEq

/-- What an exact value is worth, in ones. -/
def Exact.quantity : Exact → Quantity
  | .notANumber => .indefinite
  | .infinite negative => .infinite negative
  | .finite units => .finite (units / 2 ^ 1074)

namespace Binary64

/-- The exponent field of what is not finite. -/
def lastExponent : Nat := 2047

/-- The sign of a pattern. -/
def sign (x : Binary64) : ℚ := if x.isNegative then -1 else 1

/-- What a pattern is worth by the rule of the format. -/
def quantity (x : Binary64) : Quantity :=
  if x.exponentField = lastExponent then
    if x.fractionField = 0 then .infinite x.isNegative else .indefinite
  else if x.exponentField = 0 then
    .finite (x.sign * (x.fractionField / 2 ^ 52) * 2 ^ (-1022 : ℤ))
  else .finite (x.sign * (1 + x.fractionField / 2 ^ 52) * 2 ^ ((x.exponentField : ℤ) - 1023))

/-- A pattern without its sign is its exponent, then its fraction. -/
theorem magnitude_eq (x : Binary64) :
    x.magnitude = x.exponentField * 2 ^ 52 + x.fractionField := by
  rw [exponentField, fractionField, Nat.mul_comm]
  exact (Nat.div_add_mod x.magnitude (2 ^ 52)).symm

/-- The fraction field has fifty-two bits. -/
theorem fractionField_lt (x : Binary64) : x.fractionField < 2 ^ 52 :=
  Nat.mod_lt _ (by decide)

/-- The exponent field ends at the last exponent. -/
theorem exponentField_le (x : Binary64) : x.exponentField ≤ lastExponent := by
  have hmagnitude : x.magnitude < 2 ^ 63 := Nat.mod_lt _ (by decide)
  rw [exponentField, lastExponent]
  omega

/-- What is not a number has the last exponent and a fraction. -/
theorem infinityMagnitude_lt_iff (x : Binary64) :
    infinityMagnitude < x.magnitude ↔ x.exponentField = lastExponent ∧ x.fractionField ≠ 0 := by
  have hfraction := x.fractionField_lt
  have hexponent := x.exponentField_le
  rw [magnitude_eq]
  simp only [infinityMagnitude, lastExponent] at *
  omega

/-- An infinity has the last exponent and no fraction. -/
theorem magnitude_eq_infinityMagnitude_iff (x : Binary64) :
    x.magnitude = infinityMagnitude ↔ x.exponentField = lastExponent ∧ x.fractionField = 0 := by
  have hfraction := x.fractionField_lt
  have hexponent := x.exponentField_le
  rw [magnitude_eq]
  simp only [infinityMagnitude, lastExponent] at *
  omega

/-- Units are powers of two below one. -/
theorem units_eq (significand scale : Nat) :
    ((significand * 2 ^ scale : Nat) : ℚ) / 2 ^ 1074 =
      significand * 2 ^ ((scale : ℤ) - 1074) := by
  rw [zpow_sub₀ two_ne_zero, zpow_natCast, zpow_ofNat, Nat.cast_mul, Nat.cast_pow, Nat.cast_ofNat,
    mul_div_assoc]

/-- A fraction of 52 bits counts multiples of the power of two that is its last bit. -/
theorem fraction_mul_zpow (a : ℚ) (k : ℤ) : a / 2 ^ 52 * 2 ^ (k + 52) = a * 2 ^ k := by
  rw [zpow_add₀ two_ne_zero, zpow_ofNat, mul_comm (2 ^ k), div_mul_eq_mul_div, ← mul_assoc,
    mul_div_right_comm, mul_div_cancel_right₀ a (by positivity)]

/-- A subnormal number counts its fraction in units. -/
theorem units_of_subnormal (x : Binary64) (h : x.exponentField = 0) :
    ((x.significand * 2 ^ x.scale : Nat) : ℚ) / 2 ^ 1074 =
      x.fractionField / 2 ^ 52 * 2 ^ (-1022 : ℤ) := by
  have hscale : (x.scale : ℤ) - 1074 = -1074 := by
    rw [scale]
    omega
  rw [units_eq, hscale, significand, if_pos h]
  exact (fraction_mul_zpow _ (-1074)).symm

/-- A normal number counts its fraction and the leading bit in multiples of a power of two. -/
theorem units_of_normal (x : Binary64) (h : x.exponentField ≠ 0) :
    ((x.significand * 2 ^ x.scale : Nat) : ℚ) / 2 ^ 1074 =
      (1 + x.fractionField / 2 ^ 52) * 2 ^ ((x.exponentField : ℤ) - 1023) := by
  have hexponent : (x.exponentField : ℤ) - 1023 = ((x.scale : ℤ) - 1074) + 52 := by
    rw [scale]
    omega
  have hwhole : (1 + (x.fractionField : ℚ) / 2 ^ 52) = (2 ^ 52 + x.fractionField) / 2 ^ 52 := by
    rw [add_div, div_self (by positivity)]
  rw [units_eq, hexponent, hwhole, fraction_mul_zpow, significand, if_neg h, Nat.cast_add,
    Nat.cast_pow, Nat.cast_ofNat]

/-- The exact value of a pattern is what it is worth by the rule of the format. -/
theorem quantity_exact (x : Binary64) : x.exact.quantity = x.quantity := by
  have hsigned (units : Nat) : (((if x.isNegative then -(units : Int) else units) : Int) : ℚ) =
      x.sign * units := by
    rw [sign]
    split <;> simp
  rw [exact, quantity]
  by_cases hlast : x.exponentField = lastExponent
  · by_cases hfraction : x.fractionField = 0
    · have hinfinite := x.magnitude_eq_infinityMagnitude_iff.mpr ⟨hlast, hfraction⟩
      rw [if_pos hlast, if_pos hfraction, if_neg (by omega), if_pos hinfinite]
      rfl
    · have hindefinite := x.infinityMagnitude_lt_iff.mpr ⟨hlast, hfraction⟩
      rw [if_pos hlast, if_neg hfraction, if_pos hindefinite]
      rfl
  · have hnumber : ¬infinityMagnitude < x.magnitude := fun h =>
      hlast (x.infinityMagnitude_lt_iff.mp h).1
    have hfinite : x.magnitude ≠ infinityMagnitude := fun h =>
      hlast (x.magnitude_eq_infinityMagnitude_iff.mp h).1
    rw [if_neg hlast, if_neg hnumber, if_neg hfinite]
    have hunits : (x.significand : Int) * 2 ^ x.scale = (x.significand * 2 ^ x.scale : Nat) := by
      push_cast
      rfl
    simp only [hunits, Exact.quantity, hsigned]
    rw [mul_div_assoc]
    split
    · next hsubnormal => rw [units_of_subnormal x hsubnormal, mul_assoc]
    · next hnormal => rw [units_of_normal x hnormal, mul_assoc]

end Binary64

/-- Exact values are told apart by what they are worth. -/
theorem Exact.quantity_injective : Function.Injective Exact.quantity := by
  intro a b h
  cases a with
  | notANumber => cases b <;> simp_all [quantity]
  | infinite negative => cases b <;> simp_all [quantity]
  | finite units =>
    cases b with
    | finite others =>
      have hquotient : (units : ℚ) / 2 ^ 1074 = others / 2 ^ 1074 := Quantity.finite.inj h
      have hunits : (units : ℚ) = others := (div_left_inj' (by positivity)).mp hquotient
      rw [Int.cast_inj.mp hunits]
    | _ => simp [quantity] at h

/-- An integer is worth itself. -/
theorem Exact.quantity_ofInt (n : Int) : (Exact.ofInt n).quantity = .finite n := by
  rw [ofInt, quantity, unitsPerOne, Int.cast_mul, Int.cast_pow, Int.cast_ofNat, mul_div_assoc,
    div_self (by positivity), mul_one]

/-! ## Comparison with integers -/

namespace Exact

/-- Counts of units are compared as what they are worth. -/
theorem units_lt_iff {units others : Int} :
    units < others ↔ (units / 2 ^ 1074 : ℚ) < others / 2 ^ 1074 := by
  rw [div_lt_div_iff_of_pos_right (by positivity), Int.cast_lt]

/-- The units of an integer are worth that integer. -/
theorem units_ofInt (n : Int) : (n * unitsPerOne / 2 ^ 1074 : ℚ) = n := by
  rw [← Int.cast_mul]
  exact Quantity.finite.inj (quantity_ofInt n)

/-- Among finite numbers, one is at most another unless that is below it. -/
theorem finite_atMost_finite_iff {units others : Int} :
    (finite units).atMost (finite others) = true ↔ ¬others < units := by
  simp only [atMost, less, bne_iff_ne, ne_eq, reduceCtorEq, not_false_eq_true, Bool.or_eq_true,
    decide_eq_true_eq, Bool.and_eq_true, beq_iff_eq, finite.injEq, true_and]
  omega

variable {n : Int} {a : Exact}

/-- Above an integer are infinity and the greater rational numbers. -/
theorem ofInt_less_iff :
    (ofInt n).less a = true ↔
      a.quantity = .infinite false ∨ ∃ q : ℚ, a.quantity = .finite q ∧ n < q := by
  cases a with
  | notANumber => simp [ofInt, less, quantity]
  | infinite negative => simp [ofInt, less, quantity]
  | finite units => simp [ofInt, less, quantity, units_lt_iff, units_ofInt]

/-- An integer is at most infinity and the rational numbers that are not below it. -/
theorem ofInt_atMost_iff :
    (ofInt n).atMost a = true ↔
      a.quantity = .infinite false ∨ ∃ q : ℚ, a.quantity = .finite q ∧ n ≤ q := by
  cases a with
  | notANumber => simp [ofInt, atMost, less, quantity]
  | infinite negative => simp [ofInt, atMost, less, quantity]
  | finite units => simp [ofInt, finite_atMost_finite_iff, units_lt_iff, units_ofInt, quantity]

/-- At most an integer are negative infinity and the rational numbers that are not above it. -/
theorem atMost_ofInt_iff :
    a.atMost (ofInt n) = true ↔
      a.quantity = .infinite true ∨ ∃ q : ℚ, a.quantity = .finite q ∧ q ≤ n := by
  cases a with
  | notANumber => simp [ofInt, atMost, less, quantity]
  | infinite negative => simp [ofInt, atMost, less, quantity]
  | finite units => simp [ofInt, finite_atMost_finite_iff, units_lt_iff, units_ofInt, quantity]

end Exact

end TransferDrill

import TransferDrill.Numeric.Power

/-!
# Rounding a quotient to the nearest integer

A quotient halfway between two integers goes to the even one.
-/

namespace TransferDrill.Numeric

/-- The integer nearest to `num / den`, the even one of two. -/
def roundHalfEven (num den : Nat) : Nat :=
  let quotient := num / den
  let twice := 2 * (num % den)
  if den < twice ∨ (twice = den ∧ quotient % 2 = 1) then quotient + 1 else quotient

/-- Whole numbers stay as they are. -/
theorem roundHalfEven_one (n : Nat) : roundHalfEven n 1 = n := by
  simp [roundHalfEven, Nat.mod_one]

end TransferDrill.Numeric

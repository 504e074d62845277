import TransferDrill.Model.Display
import TransferDrill.Proofs.Numeric.FixedPoint

/-!
# Amounts that people read

An amount is shown as the number of whole units that it is, with all places of the currency, as long
as it has no more than 28 digits. From an amount with more digits the multiple of a power of ten is
shown that is nearest to it, and as many places fewer as that power has zeros.
-/

namespace TransferDrill

open Numeric

/-- Read the number in front of the first blank. -/
def readShown (text : String) : ℚ :=
  readNumber (text.toList.takeWhile (· != ' '))

/-- There is no blank in a number. -/
theorem Numeric.Written.ne_blank (w : Written) : ∀ c ∈ w.text, c ≠ ' ' := by
  intro c hc
  have hdigit : c.isDigit = true → c ≠ ' ' := by
    rintro h rfl
    cases h
  simp only [Written.text, List.mem_append] at hc
  rcases hc with (hc | hc) | hc
  · split at hc
    · rw [List.mem_singleton.mp hc]
      decide
    · cases hc
  · exact hdigit (w.digits c (List.mem_append_left _ hc))
  · split at hc
    · cases hc
    · rcases List.mem_cons.mp hc with rfl | hc
      · decide
      · exact hdigit (w.digits c (List.mem_append_right _ hc))

/-- The number in front of the symbol is read back. -/
theorem readShown_eq (w : Written) (symbol : String) :
    readShown s!"{String.ofList w.text} {symbol}" = w.value := by
  have hblank : ∀ c ∈ w.text, (c != ' ') = true := fun c hc => bne_iff_ne.mpr (w.ne_blank c hc)
  have htext : (s!"{String.ofList w.text} {symbol}").toList = w.text ++ ' ' :: symbol.toList := by
    change (String.ofList w.text ++ " " ++ symbol).toList = _
    simp
  rw [readShown, htext, List.takeWhile_append_of_pos hblank, List.takeWhile_cons_of_neg (by decide),
    List.append_nil, w.readNumber_text]

/-- The sign of a number other than zero. -/
theorem cast_sign {amount : Int} (h : amount.natAbs ≠ 0) :
    (amount.sign : ℚ) = if amount < 0 then -1 else 1 := by
  split
  · next hneg => simp [Int.sign_eq_neg_one_of_neg hneg]
  · next hnot =>
    have hpos : 0 < amount := by omega
    simp [Int.sign_eq_one_of_pos hpos]

/-- A number is its sign times its magnitude. -/
theorem sign_mul_natAbs (amount : Int) :
    (if amount < 0 then -1 else 1) * (amount.natAbs : ℚ) = amount := by
  split
  · next hneg =>
    rw [Nat.cast_natAbs, abs_of_neg hneg]
    push_cast
    ring
  · next hnot => rw [Nat.cast_natAbs, abs_of_nonneg (Int.not_lt.mp hnot), one_mul]

namespace Currency

open FixedPoint

/-- The text of an amount is its sign, a number and the symbol, and is read back as the number. Up
to 28 digits the number is the amount in whole units, with all places of the currency. With more
digits it is the nearest multiple of the power of ten that these digits are above, the even one of
two, with as many places fewer as that power has zeros, and one fewer still if it was carried. -/
theorem display_rounds (currency : Currency) (hdecimals : currency.decimals ≤ 1000000)
    (amount : Int) :
    ∃ w : Written,
      currency.display? amount = some s!"{String.ofList w.text} {currency.symbol}" ∧
      (∀ text, currency.display? amount = some text → readShown text = w.value) ∧
      (w.negative = true ↔ amount < 0) ∧
      (amount.natAbs < 10 ^ 28 →
        w.value = amount / 10 ^ currency.decimals ∧ w.fraction.length = currency.decimals) ∧
      ∀ k, 28 < k → 10 ^ (k - 1) ≤ amount.natAbs → amount.natAbs < 10 ^ k →
        ∃ quotient, NearestEven amount.natAbs (10 ^ (k - 28)) quotient ∧
          w.value = amount.sign * (quotient * 10 ^ (k - 28)) / 10 ^ currency.decimals ∧
          w.fraction.length =
            if quotient * 10 ^ (k - 28) = 10 ^ k then currency.decimals - (k - 27)
            else currency.decimals - (k - 28) := by
  obtain ⟨w, htext, hnegative, hvalue, hlength⟩ :=
    exists_written_ofScaled amount (Nat.le_trans hdecimals (by decide))
  have hshown : currency.display? amount = some s!"{String.ofList w.text} {currency.symbol}" := by
    have hplaces : currency.decimals ≤ maxPlaces := Nat.le_trans hdecimals (by decide)
    rw [display?, if_neg (Nat.not_lt.mpr hplaces), htext]
  refine ⟨w, hshown, ?_, ?_, ?_, ?_⟩
  · intro text htext
    cases hshown.symm.trans htext
    exact readShown_eq w currency.symbol
  · rw [hnegative, decide_eq_true_eq]
  · intro (hfew : amount.natAbs < 10 ^ precision)
    rw [kept_eq_self hfew, surplus_eq_zero hfew] at hvalue hlength
    constructor
    · rw [hvalue, Nat.pow_zero, Nat.mul_one, ← mul_div_assoc, sign_mul_natAbs]
    · rw [hlength, if_neg (Nat.ne_of_lt hfew), Nat.sub_zero]
  · intro k hk hleast hmost
    obtain ⟨hsurplus, hnearest, hcarry⟩ := kept_of_digits hk hleast hmost
    refine ⟨kept amount.natAbs, hnearest, ?_, ?_⟩
    · have hsome : amount.natAbs ≠ 0 :=
        Nat.ne_of_gt (Nat.lt_of_lt_of_le (Nat.pow_pos (by decide)) hleast)
      rw [hvalue, hsurplus, cast_sign hsome, precision]
      push_cast
      ring
    · have hplaces : k - 28 + 1 = k - 27 := by omega
      simp only [precision] at hlength hsurplus hcarry
      simp only [hlength, hsurplus, hcarry, hplaces]

/-- One and a half are shown with all eight places, and read back. -/
theorem display_rounds_half :
    let currency : Currency := ⟨"BTC", 8, none⟩
    currency.decimals ≤ 1000000 ∧ currency.display? 150000000 = some "1.50000000 BTC" ∧
      readShown "1.50000000 BTC" = 150000000 / 10 ^ 8 := by
  intro currency
  have hdecimals : currency.decimals ≤ 1000000 := by decide
  have hshown : currency.display? 150000000 = some "1.50000000 BTC" := by decide +kernel
  obtain ⟨w, -, hread, -, hexact, -⟩ := currency.display_rounds hdecimals 150000000
  exact ⟨hdecimals, hshown, (hread _ hshown).trans (hexact (by decide)).1⟩

end Currency

end TransferDrill

import TransferDrill.Numeric.FixedPoint
import Mathlib.Algebra.Field.Rat
import Mathlib.Tactic.FieldSimp
import Mathlib.Tactic.Ring

/-!
# The text of fixed point numbers

The digits of the coefficient are written with zeros behind them or in front of them, so that the
point stands where the exponent wants it. The number that is written is the coefficient times a
power of ten, and this is the integer that was scaled, rounded to 28 digits.
-/

namespace TransferDrill.Numeric

/-! ## Rounding -/

/-- A quotient is the nearest to an exact one; where another is as near, it is the even one. -/
structure NearestEven (num den quotient : Nat) : Prop where
  nearest : ∀ other : Nat,
    ((num : Int) - quotient * den).natAbs ≤ ((num : Int) - other * den).natAbs
  even : ∀ other : Nat, other ≠ quotient →
    ((num : Int) - other * den).natAbs = ((num : Int) - quotient * den).natAbs → quotient % 2 = 0

/-- A number that exceeds a multiple of a unit by less than the unit is as far from that multiple as
it exceeds it, as far from the next one as is missing, and further from all others. -/
theorem distance_cases (quotient rest den other : Nat) (hrest : rest < den) :
    let distance := (((quotient * den + rest : Nat) : Int) - other * den).natAbs
    other = quotient ∧ distance = rest ∨
      other = quotient + 1 ∧ distance = den - rest ∨
      other < quotient ∧ den + rest ≤ distance ∨
      quotient + 1 < other ∧ 2 * den - rest ≤ distance := by
  intro distance
  rcases Nat.lt_trichotomy other quotient with hlt | rfl | hlt
  · have hmul := Nat.mul_le_mul_right den (Nat.succ_le_of_lt hlt)
    rw [Nat.succ_mul] at hmul
    push_cast [distance]
    omega
  · push_cast [distance]
    omega
  · rcases Nat.eq_or_lt_of_le (Nat.succ_le_of_lt hlt) with rfl | hnext
    · push_cast [distance, add_mul, one_mul]
      omega
    · have hmul := Nat.mul_le_mul_right den (Nat.succ_le_of_lt hnext)
      rw [Nat.succ_mul, Nat.succ_mul] at hmul
      push_cast [distance]
      omega

/-- Rounding gives the nearest integer, and the even one of two. -/
theorem roundHalfEven_nearestEven (num : Nat) {den : Nat} (hden : 0 < den) :
    NearestEven num den (roundHalfEven num den) := by
  have hdiv := Nat.div_add_mod' num den
  have hlt := Nat.mod_lt num hden
  have hcases (other : Nat) := distance_cases (num / den) (num % den) den other hlt
  rw [hdiv] at hcases
  simp only [roundHalfEven]
  split
  · next hup =>
    constructor
    · intro other
      have h := hcases (num / den + 1)
      have h' := hcases other
      omega
    · intro other hne heq
      have h := hcases (num / den + 1)
      have h' := hcases other
      omega
  · next hdown =>
    constructor
    · intro other
      have h := hcases (num / den)
      have h' := hcases other
      omega
    · intro other hne heq
      have h := hcases (num / den)
      have h' := hcases other
      omega

/-- A quotient that is not less than one is not rounded to zero. -/
theorem roundHalfEven_pos {num den : Nat} (hden : 0 < den) (h : den ≤ num) :
    0 < roundHalfEven num den := by
  have hquotient : 0 < num / den := Nat.div_pos h hden
  simp only [roundHalfEven]
  split <;> omega

/-! ## Written numbers -/

/-- A decimal number as it is written: a sign, the digits before the point, of which there is one at
least and no superfluous zero, and the digits behind it. -/
structure Written where
  negative : Bool
  whole : List Char
  fraction : List Char
  digits : ∀ c ∈ whole ++ fraction, c.isDigit = true
  someWhole : whole ≠ []
  noZero : whole = ['0'] ∨ whole.head? ≠ some '0'

namespace Written

/-- The text of a number; where there are no digits behind the point, there is no point. -/
def text (w : Written) : List Char :=
  (if w.negative then ['-'] else []) ++ w.whole ++
    if w.fraction.isEmpty then [] else '.' :: w.fraction

/-- The number that is written. -/
def value (w : Written) : ℚ :=
  (if w.negative then -1 else 1) *
    (Nat.ofDigitChars 10 (w.whole ++ w.fraction) 0 / 10 ^ w.fraction.length)

end Written

/-- Read a number without a sign: all its digits, divided by ten for each one behind the point. -/
def readUnsigned (text : List Char) : ℚ :=
  let whole := text.takeWhile (· != '.')
  let fraction := (text.dropWhile (· != '.')).tail
  Nat.ofDigitChars 10 (whole ++ fraction) 0 / 10 ^ fraction.length

/-- Read a number. -/
def readNumber : List Char → ℚ
  | '-' :: rest => -readUnsigned rest
  | text => readUnsigned text

/-- Without a minus sign, a number is read as unsigned. -/
theorem readNumber_of_ne {first : Char} {rest : List Char} (h : first ≠ '-') :
    readNumber (first :: rest) = readUnsigned (first :: rest) := by
  unfold readNumber
  split
  · next hminus => exact absurd (List.cons.inj hminus).1 h
  · rfl

/-- Digits around a point are read as all digits over a power of ten. -/
theorem readUnsigned_append {whole : List Char} (fraction : List Char)
    (h : ∀ c ∈ whole, c ≠ '.') :
    readUnsigned (whole ++ if fraction.isEmpty then [] else '.' :: fraction) =
      Nat.ofDigitChars 10 (whole ++ fraction) 0 / 10 ^ fraction.length := by
  have hwhole : ∀ c ∈ whole, (c != '.') = true := fun c hc => bne_iff_ne.mpr (h c hc)
  rw [readUnsigned, List.takeWhile_append_of_pos hwhole, List.dropWhile_append_of_pos hwhole]
  cases fraction <;> simp

/-- What is written is read back. -/
theorem Written.readNumber_text (w : Written) : readNumber w.text = w.value := by
  have hdigit {c d : Char} (hd : d.isDigit = false) (hc : c ∈ w.whole) : c ≠ d := by
    rintro rfl
    exact Bool.false_ne_true (hd.symm.trans (w.digits c (List.mem_append_left _ hc)))
  have hread := readUnsigned_append w.fraction fun c => hdigit (d := '.') (by decide)
  obtain ⟨first, rest, hwhole⟩ := List.exists_cons_of_ne_nil w.someWhole
  have hfirst : first ≠ '-' := hdigit (by decide) (hwhole ▸ List.mem_cons_self)
  rw [Written.text, Written.value, ← hread]
  cases w.negative with
  | true => simp [readNumber]
  | false =>
    rw [hwhole, if_neg Bool.false_ne_true, if_neg Bool.false_ne_true, one_mul]
    exact readNumber_of_ne hfirst

/-! ## Digits -/

/-- The digits of a number other than zero do not begin with a zero. -/
theorem head?_toDigits_ne {n : Nat} (hn : 0 < n) : (Nat.toDigits 10 n).head? ≠ some '0' := by
  induction n using Nat.base_induction 10 (by decide) with
  | single m hm =>
    rw [Nat.toDigits_of_lt_base hm]
    simpa using Nat.ne_of_gt hn
  | digit m k hk hm ih =>
    rw [← Nat.toDigits_append_toDigits (by decide) hm hk,
      List.head?_append_of_ne_nil _ Nat.toDigits_ne_nil]
    exact ih hm

/-- Digits with zeros in front of them are divided by the point so that some are before it, with a
superfluous zero only if there was one. -/
theorem point_eq {digits : List Char} (places : Nat) (hsome : digits ≠ [])
    (hzero : digits = ['0'] ∨ digits.head? ≠ some '0') :
    ∃ whole fraction zeros,
      FixedPoint.point digits places =
        whole ++ (if fraction.isEmpty then [] else '.' :: fraction) ∧
      whole ++ fraction = List.replicate zeros '0' ++ digits ∧ fraction.length = places ∧
      whole ≠ [] ∧ (whole = ['0'] ∨ whole.head? ≠ some '0') := by
  by_cases hplaces : places = 0
  · refine ⟨digits, [], 0, ?_, by simp, hplaces.symm, hsome, hzero⟩
    simp [FixedPoint.point, hplaces]
  · let zeros := places + 1 - digits.length
    let padded := List.replicate zeros '0' ++ digits
    have hlength : padded.length = zeros + digits.length := by simp [padded]
    have hpoint : FixedPoint.point digits places = padded.take (padded.length - places) ++
        '.' :: padded.drop (padded.length - places) := by
      rw [FixedPoint.point, if_neg hplaces]
    have hfraction : (padded.drop (padded.length - places)).length = places := by
      rw [List.length_drop]
      omega
    have hsomeFraction : padded.drop (padded.length - places) ≠ [] :=
      List.ne_nil_of_length_pos (by omega)
    have hwhole : (padded.take (padded.length - places)).length = padded.length - places := by
      rw [List.length_take]
      omega
    refine ⟨_, _, zeros, ?_, List.take_append_drop (padded.length - places) padded, hfraction,
      List.ne_nil_of_length_pos (by omega), ?_⟩
    · rw [hpoint, if_neg (by simpa using hsomeFraction)]
    · rcases Nat.eq_zero_or_pos zeros with hnone | hpadded
      · -- there are more digits than places, so the first one is the first of the digits
        have hmore : places < digits.length := by omega
        have hhead : digits.head? ≠ some '0' := by
          refine hzero.resolve_left ?_
          rintro rfl
          exact hplaces (Nat.lt_one_iff.mp hmore)
        right
        rwa [List.head?_take, if_neg (by omega), show padded = digits by simp [padded, hnone]]
      · left
        have hone : padded.length - places = 1 := by omega
        obtain ⟨rest, hrest⟩ := Nat.exists_eq_add_one_of_ne_zero (Nat.ne_of_gt hpadded)
        rw [hone, show padded = '0' :: (List.replicate rest '0' ++ digits) by
          simp [padded, hrest, List.replicate_succ]]
        rfl

/-! ## The text -/

namespace FixedPoint

/-- The number that a sign, a coefficient and an exponent stand for. -/
def value (x : FixedPoint) : ℚ :=
  (if x.negative then -1 else 1) * (x.coefficient * 10 ^ x.exponent)

/-- A power of ten with any exponent, as a quotient of powers without signs. -/
theorem pow_toNat_div (exponent : Int) :
    (10 : ℚ) ^ exponent.toNat / 10 ^ (-exponent).toNat = 10 ^ exponent := by
  obtain ⟨n, rfl | rfl⟩ := Int.eq_nat_or_neg exponent
  · simp
  · simp

/-- The digits of a number, with zeros behind them for a positive exponent. -/
theorem digits_noZero (coefficient zeros : Nat) (h : coefficient = 0 → zeros = 0) :
    Nat.toDigits 10 coefficient ++ List.replicate zeros '0' = ['0'] ∨
      (Nat.toDigits 10 coefficient ++ List.replicate zeros '0').head? ≠ some '0' := by
  rcases Nat.eq_zero_or_pos coefficient with hzero | hpos
  · left
    rw [h hzero, hzero, Nat.toDigits_zero]
    rfl
  · right
    rw [List.head?_append_of_ne_nil _ Nat.toDigits_ne_nil]
    exact head?_toDigits_ne hpos

/-- The text of a number is that number, written with as many digits behind the point as the
exponent is below zero. Zero is not written with a positive exponent. -/
theorem exists_written (x : FixedPoint) (hzero : x.coefficient = 0 → x.exponent ≤ 0) :
    ∃ w : Written, x.text = w.text ∧ w.negative = x.negative ∧
      w.fraction.length = (-x.exponent).toNat ∧ w.value = x.value := by
  have hsome : Nat.toDigits 10 x.coefficient ++ List.replicate x.exponent.toNat '0' ≠ [] :=
    List.append_ne_nil_of_left_ne_nil Nat.toDigits_ne_nil _
  have hnoZero := digits_noZero x.coefficient x.exponent.toNat fun h =>
    Int.toNat_of_nonpos (hzero h)
  obtain ⟨whole, fraction, zeros, hpoint, hdigits, hlength, hwhole, hplain⟩ :=
    point_eq (-x.exponent).toNat hsome hnoZero
  have hall : ∀ c ∈ whole ++ fraction, c.isDigit = true := by
    intro c hc
    rw [hdigits, List.mem_append, List.mem_append] at hc
    rcases hc with hc | hc | hc
    · rw [List.eq_of_mem_replicate hc]
      rfl
    · exact Nat.isDigit_of_mem_toDigits (by decide) (by decide) hc
    · rw [List.eq_of_mem_replicate hc]
      rfl
  refine ⟨⟨x.negative, whole, fraction, hall, hwhole, hplain⟩, ?_, rfl, hlength, ?_⟩
  · rw [text, Written.text]
    dsimp only
    rw [hpoint]
    cases x.negative <;> rfl
  · have hcoefficient : Nat.ofDigitChars 10 (whole ++ fraction) 0 =
        10 ^ x.exponent.toNat * x.coefficient := by
      simp [hdigits, Nat.ofDigitChars_append]
    simp only [Written.value, value, hcoefficient, hlength]
    rw [← pow_toNat_div]
    push_cast
    ring

/-! ## Scaling -/

/-- The digits that are too many. -/
def surplus (n : Nat) : Nat := size n - precision

/-- The coefficient that is kept, before it is carried into one more digit. -/
def kept (n : Nat) : Nat := roundHalfEven n (10 ^ surplus n)

/-- A number has at most so many digits if it is below that power of ten. -/
theorem size_le_iff {n k : Nat} (hk : 0 < k) : size n ≤ k ↔ n < 10 ^ k :=
  Nat.length_toDigits_le_iff (by decide) hk

/-- A number of so many digits has that size. -/
theorem size_eq {n k : Nat} (hk : 1 < k) (hleast : 10 ^ (k - 1) ≤ n) (hmost : n < 10 ^ k) :
    size n = k := by
  have hle : size n ≤ k := (size_le_iff (by omega)).mpr hmost
  have hnot : ¬size n ≤ k - 1 := by
    rw [size_le_iff (by omega)]
    exact Nat.not_lt.mpr hleast
  omega

/-- Up to 28 digits, none is too many. -/
theorem surplus_eq_zero {n : Nat} (h : n < 10 ^ precision) : surplus n = 0 :=
  Nat.sub_eq_zero_of_le ((size_le_iff (by decide)).mpr h)

/-- Up to 28 digits, a number is kept as it is. -/
theorem kept_eq_self {n : Nat} (h : n < 10 ^ precision) : kept n = n := by
  rw [kept, surplus_eq_zero h]
  exact roundHalfEven_one n

/-- From a number with more than 28 digits, the nearest multiple of a power of ten is kept, and it
is carried into one more digit exactly if that multiple has one more. -/
theorem kept_of_digits {n k : Nat} (hk : precision < k) (hleast : 10 ^ (k - 1) ≤ n)
    (hmost : n < 10 ^ k) :
    surplus n = k - precision ∧ NearestEven n (10 ^ (k - precision)) (kept n) ∧
      (kept n = 10 ^ precision ↔ kept n * 10 ^ (k - precision) = 10 ^ k) := by
  have hsize : size n = k := size_eq (Nat.lt_trans (by decide : 1 < precision) hk) hleast hmost
  have hpos : (0 : Nat) < 10 ^ (k - precision) := Nat.pow_pos (by decide)
  have hpow : (10 ^ k : Nat) = 10 ^ precision * 10 ^ (k - precision) := by
    rw [← Nat.pow_add, Nat.add_sub_cancel' (Nat.le_of_lt hk)]
  rw [kept, surplus, hsize, hpow, Nat.mul_right_cancel_iff hpos]
  exact ⟨rfl, roundHalfEven_nearestEven n hpos, Iff.rfl⟩

/-- Only zero is rounded to zero. -/
theorem eq_zero_of_kept_eq_zero {n : Nat} (h : kept n = 0) : n = 0 := by
  by_contra hn
  have hle : 10 ^ surplus n ≤ n := by
    rcases Nat.eq_zero_or_pos (surplus n) with hnone | hsome
    · rw [hnone]
      exact Nat.pos_of_ne_zero hn
    · refine Nat.not_lt.mp fun hlt => ?_
      rw [← size_le_iff hsome] at hlt
      simp only [surplus, precision] at hlt hsome
      omega
  exact absurd h (Nat.ne_of_gt (roundHalfEven_pos (Nat.pow_pos (by decide)) hle))

variable {amount : Int} {places : Nat}

/-- What is kept of a scaled amount, as long as its exponent is not too low. -/
theorem ofScaled_eq (hplaces : places ≤ 1000026) :
    ofScaled amount places =
      if kept amount.natAbs = 10 ^ precision then
        ⟨amount < 0, 10 ^ (precision - 1), surplus amount.natAbs - places + 1⟩
      else ⟨amount < 0, kept amount.natAbs, surplus amount.natAbs - places⟩ := by
  have hexponent : keptExponent amount.natAbs places = surplus amount.natAbs - places := by
    simp only [keptExponent, surplus, lowestExponent]
    omega
  have hshift : ((surplus amount.natAbs : Int) - places + places).toNat =
      surplus amount.natAbs := by omega
  simp only [ofScaled, hexponent, hshift]
  rfl

/-- A scaled amount is what is kept of it, with its sign. -/
theorem ofScaled_value (hplaces : places ≤ 1000026) :
    (ofScaled amount places).value = (if amount < 0 then -1 else 1) *
      ((kept amount.natAbs * 10 ^ surplus amount.natAbs : Nat) / 10 ^ places) := by
  have hten : (10 : ℚ) ≠ 0 := by norm_num
  rw [ofScaled_eq hplaces]
  split
  · next hcarry =>
    simp only [value, hcarry, decide_eq_true_eq, precision]
    rw [zpow_add_one₀ hten, zpow_sub₀ hten, zpow_natCast, zpow_natCast]
    push_cast
    ring
  · simp only [value, decide_eq_true_eq]
    rw [zpow_sub₀ hten, zpow_natCast, zpow_natCast]
    push_cast
    ring

/-- Zero is kept with all its places. -/
theorem ofScaled_exponent_nonpos (hplaces : places ≤ 1000026)
    (hzero : (ofScaled amount places).coefficient = 0) : (ofScaled amount places).exponent ≤ 0 := by
  rw [ofScaled_eq hplaces] at hzero ⊢
  split at hzero
  · exact absurd hzero (Nat.ne_of_gt (Nat.pow_pos (by decide)))
  · next hcarry =>
    rw [if_neg hcarry]
    have hnone : amount.natAbs = 0 := eq_zero_of_kept_eq_zero hzero
    have hsurplus : surplus amount.natAbs = 0 := by
      rw [hnone]
      rfl
    simp only [hsurplus]
    omega

/-- The text of a scaled amount has a digit behind the point for every place but those given up. -/
theorem exists_written_ofScaled (amount : Int) {places : Nat} (hplaces : places ≤ 1000026) :
    ∃ w : Written, (ofScaled amount places).text = w.text ∧ w.negative = decide (amount < 0) ∧
      w.value = (if amount < 0 then -1 else 1) *
        ((kept amount.natAbs * 10 ^ surplus amount.natAbs : Nat) / 10 ^ places) ∧
      w.fraction.length =
        if kept amount.natAbs = 10 ^ precision then places - (surplus amount.natAbs + 1)
        else places - surplus amount.natAbs := by
  obtain ⟨w, htext, hnegative, hlength, hvalue⟩ :=
    exists_written (ofScaled amount places) (ofScaled_exponent_nonpos hplaces)
  refine ⟨w, htext, ?_, hvalue.trans (ofScaled_value hplaces), ?_⟩
  · rw [hnegative, ofScaled_eq hplaces]
    split <;> rfl
  · rw [hlength, ofScaled_eq hplaces]
    split
    · dsimp only
      omega
    · dsimp only
      omega

end FixedPoint

end TransferDrill.Numeric

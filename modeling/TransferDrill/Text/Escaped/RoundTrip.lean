import TransferDrill.Text.Escaped

/-!
# Escaped text reads back

Every text is the text of the body that is written for it. The reader takes the escapes of one
character as that character's code units, and joining surrogate pairs gives the characters again.
-/

namespace TransferDrill.Text.Escaped

/-- The code units of a character. -/
def units (c : Char) : List Nat :=
  if c.toNat < 0x10000 then [c.toNat] else [(surrogates c.toNat).1, (surrogates c.toNat).2]

/-- Every character lies in the code space. -/
theorem toNat_lt (c : Char) : c.toNat < 0x110000 := by
  have h := c.valid
  simp only [UInt32.isValidChar, Nat.isValidChar] at h
  change c.val.toNat < _
  omega

/-- The first surrogate is a high one. -/
theorem surrogates_fst {n : Nat} (low : 0x10000 ≤ n) (high : n < 0x110000) :
    0xd800 ≤ (surrogates n).1 ∧ (surrogates n).1 < 0xdc00 := by
  simp only [surrogates]
  omega

/-- The second surrogate is a low one. -/
theorem surrogates_snd (n : Nat) : 0xdc00 ≤ (surrogates n).2 ∧ (surrogates n).2 < 0xe000 := by
  simp only [surrogates]
  omega

/-- Two surrogates together give the point that they stand for. -/
theorem join_surrogates {n : Nat} (low : 0x10000 ≤ n) :
    0x10000 + ((surrogates n).1 - 0xd800) * 0x400 + ((surrogates n).2 - 0xdc00) = n := by
  simp only [surrogates]
  omega

/-- A character that needs no escape is read as itself. -/
theorem step_plain {c : Char} (special : c ≠ '\\') (printable : 0x20 ≤ c.toNat) (read : List Nat) :
    Reader.step ⟨.plain, read⟩ c = some ⟨.plain, c.toNat :: read⟩ := by
  simp [Reader.step, special, Nat.not_lt.2 printable]

/-- A backslash and a letter are read as the point that the letter stands for. -/
theorem step_letter {c : Char} {point : Nat} (h : letterEscape? c = some point) (hu : c ≠ 'u')
    (read : List Nat) :
    ['\\', c].foldlM Reader.step ⟨.plain, read⟩ = some ⟨.plain, point :: read⟩ := by
  simp [Reader.step, h, hu]

/-- Four hexadecimal digits are read as the unit that they spell. -/
theorem step_unitEscape {n : Nat} (h : n < 0x10000) (read : List Nat) :
    (unitEscape n).foldlM Reader.step ⟨.plain, read⟩ = some ⟨.plain, n :: read⟩ := by
  have value : Hex.number? (Hex.digits 4 n) = some n :=
    Hex.number?_digits_of_lt (by simpa using h)
  have length := Hex.digits_length 4 n
  match spelling : Hex.digits 4 n, length with
  | [p, q, r, s], _ =>
    rw [spelling] at value
    simp [unitEscape, spelling, Reader.step, value]

/-- A character beyond the basic plane is written as two escaped surrogates. -/
theorem encodeChar_large {c : Char} (large : 0x10000 ≤ c.toNat) :
    encodeChar c = unitEscape (surrogates c.toNat).1 ++ unitEscape (surrogates c.toNat).2 := by
  have other : ∀ d : Char, d.toNat < 0x10000 → c ≠ d := fun d hd h =>
    Nat.not_lt.2 large (h ▸ hd)
  have unprintable : ¬ (0x20 ≤ c.toNat ∧ c.toNat ≤ 0x7e) := by omega
  have formFeed : c.toNat ≠ 0x0c := by omega
  have backspace : c.toNat ≠ 0x08 := by omega
  simp only [encodeChar, other '"' (by decide), other '\\' (by decide), other '\n' (by decide),
    other '\r' (by decide), other '\t' (by decide), unprintable, formFeed, backspace,
    Nat.not_lt.2 large, if_false]

/-- Two escaped units are read one after the other. -/
theorem step_pair {first second : Nat} (high : first < 0x10000) (low : second < 0x10000)
    (read : List Nat) :
    (unitEscape first ++ unitEscape second).foldlM Reader.step ⟨.plain, read⟩ =
      some ⟨.plain, [first, second].reverse ++ read⟩ := by
  simp [List.foldlM_append, step_unitEscape high, step_unitEscape low]

/-- A character that was written is read as its units. -/
theorem step_encodeChar (c : Char) (read : List Nat) :
    (encodeChar c).foldlM Reader.step ⟨.plain, read⟩ =
      some ⟨.plain, (units c).reverse ++ read⟩ := by
  by_cases small : c.toNat < 0x10000
  · simp only [units, if_pos small, List.reverse_singleton, List.singleton_append, encodeChar]
    split
    · rename_i h; subst h; exact step_letter rfl (by decide) read
    split
    · rename_i h; subst h; exact step_letter rfl (by decide) read
    split
    · rename_i _ special printable
      simp only [List.foldlM_cons, step_plain special printable.1, List.foldlM_nil]; rfl
    split
    · rename_i h; subst h; exact step_letter rfl (by decide) read
    split
    · rename_i h; subst h; exact step_letter rfl (by decide) read
    split
    · rename_i h; subst h; exact step_letter rfl (by decide) read
    split
    · rename_i h; rw [h]; exact step_letter rfl (by decide) read
    split
    · rename_i h; rw [h]; exact step_letter rfl (by decide) read
    exact step_unitEscape small read
  · have large := Nat.not_lt.1 small
    rw [encodeChar_large large, units, if_neg small]
    exact step_pair (Nat.lt_trans (surrogates_fst large (toNat_lt c)).2 (by decide))
      (Nat.lt_trans (surrogates_snd c.toNat).2 (by decide)) read

/-- A text that was written is read as the units of its characters, by induction on the text. -/
theorem step_encode (s : List Char) (read : List Nat) :
    (encode s).foldlM Reader.step ⟨.plain, read⟩ =
      some ⟨.plain, (s.flatMap units).reverse ++ read⟩ := by
  induction s generalizing read with
  | nil => rfl
  | cons c s ih =>
    simp only [encode, List.flatMap_cons] at ih ⊢
    simp [List.foldlM_append, step_encodeChar, ih]

/-- The points of a written text are the units of its characters. -/
theorem points_encode (s : List Char) : points (encode s) = some (s.flatMap units) := by
  simp [points, step_encode]

/-- A unit that is no surrogate is a character by itself. -/
theorem joinSurrogates_cons {n : Nat} (high : isHighSurrogate n = false)
    (low : isLowSurrogate n = false) (rest : List Nat) :
    joinSurrogates (n :: rest) = (Char.ofNat n :: ·) <$> joinSurrogates rest := by
  cases rest <;> simp [joinSurrogates, high, low]

/-- A high and a low surrogate are joined to one character. -/
theorem joinSurrogates_pair {n m : Nat} (high : isHighSurrogate n = true)
    (low : isLowSurrogate m = true) (rest : List Nat) :
    joinSurrogates (n :: m :: rest) =
      (Char.ofNat (0x10000 + (n - 0xd800) * 0x400 + (m - 0xdc00)) :: ·) <$>
        joinSurrogates rest := by
  simp only [joinSurrogates, high, low, if_true]

/-- The units of a character are joined to that character. -/
theorem joinSurrogates_units (c : Char) (rest : List Nat) :
    joinSurrogates (units c ++ rest) = (c :: ·) <$> joinSurrogates rest := by
  by_cases small : c.toNat < 0x10000
  · have h := c.valid
    simp only [UInt32.isValidChar, Nat.isValidChar] at h
    change c.toNat < _ ∨ _ < c.toNat ∧ _ at h
    have high : isHighSurrogate c.toNat = false := by
      simp only [isHighSurrogate, Bool.and_eq_false_iff, decide_eq_false_iff_not]; omega
    have low : isLowSurrogate c.toNat = false := by
      simp only [isLowSurrogate, Bool.and_eq_false_iff, decide_eq_false_iff_not]; omega
    simp only [units, if_pos small, List.singleton_append, joinSurrogates_cons high low,
      Char.ofNat_toNat]
  · have large := Nat.not_lt.1 small
    have high : isHighSurrogate (surrogates c.toNat).1 = true := by
      simp only [isHighSurrogate, Bool.and_eq_true, decide_eq_true_eq]
      exact surrogates_fst large (toNat_lt c)
    have low : isLowSurrogate (surrogates c.toNat).2 = true := by
      simp only [isLowSurrogate, Bool.and_eq_true, decide_eq_true_eq]
      exact surrogates_snd c.toNat
    simp only [units, if_neg small, List.cons_append, List.nil_append,
      joinSurrogates_pair high low, join_surrogates large, Char.ofNat_toNat]

/-- Every text reads back from its body. -/
theorem decode_encode (s : List Char) : decode (encode s) = some s := by
  simp only [decode, points_encode, Option.bind_eq_bind, Option.bind_some]
  induction s with
  | nil => rfl
  | cons c s ih => simp [joinSurrogates_units, ih]

end TransferDrill.Text.Escaped

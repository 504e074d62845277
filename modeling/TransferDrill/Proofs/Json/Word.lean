import TransferDrill.Json.Token

/-!
# Numbers in a document's text

The text of a number is a word, and that of an integer reads back as the integer. Whether the text
of a floating point number reads back is a question about shortest decimals, which is left open
here.
-/

namespace TransferDrill.Json

/-- A text that the scanner takes as one word. -/
structure IsWord (s : List Char) : Prop where
  notEmpty : s ≠ []
  wordChars : ∀ c ∈ s, Token.isWordChar c = true

/-- A text that is given can be checked character by character. -/
theorem isWord_of_all {s : List Char} (hne : s ≠ []) (hall : s.all Token.isWordChar = true) :
    IsWord s :=
  ⟨hne, List.all_eq_true.mp hall⟩

/-- Digits belong to words. -/
theorem isWordChar_of_isDigit {c : Char} (h : c.isDigit = true) : Token.isWordChar c = true := by
  simp [Token.isWordChar, Char.isAlphanum, h]

/-- The digits of a number are digits. -/
theorem isDigit_of_mem_toDigits {n : Nat} {c : Char} (h : c ∈ Nat.toDigits 10 n) :
    c.isDigit = true :=
  Nat.isDigit_of_mem_toDigits (by decide) (by decide) h

/-- The digits of a number belong to words. -/
theorem isWordChar_of_mem_toDigits {n : Nat} {c : Char} (h : c ∈ Nat.toDigits 10 n) :
    Token.isWordChar c = true :=
  isWordChar_of_isDigit (isDigit_of_mem_toDigits h)

/-! ## Integers -/

/-- The text of an integer is a word. -/
theorem isWord_ofInt (n : Int) : IsWord (Numeral.ofInt n) := by
  cases n with
  | ofNat n => exact ⟨Nat.toDigits_ne_nil, fun c => isWordChar_of_mem_toDigits⟩
  | negSucc n =>
    refine ⟨List.cons_ne_nil _ _, List.forall_mem_cons.mpr ⟨by decide, fun c => ?_⟩⟩
    exact isWordChar_of_mem_toDigits

/-- The text of an integer has a digit. -/
theorem exists_isDigit_of_ofInt (n : Int) : ∃ c ∈ Numeral.ofInt n, c.isDigit = true := by
  have hdigit (n : Nat) : ∃ c ∈ Nat.toDigits 10 n, c.isDigit = true := by
    obtain ⟨c, hc⟩ := List.exists_mem_of_ne_nil (Nat.toDigits 10 n) Nat.toDigits_ne_nil
    exact ⟨c, hc, isDigit_of_mem_toDigits hc⟩
  cases n with
  | ofNat n => exact hdigit n
  | negSucc n =>
    obtain ⟨c, hc, h⟩ := hdigit (n + 1)
    exact ⟨c, List.mem_cons_of_mem _ hc, h⟩

/-- Digits that were written denote the number. -/
theorem plainDigits?_toDigits (n : Nat) :
    ∃ digits, Numeral.plainDigits? (Nat.toDigits 10 n) = some digits ∧
      Numeral.ofDigits digits = n := by
  have hvalues : ∀ s : List Char, (∀ c ∈ s, c.isDigit = true) →
      s.mapM Numeral.digitValue? = some (s.map fun c => c.toNat - '0'.toNat) := by
    intro s hs
    induction s with
    | nil => rfl
    | cons c s ih =>
      obtain ⟨hc, hrest⟩ := List.forall_mem_cons.mp hs
      simp [Numeral.digitValue?, hc, ih hrest]
  refine ⟨(Nat.toDigits 10 n).map fun c => c.toNat - '0'.toNat, ?_, ?_⟩
  · rw [Numeral.plainDigits?, if_neg (by simp [Nat.toDigits_ne_nil])]
    exact hvalues _ fun c => isDigit_of_mem_toDigits
  · rw [Numeral.ofDigits, List.foldl_map, ← Nat.ofDigitChars_eq_foldl]
    exact Nat.ofDigitChars_ten_toDigits

/-- The digits of a number are digits. -/
theorem all_isDigit_toDigits (n : Nat) : (Nat.toDigits 10 n).all Char.isDigit = true :=
  List.all_eq_true.mpr fun _ => isDigit_of_mem_toDigits

/-- The text of an integer is a number of a document. -/
theorem document?_ofInt (n : Int) : Numeral.document? (Numeral.ofInt n) = some (.inl n) := by
  cases n with
  | ofNat n =>
    obtain ⟨digits, hdigits, hvalue⟩ := plainDigits?_toDigits n
    have hsplit : Numeral.splitMinus (Nat.toDigits 10 n) = (false, Nat.toDigits 10 n) := by
      unfold Numeral.splitMinus
      split
      · rename_i rest hrest
        have hminus : '-'.isDigit = true := isDigit_of_mem_toDigits (n := n) (by simp [hrest])
        exact absurd hminus (by decide)
      · rfl
    rw [Numeral.ofInt, Numeral.document?, hsplit]
    simp [all_isDigit_toDigits, hdigits, Numeral.signed, hvalue]
  | negSucc n =>
    obtain ⟨digits, hdigits, hvalue⟩ := plainDigits?_toDigits (n + 1)
    rw [Numeral.ofInt, Numeral.document?, Numeral.splitMinus]
    simp [all_isDigit_toDigits, hdigits, Numeral.signed, hvalue, Int.negSucc_eq]

/-- A word that is a number but no name is read as the number. -/
theorem ofWord?_ofInt (n : Int) : Token.ofWord? (Numeral.ofInt n) = some (.int n) := by
  -- a name has a letter, and an integer has none
  have hchars : ∀ c ∈ Numeral.ofInt n, c.isDigit = true ∨ c = '-' := by
    cases n with
    | ofNat n => exact fun c hc => .inl (isDigit_of_mem_toDigits hc)
    | negSucc n =>
      exact List.forall_mem_cons.mpr ⟨.inr rfl, fun c hc => .inl (isDigit_of_mem_toDigits hc)⟩
  have hname : ∀ name : String, (∃ c ∈ name.toList, ¬(c.isDigit = true ∨ c = '-')) →
      String.ofList (Numeral.ofInt n) ≠ name := by
    intro _ h heq
    obtain ⟨c, hc, hother⟩ := h
    subst heq
    rw [String.toList_ofList] at hc
    exact hother (hchars c hc)
  unfold Token.ofWord?
  split
  · exact absurd ‹_› (hname _ ⟨'n', by decide, by decide⟩)
  · exact absurd ‹_› (hname _ ⟨'t', by decide, by decide⟩)
  · exact absurd ‹_› (hname _ ⟨'f', by decide, by decide⟩)
  · exact absurd ‹_› (hname _ ⟨'N', by decide, by decide⟩)
  · exact absurd ‹_› (hname _ ⟨'I', by decide, by decide⟩)
  · exact absurd ‹_› (hname _ ⟨'I', by decide, by decide⟩)
  · rw [document?_ofInt]
    rfl

/-! ## Floating point numbers -/

/-- Digits, with a point among them, are a word. -/
theorem isWord_positional {d : Binary64.Digits}
    (hdigits : ∀ c ∈ d.digits, Token.isWordChar c = true) : IsWord d.positional := by
  have hzeros : ∀ (count : Nat), ∀ c ∈ List.replicate count '0', Token.isWordChar c = true := by
    intro count c hc
    rw [List.eq_of_mem_replicate hc]
    decide
  unfold Binary64.Digits.positional
  split
  · refine ⟨List.cons_ne_nil _ _, ?_⟩
    rw [List.cons_append, List.cons_append]
    refine List.forall_mem_cons.mpr ⟨by decide, List.forall_mem_cons.mpr ⟨by decide, ?_⟩⟩
    exact List.forall_mem_append.mpr ⟨hzeros _, hdigits⟩
  · dsimp only
    have hpadded := List.forall_mem_append.mpr
      ⟨hdigits, hzeros (d.top.toNat + 1 - d.digits.length)⟩
    refine ⟨by simp, List.forall_mem_append.mpr ⟨?_, List.forall_mem_cons.mpr ⟨by decide, ?_⟩⟩⟩
    · exact fun c hc => hpadded c (List.mem_of_mem_take hc)
    · split
      · exact List.forall_mem_singleton.mpr (by decide)
      · exact fun c hc => hpadded c (List.mem_of_mem_drop hc)

/-- Digits with an exponent behind are a word. -/
theorem isWord_scientific {d : Binary64.Digits}
    (hdigits : ∀ c ∈ d.digits, Token.isWordChar c = true) : IsWord d.scientific := by
  unfold Binary64.Digits.scientific
  dsimp only
  refine ⟨by simp, List.forall_mem_append.mpr ⟨?_, ?_⟩⟩
  · split
    · simp
    · rename_i c hc
      rwa [hc] at hdigits
    · rename_i c rest _ hc
      rw [hc] at hdigits
      obtain ⟨hfirst, hrest⟩ := List.forall_mem_cons.mp hdigits
      exact List.forall_mem_cons.mpr ⟨hfirst, List.forall_mem_cons.mpr ⟨by decide, hrest⟩⟩
  · refine List.forall_mem_cons.mpr ⟨by decide, List.forall_mem_cons.mpr ⟨?_, ?_⟩⟩
    · split <;> decide
    · split
      · exact List.forall_mem_cons.mpr ⟨by decide, fun c => isWordChar_of_mem_toDigits⟩
      · exact fun c => isWordChar_of_mem_toDigits

/-- The text of a finite float is a word. -/
theorem isWord_finiteText (x : Binary64) : IsWord x.finiteText := by
  have hbody : IsWord (if x.magnitude = 0 then ['0', '.', '0']
      else
        let d := Binary64.shortest (.ofMagnitude false x.magnitude)
        if -4 ≤ d.top ∧ d.top < 16 then d.positional else d.scientific) := by
    split
    · exact isWord_of_all (by decide) (by decide)
    · dsimp only
      have hdigits : ∀ c ∈ (Binary64.shortest (.ofMagnitude false x.magnitude)).digits,
          Token.isWordChar c = true := fun c => isWordChar_of_mem_toDigits
      split
      · exact isWord_positional hdigits
      · exact isWord_scientific hdigits
  unfold Binary64.finiteText
  dsimp only at hbody ⊢
  split
  · exact ⟨List.cons_ne_nil _ _, List.forall_mem_cons.mpr ⟨by decide, hbody.wordChars⟩⟩
  · exact hbody

/-- The text of a floating point number is a word, finite or not. -/
theorem isWord_text (x : Binary64) : IsWord (x.text "Infinity" "NaN") := by
  unfold Binary64.text
  split
  · exact isWord_finiteText x
  · split
    · exact isWord_of_all (by decide) (by decide)
    · exact isWord_of_all (by decide) (by decide)
  · exact isWord_of_all (by decide) (by decide)

end TransferDrill.Json

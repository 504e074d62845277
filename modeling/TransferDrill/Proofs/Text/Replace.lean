import TransferDrill.Text.Replace
import TransferDrill.Proofs.Text.Escape

/-!
# Replacing inside escaped text

A pattern never matches across a character that it lacks, so a text can be taken apart there. A
mark consists of characters that stand for themselves when they are escaped and begins with one
that occurs in no escape, so replacing it in an escaped text is replacing it in the text.
-/

namespace TransferDrill.Text

section Occurrences

variable {pattern value left right : List Char} {stop : Char}

/-- A pattern matches before a character that it lacks or not at all. -/
theorem isPrefixOf_append_cons (hstop : stop ∉ pattern) (left right : List Char) :
    pattern.isPrefixOf (left ++ stop :: right) = pattern.isPrefixOf left := by
  induction pattern generalizing left with
  | nil => simp
  | cons a pattern ih =>
    have hne := List.ne_of_not_mem_cons hstop
    have hrest := List.not_mem_of_not_mem_cons hstop
    cases left with
    | nil => simp [List.isPrefixOf, Ne.symm hne]
    | cons c left => simp [List.isPrefixOf, ih hrest]

/-- Before a character that the pattern lacks, replacing ends. -/
theorem replaceFrom_append_cons (hpattern : pattern ≠ []) (hstop : stop ∉ pattern) {skip : Nat}
    (hskip : skip ≤ left.length) :
    replaceFrom pattern value skip (left ++ stop :: right) =
      replaceFrom pattern value skip left ++ stop :: replace pattern value right := by
  induction left generalizing skip with
  | nil =>
    obtain rfl : skip = 0 := Nat.le_zero.mp hskip
    have hnone : pattern.isPrefixOf (stop :: right) = false := by
      rw [← List.nil_append (stop :: right), isPrefixOf_append_cons hstop]
      cases pattern with
      | nil => exact absurd rfl hpattern
      | cons a pattern => rfl
    exact replace_cons_of_no_match hnone
  | cons c left ih =>
    cases skip with
    | succ skip => exact ih (Nat.le_of_succ_le_succ hskip)
    | zero =>
      have hmatch : pattern.isPrefixOf (c :: (left ++ stop :: right)) =
          pattern.isPrefixOf (c :: left) := isPrefixOf_append_cons hstop (c :: left) right
      rw [List.cons_append, replaceFrom, replaceFrom, hmatch]
      by_cases hprefix : pattern.isPrefixOf (c :: left) = true
      · have hlength := (List.isPrefixOf_iff_prefix.mp hprefix).length_le
        rw [if_pos hprefix, if_pos hprefix, ih (by simpa using hlength), List.append_assoc]
      · rw [if_neg hprefix, if_neg hprefix, ih (Nat.zero_le _), List.cons_append]

/-- Replacing takes a text apart at a character that the pattern lacks. -/
theorem replace_append_cons (hpattern : pattern ≠ []) (hstop : stop ∉ pattern)
    (value left right : List Char) :
    replace pattern value (left ++ stop :: right) =
      replace pattern value left ++ stop :: replace pattern value right :=
  replaceFrom_append_cons hpattern hstop (Nat.zero_le _)

/-- Text without the pattern's first character stays. -/
theorem replace_append_of_not_mem {first : Char} (hfirst : first ∉ left)
    (pattern value right : List Char) :
    replace (first :: pattern) value (left ++ right) =
      left ++ replace (first :: pattern) value right := by
  induction left with
  | nil => rfl
  | cons c left ih =>
    have hne := List.ne_of_not_mem_cons hfirst
    have hrest := List.not_mem_of_not_mem_cons hfirst
    have hnone : (first :: pattern).isPrefixOf (c :: (left ++ right)) = false := by
      simp [List.isPrefixOf, hne]
    rw [List.cons_append, replace_cons_of_no_match hnone, ih hrest, List.cons_append]

/-- A text without the pattern's first character stays. -/
theorem replace_of_not_mem {first : Char} {text : List Char} (hfirst : first ∉ text) :
    replace (first :: pattern) value text = text := by
  have htext := replace_append_of_not_mem hfirst pattern value []
  rwa [List.append_nil, replace_nil, List.append_nil] at htext

end Occurrences

/-- A pattern that can be looked for in escaped text: its characters stand for themselves, and it
begins with two braces and a blank. -/
structure IsMark (pattern : List Char) : Prop where
  plain : ∀ c ∈ pattern, Escaped.encodeChar c = [c]
  opens : ∃ rest, pattern = '\x7b' :: '\x7b' :: ' ' :: rest

namespace Escaped

/-- A pattern of characters that stand for themselves matches an escaped text where it matches the
text. -/
theorem isPrefixOf_encode {pattern : List Char} (hplain : ∀ c ∈ pattern, encodeChar c = [c])
    (text : List Char) : pattern.isPrefixOf (encode text) = pattern.isPrefixOf text := by
  induction pattern generalizing text with
  | nil => simp
  | cons a pattern ih =>
    obtain ⟨ha, hrest⟩ := List.forall_mem_cons.mp hplain
    cases text with
    | nil => rfl
    | cons c text =>
      rw [encode_cons]
      rcases encodeChar_cases c with hself | ⟨⟨rest, hescaped⟩, -⟩
      · rw [hself]
        simp [List.isPrefixOf, ih hrest]
      · have hbackslash : a ≠ '\\' := by
          intro h
          subst h
          exact absurd ha (by decide)
        have hne : a ≠ c := by
          intro h
          subst h
          rw [ha] at hescaped
          exact hbackslash (List.cons.inj hescaped).1
        rw [hescaped, List.cons_append, List.isPrefixOf, List.isPrefixOf,
          beq_false_of_ne hbackslash, beq_false_of_ne hne, Bool.false_and, Bool.false_and]

/-- Replacing a mark in escaped text, of which some characters that stand for themselves are
skipped. -/
theorem replaceFrom_encode {pattern value : List Char} (hmark : IsMark pattern) (skip : Nat)
    (text : List Char) (hskip : ∀ c ∈ text.take skip, encodeChar c = [c]) :
    replaceFrom pattern (encode value) skip (encode text) =
      encode (replaceFrom pattern value skip text) := by
  induction text generalizing skip with
  | nil => cases skip <;> rfl
  | cons c text ih =>
    cases skip with
    | succ skip =>
      rw [List.take_succ_cons] at hskip
      obtain ⟨hself, hlater⟩ := List.forall_mem_cons.mp hskip
      rw [encode_cons, hself]
      exact ih skip hlater
    | zero =>
      have hcurrent := isPrefixOf_encode hmark.plain (c :: text)
      have hnext := ih 0 (by simp)
      rw [encode_cons] at hcurrent ⊢
      rcases encodeChar_cases c with hself | ⟨-, hbrace⟩
      · rw [hself, List.singleton_append] at hcurrent ⊢
        rw [replaceFrom, replaceFrom, hcurrent]
        by_cases hprefix : pattern.isPrefixOf (c :: text) = true
        · have htake : text.take (pattern.length - 1) ⊆ pattern := by
            obtain ⟨later, hlater⟩ := List.isPrefixOf_iff_prefix.mp hprefix
            obtain ⟨rest, hopens⟩ := hmark.opens
            rw [hopens] at hlater ⊢
            obtain ⟨-, rfl⟩ := List.cons.inj hlater
            simp
          rw [if_pos hprefix, if_pos hprefix, encode_append,
            ih _ fun d hd => hmark.plain d (htake hd)]
        · rw [if_neg hprefix, if_neg hprefix, hnext, encode_cons, hself, List.singleton_append]
      · obtain ⟨rest, rfl⟩ := hmark.opens
        have hne : c ≠ '\x7b' := by
          intro h
          subst h
          exact hbrace (by decide)
        have hnone : ('\x7b' :: '\x7b' :: ' ' :: rest).isPrefixOf (c :: text) = false := by
          simp [List.isPrefixOf, Ne.symm hne]
        have hover := replace_append_of_not_mem hbrace ('\x7b' :: ' ' :: rest) (encode value)
          (encode text)
        rw [replaceFrom, if_neg (by rw [hnone]; decide), encode_cons, ← hnext]
        exact hover

/-- Replacing a mark in escaped text by an escaped value is replacing it in the text. -/
theorem replace_encode {pattern value : List Char} (hmark : IsMark pattern) (text : List Char) :
    replace pattern (encode value) (encode text) = encode (replace pattern value text) :=
  replaceFrom_encode hmark 0 text (by simp)

end Escaped

end TransferDrill.Text

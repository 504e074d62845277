import TransferDrill.Text.Escaped

/-!
# The shapes of escapes

A character of an escaped body stands for itself, or it is escaped by a letter, by the digits of a
code unit, or by those of two. Escapes by digits hold neither quotes nor braces, and a backslash
only at their start.
-/

namespace TransferDrill.Text.Escaped

/-- Every character is written in one of four ways. -/
theorem encodeChar_shape (c : Char) :
    (encodeChar c = [c] ∧ c ≠ '"' ∧ c ≠ '\\') ∨
      (∃ letter, encodeChar c = ['\\', letter] ∧ letter ≠ '\x7b') ∨
      (∃ n, encodeChar c = unitEscape n) ∨
      ∃ m n, encodeChar c = unitEscape m ++ unitEscape n := by
  generalize hwritten : encodeChar c = w
  unfold encodeChar at hwritten
  split at hwritten
  · exact .inr (.inl ⟨'"', hwritten.symm, by decide⟩)
  split at hwritten
  · exact .inr (.inl ⟨'\\', hwritten.symm, by decide⟩)
  split at hwritten
  · exact .inl ⟨hwritten.symm, ‹_›, ‹_›⟩
  split at hwritten
  · exact .inr (.inl ⟨'n', hwritten.symm, by decide⟩)
  split at hwritten
  · exact .inr (.inl ⟨'r', hwritten.symm, by decide⟩)
  split at hwritten
  · exact .inr (.inl ⟨'t', hwritten.symm, by decide⟩)
  split at hwritten
  · exact .inr (.inl ⟨'f', hwritten.symm, by decide⟩)
  split at hwritten
  · exact .inr (.inl ⟨'b', hwritten.symm, by decide⟩)
  split at hwritten
  · exact .inr (.inr (.inl ⟨_, hwritten.symm⟩))
  · exact .inr (.inr (.inr ⟨_, _, hwritten.symm⟩))

/-- The digits of an escape are no quotes, backslashes or braces. -/
theorem ne_of_mem_digits {width n : Nat} {c : Char} (h : c ∈ Hex.digits width n) :
    c ≠ '"' ∧ c ≠ '\\' ∧ c ≠ '\x7b' := by
  have hdigit : ∀ d : Fin 16, Nat.digitChar d.val ≠ '"' ∧ Nat.digitChar d.val ≠ '\\' ∧
      Nat.digitChar d.val ≠ '\x7b' := by decide
  induction width generalizing n with
  | zero => cases h
  | succ width ih =>
    rcases List.mem_append.mp h with hfront | hlast
    · exact ih hfront
    · rw [List.mem_singleton.mp hlast]
      exact hdigit ⟨n % 16, Nat.mod_lt n (by decide)⟩

/-- An escaped unit holds no brace. -/
theorem brace_not_mem_unitEscape (n : Nat) : '\x7b' ∉ unitEscape n := by
  intro h
  rcases List.mem_cons.mp h with h | h
  · exact absurd h (by decide)
  rcases List.mem_cons.mp h with h | h
  · exact absurd h (by decide)
  · exact (ne_of_mem_digits h).2.2 rfl

/-- A character stands for itself or is escaped, without a brace. -/
theorem encodeChar_cases (c : Char) :
    encodeChar c = [c] ∨ (∃ rest, encodeChar c = '\\' :: rest) ∧ '\x7b' ∉ encodeChar c := by
  rcases encodeChar_shape c with ⟨hself, -⟩ | ⟨letter, hletter, hne⟩ | ⟨n, hunit⟩ | ⟨m, n, hpair⟩
  · exact .inl hself
  · rw [hletter]
    exact .inr ⟨⟨_, rfl⟩, by simp [Ne.symm hne]⟩
  · rw [hunit]
    exact .inr ⟨⟨_, rfl⟩, brace_not_mem_unitEscape n⟩
  · rw [hpair]
    refine .inr ⟨⟨_, rfl⟩, fun h => ?_⟩
    rcases List.mem_append.mp h with h | h
    · exact brace_not_mem_unitEscape m h
    · exact brace_not_mem_unitEscape n h

/-- A text is escaped character by character. -/
theorem encode_cons (c : Char) (s : List Char) : encode (c :: s) = encodeChar c ++ encode s := rfl

end TransferDrill.Text.Escaped

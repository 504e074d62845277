import TransferDrill.Text.Replace
import Mathlib.Data.List.Infix
import Mathlib.Data.List.Induction

/-!
# Replacing several marks at once

Replacing marks one after another is replacing all of them in one pass, as long as no text that is
put in touches a mark: none may begin, continue or end in one, nor hold one. Such a text is never
rewritten and never completes a mark with what stands around it.
-/

namespace TransferDrill.Text

/-- Replace, where a mark begins, the first of the marks that do; of the text, the first `skip`
characters belong to a mark already replaced. -/
def replaceAnyFrom (table : List (List Char × List Char)) : (skip : Nat) → List Char → List Char
  | _, [] => []
  | skip + 1, _ :: rest => replaceAnyFrom table skip rest
  | 0, c :: rest =>
    match table.find? fun entry => entry.1.isPrefixOf (c :: rest) with
    | some (mark, value) => value ++ replaceAnyFrom table (mark.length - 1) rest
    | none => c :: replaceAnyFrom table 0 rest

/-- Replace several marks in one pass, each by its value. -/
def replaceAny (table : List (List Char × List Char)) (text : List Char) : List Char :=
  replaceAnyFrom table 0 text

/-- One of two texts begins with the other. -/
def Meets (a b : List Char) : Prop := a <+: b ∨ b <+: a

instance (a b : List Char) : Decidable (Meets a b) := inferInstanceAs (Decidable (_ ∨ _))

/-- A text cannot stand in a mark behind its beginning, nor begin there. -/
def Apart (text mark : List Char) : Prop :=
  ∀ later, later <:+ mark.tail → later ≠ [] → ¬Meets text later

/-- A value touches no mark: it cannot stand in one, and no mark begins in it. -/
structure Clear (value mark : List Char) : Prop where
  apart : Apart value mark
  begins : ∀ later, later <:+ value → later ≠ [] → ¬Meets later mark

variable {table : List (List Char × List Char)} {mark value later text : List Char}

/-- Two beginnings of one text meet. -/
theorem meets_of_begun {a b : List Char} (h : a <+: text) (h' : b <+: text) : Meets a b :=
  List.prefix_or_prefix_of_prefix h h'

/-! ## One mark -/

/-- What is skipped is left out. -/
theorem replaceFrom_length (skipped : List Char) :
    replaceFrom mark value skipped.length (skipped ++ text) = replace mark value text := by
  induction skipped with
  | nil => rfl
  | cons c skipped ih => exact ih

/-- A mark at the front is replaced, and the rest goes on behind it. -/
theorem replace_mark_append (hmark : mark ≠ []) :
    replace mark value (mark ++ text) = value ++ replace mark value text := by
  cases mark with
  | nil => exact absurd rfl hmark
  | cons c mark =>
    have hbegins : (c :: mark).isPrefixOf (c :: (mark ++ text)) = true :=
      List.isPrefixOf_iff_prefix.mpr (List.prefix_append (c :: mark) text)
    rw [List.cons_append, replace, replaceFrom, if_pos hbegins]
    exact congrArg (value ++ ·) (replaceFrom_length mark)

/-- A text in which no mark begins stays, whatever follows it. -/
theorem replace_append_of_begins {stays : List Char}
    (h : ∀ later, later <:+ stays → later ≠ [] → ¬Meets later mark) :
    replace mark value (stays ++ text) = stays ++ replace mark value text := by
  induction stays with
  | nil => rfl
  | cons c stays ih =>
    have hnone : mark.isPrefixOf (c :: (stays ++ text)) = false := by
      by_contra hmatch
      have hbegins : mark <+: (c :: stays) ++ text :=
        List.isPrefixOf_iff_prefix.mp (by simpa using hmatch)
      exact h _ List.suffix_rfl (by simp) (meets_of_begun (List.prefix_append ..) hbegins)
    have hrest := ih fun later hlater => h later (hlater.trans (List.suffix_cons c stays))
    rw [List.cons_append, replace_cons_of_no_match hnone, hrest, List.cons_append]

/-! ## Several marks -/

/-- After what is skipped, replacing goes on as from the start. -/
theorem replaceAnyFrom_length (skipped : List Char) :
    replaceAnyFrom table skipped.length (skipped ++ text) = replaceAny table text := by
  induction skipped with
  | nil => rfl
  | cons c skipped ih => exact ih

/-- Where no entry begins, the character stays. -/
theorem replaceAny_cons_of_none {c : Char} {rest : List Char}
    (h : table.find? (fun entry => entry.1.isPrefixOf (c :: rest)) = none) :
    replaceAny table (c :: rest) = c :: replaceAny table rest := by
  rw [replaceAny, replaceAnyFrom, h]
  rfl

/-- The rest of a mark, in which no mark of the table begins, stays. -/
theorem replaceAny_append_of_apart {stays : List Char}
    (h : ∀ later, later <:+ stays → later ≠ [] → ∀ entry ∈ table, ¬Meets entry.1 later) :
    replaceAny table (stays ++ text) = stays ++ replaceAny table text := by
  induction stays with
  | nil => rfl
  | cons c stays ih =>
    have hnone : table.find? (fun entry => entry.1.isPrefixOf (c :: (stays ++ text))) = none := by
      rw [List.find?_eq_none]
      intro entry hentry hmatch
      have hbegins : entry.1 <+: (c :: stays) ++ text := List.isPrefixOf_iff_prefix.mp hmatch
      exact h _ List.suffix_rfl (by simp) entry hentry
        (meets_of_begun hbegins (List.prefix_append ..))
    have hrest := ih fun later hlater => h later (hlater.trans (List.suffix_cons c stays))
    rw [List.cons_append, replaceAny_cons_of_none hnone, hrest, List.cons_append]

/-- The rest of a mark stands in a filled text only where it stood before, if no value can stand in
it. -/
theorem begun_of_begun_replaceAny {rest : List Char}
    (h : ∀ later, later <:+ rest → later ≠ [] → ∀ entry ∈ table, ¬Meets entry.2 later)
    (hbegins : rest <+: replaceAny table text) : rest <+: text := by
  induction text generalizing rest with
  | nil => exact hbegins
  | cons c text ih =>
    cases rest with
    | nil => exact List.nil_prefix
    | cons a rest =>
      rw [replaceAny, replaceAnyFrom] at hbegins
      split at hbegins
      · next mark value hfound =>
        have hmeets := meets_of_begun (List.prefix_append value _) hbegins
        exact absurd hmeets (h _ List.suffix_rfl (by simp) _ (List.mem_of_find?_eq_some hfound))
      · obtain ⟨rfl, hlater⟩ := List.cons_prefix_cons.mp hbegins
        have hrest := ih (fun later hlater => h later (hlater.trans (List.suffix_cons a rest)))
          hlater
        exact List.cons_prefix_cons.mpr ⟨rfl, hrest⟩

section OneMore

variable {c : Char} {rest : List Char}

/-- One more entry is used where the table has none. -/
theorem replaceAny_concat_of_none (hfound : table.find? (·.1.isPrefixOf (c :: rest)) = none) :
    replaceAny (table ++ [(mark, value)]) (c :: rest) =
      if mark.isPrefixOf (c :: rest) then
        value ++ replaceAnyFrom (table ++ [(mark, value)]) (mark.length - 1) rest
      else c :: replaceAny (table ++ [(mark, value)]) rest := by
  rw [replaceAny, replaceAnyFrom, List.find?_append, hfound, Option.none_or, List.find?_singleton]
  by_cases hbegins : mark.isPrefixOf (c :: rest) = true
  · rw [if_pos hbegins, if_pos hbegins]
  · rw [if_neg hbegins, if_neg hbegins]
    rfl

/-- A mark that is kept apart from those of the table stays where none of these begins. -/
theorem replaceAny_mark_append (hmark : mark ≠ []) (hapart : ∀ entry ∈ table, Apart entry.1 mark)
    (hfound : table.find? (·.1.isPrefixOf (mark ++ text)) = none) :
    replaceAny table (mark ++ text) = mark ++ replaceAny table text := by
  cases mark with
  | nil => exact absurd rfl hmark
  | cons a mark =>
    have hrest : replaceAny table (mark ++ text) = mark ++ replaceAny table text :=
      replaceAny_append_of_apart fun later hlater hne entry hentry =>
        hapart entry hentry later hlater hne
    exact (replaceAny_cons_of_none hfound).trans (congrArg (a :: ·) hrest)

/-- A mark does not come about where it was not, if no value touches it. -/
theorem not_begun_replaceAny (hmark : mark ≠ []) (hclear : ∀ entry ∈ table, Clear entry.2 mark)
    (hbegins : ¬mark <+: c :: rest) : mark.isPrefixOf (c :: replaceAny table rest) = false := by
  by_contra hmatch
  have hfilled : mark <+: c :: replaceAny table rest :=
    List.isPrefixOf_iff_prefix.mp (by simpa using hmatch)
  cases mark with
  | nil => exact hmark rfl
  | cons a mark =>
    obtain ⟨rfl, hrest⟩ := List.cons_prefix_cons.mp hfilled
    have hstood : mark <+: rest := by
      apply begun_of_begun_replaceAny _ hrest
      intro later hlater hne entry hentry
      exact (hclear entry hentry).apart later hlater hne
    exact hbegins (List.cons_prefix_cons.mpr ⟨rfl, hstood⟩)

/-- Replacing one more mark in a filled text is filling that mark as well. -/
theorem replace_replaceAnyFrom (hmark : mark ≠ []) (hclear : ∀ entry ∈ table, Clear entry.2 mark)
    (hapart : ∀ entry ∈ table, Apart entry.1 mark) (skip : Nat) (text : List Char) :
    replace mark value (replaceAnyFrom table skip text) =
      replaceAnyFrom (table ++ [(mark, value)]) skip text := by
  induction text generalizing skip with
  | nil => cases skip <;> rfl
  | cons c rest ih =>
    cases skip with
    | succ skip => exact ih skip
    | zero =>
      cases hfound : table.find? (·.1.isPrefixOf (c :: rest)) with
      | some entry =>
        have hentry := List.mem_of_find?_eq_some hfound
        rw [replaceAnyFrom, replaceAnyFrom, List.find?_append, hfound, Option.some_or,
          replace_append_of_begins (hclear entry hentry).begins, ih]
      | none =>
        rw [← replaceAny, ← replaceAny, replaceAny_concat_of_none hfound]
        by_cases hbegins : mark <+: c :: rest
        · rw [if_pos (List.isPrefixOf_iff_prefix.mpr hbegins)]
          obtain ⟨later, hsplit⟩ := hbegins
          have hrest : mark.tail ++ later = rest := by
            rw [← List.tail_append_of_ne_nil hmark, hsplit, List.tail_cons]
          have hlater := ih mark.tail.length
          rw [← hrest, replaceAnyFrom_length, hrest, List.length_tail] at hlater
          rw [← hsplit] at hfound ⊢
          rw [replaceAny_mark_append hmark hapart hfound, replace_mark_append hmark, hlater]
        · rw [if_neg (by simpa [List.isPrefixOf_iff_prefix] using hbegins),
            replaceAny_cons_of_none hfound,
            replace_cons_of_no_match (not_begun_replaceAny hmark hclear hbegins)]
          exact congrArg (c :: ·) (ih 0)

end OneMore

/-- Replacing marks one after another is replacing them at once, if they are kept apart and each
value is clear of all of them. -/
theorem foldl_replace {fillings : List (List Char × List Char)}
    (hmarks : ∀ entry ∈ fillings, entry.1 ≠ [])
    (hapart : ∀ entry ∈ fillings, ∀ other ∈ fillings, Apart entry.1 other.1)
    (hclear : ∀ entry ∈ fillings, ∀ other ∈ fillings, Clear entry.2 other.1) (text : List Char) :
    fillings.foldl (fun text entry => replace entry.1 entry.2 text) text =
      replaceAny fillings text := by
  induction fillings using List.reverseRecOn with
  | nil =>
    induction text with
    | nil => rfl
    | cons c text ih => rw [replaceAny_cons_of_none rfl, ← ih]; rfl
  | append_singleton earlier entry ih =>
    simp only [List.forall_mem_append, List.forall_mem_singleton] at hmarks hapart hclear
    have hearlier := ih hmarks.1 (fun a ha => (hapart.1 a ha).1) fun a ha => (hclear.1 a ha).1
    rw [List.foldl_append, hearlier]
    exact replace_replaceAnyFrom hmarks.2 (fun a ha => (hclear.1 a ha).2)
      (fun a ha => (hapart.1 a ha).2) 0 text

/-- A mark is replaced by its value, if no other mark of the table begins it. -/
theorem replaceAny_mark (hmark : mark ≠ [])
    (hfound : table.find? (fun entry => entry.1.isPrefixOf mark) = some (mark, value)) :
    replaceAny table mark = value := by
  cases mark with
  | nil => exact absurd rfl hmark
  | cons c mark =>
    have hrest : replaceAnyFrom table mark.length (mark ++ []) = replaceAny table [] :=
      replaceAnyFrom_length mark
    rw [List.append_nil] at hrest
    rw [replaceAny, replaceAnyFrom, hfound]
    simp only [List.length_cons, Nat.add_sub_cancel, hrest, replaceAny, replaceAnyFrom,
      List.append_nil]

/-- No text is emptied by values that are not empty. -/
theorem replaceAny_ne_nil (hvalues : ∀ entry ∈ table, entry.2 ≠ []) (htext : text ≠ []) :
    replaceAny table text ≠ [] := by
  cases text with
  | nil => exact absurd rfl htext
  | cons c rest =>
    rw [replaceAny, replaceAnyFrom]
    split
    · next mark value hfound =>
      exact List.append_ne_nil_of_left_ne_nil (hvalues _ (List.mem_of_find?_eq_some hfound)) _
    · exact List.cons_ne_nil _ _

/-! ## Values that touch no mark -/

/-- Nothing stands in every mark. -/
theorem Clear.ne_nil (h : Clear value mark) (hmark : mark.tail ≠ []) : value ≠ [] := by
  rintro rfl
  exact h.apart mark.tail List.suffix_rfl hmark (.inl List.nil_prefix)

/-- A value without braces touches no mark in braces if it has a character that the mark lacks. -/
theorem Clear.of_foreign {name : List Char} {foreign : Char}
    (hopen : '\x7b' ∉ value) (hclose : '\x7d' ∉ value) (hmem : foreign ∈ value)
    (hforeign : foreign ∉ '\x7b' :: (name ++ ['\x7d'])) :
    Clear value ('\x7b' :: (name ++ ['\x7d'])) where
  apart := by
    intro later hlater hne hmeets
    rcases hmeets with hstands | hends
    · -- the value would be part of the mark
      exact hforeign (List.mem_cons_of_mem _ (hlater.subset (hstands.subset hmem)))
    · -- the end of the mark would be part of the value
      obtain ⟨before, hsplit⟩ := hlater
      rcases List.eq_nil_or_concat later with rfl | ⟨inner, last, rfl⟩
      · exact hne rfl
      · rw [List.tail_cons, List.concat_eq_append, ← List.append_assoc] at hsplit
        obtain ⟨-, hlast⟩ := List.append_inj' hsplit rfl
        obtain rfl := List.head_eq_of_cons_eq hlast
        exact hclose (hends.subset (by simp))
  begins := by
    intro later hlater hne hmeets
    cases later with
    | nil => exact hne rfl
    | cons c later =>
      have hc : c ≠ '\x7b' := by
        rintro rfl
        exact hopen (hlater.subset List.mem_cons_self)
      rcases hmeets with hstands | hholds
      · exact hc (List.cons_prefix_cons.mp hstands).1
      · exact hc (List.cons_prefix_cons.mp hholds).1.symm

end TransferDrill.Text

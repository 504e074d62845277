import TransferDrill.Matching.Signers
import Mathlib.Data.List.Dedup
import Mathlib.Data.List.Perm.Subperm
import Mathlib.Data.List.Sort
import Mathlib.Data.String.Basic

/-!
# The check of signers decides a permutation

Only a count and one difference are compared. Since the intended signers are distinct, a list of
the same length that lacks none of them is a permutation of them. So there is nothing unexpected
left to report, and a list of that length with a repetition or a stranger in it lacks somebody.
-/

namespace TransferDrill.Matching

/-- Dropping repetitions leaves distinct names. -/
theorem nodup_eraseDups (names : List String) : names.eraseDups.Nodup := by
  cases names with
  | nil => simp
  | cons name rest =>
    rw [List.eraseDups_cons, List.nodup_cons]
    exact ⟨by simp, nodup_eraseDups (rest.filter fun other => !other == name)⟩
termination_by names.length
decreasing_by exact Nat.lt_succ_of_le (List.length_filter_le _ rest)

/-- The intended signers are the distinct signers of the payloads. -/
theorem intendedSigners_perm (payloads : List SigningPayload) :
    (intendedSigners payloads).Perm (payloads.map (·.signer)).dedup :=
  (List.perm_ext_iff_of_nodup (nodup_eraseDups _) (List.nodup_dedup _)).mpr fun name => by
    rw [List.mem_eraseDups, List.mem_dedup]

/-- As many signers as are distinct names, of which none is lacking, are these names. -/
theorem perm_of_none_lacking {names signers : List String} (hnodup : names.Nodup)
    (hlength : names.length = signers.length) (hnone : ∀ name ∈ names, name ∈ signers) :
    signers.Perm names :=
  ((List.subperm_of_subset hnodup hnone).perm_of_length_le (Nat.le_of_eq hlength.symm)).symm

/-- Some names are the absent ones: those intended that do not sign, each once and in order. -/
structure IsAbsent (intended signers absent : List String) : Prop where
  sorted : absent.SortedLT
  mem_iff : ∀ name, name ∈ absent ↔ name ∈ intended ∧ name ∉ signers

section IsAbsent

variable {intended signers absent other : List String}

/-- There is only one list of the absent names. -/
theorem IsAbsent.unique (h : IsAbsent intended signers absent)
    (h' : IsAbsent intended signers other) : absent = other :=
  h.sorted.eq_of_mem_iff h'.sorted fun name => (h.mem_iff name).trans (h'.mem_iff name).symm

/-- Who is absent does not depend on the order in which signers are intended. -/
theorem IsAbsent.of_perm (h : IsAbsent intended signers absent) (hsame : intended.Perm other) :
    IsAbsent other signers absent :=
  ⟨h.sorted, fun name => by rw [h.mem_iff, hsame.mem_iff]⟩

/-- Where somebody is absent, the signers are not those intended. -/
theorem IsAbsent.not_perm (h : IsAbsent intended signers absent) (hsome : absent ≠ []) :
    ¬signers.Perm intended := by
  intro hperm
  obtain ⟨name, hname⟩ := List.exists_mem_of_ne_nil absent hsome
  obtain ⟨hintended, hnot⟩ := (h.mem_iff name).mp hname
  exact hnot (hperm.symm.subset hintended)

/-- What is reported as missing is what is absent. -/
theorem isAbsent_mergeSort (hnodup : intended.Nodup) (signers : List String) :
    IsAbsent intended signers
      ((intended.filter (!signers.contains ·)).mergeSort (decide <| · ≤ ·)) where
  sorted := by
    have hsorted := List.sortedLE_mergeSort (l := intended.filter (!signers.contains ·))
    exact hsorted.sortedLT_of_nodup ((List.mergeSort_perm _ _).nodup_iff.mpr (hnodup.filter _))
  mem_iff name := by simp

end IsAbsent

section Verdict

variable (payloads : List SigningPayload) (signers : List String)

/-- The check finds another count, or the right count and somebody absent, or a permutation. -/
theorem checkSigners_cases :
    let distinct := (payloads.map (·.signer)).dedup
    (distinct.length ≠ signers.length ∧
      checkSigners payloads signers = .error (.count distinct.length signers.length)) ∨
    (distinct.length = signers.length ∧ ∃ absent, absent ≠ [] ∧
      IsAbsent distinct signers absent ∧ checkSigners payloads signers = .error (.missing absent)) ∨
    (signers.Perm distinct ∧ checkSigners payloads signers = .ok ()) := by
  intro distinct
  have hsame : (intendedSigners payloads).Perm distinct := intendedSigners_perm payloads
  have hnodup : (intendedSigners payloads).Nodup := nodup_eraseDups _
  simp only [← hsame.length_eq, checkSigners]
  by_cases hlength : (intendedSigners payloads).length = signers.length
  · rw [if_neg (not_not.mpr hlength)]
    by_cases hmissing : (intendedSigners payloads).filter (!signers.contains ·) = []
    · have hperm : signers.Perm (intendedSigners payloads) := by
        refine perm_of_none_lacking hnodup hlength fun name hname => ?_
        simpa using List.filter_eq_nil_iff.mp hmissing name hname
      have hunexpected : signers.filter (!(intendedSigners payloads).contains ·) = [] :=
        List.filter_eq_nil_iff.mpr fun name hname => by simpa using hperm.subset hname
      rw [hmissing, if_neg (by simp), hunexpected, if_neg (by simp)]
      exact .inr (.inr ⟨hperm.trans hsame, rfl⟩)
    · rw [if_pos (by simpa using hmissing)]
      refine .inr (.inl ⟨hlength, _, ?_, (isAbsent_mergeSort hnodup signers).of_perm hsame, rfl⟩)
      rwa [ne_eq, ← List.length_eq_zero_iff, List.length_mergeSort, List.length_eq_zero_iff]
  · rw [if_pos hlength]
    exact .inl ⟨hlength, rfl⟩

/-- The check of signers decides whether they are the distinct signers of the payloads in some
order. -/
theorem checkSigners_eq_ok_iff :
    checkSigners payloads signers = .ok () ↔ signers.Perm (payloads.map (·.signer)).dedup := by
  rcases checkSigners_cases payloads signers with
    ⟨hlength, hcheck⟩ | ⟨-, absent, hsome, habsent, hcheck⟩ | ⟨hperm, hcheck⟩
  · exact iff_of_false (by simp [hcheck]) fun hperm => hlength hperm.length_eq.symm
  · exact iff_of_false (by simp [hcheck]) (habsent.not_perm hsome)
  · exact iff_of_true hcheck hperm

/-- Counts are reported exactly where they differ. -/
theorem checkSigners_eq_count_iff (expected found : Nat) :
    checkSigners payloads signers = .error (.count expected found) ↔
      expected = (payloads.map (·.signer)).dedup.length ∧ found = signers.length ∧
        expected ≠ found := by
  rcases checkSigners_cases payloads signers with
    ⟨hlength, hcheck⟩ | ⟨hlength, absent, -, -, hcheck⟩ | ⟨hperm, hcheck⟩
  · rw [hcheck]
    constructor
    · rintro ⟨⟩
      exact ⟨rfl, rfl, hlength⟩
    · rintro ⟨rfl, rfl, -⟩
      rfl
  · refine iff_of_false (by simp [hcheck]) ?_
    rintro ⟨rfl, rfl, hdiffer⟩
    exact hdiffer hlength
  · refine iff_of_false (by simp [hcheck]) ?_
    rintro ⟨rfl, rfl, hdiffer⟩
    exact hdiffer hperm.length_eq.symm

/-- Signers are reported as missing exactly where the counts agree and somebody is absent. -/
theorem checkSigners_eq_missing_iff (absent : List String) :
    checkSigners payloads signers = .error (.missing absent) ↔
      (payloads.map (·.signer)).dedup.length = signers.length ∧ absent ≠ [] ∧
        IsAbsent (payloads.map (·.signer)).dedup signers absent := by
  rcases checkSigners_cases payloads signers with
    ⟨hlength, hcheck⟩ | ⟨hlength, found, hsome, hfound, hcheck⟩ | ⟨hperm, hcheck⟩
  · exact iff_of_false (by simp [hcheck]) fun h => hlength h.1
  · rw [hcheck]
    constructor
    · rintro ⟨⟩
      exact ⟨hlength, hsome, hfound⟩
    · rintro ⟨-, -, habsent⟩
      rw [hfound.unique habsent]
  · exact iff_of_false (by simp [hcheck]) fun h => h.2.2.not_perm h.2.1 hperm

/-- Nothing is ever reported as unexpected. -/
theorem checkSigners_ne_unexpected (names : List String) :
    checkSigners payloads signers ≠ .error (.unexpected names) := by
  rcases checkSigners_cases payloads signers with
    ⟨-, hcheck⟩ | ⟨-, absent, -, -, hcheck⟩ | ⟨-, hcheck⟩ <;> simp [hcheck]

end Verdict

/-- What the check of signers finds, whatever they are. It passes exactly the permutations of the
distinct signers of the payloads, that is, the lists without repetitions that have the same
elements. It reports the counts exactly where they differ, and otherwise exactly the signers of the
payloads that are absent, in order; nothing is ever reported as unexpected. -/
theorem checkSigners_classifies (payloads : List SigningPayload) (signers : List String) :
    let distinct := (payloads.map (·.signer)).dedup
    (checkSigners payloads signers = .ok () ↔ signers.Perm distinct) ∧
    (signers.Perm distinct ↔
      signers.Nodup ∧ ∀ name, name ∈ signers ↔ ∃ payload ∈ payloads, payload.signer = name) ∧
    (∀ expected found, checkSigners payloads signers = .error (.count expected found) ↔
      expected = distinct.length ∧ found = signers.length ∧ expected ≠ found) ∧
    (∀ absent, checkSigners payloads signers = .error (.missing absent) ↔
      distinct.length = signers.length ∧ absent ≠ [] ∧ IsAbsent distinct signers absent) ∧
    ∀ names, checkSigners payloads signers ≠ .error (.unexpected names) := by
  intro distinct
  refine ⟨checkSigners_eq_ok_iff payloads signers, ?_, checkSigners_eq_count_iff payloads signers,
    checkSigners_eq_missing_iff payloads signers, checkSigners_ne_unexpected payloads signers⟩
  have hmem (name : String) : name ∈ distinct ↔ ∃ payload ∈ payloads, payload.signer = name := by
    rw [List.mem_dedup, List.mem_map]
  simp only [← hmem]
  constructor
  · exact fun hperm => ⟨hperm.nodup_iff.mpr (List.nodup_dedup _), fun _ => hperm.mem_iff⟩
  · intro h
    obtain ⟨hnodup, hnames⟩ := h
    exact (List.perm_ext_iff_of_nodup hnodup (List.nodup_dedup _)).mpr hnames

end TransferDrill.Matching

import TransferDrill.Json.Equality
import Mathlib.Data.List.Perm.Subperm

/-!
# Equality of documents is an equivalence

Objects stand for finite maps, so a document is meant to name each member of an object once. On
such documents equality by meaning is reflexive, symmetric and transitive. Symmetry needs the
distinct names: two objects of one size share all their names as soon as one of them has no name
that the other lacks.
-/

namespace TransferDrill.Json

mutual

/-- At every depth, each member of an object has a name of its own. -/
def NamesDistinct : Json → Prop
  | .array items => ItemsNamesDistinct items
  | .object members => (members.map Prod.fst).Nodup ∧ ValuesNamesDistinct members
  | _ => True

/-- The items have distinct names at every depth. -/
def ItemsNamesDistinct : List Json → Prop
  | [] => True
  | item :: rest => NamesDistinct item ∧ ItemsNamesDistinct rest

/-- The values of members have distinct names at every depth. -/
def ValuesNamesDistinct : List (String × Json) → Prop
  | [] => True
  | (_, value) :: rest => NamesDistinct value ∧ ValuesNamesDistinct rest

end

/-- What a name is looked up to is a member of that name. -/
theorem mem_of_lookup {members : Members} {name : String} {value : Json}
    (h : members.lookup name = some value) : (name, value) ∈ members := by
  obtain ⟨before, after, rfl, -⟩ := List.lookup_eq_some_iff.mp h
  simp

/-- Among distinct names, a member is what its name is looked up to. -/
theorem lookup_of_mem {members : Members} (distinct : (members.map Prod.fst).Nodup) {name : String}
    {value : Json} (h : (name, value) ∈ members) : members.lookup name = some value := by
  obtain ⟨before, after, rfl⟩ := List.append_of_mem h
  refine List.lookup_eq_some_iff.mpr ⟨before, after, rfl, fun entry hentry => ?_⟩
  simp only [List.map_append, List.map_cons, List.nodup_append, List.nodup_cons] at distinct
  have hne := distinct.2.2 entry.1 (List.mem_map_of_mem hentry) name List.mem_cons_self
  simpa using hne.symm

/-- A document of a numeric value equals exactly those of the same value. -/
theorem same_of_number? {a : Json} {x : Exact} (h : a.number? = some x) (b : Json) :
    same a b = true ↔ b.number? = some x := by
  cases a <;> simp_all [same, number?]

/-- Nothing but null equals null. -/
theorem same_null_iff {b : Json} : same .null b = true ↔ b = .null := by
  cases b <;> simp [same]

/-- Only the same text equals a text. -/
theorem same_string_iff {s : String} {b : Json} : same (.string s) b = true ↔ .string s = b := by
  cases b <;> simp [same]

/-- Each member has an equal one of its name among the others. -/
theorem sameMembers_iff {members others : Members} :
    sameMembers members others = true ↔
      ∀ entry ∈ members, ∃ other, others.lookup entry.1 = some other ∧
        same entry.2 other = true := by
  induction members with
  | nil => simp [sameMembers]
  | cons entry rest ih =>
    obtain ⟨name, value⟩ := entry
    cases h : others.lookup name <;> simp [sameMembers, h, ih]

/-- Two objects of one size have the same names if those of the first are distinct and occur in
the second. -/
theorem names_perm {members others : Members} (distinct : (members.map Prod.fst).Nodup)
    (size : members.length = others.length) (within : sameMembers members others = true) :
    (members.map Prod.fst).Perm (others.map Prod.fst) := by
  have included : members.map Prod.fst ⊆ others.map Prod.fst := by
    intro name hname
    obtain ⟨entry, hentry, rfl⟩ := List.mem_map.mp hname
    obtain ⟨other, hother, -⟩ := sameMembers_iff.mp within entry hentry
    exact List.mem_map.mpr ⟨(entry.1, other), mem_of_lookup hother, rfl⟩
  exact (List.subperm_of_subset distinct included).perm_of_length_le (by simp [size])

mutual

/-- Equality by meaning is reflexive. -/
theorem same_refl : (a : Json) → NamesDistinct a → same a a = true
  | .null, _ => rfl
  | .bool _, _ => (same_of_number? rfl _).mpr rfl
  | .int _, _ => (same_of_number? rfl _).mpr rfl
  | .float _, _ => (same_of_number? rfl _).mpr rfl
  | .string _, _ => same_string_iff.mpr rfl
  | .array items, h => by
    rw [NamesDistinct] at h
    rw [same, sameItems_refl items h]
  | .object members, h => by
    rw [NamesDistinct] at h
    have within : sameMembers members members = true :=
      sameMembers_iff.mpr fun entry hentry =>
        ⟨entry.2, lookup_of_mem h.1 hentry, sameValues_refl members h.2 entry hentry⟩
    simp [same, within]

/-- Items with distinct names equal themselves. -/
theorem sameItems_refl : (items : List Json) → ItemsNamesDistinct items →
    sameItems items items = true
  | [], _ => rfl
  | item :: rest, h => by
    rw [ItemsNamesDistinct] at h
    simp [sameItems, same_refl item h.1, sameItems_refl rest h.2]

/-- Each value among members with distinct names equals itself. -/
theorem sameValues_refl : (members : List (String × Json)) → ValuesNamesDistinct members →
    ∀ entry ∈ members, same entry.2 entry.2 = true
  | [], _, _, hentry => by simp at hentry
  | (_, value) :: rest, h, entry, hentry => by
    rw [ValuesNamesDistinct] at h
    rcases List.mem_cons.mp hentry with rfl | hentry
    · exact same_refl value h.1
    · exact sameValues_refl rest h.2 entry hentry

end

mutual

/-- Equality by meaning is symmetric. -/
theorem same_symm : (a b : Json) → NamesDistinct a → same a b = true → same b a = true
  | .null, b, _, h => by rw [same_null_iff.mp h]; rfl
  | .bool _, b, _, h => (same_of_number? ((same_of_number? rfl b).mp h) _).mpr rfl
  | .int _, b, _, h => (same_of_number? ((same_of_number? rfl b).mp h) _).mpr rfl
  | .float _, b, _, h => (same_of_number? ((same_of_number? rfl b).mp h) _).mpr rfl
  | .string _, b, _, h => same_string_iff.mp h ▸ same_string_iff.mpr rfl
  | .array items, b, distinct, h => by
    rw [NamesDistinct] at distinct
    cases b with
    | array others =>
      rw [same] at h ⊢
      exact sameItems_symm items others distinct h
    | _ => simp [same] at h
  | .object members, b, distinct, h => by
    rw [NamesDistinct] at distinct
    cases b with
    | object others =>
      simp only [same, Bool.and_eq_true, beq_iff_eq] at h ⊢
      have names := names_perm distinct.1 h.1 h.2
      refine ⟨h.1.symm, sameMembers_iff.mpr fun entry hentry => ?_⟩
      obtain ⟨found, hfound, hname⟩ := List.mem_map.mp (names.symm.subset
        (List.mem_map_of_mem hentry))
      obtain ⟨other, hother, hsame⟩ := sameMembers_iff.mp h.2 found hfound
      -- the names of the others are distinct too, so the member looked up is the given one
      have hlookup := lookup_of_mem (names.nodup_iff.mp distinct.1) hentry
      rw [hname, hlookup, Option.some.injEq] at hother
      subst hother
      exact ⟨found.2, hname ▸ lookup_of_mem distinct.1 hfound,
        sameValues_symm members distinct.2 found hfound entry.2 hsame⟩
    | _ => simp [same] at h

/-- Equality of items is symmetric. -/
theorem sameItems_symm : (items others : List Json) → ItemsNamesDistinct items →
    sameItems items others = true → sameItems others items = true
  | [], [], _, _ => rfl
  | [], _ :: _, _, h => by simp [sameItems] at h
  | _ :: _, [], _, h => by simp [sameItems] at h
  | item :: rest, other :: others, distinct, h => by
    rw [ItemsNamesDistinct] at distinct
    simp only [sameItems, Bool.and_eq_true] at h ⊢
    exact ⟨same_symm item other distinct.1 h.1, sameItems_symm rest others distinct.2 h.2⟩

/-- Equality with a value among members is symmetric. -/
theorem sameValues_symm : (members : List (String × Json)) → ValuesNamesDistinct members →
    ∀ entry ∈ members, ∀ other, same entry.2 other = true → same other entry.2 = true
  | [], _, _, hentry => by simp at hentry
  | (_, value) :: rest, distinct, entry, hentry => by
    rw [ValuesNamesDistinct] at distinct
    rcases List.mem_cons.mp hentry with rfl | hentry
    · exact fun other => same_symm value other distinct.1
    · exact sameValues_symm rest distinct.2 entry hentry

end

mutual

/-- Equality by meaning is transitive. -/
theorem same_trans : (a b c : Json) → same a b = true → same b c = true → same a c = true
  | .null, b, c, hab, hbc => by rwa [same_null_iff.mp hab] at hbc
  | .bool _, b, c, hab, hbc =>
    (same_of_number? rfl c).mpr ((same_of_number? ((same_of_number? rfl b).mp hab) c).mp hbc)
  | .int _, b, c, hab, hbc =>
    (same_of_number? rfl c).mpr ((same_of_number? ((same_of_number? rfl b).mp hab) c).mp hbc)
  | .float _, b, c, hab, hbc =>
    (same_of_number? rfl c).mpr ((same_of_number? ((same_of_number? rfl b).mp hab) c).mp hbc)
  | .string _, b, c, hab, hbc => by rwa [← same_string_iff.mp hab] at hbc
  | .array items, b, c, hab, hbc => by
    cases b with
    | array others =>
      cases c with
      | array more =>
        rw [same] at hab hbc ⊢
        exact sameItems_trans items others more hab hbc
      | _ => simp [same] at hbc
    | _ => simp [same] at hab
  | .object members, b, c, hab, hbc => by
    cases b with
    | object others =>
      cases c with
      | object more =>
        simp only [same, Bool.and_eq_true, beq_iff_eq] at hab hbc ⊢
        refine ⟨hab.1.trans hbc.1, sameMembers_iff.mpr fun entry hentry => ?_⟩
        obtain ⟨other, hother, hsame⟩ := sameMembers_iff.mp hab.2 entry hentry
        obtain ⟨third, hthird, hsame'⟩ := sameMembers_iff.mp hbc.2 _ (mem_of_lookup hother)
        exact ⟨third, hthird, sameValues_trans members entry hentry other third hsame hsame'⟩
      | _ => simp [same] at hbc
    | _ => simp [same] at hab

/-- Equality of items is transitive. -/
theorem sameItems_trans : (items others more : List Json) → sameItems items others = true →
    sameItems others more = true → sameItems items more = true
  | [], [], _, _, h => h
  | [], _ :: _, _, h, _ => by simp [sameItems] at h
  | _ :: _, [], _, h, _ => by simp [sameItems] at h
  | _ :: _, _ :: _, [], _, h => by simp [sameItems] at h
  | item :: rest, other :: others, third :: more, h, h' => by
    simp only [sameItems, Bool.and_eq_true] at h h' ⊢
    exact ⟨same_trans item other third h.1 h'.1, sameItems_trans rest others more h.2 h'.2⟩

/-- Equality with a value among members is transitive. -/
theorem sameValues_trans : (members : List (String × Json)) → ∀ entry ∈ members,
    ∀ other third, same entry.2 other = true → same other third = true →
      same entry.2 third = true
  | [], _, hentry => by simp at hentry
  | (_, value) :: rest, entry, hentry => by
    rcases List.mem_cons.mp hentry with rfl | hentry
    · exact fun other third => same_trans value other third
    · exact sameValues_trans rest entry hentry

end

end TransferDrill.Json

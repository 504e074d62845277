import TransferDrill.Proofs.Json.Equality
import TransferDrill.Proofs.Numeric.Quantity

/-!
# What documents mean

A document means a tree in which objects are finite maps, arrays are sequences, and the truth
values, integers and floating point numbers are the numbers that they are worth. Two documents are
equal by meaning exactly if they mean the same tree, at whatever depth they differ in writing.
-/

namespace TransferDrill

/-- What a document means. -/
inductive Meaning where
  | null
  | text (value : String)
  | number (value : Quantity)
  | sequence (items : List Meaning)
  | mapping (find : String → Option Meaning)

namespace Json

mutual

/-- The meaning of a document; the truth values count as one and zero. -/
def meaning : Json → Meaning
  | .null => .null
  | .bool b => .number (.finite (if b then 1 else 0))
  | .int n => .number (.finite n)
  | .float x => .number x.quantity
  | .string s => .text s
  | .array items => .sequence (itemMeanings items)
  | .object members => .mapping (memberMeaning members)

/-- The meanings of the items of an array. -/
def itemMeanings : List Json → List Meaning
  | [] => []
  | item :: rest => meaning item :: itemMeanings rest

/-- The finite map that the members of an object stand for. -/
def memberMeaning : List (String × Json) → String → Option Meaning
  | [], _ => none
  | (known, value) :: rest, name =>
    if name = known then some (meaning value) else memberMeaning rest name

end

/-- The finite map takes a name to the meaning of what it is looked up to. -/
theorem memberMeaning_eq (members : Members) (name : String) :
    memberMeaning members name = (members.lookup name).map meaning := by
  induction members with
  | nil => rfl
  | cons entry rest ih =>
    obtain ⟨known, value⟩ := entry
    rw [memberMeaning, List.lookup_cons]
    by_cases h : name = known
    · rw [if_pos h, beq_iff_eq.mpr h]
      rfl
    · rw [if_neg h, ih, beq_false_of_ne h]

/-- The documents that mean a number are those of a numeric value. -/
theorem meaning_eq_number_iff {a : Json} {q : Quantity} :
    a.meaning = .number q ↔ a.number?.map Exact.quantity = some q := by
  cases a with
  | bool b => cases b <;> simp [meaning, number?, Exact.quantity_ofInt]
  | int n => simp [meaning, number?, Exact.quantity_ofInt]
  | float x => simp [meaning, number?, Binary64.quantity_exact]
  | _ => simp [meaning, number?]

/-- A document of a numeric value equals exactly those that mean the same number. -/
theorem same_iff_of_number? {a : Json} {x : Exact} (h : a.number? = some x) (b : Json) :
    same a b = true ↔ a.meaning = b.meaning := by
  have hmeaning : a.meaning = .number x.quantity := meaning_eq_number_iff.mpr (by rw [h]; rfl)
  rw [same_of_number? h, hmeaning, eq_comm (b := b.meaning), meaning_eq_number_iff,
    ← Option.map_some, (Option.map_injective Exact.quantity_injective).eq_iff]

/-- Among members with distinct names at every depth, so are those of each value. -/
theorem ValuesNamesDistinct.of_mem {members : Members} (h : ValuesNamesDistinct members)
    {entry : String × Json} (hentry : entry ∈ members) : NamesDistinct entry.2 := by
  induction members with
  | nil => simp at hentry
  | cons first rest ih =>
    rw [ValuesNamesDistinct] at h
    rcases List.mem_cons.mp hentry with rfl | hentry
    · exact h.1
    · exact ih h.2 hentry

/-- The finite map has the names of the members. -/
theorem memberMeaning_ne_none_iff {members : Members} {name : String} :
    memberMeaning members name ≠ none ↔ name ∈ members.map Prod.fst := by
  rw [memberMeaning_eq, Ne, Option.map_eq_none_iff, List.lookup_eq_none_iff]
  simp

/-- Among distinct names, the finite map has every member. -/
theorem memberMeaning_of_mem {members : Members} (distinct : (members.map Prod.fst).Nodup)
    {entry : String × Json} (hentry : entry ∈ members) :
    memberMeaning members entry.1 = some entry.2.meaning := by
  rw [memberMeaning_eq, lookup_of_mem distinct hentry, Option.map_some]

/-- Objects with distinct names are equal if their members are those of the same finite map, given
that this is so for the values. -/
theorem same_object_iff {members others : Members} (distinct : (members.map Prod.fst).Nodup)
    (distinct' : (others.map Prod.fst).Nodup)
    (hvalues : ∀ entry ∈ members, ∀ other ∈ others,
      (same entry.2 other.2 = true ↔ entry.2.meaning = other.2.meaning)) :
    same (.object members) (.object others) = true ↔
      memberMeaning members = memberMeaning others := by
  simp only [same, Bool.and_eq_true, beq_iff_eq]
  constructor
  · intro (h : members.length = others.length ∧ sameMembers members others = true)
    have names := names_perm distinct h.1 h.2
    funext name
    by_cases hname : name ∈ members.map Prod.fst
    · obtain ⟨entry, hentry, rfl⟩ := List.mem_map.mp hname
      obtain ⟨other, hother, hsame⟩ := sameMembers_iff.mp h.2 entry hentry
      rw [memberMeaning_of_mem distinct hentry, memberMeaning_eq, hother, Option.map_some,
        (hvalues _ hentry _ (mem_of_lookup hother)).mp hsame]
    · have hother : name ∉ others.map Prod.fst := fun hother => hname (names.symm.subset hother)
      rw [not_ne_iff.mp (memberMeaning_ne_none_iff.not.mpr hname),
        not_ne_iff.mp (memberMeaning_ne_none_iff.not.mpr hother)]
  · intro (h : memberMeaning members = memberMeaning others)
    have names : (members.map Prod.fst).Perm (others.map Prod.fst) := by
      refine (List.perm_ext_iff_of_nodup distinct distinct').mpr fun name => ?_
      rw [← memberMeaning_ne_none_iff, ← memberMeaning_ne_none_iff, h]
    refine ⟨by simpa using names.length_eq, sameMembers_iff.mpr fun entry hentry => ?_⟩
    have hfound := memberMeaning_of_mem distinct hentry
    rw [h, memberMeaning_eq] at hfound
    obtain ⟨other, hother, hmeaning⟩ := Option.map_eq_some_iff.mp hfound
    exact ⟨other, hother, (hvalues _ hentry _ (mem_of_lookup hother)).mpr hmeaning.symm⟩

mutual

/-- Documents are equal by meaning exactly if they mean the same. -/
theorem same_iff : (a b : Json) → NamesDistinct a → NamesDistinct b →
    (same a b = true ↔ a.meaning = b.meaning)
  | .null, b, _, _ => by
    rw [same_null_iff]
    cases b <;> simp [meaning]
  | .bool _, b, _, _ => same_iff_of_number? rfl b
  | .int _, b, _, _ => same_iff_of_number? rfl b
  | .float _, b, _, _ => same_iff_of_number? rfl b
  | .string _, b, _, _ => by
    rw [same_string_iff]
    cases b <;> simp [meaning]
  | .array items, b, ha, hb => by
    cases b with
    | array others =>
      rw [NamesDistinct] at ha hb
      rw [same, meaning, meaning, Meaning.sequence.injEq]
      exact sameItems_iff items others ha hb
    | _ => simp [same, meaning]
  | .object members, b, ha, hb => by
    cases b with
    | object others =>
      rw [NamesDistinct] at ha hb
      rw [meaning, meaning, Meaning.mapping.injEq]
      exact same_object_iff ha.1 hb.1 fun entry hentry other hother =>
        sameValues_iff members ha.2 entry hentry other.2 (hb.2.of_mem hother)
    | _ => simp [same, meaning]

/-- Items are equal exactly if their meanings are. -/
theorem sameItems_iff : (items others : List Json) → ItemsNamesDistinct items →
    ItemsNamesDistinct others →
      (sameItems items others = true ↔ itemMeanings items = itemMeanings others)
  | [], [], _, _ => by simp [sameItems]
  | [], _ :: _, _, _ => by simp [sameItems, itemMeanings]
  | _ :: _, [], _, _ => by simp [sameItems, itemMeanings]
  | item :: rest, other :: others, h, h' => by
    rw [ItemsNamesDistinct] at h h'
    rw [sameItems, Bool.and_eq_true, same_iff item other h.1 h'.1,
      sameItems_iff rest others h.2 h'.2, itemMeanings, itemMeanings, List.cons.injEq]

/-- A value among members equals another exactly if their meanings are equal. -/
theorem sameValues_iff : (members : List (String × Json)) → ValuesNamesDistinct members →
    ∀ entry ∈ members, ∀ other, NamesDistinct other →
      (same entry.2 other = true ↔ entry.2.meaning = other.meaning)
  | [], _, _, hentry => by simp at hentry
  | (_, value) :: rest, h, entry, hentry => by
    rw [ValuesNamesDistinct] at h
    rcases List.mem_cons.mp hentry with rfl | hentry
    · exact fun other => same_iff value other h.1
    · exact sameValues_iff rest h.2 entry hentry

end

/-- The finite map that optional members stand for. -/
def mapping? (data : Option Members) : Option (String → Option Meaning) :=
  data.map memberMeaning

end Json

end TransferDrill

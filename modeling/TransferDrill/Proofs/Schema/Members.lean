import TransferDrill.Schema.Record
import TransferDrill.Proofs.Json.Substitution

/-!
# Reading substituted members

The members of a record have names of their own, and a function that leaves plain texts alone
keeps these names apart. So a name is looked up in the substituted members as it was before, and
what it is looked up to has been substituted.
-/

namespace TransferDrill.Schema

open Json

/-- The function changes only texts with a brace in them. -/
def KeepsPlain (f : String → String) : Prop := ∀ s : String, '\x7b' ∉ s.toList → f s = s

/-- The members have some of the given names, each at most once and in their order. -/
def Named (names : List String) (members : Members) : Prop := (members.map Prod.fst).Sublist names

/-- A single member has its own name. -/
theorem named_single (name : String) (document : Json) : Named [name] [(name, document)] :=
  List.Sublist.refl _

/-- A member that is left out when absent has no other name. -/
theorem named_optionalMember (name : String) (value : Option Json) :
    Named [name] (optionalMember false name value) := by
  cases value with
  | none => exact List.nil_sublist _
  | some document => exact List.Sublist.refl _

/-- Members may be put together if their names may. -/
theorem Named.append {names others : List String} {members more : Members}
    (h : Named names members) (hmore : Named others more) :
    Named (names ++ others) (members ++ more) := by
  rw [Named, List.map_append]
  exact List.Sublist.append h hmore

/-- A name that is none of the names of the members is not found. -/
theorem get?_eq_none {name : String} {members : Members} (h : name ∉ members.map Prod.fst) :
    members.get? name = none := by
  apply List.lookup_eq_none_iff.mpr
  intro entry hentry
  have hne : name ≠ entry.1 := fun heq => h (heq ▸ List.mem_map_of_mem hentry)
  simpa using hne

/-- Among members with distinct names that the function keeps, a name is looked up to what has
been substituted for its value, or else to what it was before. -/
theorem get?_substituteMembers_of_nodup {f : String → String} {members : Members}
    (hdistinct : (members.map Prod.fst).Nodup)
    (hkept : ∀ known ∈ members.map Prod.fst, f known = known)
    (earlier : Members) (name : String) :
    (substituteMembers f earlier members).get? name =
      ((members.get? name).map (substitute f)).or (earlier.get? name) := by
  induction members generalizing earlier with
  | nil => rfl
  | cons entry rest ih =>
    obtain ⟨known, value⟩ := entry
    rw [List.map_cons, List.nodup_cons] at hdistinct
    rw [List.map_cons, List.forall_mem_cons] at hkept
    rw [substituteMembers, hkept.1, ih hdistinct.2 hkept.2]
    by_cases hname : name = known
    · subst hname
      rw [get?_eq_none hdistinct.1, Keyed.get?_put_self, Keyed.get?_cons, if_pos rfl]
      rfl
    · rw [Keyed.get?_put_of_ne _ _ hname, Keyed.get?_cons, if_neg hname]

/-- Each name is looked up in the substituted members to what was substituted for its value. -/
def KeepsNames (f : String → String) (members : Members) : Prop :=
  ∀ name, (substituteMembers f [] members).get? name = (members.get? name).map (substitute f)

/-- A function that changes no plain text keeps the names of a record, which are distinct. -/
theorem Named.keepsNames {names : List String} {members : Members} (h : Named names members)
    (hdistinct : names.Nodup) (hplain : ∀ name ∈ names, '\x7b' ∉ name.toList) {f : String → String}
    (hf : KeepsPlain f) : KeepsNames f members := by
  intro name
  have hkept : ∀ known ∈ members.map Prod.fst, f known = known :=
    fun known hknown => hf known (hplain known (h.subset hknown))
  rw [get?_substituteMembers_of_nodup (hdistinct.sublist h) hkept]
  exact Option.or_none

/-- What is found under the name of a member that may be left out when it has no value. -/
def memberDocument (keepAbsent : Bool) (value : Option Json) : Option Json :=
  value.or (if keepAbsent then some .null else none)

/-- Where absent members are left out, only a value is found. -/
@[simp] theorem memberDocument_false (value : Option Json) : memberDocument false value = value :=
  Option.or_none

/-- A member that may be left out is found under its name and under no other. -/
@[simp] theorem get?_optionalMember (keepAbsent : Bool) (name known : String)
    (value : Option Json) :
    Keyed.get? name (optionalMember keepAbsent known value) =
      if name = known then memberDocument keepAbsent value else none := by
  cases value <;> cases keepAbsent <;> simp [optionalMember, memberDocument]

/-! ## Reading substituted members -/

section

variable {f : String → String} {members : Members} {α β : Type} {name : String}

/-- A member that is present is read as it has been substituted. -/
theorem KeepsNames.required_eq (h : KeepsNames f members) {document : Json}
    (hfound : members.get? name = some document) (read : Json → Reading α) :
    required name read (substituteMembers f [] members) =
      (read (substitute f document)).under (.member name) := by
  rw [required, h, hfound]
  rfl

/-- A member that may be absent is read, when present, as it has been substituted. -/
theorem KeepsNames.optional_eq_some (h : KeepsNames f members) {document : Json}
    (hfound : members.get? name = some document) (hnull : substitute f document ≠ .null)
    (read : Json → Reading α) :
    optional name read (substituteMembers f [] members) =
      some <$> (read (substitute f document)).under (.member name) := by
  rw [optional, h, hfound, Option.map_some]
  split
  · cases ‹some (substitute f document) = none›
  · exact absurd (Option.some.inj ‹_›) hnull
  · obtain rfl := Option.some.inj ‹some (substitute f document) = _›
    rfl

/-- A member that is absent remains so. -/
theorem KeepsNames.optional_eq_none (h : KeepsNames f members) (hfound : members.get? name = none)
    (read : Json → Reading α) :
    optional name read (substituteMembers f [] members) = .accepted none := by
  rw [optional, h, hfound]
  rfl

/-- A member that may be absent is accepted if what it holds is. -/
theorem KeepsNames.optional_eq_accepted (h : KeepsNames f members) {value : Option α}
    {dump : α → Json} (hfound : members.get? name = value.map dump)
    (hnull : ∀ a, substitute f (dump a) ≠ .null) {read : Json → Reading β} {g : α → β}
    (hread : ∀ a, read (substitute f (dump a)) = .accepted (g a)) :
    optional name read (substituteMembers f [] members) = .accepted (value.map g) := by
  cases value with
  | none => exact h.optional_eq_none hfound read
  | some a =>
    rw [h.optional_eq_some hfound (hnull a), hread a]
    rfl

/-- Items are accepted if each of them is. -/
theorem itemsFrom_substituteItems {dump : α → Json} {read : Json → Reading β} {g : α → β}
    (hread : ∀ a, read (substitute f (dump a)) = .accepted (g a)) (items : List α) (index : Nat) :
    itemsFrom read index (substituteItems f (items.map dump)) = .accepted (items.map g) := by
  induction items generalizing index with
  | nil => rfl
  | cons a items ih =>
    rw [List.map_cons, substituteItems, itemsFrom, hread a, ih]
    rfl

end

end TransferDrill.Schema

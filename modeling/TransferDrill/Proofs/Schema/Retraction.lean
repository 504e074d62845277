import TransferDrill.Schema.Record
import TransferDrill.Schema.Choice
import TransferDrill.Proofs.Json.Portable
import TransferDrill.Proofs.Schema.Members
import TransferDrill.Proofs.Numeric.Quantity

/-!
# Reading what was dumped

A reader accepts many spellings of one value, and a dump has one of them. A reader, a dump and a
condition on values belong together if only values with the condition are ever read, and each of
them is read from its dump: then reading, followed by dumping, leads to a spelling that is read as
the same value. This holds of the readers of simple values, and it passes to lists, to choices and
to the members of records.
-/

namespace TransferDrill.Schema

/-- What is read is valid, and what is valid is read from its dump. -/
structure Restores {α : Type} (read : Json → Reading α) (dump : α → Json) (Valid : α → Prop) :
    Prop where
  valid : ∀ {document : Json} {a : α}, read document = .accepted a → Valid a
  back : ∀ {a : α}, Valid a → read (dump a) = .accepted a

/-- The condition that every value meets. -/
def Unconditional {α : Type} (_ : α) : Prop := True

/-- A reader that accepts every dump restores every value. -/
theorem Restores.unconditional {α : Type} {read : Json → Reading α} {dump : α → Json}
    (h : ∀ a, read (dump a) = .accepted a) : Restores read dump Unconditional :=
  ⟨fun _ => trivial, fun {a} _ => h a⟩

/-! ## Simple values -/

/-- Every string is read from its dump. -/
theorem restores_string : Restores string .string Unconditional := .unconditional fun _ => rfl

/-- All free-form data is read from its dump. -/
theorem restores_members : Restores members .object Unconditional := .unconditional fun _ => rfl

/-- Every integer is read from its dump. -/
theorem restores_integer : Restores integer .int Unconditional := .unconditional fun _ => rfl

/-- Exactly the strings that are not empty are read, each from its dump. -/
theorem restores_nonEmptyString : Restores nonEmptyString .string (· ≠ "") where
  valid := by
    intro document s h
    obtain ⟨t, -, h⟩ := Reading.andThen_eq_accepted_iff.mp h
    split at h
    · cases h
    · next hempty =>
      cases h
      rintro rfl
      exact hempty rfl
  back := by
    intro s h
    have hempty : ¬s.isEmpty := by simpa using h
    rw [nonEmptyString, string, Reading.andThen, if_neg hempty]

/-- A natural number is read where an integer is, which it is, if that is large enough. -/
theorem natural_eq_accepted_iff {least n : Nat} {document : Json} :
    natural least document = .accepted n ↔
      integer document = .accepted (n : Int) ∧ least ≤ n := by
  rw [natural, Reading.andThen_eq_accepted_iff]
  constructor
  · rintro ⟨i, hread, h⟩
    split at h
    · cases h
    · next hleast =>
      cases h
      have hi : ((i.toNat : Nat) : Int) = i := Int.toNat_of_nonneg (by omega)
      exact ⟨by rw [hi, hread], by omega⟩
  · rintro ⟨hread, hleast⟩
    exact ⟨n, hread, by rw [if_neg (by omega), Int.toNat_natCast]⟩

/-- Exactly the numbers from the least on are read, each from its dump. -/
theorem restores_natural (least : Nat) :
    Restores (natural least) (fun n => .int n) (least ≤ ·) where
  valid h := (natural_eq_accepted_iff.mp h).2
  back h := natural_eq_accepted_iff.mpr ⟨rfl, h⟩

/-- From zero to one. -/
def IsProbability (x : Binary64) : Prop := ∃ p : ℚ, x.quantity = .finite p ∧ 0 ≤ p ∧ p ≤ 1

/-- Above zero, and perhaps infinite. -/
def IsPositive (x : Binary64) : Prop :=
  x.quantity = .infinite false ∨ ∃ t : ℚ, x.quantity = .finite t ∧ 0 < t

/-- The two comparisons with which a probability is checked tell what it is worth. -/
theorem isProbability_iff {x : Binary64} :
    IsProbability x ↔
      x.exact.atMost (.ofInt 1) = true ∧ (Exact.ofInt 0).atMost x.exact = true := by
  rw [Exact.atMost_ofInt_iff, Exact.ofInt_atMost_iff, Binary64.quantity_exact, IsProbability]
  cases x.quantity <;> simp [and_comm]

/-- A float is positive if zero is less than its exact value. -/
theorem isPositive_iff {x : Binary64} : IsPositive x ↔ (Exact.ofInt 0).less x.exact = true := by
  rw [Exact.ofInt_less_iff, Binary64.quantity_exact, IsPositive, Int.cast_zero]

/-- A probability is read where a number is, which it is. -/
theorem probability_eq_accepted_iff {x : Binary64} {document : Json} :
    probability document = .accepted x ↔ number document = .accepted x ∧ IsProbability x := by
  rw [probability, Reading.andThen_eq_accepted_iff, isProbability_iff]
  constructor
  · rintro ⟨y, hread, h⟩
    split at h
    · cases h
    · split at h
      · cases h
      · cases h
        simp_all
  · rintro ⟨hread, habove, hbelow⟩
    exact ⟨x, hread, by simp [habove, hbelow]⟩

/-- A positive number is read where a number is read that is positive. -/
theorem positive_eq_accepted_iff {x : Binary64} {document : Json} :
    positive document = .accepted x ↔ number document = .accepted x ∧ IsPositive x := by
  rw [positive, Reading.andThen_eq_accepted_iff, isPositive_iff]
  constructor
  · rintro ⟨y, hread, h⟩
    split at h
    · cases h
      exact ⟨hread, ‹_›⟩
    · cases h
  · rintro ⟨hread, h⟩
    exact ⟨x, hread, if_pos h⟩

/-- Exactly the floats from zero to one are read as probabilities, each from its dump. -/
theorem restores_probability : Restores probability .float IsProbability where
  valid h := (probability_eq_accepted_iff.mp h).2
  back h := probability_eq_accepted_iff.mpr ⟨rfl, h⟩

/-- Exactly the positive floats are read as such, each from its dump. -/
theorem restores_positive : Restores positive .float IsPositive where
  valid h := (positive_eq_accepted_iff.mp h).2
  back h := positive_eq_accepted_iff.mpr ⟨rfl, h⟩

/-- A choice is restored if each value is found by its label. -/
theorem restores_choice {α : Type} [Choice α]
    (h : ∀ a : α, Choice.ofLabel? (Choice.label a) = some a) :
    Restores (Choice.read : Json → Reading α) Choice.dump Unconditional :=
  .unconditional fun a => by simp only [Choice.read, Choice.dump, h a]

/-! ## Lists -/

section

variable {α : Type} {read : Json → Reading α} {dump : α → Json} {Valid : α → Prop}

namespace Restores

/-- Items that were read are valid. -/
theorem itemsFrom_valid (h : Restores read dump Valid) {documents : List Json} {index : Nat}
    {items : List α} (hread : itemsFrom read index documents = .accepted items) :
    ∀ a ∈ items, Valid a := by
  induction documents generalizing index items with
  | nil =>
    cases hread
    exact List.forall_mem_nil _
  | cons document rest ih =>
    rw [itemsFrom] at hread
    obtain ⟨_, others, hfirst, hrest, rfl⟩ := Reading.apply_eq_accepted_iff.mp hread
    obtain ⟨a, ha, rfl⟩ := Reading.map_eq_accepted_iff.mp hfirst
    exact List.forall_mem_cons.mpr ⟨h.valid (Reading.under_eq_accepted_iff.mp ha), ih hrest⟩

/-- Valid items are read from their dumps. -/
theorem itemsFrom_back (h : Restores read dump Valid) {items : List α} (index : Nat)
    (hvalid : ∀ a ∈ items, Valid a) :
    itemsFrom read index (items.map dump) = .accepted items := by
  induction items generalizing index with
  | nil => rfl
  | cons a items ih =>
    rw [List.forall_mem_cons] at hvalid
    rw [List.map_cons, itemsFrom, h.back hvalid.1, ih _ hvalid.2]
    rfl

/-- A list is restored if its items are. -/
theorem list (h : Restores read dump Valid) :
    Restores (list read) (fun items => .array (items.map dump)) (fun items => ∀ a ∈ items, Valid a)
    where
  valid := by
    intro document items hread
    cases document with
    | array documents => exact h.itemsFrom_valid hread
    | _ => cases hread
  back := h.itemsFrom_back 0

/-- Lists that are not empty are restored if their items are. -/
theorem nonEmptyList (h : Restores read dump Valid) :
    Restores (nonEmptyList read) (fun items => .array (items.map dump))
      (fun items => items ≠ [] ∧ ∀ a ∈ items, Valid a) where
  valid := by
    intro document items hread
    obtain ⟨others, hlist, hread⟩ := Reading.andThen_eq_accepted_iff.mp hread
    split at hread
    · cases hread
    · next hempty =>
      cases hread
      exact ⟨fun hnil => hempty (List.isEmpty_iff.mpr hnil), h.list.valid hlist⟩
  back := by
    rintro items ⟨hne, hvalid⟩
    have hempty : ¬items.isEmpty := fun hnil => hne (List.isEmpty_iff.mp hnil)
    rw [Schema.nonEmptyList, h.list.back hvalid, Reading.andThen, if_neg hempty]

end Restores

/-! ## Members of a record -/

variable {name : String} {members : Json.Members}

/-- A member that must be present holds the document that is read. -/
theorem get?_of_required {a : α} (h : required name read members = .accepted a) :
    ∃ document, members.get? name = some document ∧ read document = .accepted a := by
  rw [required] at h
  split at h
  · cases h
  · exact ⟨_, ‹_›, Reading.under_eq_accepted_iff.mp h⟩

namespace Restores

/-- What is read as a required member is valid. -/
theorem required_valid (h : Restores read dump Valid) {a : α}
    (hread : required name read members = .accepted a) : Valid a := by
  obtain ⟨_, -, hread⟩ := get?_of_required hread
  exact h.valid hread

/-- A valid value is read back as a required member from its dump. -/
theorem required_back (h : Restores read dump Valid) (a : α) (hvalid : Valid a)
    (hfound : members.get? name = some (dump a)) :
    required name read members = .accepted a := by
  rw [required, hfound]
  exact Reading.under_eq_accepted_iff.mpr (h.back hvalid)

/-- What is read as an optional member, if anything, is valid. -/
theorem optional_valid (h : Restores read dump Valid) {value : Option α}
    (hread : optional name read members = .accepted value) : ∀ a ∈ value, Valid a := by
  intro a hvalue
  obtain rfl := Option.mem_def.mp hvalue
  rw [optional] at hread
  split at hread
  · cases hread
  · cases hread
  · obtain ⟨b, hb, hsome⟩ := Reading.map_eq_accepted_iff.mp hread
    cases hsome
    exact h.valid (Reading.under_eq_accepted_iff.mp hb)

/-- A member that may be absent is restored whether its absence is dumped or left out, for no value
is dumped as null. -/
theorem optional_back (h : Restores read dump Valid) (hnull : ∀ a, dump a ≠ .null)
    (value : Option α) (keepAbsent : Bool) (hvalid : ∀ a ∈ value, Valid a)
    (hfound : members.get? name = memberDocument keepAbsent (value.map dump)) :
    optional name read members = .accepted value := by
  rw [optional, hfound]
  cases value with
  | none => cases keepAbsent <;> rfl
  | some a =>
    have hback : (read (dump a)).under (.member name) = .accepted a :=
      Reading.under_eq_accepted_iff.mpr (h.back (hvalid a rfl))
    rw [Option.map_some, memberDocument, Option.some_or]
    split
    · cases ‹some (dump a) = none›
    · exact absurd (Option.some.inj ‹_›) (hnull a)
    · cases ‹some (dump a) = _›
      rw [hback]
      rfl

/-- What is read as a member with a default is valid if the default is. -/
theorem defaulted_valid (h : Restores read dump Valid) {default a : α} (hdefault : Valid default)
    (hread : defaulted name default read members = .accepted a) : Valid a := by
  rw [defaulted] at hread
  split at hread
  · cases hread
    exact hdefault
  · exact h.valid (Reading.under_eq_accepted_iff.mp hread)

/-- A valid value is read back as a member with a default from its dump. -/
theorem defaulted_back (h : Restores read dump Valid) {default : α} (a : α) (hvalid : Valid a)
    (hfound : members.get? name = some (dump a)) :
    defaulted name default read members = .accepted a := by
  rw [defaulted, hfound]
  exact Reading.under_eq_accepted_iff.mpr (h.back hvalid)

end Restores

end

/-! ## Readers without their bounds -/

section

variable {α β : Type} {read : Json → Reading α} {other : Json → Reading β} {f : α → β}
  {name : String} {members : Json.Members}

/-- A member is read by another reader if that reads whatever the first one does. -/
theorem required_of_read
    (h : ∀ {document a}, read document = .accepted a → other document = .accepted (f a)) {a : α}
    (hread : required name read members = .accepted a) :
    required name other members = .accepted (f a) := by
  obtain ⟨_, hfound, hread⟩ := get?_of_required hread
  rw [required, hfound]
  exact Reading.under_eq_accepted_iff.mpr (h hread)

/-- If a reader accepts, up to a function, whatever another one accepts, it does so as well for a
member with a default. -/
theorem defaulted_of_read
    (h : ∀ {document a}, read document = .accepted a → other document = .accepted (f a))
    {default a : α} (hread : defaulted name default read members = .accepted a) :
    defaulted name (f default) other members = .accepted (f a) := by
  rw [defaulted] at hread ⊢
  cases hfound : members.get? name with
  | none =>
    rw [hfound] at hread
    cases hread
    rfl
  | some document =>
    rw [hfound] at hread
    exact Reading.under_eq_accepted_iff.mpr (h (Reading.under_eq_accepted_iff.mp hread))

end

/-! ## Records -/

/-- What a record is said to be: which of its values are valid, and what free-form data a value
holds. -/
class Described (α : Type) [Record α] where
  Valid : α → Prop := Unconditional
  freeForm : α → List Json.Members := fun _ => []

/-- Only valid records are read, and from their own members they are, whether absence is among these
or not. Making the free-form data portable spoils no record and changes none without need. -/
class LawfulRecord (α : Type) [Record α] [Described α] : Prop where
  valid : ∀ {members : Json.Members} {a : α},
    Record.ofMembers members = .accepted a → Described.Valid a
  back : ∀ (keepAbsent : Bool) {a : α}, Described.Valid a →
    Record.ofMembers (Record.toMembers keepAbsent a) = .accepted a
  portable_valid : ∀ {a : α}, Described.Valid a → Described.Valid (Record.portable a)
  portable_eq_self_iff : ∀ {a : α}, Record.portable a = a ↔
    ∀ members ∈ Described.freeForm a, Json.MembersPortable members

/-- What is read as a record is an object. -/
theorem Record.read_eq_accepted_iff {α : Type} [Record α] {document : Json} {a : α} :
    Record.read document = .accepted a ↔
      ∃ members, document = .object members ∧ Record.ofMembers members = .accepted a := by
  cases document <;> simp [Record.read, Reading.refuse]

/-- A lawful record is restored. -/
theorem restores_record (α : Type) [Record α] [Described α] [LawfulRecord α] (keepAbsent : Bool) :
    Restores (Record.read : Json → Reading α) (Record.dump keepAbsent) Described.Valid where
  valid h := by
    obtain ⟨members, -, h⟩ := Record.read_eq_accepted_iff.mp h
    exact LawfulRecord.valid h
  back := LawfulRecord.back keepAbsent

/-- No record is dumped as null. -/
theorem Record.dump_ne_null {α : Type} [Record α] {keepAbsent : Bool} (a : α) :
    Record.dump keepAbsent a ≠ .null :=
  Json.noConfusion

/-! ## Portable data -/

/-- The data of a free-form member stays as it is when it is portable. -/
theorem portableData_eq_self_iff {data : Option Json.Members} :
    data.map Json.portableMembers = data ↔
      ∀ members ∈ data.toList, Json.MembersPortable members := by
  cases data <;> simp [Json.portableMembers_eq_self_iff]

section

variable {α : Type} [Record α] [Described α] [LawfulRecord α]

/-- A part that may be absent stays as it is when its data is portable. -/
theorem portablePart_eq_self_iff {part : Option α} :
    part.map Record.portable = part ↔
      ∀ members ∈ part.toList.flatMap Described.freeForm, Json.MembersPortable members := by
  cases part <;> simp [LawfulRecord.portable_eq_self_iff]

/-- Parts in a list stay as they are when their data is portable. -/
theorem portableParts_eq_self_iff {parts : List α} :
    parts.map Record.portable = parts ↔
      ∀ members ∈ parts.flatMap Described.freeForm, Json.MembersPortable members := by
  induction parts with
  | nil => simp
  | cons part rest ih =>
    rw [List.map_cons, List.cons.injEq, ih, LawfulRecord.portable_eq_self_iff, List.flatMap_cons,
      List.forall_mem_append]

end

end TransferDrill.Schema

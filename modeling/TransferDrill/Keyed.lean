/-!
# Values by name, in order

A list of named values in which each name is looked up at its first place. Setting a known name
keeps its place; a new name goes to the end.
-/

namespace TransferDrill

/-- Named values in order. -/
abbrev Keyed (α : Type) := List (String × α)

namespace Keyed

variable {α : Type}

/-- The value of a name. -/
def get? (name : String) (values : Keyed α) : Option α :=
  values.lookup name

/-- Set the value of a name. -/
def put (name : String) (value : α) : Keyed α → Keyed α
  | [] => [(name, value)]
  | (known, old) :: rest =>
    if known = name then (name, value) :: rest else (known, old) :: put name value rest

/-- Set the values of several names, one after another. -/
def merge (values more : Keyed α) : Keyed α :=
  more.foldl (fun values entry => values.put entry.1 entry.2) values

/-- In nothing, nothing is found. -/
@[simp] theorem get?_nil (name : String) : get? name ([] : Keyed α) = none := rfl

/-- The first value is found under its name. -/
@[simp] theorem get?_cons (name known : String) (value : α) (rest : Keyed α) :
    get? name ((known, value) :: rest) = if name = known then some value else rest.get? name := by
  rw [get?, List.lookup_cons]
  by_cases h : name = known
  · rw [beq_iff_eq.mpr h, if_pos h]
  · rw [beq_false_of_ne h, if_neg h]
    rfl

/-- Values that are put together are looked up one after another. -/
@[simp] theorem get?_append (name : String) (values more : Keyed α) :
    get? name (values ++ more) = (values.get? name).or (more.get? name) :=
  List.lookup_append

/-- What was set is found. -/
theorem get?_put_self (name : String) (value : α) (values : Keyed α) :
    (put name value values).get? name = some value := by
  induction values with
  | nil => simp [put]
  | cons entry rest ih =>
    obtain ⟨known, old⟩ := entry
    rw [put]
    split
    · simp
    · rename_i h
      rw [get?_cons, if_neg (Ne.symm h), ih]

/-- Other names keep their values. -/
theorem get?_put_of_ne {name other : String} (value : α) (values : Keyed α) (h : other ≠ name) :
    (put name value values).get? other = values.get? other := by
  induction values with
  | nil => simp [put, h]
  | cons entry rest ih =>
    obtain ⟨known, old⟩ := entry
    rw [put]
    split
    · rename_i hknown
      subst hknown
      simp [h]
    · rw [get?_cons, get?_cons, ih]

end Keyed

end TransferDrill

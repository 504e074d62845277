import TransferDrill.Schema.Issue

/-!
# The outcome of reading a document

Reading either accepts a document with a value or rejects it with issues. Readings of several
parts are combined applicatively, so that the issues of all parts are reported in order; a check
that needs the value of an accepted part comes after it.
-/

namespace TransferDrill.Schema

/-- A value, or everything that is wrong. -/
inductive Reading (α : Type) where
  | accepted (value : α)
  | rejected (issues : List Issue)
deriving DecidableEq, Repr

namespace Reading

variable {α β : Type}

/-- Apply a function to an accepted value. -/
def map (f : α → β) : Reading α → Reading β
  | .accepted a => .accepted (f a)
  | .rejected issues => .rejected issues

/-- Combine two readings; the issues of both are kept. -/
def apply : Reading (α → β) → Reading α → Reading β
  | .accepted f, .accepted a => .accepted (f a)
  | .accepted _, .rejected issues => .rejected issues
  | .rejected issues, .accepted _ => .rejected issues
  | .rejected issues, .rejected more => .rejected (issues ++ more)

/-- Check an accepted value further. -/
def andThen (r : Reading α) (check : α → Reading β) : Reading β :=
  match r with
  | .accepted a => check a
  | .rejected issues => .rejected issues

/-- The reading of a part, seen from the whole. -/
def under (place : Place) : Reading α → Reading α
  | .accepted a => .accepted a
  | .rejected issues => .rejected (issues.map (·.under place))

/-- Refuse with one complaint about the whole. -/
def refuse (complaint : Complaint) : Reading α := .rejected [⟨[], complaint⟩]

instance : Functor Reading where
  map := map

instance : Pure Reading where
  pure := .accepted

instance : Seq Reading where
  seq f a := apply f (a ())

/-- A function is applied to what was accepted. -/
@[simp] theorem map_accepted (f : α → β) (a : α) : f <$> (accepted a) = accepted (f a) := rfl

/-- Two readings that are accepted are put together. -/
@[simp] theorem apply_accepted (f : α → β) (a : α) :
    accepted f <*> accepted a = accepted (f a) := rfl

/-- What was accepted has no issue to place. -/
@[simp] theorem under_accepted (place : Place) (a : α) :
    (accepted a).under place = accepted a := rfl

/-- Both parts of an accepted combination were accepted. -/
theorem apply_eq_accepted_iff {f : Reading (α → β)} {r : Reading α} {b : β} :
    f <*> r = accepted b ↔ ∃ g a, f = accepted g ∧ r = accepted a ∧ g a = b := by
  cases f <;> cases r <;> simp [Seq.seq, apply]

/-- What a function was applied to was accepted. -/
theorem map_eq_accepted_iff {f : α → β} {r : Reading α} {b : β} :
    f <$> r = accepted b ↔ ∃ a, r = accepted a ∧ f a = b := by
  cases r <;> simp [Functor.map, map]

/-- What was checked was accepted, and so was the check. -/
theorem andThen_eq_accepted_iff {r : Reading α} {check : α → Reading β} {b : β} :
    r.andThen check = accepted b ↔ ∃ a, r = accepted a ∧ check a = accepted b := by
  cases r <;> simp [andThen]

/-- A part is accepted in the whole as it is by itself. -/
@[simp] theorem under_eq_accepted_iff {place : Place} {r : Reading α} {a : α} :
    r.under place = accepted a ↔ r = accepted a := by
  cases r <;> simp [under]

end Reading

end TransferDrill.Schema

import TransferDrill.Schema.Scalar
import TransferDrill.Json.Portable

/-!
# Records

A record is an object with known members. Members that are not known are ignored, absent optional
ones read as none, and dumping can keep or leave out the optional members that are absent. A
record is written to be handed on: what it holds of free-form data is made portable, and must not
nest too deep.
-/

namespace TransferDrill.Schema

/-- A type whose values are written as objects with known members. -/
class Record (α : Type) where
  title : String
  ofMembers : Json.Members → Reading α
  toMembers : (keepAbsent : Bool) → α → Json.Members
  /-- The record with portable free-form data. -/
  portable : α → α := id
  /-- How deep the free-form data nests inside the members that hold it. -/
  nesting : α → Nat := fun _ => 0

/-- Free-form data nests too deep to be written. -/
structure TooDeep where
  nesting : Nat
deriving DecidableEq, Repr

/-- How too deep data is reported. -/
def TooDeep.message (_ : TooDeep) : String := "Maximum serialization depth exceeded"

/-- How deep free-form data may nest. -/
def maxNesting : Nat := 255

namespace Record

variable {α : Type} [Record α]

/-- The record that a document holds. -/
def read : Json → Reading α
  | .object members => ofMembers members
  | _ => .refuse (.notRecord (title α))

/-- The document of a record. -/
def dump (keepAbsent : Bool) (a : α) : Json := .object (toMembers keepAbsent a)

/-- The document by which a record is handed on. -/
def written (keepAbsent : Bool) (a : α) : Json := dump keepAbsent (portable a)

/-- Write a record, unless it nests too deep. -/
def write (keepAbsent : Bool) (a : α) : Except TooDeep Json :=
  if maxNesting < nesting a then .error ⟨nesting a⟩ else .ok (written keepAbsent a)

/-- What nests no deeper than it may is written, and nothing else. -/
theorem write_eq_ok_iff {keepAbsent : Bool} {a : α} {document : Json} :
    write keepAbsent a = .ok document ↔
      nesting a ≤ maxNesting ∧ written keepAbsent a = document := by
  unfold write
  split <;> rename_i h
  · simp [Nat.not_le.2 h]
  · simp [Nat.not_lt.1 h]

/-- Write records; the first that nests too deep answers. -/
def writeAll (keepAbsent : Bool) (records : List α) : Except TooDeep (List Json) :=
  records.mapM (write keepAbsent)

end Record

variable {α : Type}

/-- A member that must be present. -/
def required (name : String) (read : Json → Reading α) (members : Json.Members) : Reading α :=
  match members.get? name with
  | none => .rejected [⟨[.member name], .missing⟩]
  | some document => (read document).under (.member name)

/-- A member that may be absent or null. -/
def optional (name : String) (read : Json → Reading α) (members : Json.Members) :
    Reading (Option α) :=
  match members.get? name with
  | none => .accepted none
  | some .null => .accepted none
  | some document => some <$> (read document).under (.member name)

/-- A member that has a value of its own when absent; null is no value. -/
def defaulted (name : String) (default : α) (read : Json → Reading α) (members : Json.Members) :
    Reading α :=
  match members.get? name with
  | none => .accepted default
  | some document => (read document).under (.member name)

/-- The member for an optional value. -/
def optionalMember (keepAbsent : Bool) (name : String) (value : Option Json) : Json.Members :=
  match value with
  | some document => [(name, document)]
  | none => if keepAbsent then [(name, .null)] else []

/-- The greatest nesting among parts of a record. -/
def deepest (parts : List Nat) : Nat := parts.foldl max 0

/-- How deep the data of a free-form member nests. -/
def memberNesting (data : Option Json.Members) : Nat := (data.map Json.heightOfMembers).getD 0

/-- How deep the data of a part nests that may be absent. -/
def partNesting [Record α] (part : Option α) : Nat := (part.map Record.nesting).getD 0

end TransferDrill.Schema

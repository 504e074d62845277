import TransferDrill.Schema.Scalar
import TransferDrill.Text.Quoted

/-!
# Choices among labels

A choice is written as its label and read by exact comparison with the labels.
-/

namespace TransferDrill.Schema

/-- A finite type whose values are written as labels. -/
class Choice (α : Type) where
  all : List α
  label : α → String

namespace Choice

variable {α : Type} [Choice α]

/-- The value with a label. -/
def ofLabel? (s : String) : Option α :=
  (all : List α).find? (label · == s)

/-- The value that a document names. -/
def read (document : Json) : Reading α :=
  let found : Option α := match document with
    | .string s => ofLabel? s
    | _ => none
  match found with
  | some a => .accepted a
  | none => .refuse (.notChoice ((all : List α).map label))

/-- The document that names a value. -/
def dump (a : α) : Json := .string (label a)

/-- How a name that is no label of a choice is reported. -/
def unknownName (title name : String) : String :=
  let shown := Text.Quoted.quote name
  s!"{shown} is not a valid {title}"

/-- What has a label is one of the choices and carries that label. -/
theorem label_of_ofLabel? {s : String} {a : α} (h : ofLabel? s = some a) : label a = s := by
  simpa using List.find?_some h

end Choice

end TransferDrill.Schema

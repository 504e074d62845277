import TransferDrill.Schema.Reading
import TransferDrill.Json.Basic
import TransferDrill.Numeric.Numeral.Lenient

/-!
# Reading simple values

Text and objects are taken as they are. Numbers are read leniently: truth values, numbers of the
other kind and numerals in text are taken where they denote a number of the wanted kind. An upper
bound is checked before a lower one.
-/

namespace TransferDrill.Schema

/-- Any text. -/
def string : Json → Reading String
  | .string s => .accepted s
  | _ => .refuse .notString

/-- Text with at least one character. -/
def nonEmptyString (document : Json) : Reading String :=
  (string document).andThen fun s => if s.isEmpty then .refuse .emptyString else .accepted s

/-- An object, with whatever it holds. -/
def members : Json → Reading Json.Members
  | .object members => .accepted members
  | _ => .refuse .notObject

/-- The integer that a floating point number equals, if it has no fraction and fits in 64 bits. -/
def integerOfFloat (x : Binary64) : Reading Int :=
  if x.isFinite then
    match x.toInt? with
    | none => .refuse .fractionalInteger
    | some n => if n.natAbs < 2 ^ 63 then .accepted n else .refuse .oversizedInteger
  else .refuse .notFiniteInteger

/-- An integer. -/
def integer : Json → Reading Int
  | .int n => .accepted n
  | .bool b => .accepted (if b then 1 else 0)
  | .float x => integerOfFloat x
  | .string s =>
    match Numeral.integer s.toList with
    | .ok n => .accepted n
    | .error .unreadable => .refuse .unreadableInteger
    | .error .oversized => .refuse .oversizedInteger
  | _ => .refuse .notInteger

/-- An integer that is at least `least`. -/
def natural (least : Nat) (document : Json) : Reading Nat :=
  (integer document).andThen fun n =>
    if n < least then .refuse (.below least) else .accepted n.toNat

/-- A floating point number; an integer beyond the range is none. -/
def number : Json → Reading Binary64
  | .float x => .accepted x
  | .int n =>
    let x := Binary64.ofInt n
    if x.isFinite then .accepted x else .refuse .notNumber
  | .bool b => .accepted (.ofInt (if b then 1 else 0))
  | .string s =>
    match Numeral.floating? s.toList with
    | some x => .accepted x
    | none => .refuse .unreadableNumber
  | _ => .refuse .notNumber

/-- A number from zero to one. -/
def probability (document : Json) : Reading Binary64 :=
  (number document).andThen fun x =>
    if !x.exact.atMost (.ofInt 1) then .refuse (.above 1)
    else if !(Exact.ofInt 0).atMost x.exact then .refuse (.below 0)
    else .accepted x

/-- A number above zero. -/
def positive (document : Json) : Reading Binary64 :=
  (number document).andThen fun x =>
    if (Exact.ofInt 0).less x.exact then .accepted x else .refuse (.notAbove 0)

/-- The items of a list, each read at its place from `index` on. -/
def itemsFrom {α : Type} (item : Json → Reading α) : (index : Nat) → List Json → Reading (List α)
  | _, [] => .accepted []
  | index, document :: rest =>
    List.cons <$> (item document).under (.item index) <*> itemsFrom item (index + 1) rest

/-- A list. -/
def list {α : Type} (item : Json → Reading α) : Json → Reading (List α)
  | .array items => itemsFrom item 0 items
  | _ => .refuse .notList

/-- A list with at least one item. -/
def nonEmptyList {α : Type} (item : Json → Reading α) (document : Json) : Reading (List α) :=
  (list item document).andThen fun items =>
    if items.isEmpty then .refuse .emptyList else .accepted items

end TransferDrill.Schema

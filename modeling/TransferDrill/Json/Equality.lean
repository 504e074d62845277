import TransferDrill.Json.Basic

/-!
# Equality of documents

Documents are compared by meaning: booleans, integers and floating point numbers by exact numeric
value, objects as finite maps, arrays item by item. What is not a number equals only itself: all
such values count as one object, as they do when one reader has made them, although two that were
made apart would not be equal.
-/

namespace TransferDrill.Json

/-- The exact numeric value of a document; the truth values count as one and zero. -/
def number? : Json → Option Exact
  | .bool b => some (.ofInt (if b then 1 else 0))
  | .int n => some (.ofInt n)
  | .float x => some x.exact
  | _ => none

mutual

/-- Equality by meaning. -/
def same : Json → Json → Bool
  | .null, .null => true
  | .string s, .string t => s == t
  | .array items, .array others => sameItems items others
  | .object members, .object others =>
    members.length == others.length && sameMembers members others
  | .bool b, other => other.number? == some (.ofInt (if b then 1 else 0))
  | .int n, other => other.number? == some (.ofInt n)
  | .float x, other => other.number? == some x.exact
  | _, _ => false

/-- Items equal pairwise. -/
def sameItems : List Json → List Json → Bool
  | [], [] => true
  | item :: rest, other :: others => same item other && sameItems rest others
  | _, _ => false

/-- Each member has an equal one of its name among the others. -/
def sameMembers : List (String × Json) → List (String × Json) → Bool
  | [], _ => true
  | (name, value) :: rest, others =>
    (match others.lookup name with
      | some other => same value other
      | none => false) && sameMembers rest others

end

/-- Equality of optional members. -/
def sameMembers? : Option Members → Option Members → Bool
  | none, none => true
  | some members, some others => same (.object members) (.object others)
  | _, _ => false

example : same (.int 1) (.float (.ofInt 1)) = true := by decide +kernel
example : same (.int (2 ^ 53 + 1)) (.float (.ofInt (2 ^ 53 + 1))) = false := by decide +kernel
example : same (.object [("a", .null), ("b", .bool true)]) (.object [("b", .int 1), ("a", .null)]) =
    true := by decide +kernel
example : same (.float .notANumber) (.float .notANumber) = true := by decide +kernel
example : same (.float .notANumber) (.int 0) = false := by decide +kernel

end TransferDrill.Json

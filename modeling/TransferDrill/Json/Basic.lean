import TransferDrill.Keyed
import TransferDrill.Numeric.Binary64

/-!
# Documents

Adapters attach free-form data to accounts, amounts and operations, so documents are kept as
values. Integers and floating point numbers are different things, and the members of an object
keep their order.
-/

namespace TransferDrill

/-- A document. -/
inductive Json where
  | null
  | bool (value : Bool)
  | int (value : Int)
  | float (value : Binary64)
  | string (value : String)
  | array (items : List Json)
  | object (members : List (String × Json))
deriving Repr, Inhabited

namespace Json

mutual

/-- Whether two documents are the same tree. -/
def beq : Json → Json → Bool
  | .null, .null => true
  | .bool a, .bool b => a == b
  | .int n, .int m => n == m
  | .float x, .float y => x == y
  | .string s, .string t => s == t
  | .array items, .array others => beqItems items others
  | .object members, .object others => beqMembers members others
  | _, _ => false

/-- Whether two lists hold the same trees. -/
def beqItems : List Json → List Json → Bool
  | [], [] => true
  | item :: rest, other :: others => beq item other && beqItems rest others
  | _, _ => false

/-- Whether two objects hold the same members in the same order. -/
def beqMembers : List (String × Json) → List (String × Json) → Bool
  | [], [] => true
  | (name, value) :: rest, (otherName, other) :: others =>
    name == otherName && beq value other && beqMembers rest others
  | _, _ => false

end

mutual

/-- The comparison of trees decides equality. -/
theorem beq_iff : (a b : Json) → (beq a b = true ↔ a = b)
  | .null, b => by cases b <;> simp [beq]
  | .bool _, b => by cases b <;> simp [beq]
  | .int _, b => by cases b <;> simp [beq]
  | .float _, b => by cases b <;> simp [beq]
  | .string _, b => by cases b <;> simp [beq]
  | .array items, b => by cases b <;> simp [beq, beqItems_iff items]
  | .object members, b => by cases b <;> simp [beq, beqMembers_iff members]

/-- The comparison of lists of trees decides equality. -/
theorem beqItems_iff : (a b : List Json) → (beqItems a b = true ↔ a = b)
  | [], b => by cases b <;> simp [beqItems]
  | item :: rest, b => by cases b <;> simp [beqItems, beq_iff item, beqItems_iff rest]

/-- The comparison of members in order decides equality. -/
theorem beqMembers_iff : (a b : List (String × Json)) → (beqMembers a b = true ↔ a = b)
  | [], b => by cases b <;> simp [beqMembers]
  | (name, value) :: rest, b => by
    cases b <;> simp [beqMembers, beq_iff value, beqMembers_iff rest, Prod.ext_iff]

end

instance : DecidableEq Json := fun a b => decidable_of_iff _ (beq_iff a b)

/-- The members of an object, in order. -/
abbrev Members := Keyed Json

/-- The value of an optional string. -/
def ofString? : Option String → Json
  | none => .null
  | some s => .string s

/-- The value of optional members. -/
def ofMembers? : Option Members → Json
  | none => .null
  | some members => .object members

end Json

end TransferDrill

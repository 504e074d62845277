import TransferDrill.Json.Basic

/-!
# Documents to be handed on

A number that is not finite cannot be handed on: null takes its place. The height of a document
tells how deep it nests. Making a document portable keeps its height and is done at most once.
-/

namespace TransferDrill.Json

mutual

/-- A document with null in place of the numbers that are not finite. -/
def portable : Json → Json
  | .float x => if x.isFinite then .float x else .null
  | .array items => .array (portableItems items)
  | .object members => .object (portableMembers members)
  | document => document

/-- The items of an array, made portable. -/
def portableItems : List Json → List Json
  | [] => []
  | item :: rest => portable item :: portableItems rest

/-- The members of an object, made portable. -/
def portableMembers : List (String × Json) → List (String × Json)
  | [] => []
  | (name, value) :: rest => (name, portable value) :: portableMembers rest

end

mutual

/-- The number of levels of a document; a value without parts has one. -/
def height : Json → Nat
  | .array items => heightOfItems items + 1
  | .object members => heightOfMembers members + 1
  | _ => 1

/-- The height of the highest item. -/
def heightOfItems : List Json → Nat
  | [] => 0
  | item :: rest => max (height item) (heightOfItems rest)

/-- The height of the highest member. -/
def heightOfMembers : List (String × Json) → Nat
  | [] => 0
  | (_, value) :: rest => max (height value) (heightOfMembers rest)

end

mutual

/-- A portable document stays as it is. -/
theorem portable_portable : (document : Json) → portable (portable document) = portable document
  | .null | .bool _ | .int _ | .string _ => rfl
  | .float x => by by_cases h : x.isFinite <;> simp [portable, h]
  | .array items => by simp [portable, portableItems_portableItems items]
  | .object members => by simp [portable, portableMembers_portableMembers members]

/-- Portable items stay as they are. -/
theorem portableItems_portableItems : (items : List Json) →
    portableItems (portableItems items) = portableItems items
  | [] => rfl
  | item :: rest => by
    simp [portableItems, portable_portable item, portableItems_portableItems rest]

/-- Portable members stay as they are. -/
theorem portableMembers_portableMembers : (members : List (String × Json)) →
    portableMembers (portableMembers members) = portableMembers members
  | [] => rfl
  | (_, value) :: rest => by
    simp [portableMembers, portable_portable value, portableMembers_portableMembers rest]

end

mutual

/-- A document keeps its height when it is made portable. -/
theorem height_portable : (document : Json) → height (portable document) = height document
  | .null | .bool _ | .int _ | .string _ => rfl
  | .float x => by by_cases h : x.isFinite <;> simp [portable, height, h]
  | .array items => by simp [portable, height, heightOfItems_portableItems items]
  | .object members => by simp [portable, height, heightOfMembers_portableMembers members]

/-- Items keep their height when they are made portable. -/
theorem heightOfItems_portableItems : (items : List Json) →
    heightOfItems (portableItems items) = heightOfItems items
  | [] => rfl
  | item :: rest => by
    simp [portableItems, heightOfItems, height_portable item, heightOfItems_portableItems rest]

/-- Members keep their height when they are made portable. -/
theorem heightOfMembers_portableMembers : (members : List (String × Json)) →
    heightOfMembers (portableMembers members) = heightOfMembers members
  | [] => rfl
  | (_, value) :: rest => by
    simp [portableMembers, heightOfMembers, height_portable value,
      heightOfMembers_portableMembers rest]

end

end TransferDrill.Json

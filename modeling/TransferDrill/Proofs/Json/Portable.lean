import TransferDrill.Json.Portable

/-!
# Documents that are portable already

Making a document portable changes it exactly where a number is not finite.
-/

namespace TransferDrill.Json

mutual

/-- At every depth, all floating point numbers are finite. -/
def IsPortable : Json → Prop
  | .float x => x.isFinite
  | .array items => ItemsPortable items
  | .object members => MembersPortable members
  | _ => True

/-- The items hold only finite numbers. -/
def ItemsPortable : List Json → Prop
  | [] => True
  | item :: rest => IsPortable item ∧ ItemsPortable rest

/-- The members hold only finite numbers. -/
def MembersPortable : List (String × Json) → Prop
  | [] => True
  | (_, value) :: rest => IsPortable value ∧ MembersPortable rest

end

mutual

/-- Exactly the portable documents stay as they are. -/
theorem portable_eq_self_iff : (document : Json) → (portable document = document ↔
    IsPortable document)
  | .null | .bool _ | .int _ | .string _ => by simp [portable, IsPortable]
  | .float x => by by_cases h : x.isFinite <;> simp [portable, IsPortable, h]
  | .array items => by simp [portable, IsPortable, portableItems_eq_self_iff items]
  | .object members => by simp [portable, IsPortable, portableMembers_eq_self_iff members]

/-- Exactly the portable items stay as they are. -/
theorem portableItems_eq_self_iff : (items : List Json) → (portableItems items = items ↔
    ItemsPortable items)
  | [] => by simp [portableItems, ItemsPortable]
  | item :: rest => by
    simp [portableItems, ItemsPortable, portable_eq_self_iff item, portableItems_eq_self_iff rest]

/-- Exactly the portable members stay as they are. -/
theorem portableMembers_eq_self_iff : (members : List (String × Json)) →
    (portableMembers members = members ↔ MembersPortable members)
  | [] => by simp [portableMembers, MembersPortable]
  | (_, value) :: rest => by
    simp [portableMembers, MembersPortable, portable_eq_self_iff value,
      portableMembers_eq_self_iff rest]

end

end TransferDrill.Json

import TransferDrill.Json.Basic
import TransferDrill.Numeric.Numeral

/-!
# Documents that can be written

An integer with too many digits is not written, neither in the text of a document nor as a literal
in a message. So a document can be written exactly if it holds no such integer at any depth.
-/

namespace TransferDrill.Json

mutual

/-- Whether no integer of a document has too many digits to be written. -/
def isWritable : Json → Bool
  | .int n => Numeral.isShort n
  | .array items => itemsWritable items
  | .object members => membersWritable members
  | _ => true

/-- Whether all items of an array can be written. -/
def itemsWritable : List Json → Bool
  | [] => true
  | item :: rest => isWritable item && itemsWritable rest

/-- Whether all members of an object can be written. -/
def membersWritable : List (String × Json) → Bool
  | [] => true
  | (_, value) :: rest => isWritable value && membersWritable rest

end

/-- An array can be written if each of its items can. -/
theorem isWritable_array (items : List Json) :
    isWritable (.array items) = items.all isWritable := by
  rw [isWritable]
  induction items with
  | nil => rfl
  | cons item rest ih => rw [itemsWritable, List.all_cons, ih]

example : isWritable (.object [("k", .array [.int (10 ^ Numeral.maxDigits)])]) = false := by
  decide +kernel

end TransferDrill.Json

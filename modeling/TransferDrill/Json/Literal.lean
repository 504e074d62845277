import TransferDrill.Json.Basic
import TransferDrill.Text.Quoted
import TransferDrill.Numeric.Numeral
import TransferDrill.Numeric.Shortest

/-!
# Documents inside messages

Messages show values as literals: named constants are capitalised, text is quoted, and a float
always has a point or an exponent.
-/

namespace TransferDrill.Json

mutual

/-- The literal of a document. -/
def literal : Json → List Char
  | .null => "None".toList
  | .bool true => "True".toList
  | .bool false => "False".toList
  | .int n => Numeral.ofInt n
  | .float x => x.text "inf" "nan"
  | .string s => Text.Quoted.encode s.toList
  | .array items => '[' :: itemLiterals items ++ [']']
  | .object members => '\x7b' :: memberLiterals members ++ ['\x7d']

/-- The literals of an array's items, with commas between them. -/
def itemLiterals : List Json → List Char
  | [] => []
  | [item] => literal item
  | item :: other :: rest => literal item ++ ',' :: ' ' :: itemLiterals (other :: rest)

/-- The literals of an object's members, with commas between them. -/
def memberLiterals : List (String × Json) → List Char
  | [] => []
  | [(name, value)] => Text.Quoted.encode name.toList ++ ':' :: ' ' :: literal value
  | (name, value) :: other :: rest =>
    Text.Quoted.encode name.toList ++ ':' :: ' ' :: literal value ++
      ',' :: ' ' :: memberLiterals (other :: rest)

end

/-- The literal of a document, as a string. -/
def literalText (document : Json) : String := String.ofList document.literal

/-- The literal of a list of strings. -/
def literalStrings (items : List String) : String :=
  literalText (.array (items.map .string))

example : literalText (.object [("k", .array [.int 1, .float (.ofInt 100), .null])]) =
    "\x7b'k': [1, 100.0, None]\x7d" := by decide +kernel

end TransferDrill.Json

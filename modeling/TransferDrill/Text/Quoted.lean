import TransferDrill.Text.Printable
import TransferDrill.Text.Hex

/-!
# Quoted text in messages

Text is shown between single quotes, or between double quotes when it holds a single quote and
no double one. The quote in use, the backslash and the line controls are escaped by name, any
other non-printable character by its code point.
-/

namespace TransferDrill.Text.Quoted

/-- The quote that spares most escapes. -/
def mark (s : List Char) : Char :=
  if s.contains '\'' && !s.contains '"' then '"' else '\''

/-- The shortest numeric escape of a character. -/
def numericEscape (c : Char) : List Char :=
  if c.toNat < 0x100 then '\\' :: 'x' :: Hex.digits 2 c.toNat
  else if c.toNat < 0x10000 then '\\' :: 'u' :: Hex.digits 4 c.toNat
  else '\\' :: 'U' :: Hex.digits 8 c.toNat

/-- One character between quotes of the given kind. -/
def encodeChar (quote c : Char) : List Char :=
  if c = quote || c = '\\' then ['\\', c]
  else if c = '\n' then ['\\', 'n']
  else if c = '\r' then ['\\', 'r']
  else if c = '\t' then ['\\', 't']
  else if isPrintable c then [c]
  else numericEscape c

/-- Text in quotes. -/
def encode (s : List Char) : List Char :=
  let quote := mark s
  quote :: s.flatMap (encodeChar quote) ++ [quote]

/-- Text in quotes, as a string. -/
def quote (s : String) : String :=
  String.ofList (encode s.toList)

end TransferDrill.Text.Quoted

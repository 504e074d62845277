import TransferDrill.Numeric.Numeral
import TransferDrill.Text.Blank

/-!
# Numbers that people type

An integer typed by a person is tidied first: blanks around it, a plus sign, zeros in front, a
fraction of zeros and single underscores are taken away. What is left must be a plain integer.
A minus sign may also stand behind the leading zeros. A floating point number may lack the digits
on one side of the point, and may be infinite or not a number; only without blanks around it may
it have underscores.
-/

namespace TransferDrill.Numeral

/-- The rest of a numeral after leading zeros and the underscores among them, of which `last` was
the last one; a numeral that ends there, or goes on with a point, keeps that one. -/
def afterZeros? (last : Char) : List Char → Option (List Char)
  | [] => some [last]
  | c :: rest =>
    if c = '0' ∨ c = '_' then afterZeros? c rest
    else if c = '.' then some (last :: c :: rest)
    else if c = '-' ∨ c.isDigit then some (c :: rest)
    else none

/-- A numeral without its leading zeros; it must start with a digit. -/
def withoutLeadingZeros? : List Char → Option (List Char)
  | [] => none
  | c :: rest =>
    if c = '0' then afterZeros? c rest else if c.isDigit then some (c :: rest) else none

/-- A numeral without the point and the zeros behind it, if nothing else is there. -/
def withoutZeroFraction (s : List Char) : List Char :=
  match splitAtFirst (· == '.') s with
  | (whole, some fraction) =>
    if !fraction.isEmpty && fraction.all (· == '0') then whole else s
  | (_, none) => s

/-- An integer without what people may add to it. -/
def tidied? (s : List Char) : Option (List Char) := do
  let (negative, body) := splitSign (Text.trim s)
  let number := withoutZeroFraction (← withoutLeadingZeros? body)
  let plain := (ungrouped? number).getD number
  return if negative then '-' :: plain else plain

/-- Whether text starts like an integer, without zeros in front, that has more digits than it
may. -/
def startsOverlong (s : List Char) : Bool :=
  let (_, body) := splitMinus s
  body.head?.any (· != '0') && maxDigits < (body.takeWhile Char.isDigit).length

/-- An integer without anything to tidy. -/
def plainInteger? (s : List Char) : Option Int := do
  let (negative, body) := splitMinus s
  let digits ← plainDigits? body
  if maxDigits < digits.length || (1 < digits.length && digits.head? == some 0) then none
  else some (signed negative (ofDigits digits))

/-- Why a text is no integer. -/
inductive IntegerFault where
  | unreadable
  | oversized
deriving DecidableEq, Repr

/-- An integer typed by a person. -/
def integer (s : List Char) : Except IntegerFault Int :=
  if startsOverlong s then .error .oversized
  else
    match (tidied? s).bind plainInteger? with
    | some n => .ok n
    | none => .error .unreadable

/-- A floating point number without blanks and underscores. -/
def plainFloating? (s : List Char) : Option Binary64 :=
  let (negative, body) := splitSign s
  let name := String.ofList (body.map Char.toLower)
  if name == "inf" || name == "infinity" then some (.infinity negative)
  else if name == "nan" then some .notANumber
  else decimal? negative body

/-- A floating point number typed by a person. -/
def floating? (s : List Char) : Option Binary64 :=
  (plainFloating? (Text.trim s)).or ((ungrouped? s).bind plainFloating?)

example : (integer " +1_000.00\n".toList).toOption = some 1000 := by decide +kernel
example : ["0-5", "+0_-5", "-00_5.0"].map (integer ·.toList |>.toOption) =
    List.replicate 3 (some (-5)) := by
  decide +kernel
example : ["1.", ".0", "1__0", "0_", "+-1", "0-05", ""].map (integer ·.toList |>.toOption) =
    List.replicate 7 none := by
  decide +kernel
example : ["0.1_5", " .15\n", "1_5e-_2"].map (floating? ·.toList) =
    List.replicate 3 (some (.ofDecimal false 15 (-2))) := by
  decide +kernel
example : ["0x1", "1,5", "- 1", ".", "e5", " 1_0"].map (floating? ·.toList) =
    List.replicate 6 none := by
  decide +kernel

end TransferDrill.Numeral

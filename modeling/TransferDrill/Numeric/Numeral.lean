import TransferDrill.Numeric.Binary64

/-!
# Numbers in text

The parts of a numeral, the strict grammar of a document's numbers, and the text of an integer.
How people and ledgers write numbers is told in the modules beside this one.
-/

namespace TransferDrill.Numeral

/-- The value of an ASCII digit. -/
def digitValue? (c : Char) : Option Nat :=
  if c.isDigit then some (c.toNat - '0'.toNat) else none

/-- The number that digits denote. -/
def ofDigits (digits : List Nat) : Nat :=
  digits.foldl (fun n d => 10 * n + d) 0

/-- Digits without anything between them, at least one. -/
def plainDigits? (s : List Char) : Option (List Nat) :=
  if s.isEmpty then none else s.mapM digitValue?

/-- Text without its underscores, none of which may stand at an end or beside another. -/
def ungrouped? (s : List Char) : Option (List Char) :=
  let groups := s.splitOn '_'
  if groups.any List.isEmpty then none else some groups.flatten

/-- Take one minus sign off, if there is one. -/
def splitMinus : List Char → Bool × List Char
  | '-' :: rest => (true, rest)
  | s => (false, s)

/-- Take one sign off, if there is one. -/
def splitSign : List Char → Bool × List Char
  | '-' :: rest => (true, rest)
  | '+' :: rest => (false, rest)
  | s => (false, s)

/-- Split at the first character of a kind, which is dropped. -/
def splitAtFirst (p : Char → Bool) (s : List Char) : List Char × Option (List Char) :=
  match s.dropWhile (!p ·) with
  | [] => (s, none)
  | _ :: rest => (s.takeWhile (!p ·), some rest)

/-- Give a magnitude its sign. -/
def signed (negative : Bool) (n : Nat) : Int :=
  if negative then -n else n

/-- The exponent after its mark. -/
def exponent? : Option (List Char) → Option Int
  | none => some 0
  | some s => do
    let (negative, body) := splitSign s
    let digits ← plainDigits? body
    return signed negative (ofDigits digits)

/-- Digits of one side of the point, which may be missing. -/
def side? (s : List Char) : Option (List Nat) :=
  if s.isEmpty then some [] else plainDigits? s

/-- A decimal number without sign: digits around a point, then an exponent. -/
def decimal? (negative : Bool) (s : List Char) : Option Binary64 := do
  let (mantissa, power) := splitAtFirst (fun c => c == 'e' || c == 'E') s
  let (whole, fraction) := splitAtFirst (· == '.') mantissa
  let before ← side? whole
  let after ← side? (fraction.getD [])
  let exponent ← exponent? power
  if before.isEmpty && after.isEmpty then none
  else some (.ofDecimal negative (ofDigits (before ++ after)) (exponent - after.length))

/-- A number of a document: an integer, or with a point or an exponent a floating point one. -/
def document? (s : List Char) : Option (Int ⊕ Binary64) :=
  let (negative, body) := splitMinus s
  if body.all Char.isDigit then
    (plainDigits? body).map fun digits => .inl (signed negative (ofDigits digits))
  else
    let complete := fun side : List Char => !side.isEmpty
    let (mantissa, _) := splitAtFirst (fun c => c == 'e' || c == 'E') body
    let (whole, fraction) := splitAtFirst (· == '.') mantissa
    if complete whole && fraction.all complete then (decimal? negative body).map .inr else none

/-- The text of an integer. -/
def ofInt : Int → List Char
  | .ofNat n => Nat.toDigits 10 n
  | .negSucc n => '-' :: Nat.toDigits 10 (n + 1)

/-- The number of digits that an integer may have where people read or write it. -/
def maxDigits : Nat := 4300

/-- Whether an integer has no more digits than it may. -/
def isShort (n : Int) : Bool := n.natAbs < 10 ^ maxDigits

/-- How it is reported that an integer has too many digits to be written. -/
def limitMessage : String :=
  s!"Exceeds the limit ({maxDigits} digits) for integer string conversion; " ++
    "use sys.set_int_max_str_digits() to increase the limit"

example : ungrouped? "1_000".toList = some "1000".toList := by decide +kernel
example : ["_1", "1_", "1__0", ""].map (ungrouped? ·.toList) = List.replicate 4 none := by
  decide +kernel
example : document? "-12".toList = some (.inl (-12)) := by decide +kernel
example : document? "1e2".toList = some (.inr (.ofInt 100)) := by decide +kernel

end TransferDrill.Numeral

import TransferDrill.Numeric.Power
import TransferDrill.Text.Blank

/-!
# Hexadecimal text

Bytes are written as two lower-case digits each. Reading takes digits of either case and allows
ASCII blanks before a byte, never inside one; a text that is no byte sequence is refused with
the position of the first character at fault.
-/

namespace TransferDrill.Text.Hex

/-- The digits of a number at a fixed width, most significant first. -/
def digits : (width : Nat) → Nat → List Char
  | 0, _ => []
  | width + 1, n => digits width (n / 16) ++ [Nat.digitChar (n % 16)]

/-- The value of a hexadecimal digit of either case. -/
def value? (c : Char) : Option Nat :=
  if '0' ≤ c ∧ c ≤ '9' then some (c.toNat - '0'.toNat)
  else if 'a' ≤ c ∧ c ≤ 'f' then some (c.toNat - 'a'.toNat + 10)
  else if 'A' ≤ c ∧ c ≤ 'F' then some (c.toNat - 'A'.toNat + 10)
  else none

/-- The number that a sequence of digits denotes. -/
def number? (s : List Char) : Option Nat :=
  s.foldlM (fun n c => (value? c).map (16 * n + ·)) 0

/-- Two digits for each byte. -/
def encode (bytes : List UInt8) : List Char :=
  bytes.flatMap fun b => digits 2 b.toNat

/-- Where a text stops being a byte sequence. -/
structure Stray where
  position : Nat
deriving DecidableEq, Repr

/-- How a stray character is reported. -/
def Stray.message (e : Stray) : String :=
  s!"non-hexadecimal number found in fromhex() arg at position {e.position}"

/-- Read bytes from a text whose first character stands at `position`. -/
def decodeFrom (position : Nat) : List Char → Except Stray (List UInt8)
  | [] => .ok []
  | [c] =>
    if isAsciiBlank c then .ok []
    else match value? c with
      | none => .error ⟨position⟩
      | some _ => .error ⟨position + 1⟩
  | c :: d :: rest =>
    if isAsciiBlank c then decodeFrom (position + 1) (d :: rest)
    else match value? c, value? d with
      | none, _ => .error ⟨position⟩
      | some _, none => .error ⟨position + 1⟩
      | some high, some low =>
        (decodeFrom (position + 2) rest).map (UInt8.ofNat (16 * high + low) :: ·)

/-- Read bytes; a character beyond ASCII is reported before any other fault. -/
def decode (s : List Char) : Except Stray (List UInt8) :=
  match s.findIdx? fun c => 0x80 ≤ c.toNat with
  | some position => .error ⟨position⟩
  | none => decodeFrom 0 s

/-- A number in a width has as many digits. -/
@[simp] theorem digits_length (width n : Nat) : (digits width n).length = width := by
  induction width generalizing n with
  | zero => rfl
  | succ width ih => simp [digits, ih]

/-- The digit of a number below sixteen has that value. -/
theorem value?_digitChar {d : Nat} (h : d < 16) : value? (Nat.digitChar d) = some d :=
  (by decide : ∀ d : Fin 16, value? (Nat.digitChar d.val) = some d.val) ⟨d, h⟩

/-- Written digits denote the number, less what the width cuts off. -/
theorem number?_digits (width n : Nat) : number? (digits width n) = some (n % 16 ^ width) := by
  induction width generalizing n with
  | zero => simp [number?, digits, Nat.mod_one]
  | succ width ih =>
    have digit := value?_digitChar (Nat.mod_lt n (by decide : 16 > 0))
    have split : n % 16 ^ (width + 1) = 16 * (n / 16 % 16 ^ width) + n % 16 := by
      rw [Nat.pow_succ, Nat.mul_comm, Nat.mod_mul]
      omega
    have front := ih (n / 16)
    simp only [number?] at front ⊢
    simp [digits, List.foldlM_append, front, digit, split]

/-- Digits that are wide enough denote the number. -/
theorem number?_digits_of_lt {width n : Nat} (h : n < 16 ^ width) :
    number? (digits width n) = some n := by
  rw [number?_digits, Nat.mod_eq_of_lt h]

end TransferDrill.Text.Hex

import TransferDrill.Text.Hex

/-!
# Escaped text in documents

The body of a document's string, without its quotes. Writing escapes the quote, the backslash
and every character outside the printable ASCII range, the latter as UTF-16 code units; reading
takes every escape of the format and joins surrogate pairs.
-/

namespace TransferDrill.Text.Escaped

/-- The code units of a code point beyond the basic plane. -/
def surrogates (n : Nat) : Nat × Nat :=
  (0xd800 + (n - 0x10000) / 0x400, 0xdc00 + (n - 0x10000) % 0x400)

/-- A code unit as an escape of four digits. -/
def unitEscape (n : Nat) : List Char :=
  '\\' :: 'u' :: Hex.digits 4 n

/-- One character of the body. -/
def encodeChar (c : Char) : List Char :=
  if c = '"' then ['\\', '"']
  else if c = '\\' then ['\\', '\\']
  else if 0x20 ≤ c.toNat ∧ c.toNat ≤ 0x7e then [c]
  else if c = '\n' then ['\\', 'n']
  else if c = '\r' then ['\\', 'r']
  else if c = '\t' then ['\\', 't']
  else if c.toNat = 0x0c then ['\\', 'f']
  else if c.toNat = 0x08 then ['\\', 'b']
  else if c.toNat < 0x10000 then unitEscape c.toNat
  else
    let (high, low) := surrogates c.toNat
    unitEscape high ++ unitEscape low

/-- The body of a string. -/
def encode (s : List Char) : List Char :=
  s.flatMap encodeChar

/-- The code point that a one-letter escape denotes. -/
def letterEscape? (c : Char) : Option Nat :=
  if c = '"' || c = '\\' || c = '/' then some c.toNat
  else if c = 'b' then some 0x08
  else if c = 'f' then some 0x0c
  else if c = 'n' then some 0x0a
  else if c = 'r' then some 0x0d
  else if c = 't' then some 0x09
  else none

/-- Where the reader of a body stands; the digits of an unfinished escape are held latest first. -/
inductive Mode where
  | plain
  | escape
  | digits (seen : List Char)
deriving DecidableEq, Repr

/-- The reader of a body: its mode and the code points read, latest first. -/
structure Reader where
  mode : Mode
  points : List Nat
deriving DecidableEq, Repr

/-- Take one character; control characters must be escaped. -/
def Reader.step (r : Reader) (c : Char) : Option Reader :=
  match r.mode with
  | .plain =>
    if c = '\\' then some ⟨.escape, r.points⟩
    else if c.toNat < 0x20 then none
    else some ⟨.plain, c.toNat :: r.points⟩
  | .escape =>
    if c = 'u' then some ⟨.digits [], r.points⟩
    else (letterEscape? c).map fun point => ⟨.plain, point :: r.points⟩
  | .digits seen =>
    if seen.length < 3 then some ⟨.digits (c :: seen), r.points⟩
    else (Hex.number? (c :: seen).reverse).map fun unit => ⟨.plain, unit :: r.points⟩

/-- The code points of a body, surrogates still apart; no escape may be unfinished. -/
def points (s : List Char) : Option (List Nat) := do
  let r ← s.foldlM Reader.step ⟨.plain, []⟩
  if r.mode = .plain then some r.points.reverse else none

/-- Whether a code unit opens a surrogate pair. -/
def isHighSurrogate (n : Nat) : Bool := 0xd800 ≤ n && n < 0xdc00

/-- Whether a code unit closes a surrogate pair. -/
def isLowSurrogate (n : Nat) : Bool := 0xdc00 ≤ n && n < 0xe000

/-- Join surrogate pairs; a lone surrogate is no text. -/
def joinSurrogates : List Nat → Option (List Char)
  | [] => some []
  | [n] => if isHighSurrogate n || isLowSurrogate n then none else some [Char.ofNat n]
  | n :: m :: rest =>
    if isHighSurrogate n then
      if isLowSurrogate m then
        (Char.ofNat (0x10000 + (n - 0xd800) * 0x400 + (m - 0xdc00)) :: ·) <$> joinSurrogates rest
      else none
    else if isLowSurrogate n then none
    else (Char.ofNat n :: ·) <$> joinSurrogates (m :: rest)

/-- The text that a body stands for. -/
def decode (s : List Char) : Option (List Char) :=
  points s >>= joinSurrogates

/-- Two texts are escaped one after the other. -/
@[simp] theorem encode_append (s t : List Char) : encode (s ++ t) = encode s ++ encode t := by
  simp [encode]

end TransferDrill.Text.Escaped

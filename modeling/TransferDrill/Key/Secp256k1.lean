import TransferDrill.Text.Hex

/-!
# The curve secp256k1

The curve y² = x³ + 7 over a prime field, in projective coordinates: a point with coordinates x,
y and z stands for (x / z², y / z³), and z = 0 for the point at infinity. A public key is the
compressed multiple of the base point: the parity of y, then x.
-/

namespace TransferDrill.Secp256k1

/-- The prime of the field. -/
def fieldPrime : Nat := 2 ^ 256 - 2 ^ 32 - 977

/-- The number of points, a prime too. -/
def groupOrder : Nat := 0xfffffffffffffffffffffffffffffffebaaedce6af48a03bbfd25e8cd0364141

/-- A point in projective coordinates. -/
structure Point where
  x : Nat
  y : Nat
  z : Nat
deriving DecidableEq, Repr

/-- The point at infinity. -/
def infinity : Point := ⟨1, 1, 0⟩

/-- The base point. -/
def base : Point where
  x := 0x79be667ef9dcbbac55a06295ce870b07029bfcdb2dce28d959f2815b16f81798
  y := 0x483ada7726a3c4655da4fbfc0e1108a8fd17b448a68554199c47d08ffb10d4b8
  z := 1

/-- Difference in the field. -/
def minus (a b : Nat) : Nat := (a + (fieldPrime - b % fieldPrime)) % fieldPrime

/-- A power in the field, from the lowest `count` bits of the exponent. -/
def power (a : Nat) : (count : Nat) → (exponent : Nat) → Nat
  | 0, _ => 1
  | count + 1, exponent =>
    let half := power a count (exponent / 2)
    let square := half * half % fieldPrime
    if exponent % 2 = 1 then square * a % fieldPrime else square

/-- The reciprocal in the field, by Fermat's little theorem; zero for zero. -/
def reciprocal (a : Nat) : Nat := power a 256 (fieldPrime - 2)

/-- Twice a point. -/
def double (p : Point) : Point :=
  let yy := p.y * p.y % fieldPrime
  let s := 4 * p.x * yy % fieldPrime
  let m := 3 * p.x * p.x % fieldPrime
  let x := minus (m * m) (2 * s)
  ⟨x, minus (m * minus s x) (8 * yy * yy), 2 * p.y * p.z % fieldPrime⟩

/-- The sum of two points. -/
def add (p q : Point) : Point :=
  if p.z = 0 then q
  else if q.z = 0 then p
  else
    let pz := p.z * p.z % fieldPrime
    let qz := q.z * q.z % fieldPrime
    let px := p.x * qz % fieldPrime
    let qx := q.x * pz % fieldPrime
    let py := p.y * (qz * q.z) % fieldPrime
    let qy := q.y * (pz * p.z) % fieldPrime
    if px = qx then if py = qy then double p else infinity
    else
      let h := minus qx px
      let r := minus qy py
      let hh := h * h % fieldPrime
      let hhh := h * hh % fieldPrime
      let v := px * hh % fieldPrime
      let x := minus (r * r) (hhh + 2 * v)
      ⟨x, minus (r * minus v x) (py * hhh), h * p.z * q.z % fieldPrime⟩

/-- The multiple of a point by the lowest `count` bits of a number. -/
def multiple (p : Point) : (count : Nat) → Nat → Point
  | 0, _ => infinity
  | count + 1, n =>
    let even := double (multiple p count (n / 2))
    if n % 2 = 1 then add even p else even

/-- A number as big-endian bytes of a fixed width. -/
def bigEndian : (width : Nat) → Nat → List UInt8
  | 0, _ => []
  | width + 1, n => bigEndian width (n / 256) ++ [UInt8.ofNat (n % 256)]

/-- The number that big-endian bytes denote. -/
def ofBigEndian (bytes : List UInt8) : Nat :=
  bytes.foldl (fun n b => 256 * n + b.toNat) 0

/-- The compressed form of a point. -/
def compress (p : Point) : List UInt8 :=
  let inverse := reciprocal p.z
  let square := inverse * inverse % fieldPrime
  let x := p.x * square % fieldPrime
  let y := p.y * (square * inverse) % fieldPrime
  UInt8.ofNat (2 + y % 2) :: bigEndian 32 x

/-- The public key of a secret scalar. -/
def publicKey (scalar : Nat) : List UInt8 := compress (multiple base 256 scalar)

/-- A number in a width has as many bytes. -/
@[simp] theorem bigEndian_length (width n : Nat) : (bigEndian width n).length = width := by
  induction width generalizing n with
  | zero => rfl
  | succ width ih => simp [bigEndian, ih]

/-- A number is the same after going through bytes, if it fits. -/
theorem ofBigEndian_bigEndian {width n : Nat} (h : n < 256 ^ width) :
    ofBigEndian (bigEndian width n) = n := by
  induction width generalizing n with
  | zero =>
    have : n = 0 := by simpa using h
    simp [bigEndian, ofBigEndian, this]
  | succ width ih =>
    have hlt : n / 256 < 256 ^ width := by
      rw [Nat.pow_succ] at h
      exact Nat.div_lt_of_lt_mul (by omega)
    have hlow : n % 256 % 256 = n % 256 := Nat.mod_mod _ _
    have hih := ih hlt
    simp only [ofBigEndian] at hih ⊢
    simp only [bigEndian, List.foldl_append, hih, List.foldl_cons, List.foldl_nil,
      UInt8.toNat_ofNat']
    omega

end TransferDrill.Secp256k1

import TransferDrill.Text.Hex

/-!
# What hexadecimal text spells

A text spells bytes if it has two digits for each of them, of either case, and ASCII blanks before,
between or behind them. Reading accepts exactly the texts that spell bytes and gives these bytes; so
it undoes writing, in lower or upper case and however the bytes are set apart.
-/

namespace TransferDrill.Text.Hex

/-- A text spells bytes: two digits of either case for each, and blanks around them. -/
inductive Spells : List Char → List UInt8 → Prop
  | done : Spells [] []
  | blank {c : Char} {s : List Char} {bytes : List UInt8} (hblank : isAsciiBlank c = true)
      (h : Spells s bytes) : Spells (c :: s) bytes
  | byte {c d : Char} {high low : Nat} {s : List Char} {bytes : List UInt8}
      (hhigh : value? c = some high) (hlow : value? d = some low) (h : Spells s bytes) :
      Spells (c :: d :: s) (UInt8.ofNat (16 * high + low) :: bytes)

/-- The characters of a range are those whose codes are in it. -/
theorem char_mem_range_iff {c first last : Char} :
    first ≤ c ∧ c ≤ last ↔ first.toNat ≤ c.toNat ∧ c.toNat ≤ last.toNat := Iff.rfl

/-- A digit is an ASCII character and no blank. -/
theorem ascii_of_value? {c : Char} {d : Nat} (h : value? c = some d) :
    c.toNat < 0x80 ∧ isAsciiBlank c = false := by
  have hcode : (48 ≤ c.toNat ∧ c.toNat ≤ 57) ∨ (97 ≤ c.toNat ∧ c.toNat ≤ 102) ∨
      (65 ≤ c.toNat ∧ c.toNat ≤ 70) := by
    simp only [value?, char_mem_range_iff] at h
    split at h
    · next hdigit => exact .inl hdigit
    · split at h
      · next hlower => exact .inr (.inl hlower)
      · split at h
        · next hupper => exact .inr (.inr hupper)
        · cases h
  constructor
  · omega
  · simp only [isAsciiBlank, Bool.or_eq_false_iff, Bool.and_eq_false_iff, decide_eq_false_iff_not,
      beq_eq_false_iff_ne]
    omega

/-- A blank is an ASCII character. -/
theorem ascii_of_blank {c : Char} (h : isAsciiBlank c = true) : c.toNat < 0x80 := by
  simp only [isAsciiBlank, Bool.or_eq_true, Bool.and_eq_true, decide_eq_true_eq, beq_iff_eq] at h
  omega

/-- A text that spells bytes is all ASCII. -/
theorem Spells.ascii {s : List Char} {bytes : List UInt8} (h : Spells s bytes) :
    ∀ c ∈ s, c.toNat < 0x80 := by
  induction h with
  | done => simp
  | blank hblank _ ih => exact List.forall_mem_cons.mpr ⟨ascii_of_blank hblank, ih⟩
  | byte hhigh hlow _ ih =>
    exact List.forall_mem_cons.mpr ⟨(ascii_of_value? hhigh).1,
      List.forall_mem_cons.mpr ⟨(ascii_of_value? hlow).1, ih⟩⟩

/-- A text that spells bytes is read as these. -/
theorem Spells.decodeFrom_eq {s : List Char} {bytes : List UInt8} (h : Spells s bytes)
    (position : Nat) : decodeFrom position s = .ok bytes := by
  induction h generalizing position with
  | done => rfl
  | @blank c s bytes hblank h ih =>
    cases h with
    | done => rw [decodeFrom, if_pos hblank]
    | blank => rw [decodeFrom, if_pos hblank, ih]
    | byte => rw [decodeFrom, if_pos hblank, ih]
  | byte hhigh hlow h ih =>
    rw [decodeFrom, if_neg (by simp [(ascii_of_value? hhigh).2])]
    simp only [hhigh, hlow, ih]
    rfl

/-- What is read as bytes spells these. -/
theorem spells_of_decodeFrom {s : List Char} {bytes : List UInt8} {position : Nat}
    (h : decodeFrom position s = .ok bytes) : Spells s bytes := by
  fun_induction decodeFrom position s generalizing bytes with
  | case1 position =>
    cases h
    exact .done
  | case2 position c hblank =>
    cases h
    exact .blank hblank .done
  | case3 => cases h
  | case4 => cases h
  | case5 position c d rest hblank ih => exact .blank hblank (ih h)
  | case6 => cases h
  | case7 => cases h
  | case8 position c d rest hblank high low hlow hhigh ih =>
    cases hrest : decodeFrom (position + 2) rest with
    | error e =>
      rw [hrest] at h
      cases h
    | ok more =>
      rw [hrest] at h
      cases h
      exact .byte hhigh hlow (ih hrest)

/-- Reading gives the bytes that a text spells, and refuses a text that spells none. -/
theorem decode_eq_ok_iff {s : List Char} {bytes : List UInt8} :
    decode s = .ok bytes ↔ Spells s bytes := by
  constructor
  · intro h
    rw [decode] at h
    split at h
    · cases h
    · exact spells_of_decodeFrom h
  · intro h
    have hascii : (s.findIdx? fun c => 0x80 ≤ c.toNat) = none := by
      refine List.findIdx?_eq_none_iff.mpr fun c hc => ?_
      have := h.ascii c hc
      simpa using this
    rw [decode, hascii]
    exact h.decodeFrom_eq 0

/-! ## Writing -/

/-- Whether digits are written in lower or in upper case. -/
inductive Casing where
  | lower
  | upper
deriving DecidableEq, Repr

/-- A digit in the case asked for. -/
def Casing.write : Casing → Char → Char
  | .lower => id
  | .upper => Char.toUpper

/-- Bytes written with digits of one case, each behind a text of its own, and a text at the end. -/
def layOut (casing : Casing) (pieces : List (List Char × UInt8)) (last : List Char) : List Char :=
  pieces.flatMap (fun piece => piece.1 ++ (digits 2 piece.2.toNat).map casing.write) ++ last

/-- The first byte stands in front of the rest. -/
theorem layOut_cons (casing : Casing) (piece : List Char × UInt8)
    (pieces : List (List Char × UInt8)) (last : List Char) :
    layOut casing (piece :: pieces) last =
      piece.1 ++ ((digits 2 piece.2.toNat).map casing.write ++ layOut casing pieces last) := by
  rw [layOut, layOut, List.flatMap_cons, List.append_assoc, List.append_assoc]

/-- A digit has its value in either case. -/
theorem value?_write (casing : Casing) {d : Nat} (h : d < 16) :
    value? (casing.write (Nat.digitChar d)) = some d := by
  cases casing with
  | lower => exact value?_digitChar h
  | upper =>
    exact (by decide : ∀ d : Fin 16, value? (Nat.digitChar d.val).toUpper = some d.val) ⟨d, h⟩

/-- A byte is written as its two digits. -/
theorem Spells.write {s : List Char} {bytes : List UInt8} (h : Spells s bytes) (casing : Casing)
    (b : UInt8) : Spells ((digits 2 b.toNat).map casing.write ++ s) (b :: bytes) := by
  have hhigh := value?_write casing (Nat.mod_lt (b.toNat / 16) (by decide : 0 < 16))
  have hlow := value?_write casing (Nat.mod_lt b.toNat (by decide : 0 < 16))
  have hbyte : UInt8.ofNat (16 * (b.toNat / 16 % 16) + b.toNat % 16) = b := by
    have hlt := b.toNat_lt
    apply UInt8.toNat_inj.mp
    rw [UInt8.toNat_ofNat']
    omega
  have hspelled := Spells.byte hhigh hlow h
  rw [hbyte] at hspelled
  exact hspelled

/-- Blanks in front change nothing. -/
theorem Spells.blanks {s gap : List Char} {bytes : List UInt8} (h : Spells s bytes)
    (hgap : ∀ c ∈ gap, isAsciiBlank c = true) : Spells (gap ++ s) bytes := by
  induction gap with
  | nil => exact h
  | cons c gap ih =>
    rw [List.forall_mem_cons] at hgap
    exact .blank hgap.1 (ih hgap.2)

/-- Bytes that are written with blanks around them are spelled. -/
theorem spells_layOut (casing : Casing) {pieces : List (List Char × UInt8)} {last : List Char}
    (hgaps : ∀ piece ∈ pieces, ∀ c ∈ piece.1, isAsciiBlank c = true)
    (hlast : ∀ c ∈ last, isAsciiBlank c = true) :
    Spells (layOut casing pieces last) (pieces.map Prod.snd) := by
  induction pieces with
  | nil =>
    have hblank := Spells.done.blanks hlast
    rwa [List.append_nil] at hblank
  | cons piece pieces ih =>
    rw [List.forall_mem_cons] at hgaps
    rw [layOut_cons]
    exact ((ih hgaps.2).write casing piece.2).blanks hgaps.1

/-- Bytes are written as they are spelled. -/
theorem spells_encode (bytes : List UInt8) : Spells (encode bytes) bytes := by
  induction bytes with
  | nil => exact .done
  | cons b bytes ih =>
    have hwritten := ih.write .lower b
    rwa [Casing.write, List.map_id] at hwritten

end TransferDrill.Text.Hex

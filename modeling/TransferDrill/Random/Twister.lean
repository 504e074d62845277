import TransferDrill.Numeric.Power

/-!
# A seeded generator of 32-bit words

The twisted shift register of 624 words with period 2^19937 - 1. The seed is an array of words;
the state is renewed as a whole after every 624 outputs.
-/

namespace TransferDrill.Random

/-- The state: its words and the number of words given out since it was renewed. -/
structure Twister where
  words : Array UInt32
  used : Nat
deriving Repr

namespace Twister

/-- The number of words in the state. -/
def size : Nat := 624

/-- A word of the state. -/
def word (words : Array UInt32) (i : Nat) : UInt32 := words.getD i 0

/-- The state that a single word spreads to. -/
def spread (seed : UInt32) : Array UInt32 :=
  (List.range (size - 1)).foldl
    (fun words i =>
      let last : UInt32 := word words i
      words.push ((1812433253 : UInt32) * (last ^^^ (last >>> 30)) + UInt32.ofNat (i + 1)))
    #[seed]

/-- Set a word and go to the next place; past the end, the last word also becomes the first. -/
def advance (words : Array UInt32) (i : Nat) (value : UInt32) : Array UInt32 × Nat :=
  let words := words.setIfInBounds i value
  if i + 1 < size then (words, i + 1) else (words.setIfInBounds 0 value, 1)

/-- The state for an array of seed words. -/
def ofWords (key : Array UInt32) : Twister :=
  let mixKey := fun (state : Array UInt32 × Nat) (step : Nat) =>
    let (words, i) := state
    let j := step % key.size
    let last := word words (i - 1)
    advance words i
      ((word words i ^^^ ((last ^^^ (last >>> 30)) * 1664525)) + key.getD j 0 + UInt32.ofNat j)
  let mixPlace := fun (state : Array UInt32 × Nat) (_ : Nat) =>
    let (words, i) := state
    let last := word words (i - 1)
    advance words i
      ((word words i ^^^ ((last ^^^ (last >>> 30)) * 1566083941)) - UInt32.ofNat i)
  let state := (List.range (max size key.size)).foldl mixKey (spread 19650218, 1)
  let state := (List.range (size - 1)).foldl mixPlace state
  ⟨state.1.setIfInBounds 0 0x80000000, size⟩

/-- The 32-bit words of a number, least significant first; at least one. -/
def wordsOf (n : Nat) : Array UInt32 :=
  ((List.range (Nat.log2 n / 32 + 1)).map fun i => UInt32.ofNat (n >>> (32 * i))).toArray

/-- The state for an integer seed, whose sign does not count. -/
def ofSeed (seed : Int) : Twister := ofWords (wordsOf seed.natAbs)

/-- Renew the whole state. -/
def renew (words : Array UInt32) : Array UInt32 :=
  (List.range size).foldl
    (fun words i =>
      let y := (word words i &&& 0x80000000) ||| (word words ((i + 1) % size) &&& 0x7fffffff)
      let twisted : UInt32 := if y &&& 1 = 0 then 0 else 0x9908b0df
      words.setIfInBounds i (word words ((i + 397) % size) ^^^ (y >>> 1) ^^^ twisted))
    words

/-- Scramble a word of the state into an output. -/
def temper (y : UInt32) : UInt32 :=
  let y := y ^^^ (y >>> 11)
  let y := y ^^^ ((y <<< 7) &&& 0x9d2c5680)
  let y := y ^^^ ((y <<< 15) &&& 0xefc60000)
  y ^^^ (y >>> 18)

/-- The next output. -/
def next (t : Twister) : UInt32 × Twister :=
  let t := if t.used < size then t else ⟨renew t.words, 0⟩
  (temper (word t.words t.used), { t with used := t.used + 1 })

/-- Outputs as the digits of a number in base 2^32, least significant first. -/
def wholeWords : (count : Nat) → Twister → Nat × Twister
  | 0, t => (0, t)
  | count + 1, t =>
    let (low, t) := t.next
    let (high, t) := wholeWords count t
    (low.toNat + 2 ^ 32 * high, t)

/-- A number of `count + 1` bits; the last word gives its upper bits. -/
def bits (count : Nat) (t : Twister) : Nat × Twister :=
  let (low, t) := wholeWords (count / 32) t
  let (last, t) := t.next
  (low + 2 ^ (32 * (count / 32)) * (last.toNat >>> (31 - count % 32)), t)

/-- A number below `bound`, drawn again until it is; each draw succeeds with a probability of one
half or more, and after `tries` failures zero is taken. -/
def below (bound : Nat) : (tries : Nat) → Twister → Nat × Twister
  | 0, t => (0, t)
  | tries + 1, t =>
    let (n, t) := t.bits (Nat.log2 bound)
    if n < bound then (n, t) else below bound tries t

/-- What is drawn below a positive bound is below it. -/
theorem below_lt {bound : Nat} (h : 0 < bound) (tries : Nat) (t : Twister) :
    (t.below bound tries).1 < bound := by
  induction tries generalizing t with
  | zero => exact h
  | succ tries ih =>
    simp only [below]
    split
    · assumption
    · exact ih _

end Twister

end TransferDrill.Random

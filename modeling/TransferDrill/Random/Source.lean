import TransferDrill.Numeric.Binary64
import TransferDrill.Random.Twister

/-!
# Sources of randomness

A source gives numbers from zero to one and uniform integers of a range. It is either a seeded
generator or a script: probabilities and offsets that are given out in turn, over and over.
-/

namespace TransferDrill.Random

/-- A range whose upper end is below its lower end. -/
structure InvertedRange where
  minimum : Int
  maximum : Int
deriving DecidableEq, Repr

/-- How an inverted range is reported. -/
def InvertedRange.message (e : InvertedRange) : String :=
  s!"maximum {e.maximum} is less than minimum {e.minimum}"

/-- Where random numbers come from; a script counts what it has given out. -/
inductive Source where
  | seeded (state : Twister)
  | scripted (probabilities : List Binary64) (offsets : List Int)
      (probabilitiesDrawn offsetsDrawn : Nat)

namespace Source

/-- Draws after which the seeded generator gives up; it never gets that far. -/
def patience : Nat := 2 ^ 16

/-- The member of a repeated list at an index. -/
def cycled {α : Type} (default : α) (items : List α) (index : Nat) : α :=
  items.getD (index % items.length) default

/-- A number from zero to one. -/
def probability : Source → Binary64 × Source
  | .seeded t =>
    let (a, t) := t.next
    let (b, t) := t.next
    (.ofRatio false ((a.toNat >>> 5) * 2 ^ 26 + (b.toNat >>> 6)) (2 ^ 53), .seeded t)
  | .scripted probabilities offsets drawn offsetsDrawn =>
    (cycled (.ofDecimal false 5 (-1)) probabilities drawn,
      .scripted probabilities offsets (drawn + 1) offsetsDrawn)

/-- A uniform integer from `low` to `high`, both included. -/
def uniform (low high : Int) : Source → Int × Source
  | .seeded t =>
    let (n, t) := t.below (high - low + 1).toNat patience
    (low + n, .seeded t)
  | .scripted probabilities offsets drawn offsetsDrawn =>
    (low + cycled 0 offsets offsetsDrawn % (high - low + 1),
      .scripted probabilities offsets drawn (offsetsDrawn + 1))

/-- A uniform integer, unless the range is inverted. -/
def between (low high : Int) (source : Source) : Except InvertedRange (Int × Source) :=
  if high < low then .error ⟨low, high⟩ else .ok (source.uniform low high)

/-- A uniform integer respects its bounds. -/
theorem uniform_mem {low high : Int} (h : low ≤ high) (source : Source) :
    low ≤ (source.uniform low high).1 ∧ (source.uniform low high).1 ≤ high := by
  cases source with
  | seeded t =>
    have hpos : 0 < (high - low + 1).toNat := by omega
    have hlt := Twister.below_lt hpos patience t
    simp only [uniform]
    omega
  | scripted probabilities offsets drawn offsetsDrawn =>
    have hpos : 0 < high - low + 1 := by omega
    have hge := Int.emod_nonneg (cycled 0 offsets offsetsDrawn) (Int.ne_of_gt hpos)
    have hlt := Int.emod_lt_of_pos (cycled 0 offsets offsetsDrawn) hpos
    simp only [uniform]
    omega

end Source

end TransferDrill.Random

import TransferDrill.Proofs.Matching.Operations

/-!
# Comparisons that cannot be reported

An observed operation is compared with the pending ones in turn until it finds one that it is like.
Each difference on the way is put into words, and the first that cannot be ends the check. Nothing
is in the way of operations whose accounts and amounts hold no integer of too many digits.
-/

namespace TransferDrill

namespace Operation

/-- Operations that are alike can be compared: there is no difference to report. -/
theorem comparable_of_alike {intended observed : Operation}
    (h : intended.alike observed = true) : intended.comparable observed = true := by
  have hnone : mismatch? intended observed = none := by
    rw [← fulfils_eq_alike, fulfils] at h
    exact Option.isNone_iff_eq_none.mp h
  rw [comparable, hnone, Option.all_none]

/-- Whether what is compared of an operation can be shown. -/
def isShowable (a : Operation) : Bool :=
  a.account.all AccountIdentifier.isShowable && a.amount.all Amount.isShowable

/-- Operations that can be shown can be compared. -/
theorem comparable_of_isShowable {intended observed : Operation}
    (hintended : intended.isShowable = true) (hobserved : observed.isShowable = true) :
    intended.comparable observed = true := by
  rw [isShowable, Bool.and_eq_true] at hintended hobserved
  rw [comparable, mismatch?]
  split
  · rw [Option.all_some, Mismatch.isShowable, hintended.1, hobserved.1, Bool.and_self]
  · split
    · rw [Option.all_some, Mismatch.isShowable, hintended.2, hobserved.2, Bool.and_self]
    · split <;> rfl

end Operation

namespace Matching

variable {observed : Operation}

/-- The pending operations without the first that an observed one fulfils, if there is one,
whatever can be reported of those before. -/
def pick? (observed : Operation) : Pending → Option Pending
  | [] => none
  | entry :: rest =>
    if entry.2.alike observed then some rest else (pick? observed rest).map (entry :: ·)

/-- Whether a pending operation that an observed one cannot be compared with comes before any that
it fulfils. -/
def blocked (observed : Operation) : Pending → Bool
  | [] => false
  | entry :: rest =>
    !entry.2.alike observed && (!entry.2.comparable observed || blocked observed rest)

/-- An observed operation takes what it picks unless the way there is blocked. -/
theorem take?_eq (observed : Operation) (pending : Pending) :
    take? observed pending =
      if blocked observed pending then .error .overlong else .ok (pick? observed pending) := by
  induction pending with
  | nil => rfl
  | cons entry rest ih =>
    rw [take?, Operation.fulfils_eq_alike, ih, blocked, pick?]
    by_cases hclass : entry.2.alike observed = true
    · simp [hclass]
    · by_cases hcomparable : entry.2.comparable observed = true
      · by_cases hblocked : blocked observed rest = true <;>
          simp [hclass, hcomparable, hblocked, Except.map]
      · simp [hclass, hcomparable]

/-- All intended operations can be compared with all observed ones. -/
def Comparable (intent observed : List Operation) : Prop :=
  ∀ intended ∈ intent, ∀ op ∈ observed, intended.comparable op = true

instance (intent observed : List Operation) : Decidable (Comparable intent observed) :=
  inferInstanceAs (Decidable (∀ intended ∈ intent, ∀ op ∈ observed, _))

/-- Operations whose accounts and amounts can be shown can all be compared. -/
theorem comparable_of_isShowable {intent observed : List Operation}
    (hintent : ∀ op ∈ intent, op.isShowable = true)
    (hobserved : ∀ op ∈ observed, op.isShowable = true) : Comparable intent observed :=
  fun intended hintended op hop =>
    Operation.comparable_of_isShowable (hintent intended hintended) (hobserved op hop)

end Matching

end TransferDrill

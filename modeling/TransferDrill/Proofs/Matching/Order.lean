import TransferDrill.Proofs.Matching.Ranks
import Mathlib.Data.List.Forall2
import Mathlib.Data.List.Induction

/-!
# When the order of operations matters

A check can succeed in some order if the operations that count cover the intent and, where this is
asked for, nothing goes beyond it. It can fail in some order if an operation of an intended class
has failed although success is asked for, or if an intended operation and an observed one cannot be
compared: the check fails if these come first. So order matters exactly where both are the case.
-/

namespace TransferDrill.Matching

open Rehearsal

variable {policy : Policy} {intent intent' observed observed' : List Operation}

/-- The observed operations whose status counts as success. -/
def succeeded (policy : Policy) (observed : List Operation) : List Operation :=
  observed.filter fun op => policy.accepts op.status

/-- The observed operations that can be matched without harm: all of them, or where success is asked
for those that have succeeded. -/
def counted (policy : Policy) (observed : List Operation) : List Operation :=
  if policy.confirmSuccess then succeeded policy observed else observed

/-- In some order a check succeeds: what counts covers the intent, and nothing that is refused goes
beyond it. -/
structure Passable (policy : Policy) (intent observed : List Operation) : Prop where
  covered : Covers intent (counted policy observed)
  within : policy.refuseExtra = true → Within intent observed

/-- In some order a check fails: an operation of an intended class has failed, or an intended
operation and an observed one cannot be compared. -/
inductive Hazard (policy : Policy) (intent observed : List Operation) : Prop
  | failed {op : Operation} (asked : policy.confirmSuccess = true) (hop : op ∈ observed)
      (hdemand : 0 < demand intent op) (hstatus : policy.accepts op.status = false)
  | incomparable {intended op : Operation} (hintended : intended ∈ intent) (hop : op ∈ observed)
      (h : intended.comparable op = false)

/-- Whether a check succeeds depends on the order: there is one in which it does, and one in which
it does not. -/
structure OrderMatters (policy : Policy) (intent observed : List Operation) : Prop where
  passable : Passable policy intent observed
  hazard : Hazard policy intent observed

/-! ## Order and counts -/

/-- How much an operation is in demand does not depend on the order of the intent. -/
theorem demand_perm (h : intent.Perm intent') : demand intent = demand intent' :=
  funext fun _ => h.countP_eq _

/-- What is covered stays so in any order. -/
theorem Covers.perm (h : Covers intent observed) (hintent : intent.Perm intent')
    (hobserved : observed.Perm observed') : Covers intent' observed' := by
  intro op hop
  rw [← hintent.countP_eq, ← hobserved.countP_eq]
  exact h op (hintent.mem_iff.mpr hop)

/-- What does not go beyond the intent does not in any order. -/
theorem Within.perm (h : Within intent observed) (hintent : intent.Perm intent')
    (hobserved : observed.Perm observed') : Within intent' observed' := by
  intro op hop
  rw [← demand_perm hintent, ← hobserved.countP_eq]
  exact h op (hobserved.mem_iff.mpr hop)

/-- What can be compared can be in any order. -/
theorem Comparable.perm (h : Comparable intent observed) (hintent : intent.Perm intent')
    (hobserved : observed.Perm observed') : Comparable intent' observed' :=
  fun intended hintended op hop =>
    h intended (hintent.mem_iff.mpr hintended) op (hobserved.mem_iff.mpr hop)

/-- The same operations count in any order. -/
theorem counted_perm (h : observed.Perm observed') :
    (counted policy observed).Perm (counted policy observed') := by
  rw [counted, counted]
  split
  · exact h.filter _
  · exact h

/-- Whether a check succeeds in some order does not depend on the order that one begins with. -/
theorem Passable.perm (h : Passable policy intent observed) (hintent : intent.Perm intent')
    (hobserved : observed.Perm observed') : Passable policy intent' observed' where
  covered := h.covered.perm hintent (counted_perm hobserved)
  within hrefuse := (h.within hrefuse).perm hintent hobserved

/-- What may make a check fail may do so in any order. -/
theorem Hazard.perm (h : Hazard policy intent observed) (hintent : intent.Perm intent')
    (hobserved : observed.Perm observed') : Hazard policy intent' observed' := by
  cases h with
  | failed asked hop hdemand hstatus =>
    rw [demand_perm hintent] at hdemand
    exact .failed asked (hobserved.mem_iff.mp hop) hdemand hstatus
  | incomparable hintended hop h =>
    exact .incomparable (hintent.mem_iff.mp hintended) (hobserved.mem_iff.mp hop) h

/-- Without hazard, all operations can be compared. -/
theorem comparable_of_not_hazard (h : ¬Hazard policy intent observed) :
    Comparable intent observed := by
  intro intended hintended op hop
  by_contra hcompared
  exact h (.incomparable hintended hop (by simpa using hcompared))

/-! ## What a check that succeeds shows -/

/-- One more operation counts as success if its status does. -/
theorem succeeded_concat (last : Operation) :
    succeeded policy (observed ++ [last]) = succeeded policy observed ++
      if policy.accepts last.status then [last] else [] := by
  by_cases hstatus : policy.accepts last.status = true <;>
    simp [succeeded, List.filter_append, hstatus]

/-- What is matched before the last operation has succeeded, and the last one has if it is
matched. -/
theorem MatchedSucceed.of_concat {last : Operation}
    (h : MatchedSucceed policy intent (observed ++ [last])) :
    MatchedSucceed policy intent observed ∧
      (observed.countP last.alike < demand intent last → policy.accepts last.status = true) := by
  constructor
  · intro index op hop hmatched
    have hindex : index < observed.length := (List.getElem?_eq_some_iff.mp hop).1
    refine h index op ?_ ?_
    · rwa [List.getElem?_append_left hindex]
    · rwa [rank, List.take_append_of_le_length (Nat.le_of_lt hindex)]
  · intro hmatched
    refine h observed.length last (by simp) ?_
    simpa [rank] using hmatched

/-- If all that is matched has succeeded, then of each class at least as many operations have
succeeded as are matched. -/
theorem MatchedSucceed.min_le (h : MatchedSucceed policy intent observed)
    (names : ∀ op ∈ intent, op.NamesDistinct) {op : Operation} (hop : op ∈ intent) :
    min (intent.countP op.alike) (observed.countP op.alike) ≤
      (succeeded policy observed).countP op.alike := by
  induction observed using List.reverseRecOn with
  | nil => simp
  | append_singleton observed last ih =>
    obtain ⟨hbefore, hlast⟩ := h.of_concat
    have hrest := ih hbefore
    rw [succeeded_concat, List.countP_append, List.countP_append, List.countP_singleton]
    by_cases hclass : op.alike last = true
    · rw [← countP_alike_eq_demand names (names op hop) hclass,
        ← funext (Operation.alike_congr (names op hop) hclass)] at hlast
      by_cases hmatched : observed.countP op.alike < intent.countP op.alike
      · simp only [hlast hmatched, hclass, if_true, List.countP_singleton]
        omega
      · omega
    · rw [if_neg hclass]
      omega

/-- If all that is matched has succeeded and the intent is covered, those that have succeeded cover
it. -/
theorem MatchedSucceed.covers (h : MatchedSucceed policy intent observed)
    (names : ∀ op ∈ intent, op.NamesDistinct) (hcovers : Covers intent observed) :
    Covers intent (succeeded policy observed) := by
  intro op hop
  have hmin := h.min_le names hop
  rwa [Nat.min_eq_left (hcovers op hop)] at hmin

/-- A check that succeeds is passable. -/
theorem passable_of_ok (names : ∀ op ∈ intent, op.NamesDistinct)
    (h : checkOperations policy intent observed = .ok ()) : Passable policy intent observed := by
  obtain ⟨-, hcovers, hwithin, hsucceed⟩ := (checkOperations_eq_ok_iff names).mp h
  refine ⟨?_, hwithin⟩
  rw [counted]
  split
  · next hconfirm => exact (hsucceed hconfirm).covers names hcovers
  · exact hcovers

/-- If what counts covers the intent, so does what is observed. -/
theorem Passable.covers (h : Passable policy intent observed) : Covers intent observed := by
  intro op hop
  have hsublist : (counted policy observed).Sublist observed := by
    rw [counted]
    split
    · exact List.filter_sublist
    · exact .refl _
  exact Nat.le_trans (h.covered op hop) (hsublist.countP_le)

/-- A passable check without hazard succeeds as it stands. -/
theorem checkOperations_eq_ok_of_not_hazard (names : ∀ op ∈ intent, op.NamesDistinct)
    (hpassable : Passable policy intent observed) (hsafe : ¬Hazard policy intent observed) :
    checkOperations policy intent observed = .ok () := by
  refine (checkOperations_eq_ok_iff names).mpr ⟨(comparable_of_not_hazard hsafe).legible,
    hpassable.covers, hpassable.within, fun hconfirm index op hop hmatched => ?_⟩
  by_contra hstatus
  exact hsafe (.failed hconfirm (List.mem_of_getElem? hop) (Nat.zero_lt_of_lt hmatched)
    (by simpa using hstatus))

/-! ## An order in which a check succeeds -/

/-- Operations arranged like the intent: each is of the class of the intended one in its place. -/
abbrev Arranged (intent chosen : List Operation) : Prop :=
  List.Forall₂ (fun intended op => intended.alike op = true) intent chosen

/-- Operations that cover an intent hold some that can be arranged like it. -/
theorem Covers.exists_arranged (h : Covers intent observed)
    (names : ∀ op ∈ intent, op.NamesDistinct) :
    ∃ chosen others, observed.Perm (chosen ++ others) ∧ Arranged intent chosen := by
  induction intent generalizing observed with
  | nil => exact ⟨[], observed, .refl _, .nil⟩
  | cons first intent ih =>
    obtain ⟨hfirst, hrest⟩ := List.forall_mem_cons.mp names
    have hpositive : 0 < observed.countP first.alike := by
      have hcount := h first List.mem_cons_self
      rw [List.countP_cons_of_pos (Operation.alike_refl hfirst)] at hcount
      omega
    obtain ⟨op, hop, hlike⟩ := List.countP_pos_iff.mp hpositive
    have hperm : observed.Perm (op :: observed.erase op) := List.perm_cons_erase hop
    have hcovers : Covers intent (observed.erase op) := by
      intro other hother
      have hcount := h other (List.mem_cons_of_mem _ hother)
      rw [hperm.countP_eq, List.countP_cons, List.countP_cons,
        Operation.alike_congr_right hfirst hlike] at hcount
      omega
    obtain ⟨chosen, others, hothers, harranged⟩ := ih hcovers hrest
    exact ⟨op :: chosen, others, hperm.trans (hothers.cons op), .cons hlike harranged⟩

/-- Operations arranged like the intent are as many of each class as are intended. -/
theorem Arranged.countP_eq {chosen : List Operation} (h : Arranged intent chosen)
    (names : ∀ op ∈ intent, op.NamesDistinct) (op : Operation) :
    chosen.countP op.alike = intent.countP op.alike := by
  induction h with
  | nil => rfl
  | @cons intended first intent chosen hlike _ ih =>
    obtain ⟨hintended, hrest⟩ := List.forall_mem_cons.mp names
    rw [List.countP_cons, List.countP_cons, ih hrest,
      Operation.alike_congr_right hintended hlike]

/-- Operations arranged like what is pending are matched one by one, and nothing stays pending. -/
theorem matchFrom_arranged {pending : Pending} {chosen : List Operation}
    (h : List.Forall₂ (fun entry op => entry.2.alike op = true) pending chosen)
    (hstatus : policy.confirmSuccess = true → ∀ op ∈ chosen, policy.accepts op.status = true)
    (index : Nat) (others : List Operation) :
    matchFrom policy index pending (chosen ++ others) =
      matchFrom policy (index + chosen.length) [] others := by
  induction h generalizing index with
  | nil => rfl
  | @cons entry op pending chosen hlike _ ih =>
    have hfine : (policy.confirmSuccess && !policy.accepts op.status) = false := by
      by_cases hconfirm : policy.confirmSuccess = true
      · simp [hstatus hconfirm op List.mem_cons_self]
      · simp [hconfirm]
    have hrest := ih (fun hconfirm other hother =>
      hstatus hconfirm other (List.mem_cons_of_mem _ hother)) (index + 1)
    have htake : take? op (entry :: pending) = .ok (some pending) := by
      rw [take?, Operation.fulfils_eq_alike, if_pos hlike]
    rw [List.cons_append, matchFrom, htake]
    simp only [hfine, Bool.false_eq_true, if_false]
    rw [hrest, List.length_cons, Nat.add_assoc, Nat.add_comm 1]

/-- Once nothing is pending, further operations do no harm where they are let pass. -/
theorem matchFrom_nil (hpassed : policy.refuseExtra = true → observed = []) (index : Nat) :
    matchFrom policy index [] observed = .ok [] := by
  induction observed generalizing index with
  | nil => rfl
  | cons op rest ih =>
    have hpass : ¬policy.refuseExtra = true := fun hrefuse => by cases hpassed hrefuse
    rw [matchFrom, take?]
    simp only [hpass]
    exact ih (fun hrefuse => absurd hrefuse hpass) (index + 1)

/-- The places of an intent do not change its operations. -/
theorem numbered_map_snd (intent : List Operation) : (numbered intent).map (·.2) = intent := by
  rw [numbered, List.map_map]
  exact List.zipIdx_map_fst 0 intent

/-- A check succeeds if the intended operations come first, in the order of the intent, and only
where others are let pass are there any. -/
theorem checkOperations_arranged {chosen others : List Operation} (h : Arranged intent chosen)
    (hstatus : policy.confirmSuccess = true → ∀ op ∈ chosen, policy.accepts op.status = true)
    (hpassed : policy.refuseExtra = true → others = []) :
    checkOperations policy intent (chosen ++ others) = .ok () := by
  rw [← numbered_map_snd intent, Arranged, List.forall₂_map_left_iff] at h
  rw [checkOperations, matchFrom_arranged h hstatus, matchFrom_nil hpassed]

/-- What counts and what does not are together what is observed. -/
theorem exists_counted_perm (policy : Policy) (observed : List Operation) :
    ∃ rest, observed.Perm (counted policy observed ++ rest) := by
  rw [counted]
  split
  · exact ⟨_, (List.filter_append_perm _ observed).symm⟩
  · exact ⟨[], by simp⟩

/-- A passable check succeeds in some order of the observed operations. -/
theorem Passable.exists_perm (h : Passable policy intent observed)
    (names : ∀ op ∈ intent, op.NamesDistinct) :
    ∃ other, observed.Perm other ∧ checkOperations policy intent other = .ok () := by
  obtain ⟨chosen, others, hchosen, harranged⟩ := h.covered.exists_arranged names
  obtain ⟨rest, hrest⟩ := exists_counted_perm policy observed
  have hperm : observed.Perm (chosen ++ (others ++ rest)) := by
    rw [← List.append_assoc]
    exact hrest.trans (hchosen.append_right rest)
  refine ⟨_, hperm,
    checkOperations_arranged harranged (fun hconfirm op hop => ?_) fun hrefuse => ?_⟩
  · have hcounted : op ∈ counted policy observed :=
      hchosen.mem_iff.mpr (List.mem_append_left _ hop)
    rw [counted, if_pos hconfirm] at hcounted
    exact (List.mem_filter.mp hcounted).2
  · -- what is arranged is as much as is intended, so nothing else of an intended class is left
    refine List.eq_nil_iff_forall_not_mem.mpr fun op hop => ?_
    obtain ⟨hdemand, hcount⟩ :=
      h.within hrefuse op (hperm.mem_iff.mpr (List.mem_append_right _ hop))
    obtain ⟨intended, hintended, hlike⟩ := List.countP_pos_iff.mp hdemand
    have hnames : intended.NamesDistinct := names intended hintended
    have hmore : 0 < (others ++ rest).countP intended.alike :=
      List.countP_pos_iff.mpr ⟨op, hop, hlike⟩
    rw [← funext (Operation.alike_congr hnames hlike), hperm.countP_eq, List.countP_append,
      harranged.countP_eq names, countP_alike_eq_demand names hnames hlike] at hcount
    omega

/-! ## An order in which a check fails -/

/-- An observed operation that cannot be compared with an intended one is stuck if both come
first. -/
theorem stuck_of_first {intended op : Operation} (h : intended.comparable op = false)
    (intent observed : List Operation) : Stuck (intended :: intent) (op :: observed) 0 :=
  ⟨op, rfl, 0, intended, rfl, h, by simp [rank], by simp [demand]⟩

/-- Where there is a hazard, a check fails in some order. -/
theorem Hazard.exists_perm (h : Hazard policy intent observed)
    (names : ∀ op ∈ intent, op.NamesDistinct) :
    ∃ intent' observed', intent.Perm intent' ∧ observed.Perm observed' ∧
      checkOperations policy intent' observed' ≠ .ok () := by
  cases h with
  | @failed op asked hop hdemand hstatus =>
    refine ⟨intent, _, .refl _, List.perm_cons_erase hop, fun hcheck => ?_⟩
    obtain ⟨-, -, -, hsucceed⟩ := (checkOperations_eq_ok_iff names).mp hcheck
    have hmatched := hsucceed asked 0 op rfl hdemand
    rw [hstatus] at hmatched
    cases hmatched
  | @incomparable intended op hintended hop h =>
    have hperm := List.perm_cons_erase hintended
    refine ⟨_, _, hperm, List.perm_cons_erase hop, fun hcheck => ?_⟩
    obtain ⟨hlegible, -⟩ := (checkOperations_eq_ok_iff fun other hother =>
      names other (hperm.mem_iff.mpr hother)).mp hcheck
    exact hlegible 0 (stuck_of_first h _ _)

/-! ## The order of a check -/

/-- The order of the intent is not significant to a check, whatever is asked for, if all operations
can be compared. -/
theorem checkOperations_perm_intent (names : ∀ op ∈ intent, op.NamesDistinct)
    (hcompared : Comparable intent observed) (hintent : intent.Perm intent') :
    checkOperations policy intent observed = .ok () ↔
      checkOperations policy intent' observed = .ok () := by
  have names' : ∀ op ∈ intent', op.NamesDistinct := fun op hop =>
    names op (hintent.mem_iff.mpr hop)
  have hlegible : Legible intent observed ↔ Legible intent' observed :=
    iff_of_true hcompared.legible (hcompared.perm hintent (.refl _)).legible
  have hcovers : Covers intent observed ↔ Covers intent' observed :=
    ⟨fun h => h.perm hintent (.refl _), fun h => h.perm hintent.symm (.refl _)⟩
  have hwithin : Within intent observed ↔ Within intent' observed :=
    ⟨fun h => h.perm hintent (.refl _), fun h => h.perm hintent.symm (.refl _)⟩
  have hmatched :
      MatchedSucceed policy intent observed ↔ MatchedSucceed policy intent' observed := by
    simp only [MatchedSucceed, demand_perm hintent]
  rw [checkOperations_eq_ok_iff names, checkOperations_eq_ok_iff names', hlegible, hcovers,
    hwithin, hmatched]

/-- Where order does not matter, both lists may be in any. -/
theorem checkOperations_perm (names : ∀ op ∈ intent, op.NamesDistinct)
    (horder : ¬OrderMatters policy intent observed) (hintent : intent.Perm intent')
    (hobserved : observed.Perm observed') :
    checkOperations policy intent observed = .ok () ↔
      checkOperations policy intent' observed' = .ok () := by
  have names' : ∀ op ∈ intent', op.NamesDistinct := fun op hop =>
    names op (hintent.mem_iff.mpr hop)
  by_cases hpassable : Passable policy intent observed
  · have hsafe : ¬Hazard policy intent observed := fun h => horder ⟨hpassable, h⟩
    have hsafe' : ¬Hazard policy intent' observed' := fun h =>
      hsafe (h.perm hintent.symm hobserved.symm)
    exact iff_of_true (checkOperations_eq_ok_of_not_hazard names hpassable hsafe)
      (checkOperations_eq_ok_of_not_hazard names' (hpassable.perm hintent hobserved) hsafe')
  · refine iff_of_false (fun h => hpassable (passable_of_ok names h)) fun h => ?_
    exact hpassable ((passable_of_ok names' h).perm hintent.symm hobserved.symm)

/-- The order of the intent is not significant to a check if all operations can be compared. The
order of both lists is significant in one case only: where the operations that count cover the
intent and nothing that is refused goes beyond it, although an operation of an intended class has
failed where success is asked for, or two operations cannot be compared. -/
theorem checkOperations_perm_iff (policy : Policy) (names : ∀ op ∈ intent, op.NamesDistinct)
    (observed : List Operation) :
    (Comparable intent observed → ∀ intent', intent.Perm intent' →
      (checkOperations policy intent observed = .ok () ↔
        checkOperations policy intent' observed = .ok ())) ∧
    ((∀ intent' observed', intent.Perm intent' → observed.Perm observed' →
      (checkOperations policy intent observed = .ok () ↔
        checkOperations policy intent' observed' = .ok ())) ↔
      ¬OrderMatters policy intent observed) := by
  refine ⟨fun hcompared intent' => checkOperations_perm_intent names hcompared, ?_, ?_⟩
  · intro hsame hmatters
    obtain ⟨other, hother, hsucceeds⟩ := hmatters.passable.exists_perm names
    obtain ⟨intent', observed', hintent, hobserved, hfails⟩ := hmatters.hazard.exists_perm names
    have hok := (hsame intent other (.refl _) hother).mpr hsucceeds
    exact hfails ((hsame intent' observed' hintent hobserved).mp hok)
  · exact fun horder intent' observed' hintent hobserved =>
      checkOperations_perm names horder hintent hobserved

/-- In whichever order the plain intent is observed, and even if extra operations are refused and
success is asked for, the check succeeds. -/
theorem checkOperations_perm_rehearsed :
    (∀ op ∈ plainIntent, op.NamesDistinct) ∧
      checkOperations ⟨true, true, defaultStatuses⟩ plainIntent
        (plainIntent.reverse.map (happened "SUCCESS")) = .ok () := by
  have hplain : checkOperations ⟨true, true, defaultStatuses⟩ plainIntent
      (plainIntent.map (happened "SUCCESS")) = .ok () := by decide +kernel
  have horder : ¬OrderMatters ⟨true, true, defaultStatuses⟩ plainIntent
      (plainIntent.map (happened "SUCCESS")) := by
    intro h
    cases h.hazard with
    | failed _ hop _ hstatus =>
      obtain ⟨op, -, rfl⟩ := List.mem_map.mp hop
      cases hstatus
    | incomparable hintended hop h =>
      have hcompared : Comparable plainIntent (plainIntent.map (happened "SUCCESS")) := by
        decide +kernel
      rw [hcompared _ hintended _ hop] at h
      cases h
  obtain ⟨-, hsame⟩ := checkOperations_perm_iff ⟨true, true, defaultStatuses⟩
    plainIntent_namesDistinct (plainIntent.map (happened "SUCCESS"))
  have hperm : (plainIntent.map (happened "SUCCESS")).Perm
      (plainIntent.reverse.map (happened "SUCCESS")) := (List.reverse_perm _).symm.map _
  exact ⟨plainIntent_namesDistinct,
    (hsame.mpr horder plainIntent _ (.refl _) hperm).mp hplain⟩

/-- A failed operation beside a successful one of its class passes a check if it comes second, but
not if it comes first. -/
theorem checkOperations_order_matters :
    let intended := plainOperation 0 "a" "-10" none;
    let policy : Policy := ⟨false, true, defaultStatuses⟩;
    let observed := [happened "SUCCESS" intended, happened "FAILED" intended];
    observed.Perm observed.reverse ∧ checkOperations policy [intended] observed = .ok () ∧
      checkOperations policy [intended] observed.reverse =
        .error (.unsuccessful 0 (some "FAILED")) := by
  refine ⟨(List.reverse_perm _).symm, ?_, ?_⟩ <;> decide +kernel

end TransferDrill.Matching

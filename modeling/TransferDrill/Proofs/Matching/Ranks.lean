import TransferDrill.Proofs.Matching.Comparison
import TransferDrill.Proofs.Rehearsal.Plain

/-!
# Greedy matching by ranks

The rank of an operation is the number of operations before it in its list that are like it. Greedy
matching pairs the operations of each class by rank, however the classes are interleaved: an
observed operation finds a match exactly if its rank is below the number of intended ones like it,
and an intended one stays pending exactly if its rank is not below the number of observed ones. So
the outcome of a check, its fault included, can be read off the ranks, and so can the comparisons
that are made on the way.
-/

namespace TransferDrill.Matching

open Rehearsal

/-- The rank of an operation at a place: how many operations before it are like it. -/
def rank (ops : List Operation) (index : Nat) (op : Operation) : Nat :=
  (ops.take index).countP op.alike

/-- How many intended operations are like an observed one. -/
def demand (intent : List Operation) (observed : Operation) : Nat :=
  intent.countP (·.alike observed)

/-- The demand in two parts of an intent adds up. -/
theorem demand_append (first second : List Operation) (observed : Operation) :
    demand (first ++ second) observed = demand first observed + demand second observed :=
  List.countP_append

/-- One more intended operation is in demand once more or not at all. -/
theorem demand_concat (intent : List Operation) (op observed : Operation) :
    demand (intent ++ [op]) observed =
      demand intent observed + if op.alike observed then 1 else 0 := by
  rw [demand_append, demand, demand, List.countP_singleton]

/-- An intended operation at a place is in the way of an observed one at a place: it is still
pending, no pending one before it is like the observed one, and the two cannot be compared. -/
structure Blocks (intent observed : List Operation) (index place : Nat) (op intended : Operation) :
    Prop where
  incomparable : intended.comparable op = false
  pending : (observed.take index).countP intended.alike ≤ rank intent place intended
  reached : demand (intent.take place) op ≤ rank observed index op

/-- Some intended operation is in the way of the observed one at a place. -/
def Stuck (intent observed : List Operation) (index : Nat) : Prop :=
  ∃ op, observed[index]? = some op ∧ ∃ place intended, intent[place]? = some intended ∧
    Blocks intent observed index place op intended

/-- No observed operation is stuck. -/
def Legible (intent observed : List Operation) : Prop :=
  ∀ index, ¬Stuck intent observed index

/-- Operations that can all be compared are never in the way of each other. -/
theorem Comparable.legible {intent observed : List Operation} (h : Comparable intent observed) :
    Legible intent observed := by
  rintro index ⟨op, hop, place, intended, hintended, hblocks⟩
  have hcompared := h intended (List.mem_of_getElem? hintended) op (List.mem_of_getElem? hop)
  rw [hblocks.incomparable] at hcompared
  cases hcompared

/-- What is wrong with the observed operation at a place: an intended one is in its way, or it is
matched, but its status does not count as success, or there is nothing left to match it with and
extra operations are refused. -/
inductive Bad (policy : Policy) (intent observed : List Operation) (index : Nat) :
    OperationsFault → Prop
  | overlong (hstuck : Stuck intent observed index) : Bad policy intent observed index .overlong
  | unsuccessful {op : Operation} (hop : observed[index]? = some op)
      (hclear : ¬Stuck intent observed index) (hconfirm : policy.confirmSuccess = true)
      (hmatched : rank observed index op < demand intent op)
      (hstatus : policy.accepts op.status = false) :
      Bad policy intent observed index (.unsuccessful index op.status)
  | extra {op : Operation} (hop : observed[index]? = some op)
      (hclear : ¬Stuck intent observed index) (hrefuse : policy.refuseExtra = true)
      (hextra : demand intent op ≤ rank observed index op) :
      Bad policy intent observed index (.extra index op.kind)

/-- Something is wrong at a place, and nothing is wrong before it. -/
def FirstBad (policy : Policy) (intent observed : List Operation) (index : Nat)
    (fault : OperationsFault) : Prop :=
  Bad policy intent observed index fault ∧
    ∀ earlier < index, ∀ other, ¬Bad policy intent observed earlier other

/-- The places of the intent, in ascending order, whose operations have a rank that is not below the
number of observed operations like them. -/
def unmet (intent observed : List Operation) : List Nat :=
  (List.range intent.length).filter fun index =>
    intent[index]?.any fun op => observed.countP op.alike ≤ rank intent index op

/-! ## Ranks -/

section Places

variable {α : Type} {p : α → Bool} {items : List α}

/-- Below their number, every rank among the items of a kind is taken. -/
theorem exists_countP_take_eq {count : Nat} (h : count < items.countP p) :
    ∃ index item, items[index]? = some item ∧ p item = true ∧
      (items.take index).countP p = count := by
  induction items generalizing count with
  | nil => simp at h
  | cons item items ih =>
    by_cases hitem : p item = true
    · cases count with
      | zero => exact ⟨0, item, rfl, hitem, rfl⟩
      | succ count =>
        rw [List.countP_cons_of_pos hitem] at h
        obtain ⟨index, found, hfound, hkind, hcount⟩ := ih (Nat.succ_lt_succ_iff.mp h)
        refine ⟨index + 1, found, hfound, hkind, ?_⟩
        rw [List.take_succ_cons, List.countP_cons_of_pos hitem, hcount]
    · rw [List.countP_cons_of_neg hitem] at h
      obtain ⟨index, found, hfound, hkind, hcount⟩ := ih h
      refine ⟨index + 1, found, hfound, hkind, ?_⟩
      rw [List.take_succ_cons, List.countP_cons_of_neg hitem, hcount]

/-- Before an item of a kind there are fewer of them than in all. -/
theorem countP_take_lt {index : Nat} {item : α} (hitem : items[index]? = some item)
    (hkind : p item = true) : (items.take index).countP p < items.countP p := by
  obtain ⟨hindex, rfl⟩ := List.getElem?_eq_some_iff.mp hitem
  calc (items.take index).countP p
    _ < (items.take index).countP p + (items.drop index).countP p := by
        rw [List.drop_eq_getElem_cons hindex, List.countP_cons_of_pos hkind]
        omega
    _ = items.countP p := by rw [← List.countP_append, List.take_append_drop]

end Places

/-- Among operations with distinct names, those like a member of a class are those that an operation
of the class is like. -/
theorem countP_alike_eq_demand {ops : List Operation} (names : ∀ op ∈ ops, op.NamesDistinct)
    {op observed : Operation} (hop : op.NamesDistinct) (h : op.alike observed = true) :
    ops.countP op.alike = demand ops observed := by
  refine List.countP_congr fun other hother => ?_
  constructor
  · exact fun hlike => Operation.alike_trans (Operation.alike_symm hop hlike) h
  · intro hlike
    have hback : other.alike op = true :=
      Operation.alike_trans hlike (Operation.alike_symm hop h)
    exact Operation.alike_symm (names other hother) hback

/-- An operation that is intended is like itself, and those that it is like are of the same class
and as much in demand. -/
theorem class_of_demand {intent : List Operation} (names : ∀ op ∈ intent, op.NamesDistinct)
    {op : Operation} (h : 0 < demand intent op) :
    op.alike op = true ∧ ∀ other, op.alike other = true →
      other.alike = op.alike ∧ demand intent other = demand intent op := by
  obtain ⟨intended, hmem, hlike⟩ := List.countP_pos_iff.mp h
  have hintended := names intended hmem
  have hsame {other : Operation} (h : intended.alike other = true) :
      intended.alike = other.alike := funext (Operation.alike_congr hintended h)
  refine ⟨by rwa [← hsame hlike], fun other hother => ?_⟩
  rw [← hsame hlike] at hother
  constructor
  · rw [← hsame hlike, ← hsame hother]
  · rw [← countP_alike_eq_demand names hintended hlike,
      ← countP_alike_eq_demand names hintended hother]

/-- The operations that stay pending cover a class exactly if none of its ranks is unmet. -/
theorem unmet_eq_nil_iff {intent : List Operation} (names : ∀ op ∈ intent, op.NamesDistinct)
    (observed : List Operation) : unmet intent observed = [] ↔ Covers intent observed := by
  have hranks : unmet intent observed = [] ↔ ∀ index op, intent[index]? = some op →
      rank intent index op < observed.countP op.alike := by
    simp only [unmet, List.filter_eq_nil_iff, List.mem_range]
    constructor
    · intro h index op hop
      have hindex : index < intent.length := (List.getElem?_eq_some_iff.mp hop).1
      simpa [hop] using h index hindex
    · intro h index hindex
      have hlow := h index _ (List.getElem?_eq_getElem hindex)
      simpa [hindex] using hlow
  rw [hranks]
  constructor
  · intro h op hop
    -- the last operation of the class is met
    by_contra hless
    obtain ⟨index, last, hlast, hlike, hcount⟩ := exists_countP_take_eq (Nat.not_le.mp hless)
    have hclass : last.alike = op.alike :=
      (funext (Operation.alike_congr (names op hop) hlike)).symm
    have hmet := h index last hlast
    rw [rank, hclass, hcount] at hmet
    exact Nat.lt_irrefl _ hmet
  · intro h index op hop
    have hmem : op ∈ intent := List.mem_of_getElem? hop
    exact Nat.lt_of_lt_of_le (countP_take_lt hop (Operation.alike_refl (names op hmem))) (h op hmem)

/-! ## What stays pending -/

/-- What stays pending of the last part of an intent when some operations have been observed: the
operations whose rank is not below the number of those like them. -/
def pendingFrom (seen : List Operation) : (before after : List Operation) → Pending
  | _, [] => []
  | before, op :: after =>
    if seen.countP op.alike ≤ before.countP op.alike then
      (before.length, op) :: pendingFrom seen (before ++ [op]) after
    else pendingFrom seen (before ++ [op]) after

/-- As long as nothing has been observed, everything is pending. -/
theorem pendingFrom_nil (before after : List Operation) :
    pendingFrom [] before after =
      (after.zipIdx before.length).map fun entry => (entry.2, entry.1) := by
  induction after generalizing before with
  | nil => rfl
  | cons op after ih => simp [pendingFrom, ih]

/-- What stays pending are the unmet places. -/
theorem pendingFrom_map_fst (seen before after : List Operation) :
    (pendingFrom seen before after).map (·.1) =
      (List.range' before.length after.length).filter fun index =>
        (before ++ after)[index]?.any fun op =>
          seen.countP op.alike ≤ rank (before ++ after) index op := by
  induction after generalizing before with
  | nil => rfl
  | cons op after ih =>
    have hrest := ih (before ++ [op])
    rw [List.append_assoc, List.singleton_append, List.length_append,
      List.length_singleton] at hrest
    have hplace : (before ++ op :: after)[before.length]? = some op := by simp
    have hrank : rank (before ++ op :: after) before.length op = before.countP op.alike := by
      simp [rank]
    rw [List.length_cons, List.range'_succ, List.filter_cons, hplace, Option.any_some, hrank,
      ← hrest, pendingFrom]
    by_cases hpending : seen.countP op.alike ≤ before.countP op.alike <;> simp [hpending]

section Step

variable {seen before after : List Operation} {first : Operation}

/-- An operation of another class does not count another one more. -/
theorem countP_concat_of_not_alike {op : Operation} (h : ¬op.alike first = true) :
    (seen ++ [first]).countP op.alike = seen.countP op.alike := by
  simp [h]

/-- The ranks of a class, observed operations of it and intended ones alike, count on together. -/
theorem pending_of_class (names : ∀ op ∈ before, op.NamesDistinct) {op : Operation}
    (hop : op.NamesDistinct) (hclass : op.alike first = true) :
    seen.countP op.alike ≤ before.countP op.alike ↔
      seen.countP first.alike ≤ demand before first := by
  rw [countP_alike_eq_demand names hop hclass, funext (Operation.alike_congr hop hclass)]

/-- What is pending stays so when an operation is observed whose rank no pending one has. -/
theorem pendingFrom_concat_of_ne (names : ∀ op ∈ before ++ after, op.NamesDistinct)
    (h : seen.countP first.alike < demand before first ∨
      demand (before ++ after) first ≤ seen.countP first.alike) :
    pendingFrom (seen ++ [first]) before after = pendingFrom seen before after := by
  induction after generalizing before with
  | nil => rfl
  | cons op after ih =>
    rw [List.append_cons] at names h
    have hop : op.NamesDistinct := names op (by simp)
    have hbefore : ∀ b ∈ before, b.NamesDistinct := fun b hb => names b (by simp [hb])
    rw [demand_append _ after, demand_concat] at h
    have hrest := ih names (by
      rw [demand_append _ after, demand_concat]
      omega)
    have hkept : (seen ++ [first]).countP op.alike ≤ before.countP op.alike ↔
        seen.countP op.alike ≤ before.countP op.alike := by
      by_cases hclass : op.alike first = true
      · rw [pending_of_class hbefore hop hclass, pending_of_class hbefore hop hclass,
          List.countP_append, List.countP_singleton]
        simp only [hclass, if_true] at h
        split <;> omega
      · rw [countP_concat_of_not_alike hclass]
    simp only [pendingFrom, hkept, hrest]

/-- An observed operation whose rank is not below the demand finds nothing that is pending. -/
theorem pick?_pendingFrom_eq_none (names : ∀ op ∈ before ++ after, op.NamesDistinct)
    (h : demand (before ++ after) first ≤ seen.countP first.alike) :
    pick? first (pendingFrom seen before after) = none := by
  induction after generalizing before with
  | nil => rfl
  | cons op after ih =>
    rw [List.append_cons] at names h
    have hop : op.NamesDistinct := names op (by simp)
    have hbefore : ∀ b ∈ before, b.NamesDistinct := fun b hb => names b (by simp [hb])
    have hrest := ih names h
    rw [demand_append _ after, demand_concat] at h
    rw [pendingFrom]
    split
    · next hpending =>
      have hclass : ¬op.alike first = true := by
        intro hclass
        rw [pending_of_class hbefore hop hclass] at hpending
        simp only [hclass, if_true] at h
        omega
      rw [pick?, if_neg hclass, hrest]
      rfl
    · exact hrest

/-- An observed operation whose rank is below the demand picks the pending one of its rank. -/
theorem pick?_pendingFrom_eq_some (names : ∀ op ∈ before ++ after, op.NamesDistinct)
    (hseen : demand before first ≤ seen.countP first.alike)
    (h : seen.countP first.alike < demand (before ++ after) first) :
    pick? first (pendingFrom seen before after) =
      some (pendingFrom (seen ++ [first]) before after) := by
  induction after generalizing before with
  | nil =>
    rw [List.append_nil] at h
    omega
  | cons op after ih =>
    rw [List.append_cons] at names h
    have hop : op.NamesDistinct := names op (by simp)
    have hbefore : ∀ b ∈ before, b.NamesDistinct := fun b hb => names b (by simp [hb])
    have hdemand := demand_concat before op first
    by_cases hclass : op.alike first = true
    · have hlike : first.alike first = true :=
        Operation.alike_trans (Operation.alike_symm hop hclass) hclass
      simp only [hclass, if_true] at hdemand
      have hcount : (seen ++ [first]).countP first.alike = seen.countP first.alike + 1 := by
        simp [hlike]
      have hlater : ¬seen.countP first.alike + 1 ≤ demand before first := by omega
      simp only [pendingFrom, pending_of_class hbefore hop hclass, hcount, hlater, if_false]
      rcases Nat.lt_or_eq_of_le hseen with hearlier | hnow
      · rw [if_neg (by omega)]
        exact ih names (by omega) h
      · -- the pending operations of the class that follow have higher ranks
        rw [if_pos (by omega), pick?, if_pos hclass,
          pendingFrom_concat_of_ne names (.inl (by omega))]
    · rw [if_neg hclass, Nat.add_zero] at hdemand
      have hrest := ih names (by omega) h
      rw [pendingFrom, pendingFrom, countP_concat_of_not_alike hclass]
      split
      · rw [pick?, if_neg hclass, hrest]
        rfl
      · exact hrest

/-- The way of an observed operation is blocked by an operation that it cannot be compared with,
that is still pending, and that none like the observed one comes before. -/
theorem blocked_pendingFrom_iff (names : ∀ op ∈ before ++ after, op.NamesDistinct)
    (hseen : demand before first ≤ seen.countP first.alike) :
    blocked first (pendingFrom seen before after) = true ↔
      ∃ place intended, after[place]? = some intended ∧ intended.comparable first = false ∧
        seen.countP intended.alike ≤ (before ++ after.take place).countP intended.alike ∧
        demand (before ++ after.take place) first ≤ seen.countP first.alike := by
  induction after generalizing before with
  | nil => simp [pendingFrom, blocked]
  | cons op after ih =>
    rw [List.append_cons] at names
    have hop : op.NamesDistinct := names op (by simp)
    have hbefore : ∀ b ∈ before, b.NamesDistinct := fun b hb => names b (by simp [hb])
    have hdemand := demand_concat before op first
    have hshift (place : Nat) :
        before ++ (op :: after).take (place + 1) = before ++ [op] ++ after.take place := by
      rw [List.take_succ_cons, List.append_cons]
    rw [← Nat.or_exists_add_one]
    simp only [List.getElem?_cons_zero, List.getElem?_cons_succ, List.take_zero, List.append_nil,
      hshift, Option.some.injEq, exists_eq_left', pendingFrom]
    by_cases hclass : op.alike first = true
    · have hcomparable := Operation.comparable_of_alike hclass
      simp only [hclass, if_true] at hdemand
      by_cases hpending : seen.countP op.alike ≤ before.countP op.alike
      · -- the operation is picked, and what comes after it is not reached
        have hbeyond (place : Nat) : ¬demand (before ++ [op] ++ after.take place) first ≤
            seen.countP first.alike := by
          have hrank := (pending_of_class hbefore hop hclass).mp hpending
          rw [demand_append]
          omega
        simp only [hbeyond, and_false, exists_false]
        simp [hpending, blocked, hclass, hcomparable]
      · have hrank := mt (pending_of_class hbefore hop hclass).mpr hpending
        rw [if_neg hpending, ih names (by omega)]
        simp [hcomparable]
    · rw [if_neg hclass, Nat.add_zero] at hdemand
      have hrest := ih names (by omega)
      by_cases hpending : seen.countP op.alike ≤ before.countP op.alike
      · simp [hpending, blocked, hclass, hrest, hseen]
      · simp [hpending, hrest]

end Step

/-! ## The check -/

section Check

variable {policy : Policy} {intent observed : List Operation}

/-- Nothing is wrong beyond the end. -/
theorem Bad.lt_length {index : Nat} {fault : OperationsFault}
    (h : Bad policy intent observed index fault) : index < observed.length := by
  cases h with
  | overlong hstuck =>
    obtain ⟨op, hop, -⟩ := hstuck
    exact (List.getElem?_eq_some_iff.mp hop).1
  | unsuccessful hop => exact (List.getElem?_eq_some_iff.mp hop).1
  | extra hop => exact (List.getElem?_eq_some_iff.mp hop).1

/-- The operation that is stuck at the place after some others is the next one: its way through what
is pending then is blocked. -/
theorem stuck_iff (names : ∀ op ∈ intent, op.NamesDistinct) {seen rest : List Operation}
    {first : Operation} : Stuck intent (seen ++ first :: rest) seen.length ↔
      blocked first (pendingFrom seen [] intent) = true := by
  have hplace : (seen ++ first :: rest)[seen.length]? = some first := by simp
  have htake : (seen ++ first :: rest).take seen.length = seen := List.take_left
  rw [blocked_pendingFrom_iff names (Nat.zero_le _)]
  constructor
  · rintro ⟨op, hop, place, intended, hintended, hblocks⟩
    obtain rfl := Option.some.inj (hplace.symm.trans hop)
    have hpending := hblocks.pending
    have hreached := hblocks.reached
    rw [htake] at hpending
    rw [rank, htake] at hreached
    exact ⟨place, intended, hintended, hblocks.incomparable, hpending, hreached⟩
  · rintro ⟨place, intended, hintended, hincomparable, hpending, hreached⟩
    exact ⟨first, hplace, place, intended, hintended, hincomparable, by rwa [htake],
      by rwa [rank, htake]⟩

/-- The operation that is wrong at the place after some others is the next one, and its rank is the
number of those like it. -/
theorem bad_iff {seen rest : List Operation} {first : Operation} {fault : OperationsFault} :
    Bad policy intent (seen ++ first :: rest) seen.length fault ↔
      (Stuck intent (seen ++ first :: rest) seen.length ∧ fault = .overlong) ∨
      ¬Stuck intent (seen ++ first :: rest) seen.length ∧
        ((policy.confirmSuccess = true ∧ seen.countP first.alike < demand intent first ∧
          policy.accepts first.status = false ∧
          fault = .unsuccessful seen.length first.status) ∨
        (policy.refuseExtra = true ∧ demand intent first ≤ seen.countP first.alike ∧
          fault = .extra seen.length first.kind)) := by
  have hplace : (seen ++ first :: rest)[seen.length]? = some first := by simp
  have hrank : rank (seen ++ first :: rest) seen.length first = seen.countP first.alike := by
    simp [rank]
  constructor
  · intro h
    cases h with
    | overlong hstuck => exact .inl ⟨hstuck, rfl⟩
    | unsuccessful hop hclear hconfirm hmatched hstatus =>
      obtain rfl := Option.some.inj (hplace.symm.trans hop)
      exact .inr ⟨hclear, .inl ⟨hconfirm, hrank ▸ hmatched, hstatus, rfl⟩⟩
    | extra hop hclear hrefuse hextra =>
      obtain rfl := Option.some.inj (hplace.symm.trans hop)
      exact .inr ⟨hclear, .inr ⟨hrefuse, hrank ▸ hextra, rfl⟩⟩
  · intro h
    rcases h with ⟨hstuck, rfl⟩ |
      ⟨hclear, ⟨hconfirm, hmatched, hstatus, rfl⟩ | ⟨hrefuse, hextra, rfl⟩⟩
    · exact .overlong hstuck
    · exact .unsuccessful hplace hclear hconfirm (hrank.symm ▸ hmatched) hstatus
    · exact .extra hplace hclear hrefuse (hrank.symm ▸ hextra)

/-- The next observed operation: something is wrong with it and ends the matching, or nothing is and
the matching goes on with what then stays pending. -/
theorem matchFrom_step (policy : Policy) (names : ∀ op ∈ intent, op.NamesDistinct)
    (seen : List Operation) (first : Operation) (rest : List Operation) :
    (∃ fault, Bad policy intent (seen ++ first :: rest) seen.length fault ∧
      matchFrom policy seen.length (pendingFrom seen [] intent) (first :: rest) = .error fault) ∨
    ((∀ fault, ¬Bad policy intent (seen ++ first :: rest) seen.length fault) ∧
      matchFrom policy seen.length (pendingFrom seen [] intent) (first :: rest) =
        matchFrom policy (seen.length + 1) (pendingFrom (seen ++ [first]) [] intent) rest) := by
  rw [matchFrom, take?_eq]
  by_cases hstuck : Stuck intent (seen ++ first :: rest) seen.length
  · rw [if_pos ((stuck_iff names).mp hstuck)]
    exact .inl ⟨_, .overlong hstuck, rfl⟩
  rw [if_neg (mt (stuck_iff names).mpr hstuck)]
  by_cases hmatched : seen.countP first.alike < demand intent first
  · have hpick : pick? first (pendingFrom seen [] intent) =
        some (pendingFrom (seen ++ [first]) [] intent) :=
      pick?_pendingFrom_eq_some names (Nat.zero_le _) hmatched
    rw [hpick]
    by_cases hstatus : (policy.confirmSuccess && !policy.accepts first.status) = true
    · refine .inl ⟨.unsuccessful seen.length first.status, ?_, by simp only [hstatus, if_true]⟩
      simp only [Bool.and_eq_true, Bool.not_eq_true'] at hstatus
      exact bad_iff.mpr (.inr ⟨hstuck, .inl ⟨hstatus.1, hmatched, hstatus.2, rfl⟩⟩)
    · refine .inr ⟨fun fault h => ?_, by simp only [hstatus]; rfl⟩
      rcases bad_iff.mp h with ⟨hstuck', -⟩ | ⟨-, ⟨hconfirm, -, hrefused, -⟩ | ⟨-, hextra, -⟩⟩
      · exact hstuck hstuck'
      · exact hstatus (by simp [hconfirm, hrefused])
      · omega
  · rw [Nat.not_lt] at hmatched
    have hpick : pick? first (pendingFrom seen [] intent) = none :=
      pick?_pendingFrom_eq_none names hmatched
    have hsame : pendingFrom (seen ++ [first]) [] intent = pendingFrom seen [] intent :=
      pendingFrom_concat_of_ne names (.inr hmatched)
    rw [hpick, hsame]
    by_cases hrefuse : policy.refuseExtra = true
    · refine .inl ⟨.extra seen.length first.kind, ?_, by simp only [hrefuse, if_true]⟩
      exact bad_iff.mpr (.inr ⟨hstuck, .inr ⟨hrefuse, hmatched, rfl⟩⟩)
    · refine .inr ⟨fun fault h => ?_, by simp only [hrefuse]; rfl⟩
      rcases bad_iff.mp h with ⟨hstuck', -⟩ | ⟨-, ⟨-, hless, -⟩ | ⟨hextra, -⟩⟩
      · exact hstuck hstuck'
      · omega
      · exact hrefuse hextra

/-- Matching ends with the first thing that is wrong, or leaves what has a rank that is not
observed. -/
theorem matchFrom_eq (policy : Policy) (names : ∀ op ∈ intent, op.NamesDistinct)
    (seen rest : List Operation)
    (hseen : ∀ earlier < seen.length, ∀ fault, ¬Bad policy intent (seen ++ rest) earlier fault) :
    (∃ index fault, FirstBad policy intent (seen ++ rest) index fault ∧
      matchFrom policy seen.length (pendingFrom seen [] intent) rest = .error fault) ∨
    ((∀ index fault, ¬Bad policy intent (seen ++ rest) index fault) ∧
      matchFrom policy seen.length (pendingFrom seen [] intent) rest =
        .ok (pendingFrom (seen ++ rest) [] intent)) := by
  induction rest generalizing seen with
  | nil =>
    rw [List.append_nil] at hseen ⊢
    exact .inr ⟨fun index fault h => hseen index h.lt_length fault h, rfl⟩
  | cons first rest ih =>
    rcases matchFrom_step policy names seen first rest with
      ⟨fault, hbad, herror⟩ | ⟨hfine, hgoOn⟩
    · exact .inl ⟨_, fault, ⟨hbad, hseen⟩, herror⟩
    · have hnext := ih (seen ++ [first])
      rw [List.append_assoc, List.singleton_append, List.length_append,
        List.length_singleton] at hnext
      rw [hgoOn]
      refine hnext fun earlier hearlier => ?_
      rcases Nat.lt_or_eq_of_le (Nat.le_of_lt_succ hearlier) with hbefore | rfl
      · exact hseen earlier hbefore
      · exact hfine

/-- At first nothing has been observed, and the whole intent is pending. -/
theorem numbered_eq (intent : List Operation) : numbered intent = pendingFrom [] [] intent := by
  rw [pendingFrom_nil, numbered, List.length_nil]

/-- A check reports the first thing that is wrong, else what is unmet, else nothing. -/
theorem checkOperations_cases (policy : Policy) (names : ∀ op ∈ intent, op.NamesDistinct)
    (observed : List Operation) :
    (∃ index fault, FirstBad policy intent observed index fault ∧
      checkOperations policy intent observed = .error fault) ∨
    ((∀ index fault, ¬Bad policy intent observed index fault) ∧
      checkOperations policy intent observed =
        if unmet intent observed = [] then .ok ()
        else .error (.missing (unmet intent observed))) := by
  have hunmet : (pendingFrom observed [] intent).map (·.1) = unmet intent observed := by
    rw [pendingFrom_map_fst, unmet, List.range_eq_range']
    rfl
  rw [checkOperations, numbered_eq]
  rcases matchFrom_eq policy names [] observed nofun with
    ⟨index, fault, hfirst, herror⟩ | ⟨hfine, hleft⟩
  · refine .inl ⟨index, fault, hfirst, ?_⟩
    rw [List.length_nil] at herror
    rw [herror]
  · refine .inr ⟨hfine, ?_⟩
    rw [List.length_nil, List.nil_append] at hleft
    rw [hleft, ← hunmet]
    cases pendingFrom observed [] intent <;> rfl

/-- Every observed operation is intended, and no class is observed more often than intended. -/
def Within (intent observed : List Operation) : Prop :=
  ∀ op ∈ observed, 0 < demand intent op ∧ observed.countP op.alike ≤ demand intent op

/-- Every observed operation is matched exactly if there are none beyond the intent. -/
theorem forall_rank_lt_iff (names : ∀ op ∈ intent, op.NamesDistinct) :
    (∀ index op, observed[index]? = some op → rank observed index op < demand intent op) ↔
      Within intent observed := by
  constructor
  · intro h op hop
    obtain ⟨index, hindex⟩ := List.mem_iff_getElem?.mp hop
    have hdemand : 0 < demand intent op := Nat.zero_lt_of_lt (h index op hindex)
    refine ⟨hdemand, ?_⟩
    -- the last operation of the class is matched
    by_contra hmore
    obtain ⟨place, last, hlast, hlike, hcount⟩ := exists_countP_take_eq (Nat.not_le.mp hmore)
    obtain ⟨hclass, hsame⟩ := (class_of_demand names hdemand).2 last hlike
    have hmatched := h place last hlast
    rw [rank, hclass, hcount, hsame] at hmatched
    exact Nat.lt_irrefl _ hmatched
  · intro h index op hop
    obtain ⟨hdemand, hcount⟩ := h op (List.mem_of_getElem? hop)
    exact Nat.lt_of_lt_of_le (countP_take_lt hop (class_of_demand names hdemand).1) hcount

/-- Every observed operation that is matched has a status that counts as success. -/
def MatchedSucceed (policy : Policy) (intent observed : List Operation) : Prop :=
  ∀ index op, observed[index]? = some op → rank observed index op < demand intent op →
    policy.accepts op.status = true

/-- Nothing is wrong exactly if nothing is stuck, nothing extra is to be refused and nothing is
unsuccessful. -/
theorem forall_not_bad_iff (names : ∀ op ∈ intent, op.NamesDistinct) :
    (∀ index fault, ¬Bad policy intent observed index fault) ↔ Legible intent observed ∧
      (policy.refuseExtra = true → Within intent observed) ∧
        (policy.confirmSuccess = true → MatchedSucceed policy intent observed) := by
  rw [← forall_rank_lt_iff names]
  constructor
  · intro h
    have hlegible : Legible intent observed := fun index hstuck => h index _ (.overlong hstuck)
    refine ⟨hlegible, fun hrefuse index op hop => ?_, fun hconfirm index op hop hmatched => ?_⟩
    · by_contra hextra
      exact h index _ (.extra hop (hlegible index) hrefuse (Nat.not_lt.mp hextra))
    · by_contra hstatus
      exact h index _
        (.unsuccessful hop (hlegible index) hconfirm hmatched (by simpa using hstatus))
  · rintro ⟨hlegible, hwithin, hsucceed⟩ index fault hbad
    cases hbad with
    | overlong hstuck => exact hlegible index hstuck
    | unsuccessful hop hclear hconfirm hmatched hstatus =>
      rw [hsucceed hconfirm index _ hop hmatched] at hstatus
      cases hstatus
    | extra hop hclear hrefuse hextra =>
      exact Nat.not_lt.mpr hextra (hwithin hrefuse index _ hop)

/-- A check succeeds exactly if the observed operations are legible, cover the intent and, where
this is asked for, do not go beyond it and have succeeded as far as they are matched. -/
theorem checkOperations_eq_ok_iff (names : ∀ op ∈ intent, op.NamesDistinct) :
    checkOperations policy intent observed = .ok () ↔
      Legible intent observed ∧ Covers intent observed ∧
      (policy.refuseExtra = true → Within intent observed) ∧
        (policy.confirmSuccess = true → MatchedSucceed policy intent observed) := by
  rw [← unmet_eq_nil_iff names, and_left_comm, ← forall_not_bad_iff names]
  rcases checkOperations_cases policy names observed with
    ⟨index, fault, hfirst, herror⟩ | ⟨hfine, hcheck⟩
  · rw [herror]
    exact ⟨nofun, fun h => absurd hfirst.1 (h.2 index fault)⟩
  · rw [hcheck]
    by_cases hmet : unmet intent observed = [] <;> simp [hmet, hfine]

/-- The lenient check of operations decides whether the observed ones are legible and cover the
intent. -/
theorem checkOperations_lenient_iff (names : ∀ op ∈ intent, op.NamesDistinct)
    (observed : List Operation) :
    checkOperations .lenient intent observed = .ok () ↔
      Legible intent observed ∧ Covers intent observed := by
  simp [checkOperations_eq_ok_iff names, Policy.lenient]

/-- The check of operations, decided by ranks. If something is wrong with an observed operation, the
first such thing is reported; otherwise the unmet places of the intent are reported, if there are
any. So a check succeeds exactly if no comparison is in the way, the observed operations cover the
intent and, where this is asked for, do not go beyond it and have succeeded as far as they are
matched. -/
theorem checkOperations_byRanks (policy : Policy) (names : ∀ op ∈ intent, op.NamesDistinct)
    (observed : List Operation) :
    ((∃ index fault, Bad policy intent observed index fault) →
      ∃ index fault, FirstBad policy intent observed index fault ∧
        checkOperations policy intent observed = .error fault) ∧
    ((∀ index fault, ¬Bad policy intent observed index fault) →
      checkOperations policy intent observed =
        if unmet intent observed = [] then .ok ()
        else .error (.missing (unmet intent observed))) ∧
    (checkOperations policy intent observed = .ok () ↔
      Legible intent observed ∧ Covers intent observed ∧
        (policy.refuseExtra = true → Within intent observed) ∧
          (policy.confirmSuccess = true → MatchedSucceed policy intent observed)) := by
  refine ⟨fun hbad => ?_, fun hfine => ?_, checkOperations_eq_ok_iff names⟩
  · rcases checkOperations_cases policy names observed with hfirst | ⟨hfine, -⟩
    · exact hfirst
    · obtain ⟨index, fault, hwrong⟩ := hbad
      exact absurd hwrong (hfine index fault)
  · rcases checkOperations_cases policy names observed with ⟨index, fault, hfirst, -⟩ | ⟨-, hcheck⟩
    · exact absurd hfirst.1 (hfine index fault)
    · exact hcheck

end Check

/-- An operation of the plain intent that has happened with a status. -/
def happened (status : String) (op : Operation) : Operation := { op with status := some status }

/-- Of interleaved operations, the first that has failed is reported, before an extra one; and of a
class that is intended twice but observed once, the second place is missing. -/
theorem checkOperations_byRanks_rehearsed :
    (∀ op ∈ plainIntent, op.NamesDistinct) ∧
      (∃ index fault,
        let observed := (plainIntent ++ plainIntent.take 1).map (happened "FAILED");
        FirstBad ⟨true, true, defaultStatuses⟩ plainIntent observed index fault ∧
          checkOperations ⟨true, true, defaultStatuses⟩ plainIntent observed = .error fault) ∧
      checkOperations .lenient plainIntent (plainIntent.drop 1) = .error (.missing [2]) := by
  refine ⟨plainIntent_namesDistinct, ?_, ?_⟩
  · let observed := (plainIntent ++ plainIntent.take 1).map (happened "FAILED")
    obtain ⟨hfirst, -⟩ :=
      checkOperations_byRanks ⟨true, true, defaultStatuses⟩ plainIntent_namesDistinct observed
    have hcompared : Comparable plainIntent observed := by decide +kernel
    exact hfirst ⟨0, _, .unsuccessful rfl (hcompared.legible 0) rfl (by decide +kernel) rfl⟩
  · obtain ⟨-, hunmet, -⟩ :=
      checkOperations_byRanks .lenient plainIntent_namesDistinct (plainIntent.drop 1)
    have hcompared : Comparable plainIntent (plainIntent.drop 1) := by decide +kernel
    have hfine : ∀ index fault, ¬Bad .lenient plainIntent (plainIntent.drop 1) index fault := by
      intro index fault h
      cases h with
      | overlong hstuck => exact hcompared.legible index hstuck
      | unsuccessful _ _ hconfirm => cases hconfirm
      | extra _ _ hrefuse => cases hrefuse
    have hplaces : unmet plainIntent (plainIntent.drop 1) = [2] := by decide +kernel
    have hcheck := hunmet hfine
    rwa [hplaces] at hcheck

/-- An operation whose account holds an integer with too many digits to be written. -/
def overlongOperation : Operation :=
  plainOperation 1 "b" "20" (some [("k", .int (10 ^ Numeral.maxDigits))])

/-- An operation whose account holds something that is not a number. -/
def undefinedOperation : Operation :=
  plainOperation 0 "a" "-10" (some [("k", .float .notANumber)])

/-- The observed operations cover the intent and nothing else is asked for, yet the check fails: the
first of them cannot be reported as different from the intended one. In the other order it succeeds.
What is not a number counts as equal to itself. -/
theorem checkOperations_overlong :
    let intended := plainOperation 0 "a" "-10" none;
    Covers [intended] [overlongOperation, intended] ∧
      checkOperations .lenient [intended] [overlongOperation, intended] = .error .overlong ∧
      checkOperations .lenient [intended] [intended, overlongOperation] = .ok () ∧
      checkOperations .lenient [undefinedOperation] [undefinedOperation] = .ok () := by
  decide +kernel

end TransferDrill.Matching

import TransferDrill.Proofs.Drive.CutOff
import TransferDrill.Proofs.Drive.Rounds
import TransferDrill.Proofs.Rehearsal.Plain

/-!
# Drives in turn

A drive carries nothing from round to round but the number of transactions made so far, and stops
at the number wanted before it asks for anything more. So to make some transactions and then others
is to make all of them at once, and a drive without a number begins like one with any number.
-/

namespace TransferDrill.Drive

open Rehearsal

variable {settings : Settings}

/-! ## More rounds -/

/-- A wait for funds with fewer rounds is one with more that may be cut off earlier. -/
theorem awaitFundsFrom_cutFrom {address : String} {rounds later : Nat} {announced : Bool}
    (h : rounds ≤ later) : (awaitFundsFrom settings address rounds announced).CutFrom
      (awaitFundsFrom settings address later announced) := by
  induction rounds generalizing later announced with
  | zero => exact .unfinished _
  | succ rounds ih =>
    obtain ⟨later, rfl⟩ := Nat.exists_eq_add_one_of_ne_zero (Nat.ne_zero_of_lt h)
    have hwait : ((Script.sleep settings.sleepTime).bind fun _ =>
        awaitFundsFrom settings address rounds true).CutFrom
        ((Script.sleep settings.sleepTime).bind fun _ =>
          awaitFundsFrom settings address later true) :=
      .bind .rfl fun _ => ih (Nat.le_of_lt_succ h)
    rw [awaitFundsFrom, awaitFundsFrom]
    refine .bind .rfl fun held => ?_
    split
    · exact .rfl
    · split
      · exact .bind .rfl fun _ => .bind .rfl fun _ => hwait
      · exact hwait

/-- Funding a new address with less patience may be cut off earlier. -/
theorem fundNewAddress_cutFrom {patience later : Nat} (h : patience ≤ later) :
    (fundNewAddress settings patience).CutFrom (fundNewAddress settings later) := by
  refine .bind .rfl fun address => ?_
  exact .bind (awaitFundsFrom_cutFrom h).reportAs fun _ => .rfl

/-- A search with less patience and fewer rounds may be cut off earlier. -/
theorem findSenderFrom_cutFrom {patience patience' rounds later : Nat} (h : patience ≤ patience')
    (hrounds : rounds ≤ later) : (findSenderFrom settings patience rounds).CutFrom
      (findSenderFrom settings patience' later) := by
  induction rounds generalizing later with
  | zero => exact .unfinished _
  | succ rounds ih =>
    obtain ⟨later, rfl⟩ := Nat.exists_eq_add_one_of_ne_zero (Nat.ne_zero_of_lt hrounds)
    have hnext := ih (Nat.le_of_lt_succ hrounds)
    have hfund : ((fundNewAddress settings patience).bind fun _ =>
        findSenderFrom settings patience rounds).CutFrom
        ((fundNewAddress settings patience').bind fun _ =>
          findSenderFrom settings patience' later) :=
      .bind (fundNewAddress_cutFrom h) fun _ => hnext
    rw [findSenderFrom, findSenderFrom]
    refine .bind .rfl fun addresses => ?_
    split
    · exact hfund
    · refine .bind .rfl fun best => ?_
      split
      · exact .rfl
      · refine .bind .rfl fun broadcasts => ?_
        split
        · exact hfund
        · exact .bind .rfl fun _ => .bind .rfl fun _ => hnext

/-- A wait after a shortage with less patience may be cut off earlier. -/
theorem awaitChange_cutFrom {patience later : Nat} {shortage : Shortage} (h : patience ≤ later) :
    (awaitChange settings patience shortage).CutFrom (awaitChange settings later shortage) := by
  refine .bind .rfl fun broadcasts => ?_
  split
  · exact .bind .rfl fun _ => fundNewAddress_cutFrom h
  · exact .rfl

/-- A round with less patience may be cut off earlier. -/
theorem round_cutFrom {patience later : Nat} (h : patience ≤ later) :
    (round settings patience).CutFrom (round settings later) := by
  refine .bind (findSenderFrom_cutFrom h h) fun sender => .bind .rfl fun result => ?_
  cases result with
  | ok transfer => exact .rfl
  | error shortage => exact .bind (awaitChange_cutFrom h) fun _ => .rfl

variable {patience : Nat} {wanted : Option Int} {rounds created : Nat}

/-- A drive with less patience and fewer rounds may be cut off earlier. -/
theorem createTransactionsFrom_cutFrom {patience' later : Nat} (h : patience ≤ patience')
    (hrounds : rounds ≤ later) :
    (createTransactionsFrom settings patience wanted rounds created).CutFrom
      (createTransactionsFrom settings patience' wanted later created) := by
  induction rounds, created using rounds_induction wanted generalizing later with
  | done rounds created henough =>
    rw [createTransactionsFrom_of_enough henough, createTransactionsFrom_of_enough henough]
  | cut created henough =>
    rw [createTransactionsFrom_zero henough]
    exact .unfinished _
  | more rounds created henough ih =>
    obtain ⟨later, rfl⟩ := Nat.exists_eq_add_one_of_ne_zero (Nat.ne_zero_of_lt hrounds)
    rw [createTransactionsFrom_succ henough, createTransactionsFrom_succ henough]
    exact .bind (round_cutFrom h) fun made => ih _ (Nat.le_of_lt_succ hrounds)

/-! ## One drive after another -/

section InTurn

variable {first : Option Int}

/-- What is not enough for a drive is not enough for one that goes on after it. -/
theorem enough_eq_false
    (h : ∀ created, enough wanted created = true → enough first created = true)
    (hfirst : enough first created = false) : enough wanted created = false := by
  rw [Bool.eq_false_iff] at hfirst ⊢
  exact fun henough => hfirst (h created henough)

/-- A drive is cut from one that makes enough for another drive first and goes on from there. -/
theorem createTransactionsFrom_cutFrom_bind
    (h : ∀ created, enough wanted created = true → enough first created = true) :
    (createTransactionsFrom settings patience wanted rounds created).CutFrom
      ((createTransactionsFrom settings patience first rounds created).bind
        (createTransactionsFrom settings patience wanted rounds)) := by
  induction rounds, created using rounds_induction first with
  | done rounds created hfirst => rw [createTransactionsFrom_of_enough hfirst, Script.done_bind]
  | cut created hfirst =>
    rw [createTransactionsFrom_zero (enough_eq_false h hfirst)]
    exact .unfinished _
  | more rounds created hfirst ih =>
    rw [createTransactionsFrom_succ (enough_eq_false h hfirst),
      createTransactionsFrom_succ hfirst, Script.bind_assoc]
    refine .bind .rfl fun made => (ih _).trans (.bind .rfl fun reached => ?_)
    exact createTransactionsFrom_cutFrom (Nat.le_refl _) (Nat.le_succ rounds)

/-- A drive that makes enough for another one first and goes on from there is cut from one that
makes as many without a break. -/
theorem bind_cutFrom_createTransactionsFrom
    (h : ∀ created, enough wanted created = true → enough first created = true) (later : Nat) :
    ((createTransactionsFrom settings patience first rounds created).bind
        (createTransactionsFrom settings patience wanted later)).CutFrom
      (createTransactionsFrom settings patience wanted (rounds + later) created) := by
  induction rounds, created using rounds_induction first with
  | done rounds created hfirst =>
    rw [createTransactionsFrom_of_enough hfirst, Script.done_bind]
    exact createTransactionsFrom_cutFrom (Nat.le_refl _) (Nat.le_add_left later _)
  | cut created hfirst =>
    rw [createTransactionsFrom_zero hfirst]
    exact .unfinished _
  | more rounds created hfirst ih =>
    rw [Nat.succ_add, createTransactionsFrom_succ (enough_eq_false h hfirst),
      createTransactionsFrom_succ hfirst, Script.bind_assoc]
    exact .bind .rfl fun made => ih _

end InTurn

/-- A drive that starts with some transactions made makes as many fewer, and counts them in. -/
theorem createTransactionsFrom_add (count : Int) (made : Nat) :
    createTransactionsFrom settings patience (some count) rounds (made + created) =
      (createTransactionsFrom settings patience (some (count - made)) rounds created).bind
        fun more => .done (made + more) := by
  have hsame (created : Nat) :
      enough (some count) (made + created) = enough (some (count - made)) created := by
    simp only [enough, Option.any_some, decide_eq_decide]
    omega
  induction rounds, created using rounds_induction (some (count - made)) with
  | done rounds created henough =>
    rw [createTransactionsFrom_of_enough henough,
      createTransactionsFrom_of_enough ((hsame created).trans henough), Script.done_bind]
  | cut created henough =>
    rw [createTransactionsFrom_zero henough,
      createTransactionsFrom_zero ((hsame created).trans henough), Script.unfinished_bind]
  | more rounds created henough ih =>
    rw [createTransactionsFrom_succ henough,
      createTransactionsFrom_succ ((hsame created).trans henough), Script.bind_assoc]
    congr 1
    funext one
    rw [Nat.add_assoc]
    exact ih _

/-- Make some transactions and then, if that was done, others. -/
def createInTurn (settings : Settings) (patience : Nat) (first second : Option Int) :
    Script Nat := do
  let made ← createTransactions settings patience first
  let more ← createTransactions settings patience second
  return made + more

/-- What is made in turn is made by one drive that goes on from the other. -/
theorem createInTurn_eq {first count : Int} (hfirst : 0 ≤ first) :
    createInTurn settings patience (some first) (some (count - first)) =
      (createTransactions settings patience (some first)).bind
        (createTransactionsFrom settings patience (some count) patience) := by
  have hreturns : (createTransactions settings patience (some first)).ReturnsOnly
      fun made => ∃ count, some first = some count ∧ made = count.toNat :=
    createTransactionsFrom_returnsOnly fun _ _ => Nat.zero_le _
  refine hreturns.bind_congr ?_
  intro made h
  obtain ⟨_, hcount, rfl⟩ := h
  cases hcount
  have hadd : createTransactionsFrom settings patience (some count) patience (first.toNat + 0) =
      (createTransactionsFrom settings patience (some (count - first.toNat)) patience 0).bind
        fun more => .done (first.toNat + more) := createTransactionsFrom_add count first.toNat
  rw [Nat.add_zero, Int.toNat_of_nonneg hfirst] at hadd
  exact hadd.symm

/-- Making some transactions and then the rest cannot be told apart from making all of them at
once: not by what is asked for and answered, the last state or the outcome, and not where it never
ends. A run that makes a number of transactions is the beginning of one without a number. -/
theorem createTransactions_inTurn (settings : Settings) {first count : Int} (hfirst : 0 ≤ first)
    (hcount : first ≤ count) :
    SameRuns (fun patience => createTransactions settings patience (some count))
        (fun patience => createInTurn settings patience (some first) (some (count - first))) ∧
      ∀ {σ : Type} (answer : Environment σ) (start : σ) (run : Run σ Nat),
        EndsIn (fun patience => createTransactions settings patience (some count)) answer start
          run →
        GoesAlong (fun patience => createTransactions settings patience none) answer start
          run.events := by
  constructor
  · have henough : ∀ created, enough (some count) created = true →
        enough (some first) created = true := by
      intro created h
      simp only [enough, Option.any_some, decide_eq_true_eq] at h ⊢
      omega
    refine .of_cutFrom ?_ ?_
    · intro rounds
      refine ⟨rounds, ?_⟩
      rw [createInTurn_eq hfirst]
      exact createTransactionsFrom_cutFrom_bind henough
    · intro rounds
      refine ⟨rounds + rounds, ?_⟩
      rw [createInTurn_eq hfirst]
      exact (bind_cutFrom_createTransactionsFrom henough rounds).trans
        (createTransactionsFrom_cutFrom (Nat.le_add_left ..) (Nat.le_refl _))
  · intro σ answer start run hends
    obtain ⟨rounds, rfl, -⟩ := hends
    have hcut : ((createTransactions settings rounds (some count)).bind
        (createTransactionsFrom settings rounds none rounds)).CutFrom
        (createTransactions settings (rounds + rounds) none) :=
      (bind_cutFrom_createTransactionsFrom (fun _ h => by simp [enough] at h) rounds).trans
        (createTransactionsFrom_cutFrom (Nat.le_add_left ..) (Nat.le_refl _))
    exact ⟨rounds + rounds, (Script.events_prefix_bind answer _ _ start).trans
      (hcut.events_prefix answer start)⟩

/-- In a plain rehearsal, one transaction and then two more are three, and a drive without a number
makes them too. -/
theorem createTransactions_inTurn_rehearsed :
    (0 : Int) ≤ 1 ∧ (1 : Int) ≤ 3 ∧ ∃ run : Run State Nat, run.outcome = .done 3 ∧
      EndsIn (fun patience => createInTurn (plainSettings .account) patience (some 1) (some 2))
        (answer .plain) (.holding [("a", 100), ("b", 50)]) run ∧
      GoesAlong (fun patience => createTransactions (plainSettings .account) patience none)
        (answer .plain) (.holding [("a", 100), ("b", 50)]) run.events := by
  let start : State := .holding [("a", 100), ("b", 50)]
  let run := (createTransactions (plainSettings .account) 3 (some 3)).run (answer .plain) start
  have houtcome : run.outcome = .done 3 := by decide +kernel
  have hends : EndsIn
      (fun patience => createTransactions (plainSettings .account) patience (some 3))
      (answer .plain) start run := ⟨3, rfl, by rw [houtcome]; nofun⟩
  obtain ⟨hsame, hnone⟩ :=
    createTransactions_inTurn (plainSettings .account) (by decide : (0 : Int) ≤ 1)
      (by decide : (1 : Int) ≤ 3)
  exact ⟨by decide, by decide, run, houtcome, (hsame.ends (answer .plain) start run).mp hends,
    hnone (answer .plain) start run hends⟩

end TransferDrill.Drive

import TransferDrill.Drive.Loop
import TransferDrill.Proofs.Drive.Path

/-!
# Rounds of the drive

A drive is done as soon as it has made enough. Until then it makes one round after another, and a
round either makes a transfer or waits.
-/

namespace TransferDrill.Drive

variable {settings : Settings} {patience : Nat} {wanted : Option Int} {rounds created : Nat}

/-- There are enough transactions where a number is wanted that has been reached. -/
theorem enough_eq_true_iff :
    enough wanted created = true ↔ ∃ count, wanted = some count ∧ count ≤ (created : Int) := by
  simp [enough, Option.any_eq_true]

/-- What a drive does at the head of its loop, unless it has made enough: whether a transfer was
made is all that it goes on with. -/
def round (settings : Settings) (patience : Nat) : Script Bool := do
  let sender ← findSender settings patience
  match ← (sizeTransfer settings sender).catchShortage with
  | .ok transfer =>
    makeTransfer settings sender transfer
    return true
  | .error shortage =>
    awaitChange settings patience shortage
    return false

/-- A drive that has made enough is done, however many rounds it may take. -/
theorem createTransactionsFrom_of_enough (h : enough wanted created = true) :
    createTransactionsFrom settings patience wanted rounds created = .done created := by
  cases rounds <;> exact if_pos h

/-- A drive that has not made enough makes a round and counts the transfer that was made in it. -/
theorem createTransactionsFrom_succ (h : enough wanted created = false) :
    createTransactionsFrom settings patience wanted (rounds + 1) created =
      (round settings patience).bind fun made =>
        createTransactionsFrom settings patience wanted rounds (created + made.toNat) := by
  rw [createTransactionsFrom, if_neg (by simp [h]), round]
  simp only [Script.bind_eq, Script.pure_eq, Script.bind_assoc]
  congr 1
  funext sender
  congr 1
  funext result
  cases result <;> simp [Script.bind_assoc]

/-- Without rounds left, a drive that wants more is cut off. -/
theorem createTransactionsFrom_zero (h : enough wanted created = false) :
    createTransactionsFrom settings patience wanted 0 created = .unfinished := by
  rw [createTransactionsFrom, if_neg (by simp [h])]

/-- What holds of drives that have made enough, of drives that are cut off, and of drives that make
a round if it holds after the round, holds of all drives. -/
@[elab_as_elim]
theorem rounds_induction (wanted : Option Int) {motive : (rounds created : Nat) → Prop}
    (done : ∀ rounds created, enough wanted created = true → motive rounds created)
    (cut : ∀ created, enough wanted created = false → motive 0 created)
    (more : ∀ rounds created, enough wanted created = false →
      (∀ made, motive rounds (created + made)) → motive (rounds + 1) created)
    (rounds created : Nat) : motive rounds created := by
  induction rounds generalizing created with
  | zero =>
    cases henough : enough wanted created with
    | true => exact done 0 created henough
    | false => exact cut created henough
  | succ rounds ih =>
    cases henough : enough wanted created with
    | true => exact done (rounds + 1) created henough
    | false => exact more rounds created henough fun made => ih (created + made)

/-- A drive ends with the number wanted; where that is negative, with none. -/
theorem createTransactionsFrom_returnsOnly
    (h : ∀ count, wanted = some count → created ≤ count.toNat) :
    (createTransactionsFrom settings patience wanted rounds created).ReturnsOnly
      fun made => ∃ count, wanted = some count ∧ made = count.toNat := by
  induction rounds, created using rounds_induction wanted with
  | done rounds created henough =>
    rw [createTransactionsFrom_of_enough henough]
    obtain ⟨count, hcount, hmost⟩ := enough_eq_true_iff.mp henough
    exact ⟨count, hcount, Nat.le_antisymm (h count hcount) (by omega)⟩
  | cut created henough =>
    rw [createTransactionsFrom_zero henough]
    trivial
  | more rounds created henough ih =>
    rw [createTransactionsFrom_succ henough]
    refine .bind fun made => ih made.toNat ?_
    rintro count rfl
    have hless : (created : Int) < count := by simpa [enough] using henough
    have hone : made.toNat ≤ 1 := made.toNat_le
    omega

end TransferDrill.Drive

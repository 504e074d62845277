import TransferDrill.Proofs.Drive.Noted
import TransferDrill.Proofs.Drive.Rounds

/-!
# What a drive is doing

The drive with notes: at every request, what it is made for and how many transactions have been
counted. An address that is made to be funded is told from one that is made to receive a transfer,
and a transaction counts as soon as its hand-off has returned.
-/

namespace TransferDrill.Drive

/-- What a request of the drive is made for. -/
inductive Purpose where
  /-- Find a sender. -/
  | search
  /-- Make an address and wait for its funds. -/
  | funding
  /-- Find recipients and size a transfer. -/
  | sizing
  /-- Wait until a transfer may be possible. -/
  | change
  /-- Construct a transaction. -/
  | construction
  /-- Hand a transaction off. -/
  | handOff
deriving DecidableEq, Repr

/-- How many transactions have been counted, and what a request is made for. -/
structure Note where
  counted : Nat
  purpose : Purpose
deriving DecidableEq, Repr

variable (settings : Settings)

/-- Look for a sender once, with notes; where there is none, wait until there may be one. -/
def notedLook (patience counted : Nat) : Noted Note (Option Sender) := do
  let addresses ← (Script.call .allAddresses .listAddresses).noted ⟨counted, .search⟩
  if addresses.isEmpty then
    (fundNewAddress settings patience).noted ⟨counted, .funding⟩
    return none
  else
    match ← (bestUnlocked settings addresses).noted ⟨counted, .search⟩ with
    | some sender => return some sender
    | none =>
      let broadcasts ← (Script.call .allBroadcasts .listBroadcasts).noted ⟨counted, .search⟩
      if broadcasts.isEmpty then
        (fundNewAddress settings patience).noted ⟨counted, .funding⟩
        return none
      else
        (Script.log .debug
          s!"All addresses locked, waiting on {broadcasts.length} broadcasts").noted
          ⟨counted, .search⟩
        (Script.sleep settings.sleepTime).noted ⟨counted, .search⟩
        return none

/-- Look for a sender with notes, for a number of rounds. -/
def notedSearchFrom (patience counted : Nat) : (rounds : Nat) → Noted Note Sender
  | 0 => .unfinished
  | rounds + 1 => do
    match ← notedLook settings patience counted with
    | some sender => return sender
    | none => notedSearchFrom patience counted rounds

/-- Find a funded sender, with notes. -/
def notedSearch (patience counted : Nat) : Noted Note Sender :=
  notedSearchFrom settings patience counted patience

/-- Make one transfer with notes; it counts from the hand-off on. -/
def notedTransfer (counted : Nat) (sender : Sender) (transfer : Transfer) : Noted Note Unit := do
  let intent ← (Script.ofExcept .templates transfer.populate).noted ⟨counted, .construction⟩
  let transaction ← (createTransaction settings intent).noted ⟨counted, .construction⟩
  (Script.call
    (.transactionCreated sender.address transaction.identifier transaction.content intent)
    .announceTransaction).noted ⟨counted, .handOff⟩
  (Script.log .info
    s!"Created transaction {transaction.identifier.hash} from {sender.address}").noted
    ⟨counted + 1, .handOff⟩

/-- Wait with notes until a transfer may be possible that was not. -/
def notedChange (patience counted : Nat) (shortage : Shortage) : Noted Note Unit := do
  let broadcasts ← (Script.call .allBroadcasts .listBroadcasts).noted ⟨counted, .change⟩
  if broadcasts.isEmpty then
    (Script.log .warning
      s!"Insufficient funds ({shortage.message}), requesting funds on a new address").noted
      ⟨counted, .change⟩
    (fundNewAddress settings patience).noted ⟨counted, .funding⟩
  else
    (Script.log .debug
      s!"Insufficient funds ({shortage.message}), waiting on {broadcasts.length} broadcasts").noted
      ⟨counted, .change⟩
    (Script.sleep settings.sleepTime).noted ⟨counted, .change⟩

/-- Make a round with notes: whether a transfer was made. -/
def notedRound (patience counted : Nat) : Noted Note Bool := do
  let sender ← notedSearch settings patience counted
  match ← (sizeTransfer settings sender).catchShortage.noted ⟨counted, .sizing⟩ with
  | .ok transfer =>
    notedTransfer settings counted sender transfer
    return true
  | .error shortage =>
    notedChange settings patience counted shortage
    return false

/-- Make transfers with notes, for a number of rounds, when some have been counted already. -/
def notedDriveFrom (patience : Nat) (wanted : Option Int) :
    (rounds : Nat) → (counted : Nat) → Noted Note Nat
  | 0, counted => if enough wanted counted then .done counted else .unfinished
  | rounds + 1, counted =>
    if enough wanted counted then .done counted
    else do
      let made ← notedRound settings patience counted
      notedDriveFrom patience wanted rounds (counted + made.toNat)

/-- Make transfers with notes until as many as wanted have been handed off. -/
def notedDrive (patience : Nat) (wanted : Option Int) : Noted Note Nat :=
  notedDriveFrom settings patience wanted patience 0

variable {settings : Settings}

/-! ## Without notes -/

/-- Without notes, the noted search is the search, by induction on the rounds. -/
theorem forget_notedSearchFrom (patience counted rounds : Nat) :
    (notedSearchFrom settings patience counted rounds).forget =
      findSenderFrom settings patience rounds := by
  induction rounds with
  | zero => rfl
  | succ rounds ih =>
    rw [notedSearchFrom, notedLook, findSenderFrom]
    simp only [Noted.bind_eq, Noted.pure_eq, Script.bind_eq, Noted.forget_bind, Noted.forget_noted,
      Script.bind_assoc]
    congr 1
    funext addresses
    split
    · simp [ih, Script.bind_assoc]
    · simp only [Noted.forget_bind, Noted.forget_noted, Script.bind_assoc]
      congr 1
      funext best
      cases best with
      | some sender => rfl
      | none =>
        simp only [Noted.forget_bind, Noted.forget_noted, Script.bind_assoc]
        congr 1
        funext broadcasts
        split <;> simp [ih, Script.bind_assoc]

/-- Without its notes, the search is the search for a sender. -/
theorem forget_notedSearch (patience counted : Nat) :
    (notedSearch settings patience counted).forget = findSender settings patience :=
  forget_notedSearchFrom patience counted patience

/-- Without notes, the noted transfer is the transfer. -/
theorem forget_notedTransfer (counted : Nat) (sender : Sender) (transfer : Transfer) :
    (notedTransfer settings counted sender transfer).forget =
      makeTransfer settings sender transfer := by
  simp [notedTransfer, makeTransfer]

/-- Without notes, the noted wait after a shortage is that wait. -/
theorem forget_notedChange (patience counted : Nat) (shortage : Shortage) :
    (notedChange settings patience counted shortage).forget =
      awaitChange settings patience shortage := by
  simp only [notedChange, awaitChange, Noted.bind_eq, Script.bind_eq, Noted.forget_bind,
    Noted.forget_noted]
  congr 1
  funext broadcasts
  split <;> simp

/-- Without notes, the noted round is the round. -/
theorem forget_notedRound (patience counted : Nat) :
    (notedRound settings patience counted).forget = round settings patience := by
  simp only [notedRound, round, Noted.bind_eq, Script.bind_eq, Noted.forget_bind,
    Noted.forget_noted, forget_notedSearch]
  congr 1
  funext sender
  congr 1
  funext result
  cases result <;> simp [forget_notedTransfer, forget_notedChange]

/-- Without notes, the noted drive is the drive, by induction on the rounds. -/
theorem forget_notedDriveFrom (patience : Nat) (wanted : Option Int) (rounds counted : Nat) :
    (notedDriveFrom settings patience wanted rounds counted).forget =
      createTransactionsFrom settings patience wanted rounds counted := by
  induction rounds, counted using rounds_induction wanted with
  | done rounds counted henough =>
    rw [createTransactionsFrom_of_enough henough]
    cases rounds <;> simp [notedDriveFrom, henough]
  | cut counted henough =>
    rw [createTransactionsFrom_zero henough]
    simp [notedDriveFrom, henough]
  | more rounds counted henough ih =>
    rw [createTransactionsFrom_succ henough, notedDriveFrom, if_neg (by simp [henough])]
    simp [forget_notedRound, ih]

/-- Without its notes, the noted drive is the drive. -/
theorem forget_notedDrive (patience : Nat) (wanted : Option Int) :
    (notedDrive settings patience wanted).forget = createTransactions settings patience wanted :=
  forget_notedDriveFrom patience wanted patience 0

/-! ## What the loops keep -/

variable {inv : List Event → Note → Option Ask → Prop}

/-- The search keeps what one look keeps, if there may be another look after each. -/
theorem notedSearchFrom_keeps {patience counted : Nat} {before : List Event → Prop}
    {found : Sender → List Event → Prop}
    (hlook : ∀ past, before past → (notedLook settings patience counted).Keeps inv
      (fun best later => best.elim (before later) fun sender => found sender later) past)
    (rounds : Nat) {past : List Event} (hbefore : before past) :
    (notedSearchFrom settings patience counted rounds).Keeps inv found past := by
  induction rounds generalizing past with
  | zero => trivial
  | succ rounds ih =>
    rw [notedSearchFrom]
    refine (hlook past hbefore).bind fun best later hlater => ?_
    cases best with
    | some sender => exact hlater
    | none => exact ih hlater

/-- The drive keeps what one round keeps, if there may be another round after each. -/
theorem notedDriveFrom_keeps {patience : Nat} {wanted : Option Int}
    {before : (counted : Nat) → List Event → Prop}
    (hround : ∀ counted past, enough wanted counted = false → before counted past →
      (notedRound settings patience counted).Keeps inv
        (fun made later => before (counted + made.toNat) later) past)
    (rounds : Nat) {counted : Nat} {past : List Event} (hbefore : before counted past) :
    (notedDriveFrom settings patience wanted rounds counted).Keeps inv
      (fun made later => enough wanted made = true ∧ before made later) past := by
  induction rounds, counted using rounds_induction wanted generalizing past with
  | done rounds counted henough =>
    cases rounds <;> simpa [notedDriveFrom, henough, Noted.Keeps] using hbefore
  | cut counted henough => simp [notedDriveFrom, henough, Noted.Keeps]
  | more rounds counted henough ih =>
    rw [notedDriveFrom, if_neg (by simp [henough])]
    exact (hround counted past henough hbefore).bind fun made _ => ih made.toNat

/-! ## What only funding can break -/

section Funding

variable {patience : Nat}
  (hother : ∀ past note request, note.purpose ≠ .funding → inv past note request)

include hother

/-- A script that is not made to fund an address keeps an invariant that only funding can break. -/
theorem other_keeps {α : Type} {script : Script α} {counted : Nat} {purpose : Purpose}
    {past : List Event} (hpurpose : purpose ≠ .funding) :
    (script.noted ⟨counted, purpose⟩).Keeps inv (fun _ _ => True) past :=
  .of_onlyAsks .any (fun _ _ _ _ => hother _ _ _ hpurpose) fun _ _ _ => trivial

/-- A noted transfer keeps the invariant. -/
theorem notedTransfer_keeps (counted : Nat) (sender : Sender) (transfer : Transfer)
    (past : List Event) :
    (notedTransfer settings counted sender transfer).Keeps inv (fun _ _ => True) past := by
  rw [notedTransfer]
  simp only [Noted.bind_eq]
  refine .bind (other_keeps hother (by simp)) fun intent _ _ => ?_
  refine .bind (other_keeps hother (by simp)) fun transaction _ _ => ?_
  exact .bind (other_keeps hother (by simp)) fun _ _ _ => other_keeps hother (by simp)

variable (hfund : ∀ counted past,
    ((fundNewAddress settings patience).noted ⟨counted, .funding⟩).Keeps inv (fun _ _ => True) past)

include hfund

/-- Looking for a sender once keeps the invariant. -/
theorem notedLook_keeps (counted : Nat) (past : List Event) :
    (notedLook settings patience counted).Keeps inv (fun _ _ => True) past := by
  rw [notedLook]
  simp only [Noted.bind_eq, Noted.pure_eq]
  refine .bind (other_keeps hother (by simp)) fun addresses past _ => ?_
  split
  · exact (hfund counted past).bind fun _ _ _ => trivial
  · refine .bind (other_keeps hother (by simp)) fun best past _ => ?_
    cases best with
    | some sender => trivial
    | none =>
      refine .bind (other_keeps hother (by simp)) fun broadcasts past _ => ?_
      split
      · exact (hfund counted past).bind fun _ _ _ => trivial
      · refine .bind (other_keeps hother (by simp)) fun _ _ _ => ?_
        exact .bind (other_keeps hother (by simp)) fun _ _ _ => trivial

/-- The noted wait after a shortage keeps the invariant. -/
theorem notedChange_keeps (counted : Nat) (shortage : Shortage) (past : List Event) :
    (notedChange settings patience counted shortage).Keeps inv (fun _ _ => True) past := by
  rw [notedChange]
  simp only [Noted.bind_eq]
  refine .bind (other_keeps hother (by simp)) fun broadcasts past _ => ?_
  split
  · exact .bind (other_keeps hother (by simp)) fun _ past _ => hfund counted past
  · exact .bind (other_keeps hother (by simp)) fun _ _ _ => other_keeps hother (by simp)

/-- The noted search keeps the invariant. -/
theorem notedSearch_keeps (counted : Nat) (past : List Event) :
    (notedSearch settings patience counted).Keeps inv (fun _ _ => True) past := by
  have hlook : ∀ past, True → (notedLook settings patience counted).Keeps inv
      (fun best _ => best.elim True fun _ => True) past :=
    fun past _ => (notedLook_keeps hother hfund counted past).mono fun best _ _ => by
      cases best <;> trivial
  exact notedSearchFrom_keeps hlook patience trivial

/-- A noted round keeps the invariant. -/
theorem notedRound_keeps (counted : Nat) (past : List Event) :
    (notedRound settings patience counted).Keeps inv (fun _ _ => True) past := by
  rw [notedRound]
  simp only [Noted.bind_eq, Noted.pure_eq]
  refine (notedSearch_keeps hother hfund counted past).bind fun sender past _ => ?_
  refine .bind (other_keeps hother (by simp)) fun result past _ => ?_
  cases result with
  | error shortage =>
    exact (notedChange_keeps hother hfund counted shortage past).bind fun _ _ _ => trivial
  | ok transfer =>
    exact (notedTransfer_keeps hother counted sender transfer past).bind fun _ _ _ => trivial

/-- The drive keeps what only funding can break if every funding keeps it. -/
theorem notedDrive_keeps (wanted : Option Int) :
    (notedDrive settings patience wanted).Keeps inv (fun _ _ => True) [] := by
  have hround : ∀ counted past, enough wanted counted = false → True →
      (notedRound settings patience counted).Keeps inv (fun _ _ => True) past :=
    fun counted past _ _ => notedRound_keeps hother hfund counted past
  exact (notedDriveFrom_keeps hround patience trivial).mono fun _ _ _ => trivial

end Funding

end TransferDrill.Drive

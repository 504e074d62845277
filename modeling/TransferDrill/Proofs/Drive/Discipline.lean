import TransferDrill.Drive.Loop
import TransferDrill.Proofs.Drive.FailFast

/-!
# The discipline of the drive

Every part of the drive fails fast, from any quiet past. Look-ups of balances are the only calls
whose reports depend on the past: while the funds of a new address are awaited, their failures are
reported once more.
-/

namespace TransferDrill

/-- From any quiet past, a script fails fast. -/
def Script.Disciplined {α : Type} (script : Script α) : Prop :=
  ∀ past, Quiet past → script.FailsFast Reports (fun _ _ => True) past

/-- A cancellation is reported as itself, whatever is awaited. -/
theorem reports_cancelled (past : List Event) (e : Event) (c : Cancellation) :
    Reports past e (.cancelled c) (.cancelled c) := ⟨fun _ => rfl, fun _ => rfl⟩

/-- What is thrown at an event that looks no awaited funds up is reported with nothing between. -/
theorem reports_of_not_awaits {past : List Event} {e : Event} (h : ¬AwaitsFunds past e)
    {t : Thrown} {f : Failure} (hreported : t.ReportedBy f) : Reports past e t f :=
  ⟨fun _ => hreported, fun hawaits => absurd hawaits h⟩

/-- An event that looks up no balance is no look-up of awaited funds. -/
theorem not_awaitsFunds_of_lookedUp {past : List Event} {e : Event} (h : e.lookedUp? = none) :
    ¬AwaitsFunds past e := by
  intro h
  obtain ⟨address, haddress, -⟩ := h
  rw [h] at haddress
  cases haddress

/-- While no funds are awaited, no event is a look-up of awaited funds. -/
theorem not_awaitsFunds_of_awaited {past : List Event} {e : Event} (h : awaited? past = none) :
    ¬AwaitsFunds past e := by
  intro h
  obtain ⟨address, -, haddress⟩ := h
  rw [h] at haddress
  cases haddress

/-- A shortage never reports what was thrown. -/
theorem not_reports_shortage (past : List Event) (e : Event) (t : Thrown) (s : Shortage) :
    ¬Reports past e t (.shortage s) := by
  intro h
  by_cases hawaits : AwaitsFunds past e
  · have hthrough := h.2 hawaits
    cases t with
    | cancelled c => cases hthrough
    | ordinary reason =>
      obtain ⟨_, hcause, -⟩ := hthrough
      cases hcause
  · have hreported := h.1 hawaits
    cases t <;> cases hreported

namespace Script.Disciplined

variable {α β : Type}

/-- A value is disciplined: nothing happens. -/
theorem done {a : α} : (Script.done a).Disciplined := fun _ hquiet => .done hquiet trivial

/-- A failure of the drive's own is disciplined: nothing was thrown that it hides. -/
theorem failed {f : Failure} : (Script.failed f : Script α).Disciplined :=
  fun _ hquiet => .failed hquiet

/-- One script after another is disciplined if both are. -/
theorem bind {script : Script α} {next : α → Script β} (h : script.Disciplined)
    (hnext : ∀ a, (next a).Disciplined) : (script.bind next).Disciplined :=
  fun past hquiet => .bind (h past hquiet) fun a past hquiet _ => hnext a past hquiet

/-- A request that never throws is disciplined. -/
theorem request {q : Ask} (hnever : ∀ reply, Event.thrown? ⟨q, reply⟩ = none) :
    (Script.request q).Disciplined :=
  fun _ hquiet => .request hquiet hnever fun _ => trivial

/-- A call is disciplined if it neither looks up a balance nor announces a check, and its failures
are raised from the adapter's error. -/
theorem attempt {c : Call} {report : AdapterError → Failure}
    (hlookedUp : ∀ reply, Event.lookedUp? ⟨.call c, reply⟩ = none)
    (hnever : ∀ value, Event.thrown? ⟨.call c, .ok value⟩ = none)
    (hcause : ∀ e, (report e).cause? = some (.adapter e)) :
    (Script.attempt c report).Disciplined := by
  intro past hquiet
  refine .attempt hquiet ?_ hcause hnever fun _ => trivial
  exact fun reply _ _ => reports_of_not_awaits (not_awaitsFunds_of_lookedUp (hlookedUp reply))

/-- A sleep is disciplined: it is only ever cancelled, which goes through. -/
theorem sleep {seconds : Binary64} : (Script.sleep seconds).Disciplined :=
  fun past hquiet => .sleep hquiet (reports_cancelled past) fun _ => trivial

/-- A result that is at hand is disciplined. -/
theorem ofExcept {ε : Type} {report : ε → Failure} {result : Except ε α} :
    (Script.ofExcept report result).Disciplined :=
  fun _ hquiet => .ofExcept hquiet fun _ _ => trivial

/-- A condition is disciplined. -/
theorem require {condition : Bool} {failure : Failure} :
    (Script.require condition failure).Disciplined :=
  fun _ hquiet => .require hquiet trivial

/-- A script whose shortages are caught is disciplined if it is. -/
theorem catchShortage {script : Script α} (h : script.Disciplined) :
    script.catchShortage.Disciplined :=
  fun past hquiet => (h past hquiet).catchShortage not_reports_shortage

end Script.Disciplined

namespace Drive

variable {settings : Settings}

/-! ## Addresses and their funds -/

/-- Looking up an address fails fast and changes nothing about what is awaited. -/
theorem holding_failsFast {reports : List Event → Event → Thrown → Failure → Prop}
    {address : String} {past : List Event} (hquiet : Quiet past)
    (hreports : ∀ e t f, e.lookedUp? = some address → Thrown.ReportedBy t f → reports past e t f) :
    (holding settings address).FailsFast reports (fun _ later => awaited? later = awaited? past)
      past := by
  unfold holding
  cases settings.accounting with
  | utxo =>
    refine .attempt hquiet (fun _ t f => hreports _ t f rfl) (fun _ => rfl) (fun _ => rfl) ?_
    exact fun _ => awaited?_append_singleton ..
  | account =>
    refine .attempt_bind hquiet (fun _ t f => hreports _ t f rfl) (fun _ => rfl) (fun _ => rfl) ?_
    exact fun _ hquiet => .done hquiet (awaited?_append_singleton ..)

/-- Making a key pair is disciplined. -/
theorem newKeyPair_disciplined (curve : Curve) : (newKeyPair curve).Disciplined := by
  unfold newKeyPair
  cases curve with
  | secp256k1 => exact .bind (.request fun _ => rfl) fun _ => .ofExcept
  | edwards25519 => exact .bind (.request fun _ => rfl) fun _ => .done
  | _ => exact .failed

/-- A call of another kind is reported with nothing in between. -/
theorem reports_call {past : List Event} {c : Call}
    (hlookedUp : ∀ reply, Event.lookedUp? ⟨.call c, reply⟩ = none) (reply : (Ask.call c).Reply)
    (t : Thrown) (f : Failure) (h : t.ReportedBy f) : Reports past ⟨.call c, reply⟩ t f :=
  reports_of_not_awaits (not_awaitsFunds_of_lookedUp (hlookedUp reply)) h

/-- After a new address was made, its funds are awaited. -/
theorem newAddress_failsFast {past : List Event} (hquiet : Quiet past) :
    (newAddress settings).FailsFast Reports (fun address later => awaited? later = some address)
      past := by
  refine .bind (newKeyPair_disciplined _ past hquiet) fun pair past hquiet _ => ?_
  refine .attempt_bind hquiet (reports_call fun _ => rfl) (fun _ => rfl) (fun _ => rfl) ?_
  intro address hquiet
  refine .attempt_bind hquiet (reports_call fun _ => rfl) (fun _ => rfl) (fun _ => rfl) ?_
  intro _ hquiet
  refine .attempt_bind hquiet (reports_call fun _ => rfl) (fun _ => rfl) (fun _ => rfl) ?_
  intro _ hquiet
  refine .request_bind hquiet (fun _ => rfl) ?_
  intro _ hquiet
  refine .done hquiet ?_
  rw [awaited?_append_singleton, awaited?_append_singleton]
  rfl

/-- Making an address is disciplined: each of its calls is reported by what it was for. -/
theorem newAddress_disciplined : (newAddress settings).Disciplined :=
  fun _ hquiet => (newAddress_failsFast hquiet).weaken fun _ _ _ => trivial

/-- Showing an amount asks for nothing. -/
theorem showAmount_failsFast {reports : List Event → Event → Thrown → Failure → Prop}
    {amount : Int} {past : List Event} (hquiet : Quiet past) :
    (showAmount settings amount).FailsFast reports (fun _ later => later = past) past := by
  unfold showAmount
  cases settings.currency.display? amount with
  | some text => exact .done hquiet rfl
  | none => exact .failed hquiet

/-- How failures are reported inside the wait for the funds of an address. -/
def ReportsInside (past : List Event) (e : Event) (t : Thrown) (f : Failure) : Prop :=
  t.ReportedBy f ∧ (AwaitsFunds past e ∨ ∃ c, t = .cancelled c)

/-- While funds are awaited, only look-ups of these funds and sleeps can throw. -/
theorem awaitFundsFrom_failsFast {address : String} {rounds : Nat} {announced : Bool}
    {past : List Event} (hquiet : Quiet past) (hawaited : awaited? past = some address) :
    (awaitFundsFrom settings address rounds announced).FailsFast ReportsInside (fun _ _ => True)
      past := by
  induction rounds generalizing announced past with
  | zero => exact hquiet
  | succ rounds ih =>
    rw [awaitFundsFrom]
    refine .bind (holding_failsFast hquiet ?_) fun held past hquiet hafter => ?_
    · exact fun e t f he hreported => ⟨hreported, .inl ⟨address, he, hawaited⟩⟩
    · replace hawaited := hafter.trans hawaited
      split
      · refine .bind (showAmount_failsFast hquiet) ?_
        intro text past hquiet h
        subst h
        exact .request_bind hquiet (fun _ => rfl) fun _ hquiet => .done hquiet trivial
      · -- the wait goes on from any quiet past in which the address is still awaited
        have hwait : ∀ {past : List Event}, Quiet past → awaited? past = some address →
            ((Script.sleep settings.sleepTime).bind fun _ =>
              awaitFundsFrom settings address rounds true).FailsFast ReportsInside
                (fun _ _ => True) past := by
          intro past hquiet hawaited
          have hsleep : (Script.sleep settings.sleepTime).FailsFast ReportsInside
              (fun _ later => awaited? later = some address) past := by
            refine .sleep hquiet (fun _ c => ⟨rfl, .inr ⟨c, rfl⟩⟩) fun _ => ?_
            rw [awaited?_append_singleton, hawaited]
            rfl
          exact hsleep.bind fun _ _ => ih
        split
        · refine .bind (showAmount_failsFast hquiet) ?_
          intro text past hquiet h
          subst h
          refine .request_bind hquiet (fun _ => rfl) fun _ hquiet => hwait hquiet ?_
          rw [awaited?_append_singleton, hawaited]
          rfl
        · exact hwait hquiet hawaited

/-- Funding a new address is disciplined: what fails while its funds are awaited is reported
through one more failure. -/
theorem fundNewAddress_disciplined (patience : Nat) :
    (fundNewAddress settings patience).Disciplined := by
  intro past hquiet
  refine .bind (newAddress_failsFast hquiet) fun address past hquiet hawaited => ?_
  refine .bind ((awaitFundsFrom_failsFast hquiet hawaited).reportAs ?_) ?_
  · intro earlier e t f h
    obtain ⟨hreported, hwhen⟩ := h
    cases t with
    | cancelled c =>
      cases hreported
      exact reports_cancelled earlier e c
    | ordinary reason =>
      have hawaits := hwhen.resolve_right nofun
      obtain ⟨hconstruction, -⟩ := Failure.isConstruction_of_cause hreported
      rw [if_pos hconstruction]
      exact ⟨fun hnot => absurd hawaits hnot, fun _ => ⟨f, rfl, hreported⟩⟩
  · exact fun _ past hquiet _ => .done hquiet trivial

/-! ## Senders -/

/-- While no funds are awaited, an address is looked up like anything else. -/
theorem holding_failsFast_of_awaited {address : String} {past : List Event} (hquiet : Quiet past)
    (hawaited : awaited? past = none) :
    (holding settings address).FailsFast Reports (fun _ later => awaited? later = none) past := by
  apply (holding_failsFast hquiet ?_).weaken fun _ _ hafter => hafter.trans hawaited
  intro e t f _
  exact reports_of_not_awaits (not_awaitsFunds_of_awaited hawaited)

/-- A scan for the best sender fails fast while no funds are awaited. -/
theorem bestAmong_failsFast {locked addresses : List String} {best : Option Sender}
    {past : List Event} (hquiet : Quiet past) (hawaited : awaited? past = none) :
    (bestAmong settings locked best addresses).FailsFast Reports (fun _ _ => True) past := by
  induction addresses generalizing best past with
  | nil => exact .done hquiet trivial
  | cons address rest ih =>
    rw [bestAmong]
    split
    · exact ih hquiet hawaited
    · refine .bind (holding_failsFast_of_awaited hquiet hawaited) ?_
      intro held past hquiet hawaited
      split <;> exact ih hquiet hawaited

/-- A selection is disciplined: it begins with a call that looks up no balance, so that no funds are
awaited afterwards. -/
theorem bestUnlocked_disciplined (addresses : List String) :
    (bestUnlocked settings addresses).Disciplined := by
  intro past hquiet
  refine .attempt_bind hquiet (reports_call fun _ => rfl) (fun _ => rfl) (fun _ => rfl) ?_
  intro locked hquiet
  refine .bind (bestAmong_failsFast hquiet (awaited?_append_singleton ..)) ?_
  exact fun best past hquiet _ => .done hquiet trivial

/-- The search for a sender is disciplined, however long it may last. -/
theorem findSenderFrom_disciplined (patience rounds : Nat) :
    (findSenderFrom settings patience rounds).Disciplined := by
  induction rounds with
  | zero => exact fun _ hquiet => hquiet
  | succ rounds ih =>
    rw [findSenderFrom]
    have hfund : ((fundNewAddress settings patience).bind fun _ =>
        findSenderFrom settings patience rounds).Disciplined :=
      .bind (fundNewAddress_disciplined patience) fun _ => ih
    refine .bind (.attempt (fun _ => rfl) (fun _ => rfl) fun _ => rfl) fun addresses => ?_
    split
    · exact hfund
    · refine .bind (bestUnlocked_disciplined addresses) fun best => ?_
      split
      · exact .done
      · refine .bind (.attempt (fun _ => rfl) (fun _ => rfl) fun _ => rfl) fun broadcasts => ?_
        split
        · exact hfund
        · exact .bind (.request fun _ => rfl) fun _ => .bind .sleep fun _ => ih

/-! ## Sizing -/

/-- The look-ups of recipients fail fast while no funds are awaited. -/
theorem divide_failsFast {addresses : List String} {past : List Event} (hquiet : Quiet past)
    (hawaited : awaited? past = none) :
    (divide settings addresses).FailsFast Reports (fun _ _ => True) past := by
  induction addresses generalizing past with
  | nil => exact .done hquiet trivial
  | cons address rest ih =>
    refine .bind (holding_failsFast_of_awaited hquiet hawaited) ?_
    intro held past hquiet hawaited
    refine .bind (ih hquiet hawaited) fun recipients past hquiet _ => ?_
    split <;> exact .done hquiet trivial

/-- Finding recipients is disciplined: addresses are listed before any is looked up. -/
theorem findRecipients_disciplined (sender : String) :
    (findRecipients settings sender).Disciplined := by
  intro past hquiet
  refine .attempt_bind hquiet (reports_call fun _ => rfl) (fun _ => rfl) (fun _ => rfl) ?_
  intro addresses hquiet
  cases settings.accounting with
  | account => exact divide_failsFast hquiet (awaited?_append_singleton ..)
  | utxo => exact .done hquiet trivial

/-- Picking an address is disciplined. -/
theorem pickAddress_disciplined (candidates : List String) :
    (pickAddress settings candidates).Disciplined := by
  refine .bind (.attempt (fun _ => rfl) (fun _ => rfl) fun _ => rfl) fun available => ?_
  have hnew : ((newAddress settings).bind fun address =>
      .done (⟨address, true⟩ : Pick)).Disciplined := .bind newAddress_disciplined fun _ => .done
  cases candidates with
  | nil => exact hnew
  | cons first rest =>
    refine .bind (.request fun _ => rfl) fun draw => ?_
    split
    · exact hnew
    · exact .done

/-- Drawing an amount is disciplined, also from an inverted range. -/
theorem drawAmount_disciplined (low high : Int) : (drawAmount low high).Disciplined := by
  unfold drawAmount
  split
  · exact .failed
  · exact .request fun _ => rfl

/-- Sizing a transfer between accounts is disciplined. -/
theorem sizeAccount_disciplined (sender : String) (balance : Int) (recipients : Recipients) :
    (sizeAccount settings sender balance recipients).Disciplined := by
  unfold sizeAccount
  split
  · refine .bind (pickAddress_disciplined _) fun pick => ?_
    exact .bind (drawAmount_disciplined _ _) fun _ => .done
  · split
    · split
      · exact .failed
      · exact .bind (drawAmount_disciplined _ _) fun _ => .done
    · exact .failed

/-- Sizing a transfer of a coin is disciplined. -/
theorem sizeCoin_disciplined (sender : String) (coinValue : Int) (candidates : List String)
    (coin : Option CoinIdentifier) :
    (sizeCoin settings sender coinValue candidates coin).Disciplined := by
  unfold sizeCoin
  dsimp only
  split
  · exact .failed
  · refine .bind (pickAddress_disciplined _) fun pick => ?_
    split
    · refine .bind (pickAddress_disciplined _) fun change => ?_
      exact .bind (drawAmount_disciplined _ _) fun _ => .done
    · exact .bind (drawAmount_disciplined _ _) fun _ => .done

/-- Sizing a transfer is disciplined, whatever is held. -/
theorem sizeTransfer_disciplined (sender : Sender) :
    (sizeTransfer settings sender).Disciplined := by
  refine .bind (findRecipients_disciplined _) fun recipients => ?_
  cases settings.accounting with
  | account => exact sizeAccount_disciplined _ _ _
  | utxo => exact sizeCoin_disciplined _ _ _ _

/-! ## Construction and the rounds of the drive -/

/-- A check is disciplined if what it throws is what its verdict says, and its failure is raised
from that. -/
theorem check_disciplined {φ : Type} (own : φ → Reason) {announcement : Call}
    {report : CheckFault φ → Failure} {verdict : Except φ Unit}
    (hlookedUp : ∀ reply, Event.lookedUp? ⟨.call announcement, reply⟩ = none)
    (hverdict : ∀ value, Event.thrown? ⟨.call announcement, .ok value⟩ =
      Thrown.found? own verdict)
    (hcause : ∀ cause, (report cause).cause? = some (cause.reason own)) :
    (check announcement report verdict).Disciplined := by
  intro past hquiet reply _
  refine ⟨hquiet, ?_⟩
  have hreports : ∀ t f, Thrown.ReportedBy t f → Reports past ⟨.call announcement, reply⟩ t f :=
    reports_call hlookedUp reply
  rcases reply with (cancellation | e) | value
  · exact .inr ⟨past, _, .cancelled cancellation, rfl, hquiet, rfl, hreports _ _ rfl⟩
  · exact .inr ⟨past, _, .ordinary (.adapter e), rfl, hquiet, rfl, hreports _ _ (hcause _)⟩
  · have hthrown := hverdict value
    cases verdict with
    | ok _ => exact ⟨hquiet.append_singleton hthrown, trivial⟩
    | error fault => exact .inr ⟨past, _, _, rfl, hquiet, hthrown, hreports _ _ (hcause _)⟩

/-- Constructing a transaction is disciplined, with each call reported by its step and each check by
what it found. -/
theorem createTransaction_disciplined (intent : List Operation) :
    (createTransaction settings intent).Disciplined := by
  have hstep {c : Call} {step : Step}
      (hlookedUp : ∀ reply, Event.lookedUp? ⟨.call c, reply⟩ = none)
      (hnever : ∀ value, Event.thrown? ⟨.call c, .ok value⟩ = none) :
      (Script.step c step).Disciplined := .attempt hlookedUp hnever fun _ => rfl
  have hoperations (signed : Bool) (observed : List Operation) :
      (checkOperations signed intent observed).Disciplined :=
    check_disciplined .operations (fun _ => rfl) (fun _ => rfl) fun _ => rfl
  have hsigners (payloads : List SigningPayload) (signers : List String) :
      (checkSigners payloads signers).Disciplined :=
    check_disciplined .signers (fun _ => rfl) (fun _ => rfl) fun _ => rfl
  refine .bind (hstep (fun _ => rfl) fun _ => rfl) fun request => ?_
  refine .bind (hstep (fun _ => rfl) fun _ => rfl) fun metadata => ?_
  refine .bind (hstep (fun _ => rfl) fun _ => rfl) fun unsigned => ?_
  refine .bind (hstep (fun _ => rfl) fun _ => rfl) fun draft => ?_
  refine .bind .require fun _ => .bind (hoperations _ _) fun _ => ?_
  refine .bind (.request fun _ => rfl) fun _ => ?_
  refine .bind (hstep (fun _ => rfl) fun _ => rfl) fun signatures => ?_
  refine .bind (hstep (fun _ => rfl) fun _ => rfl) fun content => ?_
  refine .bind (hstep (fun _ => rfl) fun _ => rfl) fun parsed => ?_
  refine .bind (hoperations _ _) fun _ => .bind (hsigners _ _) fun _ => ?_
  exact .bind (hstep (fun _ => rfl) fun _ => rfl) fun identifier => .done

/-- Making a transfer is disciplined, from its templates to the hand-off. -/
theorem makeTransfer_disciplined (sender : Sender) (transfer : Transfer) :
    (makeTransfer settings sender transfer).Disciplined := by
  refine .bind .ofExcept fun intent => ?_
  refine .bind (createTransaction_disciplined intent) fun transaction => ?_
  refine .bind (.attempt (fun _ => rfl) (fun _ => rfl) fun _ => rfl) fun _ => ?_
  exact .request fun _ => rfl

/-- The wait after a shortage is disciplined. -/
theorem awaitChange_disciplined (patience : Nat) (shortage : Shortage) :
    (awaitChange settings patience shortage).Disciplined := by
  refine .bind (.attempt (fun _ => rfl) (fun _ => rfl) fun _ => rfl) fun broadcasts => ?_
  split
  · exact .bind (.request fun _ => rfl) fun _ => fundNewAddress_disciplined patience
  · exact .bind (.request fun _ => rfl) fun _ => .sleep

/-- The drive is disciplined, however many rounds it takes. -/
theorem createTransactionsFrom_disciplined (patience : Nat) (wanted : Option Int)
    (rounds created : Nat) :
    (createTransactionsFrom settings patience wanted rounds created).Disciplined := by
  induction rounds generalizing created with
  | zero =>
    rw [createTransactionsFrom]
    split
    · exact .done
    · exact fun _ hquiet => hquiet
  | succ rounds ih =>
    rw [createTransactionsFrom]
    split
    · exact .done
    · refine .bind (findSenderFrom_disciplined patience patience) fun sender => ?_
      refine .bind (sizeTransfer_disciplined sender).catchShortage fun result => ?_
      cases result with
      | ok transfer => exact .bind (makeTransfer_disciplined sender transfer) fun _ => ih _
      | error shortage => exact .bind (awaitChange_disciplined patience shortage) fun _ => ih _

end Drive

end TransferDrill

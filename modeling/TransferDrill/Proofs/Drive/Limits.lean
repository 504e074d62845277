import TransferDrill.Proofs.Drive.Assembly
import TransferDrill.Proofs.Drive.Pace
import TransferDrill.Proofs.Drive.Rounds
import TransferDrill.Proofs.Drive.Sender
import TransferDrill.Proofs.Rehearsal.Plain

/-!
# How long a drive goes on

Every way back to the head of a loop makes a call: the wait for funds looks an address up, the
search for a sender lists addresses, and a round of the drive begins with a search. So no loop spins
without reaching the adapter, and when the adapter has stopped answering, whatever part of the drive
is running ends with the next call.
-/

namespace TransferDrill.Drive

open Rehearsal

variable {settings : Settings}

/-! ## Loops -/

/-- That scripts are brisk is kept by putting them together. -/
theorem isBrisk_compositional (rounds : Nat) :
    Compositional fun script => script.IsBrisk false rounds where
  done := .done
  failed := .failed
  bind := .bind
  call _ _ _ := .attempt
  request q hq := by
    rw [← Script.bind_done (Script.request q)]
    cases q with
    | probability => exact .request_bind (fun _ => rfl) (fun _ => rfl) fun _ => .done _
    | uniform low high => exact .request_bind (fun _ => rfl) (fun _ => rfl) fun _ => .done _
    | log level text => exact .request_bind (fun _ => rfl) (fun _ => rfl) fun _ => .done _
    | _ => exact hq.elim

/-- Making a key pair is brisk: there is neither a call nor a sleep. -/
theorem newKeyPair_isBrisk (curve : Curve) (rounds : Nat) :
    (newKeyPair curve).IsBrisk false rounds := by
  unfold newKeyPair
  cases curve with
  | secp256k1 =>
    refine .request_bind (fun _ => rfl) (fun _ => rfl) fun secret => ?_
    exact (isBrisk_compositional rounds).ofExcept _ _
  | edwards25519 => exact .request_bind (fun _ => rfl) (fun _ => rfl) fun _ => .done _
  | _ => exact .failed _

/-- Making an address is brisk: it does not sleep. -/
theorem newAddress_isBrisk (rounds : Nat) : (newAddress settings).IsBrisk false rounds := by
  have h := isBrisk_compositional rounds
  refine .bind (newKeyPair_isBrisk _ rounds) fun pair => .bind .attempt fun address => ?_
  exact .bind .attempt fun _ => .bind .attempt fun _ => .bind (h.log _ _) fun _ => .done _

/-- A script that writes an amount on the way is brisk if it is so without that. -/
theorem showAmount_bind_isBrisk {α : Type} {called : Bool} {rounds : Nat} {amount : Int}
    {next : String → Script α} (h : ∀ text, (next text).IsBrisk called rounds) :
    ((showAmount settings amount).bind next).IsBrisk called rounds := by
  unfold showAmount
  split
  · exact h _
  · exact .failed _

/-- Looking up an address is a call. -/
theorem holding_bind_isBrisk {α : Type} {called : Bool} {rounds : Nat} {address : String}
    {next : Holding → Script α} (h : ∀ held, (next held).IsBrisk true rounds) :
    ((holding settings address).bind next).IsBrisk called (rounds + 1) := by
  unfold holding
  cases settings.accounting with
  | utxo => exact .attempt_bind h
  | account =>
    simp only [Script.bind_eq, Script.pure_eq, Script.bind_assoc]
    exact .attempt_bind fun value => h ⟨value, none⟩

/-- The wait for funds makes a call in every round. -/
theorem awaitFundsFrom_isBrisk (address : String) (rounds : Nat) (announced : Bool) :
    (awaitFundsFrom settings address rounds announced).IsBrisk false rounds := by
  induction rounds generalizing announced with
  | zero => exact .unfinished
  | succ rounds ih =>
    rw [awaitFundsFrom]
    have hlog {α : Type} {level : LogLevel} {text : String} {next : Unit → Script α}
        (h : (next ()).IsBrisk true rounds) :
        ((Script.log level text).bind next).IsBrisk true rounds :=
      .request_bind (fun _ => rfl) (fun _ => rfl) fun _ => h
    refine holding_bind_isBrisk fun held => ?_
    split
    · exact showAmount_bind_isBrisk fun shown => hlog (.done _)
    · split
      · exact showAmount_bind_isBrisk fun shown => hlog (.sleep_bind (ih true))
      · exact .sleep_bind (ih true)

/-- Funding a new address is brisk: each sleep comes after a look-up. -/
theorem fundNewAddress_isBrisk (patience : Nat) :
    (fundNewAddress settings patience).IsBrisk false patience := by
  refine .bind (newAddress_isBrisk patience) fun address => .bind ?_ fun _ => .done _
  exact (awaitFundsFrom_isBrisk address patience false).reportAs fun _ => rfl

/-- The search for a sender makes a call in every round. -/
theorem findSenderFrom_isBrisk {patience rounds : Nat} (hrounds : rounds ≤ patience) :
    (findSenderFrom settings patience rounds).IsBrisk false rounds := by
  induction rounds with
  | zero => exact .unfinished
  | succ rounds ih =>
    rw [findSenderFrom]
    have hnext : (findSenderFrom settings patience rounds).IsBrisk false rounds :=
      ih (Nat.le_of_succ_le hrounds)
    have hfund : ((fundNewAddress settings patience).bind fun _ =>
        findSenderFrom settings patience rounds).IsBrisk true rounds :=
      .bind ((fundNewAddress_isBrisk patience).mono (Nat.le_of_succ_le hrounds)) fun _ => hnext
    have hlogged {level : LogLevel} {text : String} :
        ((Script.log level text).bind fun _ => (Script.sleep settings.sleepTime).bind fun _ =>
          findSenderFrom settings patience rounds).IsBrisk true rounds :=
      .request_bind (fun _ => rfl) (fun _ => rfl) fun _ => .sleep_bind hnext
    refine .attempt_bind fun addresses => ?_
    split
    · exact hfund
    · have hbest : (bestUnlocked settings addresses).IsBrisk false rounds :=
        (isBrisk_compositional rounds).bestUnlocked addresses
      refine .bind (hbest.mono (Nat.le_refl rounds)) fun best => ?_
      split
      · exact .done _
      · refine Script.IsBrisk.mono (.attempt_bind fun broadcasts => ?_) (Nat.le_succ rounds)
        split
        · exact hfund
        · exact hlogged

/-- The wait after a shortage is brisk, however it waits. -/
theorem awaitChange_isBrisk (patience : Nat) (shortage : Shortage) :
    (awaitChange settings patience shortage).IsBrisk false patience := by
  refine Script.IsBrisk.mono (.attempt_bind fun broadcasts => ?_) (Nat.le_succ patience)
  split
  · refine .request_bind (fun _ => rfl) (fun _ => rfl) fun _ => ?_
    exact (fundNewAddress_isBrisk patience).mono (Nat.le_refl patience)
  · refine .request_bind (fun _ => rfl) (fun _ => rfl) fun _ => ?_
    rw [← Script.bind_done (Script.sleep _)]
    exact .sleep_bind (.done ())

/-- A round is brisk. -/
theorem round_isBrisk (patience : Nat) : (round settings patience).IsBrisk false patience := by
  have h := isBrisk_compositional patience
  refine .bind (findSenderFrom_isBrisk (Nat.le_refl patience)) fun sender => ?_
  refine .bind (h.sizeTransfer (newAddress_isBrisk patience) sender).catchShortage fun result => ?_
  cases result with
  | ok transfer => exact .bind (h.makeTransfer sender transfer) fun _ => .done _
  | error shortage => exact .bind (awaitChange_isBrisk patience shortage) fun _ => .done _

/-- A round that is not cut off has made a call. -/
theorem one_le_calls_of_round {patience : Nat} {events : List Event} {made : Bool}
    (h : (round settings patience).Leads events (.done made)) : 1 ≤ calls events := by
  obtain ⟨sender, selecting, later, hfound, -, rfl⟩ := Script.leads_bind_done_iff.mp h
  obtain ⟨earlier, s, rfl, -⟩ := findSenderFrom_leads_done hfound
  simp only [calls_append, Selection.events, calls_cons, Event.isCall, Bool.toNat_true]
  omega

/-- The drive makes a call in every round. -/
theorem createTransactionsFrom_isBrisk {patience : Nat} {wanted : Option Int} {rounds created : Nat}
    (hrounds : rounds ≤ patience) :
    (createTransactionsFrom settings patience wanted rounds created).IsBrisk false rounds := by
  induction rounds, created using rounds_induction wanted with
  | done rounds created henough =>
    rw [createTransactionsFrom_of_enough henough]
    exact .done _
  | cut created henough =>
    rw [createTransactionsFrom_zero henough]
    exact .unfinished
  | more rounds created henough ih =>
    rw [createTransactionsFrom_succ henough]
    exact ((round_isBrisk patience).mono hrounds).bind_of_calls
      (fun _ _ => one_le_calls_of_round) fun made => ih made.toNat (Nat.le_of_succ_le hrounds)

/-- Whatever part of the drive is run, it makes as many calls as there is patience before it is cut
off. -/
theorem Part.isBrisk {patience : Nat} {α : Type} {script : Script α}
    (h : Part settings patience script) : script.IsBrisk false patience := by
  have hparts := isBrisk_compositional patience
  have hnew : (Drive.newAddress settings).IsBrisk false patience := newAddress_isBrisk patience
  cases h with
  | holding address => exact hparts.holding address
  | newAddress => exact hnew
  | awaitFunds address => exact awaitFundsFrom_isBrisk address patience false
  | fundNewAddress => exact fundNewAddress_isBrisk patience
  | bestUnlocked addresses => exact hparts.bestUnlocked addresses
  | findSender => exact findSenderFrom_isBrisk (Nat.le_refl patience)
  | findRecipients sender => exact hparts.findRecipients sender
  | pickAddress candidates => exact hparts.pickAddress hnew candidates
  | sizeAccount sender balance recipients => exact hparts.sizeAccount hnew sender balance recipients
  | sizeCoin sender coinValue candidates coin =>
    exact hparts.sizeCoin hnew sender coinValue candidates coin
  | sizeTransfer sender => exact hparts.sizeTransfer hnew sender
  | createTransaction intent => exact hparts.createTransaction intent
  | createTransactions wanted => exact createTransactionsFrom_isBrisk (Nat.le_refl patience)

/-! ## Runs -/

/-- No part of the drive spins without reaching the adapter: there are no more sleeps than calls,
and a call between any two sleeps. So where calls beyond a limit are cancelled, each part of the
drive ends at the first of them at the latest, whatever the loops had to wait for; with as many
rounds as that takes, none is cut off. -/
theorem part_reachesAdapter {σ : Type} (answer : Environment σ) (settings : Settings)
    (limit patience : Nat) (start : σ) (hlimit : answer.AnswersAtMost limit start)
    (hpatience : limit < patience)
    {α : Type} (script : Script α) (hpart : Part settings patience script) :
    (script.run answer start).outcome ≠ .unfinished ∧
      calls (script.run answer start).events ≤ limit + 1 ∧
      sleeps (script.run answer start).events ≤ calls (script.run answer start).events ∧
      ∀ before first between second after,
        (script.run answer start).events = before ++ first :: (between ++ second :: after) →
        first.isSleep = true → second.isSleep = true → ∃ c ∈ between, c.isCall = true := by
  obtain ⟨hleads, hgives⟩ := (Script.run_eq_iff answer script start _ _ _).mp rfl
  have hbrisk := hpart.isBrisk _ _ hleads
  have hcalls := hlimit.calls_le hgives
  refine ⟨fun hunfinished => ?_, ?_, by simpa using hbrisk.paced.sleeps_le, ?_⟩
  · have hmany := hbrisk.cutOff hunfinished
    have hnone := hbrisk.cancellations_eq_zero (by simp [hunfinished])
    omega
  · rcases hbrisk.cancelled with hnone | ⟨hone, -⟩ <;> omega
  · intro before first between second after hevents hfirst hsecond
    have hpaced := hbrisk.paced
    rw [hevents] at hpaced
    exact hpaced.call_between hfirst hsecond

/-- In a rehearsal in which the only sender stays locked, the drive looks for one, sleeps and looks
again until its eighth call is cancelled. -/
theorem part_reachesAdapter_rehearsed :
    ∃ start : State × Nat,
      ((answer .plain).limited 7).AnswersAtMost 7 start ∧
      let run := (createTransactions (plainSettings .account) 8 none).run
        ((answer .plain).limited 7) start;
      run.outcome ≠ .unfinished ∧ calls run.events ≤ 8 ∧ sleeps run.events ≤ calls run.events ∧
      ∃ before first between second after,
        run.events = before ++ first :: (between ++ second :: after) ∧ first.isSleep = true ∧
          second.isSleep = true ∧ ∃ c ∈ between, c.isCall = true := by
  let nothing : Mutation := ⟨[], [], none, none, none, none⟩
  let start : State :=
    { State.holding [("a", 100)] with
      locked := ["a"]
      broadcasts := [⟨⟨"t"⟩, "a"⟩]
      whileSleeping := [nothing, nothing] }
  let run := (createTransactions (plainSettings .account) 8 none).run
    ((answer .plain).limited 7) (start, 0)
  have hlimit := (answer .plain).limited_answersAtMost 7 start
  obtain ⟨hended, hcalls, hsleeps, hbetween⟩ :=
    part_reachesAdapter ((answer .plain).limited 7) (plainSettings .account) 7 8 (start, 0) hlimit
      (by decide) _ (.createTransactions none)
  have hsplit : ∃ first second, run.events = run.events.take 4 ++ first ::
      ((run.events.drop 5).take 4 ++ second :: run.events.drop 10) ∧
      first.isSleep = true ∧ second.isSleep = true :=
    ⟨_, _, rfl, rfl, rfl⟩
  obtain ⟨first, second, hevents, hfirst, hsecond⟩ := hsplit
  exact ⟨(start, 0), hlimit, hended, hcalls, hsleeps, _, first, _, second, _, hevents, hfirst,
    hsecond, hbetween _ first _ second _ hevents hfirst hsecond⟩

end TransferDrill.Drive

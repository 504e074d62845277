import TransferDrill.Proofs.Drive.Intent
import TransferDrill.Proofs.Drive.Outputs
import TransferDrill.Proofs.Drive.Purpose
import TransferDrill.Proofs.Rehearsal.Plain

/-!
# Custody of keys

Whatever an address is used for, its key is kept: recipients and change addresses were listed by the
adapter or stored by the drive, and an address that is to be funded was stored before its funds are
looked up. So no run sends funds, or asks for them, to an address whose key is lost.
-/

namespace TransferDrill

/-- The address whose holding is looked up. -/
def Ask.lookedUp? : Ask → Option String
  | .call (.accountBalance account _) | .call (.coinBalance account _) => some account.address
  | _ => none

namespace Drive

open Rehearsal

variable {settings : Settings}

/-- The adapter has listed an address among those with a stored key. -/
def Listed (past : List Event) (address : String) : Prop :=
  ∃ addresses, ⟨.call .allAddresses, .ok addresses⟩ ∈ past ∧ address ∈ addresses

/-- A key pair has been stored under an address. -/
def Stored (past : List Event) (address : String) : Prop :=
  ∃ pair, ⟨.call (.storeKey address pair), .ok ()⟩ ∈ past

/-- The key of an address is kept. -/
def Kept (past : List Event) (address : String) : Prop :=
  Listed past address ∨ Stored past address

/-- What has been stored stays so as more happens. -/
theorem Stored.mono {past later : List Event} {address : String} (h : Stored past address)
    (hsub : past ⊆ later) : Stored later address := by
  obtain ⟨pair, hmem⟩ := h
  exact ⟨pair, hsub hmem⟩

/-- A key that is kept stays so as more happens. -/
theorem Kept.mono {past later : List Event} {address : String} (h : Kept past address)
    (hsub : past ⊆ later) : Kept later address := by
  rcases h with ⟨addresses, hlisted, hmem⟩ | hstored
  · exact .inl ⟨addresses, hsub hlisted, hmem⟩
  · exact .inr (hstored.mono hsub)

/-- The keys of the recipient and of the change address are kept. -/
structure PaysKept (past : List Event) (context : Context) : Prop where
  recipient : Kept past context.recipient
  change : context.hasChange = true → Kept past context.changeAddress

/-! ## Outputs -/

/-- A group stores a key under its address. -/
theorem Making.stored (m : Making) : Stored (m.events settings) m.address :=
  ⟨m.pair, by simp [Making.events]⟩

/-- A pick is a candidate or its key was stored. -/
theorem Picked.kept {candidates : List String} {events : List Event} {pick : Pick}
    (h : Picked settings candidates events pick) :
    pick.address ∈ candidates ∨ Stored events pick.address := by
  cases h with
  | reused hmem => exact .inl hmem
  | @created asked m text _ =>
    have hstored : Stored (m.events settings) m.address := m.stored
    exact .inr (hstored.mono fun e he => by simp [he])

/-- A transfer pays addresses whose keys are kept. -/
theorem sizeTransfer_paysKept {sender : Sender} {events : List Event} {transfer : Transfer}
    (h : (sizeTransfer settings sender).Leads events (.done transfer)) :
    PaysKept events transfer.context := by
  obtain ⟨addresses, later, rfl, hpays⟩ := sizeTransfer_pays h
  have hkept {events : List Event} {address : String} (hsub : events ⊆ later)
      (h : address ∈ addresses.filter (· != sender.address) ∨ Stored events address) :
      Kept (⟨.call .allAddresses, .ok addresses⟩ :: later) address := by
    rcases h with hmem | hstored
    · exact .inl ⟨addresses, List.mem_cons_self, (List.mem_filter.mp hmem).1⟩
    · exact .inr (hstored.mono fun e he => List.mem_cons_of_mem _ (hsub he))
  cases hpays with
  | recipient earlier hpick hrecipient hchange =>
    refine ⟨?_, fun hsome => ?_⟩
    · rw [hrecipient]
      exact hkept (fun e he => by simp [he]) hpick.kept
    · rw [hchange] at hsome
      cases hsome
  | change earlier hpick hrecipient hleft hchange =>
    refine ⟨?_, fun _ => ?_⟩
    · rw [hrecipient]
      exact hkept (fun e he => by simp [he]) hpick.kept
    · rw [hchange]
      exact hkept (fun e he => by simp [he]) (hleft.mono fun a => mem_of_mem_left).kept

/-! ## Funding -/

/-- Requests made while the funds of an address are awaited. -/
def AwaitsOnly (address : String) (q : Ask) : Prop :=
  ∀ other, q.lookedUp? = some other → other = address

/-- A request that looks up nothing may be made while funds are awaited. -/
theorem awaitsOnly_of_eq_none {address : String} {q : Ask} (h : q.lookedUp? = none) :
    AwaitsOnly address q := by
  intro other hother
  rw [h] at hother
  cases hother

/-- Looking up an address looks up that one only. -/
theorem holding_awaitsOnly (address : String) :
    (holding settings address).OnlyAsks (AwaitsOnly address) := by
  have hsame (other : String) (h : some address = some other) : other = address :=
    (Option.some.inj h).symm
  unfold holding
  cases settings.accounting with
  | account => exact .bind (.attempt hsame) fun _ => trivial
  | utxo => exact .attempt hsame

/-- While the funds of an address are awaited, that one only is looked up. -/
theorem awaitFundsFrom_awaitsOnly (address : String) (rounds : Nat) (announced : Bool) :
    (awaitFundsFrom settings address rounds announced).OnlyAsks (AwaitsOnly address) :=
  awaitFundsFrom_onlyAsks (holding_awaitsOnly address) (fun _ _ => awaitsOnly_of_eq_none rfl)
    (fun _ => awaitsOnly_of_eq_none rfl) rounds announced

/-- While an address is being funded, only what is stored is looked up. -/
def FundsStored (past : List Event) (note : Note) (request : Option Ask) : Prop :=
  note.purpose = .funding → ∀ q ∈ request, ∀ address, q.lookedUp? = some address →
    Stored past address

/-- Making an address looks nothing up. -/
theorem newAddress_looksUpNothing :
    (newAddress settings).OnlyAsks fun q => q.lookedUp? = none := by
  refine newAddress_inMaking.mono fun q hq => ?_
  cases q with
  | call c => cases c <;> first | rfl | exact hq.elim
  | _ => rfl

/-- An address is stored before its funds are looked up, whatever was before. -/
theorem fundNewAddress_fundsStored (patience counted : Nat) (past : List Event) :
    ((fundNewAddress settings patience).noted ⟨counted, .funding⟩).Keeps FundsStored
      (fun _ _ => True) past := by
  rw [fundNewAddress]
  simp only [Script.bind_eq, Script.pure_eq, Noted.noted_bind]
  have hmaking : ((newAddress settings).noted ⟨counted, .funding⟩).Keeps FundsStored
      (fun address later => Stored later address) past := by
    refine .of_onlyAsks newAddress_looksUpNothing ?_ ?_
    · intro events request _ hrequest _ q hq address hlook
      rw [hrequest q hq] at hlook
      cases hlook
    · intro events address hleads
      rcases newAddress_leads hleads with ⟨m, text, -, rfl, ⟨⟩⟩ | ⟨_, -, ⟨⟩⟩ | ⟨-, _, ⟨⟩⟩
      have hstored : Stored (m.events settings) m.address := m.stored
      exact hstored.mono fun e he => by simp [he]
  refine hmaking.bind fun address past hstored => ?_
  have hwaiting : ((awaitFunds settings patience address).noted ⟨counted, .funding⟩).Keeps
      FundsStored (fun _ _ => True) past := by
    refine .of_onlyAsks (awaitFundsFrom_awaitsOnly address patience false) ?_ fun _ _ _ => trivial
    intro events request _ hrequest _ q hq other hother
    rw [hrequest q hq other hother]
    exact hstored.mono (List.subset_append_left ..)
  exact hwaiting.reportAs.bind fun _ _ _ => trivial

/-! ## Runs -/

/-- Keys are kept in every run. Whatever part of the drive is run, addresses are made in groups,
each with a key pair of its own that is stored before the address is announced. A transfer pays
addresses that were listed when it was sized or stored for it, and in a run of the drive every
intent is that of such a transfer. What is looked up for funding has been stored before, and so has
every address that is announced. -/
theorem createTransactions_custody {σ : Type} (answer : Environment σ) (settings : Settings)
    (patience : Nat) (start : σ) :
    (∀ {α : Type} (script : Script α), Part settings patience script →
      InGroups settings (script.run answer start).events (script.run answer start).outcome) ∧
    (∀ sender events after transfer,
      (sizeTransfer settings sender).run answer start = ⟨events, after, .done transfer⟩ →
      PaysKept events transfer.context) ∧
    ∀ wanted,
      (∀ before e after intent,
        ((createTransactions settings patience wanted).run answer start).events =
          before ++ e :: after →
        e.request.intent? = some intent →
        ∃ p : Plan, p.past = before ∧ p.Sound settings patience intent ∧
          PaysKept before p.transfer.context) ∧
      (notedDrive settings patience wanted).forget = createTransactions settings patience wanted ∧
      (∀ m ∈ (notedDrive settings patience wanted).moments answer start [],
        m.note.purpose = .funding → ∀ q ∈ m.request, ∀ address, q.lookedUp? = some address →
          Stored m.past address) ∧
      (∀ before e after,
        ((createTransactions settings patience wanted).run answer start).events =
          before ++ e :: after →
        ∃ note, ⟨before, note, some e.request⟩ ∈
          (notedDrive settings patience wanted).moments answer start []) ∧
      ∀ before address reply after,
        ((createTransactions settings patience wanted).run answer start).events =
          before ++ ⟨.call (.addressCreated address), reply⟩ :: after →
        Stored before address := by
  refine ⟨fun script hpart => hpart.makesInGroups _ _ (script.leads_run answer start), ?_, ?_⟩
  · intro sender events after transfer hrun
    exact sizeTransfer_paysKept ((Script.run_eq_iff ..).mp hrun).1
  · intro wanted
    refine ⟨?_, forget_notedDrive patience wanted, ?_, ?_, ?_⟩
    · intro before e after intent hevents hintent
      obtain ⟨p, rfl, hsound⟩ :=
        createTransactions_planned (Script.leads_run answer _ start) hevents hintent
      have hkept : PaysKept p.sizing p.transfer.context := sizeTransfer_paysKept hsound.sized
      have hsub : p.sizing ⊆ p.past := fun e he => by simp [Plan.past, he]
      exact ⟨p, rfl, hsound, hkept.recipient.mono hsub, fun h => (hkept.change h).mono hsub⟩
    · have hkeeps : (notedDrive settings patience wanted).Keeps FundsStored (fun _ _ => True) [] :=
        notedDrive_keeps (fun _ _ _ hnote h => absurd h hnote)
          (fundNewAddress_fundsStored patience) wanted
      exact hkeeps.moments answer start
    · intro before e after hevents
      rw [← forget_notedDrive] at hevents
      exact Noted.exists_moment answer _ start [] hevents
    · intro before address reply after hevents
      have hpart : Part settings patience (createTransactions settings patience wanted) :=
        .createTransactions wanted
      obtain ⟨earlier, pair, rfl⟩ := (hpart.makesInGroups _ _
        (Script.leads_run answer _ start)).storesFirst before address reply after hevents
      exact ⟨pair, by simp⟩

/-- In a rehearsal without addresses, one is made and funded, and a second one receives the
transfer from it; where a coin is spent, both its outputs go to addresses that are made for it. -/
theorem createTransactions_custody_rehearsed :
    (let run := (createTransactions (plainSettings .account) 3 (some 1)).run (answer .plain)
        (.fundedAsleep 100);
      InGroups (plainSettings .account) run.events run.outcome ∧
      (∃ e ∈ run.events, ∃ (intent : List Operation) (p : Plan), e.request.intent? = some intent ∧
        p.Sound (plainSettings .account) 3 intent ∧ PaysKept p.past p.transfer.context) ∧
      (∃ note past, note.purpose = .funding ∧ Stored past "new1" ∧
        ∃ q : Ask, q.lookedUp? = some "new1" ∧ ⟨past, note, some q⟩ ∈
          (notedDrive (plainSettings .account) 3 (some 1)).moments (answer .plain)
            (.fundedAsleep 100) []) ∧
      ∃ before reply after,
        run.events = before ++ ⟨.call (.addressCreated "new2"), reply⟩ :: after ∧
          Stored before "new2") ∧
    ∃ events after transfer,
      (sizeTransfer (plainSettings .utxo) ⟨"a", 100, none⟩).run (answer .plain)
        (.holding [("a", 100)]) = ⟨events, after, .done transfer⟩ ∧
      transfer.context.hasChange = true ∧ PaysKept events transfer.context := by
  constructor
  · let run := (createTransactions (plainSettings .account) 3 (some 1)).run (answer .plain)
      (.fundedAsleep 100)
    let moments := (notedDrive (plainSettings .account) 3 (some 1)).moments (answer .plain)
      (.fundedAsleep 100) []
    obtain ⟨hgroups, -, hruns⟩ :=
      createTransactions_custody (answer .plain) (plainSettings .account) 3 (.fundedAsleep 100)
    obtain ⟨hintents, -, hfunding, -, hannounced⟩ := hruns (some 1)
    have hseen : (run.events.any fun e => e.request.intent?.isSome,
        moments.any fun m => m.note.purpose = .funding &&
          m.request.any fun q => q.lookedUp? = some "new1",
        run.events.any fun e => e.request = .call (.addressCreated "new2")) =
        (true, true, true) := by decide +kernel
    simp only [Prod.mk.injEq, List.any_eq_true, Option.isSome_iff_exists, Bool.and_eq_true,
      decide_eq_true_eq, Option.any_eq_true] at hseen
    obtain ⟨⟨e, he, intent, hintent⟩, ⟨m, hm, hpurpose, q, hq, hlook⟩, hcreation⟩ := hseen
    obtain ⟨⟨_, created⟩, hcreated, rfl⟩ := hcreation
    refine ⟨hgroups _ (.createTransactions (some 1)), ?_, ?_, ?_⟩
    · obtain ⟨before, after, hevents⟩ := List.mem_iff_append.mp he
      obtain ⟨p, rfl, hsound, hkept⟩ := hintents before e after intent hevents hintent
      exact ⟨e, he, intent, p, hintent, hsound, hkept⟩
    · obtain ⟨past, note, request⟩ := m
      obtain rfl : request = some q := hq
      exact ⟨note, past, hpurpose, hfunding _ hm hpurpose q rfl "new1" hlook, q, hlook, hm⟩
    · obtain ⟨before, after, hevents⟩ := List.mem_iff_append.mp hcreated
      exact ⟨before, created, after, hevents, hannounced before "new2" created after hevents⟩
  · let run := (sizeTransfer (plainSettings .utxo) ⟨"a", 100, none⟩).run (answer .plain)
      (.holding [("a", 100)])
    obtain ⟨-, hsizing, -⟩ :=
      createTransactions_custody (answer .plain) (plainSettings .utxo) 3 (.holding [("a", 100)])
    have hany : run.outcome.any (fun transfer => transfer.context.hasChange) = true := by
      decide +kernel
    obtain ⟨transfer, hrun, hchange⟩ := Run.exists_of_any hany
    exact ⟨run.events, run.state, transfer, hrun, hchange, hsizing _ _ _ _ hrun⟩

end Drive

end TransferDrill

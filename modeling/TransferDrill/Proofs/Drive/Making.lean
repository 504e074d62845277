import TransferDrill.Proofs.Drive.Assembly
import TransferDrill.Proofs.Drive.Path
import TransferDrill.Proofs.Drive.Requests
import TransferDrill.Proofs.Drive.Rounds

/-!
# How addresses are made

The calls that derive an address, keep its key and announce it are made in groups: the key pair of a
group is drawn for it, its public key is derived, and it is kept under the address that was derived
before this is announced. A group is cut short only where the run ends with the fault of its last
call.
-/

namespace TransferDrill.Drive

variable {settings : Settings}

/-! ## Groups -/

/-- A draw of bytes, and the key pair that they give on a curve. -/
inductive Draws : Curve → Event → Except KeyFault KeyPair → Prop
  | secp256k1 (secret : List UInt8) :
      Draws .secp256k1 ⟨.secretBytes, secret⟩ (KeyPair.ofSecret secret)
  | edwards25519 (publicBytes secretBytes : List UInt8) :
      Draws .edwards25519 ⟨.edwardsPair, (publicBytes, secretBytes)⟩
        (.ok (KeyPair.ofEdwards publicBytes secretBytes))

/-- The making of an address: the draw, the key pair of it and the address of the pair. -/
structure Making where
  draw : Event
  pair : KeyPair
  address : String

/-- Everything that happens when an address is made. -/
def Making.events (m : Making) (settings : Settings) : List Event :=
  [m.draw, ⟨.call (.derive settings.network m.pair.publicKey), .ok m.address⟩,
    ⟨.call (.storeKey m.address m.pair), .ok ()⟩, ⟨.call (.addressCreated m.address), .ok ()⟩]

/-- Addresses are made in groups, and nothing else is done with one. -/
inductive Grouped (settings : Settings) : List Event → Prop
  | nil : Grouped settings []
  | other {e : Event} {events : List Event} (he : ¬e.request.MakesAddress)
      (h : Grouped settings events) : Grouped settings (e :: events)
  | group {m : Making} {events : List Event} (hdraw : Draws settings.curve m.draw (.ok m.pair))
      (h : Grouped settings events) : Grouped settings (m.events settings ++ events)

/-- A group that is cut short by its last event, and the failure that the run ends with. -/
inductive CutShort (settings : Settings) : List Event → Failure → Prop
  | keyPair {draw : Event} {fault : KeyFault} (hdraw : Draws settings.curve draw (.error fault)) :
      CutShort settings [draw] (.keyPair fault)
  | derive {draw : Event} {pair : KeyPair} {fault : Fault}
      (hdraw : Draws settings.curve draw (.ok pair)) :
      CutShort settings [draw, ⟨.call (.derive settings.network pair.publicKey), .error fault⟩]
        (fault.failure (.adapter .deriveAddress))
  | storeKey {draw : Event} {pair : KeyPair} {address : String} {fault : Fault}
      (hdraw : Draws settings.curve draw (.ok pair)) :
      CutShort settings [draw, ⟨.call (.derive settings.network pair.publicKey), .ok address⟩,
        ⟨.call (.storeKey address pair), .error fault⟩] (fault.failure (.adapter .storeAddress))
  | addressCreated {draw : Event} {pair : KeyPair} {address : String} {fault : Fault}
      (hdraw : Draws settings.curve draw (.ok pair)) :
      CutShort settings [draw, ⟨.call (.derive settings.network pair.publicKey), .ok address⟩,
        ⟨.call (.storeKey address pair), .ok ()⟩, ⟨.call (.addressCreated address), .error fault⟩]
        (fault.failure (.adapter .announceAddress))

/-- Events up to an outcome in which addresses are made in groups; the last group may be cut short
where the outcome is its failure. -/
inductive InGroups (settings : Settings) {α : Type} : List Event → Outcome α → Prop
  | whole {events : List Event} {outcome : Outcome α} (h : Grouped settings events) :
      InGroups settings events outcome
  | cutShort {whole cut : List Event} {f : Failure} (h : Grouped settings whole)
      (hcut : CutShort settings cut f) : InGroups settings (whole ++ cut) (.failed f)

/-- Groups after groups are groups. -/
theorem Grouped.append {first second : List Event} (h : Grouped settings first)
    (h' : Grouped settings second) : Grouped settings (first ++ second) := by
  induction h with
  | nil => exact h'
  | other he _ ih => exact .other he ih
  | group hdraw _ ih =>
    rw [List.append_assoc]
    exact .group hdraw ih

/-- Where nothing makes an address, there are no groups. -/
theorem Grouped.of_forall {events : List Event} (h : ∀ e ∈ events, ¬e.request.MakesAddress) :
    Grouped settings events := by
  induction events with
  | nil => exact .nil
  | cons e events ih =>
    obtain ⟨he, hrest⟩ := List.forall_mem_cons.mp h
    exact .other he (ih hrest)

/-- Events up to a value are in groups that are whole. -/
theorem InGroups.grouped {α : Type} {events : List Event} {a : α}
    (h : InGroups settings events (.done a)) : Grouped settings events := by
  cases h with
  | whole h => exact h

/-- A failure of making an address is no shortage of the drive's own. -/
theorem CutShort.ne_shortage {events : List Event} {f : Failure} (h : CutShort settings events f)
    (s : Shortage) : f ≠ .shortage s := by
  have hfault (fault : Fault) (activity : Activity) :
      fault.failure (.adapter activity) ≠ .shortage s := by
    cases fault <;> nofun
  cases h with
  | keyPair hdraw => nofun
  | derive hdraw => exact hfault _ _
  | storeKey hdraw => exact hfault _ _
  | addressCreated hdraw => exact hfault _ _

/-! ## Announcements -/

/-- Every address that is announced was stored just before. -/
def StoresFirst (events : List Event) : Prop :=
  ∀ before address reply after,
    events = before ++ ⟨.call (.addressCreated address), reply⟩ :: after →
    ∃ earlier pair, before = earlier ++ [⟨.call (.storeKey address pair), .ok ()⟩]

/-- Two stretches in which addresses are stored before they are announced make one. -/
theorem StoresFirst.append {first second : List Event} (h : StoresFirst first)
    (h' : StoresFirst second) : StoresFirst (first ++ second) := by
  intro before address reply after hevents
  rcases List.append_eq_append_iff.mp hevents with ⟨middle, rfl, hsecond⟩ | ⟨middle, rfl, hmiddle⟩
  · obtain ⟨earlier, pair, rfl⟩ := h' middle address reply after hsecond
    exact ⟨first ++ earlier, pair, (List.append_assoc ..).symm⟩
  · cases middle with
    | nil =>
      obtain ⟨earlier, pair, hnone⟩ := h' [] address reply after (by simpa using hmiddle.symm)
      simp at hnone
    | cons e middle =>
      obtain ⟨rfl, -⟩ := List.cons.inj hmiddle
      exact h before address reply middle rfl

/-- Where no address is announced, none has to be stored before. -/
theorem StoresFirst.of_forall {events : List Event}
    (h : ∀ e ∈ events, ∀ address, e.request ≠ .call (.addressCreated address)) :
    StoresFirst events := by
  rintro before address reply after rfl
  exact absurd rfl (h _ (List.mem_append_right _ List.mem_cons_self) address)

/-- The draw of a key pair announces nothing. -/
theorem Draws.ne_announcement {curve : Curve} {draw : Event} {result : Except KeyFault KeyPair}
    (h : Draws curve draw result) (address : String) :
    draw.request ≠ .call (.addressCreated address) := by
  cases h <;> nofun

/-- The last event of a group is the announcement of what was stored by the one before. -/
theorem storesFirst_of_group {draw : Event} {result : Except KeyFault KeyPair} {key : PublicKey}
    {pair : KeyPair} {address : String} {reply : Except Fault Unit}
    (hdraw : Draws settings.curve draw result) :
    StoresFirst [draw, ⟨.call (.derive settings.network key), .ok address⟩,
      ⟨.call (.storeKey address pair), .ok ()⟩, ⟨.call (.addressCreated address), reply⟩] := by
  intro before announced last after hevents
  -- what comes before the announcement is as long as the group without it
  match before, hevents with
  | [], h => exact absurd (congrArg Event.request (List.cons.inj h).1) (hdraw.ne_announcement _)
  | [_], h => simp at h
  | [_, _], h => simp at h
  | [_, _, _], h =>
    simp only [List.cons_append, List.nil_append, List.cons.injEq] at h
    obtain ⟨rfl, rfl, rfl, hlast, -⟩ := h
    cases hlast
    exact ⟨[draw, ⟨.call (.derive settings.network key), .ok address⟩], pair, rfl⟩
  | _ :: _ :: _ :: _ :: _, h => simp at h

/-- In a group the key is stored just before the address is announced. -/
theorem Grouped.storesFirst {events : List Event} (h : Grouped settings events) :
    StoresFirst events := by
  induction h with
  | nil => exact .of_forall (by simp)
  | @other e events he _ ih =>
    have hfirst : StoresFirst [e] := by
      refine .of_forall (List.forall_mem_singleton.mpr fun address hannounced => ?_)
      rw [hannounced] at he
      exact he trivial
    exact hfirst.append ih
  | group hdraw _ ih => exact .append (storesFirst_of_group hdraw) ih

/-- Where addresses are made in groups, none is announced before its key is stored. -/
theorem InGroups.storesFirst {α : Type} {events : List Event} {outcome : Outcome α}
    (h : InGroups settings events outcome) : StoresFirst events := by
  cases h with
  | whole h => exact h.storesFirst
  | cutShort h hcut =>
    refine h.storesFirst.append ?_
    cases hcut with
    | addressCreated hdraw => exact storesFirst_of_group hdraw
    | keyPair hdraw => exact .of_forall (by simpa using hdraw.ne_announcement)
    | derive hdraw => exact .of_forall (by simpa using hdraw.ne_announcement)
    | storeKey hdraw => exact .of_forall (by simpa using hdraw.ne_announcement)

/-! ## Scripts that make addresses in groups -/

/-- On every path of a script, addresses are made in groups. -/
def MakesInGroups (settings : Settings) {α : Type} (script : Script α) : Prop :=
  ∀ events outcome, script.Leads events outcome → InGroups settings events outcome

section Composing

variable {α β : Type}

/-- One script after another makes addresses in groups if both do. -/
theorem MakesInGroups.bind {script : Script α} {next : α → Script β}
    (h : MakesInGroups settings script) (hnext : ∀ a, MakesInGroups settings (next a)) :
    MakesInGroups settings (script.bind next) := by
  intro events outcome hleads
  rcases Script.leads_bind hleads with ⟨a, first, second, hfirst, hsecond, rfl⟩ | ⟨cut, hcut, hstop⟩
  · have hwhole : Grouped settings first := (h first _ hfirst).grouped
    cases hnext a second outcome hsecond with
    | whole hlater => exact .whole (hwhole.append hlater)
    | cutShort hlater hcut =>
      rw [← List.append_assoc]
      exact .cutShort (hwhole.append hlater) hcut
  · cases h events cut hstop with
    | whole hwhole => exact .whole hwhole
    | cutShort hwhole hlast =>
      cases hcut
      exact .cutShort hwhole hlast

/-- A script without requests for making an address makes none. -/
theorem MakesInGroups.of_onlyAsks {script : Script α}
    (h : script.OnlyAsks fun q => ¬q.MakesAddress) : MakesInGroups settings script :=
  fun _ _ hleads => .whole (.of_forall (h.of_leads hleads))

/-- Catching shortages leaves the groups as they are. -/
theorem MakesInGroups.catchShortage {script : Script α} (h : MakesInGroups settings script) :
    MakesInGroups settings script.catchShortage := by
  intro events outcome hleads
  rcases Script.leads_catchShortage hleads with
    ⟨a, rfl, hdone⟩ | ⟨s, rfl, hshort⟩ | ⟨cut, hcut, hstop⟩
  · exact .whole (h events _ hdone).grouped
  · -- a group that is cut short does not end in a shortage
    cases h events _ hshort with
    | whole hwhole => exact .whole hwhole
    | cutShort hwhole hlast => exact absurd rfl (hlast.ne_shortage s)
  · cases h events cut hstop with
    | whole hwhole => exact .whole hwhole
    | cutShort hwhole hlast =>
      cases hcut
      exact .cutShort hwhole hlast

end Composing

/-- A script of the parts of the drive other than the making of addresses makes none. -/
theorem asksForNoAddress_compositional :
    Compositional fun script => script.OnlyAsks fun q => ¬q.MakesAddress where
  done _ := trivial
  failed _ := trivial
  bind := .bind
  call _ _ hcall := .attempt hcall
  request q hq := by
    cases q with
    | call c => exact hq.elim
    | _ => first | exact hq.elim | exact .request id

/-- That addresses are made in groups is kept by putting scripts together. -/
theorem makesInGroups_compositional : Compositional (MakesInGroups settings) where
  done _ := .of_onlyAsks trivial
  failed _ := .of_onlyAsks trivial
  bind := .bind
  call _ _ hcall := .of_onlyAsks (.attempt hcall)
  request q hq := .of_onlyAsks (asksForNoAddress_compositional.request q hq)

/-- A key pair is made of one draw. -/
theorem newKeyPair_leads {curve : Curve} {events : List Event} {outcome : Outcome KeyPair}
    (h : (newKeyPair curve).Leads events outcome) :
    (∃ draw pair, events = [draw] ∧ Draws curve draw (.ok pair) ∧ outcome = .done pair) ∨
      (∃ draw fault, events = [draw] ∧ Draws curve draw (.error fault) ∧
        outcome = .failed (.keyPair fault)) ∨
      events = [] ∧ ∃ f, outcome = .failed f := by
  unfold newKeyPair at h
  cases curve with
  | secp256k1 =>
    obtain ⟨secret, later, rfl, hlater⟩ := Script.leads_ask_iff.mp h
    have hdraw := Draws.secp256k1 secret
    revert hlater hdraw
    change (Script.ofExcept .keyPair (KeyPair.ofSecret secret)).Leads later outcome → _
    cases KeyPair.ofSecret secret with
    | ok pair =>
      intro hlater hdraw
      obtain ⟨rfl, rfl⟩ := Script.leads_done_iff.mp hlater
      exact .inl ⟨_, pair, rfl, hdraw, rfl⟩
    | error fault =>
      intro hlater hdraw
      obtain ⟨rfl, rfl⟩ := Script.leads_failed_iff.mp hlater
      exact .inr (.inl ⟨_, fault, rfl, hdraw, rfl⟩)
  | edwards25519 =>
    obtain ⟨⟨publicBytes, secretBytes⟩, later, rfl, hlater⟩ := Script.leads_ask_iff.mp h
    obtain ⟨rfl, rfl⟩ := Script.leads_done_iff.mp hlater
    exact .inl ⟨_, _, rfl, .edwards25519 publicBytes secretBytes, rfl⟩
  | _ =>
    obtain ⟨rfl, rfl⟩ := Script.leads_failed_iff.mp h
    exact .inr (.inr ⟨rfl, _, rfl⟩)

/-- Making an address is one group, unless the curve has no key pairs. -/
theorem newAddress_leads {events : List Event} {outcome : Outcome String}
    (h : (newAddress settings).Leads events outcome) :
    (∃ (m : Making) (text : String), Draws settings.curve m.draw (.ok m.pair) ∧
      events = m.events settings ++ [⟨.log .info text, ()⟩] ∧ outcome = .done m.address) ∨
      (∃ f, CutShort settings events f ∧ outcome = .failed f) ∨
      events = [] ∧ ∃ f, outcome = .failed f := by
  rw [newAddress] at h
  simp only [Script.bind_eq, Script.pure_eq, Script.call] at h
  rcases Script.leads_bind h with ⟨pair, drawn, later, hdrawn, hlater, rfl⟩ | ⟨cut, hcut, hstop⟩
  · obtain ⟨draw, rfl, hdraw⟩ : ∃ draw, drawn = [draw] ∧ Draws settings.curve draw (.ok pair) := by
      rcases newKeyPair_leads hdrawn with ⟨draw, _, rfl, hdraw, ⟨⟩⟩ | ⟨_, _, -, -, ⟨⟩⟩ | ⟨-, _, ⟨⟩⟩
      exact ⟨draw, rfl, hdraw⟩
    rcases Script.leads_attempt_bind hlater with
      ⟨fault, rfl, rfl⟩ | ⟨address, derived, rfl, hderived⟩
    · exact .inr (.inl ⟨_, .derive hdraw, rfl⟩)
    rcases Script.leads_attempt_bind hderived with ⟨fault, rfl, rfl⟩ | ⟨_, stored, rfl, hstored⟩
    · exact .inr (.inl ⟨_, .storeKey hdraw, rfl⟩)
    rcases Script.leads_attempt_bind hstored with ⟨fault, rfl, rfl⟩ | ⟨_, told, rfl, htold⟩
    · exact .inr (.inl ⟨_, .addressCreated hdraw, rfl⟩)
    obtain ⟨_, logged, rfl, hlogged⟩ := Script.leads_ask_iff.mp htold
    obtain ⟨rfl, rfl⟩ := Script.leads_done_iff.mp hlogged
    exact .inl ⟨⟨draw, pair, address⟩, _, hdraw, rfl, rfl⟩
  · rcases newKeyPair_leads hstop with
      ⟨_, _, -, -, rfl⟩ | ⟨draw, fault, rfl, hdraw, rfl⟩ | ⟨rfl, f, rfl⟩
    · cases hcut
    · cases hcut
      exact .inr (.inl ⟨_, .keyPair hdraw, rfl⟩)
    · cases hcut
      exact .inr (.inr ⟨rfl, f, rfl⟩)

/-- Making an address is one group, which a call may cut short. -/
theorem newAddress_makesInGroups : MakesInGroups settings (newAddress settings) := by
  intro events outcome hleads
  rcases newAddress_leads hleads with ⟨m, text, hdraw, rfl, rfl⟩ | ⟨f, hcut, rfl⟩ | ⟨rfl, -⟩
  · exact .whole (.group hdraw (.other id .nil))
  · exact .cutShort .nil hcut
  · exact .whole .nil

/-! ## Loops -/

/-- While funds are awaited, no address is made. -/
theorem awaitFundsFrom_asksForNoAddress (address : String) (rounds : Nat) (announced : Bool) :
    (awaitFundsFrom settings address rounds announced).OnlyAsks fun q => ¬q.MakesAddress :=
  awaitFundsFrom_onlyAsks (asksForNoAddress_compositional.holding address) (fun _ _ => id)
    (fun _ => id) rounds announced

/-- An address that is made to be funded is made in a group, and none is made while its funds are
awaited. -/
theorem fundNewAddress_makesInGroups (patience : Nat) :
    MakesInGroups settings (fundNewAddress settings patience) := by
  refine newAddress_makesInGroups.bind fun address => .bind (.of_onlyAsks ?_) fun _ => ?_
  · exact (awaitFundsFrom_asksForNoAddress address patience false).reportAs
  · exact .of_onlyAsks trivial

/-- The search for a sender makes addresses in groups, by induction on the rounds. -/
theorem findSenderFrom_makesInGroups (patience rounds : Nat) :
    MakesInGroups settings (findSenderFrom settings patience rounds) := by
  have h : Compositional (MakesInGroups settings) := makesInGroups_compositional
  induction rounds with
  | zero => exact .of_onlyAsks trivial
  | succ rounds ih =>
    rw [findSenderFrom]
    have hfund : MakesInGroups settings ((fundNewAddress settings patience).bind fun _ =>
        findSenderFrom settings patience rounds) :=
      (fundNewAddress_makesInGroups patience).bind fun _ => ih
    refine .bind (h.call _ _ id) fun addresses => ?_
    split
    · exact hfund
    · refine .bind (h.bestUnlocked addresses) fun best => ?_
      split
      · exact h.done _
      · refine .bind (h.call _ _ id) fun broadcasts => ?_
        split
        · exact hfund
        · exact .bind (h.log _ _) fun _ => .bind (.of_onlyAsks (.sleep id)) fun _ => ih

/-- The wait after a shortage makes addresses in groups. -/
theorem awaitChange_makesInGroups (patience : Nat) (shortage : Shortage) :
    MakesInGroups settings (awaitChange settings patience shortage) := by
  have h : Compositional (MakesInGroups settings) := makesInGroups_compositional
  refine .bind (h.call _ _ id) fun broadcasts => ?_
  split
  · exact .bind (h.log _ _) fun _ => fundNewAddress_makesInGroups patience
  · exact .bind (h.log _ _) fun _ => .of_onlyAsks (.sleep id)

/-- A round makes addresses in groups. -/
theorem round_makesInGroups (patience : Nat) :
    MakesInGroups settings (round settings patience) := by
  have h : Compositional (MakesInGroups settings) := makesInGroups_compositional
  refine .bind (findSenderFrom_makesInGroups patience patience) fun sender => ?_
  refine .bind (h.sizeTransfer newAddress_makesInGroups sender).catchShortage fun result => ?_
  cases result with
  | ok transfer => exact .bind (h.makeTransfer sender transfer) fun _ => h.done _
  | error shortage => exact .bind (awaitChange_makesInGroups patience shortage) fun _ => h.done _

/-- The driver makes addresses in groups, by induction on the rounds. -/
theorem createTransactionsFrom_makesInGroups (patience : Nat) (wanted : Option Int)
    (rounds created : Nat) :
    MakesInGroups settings (createTransactionsFrom settings patience wanted rounds created) := by
  induction rounds, created using rounds_induction wanted with
  | done rounds created henough =>
    rw [createTransactionsFrom_of_enough henough]
    exact .of_onlyAsks trivial
  | cut created henough =>
    rw [createTransactionsFrom_zero henough]
    exact .of_onlyAsks trivial
  | more rounds created henough ih =>
    rw [createTransactionsFrom_succ henough]
    exact (round_makesInGroups patience).bind fun made => ih made.toNat

/-- Whatever part of the drive is run, addresses are made in groups. -/
theorem Part.makesInGroups {patience : Nat} {α : Type} {script : Script α}
    (h : Part settings patience script) : MakesInGroups settings script := by
  have hparts : Compositional (MakesInGroups settings) := makesInGroups_compositional
  have hnew : MakesInGroups settings (Drive.newAddress settings) := newAddress_makesInGroups
  cases h with
  | holding address => exact hparts.holding address
  | newAddress => exact hnew
  | awaitFunds address =>
    exact .of_onlyAsks (awaitFundsFrom_asksForNoAddress address patience false)
  | fundNewAddress => exact fundNewAddress_makesInGroups patience
  | bestUnlocked addresses => exact hparts.bestUnlocked addresses
  | findSender => exact findSenderFrom_makesInGroups patience patience
  | findRecipients sender => exact hparts.findRecipients sender
  | pickAddress candidates => exact hparts.pickAddress hnew candidates
  | sizeAccount sender balance recipients => exact hparts.sizeAccount hnew sender balance recipients
  | sizeCoin sender coinValue candidates coin =>
    exact hparts.sizeCoin hnew sender coinValue candidates coin
  | sizeTransfer sender => exact hparts.sizeTransfer hnew sender
  | createTransaction intent => exact hparts.createTransaction intent
  | createTransactions wanted =>
    exact createTransactionsFrom_makesInGroups patience wanted patience 0

end TransferDrill.Drive

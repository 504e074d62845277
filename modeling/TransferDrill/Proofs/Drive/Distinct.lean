import TransferDrill.Proofs.Drive.Custody
import TransferDrill.Proofs.Drive.Sender

/-!
# Outputs that are kept apart

As long as derived addresses are new, no transfer pays its sender and no two outputs of a transfer
go to one address, whether each is picked from a list or made, and whatever repeats in that list.
-/

namespace TransferDrill

/-- The addresses that come back in an event, listed or derived. -/
def Event.shown : Event → List String
  | ⟨.call .allAddresses, .ok addresses⟩ => addresses
  | ⟨.call (.derive ..), .ok address⟩ => [address]
  | _ => []

/-- The address that is derived in an event. -/
def Event.derived? : Event → Option String
  | ⟨.call (.derive ..), .ok address⟩ => some address
  | _ => none

/-- The recipient is not the sender, and change goes to neither of them. -/
structure Context.Distinct (context : Context) : Prop where
  recipient : context.recipient ≠ context.sender
  change : context.hasChange = true →
    context.changeAddress ≠ context.sender ∧ context.changeAddress ≠ context.recipient

namespace Drive

open Rehearsal

variable {settings : Settings}

/-- An address has come back, listed or derived. -/
def Occurs (past : List Event) (address : String) : Prop :=
  ∃ e ∈ past, address ∈ e.shown

/-- No address is derived that has come back before. -/
def DerivesFresh (events : List Event) : Prop :=
  events.Pairwise fun earlier later => ∀ address ∈ later.derived?, address ∉ earlier.shown

instance (events : List Event) : Decidable (DerivesFresh events) :=
  inferInstanceAs (Decidable (events.Pairwise _))

/-- An address that has come back has done so as more happens. -/
theorem Occurs.mono {past later : List Event} {address : String} (h : Occurs past address)
    (hsub : past ⊆ later) : Occurs later address := by
  obtain ⟨e, hmem, hshown⟩ := h
  exact ⟨e, hsub hmem, hshown⟩

/-- An address that has been listed has come back. -/
theorem Listed.occurs {past : List Event} {address : String} (h : Listed past address) :
    Occurs past address := by
  obtain ⟨addresses, hmem, haddress⟩ := h
  exact ⟨_, hmem, haddress⟩

/-- Where only fresh addresses are derived, this was so up to any moment. -/
theorem DerivesFresh.of_append {past events : List Event} (h : DerivesFresh (past ++ events)) :
    DerivesFresh past :=
  (List.pairwise_append.mp h).1

/-- An address that is derived after a past did not occur in it. -/
theorem DerivesFresh.not_occurs {past events : List Event} {e : Event} {address : String}
    (h : DerivesFresh (past ++ events)) (he : e ∈ events) (hderived : address ∈ e.derived?) :
    ¬Occurs past address := by
  rintro ⟨earlier, hearlier, hshown⟩
  exact (List.pairwise_append.mp h).2.2 earlier hearlier e he address hderived hshown

/-! ## Picks -/

/-- A pick is a candidate, or it is new and has occurred since. -/
theorem Picked.fresh {candidates : List String} {past events : List Event} {pick : Pick}
    (h : Picked settings candidates events pick) (hfresh : DerivesFresh (past ++ events)) :
    (pick.created = false ∧ pick.address ∈ candidates) ∨
      (pick.created = true ∧ ¬Occurs past pick.address ∧ Occurs events pick.address) := by
  cases h with
  | reused hmem => exact .inl ⟨rfl, hmem⟩
  | @created asked m text _ =>
    let derivation : Event :=
      ⟨.call (.derive settings.network m.pair.publicKey), .ok m.address⟩
    have hmem : derivation ∈ asked ++ m.events settings ++ [⟨.log .info text, ()⟩] := by
      simp [Making.events, derivation]
    exact .inr ⟨rfl, hfresh.not_occurs hmem rfl, derivation, hmem, List.mem_singleton_self _⟩

/-- A pick is not an address that occurred before and is no candidate. -/
theorem Picked.ne_of_occurs {candidates : List String} {past events : List Event} {pick : Pick}
    {address : String} (h : Picked settings candidates events pick)
    (hfresh : DerivesFresh (past ++ events)) (hoccurs : Occurs past address)
    (hne : ∀ candidate ∈ candidates, candidate ≠ address) : pick.address ≠ address := by
  rcases h.fresh hfresh with ⟨-, hmem⟩ | ⟨-, hnew, -⟩
  · exact hne _ hmem
  · rintro rfl
    exact hnew hoccurs

/-- A second pick is not the first one: an address that was made is new among the candidates, and
another is taken out of them. -/
theorem Picked.ne_first {candidates : List String} {past picking changing : List Event}
    {pick change : Pick} (hpick : Picked settings candidates picking pick)
    (hchange : Picked settings
      (if pick.created then candidates else candidates.filter (· != pick.address))
      changing change)
    (hlisted : ∀ a ∈ candidates, Occurs past a)
    (hfresh : DerivesFresh (past ++ picking ++ changing)) : change.address ≠ pick.address := by
  rcases hpick.fresh hfresh.of_append with ⟨hreused, hmem⟩ | ⟨hcreated, hnew, hmade⟩
  · have hoccurs : Occurs (past ++ picking) pick.address :=
      (hlisted _ hmem).mono (List.subset_append_left ..)
    refine hchange.ne_of_occurs hfresh hoccurs fun a ha => ?_
    rw [hreused, if_neg nofun] at ha
    simpa using (List.mem_filter.mp ha).2
  · have hoccurs : Occurs (past ++ picking) pick.address :=
      hmade.mono (List.subset_append_right ..)
    refine hchange.ne_of_occurs hfresh hoccurs ?_
    rintro a ha rfl
    exact hnew (hlisted _ (mem_of_mem_left ha))

/-- Outputs that are picked among listed addresses other than the sender are kept apart. -/
theorem Pays.distinct {addresses : List String} {past events : List Event} {context : Context}
    (h : Pays settings (addresses.filter (· != context.sender)) events context)
    (hsender : Occurs past context.sender) (hlisted : ∀ a ∈ addresses, Occurs past a)
    (hfresh : DerivesFresh (past ++ events)) : context.Distinct := by
  have hothers : ∀ a ∈ addresses.filter (· != context.sender), a ≠ context.sender := by simp
  cases h with
  | @recipient earlier picking later pick _ hpick hrecipient hchange =>
    have hpicking : DerivesFresh (past ++ earlier ++ picking) :=
      (show DerivesFresh (past ++ earlier ++ picking ++ later) by simpa using hfresh).of_append
    refine ⟨?_, fun hsome => ?_⟩
    · rw [hrecipient]
      exact hpick.ne_of_occurs hpicking (hsender.mono (List.subset_append_left ..)) hothers
    · rw [hchange] at hsome
      cases hsome
  | @change earlier picking changing later pick change _ hpick hrecipient hleft hchange =>
    have hchanging : DerivesFresh (past ++ earlier ++ picking ++ changing) :=
      (show DerivesFresh (past ++ earlier ++ picking ++ changing ++ later) by
        simpa using hfresh).of_append
    refine ⟨?_, fun _ => ⟨?_, ?_⟩⟩
    · rw [hrecipient]
      have hsource := hsender.mono (List.subset_append_left past earlier)
      exact hpick.ne_of_occurs hchanging.of_append hsource hothers
    · rw [hchange]
      have hsource : Occurs (past ++ earlier ++ picking) context.sender :=
        hsender.mono fun e he => by simp [he]
      exact hleft.ne_of_occurs hchanging hsource fun a ha => hothers a (mem_of_mem_left ha)
    · rw [hchange, hrecipient]
      refine hpick.ne_first hleft (fun a ha => ?_) hchanging
      exact (hlisted a (List.mem_filter.mp ha).1).mono (List.subset_append_left ..)

/-! ## Runs -/

/-- A transfer between accounts is from the sender that it is sized for. -/
theorem sizeAccount_sender (sender : String) (balance : Int) (recipients : Recipients) :
    (sizeAccount settings sender balance recipients).ReturnsOnly fun transfer =>
      transfer.context.sender = sender := by
  rw [sizeAccount]
  dsimp only
  split
  · exact .bind fun pick => .bind fun value => Eq.refl sender
  · split
    · split
      · trivial
      · exact .bind fun value => Eq.refl sender
    · trivial

/-- A transfer of a coin is from the sender that it is sized for. -/
theorem sizeCoin_sender (sender : String) (coinValue : Int) (candidates : List String)
    (coin : Option CoinIdentifier) :
    (sizeCoin settings sender coinValue candidates coin).ReturnsOnly fun transfer =>
      transfer.context.sender = sender := by
  rw [sizeCoin]
  dsimp only
  split
  · trivial
  · refine .bind fun pick => ?_
    split
    · exact .bind fun change => .bind fun share => Eq.refl sender
    · exact .bind fun value => Eq.refl sender

/-- A transfer is from the sender that it was sized for. -/
theorem sizeTransfer_sender (sender : Sender) :
    (sizeTransfer settings sender).ReturnsOnly fun transfer =>
      transfer.context.sender = sender.address := by
  refine .bind fun recipients => ?_
  cases settings.accounting with
  | account => exact sizeAccount_sender _ _ _
  | utxo => exact sizeCoin_sender _ _ _ _

/-- As long as derived addresses are new, a transfer from a listed sender keeps its outputs
apart. -/
theorem sizeTransfer_distinct {sender : Sender} {past events : List Event} {transfer : Transfer}
    (h : (sizeTransfer settings sender).Leads events (.done transfer))
    (hfresh : DerivesFresh (past ++ events))
    (hlisted : Listed (past ++ events.take 1) sender.address) :
    transfer.context.Distinct := by
  have hsource : transfer.context.sender = sender.address :=
    (sizeTransfer_sender sender).of_leads h
  obtain ⟨addresses, later, rfl, hpays⟩ := sizeTransfer_pays h
  rw [← hsource] at hpays hlisted
  rw [List.append_cons] at hfresh
  have hreply (a : String) (ha : a ∈ addresses) :
      Occurs (past ++ [⟨.call .allAddresses, .ok addresses⟩]) a := ⟨_, List.mem_concat_self, ha⟩
  exact hpays.distinct hlisted.occurs hreply hfresh

/-- No transfer pays its own sender, and no two outputs of one are merged, as long as derived
addresses are new. This holds whenever a transfer is sized for a sender that has been listed,
whatever has happened before, and so of every transfer that a drive makes something of. -/
theorem createTransactions_distinct {σ : Type} (answer : Environment σ) (settings : Settings)
    (start : σ) :
    (∀ past sender events after transfer,
      (sizeTransfer settings sender).run answer start = ⟨events, after, .done transfer⟩ →
      DerivesFresh (past ++ events) → Listed (past ++ events.take 1) sender.address →
      transfer.context.sender = sender.address ∧ transfer.context.Distinct) ∧
    ∀ patience wanted before e after intent,
      ((createTransactions settings patience wanted).run answer start).events =
        before ++ e :: after →
      DerivesFresh before → e.request.intent? = some intent →
      ∃ p : Plan, p.past = before ∧ p.Sound settings patience intent ∧
        p.transfer.context.sender = p.sender.address ∧ p.transfer.context.Distinct := by
  constructor
  · intro past sender events after transfer hrun hfresh hlisted
    obtain ⟨hsized, -⟩ := (Script.run_eq_iff ..).mp hrun
    exact ⟨(sizeTransfer_sender sender).of_leads hsized,
      sizeTransfer_distinct hsized hfresh hlisted⟩
  · intro patience wanted before e after intent hevents hfresh hintent
    obtain ⟨p, rfl, hsound⟩ :=
      createTransactions_planned (Script.leads_run answer _ start) hevents hintent
    refine ⟨p, rfl, hsound, (sizeTransfer_sender p.sender).of_leads hsound.sized, ?_⟩
    refine sizeTransfer_distinct hsound.sized hfresh.of_append ?_
    obtain ⟨earlier, s, hselecting, hoffers⟩ := findSenderFrom_leads_done hsound.found
    refine ⟨s.addresses, ?_, hoffers.listed⟩
    simp [hselecting, Selection.events]

/-- In a rehearsal in which the sender is listed twice, its coin goes to a listed recipient and to a
change address that is made. -/
theorem createTransactions_distinct_rehearsed :
    (∃ events after transfer,
      (sizeTransfer (plainSettings .utxo) ⟨"a", 100, none⟩).run (answer .plain)
        (.holding [("a", 100), ("b", 50), ("a", 100)]) = ⟨events, after, .done transfer⟩ ∧
      transfer.context.hasChange = true ∧ transfer.context.Distinct) ∧
    ∃ (p : Plan) (intent : List Operation), DerivesFresh p.past ∧
      p.Sound (plainSettings .utxo) 3 intent ∧ p.transfer.context.Distinct := by
  obtain ⟨hsizing, hruns⟩ := createTransactions_distinct (answer .plain) (plainSettings .utxo)
    (.holding [("a", 100), ("b", 50), ("a", 100)])
  constructor
  · let run := (sizeTransfer (plainSettings .utxo) ⟨"a", 100, none⟩).run (answer .plain)
      (.holding [("a", 100), ("b", 50), ("a", 100)])
    have hany : run.outcome.any (fun transfer => transfer.context.hasChange) = true := by
      decide +kernel
    obtain ⟨transfer, hrun, hchange⟩ := Run.exists_of_any hany
    have hfresh : DerivesFresh ([] ++ run.events) := by decide +kernel
    have hlisted : Listed ([] ++ run.events.take 1) "a" :=
      ⟨["a", "b", "a"], List.mem_cons_self, List.mem_cons_self⟩
    exact ⟨run.events, run.state, transfer, hrun, hchange,
      (hsizing [] _ _ _ _ hrun hfresh hlisted).2⟩
  · let run := (createTransactions (plainSettings .utxo) 3 (some 1)).run (answer .plain)
      (.holding [("a", 100), ("b", 50), ("a", 100)])
    have hseen : run.events.any (fun e => e.request.intent?.isSome) = true := by decide +kernel
    have hfresh : DerivesFresh run.events := by decide +kernel
    simp only [List.any_eq_true, Option.isSome_iff_exists] at hseen
    obtain ⟨e, he, intent, hintent⟩ := hseen
    obtain ⟨before, after, hevents⟩ := List.mem_iff_append.mp he
    rw [hevents] at hfresh
    obtain ⟨p, rfl, hsound, -, hdistinct⟩ :=
      hruns 3 (some 1) before e after intent hevents hfresh.of_append hintent
    exact ⟨p, intent, hfresh.of_append, hsound, hdistinct⟩

end Drive

end TransferDrill

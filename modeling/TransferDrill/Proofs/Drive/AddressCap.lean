import TransferDrill.Proofs.Drive.FirstFault
import TransferDrill.Proofs.Drive.Outputs
import TransferDrill.Proofs.Drive.Requests
import TransferDrill.Proofs.Rehearsal.Plain

/-!
# The cap on addresses

While candidates are left, one draw and the number of addresses known at that moment decide whether
a pick makes an address; only an empty pool makes one in any case. An address other than the sender
keeps the pool of the first pick from being empty, and another one that of the second. So a transfer
is sized without going beyond the cap, however close to it the first pick has come.
-/

namespace TransferDrill

/-- Whether a key is to be kept. -/
def Event.storesKey (e : Event) : Bool :=
  match e.request with
  | .call (.storeKey ..) => true
  | _ => false

/-- How many keys are to be kept. -/
def keysStored (events : List Event) : Nat := events.countP Event.storesKey

/-- At first no key has been stored. -/
@[simp] theorem keysStored_nil : keysStored [] = 0 := rfl

/-- A first event counts if a key is stored at it. -/
@[simp] theorem keysStored_cons (e : Event) (events : List Event) :
    keysStored (e :: events) = keysStored events + e.storesKey.toNat := by
  cases h : e.storesKey <;> simp [keysStored, h]

/-- Stored keys add up. -/
@[simp] theorem keysStored_append (first second : List Event) :
    keysStored (first ++ second) = keysStored first + keysStored second :=
  List.countP_append

/-- Where nothing that is asked for keeps a key, none is kept. -/
theorem keysStored_eq_zero {kind : Ask → Prop}
    (hkind : ∀ address pair, ¬kind (.call (.storeKey address pair)))
    {events : List Event} (h : ∀ e ∈ events, kind e.request) : keysStored events = 0 := by
  refine List.countP_eq_zero.mpr fun e he hstores => ?_
  unfold Event.storesKey at hstores
  split at hstores
  · next hrequest => exact hkind _ _ (hrequest ▸ h e he)
  · cases hstores

/-- A request for an amount. -/
def Ask.DrawsAmount : Ask → Prop
  | .uniform .. => True
  | _ => False

/-- The addresses that an environment knows: these are listed, a key that is kept adds one at most,
and nothing else that is asked for while a transfer is sized adds any. -/
structure Environment.Knows {σ : Type} (answer : Environment σ) (known : σ → List String) :
    Prop where
  lists : ∀ state addresses,
    (answer (.call .allAddresses) state).1 = .ok addresses → addresses = known state
  stores : ∀ address pair state,
    (known (answer (.call (.storeKey address pair)) state).2).length ≤ (known state).length + 1
  keeps : ∀ (q : Ask) (state : σ), q.InSizing →
    (∀ address pair, q ≠ .call (.storeKey address pair)) →
    (known (answer q state).2).length ≤ (known state).length

namespace Drive

open Rehearsal

variable {settings : Settings}

/-! ## Turns -/

/-- The draw exceeds the probability and the addresses that are known leave room for another. -/
def GoesOn (settings : Settings) (available : List String) (draw : Binary64) : Prop :=
  settings.newAddressProbability.exact.less draw.exact = true ∧
    available.length < settings.maxAddresses

/-- How an address is picked while there are candidates: what is known is listed and a number is
drawn, and either a new address is made or the first candidate is taken. -/
inductive Turn (settings : Settings) : List String → List Event → Outcome Pick → Prop
  | unlisted {candidates : List String} (fault : Fault) :
      Turn settings candidates [⟨.call .allAddresses, .error fault⟩]
        (.failed (fault.failure (.adapter .listAvailable)))
  | taken {first : String} {rest available : List String} {draw : Binary64}
      (hstays : ¬GoesOn settings available draw) :
      Turn settings (first :: rest) [⟨.call .allAddresses, .ok available⟩, ⟨.probability, draw⟩]
        (.done ⟨first, false⟩)
  | made {candidates available : List String} {draw : Binary64} {making : List Event}
      {address : String} (hgoes : GoesOn settings available draw)
      (hmaking : (newAddress settings).Leads making (.done address)) :
      Turn settings candidates
        (⟨.call .allAddresses, .ok available⟩ :: ⟨.probability, draw⟩ :: making)
        (.done ⟨address, true⟩)
  | unmade {candidates available : List String} {draw : Binary64} {making : List Event}
      {f : Failure} (hgoes : GoesOn settings available draw)
      (hmaking : (newAddress settings).Leads making (.failed f)) :
      Turn settings candidates
        (⟨.call .allAddresses, .ok available⟩ :: ⟨.probability, draw⟩ :: making) (.failed f)

/-- What is left of some candidates after a pick: an address that was taken is no longer there. -/
def leftAfter (candidates : List String) (pick : Pick) : List String :=
  if pick.created then candidates else candidates.filter (· != pick.address)

/-- Turns one after another, each among the candidates that the turns before it have left; a turn
that fails is the last one. -/
inductive Turns (settings : Settings) : List String → List (Outcome Pick) → List Event → Prop
  | nil (candidates : List String) : Turns settings candidates [] []
  | last {candidates : List String} {events : List Event} {f : Failure}
      (h : Turn settings candidates events (.failed f)) :
      Turns settings candidates [.failed f] events
  | cons {candidates : List String} {first later : List Event} {pick : Pick}
      {turns : List (Outcome Pick)} (h : Turn settings candidates first (.done pick))
      (hlater : Turns settings (leftAfter candidates pick) turns later) :
      Turns settings candidates (.done pick :: turns) (first ++ later)

/-- A single turn that picks something is a series of turns. -/
theorem Turn.turns {candidates : List String} {events : List Event} {pick : Pick}
    (h : Turn settings candidates events (.done pick)) :
    Turns settings candidates [.done pick] events := by
  have hturns := Turns.cons h (.nil _)
  rwa [List.append_nil] at hturns

/-- As long as there is a candidate, an address is picked in a turn. -/
theorem pickAddress_leads_turn {candidates : List String} {events : List Event}
    {outcome : Outcome Pick} (hsome : candidates ≠ [])
    (h : (pickAddress settings candidates).Leads events outcome) :
    Turn settings candidates events outcome := by
  obtain ⟨first, rest, rfl⟩ := List.exists_cons_of_ne_nil hsome
  rw [pickAddress] at h
  simp only [Script.bind_eq, Script.pure_eq, Script.call] at h
  rcases Script.leads_attempt_bind h with ⟨fault, rfl, rfl⟩ | ⟨available, later, rfl, hlater⟩
  · exact .unlisted fault
  obtain ⟨draw, decided, rfl, hdecided⟩ := Script.leads_ask_iff.mp hlater
  change Script.Leads (ite _ _ _) _ _ at hdecided
  split at hdecided
  · next hgoes =>
    rw [Bool.and_eq_true, decide_eq_true_eq] at hgoes
    rcases Script.leads_bind hdecided with
      ⟨address, making, last, hmaking, hlast, rfl⟩ | ⟨cut, hstops, hmaking⟩
    · obtain ⟨rfl, rfl⟩ := Script.leads_done_iff.mp hlast
      rw [List.append_nil]
      exact .made hgoes hmaking
    · cases hstops with
      | failed f => exact .unmade hgoes hmaking
      | unfinished =>
        rcases newAddress_leads hmaking with ⟨_, _, -, -, ⟨⟩⟩ | ⟨_, -, ⟨⟩⟩ | ⟨-, _, ⟨⟩⟩
  · next hstays =>
    rw [Bool.and_eq_true, decide_eq_true_eq] at hstays
    obtain ⟨rfl, rfl⟩ := Script.leads_done_iff.mp hdecided
    exact .taken hstays

/-- A script that begins with a pick among some candidates goes on after a turn, or fails in it. -/
theorem pickAddress_bind_leads {α : Type} {candidates : List String} {next : Pick → Script α}
    {events : List Event} {outcome : Outcome α} (hsome : candidates ≠ [])
    (h : ((pickAddress settings candidates).bind next).Leads events outcome) :
    (∃ pick first later, Turn settings candidates first (.done pick) ∧
      (next pick).Leads later outcome ∧ events = first ++ later) ∨
      ∃ f, outcome = .failed f ∧ Turn settings candidates events (.failed f) := by
  rcases Script.leads_bind h with ⟨pick, first, later, hpick, hlater, rfl⟩ | ⟨cut, hstops, hpick⟩
  · exact .inl ⟨pick, first, later, pickAddress_leads_turn hsome hpick, hlater, rfl⟩
  · have hturn := pickAddress_leads_turn hsome hpick
    cases hstops with
    | failed f => exact .inr ⟨f, rfl, hturn⟩
    | unfinished => cases hturn

/-! ## Sizing in turns -/

/-- A transfer pays the addresses that were picked: the first, and the change the second. -/
inductive PaysPicks (context : Context) : List (Outcome Pick) → Prop
  | none : PaysPicks context []
  | recipient (created : Bool) : PaysPicks context [.done ⟨context.recipient, created⟩]
  | change (created changeCreated : Bool) :
      PaysPicks context
        [.done ⟨context.recipient, created⟩, .done ⟨context.changeAddress, changeCreated⟩]

/-- A transfer is sized by turns among some candidates and a draw of the amount after them. -/
structure SizedInTurns (settings : Settings) (candidates : List String)
    (turns : List (Outcome Pick)) (events : List Event) (outcome : Outcome Transfer) : Prop where
  inTurns : ∃ picking drawing, events = picking ++ drawing ∧
    Turns settings candidates turns picking ∧ ∀ e ∈ drawing, e.request.DrawsAmount
  pays : ∀ transfer, outcome = .done transfer → PaysPicks transfer.context turns

/-- Drawing an amount asks for an amount only. -/
theorem drawAmount_drawsAmount (low high : Int) :
    (drawAmount low high).OnlyAsks Ask.DrawsAmount := by
  unfold drawAmount
  split
  · trivial
  · exact .request trivial

/-- The number of addresses that are picked: a second one for change, where there is any. -/
def turnLimit (settings : Settings) (balance : Int) : Nat :=
  if settings.accounting = .utxo ∧ settings.changeTemplate.isSome ∧
    2 * settings.minimumBalance + settings.maximumFee ≤ balance then 2 else 1

/-- At least one address is picked. -/
theorem turnLimit_pos (balance : Int) : 1 ≤ turnLimit settings balance := by
  unfold turnLimit
  split <;> omega

section Sizing

variable {events : List Event} {outcome : Outcome Transfer}

/-- An amount that is drawn for a transfer is the end of sizing it. -/
theorem drawAmount_bind_sized {low high : Int} {result : Int → Transfer}
    {candidates : List String} {turns : List (Outcome Pick)} {picking : List Event}
    (hturns : Turns settings candidates turns picking)
    (hpays : ∀ value, PaysPicks (result value).context turns)
    (h : ((drawAmount low high).bind fun value => .done (result value)).Leads events outcome) :
    SizedInTurns settings candidates turns (picking ++ events) outcome where
  inTurns := by
    have honly : ((drawAmount low high).bind fun value => .done (result value)).OnlyAsks
        Ask.DrawsAmount := (drawAmount_drawsAmount low high).bind fun _ => trivial
    exact ⟨picking, events, rfl, hturns, honly.of_leads h⟩
  pays := by
    rintro transfer rfl
    obtain ⟨value, drawn, last, -, hlast, rfl⟩ := Script.leads_bind_done_iff.mp h
    obtain ⟨-, htransfer⟩ := Script.leads_done_iff.mp hlast
    cases htransfer
    exact hpays value

/-- Turns of which the last one fails are the end of sizing a transfer. -/
theorem Turns.sized_of_failed {candidates : List String} {turns : List (Outcome Pick)} {f : Failure}
    (h : Turns settings candidates turns events) :
    SizedInTurns settings candidates turns events (.failed f) where
  inTurns := ⟨events, [], (List.append_nil _).symm, h, List.forall_mem_nil _⟩
  pays := nofun

/-- Between accounts, there is one turn at most. -/
theorem sizeAccount_sizedInTurns {sender : String} {balance : Int} {recipients : Recipients}
    (hpool : recipients.funded ++ recipients.others ≠ [])
    (h : (sizeAccount settings sender balance recipients).Leads events outcome) :
    ∃ turns, turns.length ≤ 1 ∧
      SizedInTurns settings (recipients.funded ++ recipients.others) turns events outcome := by
  rw [sizeAccount] at h
  simp only [Script.bind_eq, Script.pure_eq] at h
  split at h
  · rcases pickAddress_bind_leads hpool h with
      ⟨pick, picking, later, hpick, hlater, rfl⟩ | ⟨f, rfl, hfailed⟩
    · exact ⟨[.done pick], Nat.le_refl 1,
        drawAmount_bind_sized hpick.turns (fun _ => .recipient pick.created) hlater⟩
    · exact ⟨[.failed f], Nat.le_refl 1, (Turns.last hfailed).sized_of_failed⟩
  · refine ⟨[], Nat.zero_le 1, ?_⟩
    split at h
    · split at h
      · obtain ⟨rfl, rfl⟩ := Script.leads_failed_iff.mp h
        exact (Turns.nil _).sized_of_failed
      · exact drawAmount_bind_sized (.nil _) (fun _ => .none) h
    · obtain ⟨rfl, rfl⟩ := Script.leads_failed_iff.mp h
      exact (Turns.nil _).sized_of_failed

/-- On a chain of coins, there is one turn and, where there is change, another. -/
theorem sizeCoin_sizedInTurns {sender : String} {coinValue : Int} {candidates : List String}
    {coin : Option CoinIdentifier} (haccounting : settings.accounting = .utxo)
    (hpool : candidates ≠ []) (hleft : ∀ address, candidates.filter (· != address) ≠ [])
    (h : (sizeCoin settings sender coinValue candidates coin).Leads events outcome) :
    ∃ turns, turns.length ≤ turnLimit settings coinValue ∧
      SizedInTurns settings candidates turns events outcome := by
  have hlimit : 1 ≤ turnLimit settings coinValue := turnLimit_pos coinValue
  rw [sizeCoin] at h
  simp only [Script.bind_eq, Script.pure_eq] at h
  split at h
  · obtain ⟨rfl, rfl⟩ := Script.leads_failed_iff.mp h
    exact ⟨[], Nat.zero_le _, (Turns.nil _).sized_of_failed⟩
  rcases pickAddress_bind_leads hpool h with
    ⟨pick, picking, later, hpick, hlater, rfl⟩ | ⟨f, rfl, hfailed⟩
  swap
  · exact ⟨[.failed f], hlimit, (Turns.last hfailed).sized_of_failed⟩
  split at hlater
  · next template hchange =>
    obtain ⟨htemplate, henough⟩ := Option.filter_eq_some_iff.mp hchange
    have htwo : turnLimit settings coinValue = 2 := by
      rw [decide_eq_true_eq, Settings.requiredBalance] at henough
      push_cast at henough
      exact if_pos ⟨haccounting, by simp [htemplate], henough⟩
    rw [htwo]
    have hsome : leftAfter candidates pick ≠ [] := by
      unfold leftAfter
      split
      · exact hpool
      · exact hleft pick.address
    rcases pickAddress_bind_leads hsome hlater with
      ⟨change, changing, last, hsecond, hlast, rfl⟩ | ⟨f, rfl, hfailed⟩
    · have hturns : Turns settings candidates [.done pick, .done change] (picking ++ changing) :=
        .cons hpick hsecond.turns
      rw [← List.append_assoc]
      exact ⟨[.done pick, .done change], Nat.le_refl 2,
        drawAmount_bind_sized hturns (fun _ => .change pick.created change.created) hlast⟩
    · exact ⟨[.done pick, .failed f], Nat.le_refl 2,
        (Turns.cons hpick (.last hfailed)).sized_of_failed⟩
  · exact ⟨[.done pick], hlimit,
      drawAmount_bind_sized hpick.turns (fun _ => .recipient pick.created) hlater⟩

end Sizing

/-! ## Candidates -/

/-- Other addresses than the sender's are among those known: two where coins are spent, one between
accounts. -/
def HasOthers (settings : Settings) (sender : String) (addresses : List String) : Prop :=
  match settings.accounting with
  | .account => ∃ a ∈ addresses, a ≠ sender
  | .utxo => ∃ a ∈ addresses, ∃ b ∈ addresses, a ≠ b ∧ a ≠ sender ∧ b ≠ sender

/-- With another address among those known there is a candidate. -/
theorem HasOthers.ne_nil {sender : String} {addresses candidates : List String}
    (h : HasOthers settings sender addresses)
    (hperm : candidates.Perm (addresses.filter (· != sender))) : candidates ≠ [] := by
  have hother : ∃ a ∈ addresses, a ≠ sender := by
    unfold HasOthers at h
    split at h
    · exact h
    · obtain ⟨a, ha, _, _, _, hne, _⟩ := h
      exact ⟨a, ha, hne⟩
  obtain ⟨a, ha, hne⟩ := hother
  exact List.ne_nil_of_mem (hperm.mem_iff.mpr (List.mem_filter.mpr ⟨ha, bne_iff_ne.mpr hne⟩))

/-- Where coins are spent, a candidate is left when one has been taken. -/
theorem HasOthers.filter_ne_nil {sender : String} {addresses candidates : List String}
    (h : HasOthers settings sender addresses) (haccounting : settings.accounting = .utxo)
    (hperm : candidates.Perm (addresses.filter (· != sender))) (taken : String) :
    candidates.filter (· != taken) ≠ [] := by
  simp only [HasOthers, haccounting] at h
  obtain ⟨a, ha, b, hb, hdiffer, hane, hbne⟩ := h
  have hleft {c : String} (hc : c ∈ addresses) (hne : c ≠ sender) (htaken : c ≠ taken) :
      candidates.filter (· != taken) ≠ [] := by
    have hmem : c ∈ candidates :=
      hperm.mem_iff.mpr (List.mem_filter.mpr ⟨hc, bne_iff_ne.mpr hne⟩)
    exact List.ne_nil_of_mem (List.mem_filter.mpr ⟨hmem, bne_iff_ne.mpr htaken⟩)
  by_cases htaken : a = taken
  · exact hleft hb hbne fun heq => hdiffer (htaken.trans heq.symm)
  · exact hleft ha hane htaken

/-- The candidates are the addresses listed, but for the sender's. -/
theorem findRecipients_leads_perm {sender : String} {events : List Event} {recipients : Recipients}
    (h : (findRecipients settings sender).Leads events (.done recipients)) :
    ∃ addresses later, events = ⟨.call .allAddresses, .ok addresses⟩ :: later ∧
      (recipients.funded ++ recipients.others).Perm (addresses.filter (· != sender)) ∧
      (settings.accounting = .utxo → recipients.funded = []) := by
  rw [findRecipients] at h
  simp only [Script.bind_eq, Script.pure_eq, Script.call] at h
  obtain ⟨addresses, later, rfl, hlater⟩ := Script.leads_attempt_bind_iff.mp h
  refine ⟨addresses, later, rfl, ?_⟩
  split at hlater
  · obtain ⟨-, hrecipients⟩ := Script.leads_done_iff.mp hlater
    cases hrecipients
    exact ⟨.refl _, fun _ => rfl⟩
  · next haccounting =>
    exact ⟨divide_leads_perm hlater, fun h => by rw [h] at haccounting; cases haccounting⟩

/-- How a transfer is sized: recipients are found and then there are turns among them, unless they
are not found. -/
inductive Sizing (settings : Settings) (sender : Sender) : List Event → Outcome Transfer → Prop
  | unfound {finding : List Event} {f : Failure}
      (h : (findRecipients settings sender.address).Leads finding (.failed f)) :
      Sizing settings sender finding (.failed f)
  | found {finding sized : List Event} {recipients : Recipients} {turns : List (Outcome Pick)}
      {outcome : Outcome Transfer}
      (h : (findRecipients settings sender.address).Leads finding (.done recipients))
      (hsized : SizedInTurns settings (recipients.funded ++ recipients.others) turns sized outcome)
      (hlimit : turns.length ≤ turnLimit settings sender.balance) :
      Sizing settings sender (finding ++ sized) outcome

/-- With others among the addresses that are listed, a transfer is sized in turns. -/
theorem sizeTransfer_leads_sizing {sender : Sender} {events : List Event}
    {outcome : Outcome Transfer} (h : (sizeTransfer settings sender).Leads events outcome)
    (hothers : ∀ addresses later, events = ⟨.call .allAddresses, .ok addresses⟩ :: later →
      HasOthers settings sender.address addresses) : Sizing settings sender events outcome := by
  rw [sizeTransfer_eq] at h
  rcases Script.leads_bind h with ⟨recipients, finding, sized, hfinding, hsized, rfl⟩ |
    ⟨cut, hstops, hcut⟩
  · obtain ⟨addresses, later, rfl, hperm, hunfunded⟩ := findRecipients_leads_perm hfinding
    have hknown := hothers addresses (later ++ sized) rfl
    have hpool := hknown.ne_nil hperm
    unfold sizeFor at hsized
    split at hsized
    · next haccounting =>
      have hleft := hknown.filter_ne_nil haccounting hperm
      rw [hunfunded haccounting, List.nil_append] at hpool hleft
      obtain ⟨turns, hlimit, hturns⟩ := sizeCoin_sizedInTurns haccounting hpool hleft hsized
      refine .found hfinding ?_ hlimit
      rwa [hunfunded haccounting, List.nil_append]
    · obtain ⟨turns, hlimit, hturns⟩ := sizeAccount_sizedInTurns hpool hsized
      exact .found hfinding hturns (Nat.le_trans hlimit (turnLimit_pos _))
  · cases hstops with
    | failed f => exact .unfound hcut
    | unfinished => exact absurd hcut (neverUnfinished_compositional.findRecipients _ _)

/-! ## The number of addresses -/

/-- The draw of a key pair keeps no key. -/
theorem Draws.storesKey_eq_false {curve : Curve} {draw : Event} {result : Except KeyFault KeyPair}
    (h : Draws curve draw result) : draw.storesKey = false := by
  cases h <;> rfl

/-- Making an address keeps one key at most. -/
theorem newAddress_keysStored_le {events : List Event} {outcome : Outcome String}
    (h : (newAddress settings).Leads events outcome) : keysStored events ≤ 1 := by
  rcases newAddress_leads h with ⟨m, text, hdraw, rfl, -⟩ | ⟨f, hcut, -⟩ | ⟨rfl, -⟩
  · rw [Making.events, List.cons_append, keysStored_cons, hdraw.storesKey_eq_false]
    exact Nat.le_refl 1
  · cases hcut with
    | keyPair hdraw | derive hdraw =>
      rw [keysStored_cons, hdraw.storesKey_eq_false]
      exact Nat.zero_le 1
    | storeKey hdraw | addressCreated hdraw =>
      rw [keysStored_cons, hdraw.storesKey_eq_false]
      exact Nat.le_refl 1
  · exact Nat.zero_le 1

/-- In one turn one key is stored at most. -/
theorem Turn.keysStored_le {candidates : List String} {events : List Event} {outcome : Outcome Pick}
    (h : Turn settings candidates events outcome) : keysStored events ≤ 1 := by
  cases h with
  | unlisted fault => exact Nat.zero_le 1
  | taken hstays => exact Nat.zero_le 1
  | made hgoes hmaking => simpa [Event.storesKey] using newAddress_keysStored_le hmaking
  | unmade hgoes hmaking => simpa [Event.storesKey] using newAddress_keysStored_le hmaking

/-- There are no more keys kept than turns taken. -/
theorem Turns.keysStored_le {candidates : List String} {turns : List (Outcome Pick)}
    {events : List Event} (h : Turns settings candidates turns events) :
    keysStored events ≤ turns.length := by
  induction h with
  | nil => exact Nat.le_refl 0
  | last h => exact h.keysStored_le
  | cons h hlater ih =>
    rw [keysStored_append, List.length_cons, Nat.add_comm]
    exact Nat.add_le_add ih h.keysStored_le

section Known

variable {σ : Type} {answer : Environment σ} {known : σ → List String} {state after : σ}
  {candidates : List String} {events : List Event}

/-- No more addresses become known than keys are kept. -/
theorem known_length_le (hknows : answer.Knows known)
    (hsizing : ∀ e ∈ events, e.request.InSizing) (hgives : answer.Gives state events after) :
    (known after).length ≤ (known state).length + keysStored events := by
  induction events generalizing state with
  | nil =>
    cases hgives
    exact Nat.le_refl _
  | cons e events ih =>
    obtain ⟨he, hsizing⟩ := List.forall_mem_cons.mp hsizing
    obtain ⟨-, hrest⟩ := hgives
    have hlater := ih hsizing hrest
    have hfirst : (known (answer e.request state).2).length ≤
        (known state).length + e.storesKey.toNat := by
      unfold Event.storesKey
      split
      · next hrequest => exact hrequest ▸ hknows.stores _ _ _
      · next hother => exact hknows.keeps _ _ he hother
    rw [keysStored_cons]
    omega

/-- Where it goes on to make an address, those known have been counted just before. -/
theorem length_le_of_goesOn (hknows : answer.Knows known) {available : List String}
    {draw : Binary64} {making : List Event} (hgoes : GoesOn settings available draw)
    (hstored : keysStored making ≤ 1)
    (hsizing : ∀ e ∈ (⟨.call .allAddresses, .ok available⟩ :: ⟨.probability, draw⟩ :: making :
      List Event), e.request.InSizing)
    (hgives : answer.Gives state
      (⟨.call .allAddresses, .ok available⟩ :: ⟨.probability, draw⟩ :: making) after) :
    (known after).length ≤ max (known state).length settings.maxAddresses := by
  have hcount := known_length_le hknows hsizing hgives
  simp only [keysStored_cons, Event.storesKey, Bool.toNat_false, Nat.add_zero] at hcount
  obtain rfl : available = known state := hknows.lists state available hgives.1
  have hroom : (known state).length < settings.maxAddresses := hgoes.2
  omega

/-- A turn stays within the cap, or where it was. -/
theorem Turn.length_le {outcome : Outcome Pick} (hknows : answer.Knows known)
    (h : Turn settings candidates events outcome) (hsizing : ∀ e ∈ events, e.request.InSizing)
    (hgives : answer.Gives state events after) :
    (known after).length ≤ max (known state).length settings.maxAddresses := by
  cases h with
  | unlisted | taken =>
    exact Nat.le_trans (known_length_le hknows hsizing hgives) (Nat.le_max_left ..)
  | made hgoes hmaking | unmade hgoes hmaking =>
    exact length_le_of_goesOn hknows hgoes (newAddress_keysStored_le hmaking) hsizing hgives

/-- Turns stay within the cap, or where they were: what one has made is counted by the next. -/
theorem Turns.length_le {turns : List (Outcome Pick)} (hknows : answer.Knows known)
    (h : Turns settings candidates turns events) (hsizing : ∀ e ∈ events, e.request.InSizing)
    (hgives : answer.Gives state events after) :
    (known after).length ≤ max (known state).length settings.maxAddresses := by
  induction h generalizing state with
  | nil =>
    cases hgives
    exact Nat.le_max_left ..
  | last h => exact h.length_le hknows hsizing hgives
  | cons h hlater ih =>
    obtain ⟨between, hfirst, hrest⟩ := answer.gives_append_iff.mp hgives
    obtain ⟨hsizingFirst, hsizingRest⟩ := List.forall_mem_append.mp hsizing
    have hturn := h.length_le hknows hsizingFirst hfirst
    have hturns := ih hsizingRest hrest
    omega

/-- Sizing a transfer stays within the cap, or where it was. -/
theorem Sizing.length_le {sender : Sender} {outcome : Outcome Transfer}
    (hknows : answer.Knows known) (h : Sizing settings sender events outcome)
    (hsizing : ∀ e ∈ events, e.request.InSizing) (hgives : answer.Gives state events after) :
    (known after).length ≤ max (known state).length settings.maxAddresses := by
  cases h with
  | unfound hfinding =>
    have hreads := (findRecipients_readsHoldings sender.address).of_leads hfinding
    have hknown := known_length_le hknows hsizing hgives
    rw [keysStored_eq_zero (fun _ _ => id) hreads] at hknown
    exact Nat.le_trans hknown (Nat.le_max_left ..)
  | found hfinding hsized hlimit =>
    obtain ⟨picking, drawing, rfl, hturns, hdrawing⟩ := hsized.inTurns
    have hreads := (findRecipients_readsHoldings sender.address).of_leads hfinding
    obtain ⟨between, hfound, hrest⟩ := answer.gives_append_iff.mp hgives
    obtain ⟨picked, hpicked, hdrawn⟩ := answer.gives_append_iff.mp hrest
    simp only [List.forall_mem_append] at hsizing
    have hbefore := known_length_le hknows hsizing.1 hfound
    have hmiddle := hturns.length_le hknows hsizing.2.1 hpicked
    have hafter := known_length_le hknows hsizing.2.2 hdrawn
    rw [keysStored_eq_zero (fun _ _ => id) hreads] at hbefore
    rw [keysStored_eq_zero (fun _ _ => id) hdrawing] at hafter
    omega

end Known

/-- A transfer is sized with as many new keys as turns at most. -/
theorem Sizing.keysStored_le {sender : Sender} {events : List Event} {outcome : Outcome Transfer}
    (h : Sizing settings sender events outcome) :
    keysStored events ≤ turnLimit settings sender.balance := by
  cases h with
  | unfound hfinding =>
    have hreads := (findRecipients_readsHoldings sender.address).of_leads hfinding
    rw [keysStored_eq_zero (fun _ _ => id) hreads]
    exact Nat.zero_le _
  | found hfinding hsized hlimit =>
    obtain ⟨picking, drawing, rfl, hturns, hdrawing⟩ := hsized.inTurns
    have hreads := (findRecipients_readsHoldings sender.address).of_leads hfinding
    rw [keysStored_append, keysStored_append, keysStored_eq_zero (fun _ _ => id) hreads,
      keysStored_eq_zero (fun _ _ => id) hdrawing, Nat.zero_add, Nat.add_zero]
    exact Nat.le_trans hturns.keysStored_le hlimit

/-- Sizing a transfer keeps the number of known addresses within the cap, or where it was, whether
it succeeds or not, as long as others than the sender are known at its start. It makes one address
at most, and where there is change two. Every pick is a turn: as soon as the addresses known have
been listed, one number is drawn, and a new address is made exactly if it exceeds the probability
while those are fewer than the cap. -/
theorem sizeTransfer_withinCap {σ : Type} (answer : Environment σ) {known : σ → List String}
    (hknows : answer.Knows known) (settings : Settings) (sender : Sender) (start : σ)
    (hothers : HasOthers settings sender.address (known start)) :
    let run := (sizeTransfer settings sender).run answer start
    (known run.state).length ≤ max (known start).length settings.maxAddresses ∧
      keysStored run.events ≤ turnLimit settings sender.balance ∧
      Sizing settings sender run.events run.outcome := by
  intro run
  obtain ⟨hleads, hgives⟩ : (sizeTransfer settings sender).Leads run.events run.outcome ∧
      answer.Gives start run.events run.state := (Script.run_eq_iff ..).mp rfl
  have hsizing : Sizing settings sender run.events run.outcome := by
    refine sizeTransfer_leads_sizing hleads fun addresses later hevents => ?_
    rw [hevents] at hgives
    rwa [hknows.lists start addresses hgives.1]
  have hasked := (sizeTransfer_inSizing sender).of_leads hleads
  exact ⟨hsizing.length_le hknows hasked hgives, hsizing.keysStored_le, hsizing⟩

/-- A rehearsal knows the addresses in its state. -/
theorem answer_knows (world : World) : (answer world).Knows State.addresses where
  lists state addresses h := by
    simp only [answer] at h
    split at h
    · cases h
    · cases h
      rfl
  stores address pair state := by
    simp only [answer]
    split
    · exact Nat.le_succ _
    · simp only [respond, stored]
      split
      · split <;> simp [State.counted]
      · exact Nat.le_succ _
  keeps q state hsizing hother := by
    cases q with
    | call c =>
      simp only [answer]
      split
      · exact Nat.le_refl _
      · cases c <;> first | exact Nat.le_refl _ | exact hsizing.elim | exact absurd rfl (hother _ _)
    | sleep seconds => exact hsizing.elim
    | _ => exact Nat.le_refl _

/-- In a plain rehearsal that always wants new addresses but no more than four, the recipient is the
fourth, and the change goes to one that was there. -/
theorem sizeTransfer_withinCap_rehearsed :
    let settings : Settings :=
      { plainSettings .utxo with
        curve := .edwards25519
        newAddressProbability := .ofInt 0
        maxAddresses := 4 }
    (answer World.plain).Knows State.addresses ∧ HasOthers settings "a" ["a", "b", "c"] ∧
      let run := (sizeTransfer settings ⟨"a", 100, some ⟨"a:0"⟩⟩).run (answer .plain)
        (.holding [("a", 100), ("b", 50), ("c", 20)])
      run.state.addresses.length ≤ 4 ∧ keysStored run.events ≤ 2 ∧
        run.outcome.any (fun transfer => transfer.context.recipient == "new1" &&
          transfer.context.changeAddress == "b") = true := by
  intro settings
  have hothers : HasOthers settings "a" ["a", "b", "c"] :=
    ⟨"b", by decide, "c", by decide, by decide, by decide, by decide⟩
  obtain ⟨hcap, hstored, -⟩ := sizeTransfer_withinCap (answer .plain) (answer_knows .plain) settings
    ⟨"a", 100, some ⟨"a:0"⟩⟩ (.holding [("a", 100), ("b", 50), ("c", 20)]) hothers
  exact ⟨answer_knows .plain, hothers, hcap, hstored, by decide +kernel⟩

end Drive

end TransferDrill

import TransferDrill.Drive.Sender
import TransferDrill.Proofs.Drive.Path
import Mathlib.Data.List.MinMax

/-!
# Where a sender comes from

A sender is found in one selection: the addresses are listed, then the locked ones, and every
unlocked address is looked up in turn. Whatever was waited for before, the sender and what it
holds are of the last selection.
-/

namespace TransferDrill.Drive

/-- The look-up of an address, with what it holds. -/
def lookup (settings : Settings) (address : String) (held : Holding) : Event :=
  let account := AccountIdentifier.ofAddress address
  match settings.accounting with
  | .utxo => ⟨.call (.coinBalance account settings.currency), .ok held⟩
  | .account => ⟨.call (.accountBalance account settings.currency), .ok held.balance⟩

/-- Addresses, those of them that are locked, and what the others hold. -/
structure Selection where
  addresses : List String
  locked : List String
  holdings : List (String × Holding)

/-- Everything that happens during a selection. -/
def Selection.events (s : Selection) (settings : Settings) : List Event :=
  ⟨.call .allAddresses, .ok s.addresses⟩ :: ⟨.call .lockedAddresses, .ok s.locked⟩ ::
    s.holdings.map fun entry => lookup settings entry.1 entry.2

/-- A selection offers a sender: it is among the unlocked addresses, which were all looked up, and
its balance and its coin are those of one look-up. -/
structure Selection.Offers (s : Selection) (sender : Sender) : Prop where
  lookedUp : s.holdings.map Prod.fst = s.addresses.filter fun address => !s.locked.contains address
  listed : sender.address ∈ s.addresses
  unlocked : sender.address ∉ s.locked
  held : (sender.address, ⟨some sender.balance, sender.coin⟩) ∈ s.holdings

/-- The sender that a look-up offers, if the balance is known. -/
def offer? (entry : String × Holding) : Option Sender :=
  entry.2.balance.map fun balance => ⟨entry.1, balance, entry.2.coin⟩

/-- The best sender after a look-up, given the best one before. -/
def afterLookup (best : Option Sender) (entry : String × Holding) : Option Sender :=
  match offer? entry with
  | none => best
  | some later => some (Sender.better best later)

/-- Every unlocked address of a selection was looked up, in the order in which they are listed; an
account comes without a coin. -/
structure Selection.Complete (s : Selection) (settings : Settings) : Prop where
  lookedUp : s.holdings.map Prod.fst = s.addresses.filter fun address => !s.locked.contains address
  coinless : settings.accounting = .account → ∀ entry ∈ s.holdings, entry.2.coin = none

/-- The first of some senders with the highest balance. -/
def richest (senders : List Sender) : Option Sender :=
  senders.foldl (fun best later => some (Sender.better best later)) none

/-- The richest of the senders that the look-ups of a selection offer; an empty address names
nobody. -/
def Selection.leader (s : Selection) : Option Sender :=
  (richest (s.holdings.filterMap offer?)).filter fun sender => !sender.address.isEmpty

variable {settings : Settings}

/-- Looking up an address is a single call, and an account comes without a coin. -/
theorem holding_leads_done_iff {address : String} {events : List Event} {held : Holding} :
    (holding settings address).Leads events (.done held) ↔
      events = [lookup settings address held] ∧
        (settings.accounting = .account → held.coin = none) := by
  cases haccounting : settings.accounting with
  | account =>
    rw [holding, lookup, haccounting]
    change (Script.bind _ fun value => .done (⟨value, none⟩ : Holding)).Leads _ _ ↔ _
    rw [Script.call, Script.leads_attempt_bind_iff]
    constructor
    · intro h
      obtain ⟨value, later, rfl, hlater⟩ := h
      obtain ⟨rfl, hheld⟩ := Script.leads_done_iff.mp hlater
      cases hheld
      exact ⟨rfl, fun _ => rfl⟩
    · intro h
      obtain ⟨rfl, hcoin⟩ := h
      obtain ⟨balance, coin⟩ := held
      cases hcoin rfl
      exact ⟨balance, [], rfl, .done _⟩
  | utxo =>
    rw [holding, lookup, haccounting]
    change (Script.call _ _).Leads _ _ ↔ _
    rw [← Script.bind_done (Script.call _ _), Script.call, Script.leads_attempt_bind_iff]
    constructor
    · intro h
      obtain ⟨value, later, rfl, hlater⟩ := h
      obtain ⟨rfl, hheld⟩ := Script.leads_done_iff.mp hlater
      cases hheld
      exact ⟨rfl, nofun⟩
    · intro h
      obtain ⟨rfl, -⟩ := h
      exact ⟨held, [], rfl, .done _⟩

/-- Looking up an address is one event, which shows what is found. -/
theorem holding_leads_done {address : String} {events : List Event} {held : Holding}
    (h : (holding settings address).Leads events (.done held)) :
    events = [lookup settings address held] :=
  (holding_leads_done_iff.mp h).1

/-- The better of two senders is one of them. -/
theorem better_eq (best : Option Sender) (later : Sender) :
    best = some (Sender.better best later) ∨ Sender.better best later = later := by
  cases best with
  | none => exact .inr rfl
  | some sender =>
    by_cases hless : sender.balance < later.balance
    · exact .inr (if_pos hless)
    · exact .inl (congrArg some (if_neg hless).symm)

/-- The better of two senders holds at least as much as either. -/
theorem better_most (best : Option Sender) (later : Sender) :
    later.balance ≤ (Sender.better best later).balance ∧
      ∀ sender, best = some sender → sender.balance ≤ (Sender.better best later).balance := by
  cases best with
  | none => exact ⟨Int.le_refl _, nofun⟩
  | some sender =>
    rw [Sender.better]
    split
    · next hless => exact ⟨Int.le_refl _, fun _ h => Option.some.inj h ▸ Int.le_of_lt hless⟩
    · next hmore => exact ⟨Int.not_lt.mp hmore, fun _ h => Option.some.inj h ▸ Int.le_refl _⟩

/-- The order of the integers is named, for Mathlib knows more than one way to it. -/
theorem richest_eq_argmax (senders : List Sender) :
    richest senders =
      @List.argmax Sender Int Int.instLinearOrder.toPreorder Int.decLt Sender.balance senders := by
  rw [richest, List.argmax]
  congr
  funext best later
  cases best with
  | none => rfl
  | some sender => exact apply_ite some ..

/-- The richest of some senders is one of them. -/
theorem mem_of_richest {senders : List Sender} {best : Sender} (h : richest senders = some best) :
    best ∈ senders :=
  List.argmax_mem ((richest_eq_argmax senders).symm.trans h)

/-- The best sender after some look-ups is the richest one that they offer. -/
theorem foldl_afterLookup (holdings : List (String × Holding)) :
    holdings.foldl afterLookup none = richest (holdings.filterMap offer?) := by
  rw [richest, List.foldl_filterMap]
  congr
  funext best entry
  unfold afterLookup
  cases offer? entry <;> rfl

/-- The sender that a look-up offers is made of what was looked up. -/
theorem eq_of_offer? {entry : String × Holding} {sender : Sender} (h : offer? entry = some sender) :
    entry = (sender.address, ⟨some sender.balance, sender.coin⟩) := by
  obtain ⟨address, balance, coin⟩ := entry
  obtain ⟨found, rfl, rfl⟩ := Option.map_eq_some_iff.mp h
  rfl

/-- What the richest sender on offer holds was found by a look-up. -/
theorem held_of_richest {holdings : List (String × Holding)} {sender : Sender}
    (h : richest (holdings.filterMap offer?) = some sender) :
    (sender.address, ⟨some sender.balance, sender.coin⟩) ∈ holdings := by
  obtain ⟨entry, hentry, hoffer⟩ := List.mem_filterMap.mp (mem_of_richest h)
  exact eq_of_offer? hoffer ▸ hentry

/-- The leader is the richest sender on offer. -/
theorem Selection.richest_of_leader {s : Selection} {sender : Sender} (h : s.leader = some sender) :
    richest (s.holdings.filterMap offer?) = some sender :=
  (Option.filter_eq_some_iff.mp h).1

/-- What a complete selection looks up is listed and not locked. -/
theorem Selection.Complete.unlocked {s : Selection} (h : s.Complete settings)
    {entry : String × Holding} (hentry : entry ∈ s.holdings) :
    entry.1 ∈ s.addresses ∧ entry.1 ∉ s.locked := by
  have hmem : entry.1 ∈ s.holdings.map Prod.fst := List.mem_map_of_mem hentry
  rw [h.lookedUp, List.mem_filter] at hmem
  exact ⟨hmem.1, by simpa using hmem.2⟩

/-- A complete selection offers its leader. -/
theorem Selection.Complete.offers {s : Selection} {sender : Sender} (h : s.Complete settings)
    (hleader : s.leader = some sender) : s.Offers sender where
  lookedUp := h.lookedUp
  listed := (h.unlocked (held_of_richest (richest_of_leader hleader))).1
  unlocked := (h.unlocked (held_of_richest (richest_of_leader hleader))).2
  held := held_of_richest (richest_of_leader hleader)

/-- The rest of the addresses begins with the best sender after the look-up of the first. -/
theorem bestAmong_cons (locked : List String) (best : Option Sender) (address : String)
    (rest : List String) :
    bestAmong settings locked best (address :: rest) =
      if locked.contains address then bestAmong settings locked best rest
      else (holding settings address).bind fun held =>
        bestAmong settings locked (afterLookup best (address, held)) rest := by
  rw [bestAmong]
  split
  · rfl
  · refine congrArg (Script.bind _) (funext fun held => ?_)
    obtain ⟨balance, coin⟩ := held
    cases balance <;> rfl

/-- Every unlocked address is looked up in turn, and the best sender is that after the look-ups. -/
theorem bestAmong_leads_done_iff {locked addresses : List String} {best found : Option Sender}
    {events : List Event} :
    (bestAmong settings locked best addresses).Leads events (.done found) ↔
      ∃ holdings : List (String × Holding),
        events = holdings.map (fun entry => lookup settings entry.1 entry.2) ∧
        holdings.map Prod.fst = addresses.filter (fun address => !locked.contains address) ∧
        (settings.accounting = .account → ∀ entry ∈ holdings, entry.2.coin = none) ∧
        found = holdings.foldl afterLookup best := by
  induction addresses generalizing best events with
  | nil =>
    rw [bestAmong, Script.leads_done_iff]
    constructor
    · intro h
      obtain ⟨rfl, hfound⟩ := h
      cases hfound
      exact ⟨[], rfl, rfl, fun _ => List.forall_mem_nil _, rfl⟩
    · intro h
      obtain ⟨holdings, rfl, hlooked, -, rfl⟩ := h
      obtain rfl := List.map_eq_nil_iff.mp hlooked
      exact ⟨rfl, rfl⟩
  | cons address rest ih =>
    rw [bestAmong_cons]
    by_cases hlocked : locked.contains address = true
    · rw [if_pos hlocked, ih, List.filter_cons_of_neg (by simpa using hlocked)]
    · rw [if_neg hlocked, List.filter_cons_of_pos (by simpa using hlocked),
        Script.leads_bind_done_iff]
      constructor
      · intro h
        obtain ⟨held, first, later, hheld, hlater, rfl⟩ := h
        obtain ⟨rfl, hcoin⟩ := holding_leads_done_iff.mp hheld
        obtain ⟨holdings, rfl, hlooked, hcoins, rfl⟩ := ih.mp hlater
        exact ⟨(address, held) :: holdings, rfl, congrArg _ hlooked,
          fun h => List.forall_mem_cons.mpr ⟨hcoin h, hcoins h⟩, rfl⟩
      · intro h
        obtain ⟨holdings, rfl, hlooked, hcoins, rfl⟩ := h
        obtain ⟨⟨listed, held⟩, holdings, rfl, rfl, hrest⟩ := List.map_eq_cons_iff.mp hlooked
        have hheld : (holding settings listed).Leads [lookup settings listed held] (.done held) :=
          holding_leads_done_iff.mpr ⟨rfl, fun h => (List.forall_mem_cons.mp (hcoins h)).1⟩
        exact ⟨held, _, _, hheld, ih.mpr ⟨holdings, rfl, hrest,
          fun h => (List.forall_mem_cons.mp (hcoins h)).2, rfl⟩, rfl⟩

/-- Selecting a sender is a complete selection, and finds its leader. -/
theorem bestUnlocked_leads_done_iff {addresses : List String} {events : List Event}
    {best : Option Sender} :
    (bestUnlocked settings addresses).Leads events (.done best) ↔
      ∃ s : Selection, ⟨.call .allAddresses, .ok addresses⟩ :: events = s.events settings ∧
        s.Complete settings ∧ best = s.leader := by
  rw [bestUnlocked, Script.bind_eq, Script.call, Script.leads_attempt_bind_iff]
  constructor
  · intro h
    obtain ⟨locked, later, rfl, hlater⟩ := h
    obtain ⟨found, lookups, last, hfound, hlast, rfl⟩ := Script.leads_bind_done_iff.mp hlater
    obtain ⟨holdings, rfl, hlooked, hcoins, rfl⟩ := bestAmong_leads_done_iff.mp hfound
    obtain ⟨rfl, hbest⟩ := Script.leads_done_iff.mp hlast
    cases hbest
    refine ⟨⟨addresses, locked, holdings⟩, by simp [Selection.events], ⟨hlooked, hcoins⟩, ?_⟩
    rw [foldl_afterLookup, Selection.leader]
  · intro h
    obtain ⟨⟨listed, locked, holdings⟩, hevents, ⟨hlooked, hcoins⟩, rfl⟩ := h
    obtain ⟨hlisted, rfl⟩ := List.cons.inj hevents
    cases hlisted
    have hfound : (bestAmong settings locked none listed).Leads
        (holdings.map fun entry => lookup settings entry.1 entry.2)
        (.done (richest (holdings.filterMap offer?))) :=
      bestAmong_leads_done_iff.mpr
        ⟨holdings, rfl, hlooked, hcoins, (foldl_afterLookup holdings).symm⟩
    refine ⟨locked, _, rfl, Script.leads_bind_done_iff.mpr ⟨_, _, [], hfound, .done _, ?_⟩⟩
    rw [List.append_nil]

/-- The best unlocked sender is offered by the selection that found it. -/
theorem bestUnlocked_leads_done {addresses : List String} {events : List Event} {sender : Sender}
    (h : (bestUnlocked settings addresses).Leads events (.done (some sender))) :
    ∃ s : Selection, ⟨.call .allAddresses, .ok addresses⟩ :: events = s.events settings ∧
      s.Offers sender := by
  obtain ⟨s, hs, hcomplete, hleader⟩ := bestUnlocked_leads_done_iff.mp h
  exact ⟨s, hs, hcomplete.offers hleader.symm⟩

/-! ## Searches -/

/-- What a search does when a selection finds nobody: it waits for broadcasts or funds a new
address. -/
def awaitSender (settings : Settings) (patience : Nat) : Script Unit := do
  let broadcasts ← Script.call .allBroadcasts .listBroadcasts
  if broadcasts.isEmpty then
    fundNewAddress settings patience
  else
    Script.log .debug s!"All addresses locked, waiting on {broadcasts.length} broadcasts"
    Script.sleep settings.sleepTime

/-- How a search goes on after a selection: it is over, or it waits and looks again. -/
def searchAfter (settings : Settings) (patience rounds : Nat) : Option Sender → Script Sender
  | some sender => .done sender
  | none => (awaitSender settings patience).bind fun _ => findSenderFrom settings patience rounds

/-- One round of the search: addresses are listed, one is made and funded if there is none, and
otherwise a selection decides how it goes on. -/
theorem findSenderFrom_succ (patience rounds : Nat) :
    findSenderFrom settings patience (rounds + 1) =
      (Script.call .allAddresses .listAddresses).bind fun addresses =>
        if addresses.isEmpty then
          (fundNewAddress settings patience).bind fun _ => findSenderFrom settings patience rounds
        else (bestUnlocked settings addresses).bind (searchAfter settings patience rounds) := by
  rw [findSenderFrom]
  refine congrArg (Script.bind _) (funext fun addresses => ?_)
  split
  · rfl
  · refine congrArg (Script.bind _) (funext fun best => ?_)
    cases best with
    | some sender => rfl
    | none =>
      refine congrArg (Script.ask _) (funext fun reply => ?_)
      rcases reply with (_ | _) | broadcasts
      · rfl
      · rfl
      · cases broadcasts <;> rfl

/-- However long it takes to find a sender, it is the leader of the selection made last. -/
theorem findSenderFrom_leads_leader {patience rounds : Nat} {events : List Event} {sender : Sender}
    (h : (findSenderFrom settings patience rounds).Leads events (.done sender)) :
    ∃ (earlier : List Event) (s : Selection), events = earlier ++ s.events settings ∧
      s.Complete settings ∧ s.leader = some sender := by
  induction rounds generalizing events with
  | zero => simp [findSenderFrom] at h
  | succ rounds ih =>
    rw [findSenderFrom_succ, Script.call, Script.leads_attempt_bind_iff] at h
    obtain ⟨addresses, later, rfl, hlater⟩ := h
    split at hlater
    · obtain ⟨_, waited, last, -, hlast, rfl⟩ := Script.leads_bind_done_iff.mp hlater
      obtain ⟨earlier, s, rfl, hs⟩ := ih hlast
      exact ⟨⟨.call .allAddresses, .ok addresses⟩ :: (waited ++ earlier), s, by simp, hs⟩
    · obtain ⟨best, tried, rest, hbest, hrest, rfl⟩ := Script.leads_bind_done_iff.mp hlater
      cases best with
      | some found =>
        obtain ⟨rfl, hfound⟩ := Script.leads_done_iff.mp hrest
        cases hfound
        obtain ⟨s, hs, hcomplete, hleader⟩ := bestUnlocked_leads_done_iff.mp hbest
        exact ⟨[], s, by rw [List.append_nil, hs, List.nil_append], hcomplete, hleader.symm⟩
      | none =>
        obtain ⟨_, waited, last, -, hlast, rfl⟩ := Script.leads_bind_done_iff.mp hrest
        obtain ⟨earlier, s, rfl, hs⟩ := ih hlast
        exact ⟨⟨.call .allAddresses, .ok addresses⟩ :: (tried ++ (waited ++ earlier)), s, by simp,
          hs⟩

/-- However long it takes to find a sender, it is offered by the selection made last. -/
theorem findSenderFrom_leads_done {patience rounds : Nat} {events : List Event} {sender : Sender}
    (h : (findSenderFrom settings patience rounds).Leads events (.done sender)) :
    ∃ (earlier : List Event) (s : Selection), events = earlier ++ s.events settings ∧
      s.Offers sender := by
  obtain ⟨earlier, s, hevents, hcomplete, hleader⟩ := findSenderFrom_leads_leader h
  exact ⟨earlier, s, hevents, hcomplete.offers hleader⟩

end TransferDrill.Drive

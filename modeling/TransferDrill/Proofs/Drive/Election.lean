import TransferDrill.Proofs.Drive.Assembly
import TransferDrill.Proofs.Drive.Cause
import TransferDrill.Proofs.Drive.Requests
import TransferDrill.Proofs.Drive.Sender
import TransferDrill.Proofs.Rehearsal.Plain
import Mathlib.Data.List.TakeWhile

/-!
# Who is elected

The sender of a transfer is the first of the richest unlocked addresses, by the replies of one
selection alone: what was found before a wait counts for nothing after it. A search ends with the
first selection in which the balance of some unlocked address is known, be it zero or negative.
-/

namespace TransferDrill.Drive

open Rehearsal

variable {settings : Settings}

/-- A selection elects a sender: it offers the sender, which holds no less than any address that was
looked up, and more than those that were looked up before it. -/
structure Selection.Elects (s : Selection) (sender : Sender) : Prop extends s.Offers sender where
  most : ∀ entry ∈ s.holdings, ∀ balance, entry.2.balance = some balance →
    balance ≤ sender.balance
  first : ∀ entry ∈ s.holdings.takeWhile fun entry => entry.1 ≠ sender.address,
    ∀ balance, entry.2.balance = some balance → balance < sender.balance

/-! ## One selection -/

/-- Each look-up with a known balance offers a sender. -/
theorem mem_offers {holdings : List (String × Holding)} {entry : String × Holding} {balance : Int}
    (hentry : entry ∈ holdings) (hbalance : entry.2.balance = some balance) :
    ⟨entry.1, balance, entry.2.coin⟩ ∈ holdings.filterMap offer? :=
  List.mem_filterMap.mpr ⟨entry, hentry, by rw [offer?, hbalance]; rfl⟩

/-- Nobody is richer than the richest. -/
theorem le_of_richest {senders : List Sender} {best other : Sender}
    (h : richest senders = some best) (hother : other ∈ senders) : other.balance ≤ best.balance :=
  List.le_of_mem_argmax hother ((richest_eq_argmax senders).symm.trans h)

/-- Who comes before the richest is less rich. -/
theorem lt_of_richest_append {front back : List Sender} {best earlier : Sender}
    (h : richest (front ++ back) = some best) (hearlier : earlier ∈ front)
    (hlater : best ∉ front) : earlier.balance < best.balance := by
  by_contra hmore
  have horder := List.index_of_argmax ((richest_eq_argmax (front ++ back)).symm.trans h)
    (List.mem_append_left back hearlier) (Int.not_lt.mp hmore)
  rw [List.idxOf_append_of_notMem hlater, List.idxOf_append_of_mem hearlier] at horder
  have hinside := List.idxOf_lt_length_iff.mpr hearlier
  omega

/-- A complete selection elects its leader. -/
theorem Selection.Complete.elects {s : Selection} {sender : Sender} (h : s.Complete settings)
    (hleader : s.leader = some sender) : s.Elects sender where
  toOffers := h.offers hleader
  most _ hentry _ hbalance := le_of_richest (richest_of_leader hleader)
    (mem_offers hentry hbalance)
  first entry hentry balance hbalance := by
    have hbest := richest_of_leader hleader
    rw [← List.takeWhile_append_dropWhile (p := fun entry => entry.1 ≠ sender.address)
      (l := s.holdings), List.filterMap_append] at hbest
    refine lt_of_richest_append hbest (mem_offers hentry hbalance) fun hmem => ?_
    obtain ⟨held, hheld, hoffer⟩ := List.mem_filterMap.mp hmem
    have hother : held.1 ≠ sender.address := by simpa using List.mem_takeWhile_imp hheld
    exact hother (congrArg Prod.fst (eq_of_offer? hoffer))

/-- An account is elected without a coin. -/
theorem Selection.Complete.coin_eq_none {s : Selection} {sender : Sender} (h : s.Complete settings)
    (hleader : s.leader = some sender) (haccounting : settings.accounting = .account) :
    sender.coin = none :=
  h.coinless haccounting _ (held_of_richest (richest_of_leader hleader))

/-- Where every address has a name, there is a leader unless no balance is known. -/
theorem Selection.Complete.leader_eq_none_iff {s : Selection} (h : s.Complete settings)
    (hnames : "" ∉ s.addresses) :
    s.leader = none ↔ ∀ entry ∈ s.holdings, entry.2.balance = none := by
  have hnamed : s.leader = richest (s.holdings.filterMap offer?) := by
    unfold leader
    cases hbest : richest (s.holdings.filterMap offer?) with
    | none => rfl
    | some sender =>
      have hlisted : sender.address ∈ s.addresses := (h.unlocked (held_of_richest hbest)).1
      have hname : sender.address ≠ "" := fun hempty => hnames (hempty ▸ hlisted)
      simpa using hname
  rw [hnamed, richest_eq_argmax, List.argmax_eq_none, List.filterMap_eq_nil_iff]
  simp only [offer?, Option.map_eq_none_iff]

/-- A complete selection looks up no locked address. -/
theorem Selection.Complete.looksUpUnlocked {s : Selection} (h : s.Complete settings) :
    ∀ e ∈ s.events settings, ∀ address ∈ s.locked, e.lookedUp? ≠ some address := by
  intro e he address hlocked hlook
  rcases List.mem_cons.mp he with rfl | he
  · cases hlook
  rcases List.mem_cons.mp he with rfl | he
  · cases hlook
  obtain ⟨entry, hentry, rfl⟩ := List.mem_map.mp he
  have hentry' : entry.1 ∉ s.locked := (h.unlocked hentry).2
  have hsame : (lookup settings entry.1 entry.2).lookedUp? = some entry.1 := by
    unfold lookup
    cases settings.accounting <;> rfl
  rw [hsame] at hlook
  exact hentry' (Option.some.inj hlook ▸ hlocked)

/-! ## Rounds of a search -/

/-- Every request but that for the list of addresses. -/
def ListsNone (q : Ask) : Prop := q ≠ .call .allAddresses

/-- Looking up an address lists nothing. -/
theorem holding_listsNone (address : String) :
    (holding settings address).OnlyAsks ListsNone := by
  unfold holding
  cases settings.accounting with
  | account => exact .bind (.attempt nofun) fun _ => trivial
  | utxo => exact .attempt nofun

/-- A selection does not list all addresses again. -/
theorem bestUnlocked_listsNone (addresses : List String) :
    (bestUnlocked settings addresses).OnlyAsks ListsNone := by
  have hbest : ∀ (locked addresses : List String) (best : Option Sender),
      (bestAmong settings locked best addresses).OnlyAsks ListsNone := by
    intro locked addresses best
    induction addresses generalizing best with
    | nil => trivial
    | cons address rest ih =>
      rw [bestAmong_cons]
      split
      · exact ih best
      · exact .bind (holding_listsNone address) fun held => ih _
  exact .bind (.attempt nofun) fun locked => .bind (hbest ..) fun _ => trivial

/-- Funding a new address does not list all addresses. -/
theorem fundNewAddress_listsNone (patience : Nat) :
    (fundNewAddress settings patience).OnlyAsks ListsNone := by
  have hmaking : (newAddress settings).OnlyAsks ListsNone :=
    newAddress_inMaking.mono fun q hq => by rintro rfl; exact hq
  refine .bind hmaking fun address => .bind (.reportAs ?_) fun _ => trivial
  exact awaitFundsFrom_onlyAsks (holding_listsNone address) nofun nofun patience false

/-- Waiting for a sender does not list all addresses. -/
theorem awaitSender_listsNone (patience : Nat) :
    (awaitSender settings patience).OnlyAsks ListsNone := by
  refine .bind (.attempt nofun) fun broadcasts => ?_
  split
  · exact fundNewAddress_listsNone patience
  · exact .bind (.request nofun) fun _ => .sleep nofun

/-- Whenever a search has listed some address, it selects among the addresses listed, and goes on by
what it selects. -/
theorem findSenderFrom_leads_listing {patience rounds : Nat} {earlier later : List Event}
    {addresses : List String} {outcome : Outcome Sender} (hsome : addresses ≠ [])
    (h : (findSenderFrom settings patience rounds).Leads
      (earlier ++ ⟨.call .allAddresses, .ok addresses⟩ :: later) outcome) :
    ∃ remaining, ((bestUnlocked settings addresses).bind
      (searchAfter settings patience remaining)).Leads later outcome := by
  induction rounds generalizing earlier with
  | zero => simp [findSenderFrom] at h
  | succ rounds ih =>
    have hlisting : ¬ListsNone (.call .allAddresses) := fun h => h rfl
    rw [findSenderFrom_succ] at h
    cases earlier with
    | nil =>
      rcases Script.leads_attempt_bind h with ⟨fault, hevents, -⟩ | ⟨listed, rest, hevents, hrest⟩
      · cases hevents
      · cases hevents
        rw [if_neg (by simpa using hsome)] at hrest
        exact ⟨rounds, hrest⟩
    | cons first earlier =>
      rcases Script.leads_attempt_bind h with ⟨fault, hevents, -⟩ | ⟨listed, rest, hevents, hrest⟩
      · simp at hevents
      · obtain ⟨-, rfl⟩ := List.cons.inj hevents
        split at hrest
        · obtain ⟨_, between, hnext⟩ :=
            (fundNewAddress_listsNone patience).leads_bind hlisting hrest
          exact ih hnext
        · obtain ⟨best, between, hnext⟩ := (bestUnlocked_listsNone listed).leads_bind hlisting hrest
          cases best with
          | some sender => simp [searchAfter] at hnext
          | none =>
            obtain ⟨_, between, hagain⟩ :=
              (awaitSender_listsNone patience).leads_bind hlisting hnext
            exact ih hagain

/-- A path of a search on which some address was listed: the selection among the addresses listed
fails and so does the search, or the selection is complete and the search goes on by its leader. -/
theorem findSenderFrom_leads_selection {patience rounds : Nat} {earlier later : List Event}
    {addresses : List String} {outcome : Outcome Sender} (hsome : addresses ≠ [])
    (h : (findSenderFrom settings patience rounds).Leads
      (earlier ++ ⟨.call .allAddresses, .ok addresses⟩ :: later) outcome) :
    (∃ f, outcome = .failed f ∧ (bestUnlocked settings addresses).Leads later (.failed f)) ∨
      ∃ (s : Selection) (rest : List Event) (remaining : Nat),
        ⟨.call .allAddresses, .ok addresses⟩ :: later = s.events settings ++ rest ∧
        s.Complete settings ∧
        (searchAfter settings patience remaining s.leader).Leads rest outcome := by
  obtain ⟨remaining, hselecting⟩ := findSenderFrom_leads_listing hsome h
  rcases Script.leads_bind hselecting with
    ⟨best, selected, rest, hbest, hrest, rfl⟩ | ⟨cut, hcut, hstop⟩
  · obtain ⟨s, hs, hcomplete, rfl⟩ := bestUnlocked_leads_done_iff.mp hbest
    exact .inr ⟨s, rest, remaining, by rw [← hs, List.cons_append], hcomplete, hrest⟩
  · cases hcut with
    | failed f => exact .inl ⟨f, rfl, hstop⟩
    | unfinished => exact absurd hstop (neverUnfinished_compositional.bestUnlocked addresses later)

/-! ## Runs -/

/-- Whatever the adapter does, the sender that a search finds is elected by its last selection,
which looks up no locked address. Whenever a search lists some address, it selects among the
addresses listed, unless a call of the selection fails. If none of the addresses is empty, the
search is over with the sender elected exactly if some balance was known; otherwise it waits and
looks again. -/
theorem findSender_elects {σ : Type} (answer : Environment σ) (settings : Settings)
    (patience : Nat) (start : σ) :
    let run := (findSender settings patience).run answer start
    (∀ sender, run.outcome = .done sender →
      ∃ (earlier : List Event) (s : Selection), run.events = earlier ++ s.events settings ∧
        s.Complete settings ∧ s.Elects sender ∧
        (settings.accounting = .account → sender.coin = none) ∧
        ∀ e ∈ s.events settings, ∀ address ∈ s.locked, e.lookedUp? ≠ some address) ∧
    ∀ (earlier later : List Event) (addresses : List String),
      run.events = earlier ++ ⟨.call .allAddresses, .ok addresses⟩ :: later → addresses ≠ [] →
      (∃ f, run.outcome = .failed f ∧ (bestUnlocked settings addresses).Leads later (.failed f)) ∨
        ∃ (s : Selection) (rest : List Event),
          ⟨.call .allAddresses, .ok addresses⟩ :: later = s.events settings ++ rest ∧
          s.Complete settings ∧
          ("" ∉ addresses →
            ((∃ sender, s.Elects sender ∧ rest = [] ∧ run.outcome = .done sender) ↔
              ∃ entry ∈ s.holdings, entry.2.balance ≠ none) ∧
            ((∀ entry ∈ s.holdings, entry.2.balance = none) →
              ∃ remaining, ((awaitSender settings patience).bind fun _ =>
                findSenderFrom settings patience remaining).Leads rest run.outcome)) := by
  intro run
  have hleads := Script.leads_run answer (findSender settings patience) start
  refine ⟨fun sender hdone => ?_, fun earlier later addresses hevents hsome => ?_⟩
  · rw [show ((findSender settings patience).run answer start).outcome = _ from hdone] at hleads
    obtain ⟨earlier, s, hevents, hcomplete, hleader⟩ := findSenderFrom_leads_leader hleads
    exact ⟨earlier, s, hevents, hcomplete, hcomplete.elects hleader,
      hcomplete.coin_eq_none hleader, hcomplete.looksUpUnlocked⟩
  · rw [show ((findSender settings patience).run answer start).events = _ from hevents] at hleads
    rcases findSenderFrom_leads_selection hsome hleads with
      hfailed | ⟨s, rest, remaining, hs, hcomplete, hrest⟩
    · exact .inl hfailed
    refine .inr ⟨s, rest, hs, hcomplete, fun hnames => ?_⟩
    obtain rfl : addresses = s.addresses := by cases (List.cons.inj hs).1; rfl
    cases hleader : s.leader with
    | some sender =>
      rw [hleader] at hrest
      obtain ⟨rfl, hdone⟩ := Script.leads_done_iff.mp hrest
      have hknown : ¬∀ entry ∈ s.holdings, entry.2.balance = none := by
        rw [← hcomplete.leader_eq_none_iff hnames, hleader]
        nofun
      exact ⟨iff_of_true ⟨sender, hcomplete.elects hleader, rfl, hdone⟩ (by simpa using hknown),
        fun h => absurd h hknown⟩
    | none =>
      have hunknown := (hcomplete.leader_eq_none_iff hnames).mp hleader
      rw [hleader] at hrest
      refine ⟨iff_of_false ?_ (by simpa using hunknown), fun _ => ⟨remaining, hrest⟩⟩
      rintro ⟨sender, helects, -, -⟩
      cases hunknown _ helects.held

/-- A state in which everything is locked while a transaction is pending. -/
def lockedAsleep : State :=
  { State.holding [("a", 9), ("b", 0), ("c", 7), ("d", 7)] with
    locked := ["a", "b", "c", "d"]
    broadcasts := [⟨⟨"t"⟩, "a"⟩]
    whileSleeping := [⟨[], [], none, some ["a"], some [], none⟩] }

/-- In a rehearsal the first selection finds everything locked, and goes on; the last one elects the
first of two addresses that hold the same, and not the locked one that holds more. -/
theorem findSender_elects_rehearsed :
    let settings := plainSettings .account
    let run := (findSender settings 3).run (answer .plain) lockedAsleep
    (∃ (earlier : List Event) (s : Selection), run.events = earlier ++ s.events settings ∧
      s.Elects ⟨"c", 7, none⟩) ∧
    ∃ (s : Selection) (rest : List Event), run.events = s.events settings ++ rest ∧
      s.Complete settings ∧ (rest ≠ [] → ∀ entry ∈ s.holdings, entry.2.balance = none) := by
  intro settings run
  have hdone : run.outcome = .done ⟨"c", 7, none⟩ := by decide +kernel
  have hevents : run.events =
      [] ++ ⟨.call .allAddresses, .ok ["a", "b", "c", "d"]⟩ :: run.events.tail := by rfl
  obtain ⟨hfound, hrounds⟩ := findSender_elects (answer .plain) settings 3 lockedAsleep
  obtain ⟨earlier, last, hlast, -, helects, -⟩ := hfound _ hdone
  refine ⟨⟨earlier, last, hlast, helects⟩, ?_⟩
  rcases hrounds _ _ _ hevents (by simp) with ⟨f, hfailed, -⟩ | ⟨s, rest, hs, hcomplete, hover⟩
  · cases hdone.symm.trans hfailed
  obtain ⟨hiff, -⟩ := hover (by simp)
  refine ⟨s, rest, hevents.trans hs, hcomplete, fun hrest entry hentry => ?_⟩
  by_contra hknown
  obtain ⟨_, -, hend, -⟩ := hiff.mpr ⟨entry, hentry, hknown⟩
  exact hrest hend

end TransferDrill.Drive

import TransferDrill.Proofs.Drive.Composition
import TransferDrill.Proofs.Drive.Sender
import TransferDrill.Proofs.Rehearsal.Plain
import Mathlib.Data.List.Range

/-!
# The wait for funds

The wait is told by the replies to the look-ups of the address alone. It ends at the first reply
with enough, and has slept once after every earlier one; that funds are needed is announced after
the first reply only. Where no reply has enough it goes on for ever in the same way.
-/

namespace TransferDrill.Drive

open Numeric Rehearsal

variable {settings : Settings} {address : String}

/-! ## Look-ups -/

/-- The request that looks up an address. -/
def lookupRequest (settings : Settings) (address : String) : Ask :=
  let account := AccountIdentifier.ofAddress address
  match settings.accounting with
  | .utxo => .call (.coinBalance account settings.currency)
  | .account => .call (.accountBalance account settings.currency)

/-- What is asked for by a look-up depends on the address only. -/
theorem lookup_request (held : Holding) :
    (lookup settings address held).request = lookupRequest settings address := by
  unfold lookup lookupRequest
  cases settings.accounting <;> rfl

/-- A look-up tells everything that is held, since an account has no coins. -/
theorem lookup_injective {held other : Holding}
    (hcoinless : settings.accounting = .account → held.coin = none ∧ other.coin = none)
    (h : lookup settings address held = lookup settings address other) : held = other := by
  obtain ⟨balance, coin⟩ := held
  obtain ⟨balance', coin'⟩ := other
  cases haccounting : settings.accounting with
  | utxo =>
    simp only [lookup, haccounting, Event.mk.injEq, heq_eq_eq, true_and] at h
    exact Except.ok.inj h
  | account =>
    obtain ⟨rfl, rfl⟩ := hcoinless haccounting
    simp only [lookup, haccounting, Event.mk.injEq, heq_eq_eq, true_and] at h
    cases Except.ok.inj h
    rfl

/-- A log line is no look-up. -/
theorem log_ne_lookupRequest (level : LogLevel) (text : String) :
    Ask.log level text ≠ lookupRequest settings address := by
  unfold lookupRequest
  cases settings.accounting <;> nofun

/-- A sleep is no look-up. -/
theorem sleep_ne_lookupRequest (seconds : Binary64) :
    Ask.sleep seconds ≠ lookupRequest settings address := by
  unfold lookupRequest
  cases settings.accounting <;> nofun

/-- Where looking up an address stops a script, the look-up has not returned. -/
theorem holding_leads_stops {α : Type} {events : List Event} {cut : Outcome Holding}
    {outcome : Outcome α} (h : (holding settings address).Leads events cut)
    (hstops : cut.Stops outcome) :
    ∃ e, events = [e] ∧ e.request = lookupRequest settings address ∧
      ∀ held, e ≠ lookup settings address held := by
  cases haccounting : settings.accounting with
  | utxo =>
    simp only [holding, lookupRequest, lookup, haccounting] at h ⊢
    rw [← Script.bind_done (Script.call _ _)] at h
    rcases Script.leads_attempt_bind h with ⟨fault, rfl, -⟩ | ⟨value, later, rfl, hlater⟩
    · exact ⟨_, rfl, rfl, fun held => by simp⟩
    · obtain ⟨-, rfl⟩ := Script.leads_done_iff.mp hlater
      cases hstops
  | account =>
    simp only [holding, lookupRequest, lookup, haccounting] at h ⊢
    rcases Script.leads_attempt_bind h with ⟨fault, rfl, -⟩ | ⟨value, later, rfl, hlater⟩
    · exact ⟨_, rfl, rfl, fun held => by simp⟩
    · obtain ⟨-, rfl⟩ := Script.leads_done_iff.mp hlater
      cases hstops

/-! ## Replies -/

/-- The look-ups of an address among some events have returned holdings in turn, and no sleep was
cut short. -/
structure Returned (settings : Settings) (address : String) (replies : Nat → Holding)
    (events : List Event) : Prop where
  lookups : ∃ n, events.filter (·.request = lookupRequest settings address) =
    (List.range n).map fun k => lookup settings address (replies k)
  sleeps : ∀ e ∈ events, ∀ seconds, e.request = .sleep seconds → e = ⟨.sleep seconds, .ok ()⟩

section Returned

variable {replies : Nat → Holding} {e : Event} {later : List Event}

/-- A look-up has returned the first of the holdings, and those that follow it the others. -/
theorem Returned.of_lookup (h : Returned settings address replies (e :: later))
    (he : e.request = lookupRequest settings address) :
    e = lookup settings address (replies 0) ∧
      Returned settings address (fun k => replies (k + 1)) later := by
  obtain ⟨n, hn⟩ := h.lookups
  rw [List.filter_cons_of_pos (by simpa using he)] at hn
  cases n with
  | zero => cases hn
  | succ n =>
    rw [List.range_succ_eq_map, List.map_cons, List.map_map] at hn
    obtain ⟨hfirst, hrest⟩ := List.cons.inj hn
    exact ⟨hfirst, ⟨n, hrest⟩, fun e he => h.sleeps e (.tail _ he)⟩

/-- An event that looks nothing up leaves the holdings to those that follow it. -/
theorem Returned.of_other (h : Returned settings address replies (e :: later))
    (he : e.request ≠ lookupRequest settings address) :
    Returned settings address replies later := by
  obtain ⟨n, hn⟩ := h.lookups
  rw [List.filter_cons_of_neg (by simpa using he)] at hn
  exact ⟨⟨n, hn⟩, fun e he => h.sleeps e (.tail _ he)⟩

/-- A script that begins with a sleep goes on after it. -/
theorem Returned.leads_sleep_bind {α : Type} {seconds : Binary64} {next : Unit → Script α}
    {events : List Event} {outcome : Outcome α} (h : Returned settings address replies events)
    (hleads : ((Script.sleep seconds).bind next).Leads events outcome) :
    ∃ later, events = ⟨.sleep seconds, .ok ()⟩ :: later ∧ (next ()).Leads later outcome ∧
      Returned settings address replies later := by
  rw [Script.sleep, Script.ask_bind, Script.leads_ask_iff] at hleads
  obtain ⟨reply, later, rfl, hlater⟩ := hleads
  cases h.sleeps _ (.head _) seconds rfl
  exact ⟨later, rfl, hlater, h.of_other (sleep_ne_lookupRequest seconds)⟩

end Returned

/-! ## The wait -/

/-- A holding has a balance that is enough for every kind of transfer. -/
def Enough (settings : Settings) (held : Holding) : Prop :=
  ∃ balance, held.balance = some balance ∧
    2 * settings.minimumBalance + settings.maximumFee ≤ balance

/-- The warning that funds are needed. -/
def needed (address need : String) : Event :=
  ⟨.log .warning s!"Waiting for funds on {address} (need {need})", ()⟩

/-- The line that tells of the funds. -/
def found (address shown : String) : Event :=
  ⟨.log .info s!"Found balance {shown} on {address}", ()⟩

/-- A look-up, and the sleep after it. -/
def lookupAndSleep (settings : Settings) (address : String) (held : Holding) : List Event :=
  [lookup settings address held, ⟨.sleep settings.sleepTime, .ok ()⟩]

/-- Everything that happens while holdings are too little: each is slept on, and the need is
announced after the first one, unless it has been before. -/
def waits (settings : Settings) (address need : String) (announced : Bool) :
    List Holding → List Event
  | [] => []
  | first :: rest =>
    lookup settings address first ::
      ((if announced then [] else [needed address need]) ++
        ⟨.sleep settings.sleepTime, .ok ()⟩ :: rest.flatMap (lookupAndSleep settings address))

/-- Once the need is announced, looking up and sleeping is all that happens. -/
theorem waits_announced (need : String) (holdings : List Holding) :
    waits settings address need true holdings =
      holdings.flatMap (lookupAndSleep settings address) := by
  cases holdings <;> rfl

/-- A wait begins with a look-up, the announcement if there was none, and a sleep. -/
theorem waits_cons (need : String) (announced : Bool) (held : Holding) (rest : List Holding) :
    waits settings address need announced (held :: rest) =
      lookup settings address held ::
        ((if announced then [] else [needed address need]) ++
          ⟨.sleep settings.sleepTime, .ok ()⟩ :: waits settings address need true rest) := by
  rw [waits, waits_announced]

/-- The first replies in turn. -/
def firstOf (replies : Nat → Holding) (n : Nat) : List Holding := (List.range n).map replies

/-- The first replies are the first one and those that come after it. -/
theorem firstOf_succ (replies : Nat → Holding) (n : Nat) :
    firstOf replies (n + 1) = replies 0 :: firstOf (fun k => replies (k + 1)) n := by
  rw [firstOf, List.range_succ_eq_map, List.map_cons, List.map_map]
  rfl

/-- A wait for funds that has ended at a reply, or was cut off before one had enough. -/
inductive Waited (settings : Settings) (address need : String) (shown : Int → String)
    (replies : Nat → Holding) (rounds : Nat) (announced : Bool) :
    List Event → Outcome (Int × Option CoinIdentifier) → Prop
  | funded {n : Nat} {balance : Int} (hn : n < rounds)
      (hbefore : ∀ k < n, ¬Enough settings (replies k))
      (hbalance : (replies n).balance = some balance)
      (henough : 2 * settings.minimumBalance + settings.maximumFee ≤ balance) :
      Waited settings address need shown replies rounds announced
        (waits settings address need announced (firstOf replies n) ++
          [lookup settings address (replies n), found address (shown balance)])
        (.done (balance, (replies n).coin))
  | cut (hnone : ∀ k < rounds, ¬Enough settings (replies k)) :
      Waited settings address need shown replies rounds announced
        (waits settings address need announced (firstOf replies rounds))
        .unfinished

section Waited

variable {need : String} {shown : Int → String} {replies : Nat → Holding} {rounds : Nat}
  {announced : Bool} {events : List Event} {outcome : Outcome (Int × Option CoinIdentifier)}

/-- One more reply that is not enough is slept on before the rest of the wait. -/
theorem Waited.cons (hfirst : ¬Enough settings (replies 0))
    (h : Waited settings address need shown (fun k => replies (k + 1)) rounds true events outcome) :
    Waited settings address need shown replies (rounds + 1) announced
      (lookup settings address (replies 0) ::
        ((if announced then [] else [needed address need]) ++
          ⟨.sleep settings.sleepTime, .ok ()⟩ :: events)) outcome := by
  have hall {n : Nat} (hrest : ∀ k < n, ¬Enough settings (replies (k + 1))) :
      ∀ k < n + 1, ¬Enough settings (replies k)
    | 0, _ => hfirst
    | k + 1, hk => hrest k (Nat.lt_of_succ_lt_succ hk)
  cases h with
  | @funded n balance hn hbefore hbalance henough =>
    have hwaited : Waited settings address need shown replies (rounds + 1) announced _ _ :=
      .funded (Nat.succ_lt_succ hn) (hall hbefore) hbalance henough
    rw [firstOf_succ, waits_cons] at hwaited
    simpa using hwaited
  | cut hnone =>
    have hwaited : Waited settings address need shown replies (rounds + 1) announced _ _ :=
      .cut (hall hnone)
    rwa [firstOf_succ, waits_cons] at hwaited

/-- A wait that lasts until the first reply that has enough ends there. -/
theorem Waited.of_enough {n : Nat} {balance : Int}
    (h : Waited settings address need shown replies rounds announced events outcome)
    (hbefore : ∀ k < n, ¬Enough settings (replies k))
    (hbalance : (replies n).balance = some balance)
    (henough : 2 * settings.minimumBalance + settings.maximumFee ≤ balance) (hn : n < rounds) :
    events = waits settings address need announced (firstOf replies n) ++
        [lookup settings address (replies n), found address (shown balance)] ∧
      outcome = .done (balance, (replies n).coin) := by
  have hthere : Enough settings (replies n) := ⟨balance, hbalance, henough⟩
  cases h with
  | @funded m other _ hbefore' hbalance' henough' =>
    have hthere' : Enough settings (replies m) := ⟨other, hbalance', henough'⟩
    obtain rfl : m = n := by
      rcases Nat.lt_trichotomy m n with hlt | heq | hlt
      · exact absurd hthere' (hbefore m hlt)
      · exact heq
      · exact absurd hthere (hbefore' n hlt)
    cases hbalance.symm.trans hbalance'
    exact ⟨rfl, rfl⟩
  | cut hnone => exact absurd hthere (hnone n hn)

/-- A wait is cut off as long as no reply has enough. -/
theorem Waited.of_none
    (h : Waited settings address need shown replies rounds announced events outcome)
    (hnone : ∀ k < rounds, ¬Enough settings (replies k)) :
    events = waits settings address need announced (firstOf replies rounds) ∧
      outcome = .unfinished := by
  cases h with
  | @funded n balance hn _ hbalance henough =>
    exact absurd ⟨balance, hbalance, henough⟩ (hnone n hn)
  | cut => exact ⟨rfl, rfl⟩

/-- Where every amount can be shown, showing one gives its text at once. -/
theorem showAmount_eq (hshown : ∀ amount, settings.currency.display? amount = some (shown amount))
    (amount : Int) : showAmount settings amount = .done (shown amount) := by
  rw [showAmount, hshown]

/-- Every path of the wait on which look-ups and sleeps return is told by the replies. -/
theorem awaitFundsFrom_leads
    (hshown : ∀ amount, settings.currency.display? amount = some (shown amount))
    (hcoinless : settings.accounting = .account → ∀ k, (replies k).coin = none)
    (h : (awaitFundsFrom settings address rounds announced).Leads events outcome)
    (hreturned : Returned settings address replies events) :
    Waited settings address (shown (2 * settings.minimumBalance + settings.maximumFee)) shown
      replies rounds announced events outcome := by
  induction rounds generalizing announced replies events with
  | zero =>
    obtain ⟨rfl, rfl⟩ := Script.leads_unfinished_iff.mp h
    exact .cut nofun
  | succ rounds ih =>
    rw [awaitFundsFrom] at h
    simp only [Script.bind_eq, Script.pure_eq, showAmount_eq hshown, Script.done_bind,
      fundingGoal_eq] at h
    rcases Script.leads_bind h with ⟨held, first, later, hheld, hlater, rfl⟩ | ⟨cut, hstops, hcut⟩
    · obtain ⟨rfl, hcoin⟩ := holding_leads_done_iff.mp hheld
      obtain ⟨hreply, hrest⟩ := hreturned.of_lookup (lookup_request held)
      obtain rfl : held = replies 0 :=
        lookup_injective (fun haccounting => ⟨hcoin haccounting, hcoinless haccounting 0⟩) hreply
      split at hlater
      · next balance hfilter =>
        obtain ⟨hbalance, hgoal⟩ := Option.filter_eq_some_iff.mp hfilter
        rw [decide_eq_true_eq] at hgoal
        obtain ⟨_, rest, rfl, hdone⟩ := Script.leads_ask_iff.mp hlater
        obtain ⟨rfl, rfl⟩ := Script.leads_done_iff.mp hdone
        exact .funded (Nat.succ_pos rounds) nofun hbalance hgoal
      · next hfilter =>
        have hfirst : ¬Enough settings (replies 0) := by
          intro henough
          obtain ⟨balance, hbalance, hgoal⟩ := henough
          rw [hbalance, Option.filter_some, if_pos (decide_eq_true hgoal)] at hfilter
          cases hfilter
        have hcoinlessRest := fun haccounting k => hcoinless haccounting (k + 1)
        cases announced with
        | true =>
          obtain ⟨rest, rfl, hleads, hreturned⟩ := hrest.leads_sleep_bind hlater
          exact (ih hcoinlessRest hleads hreturned).cons hfirst
        | false =>
          obtain ⟨_, last, rfl, hlast⟩ := Script.leads_ask_iff.mp hlater
          have hquiet := hrest.of_other (log_ne_lookupRequest _ _)
          obtain ⟨rest, rfl, hleads, hreturned⟩ := hquiet.leads_sleep_bind hlast
          exact (ih hcoinlessRest hleads hreturned).cons hfirst
    · obtain ⟨e, rfl, he, hnot⟩ := holding_leads_stops hcut hstops
      exact absurd (hreturned.of_lookup he).1 (hnot _)

end Waited

/-- A balance is shown unless the currency has too many places. -/
theorem exists_shown (hplaces : settings.currency.decimals ≤ FixedPoint.maxPlaces) :
    ∃ shown : Int → String, ∀ amount, settings.currency.display? amount = some (shown amount) := by
  refine ⟨fun amount => (settings.currency.display? amount).getD "", fun amount => ?_⟩
  simp [Currency.display?, Nat.not_lt.mpr hplaces]

/-- The wait for funds is told by the replies to the look-ups of the address. Where one of them is
the first with enough, the wait ends in a single run: it has slept on every earlier one, and returns
the balance and the coin of this one. As long as none has enough, it sleeps on all of them, and
never ends if none ever has. -/
theorem awaitFunds_told_by_replies (hplaces : settings.currency.decimals ≤ FixedPoint.maxPlaces)
    {σ : Type} (answer : Environment σ) (start : σ) (address : String) {replies : Nat → Holding}
    (hcoinless : settings.accounting = .account → ∀ k, (replies k).coin = none) :
    let wait (patience : Nat) := awaitFunds settings patience address
    let returned (patience : Nat) :=
      Returned settings address replies ((wait patience).run answer start).events
    ∃ shown : Int → String,
      (∀ amount, settings.currency.display? amount = some (shown amount)) ∧
      let waited (n : Nat) := waits settings address
        (shown (2 * settings.minimumBalance + settings.maximumFee)) false (firstOf replies n)
      (∀ n balance, returned (n + 1) → (∀ k < n, ¬Enough settings (replies k)) →
        (replies n).balance = some balance →
        2 * settings.minimumBalance + settings.maximumFee ≤ balance →
        ∃ after, ∀ run, EndsIn wait answer start run ↔
          run = ⟨waited n ++ [lookup settings address (replies n), found address (shown balance)],
            after, .done (balance, (replies n).coin)⟩) ∧
      (∀ n, returned n → (∀ k < n, ¬Enough settings (replies k)) →
        ∃ after, (wait n).run answer start = ⟨waited n, after, .unfinished⟩) ∧
      ((∀ n, returned n) → (∀ k, ¬Enough settings (replies k)) →
        ∀ run, ¬EndsIn wait answer start run) := by
  intro wait returned
  obtain ⟨shown, hshown⟩ := exists_shown hplaces
  have hwaited {n : Nat} (hreturned : returned n) := awaitFundsFrom_leads hshown hcoinless
    (Script.leads_run answer (wait n) start) hreturned
  refine ⟨shown, hshown, ?_⟩
  intro waited
  have hcut (n : Nat) (hreturned : returned n) (hnone : ∀ k < n, ¬Enough settings (replies k)) :
      ∃ after, (wait n).run answer start = ⟨waited n, after, .unfinished⟩ := by
    obtain ⟨hevents, houtcome⟩ : ((wait n).run answer start).events = waited n ∧
        ((wait n).run answer start).outcome = .unfinished := (hwaited hreturned).of_none hnone
    exact ⟨_, by rw [← hevents, ← houtcome]⟩
  refine ⟨?_, hcut, ?_⟩
  · intro n balance hreturned hbefore hbalance henough
    obtain ⟨hevents, houtcome⟩ : ((wait (n + 1)).run answer start).events =
          waited n ++ [lookup settings address (replies n), found address (shown balance)] ∧
        ((wait (n + 1)).run answer start).outcome = .done (balance, (replies n).coin) :=
      (hwaited hreturned).of_enough hbefore hbalance henough n.lt_succ_self
    have hends : EndsIn wait answer start ((wait (n + 1)).run answer start) :=
      ⟨n + 1, rfl, by rw [houtcome]; nofun⟩
    rw [← hevents, ← houtcome]
    refine ⟨_, fun run => ⟨fun hother => ?_, fun hother => hother ▸ hends⟩⟩
    exact hother.unique (fun hle => awaitFundsFrom_cutFrom hle) hends
  · intro hreturned hnone run hends
    obtain ⟨n, rfl, hends⟩ := hends
    obtain ⟨after, hrun⟩ := hcut n (hreturned n) fun k _ => hnone k
    exact hends (congrArg Run.outcome hrun)

/-- In a plain rehearsal, an address that is funded during the first sleep is looked up twice. -/
theorem awaitFunds_told_by_replies_rehearsed :
    let replies : Nat → Holding
      | 0 => ⟨some 0, none⟩
      | _ + 1 => ⟨some 100, none⟩
    (plainSettings .account).currency.decimals ≤ FixedPoint.maxPlaces ∧
      (∀ k, (replies k).coin = none) ∧
      Returned (plainSettings .account) "new1" replies
        ((awaitFunds (plainSettings .account) 2 "new1").run (answer .plain)
          (.fundedAsleep 100)).events ∧
      (∀ k < 1, ¬Enough (plainSettings .account) (replies k)) ∧
      ∃ run, EndsIn (fun patience => awaitFunds (plainSettings .account) patience "new1")
        (answer .plain) (State.fundedAsleep 100) run ∧ run.outcome = .done (100, none) := by
  intro replies
  have hplaces : (plainSettings .account).currency.decimals ≤ FixedPoint.maxPlaces := by decide
  have hcoinless : ∀ k, (replies k).coin = none
    | 0 => rfl
    | _ + 1 => rfl
  have hevents : ((awaitFunds (plainSettings .account) 2 "new1").run (answer .plain)
      (.fundedAsleep 100)).events = [lookup (plainSettings .account) "new1" (replies 0),
        needed "new1" "0.00000011 TST", ⟨.sleep (.ofInt 10), .ok ()⟩,
        lookup (plainSettings .account) "new1" (replies 1), found "new1" "0.00000100 TST"] := by
    with_unfolding_all rfl
  have hreturned : Returned (plainSettings .account) "new1" replies
      ((awaitFunds (plainSettings .account) 2 "new1").run (answer .plain)
        (.fundedAsleep 100)).events := by
    rw [hevents]
    refine ⟨⟨2, ?_⟩, ?_⟩
    · simp [lookup_request, needed, found, log_ne_lookupRequest, sleep_ne_lookupRequest,
        List.range_succ]
    · simp only [List.forall_mem_cons]
      refine ⟨nofun, nofun, ?_, nofun, nofun, List.forall_mem_nil _⟩
      rintro seconds ⟨⟩
      rfl
  have hlittle : ∀ k < 1, ¬Enough (plainSettings .account) (replies k) := by
    intro k hk
    obtain rfl := Nat.lt_one_iff.mp hk
    rintro ⟨balance, hbalance, henough⟩
    cases hbalance
    exact absurd henough (by decide)
  obtain ⟨shown, -, hfunded, -⟩ := awaitFunds_told_by_replies hplaces (answer .plain)
    (State.fundedAsleep 100) "new1" fun _ => hcoinless
  obtain ⟨after, hends⟩ := hfunded 1 100 hreturned hlittle rfl (by decide)
  exact ⟨hplaces, hcoinless, hreturned, hlittle, _, (hends _).mpr rfl, rfl⟩

end TransferDrill.Drive

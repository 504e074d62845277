import TransferDrill.Proofs.Drive.Cause
import TransferDrill.Proofs.Drive.Purpose
import TransferDrill.Proofs.Drive.Requests
import TransferDrill.Proofs.Drive.Sender
import TransferDrill.Proofs.Rehearsal.Plain

/-!
# When a drive waits and when it funds

The call made last decides. An address is made to be funded only after the adapter has listed no
address or no broadcast, and a drive sleeps only after the adapter has listed broadcasts, or while
the address that was just made does not hold enough. This is so in each of the three loops, for
however many rounds and whatever changes during a sleep.
-/

namespace TransferDrill

/-- Every request but a sleep and the derivation of an address. -/
def Ask.Prompt : Ask → Prop
  | .call (.derive ..) => False
  | .sleep _ => False
  | _ => True

namespace Drive

open Rehearsal

variable {settings : Settings}

/-- A look-up leaves it as it was whose funds are awaited. -/
theorem awaitedAfter_lookup (awaited : Option String) (address : String) (held : Holding) :
    awaitedAfter awaited (lookup settings address held) = awaited := by
  unfold lookup
  cases settings.accounting <;> rfl

/-- A look-up is a call. -/
theorem isCall_lookup (address : String) (held : Holding) :
    (lookup settings address held).isCall = true := by
  unfold lookup
  cases settings.accounting <;> rfl

/-- The last call has listed no address, or no broadcast. -/
def NothingListed (past : List Event) : Prop :=
  lastCall? past = some ⟨.call .allAddresses, .ok []⟩ ∨
    lastCall? past = some ⟨.call .allBroadcasts, .ok []⟩

/-- The last call has listed broadcasts. -/
def BroadcastsListed (past : List Event) : Prop :=
  ∃ broadcasts, broadcasts ≠ [] ∧ lastCall? past = some ⟨.call .allBroadcasts, .ok broadcasts⟩

/-- The last call was a look-up of an address that was made just before the look-ups of it, and
this address held nothing known or too little. -/
def FundsMissing (settings : Settings) (past : List Event) : Prop :=
  ∃ address held, awaited? past = some address ∧
    lastCall? past = some (lookup settings address held) ∧
    ∀ balance, held.balance = some balance →
      balance < 2 * settings.minimumBalance + settings.maximumFee

/-- What is asked for after a past is in order: no address is made to be funded unless nothing was
listed, and a sleep is of the time that is set and for broadcasts or funds. -/
structure InOrder (settings : Settings) (past : List Event) (note : Note) (request : Option Ask) :
    Prop where
  funding : ∀ network key, request = some (.call (.derive network key)) →
    note.purpose = .funding → NothingListed past
  sleeping : ∀ seconds, request = some (.sleep seconds) → seconds = settings.sleepTime ∧
    (BroadcastsListed past ∨ note.purpose = .funding ∧ FundsMissing settings past)

/-- A request that neither derives an address nor sleeps is in order. -/
theorem inOrder_of_prompt {past : List Event} {note : Note} {request : Option Ask}
    (h : ∀ q ∈ request, q.Prompt) : InOrder settings past note request where
  funding _ _ hrequest := (h _ hrequest).elim
  sleeping _ hrequest := (h _ hrequest).elim

/-- Where no address is made to be funded, a request that does not sleep is in order. -/
theorem inOrder_of_ne_funding {past : List Event} {note : Note} {request : Option Ask}
    (hnote : note.purpose ≠ .funding) (h : ∀ q ∈ request, ∀ seconds, q ≠ .sleep seconds) :
    InOrder settings past note request where
  funding _ _ _ hfunding := absurd hfunding hnote
  sleeping seconds hrequest := absurd rfl (h _ hrequest seconds)

section Segments

variable {note : Note} {past : List Event}

/-- A call that derives no address is in order, and is the last call when it has returned. -/
theorem call_inOrder {c : Call} {report : AdapterError → Failure} (h : (Ask.call c).Prompt) :
    ((Script.attempt c report).noted note).Keeps (InOrder settings)
      (fun value later => later = past ++ [⟨.call c, .ok value⟩]) past :=
  .attempt (inOrder_of_prompt (by simpa using h)) (fun _ => inOrder_of_prompt (by simp))
    fun _ => rfl

/-- A log line is in order at any time. -/
theorem log_inOrder (level : LogLevel) (text : String) :
    ((Script.log level text).noted note).Keeps (InOrder settings)
      (fun _ later => later = past ++ [⟨.log level text, ()⟩]) past :=
  .request (inOrder_of_prompt (by simp [Ask.Prompt])) fun _ => rfl

/-- A script that is not to fund an address is in order if it does not sleep. -/
theorem sleepless_inOrder {α : Type} {kind : Ask → Prop} {script : Script α}
    (hnote : note.purpose ≠ .funding) (h : script.OnlyAsks kind)
    (hkind : ∀ seconds, ¬kind (.sleep seconds)) :
    (script.noted note).Keeps (InOrder settings) (fun _ _ => True) past := by
  refine .of_onlyAsks h ?_ fun _ _ _ => trivial
  intro events request _ hrequest
  refine inOrder_of_ne_funding hnote ?_
  rintro q hq seconds rfl
  exact hkind seconds (hrequest _ hq)

/-- A sleep of the time that is set is in order after broadcasts were listed. -/
theorem sleep_inOrder (h : BroadcastsListed past) :
    ((Script.sleep settings.sleepTime).noted note).Keeps (InOrder settings) (fun _ _ => True)
      past := by
  refine .sleep ⟨nofun, ?_⟩ (fun _ => inOrder_of_prompt (by simp)) trivial
  intro seconds hseconds
  cases hseconds
  exact ⟨rfl, .inl h⟩

/-- Looking up an address is in order, and is the last call afterwards. -/
theorem holding_inOrder (address : String) :
    ((holding settings address).noted note).Keeps (InOrder settings)
      (fun held later => later = past ++ [lookup settings address held]) past := by
  refine .of_onlyAsks (holding_readsHoldings address) ?_ ?_
  · intro events request _ hrequest
    refine inOrder_of_prompt fun q hq => ?_
    have hkind := hrequest q hq
    cases q with
    | call c => cases c <;> trivial
    | _ => trivial
  · intro events held hleads
    rw [holding_leads_done hleads]

/-- Showing an amount is in order at any time: nothing happens. -/
theorem showAmount_inOrder (amount : Int) :
    ((showAmount settings amount).noted note).Keeps (InOrder settings)
      (fun _ later => later = past) past := by
  unfold showAmount
  cases settings.currency.display? amount with
  | some text => rfl
  | none => exact inOrder_of_prompt (by simp)

/-! ## Funding -/

/-- An address is made to be funded in order where nothing was listed, and is then awaited. -/
theorem newAddress_inOrder (h : NothingListed past) :
    ((newAddress settings).noted note).Keeps (InOrder settings)
      (fun address later => awaited? later = some address) past := by
  rw [newAddress]
  simp only [Script.bind_eq, Script.pure_eq, Noted.noted_bind]
  have hkey : ((newKeyPair settings.curve).noted note).Keeps (InOrder settings)
      (fun _ later => NothingListed later) past := by
    refine .of_onlyAsks (newKeyPair_drawsKey _) ?_ ?_
    · intro events request _ hrequest
      refine inOrder_of_prompt fun q hq => ?_
      have hkind := hrequest q hq
      cases q <;> trivial
    · intro events pair hleads
      have hnocall : ∀ e ∈ events, e.isCall = false := by
        intro e he
        have hkind := (newKeyPair_drawsKey _).of_leads hleads e he
        obtain ⟨q, reply⟩ := e
        cases q <;> trivial
      rwa [NothingListed, lastCall?_append past hnocall]
  refine hkey.bind fun pair past hlisted => ?_
  have hderive : ((Script.call (.derive settings.network pair.publicKey)
      .deriveAddress).noted note).Keeps (InOrder settings) (fun _ _ => True) past := by
    refine .attempt ⟨fun _ _ _ _ => hlisted, nofun⟩ (fun _ => inOrder_of_prompt (by simp)) ?_
    exact fun _ => trivial
  refine hderive.bind fun address past _ => ?_
  refine .bind (call_inOrder trivial) fun _ past _ => ?_
  refine .bind (call_inOrder trivial) fun _ past hannounced => ?_
  refine .bind (log_inOrder ..) fun _ past hlogged => ?_
  change awaited? past = some address
  rw [hlogged, hannounced, awaited?_append_singleton, awaited?_append_singleton]
  rfl

/-- A wait for funds is in order while the funds are awaited. -/
theorem awaitFundsFrom_inOrder {address : String} {rounds : Nat} {announced : Bool}
    (hnote : note.purpose = .funding) (hawaited : awaited? past = some address) :
    ((awaitFundsFrom settings address rounds announced).noted note).Keeps (InOrder settings)
      (fun _ _ => True) past := by
  induction rounds generalizing announced past with
  | zero => trivial
  | succ rounds ih =>
    rw [awaitFundsFrom]
    simp only [Script.bind_eq, Script.pure_eq, Noted.noted_bind]
    refine (holding_inOrder address).bind fun held later hlater => ?_
    have hstill : awaited? later = some address := by
      rw [hlater, awaited?_append_singleton, awaitedAfter_lookup, hawaited]
    have hlast : lastCall? later = some (lookup settings address held) := by
      rw [hlater, lastCall?_append_singleton, if_pos (isCall_lookup address held)]
    split
    · simp only [Noted.noted_bind]
      exact (showAmount_inOrder _).bind fun _ _ _ => (log_inOrder ..).bind fun _ _ _ => trivial
    · next hshort =>
      have hless : ∀ balance, held.balance = some balance →
          balance < 2 * settings.minimumBalance + settings.maximumFee := by
        intro balance hbalance
        rw [hbalance, Option.filter_eq_none_iff] at hshort
        have hgoal := hshort balance rfl
        rw [decide_eq_true_eq, fundingGoal_eq] at hgoal
        omega
      -- the look-up is still the last call, whether a line was written after it or not
      have hwait : ∀ {later : List Event}, awaited? later = some address →
          lastCall? later = some (lookup settings address held) →
          (((Script.sleep settings.sleepTime).bind fun _ =>
            awaitFundsFrom settings address rounds true).noted note).Keeps (InOrder settings)
              (fun _ _ => True) later := by
        intro later hstill hlast
        rw [Noted.noted_bind]
        have hsleep : ((Script.sleep settings.sleepTime).noted note).Keeps (InOrder settings)
            (fun _ rested => awaited? rested = some address) later := by
          refine .sleep ⟨fun _ _ h => (by cases h), ?_⟩ (fun _ => inOrder_of_prompt (by simp)) ?_
          · intro seconds hseconds
            cases hseconds
            exact ⟨rfl, .inr ⟨hnote, address, held, hstill, hlast, hless⟩⟩
          · rw [awaited?_append_singleton, hstill]
            rfl
        exact hsleep.bind fun _ _ => ih
      split
      · simp only [Noted.noted_bind]
        refine (showAmount_inOrder _).bind fun _ _ hshown => ?_
        subst hshown
        refine (log_inOrder ..).bind fun _ _ hlogged => ?_
        subst hlogged
        rw [← Noted.noted_bind]
        refine hwait ?_ ?_
        · rw [awaited?_append_singleton, hstill]
          rfl
        · rw [lastCall?_append_singleton, hlast]
          rfl
      · exact hwait hstill hlast

/-- Funding a new address is in order where nothing was listed. -/
theorem fundNewAddress_inOrder (patience counted : Nat) (h : NothingListed past) :
    ((fundNewAddress settings patience).noted ⟨counted, .funding⟩).Keeps (InOrder settings)
      (fun _ _ => True) past := by
  rw [fundNewAddress]
  simp only [Script.bind_eq, Script.pure_eq, Noted.noted_bind]
  refine (newAddress_inOrder h).bind fun address later hawaited => ?_
  exact (awaitFundsFrom_inOrder rfl hawaited).reportAs.bind fun _ _ _ => trivial

end Segments

/-! ## Rounds -/

/-- A look for a sender is in order from any past. -/
theorem notedLook_inOrder (patience counted : Nat) (past : List Event) :
    (notedLook settings patience counted).Keeps (InOrder settings) (fun _ _ => True) past := by
  rw [notedLook]
  simp only [Noted.bind_eq, Noted.pure_eq]
  refine .bind (call_inOrder trivial) fun addresses later haddresses => ?_
  split
  · next hempty =>
    refine (fundNewAddress_inOrder patience counted (.inl ?_)).bind fun _ _ _ => trivial
    rw [haddresses, lastCall?_append_singleton, List.isEmpty_iff.mp hempty]
    rfl
  · refine (sleepless_inOrder (by simp) (bestUnlocked_reads addresses) fun _ => id).bind ?_
    intro best selected _
    cases best with
    | some sender => trivial
    | none =>
      refine .bind (call_inOrder trivial) fun broadcasts later hbroadcasts => ?_
      have hlast : lastCall? later = some ⟨.call .allBroadcasts, .ok broadcasts⟩ := by
        rw [hbroadcasts, lastCall?_append_singleton]
        rfl
      split
      · next hnone =>
        refine (fundNewAddress_inOrder patience counted (.inr ?_)).bind fun _ _ _ => trivial
        rw [hlast, List.isEmpty_iff.mp hnone]
      · next hsome =>
        refine (log_inOrder ..).bind fun _ logged hlogged => ?_
        refine (sleep_inOrder ⟨broadcasts, by simpa using hsome, ?_⟩).bind fun _ _ _ => trivial
        rw [hlogged, lastCall?_append_singleton, hlast]
        rfl

/-- The search for a sender is in order, however many rounds it takes. -/
theorem notedSearch_inOrder (patience counted : Nat) (past : List Event) :
    (notedSearch settings patience counted).Keeps (InOrder settings) (fun _ _ => True) past := by
  have hlook : ∀ past, True → (notedLook settings patience counted).Keeps (InOrder settings)
      (fun best _ => best.elim True fun _ => True) past :=
    fun past _ => (notedLook_inOrder patience counted past).mono fun best _ _ => by
      cases best <;> trivial
  exact notedSearchFrom_keeps hlook patience trivial

/-- Making a transfer neither sleeps nor makes an address. -/
theorem notedTransfer_inOrder (counted : Nat) (sender : Sender) (transfer : Transfer)
    (past : List Event) :
    (notedTransfer settings counted sender transfer).Keeps (InOrder settings) (fun _ _ => True)
      past := by
  rw [notedTransfer]
  simp only [Noted.bind_eq]
  have hpopulate : (Script.ofExcept Failure.templates transfer.populate).OnlyAsks fun _ => False :=
    .ofExcept
  refine .bind (sleepless_inOrder (by simp) hpopulate fun _ => id) fun intent past _ => ?_
  refine .bind (sleepless_inOrder (by simp) (createTransaction_inConstruction intent)
    fun _ => id) fun transaction past _ => ?_
  refine .bind (call_inOrder trivial) fun _ past _ => ?_
  exact .request (inOrder_of_prompt (by simp [Ask.Prompt])) fun _ => trivial

/-- The wait after a shortage is in order from any past. -/
theorem notedChange_inOrder (patience counted : Nat) (shortage : Shortage) (past : List Event) :
    (notedChange settings patience counted shortage).Keeps (InOrder settings) (fun _ _ => True)
      past := by
  rw [notedChange]
  simp only [Noted.bind_eq]
  refine .bind (call_inOrder trivial) fun broadcasts later hbroadcasts => ?_
  have hlast : lastCall? later = some ⟨.call .allBroadcasts, .ok broadcasts⟩ := by
    rw [hbroadcasts, lastCall?_append_singleton]
    rfl
  split
  · next hnone =>
    refine (log_inOrder ..).bind fun _ logged hlogged => fundNewAddress_inOrder _ _ (.inr ?_)
    rw [hlogged, lastCall?_append_singleton, hlast, List.isEmpty_iff.mp hnone]
    rfl
  · next hsome =>
    refine (log_inOrder ..).bind fun _ logged hlogged => ?_
    refine sleep_inOrder ⟨broadcasts, by simpa using hsome, ?_⟩
    rw [hlogged, lastCall?_append_singleton, hlast]
    rfl

/-- A round of the drive is in order from any past. -/
theorem notedRound_inOrder (patience counted : Nat) (past : List Event) :
    (notedRound settings patience counted).Keeps (InOrder settings) (fun _ _ => True) past := by
  rw [notedRound]
  simp only [Noted.bind_eq, Noted.pure_eq]
  refine (notedSearch_inOrder patience counted past).bind fun sender past _ => ?_
  refine .bind (sleepless_inOrder (by simp) (sizeTransfer_inSizing sender).catchShortage
    fun _ => id) ?_
  intro result past _
  cases result with
  | ok transfer => exact (notedTransfer_inOrder ..).bind fun _ _ _ => trivial
  | error shortage => exact (notedChange_inOrder ..).bind fun _ _ _ => trivial

/-- The drive is in order, however many rounds it takes. -/
theorem notedDrive_inOrder (patience : Nat) (wanted : Option Int) :
    (notedDrive settings patience wanted).Keeps (InOrder settings) (fun _ _ => True) [] := by
  have hround : ∀ counted past, enough wanted counted = false → True →
      (notedRound settings patience counted).Keeps (InOrder settings) (fun _ _ => True) past :=
    fun counted past _ _ => notedRound_inOrder patience counted past
  exact (notedDriveFrom_keeps hround patience trivial).mono fun _ _ _ => trivial

/-- Whatever the adapter does, every request of a drive and of a search for a sender is in order:
an address is made to be funded only right after the adapter listed no address or no broadcast, and
every sleep is of the time that is set, right after broadcasts were listed or the address just made
was found to hold too little. -/
theorem createTransactions_inOrder {σ : Type} (answer : Environment σ) (settings : Settings)
    (patience : Nat) (wanted : Option Int) (start : σ) :
    ((notedDrive settings patience wanted).forget = createTransactions settings patience wanted ∧
      (∀ m ∈ (notedDrive settings patience wanted).moments answer start [],
        InOrder settings m.past m.note m.request) ∧
      ∀ before e after,
        ((createTransactions settings patience wanted).run answer start).events =
          before ++ e :: after →
        ∃ note, ⟨before, note, some e.request⟩ ∈
          (notedDrive settings patience wanted).moments answer start []) ∧
    (notedSearch settings patience 0).forget = findSender settings patience ∧
      (∀ m ∈ (notedSearch settings patience 0).moments answer start [],
        InOrder settings m.past m.note m.request) ∧
      ∀ before e after,
        ((findSender settings patience).run answer start).events = before ++ e :: after →
        ∃ note, ⟨before, note, some e.request⟩ ∈
          (notedSearch settings patience 0).moments answer start [] := by
  constructor
  · refine ⟨forget_notedDrive patience wanted, ?_, ?_⟩
    · exact (notedDrive_inOrder patience wanted).moments answer start
    · intro before e after hevents
      rw [← forget_notedDrive] at hevents
      exact Noted.exists_moment answer _ start [] hevents
  · refine ⟨forget_notedSearch patience 0, ?_, ?_⟩
    · exact (notedSearch_inOrder patience 0 []).moments answer start
    · intro before e after hevents
      rw [← forget_notedSearch patience 0] at hevents
      exact Noted.exists_moment answer _ start [] hevents

/-- In a rehearsal without addresses, the drive sleeps because the address that it makes first holds
nothing yet. -/
theorem createTransactions_inOrder_rehearsed :
    ∃ before note, FundsMissing (plainSettings .account) before ∧ note.purpose = .funding ∧
      InOrder (plainSettings .account) before note (some (.sleep (.ofInt 10))) := by
  let start : State := .fundedAsleep 100
  let run := (createTransactions (plainSettings .account) 3 (some 1)).run (answer .plain) start
  have hasked : Ask.sleep (.ofInt 10) ∈ run.events.map Event.request := by decide +kernel
  have hpending : Ask.call .allBroadcasts ∉ run.events.map Event.request := by decide +kernel
  obtain ⟨⟨_, reply⟩, hevent, rfl⟩ := List.mem_map.mp hasked
  obtain ⟨before, after, hevents⟩ := List.mem_iff_append.mp hevent
  obtain ⟨⟨-, horder, hmoments⟩, -⟩ :=
    createTransactions_inOrder (answer .plain) (plainSettings .account) 3 (some 1) start
  obtain ⟨note, hmoment⟩ := hmoments before _ after hevents
  have hinOrder : InOrder (plainSettings .account) before note (some (.sleep (.ofInt 10))) :=
    horder _ hmoment
  obtain ⟨-, ⟨broadcasts, -, hlast⟩ | ⟨hnote, hmissing⟩⟩ := hinOrder.sleeping _ rfl
  · have hlisted : ⟨.call .allBroadcasts, .ok broadcasts⟩ ∈ run.events := by
      rw [hevents]
      exact List.mem_append_left _ (mem_of_lastCall? hlast)
    exact absurd (List.mem_map_of_mem hlisted) hpending
  · exact ⟨before, note, hmissing, hnote, hinOrder⟩

end Drive

end TransferDrill

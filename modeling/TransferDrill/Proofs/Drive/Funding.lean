import TransferDrill.Proofs.Drive.Favour
import TransferDrill.Proofs.Drive.Shortage
import TransferDrill.Proofs.Drive.Waiting
import Mathlib.Data.List.TakeWhile

/-!
# Funds that unblock the drive

The balance that a new address is waited to hold is enough for a transfer of every kind. So as long
as the world favours that address, the next search finds a sender at once, the transfer does not
run short, and no other address is funded before a transfer has been attempted.
-/

namespace TransferDrill

/-- Whether a transfer is attempted at an event: the construction of its transaction begins. -/
def Event.attempts : Event → Bool
  | ⟨.call (.preprocess ..), _⟩ => true
  | _ => false

/-- What was found on which account. -/
def Event.held? : Event → Option (String × Option Int)
  | ⟨.call (.accountBalance account _), .ok held⟩ => some (account.address, held)
  | _ => none

/-- A line of information is written. -/
def Ask.Informs : Ask → Prop
  | .log .info _ => True
  | _ => False

/-- To read the state of the world is to write no line. -/
theorem Ask.not_informs_of_reads (q : Ask) (h : q.Reads) : ¬q.Informs := by
  cases q with
  | log level text => exact h.elim
  | _ => exact id

/-- To look up holdings is to write no line. -/
theorem Ask.not_informs_of_readsHoldings (q : Ask) (h : q.ReadsHoldings) : ¬q.Informs :=
  q.not_informs_of_reads (q.reads_of_readsHoldings h)

/-- To draw a key is to write no line. -/
theorem Ask.not_informs_of_drawsKey (q : Ask) (h : q.DrawsKey) : ¬q.Informs := by
  cases q with
  | log level text => exact h.elim
  | _ => exact id

namespace Drive

open Rehearsal

variable {settings : Settings} {address : String} {balance : Int} {past : List Event}

/-- An address has just been funded: while its funds were awaited, it was found to hold a balance
that is enough, and a line was written about that. -/
def Funded (settings : Settings) (past : List Event) (address : String) (balance : Int) : Prop :=
  ∃ before coin text, past = before ++
      [lookup settings address ⟨some balance, coin⟩, ⟨.log .info text, ()⟩] ∧
    awaited? before = some address ∧
    2 * settings.minimumBalance + settings.maximumFee ≤ balance

/-- After every funding there was an attempt to make a transfer, unless something before the attempt
did not favour the funded address. -/
def AttemptedSince (settings : Settings) (past : List Event) : Prop :=
  ∀ before after address balance, past = before ++ after → Funded settings before address balance →
    (∀ e ∈ after.takeWhile fun e => !e.attempts, e.Favours address balance) →
    ∃ e ∈ after, e.attempts = true

/-- An address has been funded, and everything since favours it. -/
def StillFunded (settings : Settings) (past : List Event) (address : String) (balance : Int) :
    Prop :=
  ∃ before after, past = before ++ after ∧ Funded settings before address balance ∧
    ∀ e ∈ after, e.Favours address balance

/-- No address is still funded. -/
def Unfunded (settings : Settings) (past : List Event) : Prop :=
  ∀ address balance, ¬StillFunded settings past address balance

/-- An address that is still funded was found to hold what every kind of transfer takes. -/
theorem StillFunded.enough (h : StillFunded settings past address balance) :
    2 * settings.minimumBalance + settings.maximumFee ≤ balance := by
  obtain ⟨_, _, -, ⟨_, _, _, -, -, henough⟩, -⟩ := h
  exact henough

/-- If no address is still funded, each funding was followed by an attempt or by something that did
not favour it. -/
theorem Unfunded.attemptedSince (h : Unfunded settings past) : AttemptedSince settings past := by
  intro before after address balance hpast hfunded hfavours
  by_contra hnone
  have hall : after.takeWhile (fun e => !e.attempts) = after := by
    rw [List.takeWhile_eq_self_iff]
    intro e he
    by_contra hattempts
    exact hnone ⟨e, he, by simpa using hattempts⟩
  rw [hall] at hfavours
  exact h address balance ⟨before, after, hpast, hfunded, hfavours⟩

/-- What is still funded after an event was so before and is favoured by the event, or has just been
funded. -/
theorem StillFunded.of_append_singleton {e : Event}
    (h : StillFunded settings (past ++ [e]) address balance) :
    (StillFunded settings past address balance ∧ e.Favours address balance) ∨
      Funded settings (past ++ [e]) address balance := by
  obtain ⟨before, after, hpast, hfunded, hfavours⟩ := h
  rcases List.eq_nil_or_concat after with rfl | ⟨earlier, last, rfl⟩
  · rw [hpast, List.append_nil]
    exact .inr hfunded
  · rw [List.concat_eq_append, ← List.append_assoc] at hpast
    obtain ⟨rfl, hlast⟩ := List.append_inj' hpast rfl
    obtain rfl : e = last := List.head_eq_of_cons_eq hlast
    simp only [List.concat_eq_append, List.forall_mem_append] at hfavours
    exact .inl ⟨⟨before, earlier, rfl, hfunded, hfavours.1⟩, hfavours.2 e (by simp)⟩

/-- A funding ends with a look-up and a line of information. -/
theorem Funded.of_append_singleton {e : Event}
    (h : Funded settings (past ++ [e]) address balance) :
    e.request.Informs ∧ ∃ held, past.getLast? = some (lookup settings address held) := by
  obtain ⟨before, coin, text, hpast, -⟩ := h
  rw [List.append_cons before] at hpast
  obtain ⟨rfl, hlast⟩ := List.append_inj' hpast rfl
  obtain rfl := List.head_eq_of_cons_eq hlast
  exact ⟨trivial, _, List.getLast?_concat⟩

/-- What is still funded after events without information was so before, and they favour it. -/
theorem StillFunded.of_append {events : List Event}
    (h : StillFunded settings (past ++ events) address balance)
    (hevents : ∀ e ∈ events, ¬e.request.Informs) :
    StillFunded settings past address balance ∧ ∀ e ∈ events, e.Favours address balance := by
  induction events generalizing past with
  | nil => exact ⟨by simpa using h, by simp⟩
  | cons e events ih =>
    obtain ⟨hfirst, hlater⟩ := List.forall_mem_cons.mp hevents
    rw [List.append_cons] at h
    obtain ⟨hfunded, hfavours⟩ := ih h hlater
    rcases hfunded.of_append_singleton with ⟨hbefore, hfavour⟩ | hjust
    · exact ⟨hbefore, List.forall_mem_cons.mpr ⟨hfavour, hfavours⟩⟩
    · exact absurd hjust.of_append_singleton.1 hfirst

/-- Events without a line of information fund no address. -/
theorem Unfunded.append {events : List Event} (h : Unfunded settings past)
    (hevents : ∀ e ∈ events, ¬e.request.Informs) : Unfunded settings (past ++ events) :=
  fun address balance hfunded => h address balance (hfunded.of_append hevents).1

/-! ## Funding in favour of nobody -/

/-- Addresses are made to be funded only while none is still funded. -/
def FundsOnce (settings : Settings) (past : List Event) (note : Note) (_ : Option Ask) : Prop :=
  note.purpose = .funding → Unfunded settings past

/-- While no address is funded, a script that gives no information leaves it so. -/
theorem uninformed_unfunded {α : Type} {script : Script α} {note : Note}
    (h : script.OnlyAsks fun q => ¬q.Informs) (hnone : Unfunded settings past) :
    (script.noted note).Keeps (FundsOnce settings) (fun _ later => Unfunded settings later) past :=
  .of_onlyAsks h (fun _ _ hevents _ _ => hnone.append hevents)
    fun _ _ hleads => hnone.append (h.of_leads hleads)

/-- Under a note of anything but funding, a script may do anything. -/
theorem other_fundsOnce {α : Type} {script : Script α} {note : Note}
    (hnote : note.purpose ≠ .funding) :
    (script.noted note).Keeps (FundsOnce settings)
      (fun a later => ∃ events, later = past ++ events ∧ script.Leads events (.done a)) past :=
  .of_note fun _ _ h => absurd h hnote

/-- A call that is not made for funding is in order, whatever has been funded. -/
theorem call_fundsOnce {c : Call} {report : AdapterError → Failure} {note : Note}
    (hnote : note.purpose ≠ .funding) :
    ((Script.attempt c report).noted note).Keeps (FundsOnce settings)
      (fun value later => later = past ++ [⟨.call c, .ok value⟩]) past :=
  .attempt (fun h => absurd h hnote) (fun _ h => absurd h hnote) fun _ => rfl

section Segments

variable {note : Note}

/-- While no address is funded, a call leaves it so. -/
theorem call_unfunded {c : Call} {report : AdapterError → Failure}
    (hnone : Unfunded settings past) :
    ((Script.attempt c report).noted note).Keeps (FundsOnce settings)
      (fun value later => Unfunded settings later ∧ later = past ++ [⟨.call c, .ok value⟩])
      past := by
  have hsame (reply : Except Fault c.Value) : Unfunded settings (past ++ [⟨.call c, reply⟩]) :=
    hnone.append (by simp [Ask.Informs])
  exact .attempt (fun _ => hnone) (fun fault _ => hsame (.error fault))
    fun value => ⟨hsame (.ok value), rfl⟩

/-- While no address is funded, making one leaves it so. -/
theorem newAddress_unfunded (hnone : Unfunded settings past) :
    ((newAddress settings).noted note).Keeps (FundsOnce settings)
      (fun _ later => Unfunded settings later) past := by
  rw [newAddress]
  simp only [Script.bind_eq, Script.pure_eq, Noted.noted_bind]
  have hkey : (newKeyPair settings.curve).OnlyAsks fun q => ¬q.Informs :=
    (newKeyPair_drawsKey _).mono Ask.not_informs_of_drawsKey
  refine .bind (uninformed_unfunded hkey hnone) fun pair past hnone => ?_
  refine .bind (call_unfunded hnone) fun address past hderived => ?_
  refine .bind (call_unfunded hderived.1) fun _ past hstored => ?_
  refine .bind (call_unfunded hstored.1) fun _ announced hannounced => ?_
  -- the line of information does not come after a look-up
  have hlog : ((Script.log .info s!"Created address {address}").noted note).Keeps
      (FundsOnce settings) (fun _ later => Unfunded settings later) announced := by
    refine .request (fun _ => hannounced.1) fun _ funded balance h => ?_
    rcases h.of_append_singleton with ⟨hbefore, -⟩ | hjust
    · exact hannounced.1 funded balance hbefore
    · obtain ⟨-, held, hlast⟩ := hjust.of_append_singleton
      rw [hannounced.2, List.getLast?_concat, lookup] at hlast
      cases haccounting : settings.accounting <;> rw [haccounting] at hlast <;> cases hlast
  exact hlog.bind fun _ _ h => h

/-- Funds are awaited while no address is funded. -/
theorem awaitFundsFrom_fundsOnce {rounds : Nat} {announced : Bool}
    (hnone : Unfunded settings past) :
    ((awaitFundsFrom settings address rounds announced).noted note).Keeps (FundsOnce settings)
      (fun _ _ => True) past := by
  induction rounds generalizing announced past with
  | zero => trivial
  | succ rounds ih =>
    rw [awaitFundsFrom]
    simp only [Script.bind_eq, Script.pure_eq, Noted.noted_bind]
    have hlook : (holding settings address).OnlyAsks fun q => ¬q.Informs :=
      (holding_readsHoldings address).mono Ask.not_informs_of_readsHoldings
    refine .bind (uninformed_unfunded hlook hnone) fun held past hnone => ?_
    split
    · simp only [Noted.noted_bind]
      refine .bind (uninformed_unfunded (showAmount_onlyAsks _) hnone) fun shown past hnone => ?_
      have hfound (text : String) : ((Script.log .info text).noted note).Keeps (FundsOnce settings)
          (fun _ _ => True) past := .request (fun _ => hnone) fun _ => trivial
      exact (hfound _).bind fun _ _ _ => trivial
    · have hwait : ∀ {past : List Event}, Unfunded settings past →
          (((Script.sleep settings.sleepTime).bind fun _ =>
            awaitFundsFrom settings address rounds true).noted note).Keeps (FundsOnce settings)
              (fun _ _ => True) past := by
        intro past hnone
        rw [Noted.noted_bind]
        exact .bind (uninformed_unfunded (.sleep id) hnone) fun _ _ => ih
      split
      · rw [Noted.noted_bind]
        refine .bind (uninformed_unfunded (showAmount_onlyAsks _) hnone) fun shown past hnone => ?_
        rw [Noted.noted_bind]
        exact .bind (uninformed_unfunded (.request id) hnone) fun _ _ => hwait
      · exact hwait hnone

/-- A new address is funded while no other one is. -/
theorem fundNewAddress_fundsOnce (patience counted : Nat) (hnone : Unfunded settings past) :
    ((fundNewAddress settings patience).noted ⟨counted, .funding⟩).Keeps (FundsOnce settings)
      (fun _ _ => True) past := by
  rw [fundNewAddress]
  simp only [Script.bind_eq, Script.pure_eq, Noted.noted_bind]
  refine (newAddress_unfunded hnone).bind fun address later hnone => ?_
  exact (awaitFundsFrom_fundsOnce hnone).reportAs.bind fun _ _ _ => trivial

end Segments

/-! ## Rounds -/

/-- A sender holds at least what an address that is still funded was found to hold. -/
def HoldsFunds (settings : Settings) (sender : Sender) (past : List Event) : Prop :=
  ∀ address balance, StillFunded settings past address balance → balance ≤ sender.balance

/-- A look for a sender funds an address only while no other one is, and finds a sender that holds
the funds. -/
theorem notedLook_fundsOnce (patience counted : Nat) (past : List Event) :
    (notedLook settings patience counted).Keeps (FundsOnce settings)
      (fun best later => ∀ sender, best = some sender → HoldsFunds settings sender later) past := by
  rw [notedLook]
  simp only [Noted.bind_eq, Noted.pure_eq]
  refine .bind (call_fundsOnce (by simp)) fun addresses listed hlisted => ?_
  subst hlisted
  split
  · next hempty =>
    refine (fundNewAddress_fundsOnce patience counted fun address balance h => ?_).bind
      fun _ _ _ _ h => by cases h
    obtain ⟨-, hfavours⟩ := h.of_append (by simp [Ask.Informs])
    obtain ⟨_, ⟨⟩, hmem, -⟩ := hfavours _ (List.mem_singleton_self _)
    rw [List.isEmpty_iff.mp hempty] at hmem
    cases hmem
  · refine .bind (other_fundsOnce (by simp)) fun best selected hselected => ?_
    obtain ⟨events, rfl, hleads⟩ := hselected
    -- an address that is still funded after a selection was favoured by it
    have hsender : ∀ address balance, StillFunded settings
        (past ++ [⟨.call .allAddresses, .ok addresses⟩] ++ events) address balance →
        ∃ sender, best = some sender ∧ balance ≤ sender.balance := by
      intro address balance h
      rw [List.append_assoc] at h
      have hreads : ∀ e ∈ events, ¬e.request.Informs := fun e he =>
        Ask.not_informs_of_reads _ ((bestUnlocked_reads addresses).of_leads hleads e he)
      obtain ⟨-, hfavours⟩ :=
        h.of_append (List.forall_mem_append.mpr ⟨by simp [Ask.Informs], hreads⟩)
      obtain ⟨sender, hfound, hmost⟩ := bestUnlocked_leads_favoured hleads hfavours
      exact ⟨sender, Outcome.done.inj hfound, hmost⟩
    cases best with
    | some sender =>
      rintro _ ⟨⟩ address balance h
      obtain ⟨_, ⟨⟩, hmost⟩ := hsender address balance h
      exact hmost
    | none =>
      refine .bind (call_fundsOnce (by simp)) fun broadcasts pending hpending => ?_
      subst hpending
      split
      · refine (fundNewAddress_fundsOnce patience counted fun address balance h => ?_).bind
          fun _ _ _ _ h => by cases h
        obtain ⟨_, ⟨⟩, -⟩ := hsender address balance (h.of_append (by simp [Ask.Informs])).1
      · refine .bind (other_fundsOnce (by simp)) fun _ _ _ => ?_
        exact .bind (other_fundsOnce (by simp)) fun _ _ _ _ h => by cases h

/-- A search funds an address only while no other one is, and finds a sender that holds the
funds. -/
theorem notedSearch_fundsOnce (patience counted : Nat) (past : List Event) :
    (notedSearch settings patience counted).Keeps (FundsOnce settings) (HoldsFunds settings)
      past := by
  have hlook : ∀ past, True → (notedLook settings patience counted).Keeps (FundsOnce settings)
      (fun best later => best.elim True fun sender => HoldsFunds settings sender later) past :=
    fun past _ => (notedLook_fundsOnce patience counted past).mono fun best _ hbest => by
      cases best with
      | some sender => exact hbest sender rfl
      | none => trivial
  exact notedSearchFrom_keeps hlook patience trivial

/-- After a shortage another address is funded while none is. -/
theorem notedChange_fundsOnce (patience counted : Nat) (shortage : Shortage)
    (hnone : Unfunded settings past) :
    (notedChange settings patience counted shortage).Keeps (FundsOnce settings) (fun _ _ => True)
      past := by
  rw [notedChange]
  simp only [Noted.bind_eq]
  refine .bind (call_unfunded hnone) fun broadcasts past hlisted => ?_
  split
  · refine .bind (uninformed_unfunded (.request id) hlisted.1) fun _ past hnone => ?_
    exact fundNewAddress_fundsOnce patience counted hnone
  · refine .bind (uninformed_unfunded (.request id) hlisted.1) fun _ past hnone => ?_
    exact (uninformed_unfunded (.sleep id) hnone).mono fun _ _ _ => trivial

/-- Making a transfer funds no address. -/
theorem notedTransfer_fundsOnce (counted : Nat) (sender : Sender) (transfer : Transfer) :
    (notedTransfer settings counted sender transfer).Keeps (FundsOnce settings) (fun _ _ => True)
      past := by
  rw [notedTransfer]
  simp only [Noted.bind_eq]
  refine .bind (other_fundsOnce (by simp)) fun intent _ _ => ?_
  refine .bind (other_fundsOnce (by simp)) fun transaction _ _ => ?_
  refine .bind (call_fundsOnce (by simp)) fun _ _ _ => ?_
  exact (other_fundsOnce (by simp)).mono fun _ _ _ => trivial

/-- A round funds an address only while no other one is. -/
theorem notedRound_fundsOnce (patience counted : Nat) (past : List Event) :
    (notedRound settings patience counted).Keeps (FundsOnce settings) (fun _ _ => True) past := by
  rw [notedRound]
  simp only [Noted.bind_eq, Noted.pure_eq]
  refine (notedSearch_fundsOnce patience counted past).bind fun sender found hfound => ?_
  refine .bind (other_fundsOnce (by simp)) fun result sized hsized => ?_
  obtain ⟨events, rfl, hleads⟩ := hsized
  cases result with
  | ok transfer => exact (notedTransfer_fundsOnce ..).bind fun _ _ _ => trivial
  | error shortage =>
    have hshort : (sizeTransfer settings sender).Leads events (.failed (.shortage shortage)) := by
      simpa using Script.leads_catchShortage_done_iff.mp hleads
    obtain ⟨hreads, hbelow⟩ := sizeTransfer_short hshort
    -- an address that is still funded would be enough for the transfer
    have hnone : Unfunded settings (found ++ events) := by
      intro address balance h
      obtain ⟨hstill, -⟩ :=
        h.of_append fun e he => Ask.not_informs_of_readsHoldings _ (hreads e he)
      have hmost : balance ≤ sender.balance := hfound address balance hstill
      have henough := hstill.enough
      omega
    exact (notedChange_fundsOnce _ _ _ hnone).bind fun _ _ _ => trivial

/-- The drive funds an address only while no other one is, however many rounds it takes. -/
theorem notedDrive_fundsOnce (patience : Nat) (wanted : Option Int) :
    (notedDrive settings patience wanted).Keeps (FundsOnce settings) (fun _ _ => True) [] := by
  have hround : ∀ counted past, enough wanted counted = false → True →
      (notedRound settings patience counted).Keeps (FundsOnce settings) (fun _ _ => True) past :=
    fun counted past _ _ => notedRound_fundsOnce patience counted past
  exact (notedDriveFrom_keeps hround patience trivial).mono fun _ _ _ => trivial

/-! ## What was funded -/

/-- Nothing happens while an amount is shown. -/
theorem showAmount_leads_done {amount : Int} {events : List Event} {text : String}
    (h : (showAmount settings amount).Leads events (.done text)) : events = [] := by
  unfold showAmount at h
  split at h
  · exact (Script.leads_done_iff.mp h).1
  · simp at h

/-- A new address is the one that its key was derived to, and its funds are awaited next. -/
theorem newAddress_leads_done {events : List Event}
    (h : (newAddress settings).Leads events (.done address)) :
    (∃ network key, ⟨.call (.derive network key), .ok address⟩ ∈ events) ∧
      ∀ past, awaited? (past ++ events) = some address := by
  rw [newAddress] at h
  simp only [Script.bind_eq, Script.pure_eq, Script.call, Script.log] at h
  obtain ⟨pair, drawn, later, -, hlater, rfl⟩ := Script.leads_bind_done_iff.mp h
  obtain ⟨derived, stored, rfl, hstored⟩ := Script.leads_attempt_bind_iff.mp hlater
  obtain ⟨_, announced, rfl, hannounced⟩ := Script.leads_attempt_bind_iff.mp hstored
  obtain ⟨_, logged, rfl, hlogged⟩ := Script.leads_attempt_bind_iff.mp hannounced
  obtain ⟨_, last, rfl, hlast⟩ := Script.leads_request_bind_iff.mp hlogged
  obtain ⟨rfl, haddress⟩ := Script.leads_done_iff.mp hlast
  cases haddress
  refine ⟨⟨settings.network, pair.publicKey, by simp⟩, fun past => ?_⟩
  simp [awaited?, awaitedAfter]

/-- Awaited funds have been found when the wait is over. -/
theorem awaitFundsFrom_leads_done {rounds : Nat} {announced : Bool} {events : List Event}
    {coin : Option CoinIdentifier}
    (h : (awaitFundsFrom settings address rounds announced).Leads events (.done (balance, coin)))
    (hawaited : awaited? past = some address) :
    Funded settings (past ++ events) address balance := by
  induction rounds generalizing announced past events with
  | zero => simp [awaitFundsFrom] at h
  | succ rounds ih =>
    rw [awaitFundsFrom] at h
    simp only [Script.bind_eq, Script.pure_eq, Script.log] at h
    obtain ⟨held, first, later, hholding, hlater, rfl⟩ := Script.leads_bind_done_iff.mp h
    obtain rfl := holding_leads_done hholding
    split at hlater
    · next found hfound =>
      obtain ⟨shown, none, rest, hshown, hrest, rfl⟩ := Script.leads_bind_done_iff.mp hlater
      obtain rfl := showAmount_leads_done hshown
      obtain ⟨_, last, rfl, hlast⟩ := Script.leads_request_bind_iff.mp hrest
      obtain ⟨rfl, hvalue⟩ := Script.leads_done_iff.mp hlast
      cases hvalue
      obtain ⟨hbalance, hgoal⟩ := Option.filter_eq_some_iff.mp hfound
      rw [decide_eq_true_eq, fundingGoal_eq] at hgoal
      obtain ⟨_, coin⟩ := held
      cases hbalance
      exact ⟨past, coin, _, rfl, hawaited, hgoal⟩
    · have hstill : awaited? (past ++ [lookup settings address held]) = some address := by
        rw [awaited?_append_singleton, awaitedAfter_lookup, hawaited]
      have hwait : ∀ {past events : List Event}, awaited? past = some address →
          ((Script.sleep settings.sleepTime).bind fun _ =>
            awaitFundsFrom settings address rounds true).Leads events (.done (balance, coin)) →
          Funded settings (past ++ events) address balance := by
        intro past events hawaited h
        obtain ⟨later, rfl, hlater⟩ := Script.leads_sleep_bind_iff.mp h
        rw [List.append_cons]
        refine ih hlater ?_
        rw [awaited?_append_singleton, hawaited]
        rfl
      rw [List.singleton_append, List.append_cons]
      split at hlater
      · obtain ⟨shown, none, rest, hshown, hrest, rfl⟩ := Script.leads_bind_done_iff.mp hlater
        obtain rfl := showAmount_leads_done hshown
        obtain ⟨_, last, rfl, hlast⟩ := Script.leads_request_bind_iff.mp hrest
        rw [List.nil_append, List.append_cons]
        refine hwait ?_ hlast
        rw [awaited?_append_singleton, hstill]
        rfl
      · exact hwait hstill hlater

/-- When a new address has been funded, it was derived and is funded now, whatever was before. -/
theorem fundNewAddress_leads_done {patience : Nat} {events : List Event}
    (h : (fundNewAddress settings patience).Leads events (.done ())) :
    ∃ address balance, (∃ network key, ⟨.call (.derive network key), .ok address⟩ ∈ events) ∧
      ∀ past, Funded settings (past ++ events) address balance := by
  rw [fundNewAddress] at h
  simp only [Script.bind_eq, Script.pure_eq] at h
  obtain ⟨address, made, later, hmade, hlater, rfl⟩ := Script.leads_bind_done_iff.mp h
  obtain ⟨⟨balance, coin⟩, waited, last, hwaited, hlast, rfl⟩ :=
    Script.leads_bind_done_iff.mp hlater
  obtain ⟨rfl, -⟩ := Script.leads_done_iff.mp hlast
  obtain ⟨⟨network, key, hderived⟩, hawaited⟩ := newAddress_leads_done hmade
  refine ⟨address, balance, ⟨network, key, List.mem_append_left _ hderived⟩, fun past => ?_⟩
  rw [List.append_nil, ← List.append_assoc]
  exact awaitFundsFrom_leads_done (Script.leads_reportAs_done_iff.mp hwaited) (hawaited past)

/-- In no world does a transfer from a sender run short. -/
def NeverShort (settings : Settings) (sender : Sender) : Prop :=
  ∀ {τ : Type} (world : Environment τ) (state : τ) (shortage : Shortage),
    ((sizeTransfer settings sender).run world state).outcome ≠ .failed (.shortage shortage)

/-- A sender with as much as every kind of transfer takes never runs short. -/
theorem neverShort_of_enough {sender : Sender}
    (h : 2 * settings.minimumBalance + settings.maximumFee ≤ sender.balance) :
    NeverShort settings sender := by
  intro τ world state shortage hshort
  have hleads := (sizeTransfer settings sender).leads_run world state
  rw [hshort] at hleads
  obtain ⟨-, hbelow⟩ := sizeTransfer_short hleads
  omega

/-- Funding always unblocks the drive. When a new address has been funded, a search for a sender in
favour of it ends with its first selection, which offers a sender that holds enough for every kind
of transfer, and no transfer from it runs short. So the drive funds another address only after it
has attempted a transfer, as long as all that happens before the attempt favours the address that
was funded. -/
theorem createTransactions_unblocked {σ : Type} (answer : Environment σ) (settings : Settings)
    (patience : Nat) (start : σ) :
    (∀ events between,
      (fundNewAddress settings patience).run answer start = ⟨events, between, .done ()⟩ →
      ∃ address balance, (∃ network key, ⟨.call (.derive network key), .ok address⟩ ∈ events) ∧
        (∀ past, Funded settings (past ++ events) address balance) ∧
        ∀ rounds reads after outcome,
          (findSenderFrom settings patience (rounds + 1)).run answer between =
            ⟨reads, after, outcome⟩ →
          (∀ e ∈ reads, e.Favours address balance) →
          ∃ (s : Selection) (sender : Sender), outcome = .done sender ∧ reads = s.events settings ∧
            s.Offers sender ∧ 2 * settings.minimumBalance + settings.maximumFee ≤ sender.balance ∧
            NeverShort settings sender) ∧
    ∀ wanted,
      (notedDrive settings patience wanted).forget = createTransactions settings patience wanted ∧
      (∀ m ∈ (notedDrive settings patience wanted).moments answer start [],
        m.note.purpose = .funding → AttemptedSince settings m.past) ∧
      ∀ before e after,
        ((createTransactions settings patience wanted).run answer start).events =
          before ++ e :: after →
        ∃ note, ⟨before, note, some e.request⟩ ∈
          (notedDrive settings patience wanted).moments answer start [] := by
  constructor
  · intro events between hrun
    obtain ⟨hfunding, -⟩ := (Script.run_eq_iff ..).mp hrun
    obtain ⟨address, balance, hderived, hfunded⟩ := fundNewAddress_leads_done hfunding
    refine ⟨address, balance, hderived, hfunded, fun rounds reads after outcome hsearch => ?_⟩
    intro hfavours
    obtain ⟨hleads, -⟩ := (Script.run_eq_iff ..).mp hsearch
    obtain ⟨s, sender, hfound, hreads, hoffers, hmost⟩ :=
      findSenderFrom_leads_favoured hleads hfavours
    obtain ⟨_, _, _, -, -, henough⟩ := hfunded []
    have hsender := Int.le_trans henough hmost
    exact ⟨s, sender, hfound, hreads, hoffers, hsender, neverShort_of_enough hsender⟩
  · intro wanted
    refine ⟨forget_notedDrive patience wanted, ?_, ?_⟩
    · intro m hmoment hfunding
      have honce : FundsOnce settings m.past m.note m.request :=
        (notedDrive_fundsOnce patience wanted).moments answer start m hmoment
      exact (honce hfunding).attemptedSince
    · intro before e after hevents
      rw [← forget_notedDrive] at hevents
      exact Noted.exists_moment answer _ start [] hevents

/-- In a rehearsal without addresses, the address that is made is funded during a sleep and found at
once. When a transfer has spent its funds, another address is made to be funded. -/
theorem createTransactions_unblocked_rehearsed :
    (∃ (events reads : List Event) (between after : State) (sender : Sender),
      (fundNewAddress (plainSettings .account) 3).run (answer .plain) (.fundedAsleep 100) =
        ⟨events, between, .done ()⟩ ∧
      (findSenderFrom (plainSettings .account) 3 1).run (answer .plain) between =
        ⟨reads, after, .done sender⟩ ∧
      11 ≤ sender.balance ∧ NeverShort (plainSettings .account) sender) ∧
    ∃ (before : List Event) (note : Note), (∃ e ∈ before, e.attempts = true) ∧
      note.purpose = .funding ∧ AttemptedSince (plainSettings .account) before := by
  constructor
  · let funding :=
      (fundNewAddress (plainSettings .account) 3).run (answer .plain) (.fundedAsleep 100)
    have hdone : funding.outcome = .done () := by decide +kernel
    have hrun : funding = ⟨funding.events, funding.state, .done ()⟩ := by rw [← hdone]
    obtain ⟨hfunding, -⟩ := createTransactions_unblocked (answer .plain) (plainSettings .account) 3
      (.fundedAsleep 100)
    obtain ⟨address, balance, -, hfunded, hsearch⟩ := hfunding _ _ hrun
    obtain ⟨before, coin, text, hevents, -⟩ := hfunded []
    -- the address and the balance are those of the last look-up
    have hlook : funding.events.dropLast.getLast?.bind Event.held? = some ("new1", some 100) := by
      decide +kernel
    have hlast : funding.events.dropLast.getLast? =
        some (lookup (plainSettings .account) address ⟨some balance, coin⟩) := by
      rw [show funding.events = _ from hevents]
      simp
    rw [hlast] at hlook
    obtain ⟨rfl, rfl⟩ : address = "new1" ∧ balance = 100 := by
      simpa [lookup, plainSettings, Event.held?, AccountIdentifier.ofAddress] using hlook
    have hreads : ((findSenderFrom (plainSettings .account) 3 1).run (answer .plain)
        ((fundNewAddress (plainSettings .account) 3).run (answer .plain)
          (.fundedAsleep 100)).state).events =
        [⟨.call .allAddresses, .ok ["new1"]⟩, ⟨.call .lockedAddresses, .ok []⟩,
          ⟨.call (.accountBalance (.ofAddress "new1") plainCurrency), .ok (some 100)⟩] := by rfl
    let search := (findSenderFrom (plainSettings .account) 3 1).run (answer .plain) funding.state
    have hfavours : ∀ e ∈ search.events, e.Favours "new1" 100 := by
      rw [show search.events = _ from hreads]
      simp [Event.Favours]
    have hsame (run : Run State Sender) : run = ⟨run.events, run.state, run.outcome⟩ := rfl
    obtain ⟨-, sender, houtcome, -, -, henough, hnever⟩ :=
      hsearch 0 search.events search.state search.outcome (hsame search) hfavours
    have hfound : search = ⟨search.events, search.state, .done sender⟩ := by rw [← houtcome]
    exact ⟨funding.events, search.events, funding.state, search.state, sender, hrun, hfound,
      by simpa [plainSettings] using henough, hnever⟩
  · let error : AdapterError := ⟨.runtime, "no node"⟩
    let start : State :=
      { State.fundedAsleep 100 with
        afterTransactions := [⟨[("new1", some 0)], [], none, none, none, none⟩]
        faults := [("derive", ⟨.raised error, some 3⟩)] }
    let run := (createTransactions (plainSettings .account) 3 none).run (answer .plain) start
    let moments := (notedDrive (plainSettings .account) 3 none).moments (answer .plain) start []
    have hlast : (run.events.getLast?.isSome, run.events.dropLast.any Event.attempts,
        moments.all fun m => m.past.length < run.events.dropLast.length ||
          m.note.purpose = .funding) = (true, true, true) := by decide +kernel
    simp only [Prod.mk.injEq, Option.isSome_iff_exists, List.any_eq_true, List.all_eq_true] at hlast
    obtain ⟨⟨e, he⟩, hattempted, hpurposes⟩ := hlast
    have hevents : run.events = run.events.dropLast ++ e :: [] :=
      (List.dropLast_append_getLast? e he).symm
    obtain ⟨-, hdrive⟩ :=
      createTransactions_unblocked (answer .plain) (plainSettings .account) 3 start
    obtain ⟨-, hsince, hmoments⟩ := hdrive none
    obtain ⟨note, hmoment⟩ := hmoments _ e [] hevents
    have hpurpose : note.purpose = .funding := by simpa using hpurposes _ hmoment
    exact ⟨run.events.dropLast, note, hattempted, hpurpose, hsince _ hmoment hpurpose⟩

end Drive

end TransferDrill

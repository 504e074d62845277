import TransferDrill.Proofs.Drive.Outputs
import TransferDrill.Proofs.Drive.Requests

/-!
# Sizing while nothing fails

As long as calls return and key pairs can be made, an address is picked: the first candidate, or
one that is made for it. No amount is drawn before that. What is then left to go wrong is that a
sender holds too little, and that the numbers of the report are too long to be written.
-/

namespace TransferDrill

/-- Whether the event, if it is a call, returns. -/
def Event.returns : Event → Bool
  | ⟨.call _, reply⟩ => reply.isOk
  | _ => true

/-- Requests for an amount of a range. -/
def Ask.IsDraw : Ask → Prop
  | .uniform .. => True
  | _ => False

/-- To look up holdings is not to draw. -/
theorem Ask.not_isDraw_of_readsHoldings (q : Ask) (h : q.ReadsHoldings) : ¬q.IsDraw := by
  cases q with
  | call c => exact id
  | _ => exact h.elim

/-- No amount is drawn in making an address. -/
theorem Ask.not_isDraw_of_inMaking (q : Ask) (h : q.InMaking) : ¬q.IsDraw := by
  cases q with
  | uniform low high => exact h.elim
  | _ => exact id

/-! ## Scripts that are done while nothing fails -/

namespace Script

variable {α β : Type}

/-- As long as calls return, a script is done unless a key pair cannot be made. -/
def Completes (script : Script α) : Prop :=
  ∀ events outcome, script.Leads events outcome → (∀ e ∈ events, e.returns = true) →
    (∃ a, outcome = .done a) ∨ ∃ fault, outcome = .failed (.keyPair fault)

/-- A value completes. -/
theorem Completes.done (a : α) : (Script.done a).Completes := by
  intro events outcome h _
  exact .inl ⟨a, (leads_done_iff.mp h).2⟩

/-- That a key pair cannot be made is the failure that is allowed for. -/
theorem Completes.keyPair (fault : KeyFault) :
    (Script.failed (.keyPair fault) : Script α).Completes := by
  intro events outcome h _
  exact .inr ⟨fault, (leads_failed_iff.mp h).2⟩

/-- One script after another completes if both do. -/
theorem Completes.bind {script : Script α} {next : α → Script β} (h : script.Completes)
    (hnext : ∀ a, (next a).Completes) : (script.bind next).Completes := by
  intro events outcome hleads hreturns
  rcases leads_bind hleads with ⟨a, first, second, -, hsecond, rfl⟩ | ⟨cut, hcut, hstop⟩
  · exact hnext a second outcome hsecond fun e he => hreturns e (List.mem_append_right _ he)
  · rcases h events cut hstop hreturns with ⟨a, rfl⟩ | ⟨fault, rfl⟩
    · cases hcut
    · cases hcut
      exact .inr ⟨fault, rfl⟩

/-- A call completes as long as it returns. -/
theorem Completes.attempt {c : Call} {report : AdapterError → Failure} :
    (Script.attempt c report).Completes := by
  intro events outcome hleads hreturns
  rw [← bind_done (Script.attempt c report)] at hleads
  rcases leads_attempt_bind hleads with ⟨fault, rfl, rfl⟩ | ⟨value, later, rfl, hlater⟩
  · cases hreturns _ List.mem_cons_self
  · exact .inl ⟨value, (leads_done_iff.mp hlater).2⟩

/-- A request that is no call completes. -/
theorem Completes.request {q : Ask} : (Script.request q).Completes := by
  intro events outcome hleads _
  obtain ⟨reply, later, rfl, hlater⟩ := leads_ask_iff.mp hleads
  exact .inl ⟨reply, (leads_done_iff.mp hlater).2⟩

/-- As long as calls return and key pairs can be made, a path of a script after one that completes
goes on from a value of that one. -/
theorem Completes.leads_bind {script : Script α} {next : α → Script β} {events : List Event}
    {outcome : Outcome β} (h : script.Completes) (hleads : (script.bind next).Leads events outcome)
    (hreturns : ∀ e ∈ events, e.returns = true)
    (hkeys : ∀ fault, outcome ≠ .failed (.keyPair fault)) :
    ∃ a first second, script.Leads first (.done a) ∧ (next a).Leads second outcome ∧
      events = first ++ second := by
  rcases Script.leads_bind hleads with hdone | ⟨cut, hcut, hstop⟩
  · exact hdone
  · rcases h events cut hstop hreturns with ⟨a, rfl⟩ | ⟨fault, rfl⟩
    · cases hcut
    · cases hcut
      exact absurd rfl (hkeys fault)

/-- As long as events are as relied on, a script is done with a value. -/
def DoneWith (relies : Event → Prop) (script : Script α) (a : α) : Prop :=
  ∀ events outcome, script.Leads events outcome → (∀ e ∈ events, relies e) → outcome = .done a

section DoneWith

variable {relies : Event → Prop}

/-- A value is done with, whatever is relied on. -/
theorem DoneWith.done (a : α) : (Script.done a).DoneWith relies a :=
  fun _ _ h _ => (leads_done_iff.mp h).2

/-- As long as events are as relied on, a path of a script after one that is done with a value goes
on from that value. -/
theorem DoneWith.leads_bind {script : Script α} {next : α → Script β} {a : α} {events : List Event}
    {outcome : Outcome β} (h : script.DoneWith relies a)
    (hleads : (script.bind next).Leads events outcome) (hrelies : ∀ e ∈ events, relies e) :
    ∃ first second, script.Leads first (.done a) ∧ (next a).Leads second outcome ∧
      events = first ++ second := by
  rcases Script.leads_bind hleads with
    ⟨a', first, second, hfirst, hsecond, rfl⟩ | ⟨cut, hcut, hstop⟩
  · cases h first _ hfirst fun e he => hrelies e (List.mem_append_left _ he)
    exact ⟨first, second, hfirst, hsecond, rfl⟩
  · cases h events cut hstop hrelies
    cases hcut

/-- One script after another is done with what the second gives for the value of the first. -/
theorem DoneWith.bind {script : Script α} {next : α → Script β} {a : α} {b : β}
    (h : script.DoneWith relies a) (hnext : (next a).DoneWith relies b) :
    (script.bind next).DoneWith relies b := by
  intro events outcome hleads hrelies
  obtain ⟨first, second, -, hsecond, rfl⟩ := h.leads_bind hleads hrelies
  exact hnext second outcome hsecond fun e he => hrelies e (List.mem_append_right _ he)

/-- A call is done with the value that is relied on. -/
theorem DoneWith.attempt {c : Call} {report : AdapterError → Failure} {value : c.Value}
    (h : ∀ reply, relies ⟨.call c, reply⟩ → reply = .ok value) :
    (Script.attempt c report).DoneWith relies value := by
  intro events outcome hleads hrelies
  rw [← bind_done (Script.attempt c report)] at hleads
  rcases leads_attempt_bind hleads with ⟨fault, rfl, -⟩ | ⟨found, later, rfl, hlater⟩
  · cases h _ (hrelies _ List.mem_cons_self)
  · cases h _ (hrelies _ List.mem_cons_self)
    exact (leads_done_iff.mp hlater).2

end DoneWith

end Script

namespace Drive

variable {settings : Settings}

/-! ## Picks -/

/-- Making a key pair completes. -/
theorem newKeyPair_completes (curve : Curve) : (newKeyPair curve).Completes := by
  unfold newKeyPair
  cases curve with
  | secp256k1 =>
    refine .bind .request fun secret => ?_
    cases KeyPair.ofSecret secret with
    | ok pair => exact .done pair
    | error fault => exact .keyPair fault
  | edwards25519 => exact .bind .request fun _ => .done _
  | _ => exact .keyPair _

/-- Making an address completes. -/
theorem newAddress_completes : (newAddress settings).Completes := by
  refine .bind (newKeyPair_completes _) fun pair => .bind .attempt fun address => ?_
  exact .bind .attempt fun _ => .bind .attempt fun _ => .bind .request fun _ => .done _

/-- Picking an address completes. -/
theorem pickAddress_completes (candidates : List String) :
    (pickAddress settings candidates).Completes := by
  refine .bind .attempt fun available => ?_
  have hnew : ((newAddress settings).bind fun address =>
      .done (⟨address, true⟩ : Pick)).Completes := newAddress_completes.bind fun _ => .done _
  cases candidates with
  | nil => exact hnew
  | cons first rest =>
    refine .bind .request fun draw => ?_
    split
    · exact hnew
    · exact .done _

/-- Making an address draws no amount. -/
theorem newAddress_drawsNothing : (newAddress settings).OnlyAsks fun q => ¬q.IsDraw :=
  newAddress_inMaking.mono Ask.not_isDraw_of_inMaking

/-- No amount is drawn to pick an address. -/
theorem pickAddress_drawsNothing (candidates : List String) :
    (pickAddress settings candidates).OnlyAsks fun q => ¬q.IsDraw := by
  refine .bind (.attempt id) fun available => ?_
  have hnew : ((newAddress settings).bind fun address => .done (⟨address, true⟩ : Pick)).OnlyAsks
      fun q => ¬q.IsDraw := newAddress_drawsNothing.bind fun _ => trivial
  cases candidates with
  | nil => exact hnew
  | cons first rest =>
    refine .bind (.request id) fun draw => ?_
    split
    · exact hnew
    · trivial

/-- A pick that is not made for the purpose is the first candidate. -/
theorem pickAddress_returnsFirst (candidates : List String) :
    (pickAddress settings candidates).ReturnsOnly fun pick =>
      pick.created = false → candidates.head? = some pick.address := by
  refine .bind fun available => ?_
  cases candidates with
  | nil => exact .bind fun address => nofun
  | cons first rest =>
    refine .bind fun draw => ?_
    split
    · exact .bind fun address => nofun
    · exact fun _ => rfl

/-- An address was made along some events: its key pair was drawn, and stored before the address
was announced. -/
def Made (settings : Settings) (events : List Event) (address : String) : Prop :=
  ∃ m : Making, Draws settings.curve m.draw (.ok m.pair) ∧ m.address = address ∧
    m.events settings <:+: events

/-- An address that was made along some events was made along more of them. -/
theorem Made.mono {events later : List Event} {address : String} (h : Made settings events address)
    (hsub : events <:+: later) : Made settings later address := by
  obtain ⟨m, hdraw, haddress, hevents⟩ := h
  exact ⟨m, hdraw, haddress, hevents.trans hsub⟩

/-- An address that was picked and is new was made. -/
theorem Picked.made {candidates : List String} {events : List Event} {pick : Pick}
    (h : Picked settings candidates events pick) (hcreated : pick.created = true) :
    Made settings events pick.address := by
  cases h with
  | reused hmem => cases hcreated
  | @created asked m text hdraw =>
    exact ⟨m, hdraw, rfl, asked, [⟨.log .info text, ()⟩], rfl⟩

/-! ## Reports of a shortage -/

/-- The numbers of a report that a balance is below another number can be written. -/
def Reportable (balance required : Int) : Prop :=
  Numeral.isShort balance = true ∧ Numeral.isShort required = true

/-- A shortage is reported as such exactly if its numbers can be written. -/
theorem ofShortage_outcome (α : Type) (s : Shortage) :
    ((∃ s', (.failed (.ofShortage s) : Outcome α) = .failed (.shortage s')) ↔
      s.numbers.all Numeral.isShort = true) ∧
    ((.failed (.ofShortage s) : Outcome α) = .failed .overlongNumber ↔
      ¬s.numbers.all Numeral.isShort = true) := by
  unfold Failure.ofShortage
  split
  · next h => simp [h]
  · next h => simp [h]

end Drive

end TransferDrill

import TransferDrill.Proofs.Drive.Contract

/-!
# Scripts with notes

A note stands at every request of a script and at every failure, and says something about the
script that its requests do not show, such as what it is doing or how much it has counted. Notes
change nothing: without them a noted script is a script, and every moment of a run of that script
has a note. What holds at every moment is shown along the tree, from any past.
-/

namespace TransferDrill

/-- A script with a note at every request and failure. -/
inductive Noted (ν α : Type) : Type where
  | done (value : α)
  | failed (note : ν) (failure : Failure)
  | unfinished
  | ask (note : ν) (request : Ask) (next : request.Reply → Noted ν α)

/-- A moment of a run: what has happened so far, the note, and what is asked for; where a script
has failed, that is nothing. -/
structure Moment (ν : Type) where
  past : List Event
  note : ν
  request : Option Ask

/-- The same note at every request and failure of a script. -/
def Script.noted {ν α : Type} (note : ν) : Script α → Noted ν α
  | .done a => .done a
  | .failed f => .failed note f
  | .unfinished => .unfinished
  | .ask q next => .ask note q fun reply => (next reply).noted note

namespace Noted

variable {ν α β : Type}

/-- Go on with the value that a script ends with. -/
def bind (script : Noted ν α) (next : α → Noted ν β) : Noted ν β :=
  match script with
  | .done a => next a
  | .failed note f => .failed note f
  | .unfinished => .unfinished
  | .ask note q more => .ask note q fun reply => (more reply).bind next

instance : Monad (Noted ν) where
  pure := .done
  bind := bind

/-- The script without its notes. -/
def forget : Noted ν α → Script α
  | .done a => .done a
  | .failed _ f => .failed f
  | .unfinished => .unfinished
  | .ask _ q next => .ask q fun reply => (next reply).forget

/-- The moments of a run, given what happened before it. -/
def moments {σ : Type} (answer : Environment σ) :
    Noted ν α → σ → (past : List Event) → List (Moment ν)
  | .done _, _, _ => []
  | .failed note _, _, past => [⟨past, note, none⟩]
  | .unfinished, _, _ => []
  | .ask note q next, state, past =>
    let (reply, after) := answer q state
    ⟨past, note, some q⟩ :: (next reply).moments answer after (past ++ [⟨q, reply⟩])

/-- A pure noted script is a value. -/
@[simp] theorem pure_eq (a : α) : (pure a : Noted ν α) = .done a := rfl

/-- Noted scripts in sequence are bound. -/
@[simp] theorem bind_eq (script : Noted ν α) (next : α → Noted ν β) :
    script >>= next = script.bind next := rfl

/-- After a value, the noted script goes on with it. -/
@[simp] theorem done_bind (a : α) (next : α → Noted ν β) :
    (Noted.done a : Noted ν α).bind next = next a := rfl

/-- A value has no note to forget. -/
@[simp] theorem forget_done (a : α) : (Noted.done a : Noted ν α).forget = .done a := rfl

/-- Where a noted script is cut off, there is no note to forget. -/
@[simp] theorem forget_unfinished : (Noted.unfinished : Noted ν α).forget = .unfinished := rfl

/-- Notes are forgotten in each part of a sequence. -/
@[simp] theorem forget_bind (script : Noted ν α) (next : α → Noted ν β) :
    (script.bind next).forget = script.forget.bind fun a => (next a).forget := by
  induction script with
  | done a => rfl
  | failed note f => rfl
  | unfinished => rfl
  | ask note q more ih => exact congrArg (Script.ask q) (funext ih)

/-- A script that was given a note is itself without it. -/
@[simp] theorem forget_noted (note : ν) (script : Script α) :
    (script.noted note).forget = script := by
  induction script with
  | done a => rfl
  | failed f => rfl
  | unfinished => rfl
  | ask q next ih => exact congrArg (Script.ask q) (funext ih)

/-- A sequence is given a note by giving it to each part. -/
theorem noted_bind (note : ν) (script : Script α) (next : α → Script β) :
    (script.bind next).noted note = (script.noted note).bind fun a => (next a).noted note := by
  induction script with
  | done a => rfl
  | failed f => rfl
  | unfinished => rfl
  | ask q more ih => exact congrArg (Noted.ask note q) (funext ih)

/-- At every event of a run without notes there is a moment of the run with them. -/
theorem exists_moment {σ : Type} (answer : Environment σ) (script : Noted ν α) (state : σ)
    (past : List Event) {before after : List Event} {e : Event}
    (h : (script.forget.run answer state).events = before ++ e :: after) :
    ∃ note, ⟨past ++ before, note, some e.request⟩ ∈ script.moments answer state past := by
  induction script generalizing state past before with
  | done a => simp [forget, Script.run] at h
  | failed note f => simp [forget, Script.run] at h
  | unfinished => simp [forget, Script.run] at h
  | ask note q next ih =>
    rw [forget, Script.run_ask] at h
    rw [moments]
    cases before with
    | nil =>
      obtain ⟨rfl, -⟩ := List.cons.inj h
      exact ⟨note, by simp⟩
    | cons first before =>
      obtain ⟨rfl, hrest⟩ := List.cons.inj h
      obtain ⟨later, hlater⟩ := ih _ _ (past ++ [⟨q, (answer q state).1⟩]) hrest
      rw [List.append_assoc] at hlater
      exact ⟨later, List.mem_cons_of_mem _ hlater⟩

/-- Where a run without notes fails there is a last moment of the run with them. -/
theorem exists_moment_of_failed {σ : Type} (answer : Environment σ) (script : Noted ν α) (state : σ)
    (past : List Event) {f : Failure}
    (h : (script.forget.run answer state).outcome = .failed f) :
    ∃ note, ⟨past ++ (script.forget.run answer state).events, note, none⟩ ∈
      script.moments answer state past := by
  induction script generalizing state past with
  | done a => cases h
  | failed note g => exact ⟨note, by simp [forget, Script.run, moments]⟩
  | unfinished => cases h
  | ask note q next ih =>
    rw [forget, Script.run_ask] at h ⊢
    obtain ⟨later, hlater⟩ := ih _ _ (past ++ [⟨q, (answer q state).1⟩]) h
    rw [List.append_assoc] at hlater
    exact ⟨later, List.mem_cons_of_mem _ hlater⟩

/-! ## What holds at every moment -/

variable {inv : List Event → ν → Option Ask → Prop}

/-- From a past, an invariant holds at every moment of a script, and the values that it ends with
are as required. -/
def Keeps (inv : List Event → ν → Option Ask → Prop) (post : α → List Event → Prop) :
    Noted ν α → List Event → Prop
  | .done a, past => post a past
  | .failed note _, past => inv past note none
  | .unfinished, _ => True
  | .ask note q next, past => inv past note (some q) ∧
      ∀ reply, (next reply).Keeps inv post (past ++ [⟨q, reply⟩])

/-- One script after another keeps an invariant if each does. -/
theorem Keeps.bind {mid : α → List Event → Prop} {post : β → List Event → Prop}
    {script : Noted ν α} {next : α → Noted ν β} {past : List Event}
    (h : script.Keeps inv mid past)
    (hnext : ∀ a past, mid a past → (next a).Keeps inv post past) :
    (script.bind next).Keeps inv post past := by
  induction script generalizing past with
  | done a => exact hnext a past h
  | failed note f => exact h
  | unfinished => trivial
  | ask note q more ih => exact ⟨h.1, fun reply => ih reply (h.2 reply)⟩

/-- Less may be required of the values. -/
theorem Keeps.mono {post weaker : α → List Event → Prop} {script : Noted ν α} {past : List Event}
    (h : script.Keeps inv post past) (hpost : ∀ a past, post a past → weaker a past) :
    script.Keeps inv weaker past := by
  induction script generalizing past with
  | done a => exact hpost a past h
  | failed note f => exact h
  | unfinished => trivial
  | ask note q next ih => exact ⟨h.1, fun reply => ih reply (h.2 reply)⟩

/-- An invariant that is kept holds at every moment of every run. -/
theorem Keeps.moments {σ : Type} (answer : Environment σ) {post : α → List Event → Prop}
    {script : Noted ν α} {past : List Event} (h : script.Keeps inv post past) (state : σ) :
    ∀ m ∈ script.moments answer state past, inv m.past m.note m.request := by
  induction script generalizing past state with
  | done a => simp [Noted.moments]
  | failed note f =>
    rintro m hm
    obtain rfl := List.mem_singleton.mp hm
    exact h
  | unfinished => simp [Noted.moments]
  | ask note q next ih => exact List.forall_mem_cons.mpr ⟨h.1, ih _ (h.2 _) _⟩

/-- A run that ends with a value ends as required. -/
theorem Keeps.returns {post : α → List Event → Prop} {script : Noted ν α}
    {past events : List Event} {a : α} (h : script.Keeps inv post past)
    (hleads : script.forget.Leads events (.done a)) : post a (past ++ events) := by
  induction script generalizing past events with
  | done b =>
    obtain ⟨rfl, hdone⟩ := Script.leads_done_iff.mp hleads
    cases hdone
    rwa [List.append_nil]
  | failed note f => simp [forget] at hleads
  | unfinished => simp at hleads
  | ask note q next ih =>
    obtain ⟨reply, later, rfl, hlater⟩ := Script.leads_ask_iff.mp hleads
    have hrest := ih reply (h.2 reply) hlater
    rwa [List.append_assoc, List.singleton_append] at hrest

/-! ## One note for a script -/

section Noting

variable {note : ν} {post : α → List Event → Prop} {past : List Event}

/-- A script of harmless requests keeps an invariant that they cannot break. -/
theorem Keeps.of_onlyAsks {kind : Ask → Prop} {script : Script α} (h : script.OnlyAsks kind)
    (hinv : ∀ events request, (∀ e ∈ events, kind e.request) → (∀ q ∈ request, kind q) →
      inv (past ++ events) note request)
    (hpost : ∀ events a, script.Leads events (.done a) → post a (past ++ events)) :
    (script.noted note).Keeps inv post past := by
  induction script generalizing past with
  | done a => exact List.append_nil past ▸ hpost [] a (.done a)
  | failed f => exact List.append_nil past ▸ hinv [] none (by simp) (by simp)
  | unfinished => trivial
  | ask q next ih =>
    refine ⟨List.append_nil past ▸ hinv [] (some q) (by simp) (by simp [h.1]), fun reply => ?_⟩
    refine ih reply (h.2 reply) ?_ ?_
    · intro events request hevents hrequest
      rw [List.append_assoc, List.singleton_append]
      exact hinv _ _ (List.forall_mem_cons.mpr ⟨h.1, hevents⟩) hrequest
    · intro events a hleads
      rw [List.append_assoc, List.singleton_append]
      exact hpost _ a (.ask hleads)

/-- A script keeps an invariant that says nothing about its note. -/
theorem Keeps.of_note {script : Script α} (h : ∀ past request, inv past note request) :
    (script.noted note).Keeps inv
      (fun a later => ∃ events, later = past ++ events ∧ script.Leads events (.done a)) past :=
  .of_onlyAsks .any (fun _ _ _ _ => h _ _) fun events _ hleads => ⟨events, rfl, hleads⟩

/-- A call keeps an invariant that holds before it and where it fails. -/
theorem Keeps.attempt {c : Call} {report : AdapterError → Failure}
    {post : c.Value → List Event → Prop} (hcall : inv past note (some (.call c)))
    (hfault : ∀ fault, inv (past ++ [⟨.call c, .error fault⟩]) note none)
    (hpost : ∀ value, post value (past ++ [⟨.call c, .ok value⟩])) :
    ((Script.attempt c report).noted note).Keeps inv post past := by
  refine ⟨hcall, fun reply => ?_⟩
  rcases reply with (cancellation | e) | value
  · exact hfault (.cancelled cancellation)
  · exact hfault (.raised e)
  · exact hpost value

/-- A request that always returns keeps an invariant that holds before it. -/
theorem Keeps.request {q : Ask} {post : q.Reply → List Event → Prop}
    (hrequest : inv past note (some q)) (hpost : ∀ reply, post reply (past ++ [⟨q, reply⟩])) :
    ((Script.request q).noted note).Keeps inv post past :=
  ⟨hrequest, hpost⟩

/-- A sleep keeps an invariant that holds before it and where it is cut short. -/
theorem Keeps.sleep {seconds : Binary64} {post : Unit → List Event → Prop}
    (hsleep : inv past note (some (.sleep seconds)))
    (hcut : ∀ c, inv (past ++ [⟨.sleep seconds, .error c⟩]) note none)
    (hpost : post () (past ++ [⟨.sleep seconds, .ok ()⟩])) :
    ((Script.sleep seconds).noted note).Keeps inv post past := by
  refine ⟨hsleep, fun reply => ?_⟩
  rcases reply with c | _
  · exact hcut c
  · exact hpost

/-- How failures are reported makes no difference to an invariant. -/
theorem Keeps.reportAs {change : Failure → Failure} {script : Script α}
    (h : (script.noted note).Keeps inv post past) :
    ((script.reportAs change).noted note).Keeps inv post past := by
  induction script generalizing past with
  | done a => exact h
  | failed f => exact h
  | unfinished => trivial
  | ask q next ih => exact ⟨h.1, fun reply => ih reply (h.2 reply)⟩

end Noting

end Noted

end TransferDrill

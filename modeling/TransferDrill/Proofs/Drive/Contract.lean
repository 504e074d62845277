import TransferDrill.Proofs.Drive.Path

/-!
# Contracts of scripts

A contract says what every event of a drive guarantees, given the events before it, and which
replies it relies on. That a script keeps a contract is defined along its tree, so the parts of a
drive are taken one after another, each from any past. A script that keeps its contract from an
empty past keeps it in every run whose replies are as relied on.
-/

namespace TransferDrill

/-- What is relied on of replies, and what each event then guarantees given the earlier ones. -/
structure Contract where
  relies : Event → Prop
  guarantees : List Event → Event → Prop

namespace Script

variable {α β : Type} {contract : Contract}

/-- From a past, a script keeps a contract and ends as required, as long as the replies are as
relied on. -/
def Keeps (contract : Contract) (ends : Outcome α → List Event → Prop) :
    Script α → List Event → Prop
  | .done a, past => ends (.done a) past
  | .failed f, past => ends (.failed f) past
  | .unfinished, past => ends .unfinished past
  | .ask q next, past => ∀ reply, contract.relies ⟨q, reply⟩ →
      contract.guarantees past ⟨q, reply⟩ ∧ (next reply).Keeps contract ends (past ++ [⟨q, reply⟩])

/-- The end that is required of a script from whose value another goes on. -/
def EndsInto (contract : Contract) (next : α → Script β) (ends : Outcome β → List Event → Prop) :
    Outcome α → List Event → Prop
  | .done a, past => (next a).Keeps contract ends past
  | .failed f, past => ends (.failed f) past
  | .unfinished, past => ends .unfinished past

/-- A script after another keeps a contract if the first does and ends where the second does. -/
theorem keeps_bind_iff {script : Script α} {next : α → Script β}
    {ends : Outcome β → List Event → Prop} {past : List Event} :
    (script.bind next).Keeps contract ends past ↔
      script.Keeps contract (EndsInto contract next ends) past := by
  induction script generalizing past with
  | done a => rfl
  | failed f => rfl
  | unfinished => rfl
  | ask q more ih => simp only [ask_bind, Keeps, ih]

/-- The end that is required of a script whose failures are reported otherwise. -/
def EndsAs (change : Failure → Failure) (ends : Outcome α → List Event → Prop) :
    Outcome α → List Event → Prop
  | .failed f, past => ends (.failed (change f)) past
  | outcome, past => ends outcome past

/-- A script that reports failures otherwise keeps a contract exactly if the script itself does,
with ends that are as required when they are reported so. -/
theorem keeps_reportAs_iff {change : Failure → Failure} {script : Script α}
    {ends : Outcome α → List Event → Prop} {past : List Event} :
    (script.reportAs change).Keeps contract ends past ↔
      script.Keeps contract (EndsAs change ends) past := by
  induction script generalizing past with
  | done a => rfl
  | failed f => rfl
  | unfinished => rfl
  | ask q more ih => simp only [reportAs, Keeps, ih]

/-- The end that is required of a script whose shortages are caught. -/
def EndsCaught (ends : Outcome (Except Shortage α) → List Event → Prop) :
    Outcome α → List Event → Prop
  | .done a, past => ends (.done (.ok a)) past
  | .failed (.shortage s), past => ends (.done (.error s)) past
  | .failed f, past => ends (.failed f) past
  | .unfinished, past => ends .unfinished past

/-- A script whose shortages are caught keeps a contract exactly if the script itself does, with
ends that are as required when they are caught. -/
theorem keeps_catchShortage_iff {script : Script α}
    {ends : Outcome (Except Shortage α) → List Event → Prop} {past : List Event} :
    script.catchShortage.Keeps contract ends past ↔
      script.Keeps contract (EndsCaught ends) past := by
  induction script generalizing past with
  | done a => rfl
  | failed f => cases f <;> rfl
  | unfinished => rfl
  | ask q more ih => simp only [catchShortage, Keeps, ih]

/-- Less may be required of the end. -/
theorem Keeps.mono {weaker ends : Outcome α → List Event → Prop} {script : Script α}
    {past : List Event} (h : script.Keeps contract ends past)
    (hends : ∀ outcome past, ends outcome past → weaker outcome past) :
    script.Keeps contract weaker past := by
  induction script generalizing past with
  | done a => exact hends _ _ h
  | failed f => exact hends _ _ h
  | unfinished => exact hends _ _ h
  | ask q next ih =>
    intro reply hreply
    obtain ⟨hevent, hnext⟩ := h reply hreply
    exact ⟨hevent, ih reply hnext⟩

/-- A script of requests that are harmless after a past keeps a contract from there if its paths end
as required. -/
theorem OnlyAsks.keeps_after {kind : Ask → Prop} {ends : Outcome α → List Event → Prop}
    {script : Script α} (h : script.OnlyAsks kind) {past : List Event}
    (hkind : ∀ q, kind q → ∀ later reply, contract.guarantees (past ++ later) ⟨q, reply⟩)
    (hends : ∀ events outcome, script.Leads events outcome → (∀ e ∈ events, contract.relies e) →
      ends outcome (past ++ events)) :
    script.Keeps contract ends past := by
  induction script generalizing past with
  | done a => exact List.append_nil past ▸ hends [] _ (.done a) (by simp)
  | failed f => exact List.append_nil past ▸ hends [] _ (.failed f) (by simp)
  | unfinished => exact List.append_nil past ▸ hends [] _ .unfinished (by simp)
  | ask q next ih =>
    intro reply hreply
    refine ⟨List.append_nil past ▸ hkind q h.1 [] reply, ih reply (h.2 reply) ?_ ?_⟩
    · intro q' hq' later reply'
      rw [List.append_assoc]
      exact hkind q' hq' _ reply'
    · intro events outcome hleads hrelies
      have hpath := hends (⟨q, reply⟩ :: events) outcome (.ask hleads)
        (List.forall_mem_cons.mpr ⟨hreply, hrelies⟩)
      rwa [List.append_assoc, List.singleton_append]

/-- A script of harmless requests keeps a contract if its paths end as required. -/
theorem OnlyAsks.keeps {kind : Ask → Prop} {ends : Outcome α → List Event → Prop}
    {script : Script α} (h : script.OnlyAsks kind)
    (hkind : ∀ q, kind q → ∀ past reply, contract.guarantees past ⟨q, reply⟩) {past : List Event}
    (hends : ∀ events outcome, script.Leads events outcome → (∀ e ∈ events, contract.relies e) →
      ends outcome (past ++ events)) :
    script.Keeps contract ends past :=
  h.keeps_after (fun q hq _ reply => hkind q hq _ reply) hends

/-- On a path of a script that keeps a contract, every event is as guaranteed. -/
theorem Keeps.guarantees {ends : Outcome α → List Event → Prop} {script : Script α}
    {past events : List Event} {outcome : Outcome α} (h : script.Keeps contract ends past)
    (hleads : script.Leads events outcome) (hrelies : ∀ e ∈ events, contract.relies e)
    {before after : List Event} {e : Event} (hevents : events = before ++ e :: after) :
    contract.guarantees (past ++ before) e := by
  induction hleads generalizing past before with
  | done a => simp at hevents
  | failed f => simp at hevents
  | unfinished => simp at hevents
  | ask hleads ih =>
    obtain ⟨hreply, hlater⟩ := List.forall_mem_cons.mp hrelies
    obtain ⟨hevent, hnext⟩ := h _ hreply
    cases before with
    | nil =>
      obtain ⟨rfl, -⟩ := List.cons.inj hevents
      rwa [List.append_nil]
    | cons first before =>
      obtain ⟨rfl, hrest⟩ := List.cons.inj hevents
      have hlast := ih hnext hlater hrest
      rwa [List.append_assoc, List.singleton_append] at hlast

/-- A path of a script that keeps a contract ends as required. -/
theorem Keeps.ends {ends : Outcome α → List Event → Prop} {script : Script α}
    {past events : List Event} {outcome : Outcome α} (h : script.Keeps contract ends past)
    (hleads : script.Leads events outcome) (hrelies : ∀ e ∈ events, contract.relies e) :
    ends outcome (past ++ events) := by
  induction hleads generalizing past with
  | done a => rwa [List.append_nil]
  | failed f => rwa [List.append_nil]
  | unfinished => rwa [List.append_nil]
  | ask hleads ih =>
    obtain ⟨hreply, hlater⟩ := List.forall_mem_cons.mp hrelies
    obtain ⟨-, hnext⟩ := h _ hreply
    have hlast := ih hnext hlater
    rwa [List.append_assoc, List.singleton_append] at hlast

end Script

end TransferDrill

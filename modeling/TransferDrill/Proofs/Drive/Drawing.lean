import TransferDrill.Proofs.Drive.Completion

/-!
# What is left to the draw of an amount

Where an amount is drawn last, everything else has been decided: whatever is drawn, the same events
lead there. So the values that a script may end with are exactly those that the range gives, each of
them under an environment that differs from the one at hand in nothing but its draws.
-/

namespace TransferDrill

/-! ## Environments that draw other amounts -/

namespace Environment

variable {σ : Type} {answer other : Environment σ}

/-- Environments differ in nothing but the amounts that they draw. -/
def SameButDraws (answer other : Environment σ) : Prop :=
  ∀ q state, ¬q.IsDraw → other q state = answer q state

/-- An environment differs from itself in no draw. -/
theorem SameButDraws.refl (answer : Environment σ) : answer.SameButDraws answer :=
  fun _ _ _ => rfl

/-- The environment that draws a number from every range in which it lies. -/
def drawing (answer : Environment σ) (n : Int) : Environment σ
  | .uniform low high, state =>
    let (drawn, after) := answer (.uniform low high) state
    (if low ≤ n ∧ n ≤ high then n else drawn, after)
  | q, state => answer q state

/-- Drawing another number changes nothing but draws. -/
theorem sameButDraws_drawing (answer : Environment σ) (n : Int) :
    answer.SameButDraws (answer.drawing n) := by
  intro q state hq
  cases q with
  | uniform low high => exact absurd trivial hq
  | _ => rfl

/-- A number that lies in the range is drawn. -/
theorem drawing_of_mem {low high n : Int} (hlow : low ≤ n) (hhigh : n ≤ high) (state : σ) :
    (answer.drawing n (.uniform low high) state).1 = n :=
  if_pos ⟨hlow, hhigh⟩

/-- An environment still respects bounds when it draws another number where that is in range. -/
theorem RespectsBounds.drawing (h : answer.RespectsBounds) (n : Int) :
    (answer.drawing n).RespectsBounds := by
  intro low high state hrange
  by_cases hn : low ≤ n ∧ n ≤ high
  · rw [drawing_of_mem hn.1 hn.2]
    exact hn
  · rw [show (answer.drawing n (.uniform low high) state).1 =
      (answer (.uniform low high) state).1 from if_neg hn]
    exact h low high state hrange

/-- Events without draws are given by both. -/
theorem SameButDraws.gives (h : answer.SameButDraws other) {state after : σ} {events : List Event}
    (hdrawless : ∀ e ∈ events, ¬e.request.IsDraw) (hgives : answer.Gives state events after) :
    other.Gives state events after := by
  induction events generalizing state with
  | nil => exact hgives
  | cons event rest ih =>
    obtain ⟨hevent, hrest⟩ := List.forall_mem_cons.mp hdrawless
    obtain ⟨hreply, hlater⟩ := hgives
    rw [← h event.request state hevent] at hreply hlater
    exact ⟨hreply, ih hrest hlater⟩

/-- The values that a script ends with from a state are those of a kind, whatever is drawn, and each
of them is drawn somewhere. -/
structure Spans {α : Type} (answer : Environment σ) (script : Script α) (start : σ)
    (kind : α → Prop) : Prop where
  only : ∀ other : Environment σ, other.RespectsBounds → answer.SameButDraws other →
    ∃ a, (script.run other start).outcome = .done a ∧ kind a
  every : ∀ a, kind a → ∃ other : Environment σ, other.RespectsBounds ∧
    answer.SameButDraws other ∧ (script.run other start).outcome = .done a

/-- What spans a kind of values spans every kind with the same ones. -/
theorem Spans.congr {α : Type} {script : Script α} {start : σ} {kind kind' : α → Prop}
    (h : answer.Spans script start kind) (hkind : ∀ a, kind a ↔ kind' a) :
    answer.Spans script start kind' :=
  (funext fun a => propext (hkind a) : kind = kind') ▸ h

/-- A run of the environment itself ends with such a value. -/
theorem Spans.outcome {α : Type} {script : Script α} {start after : σ} {kind : α → Prop}
    {events : List Event} {outcome : Outcome α} (h : answer.Spans script start kind)
    (hbounds : answer.RespectsBounds)
    (hrun : script.run answer start = ⟨events, after, outcome⟩) : ∃ a, outcome = .done a := by
  obtain ⟨a, houtcome, -⟩ := h.only answer hbounds (.refl answer)
  rw [hrun] at houtcome
  exact ⟨a, houtcome⟩

end Environment

/-! ## Scripts that draw an amount last -/

namespace Script

variable {α β : Type} {low high : Int}

/-- Along some events a script draws an amount last, and nothing before; it would have come there
whatever is drawn, and ends with what that gives. -/
inductive EndsInDraw (script : Script α) (low high : Int) (result : Int → α) : List Event → Prop
  | intro {before : List Event} (value : Int) (hdrawless : ∀ e ∈ before, ¬e.request.IsDraw)
      (hends : ∀ n, script.Leads (before ++ [⟨.uniform low high, n⟩]) (.done (result n))) :
      EndsInDraw script low high result (before ++ [⟨.uniform low high, value⟩])

/-- What happens before without a draw does not matter. -/
theorem EndsInDraw.after {script : Script β} {next : β → Script α} {result : Int → α} {b : β}
    {first second : List Event} (hfirst : script.Leads first (.done b))
    (hdrawless : ∀ e ∈ first, ¬e.request.IsDraw)
    (h : (next b).EndsInDraw low high result second) :
    (script.bind next).EndsInDraw low high result (first ++ second) := by
  cases h with
  | @intro before value hbefore hends =>
    rw [← List.append_assoc]
    refine .intro value (fun e he => (List.mem_append.mp he).elim (hdrawless e) (hbefore e)) ?_
    intro n
    rw [List.append_assoc]
    exact leads_bind_done_iff.mpr ⟨b, first, _, hfirst, hends n, rfl⟩

/-- Whatever environment gives the events before the draw, the script ends with what is drawn. -/
theorem run_of_draw {σ : Type} {answer : Environment σ} {script : Script α} {result : Int → α}
    {start between : σ} {before : List Event} (hgives : answer.Gives start before between)
    (hends : ∀ n, script.Leads (before ++ [⟨.uniform low high, n⟩]) (.done (result n))) :
    (script.run answer start).outcome =
      .done (result (answer (.uniform low high) between).1) := by
  have hlast : answer.Gives between
      [⟨.uniform low high, (answer (.uniform low high) between).1⟩]
      (answer (.uniform low high) between).2 := ⟨rfl, rfl⟩
  have hall := (answer.gives_append_iff).mpr ⟨between, hgives, hlast⟩
  rw [(run_eq_iff answer script start _ _ _).mpr ⟨hends _, hall⟩]

/-- Where an amount is drawn last, the values that the script may end with are those that the range
gives. -/
theorem EndsInDraw.spans {σ : Type} {answer : Environment σ} (hbounds : answer.RespectsBounds)
    {script : Script α} {result : Int → α} {events : List Event} {start after : σ}
    (h : script.EndsInDraw low high result events) (hgives : answer.Gives start events after)
    (hrange : low ≤ high) :
    answer.Spans script start fun a => ∃ n, low ≤ n ∧ n ≤ high ∧ a = result n := by
  cases h with
  | @intro before value hdrawless hends =>
    obtain ⟨between, hbefore, -⟩ := (answer.gives_append_iff).mp hgives
    -- an environment that differs in its draws alone comes to the same draw in the same state
    refine ⟨fun other hother hsame => ?_, ?_⟩
    · obtain ⟨hlow, hhigh⟩ := hother low high between hrange
      exact ⟨_, run_of_draw (hsame.gives hdrawless hbefore) hends, _, hlow, hhigh, rfl⟩
    · rintro _ ⟨n, hlow, hhigh, rfl⟩
      have hsame := answer.sameButDraws_drawing n
      have hrun := run_of_draw (hsame.gives hdrawless hbefore) hends
      rw [Environment.drawing_of_mem hlow hhigh] at hrun
      exact ⟨answer.drawing n, hbounds.drawing n, hsame, hrun⟩

end Script

namespace Drive

variable {settings : Settings} {α : Type} {low high : Int}

/-- An amount is drawn from a range that is not inverted. -/
theorem drawAmount_endsInDraw {result : Int → α} {events : List Event} {outcome : Outcome α}
    (hrange : low ≤ high)
    (h : ((drawAmount low high).bind fun n => .done (result n)).Leads events outcome) :
    ((drawAmount low high).bind fun n => .done (result n)).EndsInDraw low high result events := by
  have hdraw : (drawAmount low high).bind (fun n => .done (result n)) =
      .ask (.uniform low high) fun n => .done (result n) := by
    rw [drawAmount, if_neg (Int.not_lt.mpr hrange)]
    rfl
  rw [hdraw] at h ⊢
  obtain ⟨value, later, rfl, hlater⟩ := Script.leads_ask_iff.mp h
  obtain ⟨rfl, -⟩ := Script.leads_done_iff.mp hlater
  have hends (n : Int) : (Script.ask (.uniform low high) fun n => .done (result n)).Leads
      ([] ++ [⟨.uniform low high, n⟩]) (.done (result n)) := .ask (.done _)
  exact .intro value (List.forall_mem_nil _) hends

/-- Recipients are found before an amount is drawn. -/
theorem findRecipients_endsInDraw {sender : String} {next : Recipients → Script α}
    {result : Int → α} {recipients : Recipients} {finding later : List Event}
    (hfound : (findRecipients settings sender).Leads finding (.done recipients))
    (h : (next recipients).EndsInDraw low high result later) :
    ((findRecipients settings sender).bind next).EndsInDraw low high result (finding ++ later) := by
  refine h.after hfound fun e he => ?_
  exact e.request.not_isDraw_of_readsHoldings
    ((findRecipients_readsHoldings sender).of_leads hfound e he)

/-- An address is picked before an amount is drawn. -/
theorem pickAddress_endsInDraw {candidates : List String} {next : Pick → Script α}
    {result : Int → α} {pick : Pick} {picking later : List Event}
    (hpick : (pickAddress settings candidates).Leads picking (.done pick))
    (h : (next pick).EndsInDraw low high result later) :
    ((pickAddress settings candidates).bind next).EndsInDraw low high result (picking ++ later) :=
  h.after hpick ((pickAddress_drawsNothing candidates).of_leads hpick)

end Drive

end TransferDrill

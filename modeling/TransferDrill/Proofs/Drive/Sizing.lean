import TransferDrill.Drive.Sizing
import TransferDrill.Proofs.Drive.Path

/-!
# What a sized transfer amounts to

As long as draws lie in their ranges, a transfer that was sized is covered by what the sender
holds: between accounts the minimum stays with the sender, and a coin pays for its outputs and
the fee.
-/

namespace TransferDrill

/-- A transfer is from a sender and covered by what it holds; a change output comes with its
template. -/
structure Transfer.CoveredBy (transfer : Transfer) (settings : Settings) (sender : Sender) :
    Prop where
  source : transfer.context.sender = sender.address
  currency : transfer.context.currency = settings.currency
  templates : transfer.templates = settings.templates ++
    if transfer.context.hasChange then settings.changeTemplate.toList else []
  account : settings.accounting = .account →
    0 ≤ transfer.context.senderValue ∧
      transfer.context.senderValue = transfer.context.recipientValue ∧
      transfer.context.recipientValue ≤ sender.balance - settings.minimumBalance
  coin : settings.accounting = .utxo →
    transfer.context.senderValue = sender.balance ∧ transfer.context.coin = sender.coin ∧
      transfer.context.recipientValue + transfer.context.changeValue.getD 0 + settings.maximumFee ≤
        sender.balance

namespace Drive

variable {settings : Settings}

/-- An amount that is drawn before the rest of a script lies in its range. -/
theorem drawAmount_bind_leads_done {β : Type} {low high : Int} {next : Int → Script β}
    {events : List Event} {b : β}
    (h : ((drawAmount low high).bind next).Leads events (.done b))
    (hbounds : ∀ e ∈ events, e.InBounds) :
    ∃ n later, low ≤ n ∧ n ≤ high ∧ (next n).Leads later (.done b) := by
  rw [drawAmount] at h
  by_cases hrange : high < low
  · rw [if_pos hrange] at h
    simp at h
  · rw [if_neg hrange] at h
    obtain ⟨n, later, rfl, hlater⟩ := Script.leads_request_bind_iff.mp h
    have hdraw : Event.InBounds ⟨.uniform low high, n⟩ := hbounds _ (List.mem_cons_self ..)
    obtain ⟨hleast, hmost⟩ := hdraw (Int.not_lt.mp hrange)
    exact ⟨n, later, hleast, hmost, hlater⟩

/-- A sized transfer between accounts is covered by the balance. -/
theorem sizeAccount_covered {sender : Sender} {recipients : Recipients} {events : List Event}
    {transfer : Transfer} (haccounting : settings.accounting = .account)
    (h : (sizeAccount settings sender.address sender.balance recipients).Leads events
      (.done transfer))
    (hbounds : ∀ e ∈ events, e.InBounds) : transfer.CoveredBy settings sender := by
  -- whoever receives, the amount was drawn from zero or more up to what can be spared
  have hdrawn : ∀ (recipient : String) (value : Int), 0 ≤ value →
      value ≤ sender.balance - settings.minimumBalance →
      (accountTransfer settings sender.address recipient value).CoveredBy settings sender := by
    intro recipient value hleast hmost
    refine ⟨rfl, rfl, ?_, fun _ => ⟨hleast, rfl, hmost⟩, ?_⟩
    · simp [accountTransfer, Context.hasChange]
    intro hutxo
    rw [haccounting] at hutxo
    cases hutxo
  rw [sizeAccount] at h
  simp only [Script.bind_eq, Script.pure_eq] at h
  split at h
  · obtain ⟨pick, picked, later, -, hlater, rfl⟩ := Script.leads_bind_done_iff.mp h
    have hafter : ∀ e ∈ later, e.InBounds := fun e he => hbounds e (List.mem_append_right _ he)
    obtain ⟨value, rest, hleast, hmost, hrest⟩ := drawAmount_bind_leads_done hlater hafter
    obtain ⟨-, htransfer⟩ := Script.leads_done_iff.mp hrest
    cases htransfer
    refine hdrawn _ _ ?_ hmost
    split at hleast <;> omega
  · split at h
    · split at h
      · simp at h
      · obtain ⟨value, rest, hleast, hmost, hrest⟩ := drawAmount_bind_leads_done h hbounds
        obtain ⟨-, htransfer⟩ := Script.leads_done_iff.mp hrest
        cases htransfer
        exact hdrawn _ _ hleast hmost
    · simp at h

/-- A sized transfer of a coin spends the coin and is covered by its value. -/
theorem sizeCoin_covered {sender : Sender} {candidates : List String} {events : List Event}
    {transfer : Transfer} (haccounting : settings.accounting = .utxo)
    (h : (sizeCoin settings sender.address sender.balance candidates sender.coin).Leads events
      (.done transfer))
    (hbounds : ∀ e ∈ events, e.InBounds) : transfer.CoveredBy settings sender := by
  have hnoAccounts : settings.accounting ≠ .account := by simp [haccounting]
  rw [sizeCoin] at h
  simp only [Script.bind_eq, Script.pure_eq] at h
  split at h
  · simp at h
  · obtain ⟨pick, picked, later, -, hlater, rfl⟩ := Script.leads_bind_done_iff.mp h
    cases htemplate : settings.changeTemplate.filter
        fun _ => settings.requiredBalance .changeSend ≤ sender.balance with
    | some template =>
      rw [htemplate] at hlater
      obtain ⟨change, changed, last, -, hlast, rfl⟩ := Script.leads_bind_done_iff.mp hlater
      have hafter : ∀ e ∈ last, e.InBounds := fun e he => hbounds e (by simp [he])
      obtain ⟨share, rest, hleast, hmost, hrest⟩ := drawAmount_bind_leads_done hlast hafter
      obtain ⟨-, htransfer⟩ := Script.leads_done_iff.mp hrest
      cases htransfer
      have hchange : settings.changeTemplate = some template :=
        (Option.filter_eq_some_iff.mp htemplate).1
      refine ⟨rfl, rfl, ?_, fun haccount => absurd haccount hnoAccounts, fun _ => ⟨rfl, rfl, ?_⟩⟩
      · by_cases hempty : change.address.isEmpty = true <;>
          simp [changeTransfer, Context.hasChange, hempty, hchange]
      · simp only [changeTransfer, Option.getD_some]
        omega
    | none =>
      rw [htemplate] at hlater
      have hafter : ∀ e ∈ later, e.InBounds := fun e he => hbounds e (List.mem_append_right _ he)
      obtain ⟨value, rest, hleast, hmost, hrest⟩ := drawAmount_bind_leads_done hlater hafter
      obtain ⟨-, htransfer⟩ := Script.leads_done_iff.mp hrest
      cases htransfer
      refine ⟨rfl, rfl, ?_, fun haccount => absurd haccount hnoAccounts, fun _ => ⟨rfl, rfl, ?_⟩⟩
      · simp [fullTransfer, Context.hasChange]
      · simp only [fullTransfer, Option.getD_none]
        omega

/-- As long as draws lie in their ranges, a sized transfer is covered by what the sender holds. -/
theorem sizeTransfer_covered {sender : Sender} {events : List Event} {transfer : Transfer}
    (h : (sizeTransfer settings sender).Leads events (.done transfer))
    (hbounds : ∀ e ∈ events, e.InBounds) : transfer.CoveredBy settings sender := by
  rw [sizeTransfer] at h
  obtain ⟨recipients, found, sized, -, hsized, rfl⟩ := Script.leads_bind_done_iff.mp h
  have hlater : ∀ e ∈ sized, e.InBounds := fun e he => hbounds e (List.mem_append_right _ he)
  cases haccounting : settings.accounting with
  | account =>
    rw [haccounting] at hsized
    exact sizeAccount_covered haccounting hsized hlater
  | utxo =>
    rw [haccounting] at hsized
    exact sizeCoin_covered haccounting hsized hlater

end Drive

end TransferDrill

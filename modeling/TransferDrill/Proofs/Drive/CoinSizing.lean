import TransferDrill.Proofs.Drive.Drawing
import TransferDrill.Proofs.Rehearsal.Plain

/-!
# How transfers of a coin are sized

A coin is spent whole. All of it but the fee goes to the recipient and to change, if there is a
template for change and the coin is worth a minimum for each of the two; otherwise the recipient
gets any amount from the minimum to all but the fee. So outputs add up and none is dust.
-/

namespace TransferDrill

/-- A coin is spent on an output and on change, of the minimum at least each and of all but the fee
together. The template for change is added where change has an address. -/
structure SplitsCoin (settings : Settings) (sender : Sender) (template : Operation)
    (recipient change : String) (transfer : Transfer) : Prop where
  source : transfer.context.sender = sender.address
  spent : transfer.context.senderValue = sender.balance
  coin : transfer.context.coin = sender.coin
  currency : transfer.context.currency = settings.currency
  target : transfer.context.recipient = recipient
  changeAddress : transfer.context.changeAddress = change
  split : ∃ changeValue, transfer.context.changeValue = some changeValue ∧
    (settings.minimumBalance : Int) ≤ transfer.context.recipientValue ∧
    (settings.minimumBalance : Int) ≤ changeValue ∧
    transfer.context.recipientValue + changeValue = sender.balance - settings.maximumFee
  templates : transfer.templates =
    if change = "" then settings.templates else settings.templates ++ [template]

/-- A coin is spent on one output, of the minimum at least and all but the fee at most, without
change. -/
structure SpendsCoin (settings : Settings) (sender : Sender) (recipient : String)
    (transfer : Transfer) : Prop where
  source : transfer.context.sender = sender.address
  spent : transfer.context.senderValue = sender.balance
  coin : transfer.context.coin = sender.coin
  currency : transfer.context.currency = settings.currency
  target : transfer.context.recipient = recipient
  changeAddress : transfer.context.changeAddress = ""
  changeValue : transfer.context.changeValue = none
  least : (settings.minimumBalance : Int) ≤ transfer.context.recipientValue
  most : transfer.context.recipientValue ≤ sender.balance - settings.maximumFee
  templates : transfer.templates = settings.templates

namespace Drive

open Rehearsal

variable {settings : Settings} {sender : Sender}

/-- Every share of what two minimums leave makes up a split, and no split is made up otherwise. -/
theorem splitsCoin_iff {template : Operation} {recipient change : String} (transfer : Transfer) :
    (∃ share : Int, 0 ≤ share ∧
      share ≤ sender.balance - settings.maximumFee - 2 * settings.minimumBalance ∧
      transfer = changeTransfer settings sender.address sender.balance sender.coin recipient
        (settings.minimumBalance + share) template change (settings.minimumBalance +
          (sender.balance - settings.maximumFee - 2 * settings.minimumBalance - share))) ↔
      SplitsCoin settings sender template recipient change transfer := by
  constructor
  · rintro ⟨share, hleast, hmost, rfl⟩
    refine ⟨rfl, rfl, rfl, rfl, rfl, rfl, ⟨_, rfl, ?_⟩, ?_⟩
    · dsimp only [changeTransfer]
      omega
    · by_cases hempty : change = "" <;> simp [changeTransfer, hempty]
  · intro h
    obtain ⟨changeValue, hchange, hrecipient, hleast, hsum⟩ := h.split
    refine ⟨transfer.context.recipientValue - settings.minimumBalance, by omega, by omega, ?_⟩
    have htemplates := h.templates
    obtain ⟨⟨_, _, _, _, _, _, _, _⟩, _⟩ := transfer
    dsimp only at hchange hsum htemplates
    subst hchange htemplates
    simp only [changeTransfer, Transfer.mk.injEq, Context.mk.injEq, Option.some.injEq]
    refine ⟨⟨h.source, h.spent, h.target, by omega, h.currency, h.changeAddress,
      by omega, h.coin⟩, ?_⟩
    by_cases hempty : change = "" <;> simp [hempty]

/-- A coin is spent on one output exactly by the full transfers of an amount in range. -/
theorem spendsCoin_iff {recipient : String} (transfer : Transfer) :
    (∃ value : Int, settings.minimumBalance ≤ value ∧
      value ≤ sender.balance - settings.maximumFee ∧
      transfer = fullTransfer settings sender.address sender.balance sender.coin recipient value) ↔
      SpendsCoin settings sender recipient transfer := by
  constructor
  · rintro ⟨value, hleast, hmost, rfl⟩
    exact ⟨rfl, rfl, rfl, rfl, rfl, rfl, rfl, hleast, hmost, rfl⟩
  · intro h
    refine ⟨transfer.context.recipientValue, h.least, h.most, ?_⟩
    obtain ⟨⟨_, _, _, _, _, _, _, _⟩, _⟩ := transfer
    simp only [fullTransfer, Transfer.mk.injEq, Context.mk.injEq]
    exact ⟨⟨h.source, h.spent, h.target, trivial, h.currency, h.changeAddress,
      h.changeValue, h.coin⟩, h.templates⟩

/-! ## Amounts -/

/-- A coin that is worth less than the minimum and the fee cannot be spent. -/
theorem sizeCoin_of_lt (candidates : List String)
    (h : sender.balance < settings.minimumBalance + settings.maximumFee) :
    ∃ s : Shortage,
      sizeCoin settings sender.address sender.balance candidates sender.coin =
        .failed (.ofShortage s) ∧
      (s.numbers.all Numeral.isShort = true ↔
        Reportable sender.balance (settings.minimumBalance + settings.maximumFee)) := by
  have hbelow : sender.balance < settings.requiredBalance .fullSend := by
    simp only [Settings.requiredBalance]
    omega
  refine ⟨_, by rw [sizeCoin, if_pos hbelow], ?_⟩
  simp [Shortage.numbers, Settings.requiredBalance, Reportable]

variable {candidates : List String} {events : List Event} {outcome : Outcome Transfer}

/-- Where there is change, the amount that is drawn is a share of what two minimums leave. -/
theorem sizeCoin_change_endsInDraw {template : Operation}
    (h : (sizeCoin settings sender.address sender.balance candidates sender.coin).Leads events
      outcome)
    (hreturns : ∀ e ∈ events, e.returns = true)
    (hkeys : ∀ fault, outcome ≠ .failed (.keyPair fault))
    (htemplate : settings.changeTemplate = some template)
    (henough : 2 * settings.minimumBalance + settings.maximumFee ≤ sender.balance) :
    ∃ recipient change,
      (sizeCoin settings sender.address sender.balance candidates sender.coin).EndsInDraw 0
        (sender.balance - settings.maximumFee - 2 * settings.minimumBalance)
        (fun share => changeTransfer settings sender.address sender.balance sender.coin recipient
          (settings.minimumBalance + share) template change (settings.minimumBalance +
            (sender.balance - settings.maximumFee - 2 * settings.minimumBalance - share)))
        events := by
  have hnot : ¬sender.balance < settings.requiredBalance .fullSend := by
    simp only [Settings.requiredBalance]
    omega
  have hboth : settings.changeTemplate.filter
      (fun _ => settings.requiredBalance .changeSend ≤ sender.balance) = some template := by
    simp [htemplate, Option.filter, Settings.requiredBalance, henough]
  simp only [sizeCoin, if_neg hnot, hboth, Script.bind_eq, Script.pure_eq] at h ⊢
  obtain ⟨pick, picking, later, hpick, hlater, rfl⟩ :=
    (pickAddress_completes _).leads_bind h hreturns hkeys
  have hafter : ∀ e ∈ later, e.returns = true := fun e he =>
    hreturns e (List.mem_append_right _ he)
  obtain ⟨change, changing, last, hchange, hlast, rfl⟩ :=
    (pickAddress_completes _).leads_bind hlater hafter hkeys
  refine ⟨pick.address, change.address, pickAddress_endsInDraw hpick ?_⟩
  exact pickAddress_endsInDraw hchange (drawAmount_endsInDraw (by omega) hlast)

/-- Where there is no change, the amount that is drawn is that of the output. -/
theorem sizeCoin_full_endsInDraw
    (h : (sizeCoin settings sender.address sender.balance candidates sender.coin).Leads events
      outcome)
    (hreturns : ∀ e ∈ events, e.returns = true)
    (hkeys : ∀ fault, outcome ≠ .failed (.keyPair fault))
    (henough : settings.minimumBalance + settings.maximumFee ≤ sender.balance)
    (hnone : settings.changeTemplate = none ∨
      sender.balance < 2 * settings.minimumBalance + settings.maximumFee) :
    ∃ recipient,
      (sizeCoin settings sender.address sender.balance candidates sender.coin).EndsInDraw
        settings.minimumBalance (sender.balance - settings.maximumFee)
        (fullTransfer settings sender.address sender.balance sender.coin recipient) events := by
  have hnot : ¬sender.balance < settings.requiredBalance .fullSend := by
    simp only [Settings.requiredBalance]
    omega
  have hboth : settings.changeTemplate.filter
      (fun _ => settings.requiredBalance .changeSend ≤ sender.balance) = none := by
    rcases hnone with hnone | hbelow
    · rw [hnone, Option.filter_none]
    · cases settings.changeTemplate with
      | none => rfl
      | some template => simp [Option.filter, Settings.requiredBalance, Int.not_le.mpr hbelow]
  simp only [sizeCoin, if_neg hnot, hboth, Script.bind_eq, Script.pure_eq] at h ⊢
  obtain ⟨pick, picking, later, hpick, hlater, rfl⟩ :=
    (pickAddress_completes _).leads_bind h hreturns hkeys
  exact ⟨pick.address, pickAddress_endsInDraw hpick (drawAmount_endsInDraw (by omega) hlater)⟩

/-! ## Transfers -/

/-- Where coins are spent, a transfer is sized by finding recipients and then sizing the coin. -/
theorem sizeTransfer_eq_sizeCoin (haccounting : settings.accounting = .utxo) :
    sizeTransfer settings sender = (findRecipients settings sender.address).bind fun recipients =>
      sizeCoin settings sender.address sender.balance recipients.others sender.coin := by
  simp [sizeTransfer, haccounting]

/-- On a chain of coins, recipients are found unless a call fails. -/
theorem findRecipients_completes (haccounting : settings.accounting = .utxo) (sender : String) :
    (findRecipients settings sender).Completes := by
  rw [findRecipients, haccounting]
  exact .bind .attempt fun addresses => .done _

/-- If sizing the coin ends in a draw, so does sizing the transfer, with recipients found before. -/
theorem sizeTransfer_endsInDraw_of_sizeCoin {low high : Int} {result : Int → Transfer}
    {recipients : Recipients} {finding sized : List Event}
    (haccounting : settings.accounting = .utxo)
    (hfinding : (findRecipients settings sender.address).Leads finding (.done recipients))
    (h : (sizeCoin settings sender.address sender.balance recipients.others sender.coin).EndsInDraw
      low high result sized) :
    (sizeTransfer settings sender).EndsInDraw low high result (finding ++ sized) := by
  rw [sizeTransfer_eq_sizeCoin haccounting]
  exact findRecipients_endsInDraw hfinding h

section Found

variable {σ : Type} {answer : Environment σ} {start after : σ} {recipients : Recipients}
  {finding sized : List Event} (hbounds : answer.RespectsBounds)
  (haccounting : settings.accounting = .utxo)
  (hfinding : (findRecipients settings sender.address).Leads finding (.done recipients))
  (hsized : (sizeCoin settings sender.address sender.balance recipients.others sender.coin).Leads
    sized outcome)
  (hgives : answer.Gives start (finding ++ sized) after)
  (hreturns : ∀ e ∈ sized, e.returns = true)
  (hkeys : ∀ fault, outcome ≠ .failed (.keyPair fault))

include hbounds haccounting hfinding hsized hgives hreturns hkeys

/-- With a template for change, a coin that is worth two minimums and the fee is split. -/
theorem sizeTransfer_spans_splitsCoin {template : Operation}
    (htemplate : settings.changeTemplate = some template)
    (henough : 2 * settings.minimumBalance + settings.maximumFee ≤ sender.balance) :
    ∃ recipient change, answer.Spans (sizeTransfer settings sender) start
      (SplitsCoin settings sender template recipient change) := by
  obtain ⟨recipient, change, hdraw⟩ :=
    sizeCoin_change_endsInDraw hsized hreturns hkeys htemplate henough
  have hspans := (sizeTransfer_endsInDraw_of_sizeCoin haccounting hfinding hdraw).spans hbounds
    hgives (by omega)
  exact ⟨recipient, change, hspans.congr splitsCoin_iff⟩

/-- Without a template for change, or if it is worth less than that, a coin is spent on one output
as long as it is worth the minimum and the fee. -/
theorem sizeTransfer_spans_spendsCoin
    (henough : settings.minimumBalance + settings.maximumFee ≤ sender.balance)
    (hnone : settings.changeTemplate = none ∨
      sender.balance < 2 * settings.minimumBalance + settings.maximumFee) :
    ∃ recipient, answer.Spans (sizeTransfer settings sender) start
      (SpendsCoin settings sender recipient) := by
  obtain ⟨recipient, hdraw⟩ := sizeCoin_full_endsInDraw hsized hreturns hkeys henough hnone
  have hspans := (sizeTransfer_endsInDraw_of_sizeCoin haccounting hfinding hdraw).spans hbounds
    hgives (by omega)
  exact ⟨recipient, hspans.congr spendsCoin_iff⟩

end Found

/-- A transfer of a coin runs short exactly if the coin is worth less than the minimum and the fee,
before anything was made or drawn; if the numbers of the report are too long to be written, the
drive fails with that. A coin that is worth enough is split in any way that leaves the minimum to
the recipient and to change where there is a template for change and two minimums, and else spent
on the recipient alone; nothing else can come of it. -/
theorem sizeTransfer_ofCoin {σ : Type} (answer : Environment σ) (hbounds : answer.RespectsBounds)
    (settings : Settings) (haccounting : settings.accounting = .utxo) (sender : Sender)
    (start after : σ) (events : List Event) (outcome : Outcome Transfer)
    (hrun : (sizeTransfer settings sender).run answer start = ⟨events, after, outcome⟩)
    (hreturns : ∀ e ∈ events, e.returns = true)
    (hkeys : ∀ fault, outcome ≠ .failed (.keyPair fault)) :
    let required : Int := settings.minimumBalance + settings.maximumFee
    let requiredTwice : Int := 2 * settings.minimumBalance + settings.maximumFee
    ((∃ s, outcome = .failed (.shortage s)) ↔
      sender.balance < required ∧ Reportable sender.balance required) ∧
    (outcome = .failed .overlongNumber ↔
      sender.balance < required ∧ ¬Reportable sender.balance required) ∧
    (sender.balance < required → ∀ e ∈ events, e.request.ReadsHoldings) ∧
    (∀ template, settings.changeTemplate = some template → requiredTwice ≤ sender.balance →
      ∃ recipient change, answer.Spans (sizeTransfer settings sender) start
        (SplitsCoin settings sender template recipient change)) ∧
    (required ≤ sender.balance →
      settings.changeTemplate = none ∨ sender.balance < requiredTwice →
      ∃ recipient, answer.Spans (sizeTransfer settings sender) start
        (SpendsCoin settings sender recipient)) := by
  intro required requiredTwice
  obtain ⟨hleads, hgives⟩ := (Script.run_eq_iff answer _ start after events outcome).mp hrun
  rw [sizeTransfer_eq_sizeCoin haccounting] at hleads
  obtain ⟨recipients, finding, sized, hfinding, hsized, rfl⟩ :=
    (findRecipients_completes haccounting _).leads_bind hleads hreturns hkeys
  have hafter : ∀ e ∈ sized, e.returns = true := fun e he =>
    hreturns e (List.mem_append_right _ he)
  by_cases hbelow : sender.balance < required
  · obtain ⟨s, hshort, hreport⟩ := sizeCoin_of_lt recipients.others hbelow
    rw [hshort] at hsized
    obtain ⟨rfl, rfl⟩ := Script.leads_failed_iff.mp hsized
    obtain ⟨hreported, hoverlong⟩ := ofShortage_outcome Transfer s
    refine ⟨?_, ?_, fun _ e he => ?_, fun template _ henough => ?_, fun henough => ?_⟩
    · rw [hreported, hreport]
      exact (and_iff_right hbelow).symm
    · rw [hoverlong, hreport]
      exact (and_iff_right hbelow).symm
    · rw [List.append_nil] at he
      exact (findRecipients_readsHoldings sender.address).of_leads hfinding e he
    · omega
    · omega
  · have hchange (template : Operation) (htemplate : settings.changeTemplate = some template)
        (henough : requiredTwice ≤ sender.balance) :=
      sizeTransfer_spans_splitsCoin hbounds haccounting hfinding hsized hgives hafter hkeys
        htemplate henough
    have hfull :=
      sizeTransfer_spans_spendsCoin hbounds haccounting hfinding hsized hgives hafter hkeys
        (Int.not_lt.mp hbelow)
    obtain ⟨transfer, rfl⟩ : ∃ transfer, outcome = .done transfer := by
      by_cases hnone : settings.changeTemplate = none ∨ sender.balance < requiredTwice
      · obtain ⟨recipient, hspans⟩ := hfull hnone
        exact hspans.outcome hbounds hrun
      · rw [not_or] at hnone
        obtain ⟨template, htemplate⟩ := Option.ne_none_iff_exists'.mp hnone.1
        obtain ⟨recipient, change, hspans⟩ := hchange template htemplate (by omega)
        exact hspans.outcome hbounds hrun
    exact ⟨⟨nofun, fun h => absurd h.1 hbelow⟩, ⟨nofun, fun h => absurd h.1 hbelow⟩,
      fun h => absurd h hbelow, hchange, fun _ => hfull⟩

/-- A coin that is worth enough is split in a rehearsal, in any way that leaves no dust. -/
theorem sizeTransfer_ofCoin_rehearsed :
    let sender : Sender := ⟨"a", 100, some ⟨"a:0"⟩⟩
    let start := State.holding [("a", 100), ("b", 50), ("c", 20)]
    let run := (sizeTransfer (plainSettings .utxo) sender).run (answer .plain) start
    (∀ e ∈ run.events, e.returns = true) ∧ (∀ fault, run.outcome ≠ .failed (.keyPair fault)) ∧
      ∃ template recipient change,
        (answer .plain).Spans (sizeTransfer (plainSettings .utxo) sender) start
          (SplitsCoin (plainSettings .utxo) sender template recipient change) := by
  intro sender start run
  have hreturns : ∀ e ∈ run.events, e.returns = true := by decide +kernel
  have hdone : run.outcome.any (fun _ => true) = true := by decide +kernel
  obtain ⟨transfer, hrun, -⟩ := Run.exists_of_any hdone
  have hkeys : ∀ fault, run.outcome ≠ .failed (.keyPair fault) := by
    simp [congrArg Run.outcome hrun]
  obtain ⟨-, -, -, hsplit, -⟩ := sizeTransfer_ofCoin (answer .plain) (answer_respectsBounds .plain)
    (plainSettings .utxo) rfl sender start run.state run.events (.done transfer) hrun hreturns nofun
  exact ⟨hreturns, hkeys, _, hsplit _ rfl (by simp [plainSettings, sender])⟩

/-- Where the minimum has as many digits as can be written and one more is needed with the fee, a
coin that is worth too little is not reported as a shortage. -/
theorem sizeTransfer_ofCoin_overlong :
    let settings := { plainSettings .utxo with minimumBalance := 10 ^ Numeral.maxDigits - 1 }
    let run := (sizeTransfer settings ⟨"a", 1, some ⟨"a:0"⟩⟩).run (answer .plain)
      (State.holding [("a", 1)])
    (1 : Int) < settings.minimumBalance + settings.maximumFee ∧
      (∀ e ∈ run.events, e.returns = true) ∧ ¬∃ s, run.outcome = .failed (.shortage s) := by
  intro settings run
  have houtcome : run.outcome = .failed .overlongNumber := by decide +kernel
  exact ⟨by decide +kernel, by decide +kernel, by simp [houtcome]⟩

end Drive

end TransferDrill

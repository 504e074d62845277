import TransferDrill.Proofs.Drive.AccountSizing
import TransferDrill.Proofs.Drive.CoinSizing
import TransferDrill.Proofs.Drive.Discipline

/-!
# What becomes of the fee

The maximum fee has to be there before a transfer is made, but it is not set aside in every kind of
transfer. An account keeps the minimum before it pays a fee, and may be left with no more than that.
A coin leaves exactly the maximum fee where there is a change output. Where there is none, all that
the recipient does not get is the fee, which is the maximum fee at least and may be all but the
minimum.
-/

namespace TransferDrill

/-- What a transfer takes from the sender and gives to no output. -/
def Context.impliedFee (context : Context) : Int :=
  context.senderValue - context.recipientValue -
    if context.hasChange then context.changeValue.getD 0 else 0

/-- An event at which nothing is thrown is no call that fails. -/
theorem Event.returns_of_thrown {e : Event} (h : e.thrown? = none) : e.returns = true := by
  obtain ⟨q, reply⟩ := e
  cases q with
  | call c =>
    rcases reply with (cancellation | e) | value
    · cases h
    · cases h
    · rfl
  | _ => rfl

/-- With everything else as it is, some draw makes a script end with a value of a kind. -/
def Environment.Admits {σ α : Type} (answer : Environment σ) (script : Script α) (start : σ)
    (kind : α → Prop) : Prop :=
  ∃ other : Environment σ, other.RespectsBounds ∧ answer.SameButDraws other ∧
    ∃ a, (script.run other start).outcome = .done a ∧ kind a

/-- What some draw leads to is led to for every wider kind. -/
theorem Environment.Admits.mono {σ α : Type} {answer : Environment σ} {script : Script α}
    {start : σ} {kind wider : α → Prop} (h : answer.Admits script start kind)
    (hkind : ∀ a, kind a → wider a) : answer.Admits script start wider := by
  obtain ⟨other, hother, hsame, a, houtcome, ha⟩ := h
  exact ⟨other, hother, hsame, a, houtcome, hkind a ha⟩

namespace Script

variable {α : Type}

/-- On the path of a disciplined script to a value, all calls return. -/
theorem Disciplined.returns_of_done {script : Script α} (h : script.Disciplined)
    {events : List Event} {a : α} (hleads : script.Leads events (.done a)) :
    ∀ e ∈ events, e.returns = true := by
  obtain ⟨hquiet, -⟩ := (h [] quiet_nil).ends hleads fun _ _ => trivial
  exact fun e he => Event.returns_of_thrown (hquiet e he)

/-- A script that draws an amount last ends with what some amount of the range gives, and could have
ended with what any other gives. -/
theorem EndsInDraw.drawn {σ : Type} {answer : Environment σ} (hbounds : answer.RespectsBounds)
    {script : Script α} {low high : Int} {result : Int → α} {events : List Event} {start after : σ}
    {a : α} (h : script.EndsInDraw low high result events) (hrange : low ≤ high)
    (hrun : script.run answer start = ⟨events, after, .done a⟩) :
    (∃ n, low ≤ n ∧ n ≤ high ∧ a = result n) ∧
      ∀ n, low ≤ n → n ≤ high → answer.Admits script start (· = result n) := by
  have hgives := ((run_eq_iff answer script start after events _).mp hrun).2
  have hspans := h.spans hbounds hgives hrange
  refine ⟨?_, fun n hlow hhigh => ?_⟩
  · obtain ⟨b, houtcome, hdrawn⟩ := hspans.only answer hbounds (.refl answer)
    rw [hrun] at houtcome
    cases houtcome
    exact hdrawn
  · obtain ⟨other, hother, hsame, houtcome⟩ := hspans.every (result n) ⟨n, hlow, hhigh, rfl⟩
    exact ⟨other, hother, hsame, result n, houtcome, rfl⟩

end Script

namespace Drive

open Rehearsal

variable {settings : Settings} {sender : Sender}

/-! ## Accounts -/

/-- An amount is drawn from a range that is not inverted, if anything comes of it. -/
theorem le_of_drawAmount_bind {β : Type} {low high : Int} {next : Int → Script β}
    {events : List Event} {b : β} (h : ((drawAmount low high).bind next).Leads events (.done b)) :
    low ≤ high := by
  by_contra hrange
  rw [drawAmount, if_pos (Int.not_le.mp hrange)] at h
  simp at h

/-- Whatever is sent from an account was drawn from what leaves the minimum there, and the minimum
and the fee were there. -/
theorem sizeAccount_done_endsInDraw {address : String} {balance : Int} {found : Recipients}
    {events : List Event} {transfer : Transfer}
    (h : (sizeAccount settings address balance found).Leads events (.done transfer)) :
    settings.minimumBalance + settings.maximumFee ≤ balance ∧
      ∃ recipient least, least ≤ balance - settings.minimumBalance ∧
        (sizeAccount settings address balance found).EndsInDraw least
          (balance - settings.minimumBalance) (accountTransfer settings address recipient)
          events := by
  by_cases hnew : (settings.requiredBalance .newAccountSend : Int) ≤ balance
  · have htwice : 2 * (settings.minimumBalance : Int) + settings.maximumFee ≤ balance := by
      simpa [Settings.requiredBalance] using hnew
    simp only [sizeAccount, if_pos hnew, Script.bind_eq, Script.pure_eq] at h ⊢
    obtain ⟨pick, picking, later, hpick, hlater, rfl⟩ := Script.leads_bind_done_iff.mp h
    have hrange := le_of_drawAmount_bind hlater
    exact ⟨by omega, pick.address, _, hrange,
      pickAddress_endsInDraw hpick (drawAmount_endsInDraw hrange hlater)⟩
  · by_cases hexisting : (settings.requiredBalance .existingAccountSend : Int) ≤ balance
    · simp only [sizeAccount, if_neg hnew, if_pos hexisting, Script.bind_eq, Script.pure_eq] at h ⊢
      cases hfunded : found.funded with
      | nil => simp [hfunded] at h
      | cons recipient rest =>
        rw [hfunded] at h
        have hrange := le_of_drawAmount_bind h
        refine ⟨?_, recipient, 0, hrange, drawAmount_endsInDraw hrange h⟩
        simpa [Settings.requiredBalance] using hexisting
    · simp [sizeAccount, if_neg hnew, if_neg hexisting] at h

/-- Whenever a transfer from an account is made, the minimum and the fee were there and the minimum
stays there, but the fee need not: with everything else as it was, another draw would have left the
minimum alone. -/
theorem sizeTransfer_keepsMinimum {σ : Type} (answer : Environment σ)
    (hbounds : answer.RespectsBounds) (settings : Settings)
    (haccounting : settings.accounting = .account) (sender : Sender) (start after : σ)
    (events : List Event) (transfer : Transfer)
    (hrun : (sizeTransfer settings sender).run answer start = ⟨events, after, .done transfer⟩) :
    settings.minimumBalance + settings.maximumFee ≤ sender.balance ∧
      settings.minimumBalance ≤ sender.balance - transfer.context.senderValue ∧
      answer.Admits (sizeTransfer settings sender) start fun other =>
        sender.balance - other.context.senderValue = settings.minimumBalance := by
  have hsize : sizeTransfer settings sender = (findRecipients settings sender.address).bind
      fun recipients => sizeAccount settings sender.address sender.balance recipients := by
    simp [sizeTransfer, haccounting]
  rw [hsize] at hrun ⊢
  obtain ⟨hleads, -⟩ := (Script.run_eq_iff answer _ start after events _).mp hrun
  obtain ⟨found, finding, sized, hfinding, hsized, rfl⟩ := Script.leads_bind_done_iff.mp hleads
  obtain ⟨hthere, recipient, least, hrange, hdraw⟩ := sizeAccount_done_endsInDraw hsized
  obtain ⟨⟨value, -, hmost, rfl⟩, hevery⟩ :=
    (findRecipients_endsInDraw hfinding hdraw).drawn hbounds hrange hrun
  refine ⟨hthere, ?_, (hevery _ hrange (Int.le_refl _)).mono ?_⟩
  · dsimp only [accountTransfer]
    omega
  · rintro _ rfl
    dsimp only [accountTransfer]
    omega

/-- In a rehearsal an account sends some of what it holds and keeps the minimum. -/
theorem sizeTransfer_keepsMinimum_rehearsed :
    let sender : Sender := ⟨"a", 100, none⟩
    let start := State.holding [("a", 100), ("b", 50)]
    let run := (sizeTransfer (plainSettings .account) sender).run (answer .plain) start
    ∃ transfer, run.outcome = .done transfer ∧
      5 ≤ sender.balance - transfer.context.senderValue ∧
      (answer .plain).Admits (sizeTransfer (plainSettings .account) sender) start fun other =>
        sender.balance - other.context.senderValue = 5 := by
  intro sender start run
  have hdone : run.outcome.any (fun _ => true) = true := by decide +kernel
  obtain ⟨transfer, hrun, -⟩ := Run.exists_of_any hdone
  obtain ⟨-, hkept, hleast⟩ := sizeTransfer_keepsMinimum (answer .plain)
    (answer_respectsBounds .plain) (plainSettings .account) rfl sender start run.state run.events
    transfer hrun
  exact ⟨transfer, congrArg Run.outcome hrun, hkept, hleast⟩

/-- In a rehearsal that draws the most, an account is left with less than the minimum once it has
paid the fee. -/
theorem sizeTransfer_spendsFee :
    let sender : Sender := ⟨"a", 100, none⟩
    let start := { State.holding [("a", 100), ("b", 50)] with source := .scripted [] [-1] 0 0 }
    let run := (sizeTransfer (plainSettings .account) sender).run (answer .plain) start
    ∃ transfer, run.outcome = .done transfer ∧
      sender.balance - transfer.context.senderValue - (plainSettings .account).maximumFee <
        (plainSettings .account).minimumBalance := by
  intro sender start run
  have hdone : run.outcome.any (fun transfer =>
      sender.balance - transfer.context.senderValue - (plainSettings .account).maximumFee <
        (plainSettings .account).minimumBalance) = true := by decide +kernel
  obtain ⟨transfer, hrun, hspent⟩ := Run.exists_of_any hdone
  exact ⟨transfer, congrArg Run.outcome hrun, of_decide_eq_true hspent⟩

/-! ## Coins -/

/-- A transfer with change leaves what neither the output nor a change address gets. -/
theorem changeTransfer_impliedFee {address recipient change : String} {coinValue value : Int}
    {coin : Option CoinIdentifier} {template : Operation} {changeValue : Int} :
    (changeTransfer settings address coinValue coin recipient value template change
      changeValue).context.impliedFee =
      coinValue - value - if change.isEmpty then 0 else changeValue := by
  by_cases hempty : change.isEmpty = true <;>
    simp [Context.impliedFee, changeTransfer, Context.hasChange, hempty]

/-- A transfer without change leaves what the output does not get. -/
theorem fullTransfer_impliedFee {address recipient : String} {coinValue value : Int}
    {coin : Option CoinIdentifier} :
    (fullTransfer settings address coinValue coin recipient value).context.impliedFee =
      coinValue - value := by
  simp [Context.impliedFee, fullTransfer, Context.hasChange]

/-- Whenever a transfer of a coin is made, it is split or spent on one output, by an amount that was
drawn from what two minimums or the fee leave of the coin. -/
theorem sizeCoin_done_endsInDraw {candidates : List String} {events : List Event}
    {transfer : Transfer}
    (h : (sizeCoin settings sender.address sender.balance candidates sender.coin).Leads events
      (.done transfer)) :
    (2 * settings.minimumBalance + settings.maximumFee ≤ sender.balance ∧
      ∃ template recipient change,
        (sizeCoin settings sender.address sender.balance candidates sender.coin).EndsInDraw 0
          (sender.balance - settings.maximumFee - 2 * settings.minimumBalance)
          (fun share => changeTransfer settings sender.address sender.balance sender.coin recipient
            (settings.minimumBalance + share) template change (settings.minimumBalance +
              (sender.balance - settings.maximumFee - 2 * settings.minimumBalance - share)))
          events) ∨
    (settings.minimumBalance + settings.maximumFee ≤ sender.balance ∧
      ∃ recipient,
        (sizeCoin settings sender.address sender.balance candidates sender.coin).EndsInDraw
          settings.minimumBalance (sender.balance - settings.maximumFee)
          (fullTransfer settings sender.address sender.balance sender.coin recipient) events) := by
  have hreturns := (sizeCoin_disciplined _ _ _ _).returns_of_done h
  have henough : settings.minimumBalance + settings.maximumFee ≤ sender.balance := by
    by_contra hbelow
    obtain ⟨s, hshort, -⟩ := sizeCoin_of_lt candidates (Int.not_le.mp hbelow)
    simp [hshort] at h
  by_cases hnone : settings.changeTemplate = none ∨
      sender.balance < 2 * settings.minimumBalance + settings.maximumFee
  · exact .inr ⟨henough, sizeCoin_full_endsInDraw h hreturns nofun henough hnone⟩
  · obtain ⟨htemplate, htwice⟩ := not_or.mp hnone
    obtain ⟨template, htemplate⟩ := Option.ne_none_iff_exists'.mp htemplate
    replace htwice := Int.not_lt.mp htwice
    exact .inl ⟨htwice, template, sizeCoin_change_endsInDraw h hreturns nofun htemplate htwice⟩

/-- A transfer of a coin leaves exactly the maximum fee if it has a change output. If it has none,
it leaves the maximum fee at least and all but the minimum at most, and that much is left by some
draw with everything else as it was. -/
theorem sizeTransfer_impliedFee {σ : Type} (answer : Environment σ)
    (hbounds : answer.RespectsBounds) (settings : Settings)
    (haccounting : settings.accounting = .utxo) (sender : Sender) (start after : σ)
    (events : List Event) (transfer : Transfer)
    (hrun : (sizeTransfer settings sender).run answer start = ⟨events, after, .done transfer⟩) :
    (transfer.context.hasChange = true → transfer.context.impliedFee = settings.maximumFee) ∧
      (transfer.context.hasChange = false →
        settings.maximumFee ≤ transfer.context.impliedFee ∧
        transfer.context.impliedFee ≤ sender.balance - settings.minimumBalance ∧
        answer.Admits (sizeTransfer settings sender) start fun other =>
          other.context.hasChange = false ∧
            other.context.impliedFee = sender.balance - settings.minimumBalance) := by
  obtain ⟨hleads, -⟩ := (Script.run_eq_iff answer _ start after events _).mp hrun
  rw [sizeTransfer_eq_sizeCoin haccounting] at hleads
  obtain ⟨found, finding, sized, hfinding, hsized, rfl⟩ := Script.leads_bind_done_iff.mp hleads
  rcases sizeCoin_done_endsInDraw hsized with
    ⟨henough, template, recipient, change, hdraw⟩ | ⟨henough, recipient, hdraw⟩
  · obtain ⟨⟨share, hleast, hmost, rfl⟩, hevery⟩ :=
      (sizeTransfer_endsInDraw_of_sizeCoin haccounting hfinding hdraw).drawn hbounds (by omega) hrun
    simp only [changeTransfer_impliedFee]
    refine ⟨fun hchange => ?_, fun hchange => ?_⟩
    · have hnamed : ¬change.isEmpty = true := by
        simpa [changeTransfer, Context.hasChange] using hchange
      rw [if_neg hnamed]
      omega
    · have hempty : change.isEmpty = true := by
        simpa [changeTransfer, Context.hasChange] using hchange
      rw [if_pos hempty]
      refine ⟨by omega, by omega, (hevery 0 (Int.le_refl _) (by omega)).mono ?_⟩
      rintro _ rfl
      refine ⟨hchange, ?_⟩
      rw [changeTransfer_impliedFee, if_pos hempty]
      omega
  · obtain ⟨⟨value, hleast, hmost, rfl⟩, hevery⟩ :=
      (sizeTransfer_endsInDraw_of_sizeCoin haccounting hfinding hdraw).drawn hbounds (by omega) hrun
    simp only [fullTransfer_impliedFee]
    refine ⟨fun hchange => ?_, fun _ => ⟨by omega, by omega, ?_⟩⟩
    · cases hchange
    · refine (hevery _ (Int.le_refl _) (by omega)).mono ?_
      rintro _ rfl
      exact ⟨rfl, fullTransfer_impliedFee⟩

/-- In a rehearsal a coin is split, and leaves the maximum fee. -/
theorem sizeTransfer_impliedFee_rehearsed :
    let sender : Sender := ⟨"a", 100, some ⟨"a:0"⟩⟩
    let run := (sizeTransfer (plainSettings .utxo) sender).run (answer .plain)
      (State.holding [("a", 100), ("b", 50), ("c", 20)])
    ∃ transfer, run.outcome = .done transfer ∧ transfer.context.hasChange = true ∧
      transfer.context.impliedFee = (plainSettings .utxo).maximumFee := by
  intro sender run
  have hdone : run.outcome.any (fun transfer => transfer.context.hasChange) = true := by
    decide +kernel
  obtain ⟨transfer, hrun, hchange⟩ := Run.exists_of_any hdone
  obtain ⟨hfee, -⟩ := sizeTransfer_impliedFee (answer .plain) (answer_respectsBounds .plain)
    (plainSettings .utxo) rfl sender _ run.state run.events transfer hrun
  exact ⟨transfer, congrArg Run.outcome hrun, hchange, hfee hchange⟩

/-- In a rehearsal without a template for change, all but the minimum is left for the fee. -/
theorem sizeTransfer_impliedFee_above :
    let settings := { plainSettings .utxo with changeTemplate := none }
    let run := (sizeTransfer settings ⟨"a", 100, some ⟨"a:0"⟩⟩).run (answer .plain)
      (State.holding [("a", 100), ("b", 50)])
    ∃ transfer, run.outcome = .done transfer ∧
      settings.maximumFee < transfer.context.impliedFee := by
  intro settings run
  have hdone : run.outcome.any (fun transfer =>
      (settings.maximumFee : Int) < transfer.context.impliedFee) = true := by decide +kernel
  obtain ⟨transfer, hrun, habove⟩ := Run.exists_of_any hdone
  exact ⟨transfer, congrArg Run.outcome hrun, of_decide_eq_true habove⟩

end Drive

end TransferDrill

import TransferDrill.Proofs.Drive.Drawing
import TransferDrill.Proofs.Rehearsal.Plain

/-!
# How transfers between accounts are sized

Three numbers decide: the minimum and the fee have to be there to send at all, and a second minimum
to send to an account that does not hold it yet. Where there is enough, the transfer goes to a new
address or to the first recipient that may get it, and every amount between what the recipient has
to get and what leaves the minimum with the sender is possible.
-/

namespace TransferDrill

/-- Whether an adapter shows the addresses and balances given, and its other calls return. -/
def Event.shows (addresses : List String) (balances : String → Option Int) : Event → Bool
  | ⟨.call .allAddresses, reply⟩ => reply = .ok addresses
  | ⟨.call (.accountBalance account _), reply⟩ => reply = .ok (balances account.address)
  | e => e.returns

/-- A call that shows what it should returns. -/
theorem Event.returns_of_shows {addresses : List String} {balances : String → Option Int}
    {e : Event} (h : e.shows addresses balances = true) : e.returns = true := by
  obtain ⟨q, reply⟩ := e
  cases q with
  | call c =>
    cases c with
    | allAddresses =>
      obtain rfl : reply = .ok addresses := of_decide_eq_true h
      rfl
    | accountBalance account currency =>
      obtain rfl : reply = .ok (balances account.address) := of_decide_eq_true h
      rfl
    | _ => exact h
  | _ => rfl

/-- A transfer of one amount of a range from a sender to a recipient, without change. -/
structure IsAccountTransfer (settings : Settings) (sender recipient : String) (least most : Int)
    (transfer : Transfer) : Prop where
  source : transfer.context.sender = sender
  target : transfer.context.recipient = recipient
  currency : transfer.context.currency = settings.currency
  same : transfer.context.senderValue = transfer.context.recipientValue
  least : least ≤ transfer.context.recipientValue
  most : transfer.context.recipientValue ≤ most
  changeAddress : transfer.context.changeAddress = ""
  changeValue : transfer.context.changeValue = none
  coin : transfer.context.coin = none
  templates : transfer.templates = settings.templates

namespace Drive

open Rehearsal

variable {settings : Settings}

/-- What is drawn from the range makes up the transfers of one of its amounts. -/
theorem isAccountTransfer_iff {sender recipient : String} {least most : Int} (transfer : Transfer) :
    (∃ value, least ≤ value ∧ value ≤ most ∧
      transfer = accountTransfer settings sender recipient value) ↔
      IsAccountTransfer settings sender recipient least most transfer := by
  constructor
  · rintro ⟨value, hleast, hmost, rfl⟩
    exact ⟨rfl, rfl, rfl, rfl, hleast, hmost, rfl, rfl, rfl, rfl⟩
  · intro h
    refine ⟨transfer.context.recipientValue, h.least, h.most, ?_⟩
    obtain ⟨⟨_, _, _, _, _, _, _, _⟩, _⟩ := transfer
    simp only [accountTransfer, Transfer.mk.injEq, Context.mk.injEq]
    exact ⟨⟨h.source, h.same, h.target, trivial, h.currency, h.changeAddress, h.changeValue,
      h.coin⟩, h.templates⟩

/-! ## Recipients -/

/-- Whether an account holds the minimum. -/
def isFunded (settings : Settings) (balances : String → Option Int) (address : String) : Bool :=
  (balances address).any fun balance => (settings.minimumBalance : Int) ≤ balance

/-- The addresses other than a sender's by whether they hold the minimum. -/
def recipientsOf (settings : Settings) (sender : String) (addresses : List String)
    (balances : String → Option Int) : Recipients where
  funded := (addresses.filter (· != sender)).filter (isFunded settings balances)
  others := (addresses.filter (· != sender)).filter (!isFunded settings balances ·)

/-- What is shown decides who is funded and who is not. -/
theorem not_mem_others {sender a : String} {addresses : List String}
    {balances : String → Option Int}
    (h : a ∈ (recipientsOf settings sender addresses balances).funded) :
    a ∉ (recipientsOf settings sender addresses balances).others := by
  intro hother
  have hfunded := (List.mem_filter.mp h).2
  have hnot := (List.mem_filter.mp hother).2
  simp [hfunded] at hnot

section Shown

variable {addresses : List String} {balances : String → Option Int}

/-- Looking up an account gives the balance that the adapter shows. -/
theorem holding_shown (haccounting : settings.accounting = .account) (address : String) :
    (holding settings address).DoneWith (·.shows addresses balances = true)
      ⟨balances address, none⟩ := by
  rw [holding, haccounting]
  exact .bind (.attempt fun reply hreply => of_decide_eq_true hreply) (.done _)

/-- Recipients are divided by the balances that the adapter shows, in their order. -/
theorem divide_shown (haccounting : settings.accounting = .account) (candidates : List String) :
    (divide settings candidates).DoneWith (·.shows addresses balances = true)
      ⟨candidates.filter (isFunded settings balances),
        candidates.filter (!isFunded settings balances ·)⟩ := by
  induction candidates with
  | nil => exact .done _
  | cons address rest ih =>
    refine .bind (holding_shown haccounting address) (.bind ih ?_)
    change Script.DoneWith _ (if isFunded settings balances address = true then _ else _) _
    by_cases hfunded : isFunded settings balances address = true
    · rw [if_pos hfunded, List.filter_cons_of_pos hfunded,
        List.filter_cons_of_neg (by simpa using hfunded)]
      exact .done _
    · rw [if_neg hfunded, List.filter_cons_of_neg hfunded,
        List.filter_cons_of_pos (by simpa using hfunded)]
      exact .done _

/-- Recipients are found among the addresses that are shown, by the balances that are shown. -/
theorem findRecipients_shown (haccounting : settings.accounting = .account) (sender : String) :
    (findRecipients settings sender).DoneWith (·.shows addresses balances = true)
      (recipientsOf settings sender addresses balances) := by
  rw [findRecipients, haccounting]
  exact .bind (.attempt fun reply hreply => of_decide_eq_true hreply) (divide_shown haccounting _)

end Shown

/-! ## Amounts -/

/-- A balance allows no transfer: the minimum and the fee are not there, or a second minimum is not
and there is no funded recipient. -/
def LacksFunds (settings : Settings) (balance : Int) (found : Recipients) : Prop :=
  balance < settings.minimumBalance + settings.maximumFee ∨
    (balance < 2 * settings.minimumBalance + settings.maximumFee ∧ found.funded = [])

/-- Who receives a transfer, and the least that it has to be: a new address, or the first of the
recipients, funded ones first; one that does not hold the minimum gets it. -/
inductive Payee (settings : Settings) (balance : Int) (found : Recipients) (events : List Event) :
    String → Int → Prop
  | created {recipient : String}
      (henough : 2 * settings.minimumBalance + settings.maximumFee ≤ balance)
      (hmade : Made settings events recipient) :
      Payee settings balance found events recipient settings.minimumBalance
  | funded {recipient : String} (hfirst : found.funded.head? = some recipient) :
      Payee settings balance found events recipient 0
  | other {recipient : String}
      (henough : 2 * settings.minimumBalance + settings.maximumFee ≤ balance)
      (hnone : found.funded = []) (hfirst : found.others.head? = some recipient) :
      Payee settings balance found events recipient settings.minimumBalance

/-- Who receives along some events does along more of them. -/
theorem Payee.mono {balance : Int} {found : Recipients} {events later : List Event}
    {recipient : String} {least : Int} (h : Payee settings balance found events recipient least)
    (hsub : events <:+: later) : Payee settings balance found later recipient least := by
  cases h with
  | created henough hmade => exact .created henough (hmade.mono hsub)
  | funded hfirst => exact .funded hfirst
  | other henough hnone hfirst => exact .other henough hnone hfirst

/-- The least for a payee leaves the minimum with a sender who has enough. -/
theorem Payee.least_le {balance : Int} {found : Recipients} {events : List Event}
    {recipient : String} {least : Int} (h : Payee settings balance found events recipient least)
    (henough : ¬LacksFunds settings balance found) :
    least ≤ balance - settings.minimumBalance := by
  rw [LacksFunds, not_or] at henough
  cases h <;> omega

/-- Whoever is picked among the recipients is a payee, with the least that is asked for it. -/
theorem payee_of_pick {balance : Int} {found : Recipients} {picking : List Event} {pick : Pick}
    (hpick : (pickAddress settings (found.funded ++ found.others)).Leads picking (.done pick))
    (henough : 2 * settings.minimumBalance + settings.maximumFee ≤ balance)
    (hapart : ∀ a ∈ found.funded, a ∉ found.others) :
    Payee settings balance found picking pick.address
      (if pick.created || found.others.contains pick.address then settings.minimumBalance
        else 0) := by
  by_cases hcreated : pick.created = true
  · rw [hcreated, Bool.true_or, if_pos rfl]
    exact .created henough ((pickAddress_leads_done hpick).made hcreated)
  · rw [Bool.not_eq_true] at hcreated
    have hfirst := (pickAddress_returnsFirst _).of_leads hpick hcreated
    rw [hcreated, Bool.false_or]
    cases hfunded : found.funded with
    | nil =>
      rw [hfunded, List.nil_append] at hfirst
      rw [if_pos (List.contains_iff_mem.mpr (List.mem_of_mem_head? hfirst))]
      exact .other henough hfunded hfirst
    | cons recipient rest =>
      -- a funded recipient is asked for nothing, since it is not among the others as well
      rw [hfunded, List.cons_append, List.head?_cons] at hfirst
      cases hfirst
      have hmem : pick.address ∈ found.funded := hfunded ▸ List.mem_cons_self
      rw [if_neg (mt List.contains_iff_mem.mp (hapart _ hmem))]
      exact .funded (by rw [hfunded]; rfl)

/-- A sender who has too little runs short, with a report of the balance if that is below what is
needed in any case. -/
theorem sizeAccount_of_lacksFunds {sender : String} {balance : Int} {found : Recipients}
    (h : LacksFunds settings balance found) :
    ∃ s : Shortage, sizeAccount settings sender balance found = .failed (.ofShortage s) ∧
      (s.numbers.all Numeral.isShort = true ↔
        (balance < settings.minimumBalance + settings.maximumFee →
          Reportable balance (settings.minimumBalance + settings.maximumFee))) := by
  have hno : ¬(settings.requiredBalance .newAccountSend : Int) ≤ balance := by
    simp only [LacksFunds, Settings.requiredBalance] at h ⊢
    omega
  by_cases hbelow : balance < settings.minimumBalance + settings.maximumFee
  · have hnot : ¬(settings.requiredBalance .existingAccountSend : Int) ≤ balance := by
      simp only [Settings.requiredBalance]
      omega
    refine ⟨_, by rw [sizeAccount, if_neg hno, if_neg hnot], ?_⟩
    simp [hbelow, Shortage.numbers, Settings.requiredBalance, Reportable]
  · obtain ⟨-, hnone⟩ := h.resolve_left hbelow
    have hyes : (settings.requiredBalance .existingAccountSend : Int) ≤ balance := by
      simp only [Settings.requiredBalance]
      omega
    refine ⟨.noFundedRecipient sender, by rw [sizeAccount, if_neg hno, if_pos hyes, hnone], ?_⟩
    simp [hbelow, Shortage.numbers]

/-- A sender who has enough sends to a payee what is drawn from what it can spare. -/
theorem sizeAccount_endsInDraw {sender : String} {balance : Int} {found : Recipients}
    {events : List Event} {outcome : Outcome Transfer}
    (h : (sizeAccount settings sender balance found).Leads events outcome)
    (hreturns : ∀ e ∈ events, e.returns = true)
    (hkeys : ∀ fault, outcome ≠ .failed (.keyPair fault))
    (hapart : ∀ a ∈ found.funded, a ∉ found.others) (henough : ¬LacksFunds settings balance found) :
    ∃ recipient least, Payee settings balance found events recipient least ∧
      (sizeAccount settings sender balance found).EndsInDraw least
        (balance - settings.minimumBalance) (accountTransfer settings sender recipient) events := by
  by_cases hnew : (settings.requiredBalance .newAccountSend : Int) ≤ balance
  · have htwice : 2 * (settings.minimumBalance : Int) + settings.maximumFee ≤ balance := by
      simpa [Settings.requiredBalance] using hnew
    simp only [sizeAccount, if_pos hnew, Script.bind_eq, Script.pure_eq] at h ⊢
    obtain ⟨pick, picking, later, hpick, hlater, rfl⟩ :=
      (pickAddress_completes _).leads_bind h hreturns hkeys
    have hpayee := payee_of_pick hpick htwice hapart
    refine ⟨pick.address, _, hpayee.mono (List.prefix_append _ _).isInfix,
      pickAddress_endsInDraw hpick ?_⟩
    exact drawAmount_endsInDraw (hpayee.least_le henough) hlater
  · have hexisting : (settings.requiredBalance .existingAccountSend : Int) ≤ balance := by
      simp only [LacksFunds, Settings.requiredBalance] at henough ⊢
      omega
    simp only [sizeAccount, if_neg hnew, if_pos hexisting, Script.bind_eq, Script.pure_eq] at h ⊢
    cases hfunded : found.funded with
    | nil =>
      have hbelow : balance < 2 * settings.minimumBalance + settings.maximumFee := by
        simpa [Settings.requiredBalance] using hnew
      exact absurd (.inr ⟨hbelow, hfunded⟩) henough
    | cons recipient rest =>
      rw [hfunded] at h
      have hpayee : Payee settings balance found events recipient 0 :=
        .funded (by rw [hfunded]; rfl)
      exact ⟨recipient, 0, hpayee, drawAmount_endsInDraw (hpayee.least_le henough) h⟩

/-- A transfer from an account runs short exactly if the funds are lacking, before anything was made
or drawn; if the numbers of the report are too long to be written, the drive fails with that. Where
there are enough funds, a payee gets any amount from the least that it has to get up to what leaves
the minimum with the sender, and nothing else can come of it. -/
theorem sizeTransfer_fromAccount {σ : Type} (answer : Environment σ)
    (hbounds : answer.RespectsBounds) (settings : Settings)
    (haccounting : settings.accounting = .account) (sender : Sender) (addresses : List String)
    (balances : String → Option Int) (start after : σ) (events : List Event)
    (outcome : Outcome Transfer)
    (hrun : (sizeTransfer settings sender).run answer start = ⟨events, after, outcome⟩)
    (hshown : ∀ e ∈ events, e.shows addresses balances = true)
    (hkeys : ∀ fault, outcome ≠ .failed (.keyPair fault)) :
    let found := recipientsOf settings sender.address addresses balances
    let required : Int := settings.minimumBalance + settings.maximumFee
    ((∃ s, outcome = .failed (.shortage s)) ↔ LacksFunds settings sender.balance found ∧
      (sender.balance < required → Reportable sender.balance required)) ∧
    (outcome = .failed .overlongNumber ↔
      sender.balance < required ∧ ¬Reportable sender.balance required) ∧
    (LacksFunds settings sender.balance found → ∀ e ∈ events, e.request.ReadsHoldings) ∧
    (¬LacksFunds settings sender.balance found →
      ∃ recipient least, Payee settings sender.balance found events recipient least ∧
        answer.Spans (sizeTransfer settings sender) start
          (IsAccountTransfer settings sender.address recipient least
            (sender.balance - settings.minimumBalance))) := by
  intro found required
  obtain ⟨hleads, hgives⟩ := (Script.run_eq_iff answer _ start after events outcome).mp hrun
  have hsize : sizeTransfer settings sender = (findRecipients settings sender.address).bind
      fun recipients => sizeAccount settings sender.address sender.balance recipients := by
    simp [sizeTransfer, haccounting]
  rw [hsize] at hleads
  obtain ⟨finding, sized, hfinding, hsized, rfl⟩ :=
    (findRecipients_shown haccounting sender.address).leads_bind hleads hshown
  by_cases hlacks : LacksFunds settings sender.balance found
  · obtain ⟨s, hshort, hreport⟩ := sizeAccount_of_lacksFunds hlacks
    rw [hshort] at hsized
    obtain ⟨rfl, rfl⟩ := Script.leads_failed_iff.mp hsized
    obtain ⟨hreported, hoverlong⟩ := ofShortage_outcome Transfer s
    refine ⟨?_, ?_, fun _ e he => ?_, fun henough => absurd hlacks henough⟩
    · rw [hreported, hreport]
      exact (and_iff_right hlacks).symm
    · rw [hoverlong, hreport, Classical.not_imp]
    · rw [List.append_nil] at he
      exact (findRecipients_readsHoldings sender.address).of_leads hfinding e he
  · have hreturns : ∀ e ∈ sized, e.returns = true := fun e he =>
      Event.returns_of_shows (hshown e (List.mem_append_right _ he))
    obtain ⟨recipient, least, hpayee, hdraw⟩ :=
      sizeAccount_endsInDraw hsized hreturns hkeys (fun _ => not_mem_others) hlacks
    have hspans := ((findRecipients_endsInDraw hfinding hdraw).spans hbounds hgives
      (hpayee.least_le hlacks)).congr isAccountTransfer_iff
    rw [← hsize] at hspans
    obtain ⟨transfer, rfl⟩ := hspans.outcome hbounds hrun
    refine ⟨⟨?_, fun h => absurd h.1 hlacks⟩, ⟨?_, fun h => absurd (.inl h.1) hlacks⟩,
      fun h => absurd h hlacks, fun _ => ?_⟩
    · rintro ⟨_, ⟨⟩⟩
    · rintro ⟨⟩
    · exact ⟨recipient, least, hpayee.mono (List.suffix_append _ _).isInfix, hspans⟩

/-- A sender with enough for any transfer sends some amount, of all that it can spare, to the other
account of a rehearsal. -/
theorem sizeTransfer_fromAccount_rehearsed :
    let balances : String → Option Int := fun address => if address = "b" then some 50 else some 100
    let start := State.holding [("a", 100), ("b", 50)]
    let run := (sizeTransfer (plainSettings .account) ⟨"a", 100, none⟩).run (answer .plain) start
    (∀ e ∈ run.events, e.shows ["a", "b"] balances = true) ∧
      (∀ fault, run.outcome ≠ .failed (.keyPair fault)) ∧
      ∃ recipient least,
        Payee (plainSettings .account) 100 ⟨["b"], []⟩ run.events recipient least ∧
        (answer .plain).Spans (sizeTransfer (plainSettings .account) ⟨"a", 100, none⟩) start
          (IsAccountTransfer (plainSettings .account) "a" recipient least
            (100 - (plainSettings .account).minimumBalance)) := by
  intro balances start run
  have hshown : ∀ e ∈ run.events, e.shows ["a", "b"] balances = true := by decide +kernel
  have hdone : run.outcome.any (fun _ => true) = true := by decide +kernel
  obtain ⟨transfer, hrun, -⟩ := Run.exists_of_any hdone
  have hkeys : ∀ fault, run.outcome ≠ .failed (.keyPair fault) := by
    simp [congrArg Run.outcome hrun]
  obtain ⟨-, -, -, hsent⟩ := sizeTransfer_fromAccount (answer .plain) (answer_respectsBounds .plain)
    (plainSettings .account) rfl ⟨"a", 100, none⟩ ["a", "b"] balances start run.state run.events
    (.done transfer) hrun hshown nofun
  have hfound : recipientsOf (plainSettings .account) "a" ["a", "b"] balances = ⟨["b"], []⟩ := by
    decide +kernel
  rw [hfound] at hsent
  exact ⟨hshown, hkeys, hsent (by simp [LacksFunds, plainSettings])⟩

/-- Where the minimum has as many digits as can be written and one more is needed with the fee, a
balance that is too low is not reported as a shortage. -/
theorem sizeTransfer_fromAccount_overlong :
    let settings := { plainSettings .account with minimumBalance := 10 ^ Numeral.maxDigits - 1 }
    let run := (sizeTransfer settings ⟨"a", 1, none⟩).run (answer .plain) (State.holding [("a", 1)])
    (1 : Int) < settings.minimumBalance + settings.maximumFee ∧
      (∀ e ∈ run.events, e.shows ["a"] (fun _ => some 1) = true) ∧
      ¬∃ s, run.outcome = .failed (.shortage s) := by
  intro settings run
  have houtcome : run.outcome = .failed .overlongNumber := by decide +kernel
  exact ⟨by decide +kernel, by decide +kernel, by simp [houtcome]⟩

end Drive

end TransferDrill

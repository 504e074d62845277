import TransferDrill.Proofs.Drive.Making

/-!
# Whom a transfer pays

Every output of a transfer goes to an address that was picked: one of the addresses listed when the
transfer was sized, other than the sender, or one that was made for it. Change is picked among what
is left of those addresses when the recipient has been picked.
-/

namespace TransferDrill.Drive

variable {settings : Settings}

/-! ## Picks -/

/-- An address was picked among candidates along some events, or made in them last. -/
inductive Picked (settings : Settings) (candidates : List String) : List Event → Pick → Prop
  | reused {address : String} {events : List Event} (h : address ∈ candidates) :
      Picked settings candidates events ⟨address, false⟩
  | created (asked : List Event) {m : Making} {text : String}
      (hdraw : Draws settings.curve m.draw (.ok m.pair)) :
      Picked settings candidates (asked ++ m.events settings ++ [⟨.log .info text, ()⟩])
        ⟨m.address, true⟩

/-- What was picked among candidates was picked among more of them. -/
theorem Picked.mono {candidates wider : List String} {events : List Event} {pick : Pick}
    (h : Picked settings candidates events pick) (hsub : ∀ a ∈ candidates, a ∈ wider) :
    Picked settings wider events pick := by
  cases h with
  | reused hmem => exact .reused (hsub _ hmem)
  | created asked hdraw => exact .created asked hdraw

/-- What happens before an address is picked does not matter. -/
theorem Picked.after {candidates : List String} {events : List Event} {pick : Pick}
    (h : Picked settings candidates events pick) (earlier : List Event) :
    Picked settings candidates (earlier ++ events) pick := by
  cases h with
  | reused hmem => exact .reused hmem
  | created asked hdraw =>
    rw [← List.append_assoc, ← List.append_assoc]
    exact .created (earlier ++ asked) hdraw

/-- A pick is the first candidate, or an address that is made last. -/
theorem pickAddress_leads_done {candidates : List String} {events : List Event} {pick : Pick}
    (h : (pickAddress settings candidates).Leads events (.done pick)) :
    Picked settings candidates events pick := by
  have hmade {events : List Event}
      (h : ((newAddress settings).bind fun address => .done ⟨address, true⟩).Leads events
        (.done pick)) : Picked settings candidates events pick := by
    obtain ⟨address, made, last, hmade, hlast, rfl⟩ := Script.leads_bind_done_iff.mp h
    obtain ⟨rfl, hpick⟩ := Script.leads_done_iff.mp hlast
    cases hpick
    rcases newAddress_leads hmade with ⟨m, text, hdraw, rfl, ⟨⟩⟩ | ⟨_, -, ⟨⟩⟩ | ⟨-, _, ⟨⟩⟩
    rw [List.append_nil]
    exact .created [] hdraw
  rw [pickAddress] at h
  simp only [Script.bind_eq, Script.pure_eq, Script.call] at h
  obtain ⟨available, later, rfl, hlater⟩ := Script.leads_attempt_bind_iff.mp h
  cases candidates with
  | nil => exact (hmade hlater).after [_]
  | cons first rest =>
    obtain ⟨draw, last, rfl, hlast⟩ := Script.leads_request_bind_iff.mp hlater
    split at hlast
    · exact (hmade hlast).after [_, _]
    · obtain ⟨rfl, hpick⟩ := Script.leads_done_iff.mp hlast
      cases hpick
      exact .reused List.mem_cons_self

/-! ## Outputs -/

/-- The recipient of a transfer was picked among candidates and, where there is change, the change
address was picked after it, among what was left of them. -/
inductive Pays (settings : Settings) (candidates : List String) : List Event → Context → Prop
  | recipient (earlier : List Event) {picking later : List Event} {pick : Pick} {context : Context}
      (hpick : Picked settings candidates picking pick)
      (hrecipient : context.recipient = pick.address) (hchange : context.hasChange = false) :
      Pays settings candidates (earlier ++ picking ++ later) context
  | change (earlier : List Event) {picking changing later : List Event} {pick change : Pick}
      {context : Context} (hpick : Picked settings candidates picking pick)
      (hrecipient : context.recipient = pick.address)
      (hleft : Picked settings
        (if pick.created then candidates else candidates.filter (· != pick.address))
        changing change)
      (hchange : context.changeAddress = change.address) :
      Pays settings candidates (earlier ++ picking ++ changing ++ later) context

/-- What is left of the candidates after a pick was among them. -/
theorem mem_of_mem_left {candidates : List String} {pick : Pick} {a : String}
    (h : a ∈ if pick.created then candidates else candidates.filter (· != pick.address)) :
    a ∈ candidates := by
  split at h
  · exact h
  · exact (List.mem_filter.mp h).1

/-- What happens before does not matter, nor do further candidates. -/
theorem Pays.mono {candidates wider : List String} {events : List Event} {context : Context}
    (h : Pays settings candidates events context) (hsub : ∀ a ∈ candidates, a ∈ wider)
    (earlier : List Event) : Pays settings wider (earlier ++ events) context := by
  cases h with
  | recipient before hpick hrecipient hchange =>
    rw [← List.append_assoc, ← List.append_assoc]
    exact .recipient (earlier ++ before) (hpick.mono hsub) hrecipient hchange
  | change before hpick hrecipient hleft hchange =>
    rw [← List.append_assoc, ← List.append_assoc, ← List.append_assoc]
    refine .change (earlier ++ before) (hpick.mono hsub) hrecipient (hleft.mono ?_) hchange
    intro a ha
    split at ha
    · next hcreated => simpa [hcreated] using hsub a ha
    · next hreused =>
      obtain ⟨hmem, hne⟩ := List.mem_filter.mp ha
      simpa [hreused] using ⟨hsub a hmem, by simpa using hne⟩

/-- A transfer between accounts has no change. -/
theorem accountTransfer_hasChange (sender recipient : String) (value : Int) :
    (accountTransfer settings sender recipient value).context.hasChange = false := by
  simp [accountTransfer, Context.hasChange]

/-- A transfer of a whole coin to one output has no change. -/
theorem fullTransfer_hasChange (sender : String) (coinValue : Int) (coin : Option CoinIdentifier)
    (recipient : String) (value : Int) :
    (fullTransfer settings sender coinValue coin recipient value).context.hasChange = false := by
  simp [fullTransfer, Context.hasChange]

/-- A transfer between accounts pays a recipient that was picked, funded ones first. -/
theorem sizeAccount_pays {sender : String} {balance : Int} {recipients : Recipients}
    {events : List Event} {transfer : Transfer}
    (h : (sizeAccount settings sender balance recipients).Leads events (.done transfer)) :
    Pays settings (recipients.funded ++ recipients.others) events transfer.context := by
  rw [sizeAccount] at h
  simp only [Script.bind_eq, Script.pure_eq] at h
  split at h
  · obtain ⟨pick, picking, later, hpick, hlater, rfl⟩ := Script.leads_bind_done_iff.mp h
    obtain ⟨value, drawn, last, -, hlast, rfl⟩ := Script.leads_bind_done_iff.mp hlater
    obtain ⟨rfl, htransfer⟩ := Script.leads_done_iff.mp hlast
    cases htransfer
    exact .recipient [] (pickAddress_leads_done hpick) rfl (accountTransfer_hasChange ..)
  · split at h
    · split at h
      · simp at h
      · next recipient rest hfunded =>
        obtain ⟨value, drawn, last, -, hlast, rfl⟩ := Script.leads_bind_done_iff.mp h
        obtain ⟨rfl, htransfer⟩ := Script.leads_done_iff.mp hlast
        cases htransfer
        have hmem : recipient ∈ recipients.funded ++ recipients.others := by simp [hfunded]
        exact .recipient [] (.reused hmem) rfl (accountTransfer_hasChange ..)
    · simp at h

/-- A transfer of a coin pays a recipient and perhaps change that were picked. -/
theorem sizeCoin_pays {sender : String} {coinValue : Int} {candidates : List String}
    {coin : Option CoinIdentifier} {events : List Event} {transfer : Transfer}
    (h : (sizeCoin settings sender coinValue candidates coin).Leads events (.done transfer)) :
    Pays settings candidates events transfer.context := by
  rw [sizeCoin] at h
  simp only [Script.bind_eq, Script.pure_eq] at h
  split at h
  · simp at h
  · obtain ⟨pick, picking, later, hpick, hlater, rfl⟩ := Script.leads_bind_done_iff.mp h
    split at hlater
    · obtain ⟨change, changing, last, hchange, hlast, rfl⟩ := Script.leads_bind_done_iff.mp hlater
      obtain ⟨share, drawn, rest, -, hrest, rfl⟩ := Script.leads_bind_done_iff.mp hlast
      obtain ⟨rfl, htransfer⟩ := Script.leads_done_iff.mp hrest
      cases htransfer
      rw [← List.append_assoc]
      exact .change [] (pickAddress_leads_done hpick) rfl (pickAddress_leads_done hchange) rfl
    · obtain ⟨value, drawn, rest, -, hrest, rfl⟩ := Script.leads_bind_done_iff.mp hlater
      obtain ⟨rfl, htransfer⟩ := Script.leads_done_iff.mp hrest
      cases htransfer
      exact .recipient [] (pickAddress_leads_done hpick) rfl (fullTransfer_hasChange ..)

/-- Dividing addresses keeps all of them. -/
theorem divide_leads_perm {addresses : List String} {events : List Event} {recipients : Recipients}
    (h : (divide settings addresses).Leads events (.done recipients)) :
    (recipients.funded ++ recipients.others).Perm addresses := by
  induction addresses generalizing events recipients with
  | nil =>
    obtain ⟨-, hnone⟩ := Script.leads_done_iff.mp h
    cases hnone
    exact .nil
  | cons address rest ih =>
    rw [divide] at h
    simp only [Script.bind_eq, Script.pure_eq] at h
    obtain ⟨held, looked, later, -, hlater, rfl⟩ := Script.leads_bind_done_iff.mp h
    obtain ⟨others, divided, last, hdivided, hlast, rfl⟩ := Script.leads_bind_done_iff.mp hlater
    have hrest := ih hdivided
    split at hlast
    · obtain ⟨-, hrecipients⟩ := Script.leads_done_iff.mp hlast
      cases hrecipients
      exact hrest.cons address
    · obtain ⟨-, hrecipients⟩ := Script.leads_done_iff.mp hlast
      cases hrecipients
      exact List.perm_middle.trans (hrest.cons address)

/-- A transfer pays addresses that are listed when it is sized, other than the sender, or made for
it. -/
theorem sizeTransfer_pays {sender : Sender} {events : List Event} {transfer : Transfer}
    (h : (sizeTransfer settings sender).Leads events (.done transfer)) :
    ∃ addresses later, events = ⟨.call .allAddresses, .ok addresses⟩ :: later ∧
      Pays settings (addresses.filter (· != sender.address)) later transfer.context := by
  rw [sizeTransfer, findRecipients] at h
  simp only [Script.bind_eq, Script.pure_eq, Script.call, Script.bind_assoc] at h
  obtain ⟨addresses, later, rfl, hlater⟩ := Script.leads_attempt_bind_iff.mp h
  refine ⟨addresses, later, rfl, ?_⟩
  cases haccounting : settings.accounting with
  | utxo =>
    simp only [haccounting, Script.done_bind] at hlater
    exact sizeCoin_pays hlater
  | account =>
    simp only [haccounting] at hlater
    obtain ⟨recipients, divided, sized, hdivided, hsized, rfl⟩ :=
      Script.leads_bind_done_iff.mp hlater
    have hperm := divide_leads_perm hdivided
    exact (sizeAccount_pays hsized).mono (fun _ ha => hperm.subset ha) divided

end TransferDrill.Drive

import TransferDrill.Proofs.Drive.FirstFault
import TransferDrill.Proofs.Drive.Requests

/-!
# When sizing runs short

A transfer runs short before its recipient is picked or not at all, and then the sender holds less
than every kind of transfer can be made with.
-/

namespace TransferDrill.Drive

variable {settings : Settings}

/-- Making a key pair never runs short. -/
theorem newKeyPair_notShort (curve : Curve) : (newKeyPair curve).FailsOnly NotShort := by
  unfold newKeyPair
  cases curve with
  | secp256k1 => exact fun _ => .ofExcept fun _ => nofun
  | edwards25519 => exact fun _ => trivial
  | _ => exact nofun

/-- Making an address never runs short. -/
theorem newAddress_notShort : (newAddress settings).FailsOnly NotShort := by
  refine .bind (newKeyPair_notShort _) fun pair => ?_
  refine .bind (.attempt (fun _ => nofun) fun _ => nofun) fun address => ?_
  refine .bind (.attempt (fun _ => nofun) fun _ => nofun) fun _ => ?_
  refine .bind (.attempt (fun _ => nofun) fun _ => nofun) fun _ => ?_
  exact fun _ => trivial

/-- Picking an address never runs short. -/
theorem pickAddress_notShort (candidates : List String) :
    (pickAddress settings candidates).FailsOnly NotShort := by
  refine .bind (.attempt (fun _ => nofun) fun _ => nofun) fun available => ?_
  have hnew : ((newAddress settings).bind fun address => .done (⟨address, true⟩ : Pick)).FailsOnly
      NotShort := .bind newAddress_notShort fun _ => trivial
  cases candidates with
  | nil => exact hnew
  | cons first rest =>
    intro draw
    dsimp only [Script.bind_eq, Script.done_bind]
    split
    · exact hnew
    · trivial

/-- Drawing an amount never runs short. -/
theorem drawAmount_notShort (low high : Int) : (drawAmount low high).FailsOnly NotShort := by
  unfold drawAmount
  split
  · exact nofun
  · exact fun _ => trivial

/-- A transfer between accounts runs short at once, of a balance below the goal. -/
theorem sizeAccount_leads_shortage {sender : String} {balance : Int} {recipients : Recipients}
    {events : List Event} {s : Shortage}
    (h : (sizeAccount settings sender balance recipients).Leads events (.failed (.shortage s))) :
    events = [] ∧ balance < 2 * settings.minimumBalance + settings.maximumFee := by
  have hdrawn (low high : Int) (recipient : String) :
      ((drawAmount low high).bind fun value =>
        .done (accountTransfer settings sender recipient value)).FailsOnly NotShort :=
    .bind (drawAmount_notShort low high) fun _ => trivial
  rw [sizeAccount] at h
  simp only [Script.bind_eq, Script.pure_eq] at h
  split at h
  · have hnever : NotShort (.shortage s) :=
      Script.FailsOnly.of_leads (.bind (pickAddress_notShort _) fun pick => hdrawn _ _ _) h
    exact absurd rfl (hnever s)
  · next hless =>
    have hbelow : balance < 2 * settings.minimumBalance + settings.maximumFee := by
      simpa [Settings.requiredBalance] using hless
    split at h
    · split at h
      · exact ⟨(Script.leads_failed_iff.mp h).1, hbelow⟩
      · exact absurd rfl ((hdrawn _ _ _).of_leads h s)
    · exact ⟨(Script.leads_failed_iff.mp h).1, hbelow⟩

/-- A transfer of a coin runs short at once, of a value below the goal. -/
theorem sizeCoin_leads_shortage {sender : String} {coinValue : Int} {candidates : List String}
    {coin : Option CoinIdentifier} {events : List Event} {s : Shortage}
    (h : (sizeCoin settings sender coinValue candidates coin).Leads events
      (.failed (.shortage s))) :
    events = [] ∧ coinValue < 2 * settings.minimumBalance + settings.maximumFee := by
  rw [sizeCoin] at h
  simp only [Script.bind_eq, Script.pure_eq] at h
  split at h
  · next hless =>
    refine ⟨(Script.leads_failed_iff.mp h).1, ?_⟩
    simp only [Settings.requiredBalance] at hless
    omega
  · have hnever : NotShort (.shortage s) := by
      refine Script.FailsOnly.of_leads (.bind (pickAddress_notShort candidates) fun pick => ?_) h
      split
      · refine .bind (pickAddress_notShort _) fun change => ?_
        exact .bind (drawAmount_notShort _ _) fun _ => trivial
      · exact .bind (drawAmount_notShort _ _) fun _ => trivial
    exact absurd rfl (hnever s)

/-- A transfer runs short when nothing but holdings was read, of a balance below the goal. -/
theorem sizeTransfer_short {sender : Sender} {events : List Event} {s : Shortage}
    (h : (sizeTransfer settings sender).Leads events (.failed (.shortage s))) :
    (∀ e ∈ events, e.request.ReadsHoldings) ∧
      sender.balance < 2 * settings.minimumBalance + settings.maximumFee := by
  obtain ⟨recipients, found, sized, rfl, hfound, hsized⟩ := sizeTransfer_leads_shortage h
  have hshort : sized = [] ∧
      sender.balance < 2 * settings.minimumBalance + settings.maximumFee := by
    rw [sizeFor] at hsized
    split at hsized
    · exact sizeCoin_leads_shortage hsized
    · exact sizeAccount_leads_shortage hsized
  obtain ⟨rfl, hbelow⟩ := hshort
  rw [List.append_nil]
  exact ⟨(findRecipients_readsHoldings sender.address).of_leads hfound, hbelow⟩

end TransferDrill.Drive

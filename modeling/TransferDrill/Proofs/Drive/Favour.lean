import TransferDrill.Proofs.Drive.Contract
import TransferDrill.Proofs.Drive.Sender

/-!
# Finding a sender in a favourable world

The world favours an address with a balance if reads do not fail, the address is listed and not
locked, and no less is reported for it. The sender need not be that address, but it holds no less,
and it is found in one selection.
-/

namespace TransferDrill

/-- What happens favours an address with a balance: reads do not fail, they list the address among
others that are not empty, do not list it as locked, and report no less for it. -/
def Event.Favours (address : String) (balance : Int) : Event → Prop
  | ⟨.call .allAddresses, reply⟩ =>
    ∃ addresses, reply = .ok addresses ∧ address ∈ addresses ∧ "" ∉ addresses
  | ⟨.call .lockedAddresses, reply⟩ => ∃ locked, reply = .ok locked ∧ address ∉ locked
  | ⟨.call .allBroadcasts, reply⟩ => ∃ broadcasts, reply = .ok broadcasts
  | ⟨.call (.accountBalance account _), reply⟩ => ∃ held, reply = .ok held ∧
    (account.address = address → ∃ reported, held = some reported ∧ balance ≤ reported)
  | ⟨.call (.coinBalance account _), reply⟩ => ∃ held, reply = .ok held ∧
    (account.address = address → ∃ reported, held.balance = some reported ∧ balance ≤ reported)
  | _ => True

namespace Drive

variable {settings : Settings} {address : String} {balance : Int} {past : List Event}

/-- To rely on what happens to favour an address with a balance. -/
def favouring (address : String) (balance : Int) : Contract where
  relies := Event.Favours address balance
  guarantees _ _ := True

/-- In favour of an address, look-ups do not fail and report no less for it. -/
theorem holding_favoured (listed : String) :
    (holding settings listed).Keeps (favouring address balance) (fun outcome _ =>
      ∃ held, outcome = .done held ∧ (listed = address →
        ∃ reported, held.balance = some reported ∧ balance ≤ reported)) past := by
  unfold holding
  cases settings.accounting with
  | utxo =>
    intro reply hreply
    obtain ⟨held, rfl, hheld⟩ := hreply
    exact ⟨trivial, held, rfl, hheld⟩
  | account =>
    intro reply hreply
    obtain ⟨held, rfl, hheld⟩ := hreply
    exact ⟨trivial, ⟨held, none⟩, rfl, hheld⟩

/-- The best sender holds no less than a favoured address that is still to be looked up, and no less
than the best sender so far. -/
theorem bestAmong_favoured {locked addresses : List String} {best : Option Sender}
    (hnames : "" ∉ addresses) (hnamed : ∀ sender, best = some sender → sender.address ≠ "")
    (hthere : (address ∈ addresses ∧ address ∉ locked) ∨
      ∃ sender, best = some sender ∧ balance ≤ sender.balance) :
    (bestAmong settings locked best addresses).Keeps (favouring address balance) (fun outcome _ =>
      ∃ sender, outcome = .done (some sender) ∧ sender.address ≠ "" ∧ balance ≤ sender.balance)
      past := by
  induction addresses generalizing best past with
  | nil =>
    obtain ⟨sender, rfl, hmost⟩ := hthere.resolve_left (by simp)
    exact ⟨sender, rfl, hnamed sender rfl, hmost⟩
  | cons listed rest ih =>
    obtain ⟨hlisted, hrest⟩ : "" ≠ listed ∧ "" ∉ rest := by simpa using hnames
    rw [bestAmong]
    split
    · next hlocked =>
      refine ih hrest hnamed (hthere.imp_left fun h => ⟨?_, h.2⟩)
      refine (List.mem_cons.mp h.1).resolve_left ?_
      rintro rfl
      exact h.2 (by simpa using hlocked)
    · rw [Script.bind_eq, Script.keeps_bind_iff]
      refine (holding_favoured listed).mono ?_
      rintro _ past ⟨held, rfl, hheld⟩
      rw [Script.EndsInto]
      split
      · next hnone =>
        refine ih hrest hnamed (hthere.imp_left fun h => ⟨?_, h.2⟩)
        refine (List.mem_cons.mp h.1).resolve_left ?_
        rintro rfl
        obtain ⟨reported, hreported, -⟩ := hheld rfl
        rw [hnone] at hreported
        cases hreported
      · next found hfound =>
        obtain ⟨hlater, hearlier⟩ := better_most best ⟨listed, found, held.coin⟩
        refine ih hrest ?_ ?_
        · rintro _ ⟨⟩
          rcases better_eq best ⟨listed, found, held.coin⟩ with hbest | hbetter
          · exact hnamed _ hbest
          · rw [hbetter]
            exact hlisted.symm
        · rcases hthere with ⟨hmem, hunlocked⟩ | ⟨sender, hbest, hmost⟩
          · rcases List.mem_cons.mp hmem with rfl | hmem
            · obtain ⟨reported, hreported, hmost⟩ := hheld rfl
              rw [hfound] at hreported
              cases hreported
              exact .inr ⟨_, rfl, Int.le_trans hmost hlater⟩
            · exact .inl ⟨hmem, hunlocked⟩
          · exact .inr ⟨_, rfl, Int.le_trans hmost (hearlier sender hbest)⟩

/-- In favour of a listed address, there is an unlocked sender that holds no less. -/
theorem bestUnlocked_favoured {addresses : List String} (hlisted : address ∈ addresses)
    (hnames : "" ∉ addresses) :
    (bestUnlocked settings addresses).Keeps (favouring address balance) (fun outcome _ =>
      ∃ sender, outcome = .done (some sender) ∧ balance ≤ sender.balance) past := by
  intro reply hreply
  obtain ⟨locked, rfl, hunlocked⟩ := hreply
  refine ⟨trivial, ?_⟩
  change ((bestAmong settings locked none addresses).bind _).Keeps _ _ _
  rw [Script.keeps_bind_iff]
  refine (bestAmong_favoured hnames (by simp) (.inl ⟨hlisted, hunlocked⟩)).mono ?_
  rintro _ past ⟨sender, rfl, hnamed, hmost⟩
  exact ⟨sender, by simp [Option.filter, hnamed], hmost⟩

/-- A selection in favour of an address finds a sender that holds no less. -/
theorem bestUnlocked_leads_favoured {addresses : List String} {events : List Event}
    {outcome : Outcome (Option Sender)}
    (h : (bestUnlocked settings addresses).Leads events outcome)
    (hfavours : ∀ e ∈ ⟨.call .allAddresses, .ok addresses⟩ :: events, e.Favours address balance) :
    ∃ sender, outcome = .done (some sender) ∧ balance ≤ sender.balance := by
  obtain ⟨⟨_, ⟨⟩, hlisted, hnames⟩, hlater⟩ := List.forall_mem_cons.mp hfavours
  have hkeeps : (bestUnlocked settings addresses).Keeps (favouring address balance)
      (fun outcome _ => ∃ sender, outcome = .done (some sender) ∧ balance ≤ sender.balance) [] :=
    bestUnlocked_favoured hlisted hnames
  exact hkeeps.ends h hlater

/-- A search in favour of an address ends with its first selection, which offers a sender that holds
no less. -/
theorem findSenderFrom_leads_favoured {patience rounds : Nat} {events : List Event}
    {outcome : Outcome Sender}
    (h : (findSenderFrom settings patience (rounds + 1)).Leads events outcome)
    (hfavours : ∀ e ∈ events, e.Favours address balance) :
    ∃ (s : Selection) (sender : Sender), outcome = .done sender ∧ events = s.events settings ∧
      s.Offers sender ∧ balance ≤ sender.balance := by
  rw [findSenderFrom] at h
  obtain ⟨reply, later, rfl, hlater⟩ := Script.leads_ask_iff.mp h
  obtain ⟨⟨addresses, rfl, hlisted, -⟩, -⟩ := List.forall_mem_cons.mp hfavours
  have hsome : ¬addresses.isEmpty = true := by simpa using List.ne_nil_of_mem hlisted
  change (if addresses.isEmpty then _ else (bestUnlocked settings addresses).bind _ :
    Script Sender).Leads later outcome at hlater
  rw [if_neg hsome] at hlater
  rcases Script.leads_bind hlater with ⟨best, tried, rest, hbest, hrest, rfl⟩ | ⟨cut, hcut, hleads⟩
  · have htried : ∀ e ∈ ⟨.call .allAddresses, .ok addresses⟩ :: tried, e.Favours address balance :=
      fun e he => hfavours e (by rw [← List.cons_append]; exact List.mem_append_left _ he)
    obtain ⟨sender, hfound, hmost⟩ := bestUnlocked_leads_favoured hbest htried
    cases hfound
    obtain ⟨rfl, rfl⟩ := Script.leads_done_iff.mp hrest
    obtain ⟨s, hs, hoffers⟩ := bestUnlocked_leads_done hbest
    exact ⟨s, sender, rfl, by rw [List.append_nil]; exact hs, hoffers, hmost⟩
  · obtain ⟨sender, rfl, -⟩ := bestUnlocked_leads_favoured hleads hfavours
    cases hcut

end Drive

end TransferDrill

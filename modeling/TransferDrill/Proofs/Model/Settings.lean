import TransferDrill.Proofs.Model.Lawful
import TransferDrill.Model.Settings

/-!
# Settings restored

Settings are read member by member and then checked as a whole, which nothing but the template for
change can fail. What is read is what a drill can be run with; the numbers may be spelled in many
ways, but none of them leads out of the bounds, and none is left that is not a number.
-/

namespace TransferDrill

open Schema Schema.Reading

/-- Settings with which a drill can be run. -/
structure Settings.Valid (s : Settings) : Prop where
  blockchain : s.network.blockchain ≠ ""
  network : s.network.network ≠ ""
  symbol : s.currency.symbol ≠ ""
  newAddressProbability : IsProbability s.newAddressProbability
  maxAddresses : 1 ≤ s.maxAddresses
  templates_ne_nil : s.templates ≠ []
  templates : ∀ template ∈ s.templates, Described.Valid template
  changeTemplate : ∀ template ∈ s.changeTemplate, Described.Valid template
  accounting : s.changeTemplate.isSome → s.accounting = .utxo
  sleepTime : IsPositive s.sleepTime

/-- What the check of the settings as a whole lets pass is unchanged. -/
theorem Settings.checkChange_eq_accepted_iff {s t : Settings} :
    s.checkChange = accepted t ↔ s = t ∧ (s.changeTemplate.isSome → s.accounting = .utxo) := by
  rw [checkChange]
  split
  · next h => simp [refuse, h.1, h.2]
  · next h =>
    rw [accepted.injEq, and_iff_left (by simpa using h)]

/-- The probability that is taken when none is given is a probability. -/
theorem isProbability_default : IsProbability (.ofDecimal false 5 (-1)) :=
  isProbability_iff.mpr (by decide +kernel)

/-- The time to sleep that is taken when none is given is positive. -/
theorem isPositive_default : IsPositive (.ofInt 10) := isPositive_iff.mpr (by decide +kernel)

instance : Described Settings where
  Valid := Settings.Valid
  freeForm a := Described.freeForm a.network ++ Described.freeForm a.currency
    ++ a.templates.flatMap Described.freeForm ++ a.changeTemplate.toList.flatMap Described.freeForm

/-- The members from which settings are read, one by one. -/
structure Settings.ReadFrom (members : Json.Members) (s : Settings) : Prop where
  network : required "network" Record.read members = accepted s.network
  accounting : defaulted "accounting_model" .account Choice.read members = accepted s.accounting
  currency : required "currency" Record.read members = accepted s.currency
  minimumBalance : defaulted "minimum_balance" 0 (natural 0) members = accepted s.minimumBalance
  maximumFee : defaulted "maximum_fee" 0 (natural 0) members = accepted s.maximumFee
  curve : defaulted "curve_type" .secp256k1 Choice.read members = accepted s.curve
  newAddressProbability :
    defaulted "new_account_probability" (.ofDecimal false 5 (-1)) probability members =
      accepted s.newAddressProbability
  maxAddresses : defaulted "max_addresses" 200 (natural 1) members = accepted s.maxAddresses
  templates : required "scenario" (nonEmptyList Record.read) members = accepted s.templates
  changeTemplate : optional "change_scenario" Record.read members = accepted s.changeTemplate
  sleepTime : defaulted "sleep_time" (.ofInt 10) positive members = accepted s.sleepTime

/-- Settings are read from their members, and then checked as a whole. -/
theorem Settings.ofMembers_eq_accepted_iff {members : Json.Members} {s : Settings} :
    Record.ofMembers members = accepted s ↔
      s.ReadFrom members ∧ (s.changeTemplate.isSome → s.accounting = .utxo) := by
  change andThen (Settings.mk <$> _ <*> _ <*> _ <*> _ <*> _ <*> _ <*> _ <*> _ <*> _ <*> _ <*> _)
    checkChange = accepted s ↔ _
  simp only [andThen_eq_accepted_iff, checkChange_eq_accepted_iff]
  constructor
  · rintro ⟨_, h, rfl, haccounting⟩
    simp only [apply_eq_accepted_iff, map_eq_accepted_iff] at h
    obtain ⟨_, _, ⟨_, _, ⟨_, _, ⟨_, _, ⟨_, _, ⟨_, _, ⟨_, _, ⟨_, _, ⟨_, _, ⟨_, _, ⟨_, hnetwork, rfl⟩,
      haccount, rfl⟩, hcurrency, rfl⟩, hminimum, rfl⟩, hfee, rfl⟩, hcurve, rfl⟩, hprobability, rfl⟩,
      haddresses, rfl⟩, htemplates, rfl⟩, hchange, rfl⟩, hsleep, rfl⟩ := h
    exact ⟨⟨hnetwork, haccount, hcurrency, hminimum, hfee, hcurve, hprobability, haddresses,
      htemplates, hchange, hsleep⟩, haccounting⟩
  · rintro ⟨h, haccounting⟩
    refine ⟨s, ?_, rfl, haccounting⟩
    rw [h.network, h.accounting, h.currency, h.minimumBalance, h.maximumFee, h.curve,
      h.newAddressProbability, h.maxAddresses, h.templates, h.changeTemplate, h.sleepTime]
    rfl

/-- Settings are read from members in which each of theirs is found. -/
theorem Settings.readFrom_toMembers (keepAbsent : Bool) {s : Settings} (h : s.Valid) :
    s.ReadFrom (Record.toMembers keepAbsent s) where
  network := (restores_record NetworkIdentifier keepAbsent).required_back _
    ⟨h.blockchain, h.network⟩ (by simp [Record.toMembers])
  accounting := (restores_choice AccountingModel.ofLabel?_label).defaulted_back _ trivial
    (by simp [Record.toMembers])
  currency := (restores_record Currency keepAbsent).required_back _ h.symbol
    (by simp [Record.toMembers])
  minimumBalance := (restores_natural 0).defaulted_back _ (Nat.zero_le _)
    (by simp [Record.toMembers])
  maximumFee := (restores_natural 0).defaulted_back _ (Nat.zero_le _) (by simp [Record.toMembers])
  curve := (restores_choice Curve.ofLabel?_label).defaulted_back _ trivial
    (by simp [Record.toMembers])
  newAddressProbability := restores_probability.defaulted_back _ h.newAddressProbability
    (by simp [Record.toMembers])
  maxAddresses := (restores_natural 1).defaulted_back _ h.maxAddresses (by simp [Record.toMembers])
  templates := (restores_record Operation keepAbsent).nonEmptyList.required_back _
    ⟨h.templates_ne_nil, h.templates⟩ (by simp [Record.toMembers])
  changeTemplate := (restores_record Operation keepAbsent).optional_back Record.dump_ne_null _
    keepAbsent h.changeTemplate (by simp [Record.toMembers])
  sleepTime := restores_positive.defaulted_back _ h.sleepTime
    (by simp [Record.toMembers])

instance : LawfulRecord Settings where
  valid := by
    intro members a h
    obtain ⟨h, haccounting⟩ := Settings.ofMembers_eq_accepted_iff.mp h
    have hnetwork := (restores_record NetworkIdentifier true).required_valid h.network
    have htemplates := (restores_record Operation true).nonEmptyList.required_valid h.templates
    exact {
      blockchain := hnetwork.1
      network := hnetwork.2
      symbol := (restores_record Currency true).required_valid h.currency
      newAddressProbability :=
        restores_probability.defaulted_valid isProbability_default h.newAddressProbability
      maxAddresses := (restores_natural 1).defaulted_valid (by decide) h.maxAddresses
      templates_ne_nil := htemplates.1
      templates := htemplates.2
      changeTemplate := (restores_record Operation true).optional_valid h.changeTemplate
      accounting := haccounting
      sleepTime := restores_positive.defaulted_valid isPositive_default h.sleepTime }
  back keepAbsent _ h :=
    Settings.ofMembers_eq_accepted_iff.mpr ⟨Settings.readFrom_toMembers keepAbsent h, h.accounting⟩
  portable_valid := by
    intro a h
    exact { h with
      templates_ne_nil := by simpa [Record.portable] using h.templates_ne_nil
      templates := by
        intro template htemplate
        obtain ⟨original, horiginal, rfl⟩ := List.mem_map.mp htemplate
        exact LawfulRecord.portable_valid (h.templates original horiginal)
      changeTemplate := by
        intro template htemplate
        obtain ⟨original, horiginal, rfl⟩ := Option.mem_map.mp htemplate
        exact LawfulRecord.portable_valid (h.changeTemplate original horiginal)
      accounting := by simpa [Record.portable] using h.accounting }
  portable_eq_self_iff := by
    rintro ⟨network, accounting, currency, minimumBalance, maximumFee, curve, newAddressProbability,
      maxAddresses, templates, changeTemplate, sleepTime⟩
    change Settings.mk (Record.portable network) _ (Record.portable currency) _ _ _ _ _
      (templates.map _) (changeTemplate.map _) _ = _ ↔
      ∀ members ∈ Described.freeForm network ++ Described.freeForm currency
        ++ templates.flatMap _ ++ changeTemplate.toList.flatMap _, _
    simp only [Settings.mk.injEq, LawfulRecord.portable_eq_self_iff, portableParts_eq_self_iff,
      portablePart_eq_self_iff, List.forall_mem_append, true_and, and_true, and_assoc]

end TransferDrill

import TransferDrill.Proofs.Schema.Retraction
import TransferDrill.Model.Operation
import TransferDrill.Model.Signing

/-!
# The records restored

For each record of the drill: which of its values are valid, where it holds free-form data, and that
it is lawful. Names of networks and transactions and symbols of currencies must not be empty, and a
record is as valid as the records in it; nothing else is asked of a value.
-/

namespace TransferDrill

open Schema Schema.Reading

/-! ## Kinds -/

/-- Each value of a kind is found by its label. -/
theorem AccountingModel.ofLabel?_label (a : AccountingModel) :
    Choice.ofLabel? (Choice.label a) = some a := by
  cases a <;> rfl

/-- A curve is read from its label. -/
theorem Curve.ofLabel?_label (a : Curve) : Choice.ofLabel? (Choice.label a) = some a := by
  cases a <;> rfl

/-- A scheme is read from its label. -/
theorem SignatureScheme.ofLabel?_label (a : SignatureScheme) :
    Choice.ofLabel? (Choice.label a) = some a := by
  cases a <;> rfl

/-- An action on a coin is read from its label. -/
theorem CoinAction.ofLabel?_label (a : CoinAction) :
    Choice.ofLabel? (Choice.label a) = some a := by
  cases a <;> rfl

/-! ## Chains, accounts and amounts -/

instance : Described NetworkIdentifier where
  Valid a := a.blockchain ≠ "" ∧ a.network ≠ ""
  freeForm a := a.subNetwork.toList

instance : LawfulRecord NetworkIdentifier where
  valid := by
    intro members a h
    change NetworkIdentifier.mk <$> _ <*> _ <*> _ = accepted a at h
    simp only [apply_eq_accepted_iff, map_eq_accepted_iff] at h
    obtain ⟨_, _, ⟨_, _, ⟨_, hblockchain, rfl⟩, hnetwork, rfl⟩, _, rfl⟩ := h
    exact ⟨restores_nonEmptyString.required_valid hblockchain,
      restores_nonEmptyString.required_valid hnetwork⟩
  back := by
    intro keepAbsent a h
    change NetworkIdentifier.mk <$> _ <*> _ <*> _ = accepted a
    rw [restores_nonEmptyString.required_back a.blockchain h.1,
      restores_nonEmptyString.required_back a.network h.2,
      restores_members.optional_back nofun a.subNetwork keepAbsent fun _ _ => trivial]
    · rfl
    all_goals simp [Record.toMembers]
  portable_valid := id
  portable_eq_self_iff := by
    rintro ⟨blockchain, network, subNetwork⟩
    change NetworkIdentifier.mk _ _ (subNetwork.map _) = _ ↔ ∀ members ∈ subNetwork.toList, _
    simp only [NetworkIdentifier.mk.injEq, portableData_eq_self_iff, true_and]

instance : Described Currency where
  Valid a := a.symbol ≠ ""
  freeForm a := a.metadata.toList

instance : LawfulRecord Currency where
  valid := by
    intro members a h
    change Currency.mk <$> _ <*> _ <*> _ = accepted a at h
    simp only [apply_eq_accepted_iff, map_eq_accepted_iff] at h
    obtain ⟨_, _, ⟨_, _, ⟨_, hsymbol, rfl⟩, _, rfl⟩, _, rfl⟩ := h
    exact restores_nonEmptyString.required_valid hsymbol
  back := by
    intro keepAbsent a h
    change Currency.mk <$> _ <*> _ <*> _ = accepted a
    rw [restores_nonEmptyString.required_back a.symbol h,
      (restores_natural 0).required_back a.decimals (Nat.zero_le _),
      restores_members.optional_back nofun a.metadata keepAbsent fun _ _ => trivial]
    · rfl
    all_goals simp [Record.toMembers]
  portable_valid := id
  portable_eq_self_iff := by
    rintro ⟨symbol, decimals, metadata⟩
    change Currency.mk _ _ (metadata.map _) = _ ↔ ∀ members ∈ metadata.toList, _
    simp only [Currency.mk.injEq, portableData_eq_self_iff, true_and]

instance : Described AccountIdentifier where
  freeForm a := a.subAccount.toList ++ a.metadata.toList

instance : LawfulRecord AccountIdentifier where
  valid _ := trivial
  back := by
    intro keepAbsent a _
    change AccountIdentifier.mk <$> _ <*> _ <*> _ = accepted a
    rw [restores_string.required_back a.address trivial,
      restores_members.optional_back nofun a.subAccount keepAbsent fun _ _ => trivial,
      restores_members.optional_back nofun a.metadata keepAbsent fun _ _ => trivial]
    · rfl
    all_goals simp [Record.toMembers]
  portable_valid := id
  portable_eq_self_iff := by
    rintro ⟨address, subAccount, metadata⟩
    change AccountIdentifier.mk _ (subAccount.map _) (metadata.map _) = _ ↔
      ∀ members ∈ subAccount.toList ++ metadata.toList, _
    simp only [AccountIdentifier.mk.injEq, portableData_eq_self_iff, List.forall_mem_append,
      true_and]

instance : Described Amount where
  Valid a := Described.Valid a.currency
  freeForm a := Described.freeForm a.currency ++ a.metadata.toList

instance : LawfulRecord Amount where
  valid := by
    intro members a h
    change Amount.mk <$> _ <*> _ <*> _ = accepted a at h
    simp only [apply_eq_accepted_iff, map_eq_accepted_iff] at h
    obtain ⟨_, _, ⟨_, _, ⟨_, _, rfl⟩, hcurrency, rfl⟩, _, rfl⟩ := h
    exact (restores_record Currency true).required_valid hcurrency
  back := by
    intro keepAbsent a h
    change Amount.mk <$> _ <*> _ <*> _ = accepted a
    rw [restores_string.required_back a.value trivial,
      (restores_record Currency keepAbsent).required_back a.currency h,
      restores_members.optional_back nofun a.metadata keepAbsent fun _ _ => trivial]
    · rfl
    all_goals simp [Record.toMembers]
  portable_valid h := LawfulRecord.portable_valid (α := Currency) h
  portable_eq_self_iff := by
    rintro ⟨value, currency, metadata⟩
    change Amount.mk _ (Record.portable currency) (metadata.map _) = _ ↔
      ∀ members ∈ Described.freeForm currency ++ metadata.toList, _
    simp only [Amount.mk.injEq, LawfulRecord.portable_eq_self_iff, portableData_eq_self_iff,
      List.forall_mem_append, true_and]

instance : Described CoinIdentifier where

instance : LawfulRecord CoinIdentifier where
  valid _ := trivial
  back _ _ _ := rfl
  portable_valid := id
  portable_eq_self_iff := iff_of_true rfl (List.forall_mem_nil _)

instance : Described CoinChange where

instance : LawfulRecord CoinChange where
  valid _ := trivial
  back := by
    intro keepAbsent a _
    change CoinChange.mk <$> _ <*> _ = accepted a
    rw [(restores_record CoinIdentifier keepAbsent).required_back a.coin trivial,
      (restores_choice CoinAction.ofLabel?_label).required_back a.action trivial]
    · rfl
    all_goals simp [Record.toMembers]
  portable_valid := id
  portable_eq_self_iff := iff_of_true rfl (List.forall_mem_nil _)

/-! ## Operations -/

instance : Described OperationIdentifier where

instance : LawfulRecord OperationIdentifier where
  valid _ := trivial
  back := by
    intro keepAbsent a _
    change OperationIdentifier.mk <$> _ <*> _ = accepted a
    rw [(restores_natural 0).required_back a.index (Nat.zero_le _),
      restores_integer.optional_back nofun a.networkIndex keepAbsent fun _ _ => trivial]
    · rfl
    all_goals simp [Record.toMembers]
  portable_valid := id
  portable_eq_self_iff := iff_of_true rfl (List.forall_mem_nil _)

instance : Described Operation where
  Valid a := ∀ amount ∈ a.amount, Described.Valid amount
  freeForm a := a.account.toList.flatMap Described.freeForm
    ++ a.amount.toList.flatMap Described.freeForm ++ a.metadata.toList

instance : LawfulRecord Operation where
  valid := by
    intro members a h
    change Operation.mk <$> _ <*> _ <*> _ <*> _ <*> _ <*> _ <*> _ <*> _ = accepted a at h
    simp only [apply_eq_accepted_iff, map_eq_accepted_iff] at h
    obtain ⟨_, _, ⟨_, _, ⟨_, _, ⟨_, _, ⟨_, _, ⟨_, _, ⟨_, _, ⟨_, _, rfl⟩, _, rfl⟩, _, rfl⟩, _, rfl⟩,
      _, rfl⟩, hamount, rfl⟩, _, rfl⟩, _, rfl⟩ := h
    exact (restores_record Amount true).optional_valid hamount
  back := by
    intro keepAbsent a h
    change Operation.mk <$> _ <*> _ <*> _ <*> _ <*> _ <*> _ <*> _ <*> _ = accepted a
    rw [(restores_record OperationIdentifier keepAbsent).required_back a.identifier trivial,
      (restores_record OperationIdentifier keepAbsent).list.optional_back nofun a.related keepAbsent
        fun _ _ _ _ => trivial,
      restores_string.required_back a.kind trivial,
      restores_string.optional_back nofun a.status keepAbsent fun _ _ => trivial,
      (restores_record AccountIdentifier keepAbsent).optional_back Record.dump_ne_null a.account
        keepAbsent fun _ _ => trivial,
      (restores_record Amount keepAbsent).optional_back Record.dump_ne_null a.amount keepAbsent h,
      (restores_record CoinChange keepAbsent).optional_back Record.dump_ne_null a.coinChange
        keepAbsent fun _ _ => trivial,
      restores_members.optional_back nofun a.metadata keepAbsent fun _ _ => trivial]
    · rfl
    all_goals simp [Record.toMembers]
  portable_valid := by
    intro a h amount hamount
    obtain ⟨original, horiginal, rfl⟩ := Option.mem_map.mp hamount
    exact LawfulRecord.portable_valid (h original horiginal)
  portable_eq_self_iff := by
    rintro ⟨identifier, related, kind, status, account, amount, coinChange, metadata⟩
    change Operation.mk _ _ _ _ (account.map _) (amount.map _) _ (metadata.map _) = _ ↔
      ∀ members ∈ account.toList.flatMap _ ++ amount.toList.flatMap _ ++ metadata.toList, _
    simp only [Operation.mk.injEq, portablePart_eq_self_iff, portableData_eq_self_iff,
      List.forall_mem_append, true_and, and_assoc]

/-! ## Keys, payloads and signatures -/

instance : Described PublicKey where

instance : LawfulRecord PublicKey where
  valid _ := trivial
  back := by
    intro keepAbsent a _
    change PublicKey.mk <$> _ <*> _ = accepted a
    rw [restores_string.required_back a.hexBytes trivial,
      (restores_choice Curve.ofLabel?_label).required_back a.curve trivial]
    · rfl
    all_goals simp [Record.toMembers]
  portable_valid := id
  portable_eq_self_iff := iff_of_true rfl (List.forall_mem_nil _)

instance : Described KeyPair where

instance : LawfulRecord KeyPair where
  valid _ := trivial
  back := by
    intro keepAbsent a _
    change KeyPair.mk <$> _ <*> _ = accepted a
    rw [(restores_record PublicKey keepAbsent).required_back a.publicKey trivial,
      restores_string.required_back a.privateKey trivial]
    · rfl
    all_goals simp [Record.toMembers]
  portable_valid := id
  portable_eq_self_iff := iff_of_true rfl (List.forall_mem_nil _)

instance : Described SigningPayload where
  freeForm a := a.account.toList.flatMap Described.freeForm

instance : LawfulRecord SigningPayload where
  valid _ := trivial
  back := by
    intro keepAbsent a _
    change SigningPayload.mk <$> _ <*> _ <*> _ <*> _ = accepted a
    rw [(restores_record AccountIdentifier keepAbsent).optional_back Record.dump_ne_null a.account
        keepAbsent fun _ _ => trivial,
      restores_string.optional_back nofun a.address keepAbsent fun _ _ => trivial,
      restores_string.required_back a.hexBytes trivial,
      (restores_choice SignatureScheme.ofLabel?_label).optional_back nofun a.scheme keepAbsent
        fun _ _ => trivial]
    · rfl
    all_goals simp [Record.toMembers]
  portable_valid := id
  portable_eq_self_iff := by
    rintro ⟨account, address, hexBytes, scheme⟩
    change SigningPayload.mk (account.map _) _ _ _ = _ ↔ ∀ members ∈ account.toList.flatMap _, _
    simp only [SigningPayload.mk.injEq, portablePart_eq_self_iff, and_true]

instance : Described Signature where
  freeForm a := Described.freeForm a.payload

instance : LawfulRecord Signature where
  valid _ := trivial
  back := by
    intro keepAbsent a _
    change Signature.mk <$> _ <*> _ <*> _ <*> _ = accepted a
    rw [(restores_record SigningPayload keepAbsent).required_back a.payload trivial,
      (restores_record PublicKey keepAbsent).required_back a.publicKey trivial,
      (restores_choice SignatureScheme.ofLabel?_label).required_back a.scheme trivial,
      restores_string.required_back a.hexBytes trivial]
    · rfl
    all_goals simp [Record.toMembers]
  portable_valid := id
  portable_eq_self_iff := by
    rintro ⟨payload, publicKey, scheme, hexBytes⟩
    change Signature.mk (Record.portable payload) _ _ _ = _ ↔
      ∀ members ∈ Described.freeForm payload, _
    simp only [Signature.mk.injEq, LawfulRecord.portable_eq_self_iff, and_true]

instance : Described TransactionIdentifier where
  Valid a := a.hash ≠ ""

instance : LawfulRecord TransactionIdentifier where
  valid := by
    intro members a h
    change TransactionIdentifier.mk <$> _ = accepted a at h
    obtain ⟨_, hhash, rfl⟩ := map_eq_accepted_iff.mp h
    exact restores_nonEmptyString.required_valid hhash
  back := by
    intro keepAbsent a h
    change TransactionIdentifier.mk <$> _ = accepted a
    rw [restores_nonEmptyString.required_back a.hash h]
    · rfl
    · simp [Record.toMembers]
  portable_valid := id
  portable_eq_self_iff := iff_of_true rfl (List.forall_mem_nil _)

instance : Described Broadcast where
  Valid a := Described.Valid a.identifier

instance : LawfulRecord Broadcast where
  valid := by
    intro members a h
    change Broadcast.mk <$> _ <*> _ = accepted a at h
    simp only [apply_eq_accepted_iff, map_eq_accepted_iff] at h
    obtain ⟨_, _, ⟨_, hidentifier, rfl⟩, _, rfl⟩ := h
    exact (restores_record TransactionIdentifier true).required_valid hidentifier
  back := by
    intro keepAbsent a h
    change Broadcast.mk <$> _ <*> _ = accepted a
    rw [(restores_record TransactionIdentifier keepAbsent).required_back a.identifier h,
      restores_string.required_back a.sender trivial]
    · rfl
    all_goals simp [Record.toMembers]
  portable_valid := id
  portable_eq_self_iff := iff_of_true rfl (List.forall_mem_nil _)

end TransferDrill

import TransferDrill.Proofs.Model.Settings

/-!
# Reading is a retraction

A document that is accepted as a record may spell its values in its own way and hold members that
nothing reads. Reading it leads to a valid value, and every valid value is read from its dumps: that
with all members, and that without those that are absent. To be handed on, a value is written with
portable data; what is written is read as the value with its data made portable, which is the value
itself exactly if no number in its data is infinite or none.
-/

namespace TransferDrill

open Schema Schema.Reading

/-- Reading a kind of record leads to its valid values, all of which are reached from their
dumps. -/
structure Schema.Record.Retraction (α : Type) [Record α] [Described α] : Prop where
  /-- The valid values are those that are read from some document. -/
  valid_iff : ∀ {a : α}, Described.Valid a ↔ ∃ document, Record.read document = accepted a
  /-- What was read is read from its dump, with absent members or without them. -/
  dumped : ∀ {document : Json} {a : α}, Record.read document = accepted a →
    ∀ keepAbsent, Record.read (Record.dump keepAbsent a) = accepted a
  /-- What was read is written to be handed on, and that is read as the portable value. -/
  written : ∀ {document : Json} {a : α}, Record.read document = accepted a →
    Record.nesting a ≤ maxNesting → ∀ keepAbsent, ∃ handed,
      Record.write keepAbsent a = .ok handed ∧ Record.read handed = accepted (Record.portable a)
  /-- What nests too deep is not written. -/
  tooDeep : ∀ {a : α}, maxNesting < Record.nesting a →
    ∀ keepAbsent, Record.write keepAbsent a = .error ⟨Record.nesting a⟩
  /-- A value is portable as it is exactly if its data holds only finite numbers. -/
  portable_iff : ∀ {a : α}, Record.portable a = a ↔
    ∀ members ∈ Described.freeForm a, Json.MembersPortable members

/-- Every lawful record has a retraction. -/
theorem Schema.LawfulRecord.retraction {α : Type} [Record α] [Described α] [LawfulRecord α] :
    Record.Retraction α where
  valid_iff := ⟨fun h => ⟨_, (restores_record α true).back h⟩,
    fun ⟨_, h⟩ => (restores_record α true).valid h⟩
  dumped h keepAbsent := (restores_record α keepAbsent).back ((restores_record α true).valid h)
  written h hnesting keepAbsent := by
    have hvalid := LawfulRecord.portable_valid ((restores_record α true).valid h)
    have hback := (restores_record α keepAbsent).back hvalid
    exact ⟨_, Record.write_eq_ok_iff.mpr ⟨hnesting, rfl⟩, hback⟩
  tooDeep h keepAbsent := if_pos h
  portable_iff := LawfulRecord.portable_eq_self_iff

/-- The numbers in settings are those that the members denote when they are read without regard to
bounds. -/
structure Settings.Denoted (members : Json.Members) (s : Settings) : Prop where
  decimals : ∃ currency, members.get? "currency" = some (.object currency) ∧
    required "decimals" integer currency = accepted (s.currency.decimals : Int)
  minimumBalance : defaulted "minimum_balance" 0 integer members = accepted (s.minimumBalance : Int)
  maximumFee : defaulted "maximum_fee" 0 integer members = accepted (s.maximumFee : Int)
  newAddressProbability :
    defaulted "new_account_probability" (.ofDecimal false 5 (-1)) number members =
      accepted s.newAddressProbability
  maxAddresses : defaulted "max_addresses" 200 integer members = accepted (s.maxAddresses : Int)
  sleepTime : defaulted "sleep_time" (.ofInt 10) number members = accepted s.sleepTime

/-- A currency is read from members that denote the number of its decimal places. -/
theorem Currency.decimals_of_read {members : Json.Members} {c : Currency}
    (h : Record.ofMembers members = accepted c) :
    required "decimals" integer members = accepted (c.decimals : Int) := by
  change Currency.mk <$> _ <*> _ <*> _ = accepted c at h
  simp only [apply_eq_accepted_iff, map_eq_accepted_iff] at h
  obtain ⟨_, _, ⟨_, _, ⟨_, _, rfl⟩, hdecimals, rfl⟩, _, rfl⟩ := h
  exact required_of_read (fun h => (natural_eq_accepted_iff.mp h).1) hdecimals

/-- Bounds refuse numbers and change none. -/
theorem Settings.ReadFrom.denoted {members : Json.Members} {s : Settings}
    (h : s.ReadFrom members) : s.Denoted members where
  decimals := by
    obtain ⟨document, hfound, hread⟩ := get?_of_required h.currency
    obtain ⟨currency, rfl, hread⟩ := Record.read_eq_accepted_iff.mp hread
    exact ⟨currency, hfound, Currency.decimals_of_read hread⟩
  minimumBalance := defaulted_of_read (fun h => (natural_eq_accepted_iff.mp h).1) h.minimumBalance
  maximumFee := defaulted_of_read (fun h => (natural_eq_accepted_iff.mp h).1) h.maximumFee
  newAddressProbability :=
    defaulted_of_read (fun h => (probability_eq_accepted_iff.mp h).1) h.newAddressProbability
  maxAddresses := defaulted_of_read (fun h => (natural_eq_accepted_iff.mp h).1) h.maxAddresses
  sleepTime := defaulted_of_read (fun h => (positive_eq_accepted_iff.mp h).1) h.sleepTime

/-- Reading every kind of record is a retraction onto its valid values, and accepted settings are
valid, with the numbers that their members denote. -/
theorem Schema.Record.reading_retracts :
    (Retraction NetworkIdentifier ∧ Retraction Currency ∧ Retraction AccountIdentifier ∧
      Retraction Amount ∧ Retraction CoinIdentifier ∧ Retraction CoinChange ∧
      Retraction OperationIdentifier ∧ Retraction Operation ∧ Retraction PublicKey ∧
      Retraction KeyPair ∧ Retraction SigningPayload ∧ Retraction Signature ∧
      Retraction TransactionIdentifier ∧ Retraction Broadcast ∧ Retraction Settings) ∧
    ∀ (document : Json) (s : Settings), Record.read document = accepted s →
      s.Valid ∧ ∃ members, document = .object members ∧ s.Denoted members := by
  constructor
  · refine ⟨?_, ?_, ?_, ?_, ?_, ?_, ?_, ?_, ?_, ?_, ?_, ?_, ?_, ?_, ?_⟩
    all_goals exact LawfulRecord.retraction
  · intro document s h
    obtain ⟨members, rfl, hmembers⟩ := Record.read_eq_accepted_iff.mp h
    exact ⟨LawfulRecord.valid hmembers, members, rfl,
      (Settings.ofMembers_eq_accepted_iff.mp hmembers).1.denoted⟩

/-- Settings whose numbers are spelled in as many ways as can be. -/
def Settings.spelledOddly : Json :=
  .object
    [("network", .object [("network", .string "n"), ("blockchain", .string "b")]),
      ("currency", .object [("symbol", .string "TST"), ("decimals", .string " +0_8.00 ")]),
      ("minimum_balance", .bool true),
      ("maximum_fee", .float (.ofInt 21)),
      ("max_addresses", .string "1_000"),
      ("new_account_probability", .string "1e-1_0"),
      ("sleep_time", .string " Infinity"),
      ("scenario", .array [.object
        [("operation_identifier", .object [("index", .bool false)]), ("type", .string "TRANSFER"),
          ("metadata", .object [("k", .array [.null, .float .notANumber])])]]),
      ("change_scenario", .null), ("unknown", .null)]

/-- What these settings are. -/
def Settings.spelledPlainly : Settings where
  network := ⟨"b", "n", none⟩
  accounting := .account
  currency := ⟨"TST", 8, none⟩
  minimumBalance := 1
  maximumFee := 21
  curve := .secp256k1
  newAddressProbability := .ofDecimal false 1 (-10)
  maxAddresses := 1000
  templates := [⟨⟨0, none⟩, none, "TRANSFER", none, none, none, none,
    some [("k", .array [.null, .float .notANumber])]⟩]
  changeTemplate := none
  sleepTime := .infinity false

/-- Numbers may be spelled as truth values, as text or as numbers of the other kind, and what is not
a number may stay in free-form data. -/
theorem Schema.Record.reading_retracts_rehearsed :
    Record.read Settings.spelledOddly = accepted Settings.spelledPlainly ∧
    (∀ keepAbsent, Record.read (Record.dump keepAbsent Settings.spelledPlainly) =
      accepted Settings.spelledPlainly) ∧
    Settings.spelledPlainly.Valid := by
  have hread : Record.read Settings.spelledOddly = accepted Settings.spelledPlainly := by
    decide +kernel
  obtain ⟨⟨-, -, -, -, -, -, -, -, -, -, -, -, -, -, hsettings⟩, hnumbers⟩ :=
    Schema.Record.reading_retracts
  exact ⟨hread, hsettings.dumped hread, (hnumbers _ _ hread).1⟩

/-- An operation whose free-form data is a single value. -/
def Operation.holding (data : Json) : Operation where
  identifier := ⟨0, none⟩
  related := none
  kind := "TRANSFER"
  status := none
  account := none
  amount := none
  coinChange := none
  metadata := some [("k", data)]

/-- A value in as many arrays as given. -/
def Json.boxed : Nat → Json
  | 0 => .null
  | n + 1 => .array [boxed n]

/-- An infinite number in free-form data is lost, and data that nests too deep is not written. -/
theorem Operation.holding_not_handed_on :
    (Record.read (Record.dump true (holding (.float (.infinity false)))) =
        accepted (holding (.float (.infinity false))) ∧
      ∀ keepAbsent, ∃ handed,
        Record.write keepAbsent (holding (.float (.infinity false))) = .ok handed ∧
        Record.read handed = accepted (holding .null) ∧
        holding .null ≠ holding (.float (.infinity false))) ∧
    Record.read (Record.dump true (holding (.boxed maxNesting))) =
      accepted (holding (.boxed maxNesting)) ∧
    ∀ keepAbsent,
      Record.write keepAbsent (holding (.boxed maxNesting)) = .error ⟨maxNesting + 1⟩ := by
  have hnesting : Record.nesting (holding (.boxed maxNesting)) = maxNesting + 1 := by
    decide +kernel
  refine ⟨⟨by decide +kernel, fun keepAbsent => ⟨_, rfl, ?_, by decide +kernel⟩⟩,
    by decide +kernel, fun keepAbsent => ?_⟩
  · cases keepAbsent <;> decide +kernel
  · rw [Record.write, hnesting]
    rfl

end TransferDrill

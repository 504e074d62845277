import TransferDrill.Model.Operation
import TransferDrill.Proofs.Schema.Members

/-!
# Operations with substituted texts

A function on texts acts on an operation through its texts and its free-form data. The document of
an operation, substituted, is read as the operation that the function acts on; only a currency
whose symbol becomes empty is refused then.
-/

namespace TransferDrill

open Json Schema

/-- Free-form data in which a function is substituted for all texts. -/
def refillData (f : String → String) : Option Members → Option Members :=
  Option.map (substituteMembers f [])

/-- An account with a function applied to its texts. -/
def AccountIdentifier.refill (f : String → String) (a : AccountIdentifier) : AccountIdentifier where
  address := f a.address
  subAccount := refillData f a.subAccount
  metadata := refillData f a.metadata

/-- A currency with a function applied to its texts. -/
def Currency.refill (f : String → String) (a : Currency) : Currency where
  symbol := f a.symbol
  decimals := a.decimals
  metadata := refillData f a.metadata

/-- An amount with a function applied to its texts. -/
def Amount.refill (f : String → String) (a : Amount) : Amount where
  value := f a.value
  currency := a.currency.refill f
  metadata := refillData f a.metadata

/-- A coin with a function applied to its identifier. -/
def CoinIdentifier.refill (f : String → String) (a : CoinIdentifier) : CoinIdentifier where
  identifier := f a.identifier

/-- A change of a coin with a function applied to its texts. -/
def CoinChange.refill (f : String → String) (a : CoinChange) : CoinChange where
  coin := a.coin.refill f
  action := a.action

/-- An operation with a function applied to its texts. -/
def Operation.refill (f : String → String) (a : Operation) : Operation where
  identifier := a.identifier
  related := a.related
  kind := f a.kind
  status := a.status.map f
  account := a.account.map (·.refill f)
  amount := a.amount.map (·.refill f)
  coinChange := a.coinChange.map (·.refill f)
  metadata := refillData f a.metadata

/-- Whether a function empties the symbol of the currency that an operation moves. -/
def Operation.emptiesSymbol (f : String → String) (a : Operation) : Bool :=
  a.amount.any fun amount => (f amount.currency.symbol).isEmpty

/-- The issue of an operation whose currency has an empty symbol. -/
def emptySymbol : Issue where
  path := [.member "amount", .member "currency", .member "symbol"]
  complaint := .emptyString

variable {f : String → String}

/-! ## Reading -/

/-- Free-form data is read as it has been substituted. -/
theorem optional_data {m : Members} (hkeeps : KeepsNames f m) {name : String}
    {data : Option Members} (hfound : m.get? name = data.map .object) :
    optional name members (substituteMembers f [] m) = .accepted (refillData f data) :=
  hkeeps.optional_eq_accepted hfound (fun _ => nofun) fun _ => rfl

/-- A number that is not negative is read as it is. -/
theorem natural_substitute (f : String → String) (n : Nat) :
    natural 0 (substitute f (.int n)) = .accepted n := by
  have hleast : ¬ (n : Int) < 0 := by omega
  simp [natural, substitute, integer, Reading.andThen, hleast]

/-- A text that must not be empty is read as it has been changed, unless it is empty then. -/
theorem nonEmptyString_substitute (f : String → String) (s : String) :
    nonEmptyString (substitute f (.string s)) =
      if (f s).isEmpty then .refuse .emptyString else .accepted (f s) := rfl

/-- The identifier of an operation has no texts. -/
theorem read_operationIdentifier (hf : KeepsPlain f) (a : OperationIdentifier) :
    (Record.read (substitute f (Record.dump false a)) : Reading OperationIdentifier) =
      .accepted a := by
  have hnamed : Named ["index", "network_index"] (Record.toMembers false a) :=
    (named_single _ _).append (named_optionalMember _ _)
  have hkeeps := hnamed.keepsNames (by decide) (by decide) hf
  have hindex : Keyed.get? "index" (Record.toMembers false a) = some (.int a.index) := by
    simp [Record.toMembers]
  have hnetwork :
      Keyed.get? "network_index" (Record.toMembers false a) = a.networkIndex.map .int := by
    simp [Record.toMembers]
  rw [Record.dump, substitute, Record.read]
  show OperationIdentifier.mk <$> _ <*> _ = _
  rw [hkeeps.required_eq hindex, natural_substitute,
    hkeeps.optional_eq_accepted hnetwork (fun _ => nofun) (g := id) fun _ => rfl, Option.map_id]
  rfl

/-- An account is read with its texts changed. -/
theorem read_account (hf : KeepsPlain f) (a : AccountIdentifier) :
    (Record.read (substitute f (Record.dump false a)) : Reading AccountIdentifier) =
      .accepted (a.refill f) := by
  have hnamed : Named ["address", "sub_account", "metadata"] (Record.toMembers false a) :=
    ((named_single _ _).append (named_optionalMember _ _)).append (named_optionalMember _ _)
  have hkeeps := hnamed.keepsNames (by decide) (by decide) hf
  have haddress : Keyed.get? "address" (Record.toMembers false a) = some (.string a.address) := by
    simp [Record.toMembers]
  have hsub : Keyed.get? "sub_account" (Record.toMembers false a) = a.subAccount.map .object := by
    simp [Record.toMembers]
  have hmetadata :
      Keyed.get? "metadata" (Record.toMembers false a) = a.metadata.map .object := by
    simp [Record.toMembers]
  rw [Record.dump, substitute, Record.read]
  show AccountIdentifier.mk <$> _ <*> _ <*> _ = _
  rw [hkeeps.required_eq haddress, optional_data hkeeps hsub, optional_data hkeeps hmetadata]
  rfl

/-- A currency is read with its texts changed, unless its symbol is empty then. -/
theorem read_currency (hf : KeepsPlain f) (a : Currency) :
    (Record.read (substitute f (Record.dump false a)) : Reading Currency) =
      if (f a.symbol).isEmpty then .rejected [⟨[.member "symbol"], .emptyString⟩]
      else .accepted (a.refill f) := by
  have hnamed : Named ["symbol", "decimals", "metadata"] (Record.toMembers false a) :=
    ((named_single _ _).append (named_single _ _)).append (named_optionalMember _ _)
  have hkeeps := hnamed.keepsNames (by decide) (by decide) hf
  have hsymbol : Keyed.get? "symbol" (Record.toMembers false a) = some (.string a.symbol) := by
    simp [Record.toMembers]
  have hdecimals : Keyed.get? "decimals" (Record.toMembers false a) = some (.int a.decimals) := by
    simp [Record.toMembers]
  have hmetadata :
      Keyed.get? "metadata" (Record.toMembers false a) = a.metadata.map .object := by
    simp [Record.toMembers]
  rw [Record.dump, substitute, Record.read]
  show Currency.mk <$> _ <*> _ <*> _ = _
  rw [hkeeps.required_eq hsymbol, hkeeps.required_eq hdecimals, optional_data hkeeps hmetadata,
    nonEmptyString_substitute, natural_substitute]
  by_cases hempty : (f a.symbol).isEmpty
  · rw [if_pos hempty, if_pos hempty]
    rfl
  · rw [if_neg hempty, if_neg hempty]
    rfl

/-- An amount is read with its texts changed, unless the symbol of its currency is empty then. -/
theorem read_amount (hf : KeepsPlain f) (a : Amount) :
    (Record.read (substitute f (Record.dump false a)) : Reading Amount) =
      if (f a.currency.symbol).isEmpty then
        .rejected [⟨[.member "currency", .member "symbol"], .emptyString⟩]
      else .accepted (a.refill f) := by
  have hnamed : Named ["value", "currency", "metadata"] (Record.toMembers false a) :=
    ((named_single _ _).append (named_single _ _)).append (named_optionalMember _ _)
  have hkeeps := hnamed.keepsNames (by decide) (by decide) hf
  have hvalue : Keyed.get? "value" (Record.toMembers false a) = some (.string a.value) := by
    simp [Record.toMembers]
  have hcurrency : Keyed.get? "currency" (Record.toMembers false a) =
      some (Record.dump false a.currency) := by
    simp [Record.toMembers]
  have hmetadata :
      Keyed.get? "metadata" (Record.toMembers false a) = a.metadata.map .object := by
    simp [Record.toMembers]
  rw [Record.dump, substitute, Record.read]
  show Amount.mk <$> _ <*> _ <*> _ = _
  rw [hkeeps.required_eq hvalue, hkeeps.required_eq hcurrency, optional_data hkeeps hmetadata,
    read_currency hf]
  by_cases hempty : (f a.currency.symbol).isEmpty
  · rw [if_pos hempty, if_pos hempty]
    rfl
  · rw [if_neg hempty, if_neg hempty]
    rfl

/-- A coin is read with its identifier changed. -/
theorem read_coinIdentifier (hf : KeepsPlain f) (a : CoinIdentifier) :
    (Record.read (substitute f (Record.dump false a)) : Reading CoinIdentifier) =
      .accepted (a.refill f) := by
  have hnamed : Named ["identifier"] (Record.toMembers false a) := named_single _ _
  have hkeeps := hnamed.keepsNames (by decide) (by decide) hf
  have hidentifier : Keyed.get? "identifier" (Record.toMembers false a) =
      some (.string a.identifier) := by
    simp [Record.toMembers]
  rw [Record.dump, substitute, Record.read]
  show CoinIdentifier.mk <$> _ = _
  rw [hkeeps.required_eq hidentifier]
  rfl

/-- What is done to a coin remains, for it is named by a plain text. -/
theorem choice_coinAction (hf : KeepsPlain f) (a : CoinAction) :
    (Choice.read (substitute f (Choice.dump a)) : Reading CoinAction) = .accepted a := by
  have hlabel : f (Choice.label a) = Choice.label a := by
    apply hf
    cases a <;> decide
  rw [Choice.dump, substitute, hlabel]
  cases a <;> rfl

/-- A change of a coin is read with its texts changed. -/
theorem read_coinChange (hf : KeepsPlain f) (a : CoinChange) :
    (Record.read (substitute f (Record.dump false a)) : Reading CoinChange) =
      .accepted (a.refill f) := by
  have hnamed : Named ["coin_identifier", "coin_action"] (Record.toMembers false a) :=
    (named_single _ _).append (named_single _ _)
  have hkeeps := hnamed.keepsNames (by decide) (by decide) hf
  have hcoin : Keyed.get? "coin_identifier" (Record.toMembers false a) =
      some (Record.dump false a.coin) := by
    simp [Record.toMembers]
  have haction : Keyed.get? "coin_action" (Record.toMembers false a) =
      some (Choice.dump a.action) := by
    simp [Record.toMembers]
  rw [Record.dump, substitute, Record.read]
  show CoinChange.mk <$> _ <*> _ = _
  rw [hkeeps.required_eq hcoin, hkeeps.required_eq haction, read_coinIdentifier hf,
    choice_coinAction hf]
  rfl

/-- Related operations are read as they are. -/
theorem list_operationIdentifier (hf : KeepsPlain f) (related : List OperationIdentifier) :
    list Record.read (substitute f (.array (related.map (Record.dump false)))) =
      .accepted related := by
  rw [substitute, list, itemsFrom_substituteItems (read_operationIdentifier hf), List.map_id']

/-- An amount that is present is read with its texts changed, unless its symbol is empty then. -/
theorem optional_amount (hf : KeepsPlain f) {m : Members} (hkeeps : KeepsNames f m)
    {amount : Option Amount} (hfound : m.get? "amount" = amount.map (Record.dump false)) :
    (optional "amount" Record.read (substituteMembers f [] m) : Reading (Option Amount)) =
      if amount.any fun amount => (f amount.currency.symbol).isEmpty then .rejected [emptySymbol]
      else .accepted (amount.map (·.refill f)) := by
  cases amount with
  | none => exact hkeeps.optional_eq_none hfound _
  | some amount =>
    rw [hkeeps.optional_eq_some hfound nofun, read_amount hf, Option.any_some]
    by_cases hempty : (f amount.currency.symbol).isEmpty
    · rw [if_pos hempty, if_pos hempty]
      rfl
    · rw [if_neg hempty, if_neg hempty]
      rfl

/-- An operation is read with its texts changed, unless the symbol of its currency is empty then. -/
theorem read_operation (hf : KeepsPlain f) (a : Operation) :
    (Record.read (substitute f (Record.dump false a)) : Reading Operation) =
      if a.emptiesSymbol f then .rejected [emptySymbol] else .accepted (a.refill f) := by
  have hnamed : Named ["operation_identifier", "related_operations", "type", "status", "account",
      "amount", "coin_change", "metadata"] (Record.toMembers false a) :=
    (((((((named_single _ _).append (named_optionalMember _ _)).append (named_single _ _)).append
      (named_optionalMember _ _)).append (named_optionalMember _ _)).append
      (named_optionalMember _ _)).append (named_optionalMember _ _)).append
      (named_optionalMember _ _)
  have hkeeps := hnamed.keepsNames (by decide) (by decide) hf
  have hidentifier : Keyed.get? "operation_identifier" (Record.toMembers false a) =
      some (Record.dump false a.identifier) := by
    simp [Record.toMembers]
  have hrelated : Keyed.get? "related_operations" (Record.toMembers false a) =
      a.related.map fun items => .array (items.map (Record.dump false)) := by
    simp [Record.toMembers]
  have hkind : Keyed.get? "type" (Record.toMembers false a) = some (.string a.kind) := by
    simp [Record.toMembers]
  have hstatus : Keyed.get? "status" (Record.toMembers false a) = a.status.map .string := by
    simp [Record.toMembers]
  have haccount : Keyed.get? "account" (Record.toMembers false a) =
      a.account.map (Record.dump false) := by
    simp [Record.toMembers]
  have hamount : Keyed.get? "amount" (Record.toMembers false a) =
      a.amount.map (Record.dump false) := by
    simp [Record.toMembers]
  have hcoinChange : Keyed.get? "coin_change" (Record.toMembers false a) =
      a.coinChange.map (Record.dump false) := by
    simp [Record.toMembers]
  have hmetadata :
      Keyed.get? "metadata" (Record.toMembers false a) = a.metadata.map .object := by
    simp [Record.toMembers]
  rw [Record.dump, substitute, Record.read]
  show Operation.mk <$> _ <*> _ <*> _ <*> _ <*> _ <*> _ <*> _ <*> _ = _
  rw [hkeeps.required_eq hidentifier, read_operationIdentifier hf,
    hkeeps.optional_eq_accepted hrelated (fun _ => nofun) (list_operationIdentifier hf),
    hkeeps.required_eq hkind,
    hkeeps.optional_eq_accepted hstatus (fun _ => nofun) (g := f) fun _ => rfl,
    hkeeps.optional_eq_accepted haccount (fun _ => nofun) (read_account hf),
    hkeeps.optional_eq_accepted hcoinChange (fun _ => nofun) (read_coinChange hf),
    optional_data hkeeps hmetadata, optional_amount hf hkeeps hamount, Option.map_id',
    ← Operation.emptiesSymbol]
  by_cases hempty : a.emptiesSymbol f
  · rw [if_pos hempty, if_pos hempty]
    rfl
  · rw [if_neg hempty, if_neg hempty]
    rfl

end TransferDrill

import TransferDrill.Matching.Operations
import TransferDrill.Proofs.Json.Equality

/-!
# Alike operations

Operations are alike when account, amount and kind are equal. Among operations whose free-form data
has distinct names, as all data has that was read, being alike is an equivalence; so operations fall
into classes, and lists of them are compared by how often each class occurs.
-/

namespace TransferDrill

/-- Free-form data, if there is any, with distinct names at every depth. -/
def Json.NamesDistinct? (data : Option Members) : Prop :=
  ∀ members ∈ data, NamesDistinct (.object members)

/-- The free-form data of an account has distinct names. -/
structure AccountIdentifier.NamesDistinct (a : AccountIdentifier) : Prop where
  subAccount : Json.NamesDistinct? a.subAccount
  metadata : Json.NamesDistinct? a.metadata

/-- The free-form data of an amount and of its currency has distinct names. -/
structure Amount.NamesDistinct (a : Amount) : Prop where
  currency : Json.NamesDistinct? a.currency.metadata
  metadata : Json.NamesDistinct? a.metadata

/-- The free-form data that is compared of an operation has distinct names. -/
structure Operation.NamesDistinct (a : Operation) : Prop where
  account : ∀ account ∈ a.account, account.NamesDistinct
  amount : ∀ amount ∈ a.amount, amount.NamesDistinct

/-! ## Being alike -/

section Parts

variable {α : Type} {same : α → α → Bool}

/-- An optional part equals itself if the part does. -/
theorem samePart_refl {a : Option α} (h : ∀ x ∈ a, same x x = true) : samePart same a a = true := by
  cases a with
  | none => rfl
  | some x => exact h x rfl

/-- Equality of optional parts is symmetric if that of the parts is. -/
theorem samePart_symm {a b : Option α} (h : ∀ x ∈ a, ∀ y, same x y = true → same y x = true)
    (hab : samePart same a b = true) : samePart same b a = true := by
  cases a <;> cases b <;> simp_all [samePart]

/-- Equality of optional parts is transitive if that of the parts is. -/
theorem samePart_trans {a b c : Option α}
    (h : ∀ x y z, same x y = true → same y z = true → same x z = true)
    (hab : samePart same a b = true) (hbc : samePart same b c = true) :
    samePart same a c = true := by
  cases a <;> cases b <;> cases c <;> simp_all [samePart]
  exact h _ _ _ hab hbc

end Parts

namespace Json

/-- Free-form data with distinct names equals itself. -/
theorem sameMembers?_refl {data : Option Members} (h : NamesDistinct? data) :
    sameMembers? data data = true := by
  cases data with
  | none => rfl
  | some members => exact same_refl (.object members) (h members rfl)

/-- Equality of free-form data is symmetric where names are distinct. -/
theorem sameMembers?_symm {data other : Option Members} (h : NamesDistinct? data)
    (hsame : sameMembers? data other = true) : sameMembers? other data = true := by
  cases data <;> cases other <;> simp_all [sameMembers?]
  exact same_symm _ _ (h _ rfl) hsame

/-- Equality of free-form data is transitive. -/
theorem sameMembers?_trans {data other third : Option Members}
    (h : sameMembers? data other = true) (h' : sameMembers? other third = true) :
    sameMembers? data third = true := by
  cases data <;> cases other <;> cases third <;> simp_all [sameMembers?]
  exact same_trans _ _ _ h h'

end Json

namespace AccountIdentifier

/-- An account equals itself. -/
theorem same_refl {a : AccountIdentifier} (h : a.NamesDistinct) : a.same a = true := by
  simp [same, Json.sameMembers?_refl h.subAccount, Json.sameMembers?_refl h.metadata]

/-- Equality of accounts is symmetric. -/
theorem same_symm {a b : AccountIdentifier} (h : a.NamesDistinct) (hab : a.same b = true) :
    b.same a = true := by
  simp only [same, Bool.and_eq_true, beq_iff_eq] at hab ⊢
  exact ⟨⟨hab.1.1.symm, Json.sameMembers?_symm h.subAccount hab.1.2⟩,
    Json.sameMembers?_symm h.metadata hab.2⟩

/-- Equality of accounts is transitive. -/
theorem same_trans (a b c : AccountIdentifier) (hab : a.same b = true) (hbc : b.same c = true) :
    a.same c = true := by
  simp only [same, Bool.and_eq_true, beq_iff_eq] at hab hbc ⊢
  exact ⟨⟨hab.1.1.trans hbc.1.1, Json.sameMembers?_trans hab.1.2 hbc.1.2⟩,
    Json.sameMembers?_trans hab.2 hbc.2⟩

end AccountIdentifier

namespace Amount

/-- An amount equals itself. -/
theorem same_refl {a : Amount} (h : a.NamesDistinct) : a.same a = true := by
  simp [same, Currency.same, Json.sameMembers?_refl h.currency, Json.sameMembers?_refl h.metadata]

/-- Equality of amounts is symmetric. -/
theorem same_symm {a b : Amount} (h : a.NamesDistinct) (hab : a.same b = true) :
    b.same a = true := by
  simp only [same, Currency.same, Bool.and_eq_true, beq_iff_eq] at hab ⊢
  obtain ⟨⟨hvalue, ⟨hsymbol, hdecimals⟩, hcurrency⟩, hmetadata⟩ := hab
  exact ⟨⟨hvalue.symm, ⟨hsymbol.symm, hdecimals.symm⟩, Json.sameMembers?_symm h.currency hcurrency⟩,
    Json.sameMembers?_symm h.metadata hmetadata⟩

/-- Equality of amounts is transitive. -/
theorem same_trans (a b c : Amount) (hab : a.same b = true) (hbc : b.same c = true) :
    a.same c = true := by
  simp only [same, Currency.same, Bool.and_eq_true, beq_iff_eq] at hab hbc ⊢
  obtain ⟨⟨hvalue, ⟨hsymbol, hdecimals⟩, hcurrency⟩, hmetadata⟩ := hab
  obtain ⟨⟨hvalue', ⟨hsymbol', hdecimals'⟩, hcurrency'⟩, hmetadata'⟩ := hbc
  exact ⟨⟨hvalue.trans hvalue', ⟨hsymbol.trans hsymbol', hdecimals.trans hdecimals'⟩,
    Json.sameMembers?_trans hcurrency hcurrency'⟩, Json.sameMembers?_trans hmetadata hmetadata'⟩

end Amount

namespace Operation

/-- Whether two operations are alike: account, amount and kind are equal. -/
def alike (a b : Operation) : Bool :=
  samePart AccountIdentifier.same a.account b.account &&
    samePart Amount.same a.amount b.amount && a.kind == b.kind

/-- An operation fulfils exactly the intended ones that are like it. -/
theorem fulfils_eq_alike (observed intended : Operation) :
    observed.fulfils intended = intended.alike observed := by
  rw [Bool.eq_iff_iff, fulfils_iff, alike]
  simp [and_assoc]

/-- An operation is like itself. -/
theorem alike_refl {a : Operation} (h : a.NamesDistinct) : a.alike a = true := by
  have haccount := samePart_refl fun x hx => AccountIdentifier.same_refl (h.account x hx)
  have hamount := samePart_refl fun x hx => Amount.same_refl (h.amount x hx)
  simp [alike, haccount, hamount]

/-- Being alike is symmetric. -/
theorem alike_symm {a b : Operation} (h : a.NamesDistinct) (hab : a.alike b = true) :
    b.alike a = true := by
  simp only [alike, Bool.and_eq_true, beq_iff_eq] at hab ⊢
  obtain ⟨⟨haccount, hamount⟩, hkind⟩ := hab
  exact ⟨⟨samePart_symm (fun x hx y => AccountIdentifier.same_symm (h.account x hx)) haccount,
    samePart_symm (fun x hx y => Amount.same_symm (h.amount x hx)) hamount⟩, hkind.symm⟩

/-- Being alike is transitive, whatever the names. -/
theorem alike_trans {a b c : Operation} (hab : a.alike b = true) (hbc : b.alike c = true) :
    a.alike c = true := by
  simp only [alike, Bool.and_eq_true, beq_iff_eq] at hab hbc ⊢
  obtain ⟨⟨haccount, hamount⟩, hkind⟩ := hab
  obtain ⟨⟨haccount', hamount'⟩, hkind'⟩ := hbc
  exact ⟨⟨samePart_trans AccountIdentifier.same_trans haccount haccount',
    samePart_trans Amount.same_trans hamount hamount'⟩, hkind.trans hkind'⟩

/-- Operations of one class are like the same others. -/
theorem alike_congr {a b : Operation} (h : a.NamesDistinct) (hab : a.alike b = true)
    (c : Operation) : a.alike c = b.alike c :=
  Bool.eq_iff_iff.mpr ⟨alike_trans (alike_symm h hab), alike_trans hab⟩

/-- The same others are like operations of one class. -/
theorem alike_congr_right {a b : Operation} (h : a.NamesDistinct) (hab : a.alike b = true)
    (c : Operation) : c.alike a = c.alike b :=
  Bool.eq_iff_iff.mpr
    ⟨fun hca => alike_trans hca hab, fun hcb => alike_trans hcb (alike_symm h hab)⟩

end Operation

namespace Matching

/-- Every class of alike operations is observed at least as often as it is intended. -/
def Covers (intent observed : List Operation) : Prop :=
  ∀ op ∈ intent, intent.countP op.alike ≤ observed.countP op.alike

instance (intent observed : List Operation) : Decidable (Covers intent observed) :=
  inferInstanceAs (Decidable (∀ op ∈ intent, intent.countP op.alike ≤ observed.countP op.alike))

end Matching

end TransferDrill

import TransferDrill.Proofs.Json.Meaning
import TransferDrill.Proofs.Matching.Operations
import TransferDrill.Proofs.Rehearsal.Plain

/-!
# What counts of an operation

An operation is matched by its essence: the kind, and of account and amount the texts, the places of
the currency and what the free-form data means. Operations of one essence match, and no others do;
so matching is an equivalence, and all else about an operation is left out of account.
-/

namespace TransferDrill

open Rehearsal

/-- Optional parts are equal if their images are, given that this is so for the parts. -/
theorem samePart_iff {α β : Type} {same : α → α → Bool} {f : α → β} {a b : Option α}
    (h : ∀ x ∈ a, ∀ y ∈ b, (same x y = true ↔ f x = f y)) :
    samePart same a b = true ↔ a.map f = b.map f := by
  cases a <;> cases b <;> simp_all [samePart]

/-- Free-form data is equal if it stands for the same finite map. -/
theorem Json.sameMembers?_iff {data other : Option Members} (h : NamesDistinct? data)
    (h' : NamesDistinct? other) :
    sameMembers? data other = true ↔ mapping? data = mapping? other := by
  cases data with
  | none => cases other <;> simp [sameMembers?, mapping?]
  | some members =>
    cases other with
    | none => simp [sameMembers?, mapping?]
    | some others =>
      rw [sameMembers?, same_iff _ _ (h members rfl) (h' others rfl), meaning, meaning,
        Meaning.mapping.injEq, mapping?, mapping?, Option.map_some, Option.map_some,
        Option.some.injEq]

/-- A finite map of meanings, if there is one. -/
abbrev Mapping? := Option (String → Option Meaning)

/-- What counts of an account: the address and what its data means. -/
def AccountIdentifier.essence (a : AccountIdentifier) : String × Mapping? × Mapping? :=
  (a.address, Json.mapping? a.subAccount, Json.mapping? a.metadata)

/-- What counts of a currency: the symbol, the places and what its data means. -/
def Currency.essence (a : Currency) : String × Nat × Mapping? :=
  (a.symbol, a.decimals, Json.mapping? a.metadata)

/-- What counts of an amount: the value, the currency and what its data means. -/
def Amount.essence (a : Amount) : String × (String × Nat × Mapping?) × Mapping? :=
  (a.value, a.currency.essence, Json.mapping? a.metadata)

/-- What counts of an operation. -/
structure Operation.Essence where
  account : Option (String × Mapping? × Mapping?)
  amount : Option (String × (String × Nat × Mapping?) × Mapping?)
  kind : String

/-- What counts of an operation: account, amount and kind. -/
def Operation.essence (a : Operation) : Operation.Essence where
  account := a.account.map AccountIdentifier.essence
  amount := a.amount.map Amount.essence
  kind := a.kind

/-- Accounts are equal exactly if what counts in them is. -/
theorem AccountIdentifier.same_iff {a b : AccountIdentifier} (ha : a.NamesDistinct)
    (hb : b.NamesDistinct) : a.same b = true ↔ a.essence = b.essence := by
  simp only [same, essence, Bool.and_eq_true, beq_iff_eq, Prod.mk.injEq,
    Json.sameMembers?_iff ha.subAccount hb.subAccount,
    Json.sameMembers?_iff ha.metadata hb.metadata, and_assoc]

/-- Amounts are equal exactly if what counts in them is. -/
theorem Amount.same_iff {a b : Amount} (ha : a.NamesDistinct) (hb : b.NamesDistinct) :
    a.same b = true ↔ a.essence = b.essence := by
  simp only [same, Currency.same, essence, Currency.essence, Bool.and_eq_true, beq_iff_eq,
    Prod.mk.injEq, Json.sameMembers?_iff ha.currency hb.currency,
    Json.sameMembers?_iff ha.metadata hb.metadata, and_assoc]

namespace Operation

/-- An observed operation does not differ from an intended one exactly if both have one essence. -/
theorem mismatch?_eq_none_iff {intended observed : Operation} (h : intended.NamesDistinct)
    (h' : observed.NamesDistinct) :
    intended.mismatch? observed = none ↔ intended.essence = observed.essence := by
  have haccount : samePart AccountIdentifier.same intended.account observed.account = true ↔
      intended.account.map AccountIdentifier.essence =
        observed.account.map AccountIdentifier.essence :=
    samePart_iff fun x hx y hy => AccountIdentifier.same_iff (h.account x hx) (h'.account y hy)
  have hamount : samePart Amount.same intended.amount observed.amount = true ↔
      intended.amount.map Amount.essence = observed.amount.map Amount.essence :=
    samePart_iff fun x hx y hy => Amount.same_iff (h.amount x hx) (h'.amount y hy)
  rw [← Option.isNone_iff_eq_none]
  change observed.fulfils intended = true ↔ _
  rw [fulfils_iff, haccount, hamount, essence, essence, Essence.mk.injEq]

/-- Matching is an equivalence. Two operations match exactly if they have one essence, in which
objects are finite maps, arrays are sequences and numbers are what they are worth; one is worth as
much as its floating point number and as true, but an odd integer above the precision of floating
point is worth more than the nearest even one. The place of an operation, the operations it is
related to, its status, its coin and its own data do not even count in how a mismatch is told. -/
theorem matches_equivalence :
    Equivalence (fun intended observed : {a : Operation // a.NamesDistinct} =>
        intended.val.mismatch? observed.val = none) ∧
      (∀ intended observed : Operation, intended.NamesDistinct → observed.NamesDistinct →
        (intended.mismatch? observed = none ↔ intended.essence = observed.essence)) ∧
      (Json.int 1).meaning = (Json.float (.ofInt 1)).meaning ∧
      (Json.int 1).meaning = (Json.bool true).meaning ∧
      (Json.int (2 ^ 53 + 1)).meaning ≠ (Json.float (.ofInt (2 ^ 53))).meaning ∧
      ∀ (intended observed : Operation) (identifier : OperationIdentifier)
        (related : Option (List OperationIdentifier)) (status : Option String)
        (coinChange : Option CoinChange) (metadata : Option Json.Members),
        mismatch? { intended with identifier, related, status, coinChange, metadata } observed =
            intended.mismatch? observed ∧
          intended.mismatch? { observed with identifier, related, status, coinChange, metadata } =
            intended.mismatch? observed := by
  have hessence (a b : {a : Operation // a.NamesDistinct}) :
      a.val.mismatch? b.val = none ↔ a.val.essence = b.val.essence :=
    mismatch?_eq_none_iff a.property b.property
  refine ⟨⟨fun a => ?_, fun {a b} hab => ?_, fun {a b c} hab hbc => ?_⟩, ?_, ?_, ?_, ?_, ?_⟩
  · exact (hessence a a).mpr rfl
  · exact (hessence b a).mpr ((hessence a b).mp hab).symm
  · exact (hessence a c).mpr (((hessence a b).mp hab).trans ((hessence b c).mp hbc))
  · exact fun intended observed => mismatch?_eq_none_iff
  · exact (Json.same_iff (.int 1) (.float _) trivial trivial).mp (by decide +kernel)
  · exact (Json.same_iff (.int 1) (.bool true) trivial trivial).mp (by decide +kernel)
  · intro h
    have hsame := (Json.same_iff (.int (2 ^ 53 + 1)) (.float _) trivial trivial).mpr h
    exact absurd hsame (by decide +kernel)
  · exact fun _ _ _ _ _ _ _ => ⟨rfl, rfl⟩

/-- An operation whose data nests numbers of all kinds, in one order of names or another. -/
def nestedOperation (one : Json) (reversed : Bool) : Operation :=
  let data : Json.Members := [("k", .array [one, .null]), ("l", .object [("m", one)])]
  plainOperation 0 "a" "-10" (some (if reversed then data.reverse else data))

/-- Operations match in whatever order their data is named and however it writes one. -/
theorem matches_equivalence_rehearsed :
    (nestedOperation (.int 1) false).mismatch? (nestedOperation (.bool true) true) = none ∧
      (nestedOperation (.bool true) true).mismatch? (nestedOperation (.float (.ofInt 1)) false) =
        none ∧
      (nestedOperation (.float (.ofInt 1)) false).mismatch? (nestedOperation (.int 1) false) =
        none := by
  have hnames (one : Json) (hone : one.NamesDistinct) (reversed : Bool) :
      (nestedOperation one reversed).NamesDistinct := by
    apply plainOperation_namesDistinct
    cases reversed <;>
      simp [Json.NamesDistinct?, Json.NamesDistinct, Json.ValuesNamesDistinct,
        Json.ItemsNamesDistinct, hone]
  have hfirst : (nestedOperation (.int 1) false).mismatch? (nestedOperation (.bool true) true) =
      none := by decide +kernel
  have hsecond : (nestedOperation (.bool true) true).mismatch?
      (nestedOperation (.float (.ofInt 1)) false) = none := by decide +kernel
  have hequivalence := matches_equivalence.1
  let first : {a : Operation // a.NamesDistinct} := ⟨_, hnames (.int 1) trivial false⟩
  let second : {a : Operation // a.NamesDistinct} := ⟨_, hnames (.bool true) trivial true⟩
  let third : {a : Operation // a.NamesDistinct} := ⟨_, hnames (.float (.ofInt 1)) trivial false⟩
  have hthird := hequivalence.trans (x := first) (y := second) (z := third) hfirst hsecond
  have hback := hequivalence.symm hthird
  exact ⟨hfirst, hsecond, hback⟩

end Operation

end TransferDrill

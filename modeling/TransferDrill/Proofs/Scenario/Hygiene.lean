import TransferDrill.Proofs.Scenario.Populate
import TransferDrill.Proofs.Text.ReplaceAny

/-!
# When filling is substitution at once

The placeholders are replaced one after another, so an address that holds a placeholder, or
completes one with what stands around it, is filled in turn. As long as no address does, all
placeholders are replaced at once, and each comes out as exactly the text that is put in for it.
Amounts never touch a placeholder, nor do addresses with small letters or digits and without braces.
-/

namespace TransferDrill

open Json Rehearsal Schema Text

/-! ## Marks and amounts -/

/-- No mark is empty. -/
theorem Placeholder.mark_ne_nil (p : Placeholder) : p.mark.toList ≠ [] := by
  obtain ⟨rest, hmark⟩ := p.isMark.opens
  simp [hmark]

/-- A mark stands between braces. -/
theorem Placeholder.mark_eq (p : Placeholder) :
    p.mark.toList = '\x7b' :: (p.mark.toList.tail.dropLast ++ ['\x7d']) := by
  cases p <;> decide

/-- No mark can begin within another, or be begun by another. -/
theorem Placeholder.marks_apart (p q : Placeholder) : Apart p.mark.toList q.mark.toList := by
  have hall : q.mark.toList.tail.tails.all (fun later =>
      later.isEmpty || !decide (Meets p.mark.toList later)) = true := by
    cases p <;> cases q <;> decide +kernel
  intro later hlater hne hmeets
  have hlast := List.all_eq_true.mp hall later ((List.mem_tails ..).mpr hlater)
  simp [hne, hmeets] at hlast

/-- A mark begins no mark but itself. -/
theorem Placeholder.eq_of_isPrefixOf {p q : Placeholder}
    (h : p.mark.toList.isPrefixOf q.mark.toList = true) : p = q := by
  revert h
  cases p <;> cases q <;> decide

/-- A mark has neither small letters nor digits. -/
theorem not_mem_mark {c : Char} (h : c.isLower || c.isDigit) (p : Placeholder) :
    c ∉ p.mark.toList := by
  intro hmem
  have hall : (p.mark.toList.all fun c => !(c.isLower || c.isDigit)) = true := by
    cases p <;> decide
  simpa [h] using List.all_eq_true.mp hall c hmem

/-- A text with a small letter or a digit, and without braces. -/
structure IsTame (text : String) : Prop where
  unopened : '\x7b' ∉ text.toList
  unclosed : '\x7d' ∉ text.toList
  foreign : ∃ c ∈ text.toList, c.isLower || c.isDigit

/-- To be tame can be checked character by character. -/
theorem isTame_iff {text : String} : IsTame text ↔ '\x7b' ∉ text.toList ∧ '\x7d' ∉ text.toList ∧
    (text.toList.any fun c => c.isLower || c.isDigit) = true := by
  rw [List.any_eq_true]
  exact ⟨fun h => ⟨h.unopened, h.unclosed, h.foreign⟩, fun h => ⟨h.1, h.2.1, h.2.2⟩⟩

instance (text : String) : Decidable (IsTame text) := decidable_of_iff _ isTame_iff.symm

/-- A tame text touches no placeholder. -/
theorem IsTame.clear {text : String} (h : IsTame text) (p : Placeholder) :
    Clear text.toList p.mark.toList := by
  obtain ⟨c, hmem, hc⟩ := h.foreign
  have hnone := not_mem_mark hc p
  rw [p.mark_eq] at hnone ⊢
  exact .of_foreign h.unopened h.unclosed hmem hnone

/-- The text of an integer is digits, behind a sign perhaps. -/
theorem isTame_amountText (n : Int) : IsTame (Context.amountText n) := by
  have htext : (Context.amountText n).toList = Numeral.ofInt n := String.toList_ofList
  have hword := (isWord_ofInt n).wordChars
  obtain ⟨c, hmem, hdigit⟩ := exists_isDigit_of_ofInt n
  constructor
  · rw [htext]
    exact fun h => absurd (hword _ h) (by decide)
  · rw [htext]
    exact fun h => absurd (hword _ h) (by decide)
  · rw [htext]
    exact ⟨c, hmem, by simp [hdigit]⟩

/-- The text of an optional amount is tame, also where it says that there is none. -/
theorem isTame_amountText? (amount : Option Int) : IsTame (Context.amountText? amount) := by
  cases amount with
  | none => decide
  | some n => exact isTame_amountText n

/-! ## One after another and at once -/

namespace Populate

/-- The marks of the placeholders that are filled, each with its text. -/
def table (fillings : List (Placeholder × String)) : List (List Char × List Char) :=
  fillings.map fun filling => (filling.1.mark.toList, filling.2.toList)

/-- A text in which all placeholders are replaced at once. -/
def fillAtOnce (fillings : List (Placeholder × String)) (s : String) : String :=
  String.ofList (replaceAny (table fillings) s.toList)

/-- Filling one after another replaces the marks one after another. -/
theorem toList_fillText (fillings : List (Placeholder × String)) (s : String) :
    (fillText fillings s).toList =
      (table fillings).foldl (fun text entry => replace entry.1 entry.2 text) s.toList := by
  induction fillings generalizing s with
  | nil => rfl
  | cons filling fillings ih =>
    have hfirst : (replaceText filling.1.mark.toList filling.2.toList s).toList =
        replace filling.1.mark.toList filling.2.toList s.toList := String.toList_ofList
    rw [fillText, List.foldl_cons, ← fillText, ih, hfirst]
    rfl

/-- Texts that touch no placeholder are put in at once. -/
theorem fillText_eq_fillAtOnce {fillings : List (Placeholder × String)}
    (hclear : ∀ filling ∈ fillings, ∀ p : Placeholder, Clear filling.2.toList p.mark.toList) :
    fillText fillings = fillAtOnce fillings := by
  funext s
  have hfold : (table fillings).foldl (fun text entry => replace entry.1 entry.2 text) s.toList =
      replaceAny (table fillings) s.toList := by
    apply foldl_replace
    · intro entry hentry
      obtain ⟨filling, -, rfl⟩ := List.mem_map.mp hentry
      exact filling.1.mark_ne_nil
    · intro entry hentry other hother
      obtain ⟨filling, -, rfl⟩ := List.mem_map.mp hentry
      obtain ⟨later, -, rfl⟩ := List.mem_map.mp hother
      exact filling.1.marks_apart later.1
    · intro entry hentry other hother
      obtain ⟨filling, hfilling, rfl⟩ := List.mem_map.mp hentry
      obtain ⟨later, -, rfl⟩ := List.mem_map.mp hother
      exact hclear filling hfilling later.1
  rw [fillAtOnce, ← hfold, ← toList_fillText, String.ofList_toList]

/-- The first mark that begins a mark is that mark, if no placeholder is filled twice. -/
theorem find?_table {fillings : List (Placeholder × String)}
    (hdistinct : fillings.Pairwise fun a b => a.1 ≠ b.1) {filling : Placeholder × String}
    (hmem : filling ∈ fillings) :
    (table fillings).find? (fun entry => entry.1.isPrefixOf filling.1.mark.toList) =
      some (filling.1.mark.toList, filling.2.toList) := by
  induction fillings with
  | nil => cases hmem
  | cons first fillings ih =>
    obtain ⟨hfirst, hrest⟩ := List.pairwise_cons.mp hdistinct
    rw [table, List.map_cons, ← table]
    rcases List.mem_cons.mp hmem with rfl | hlater
    · exact List.find?_cons_of_pos (List.isPrefixOf_iff_prefix.mpr List.prefix_rfl)
    · have hother : first.1.mark.toList.isPrefixOf filling.1.mark.toList = false := by
        by_contra h
        exact hfirst filling hlater (Placeholder.eq_of_isPrefixOf (by simpa using h))
      rw [List.find?_cons, hother]
      exact ih hrest hlater

/-- A mark alone is filled to the text for its placeholder, if no placeholder is filled twice. -/
theorem fillAtOnce_mark {fillings : List (Placeholder × String)}
    (hdistinct : fillings.Pairwise fun a b => a.1 ≠ b.1) {filling : Placeholder × String}
    (hmem : filling ∈ fillings) : fillAtOnce fillings filling.1.mark = filling.2 := by
  rw [fillAtOnce, replaceAny_mark filling.1.mark_ne_nil (find?_table hdistinct hmem),
    String.ofList_toList]

/-- A text that is not empty is not emptied by texts that are not. -/
theorem fillAtOnce_isEmpty {fillings : List (Placeholder × String)}
    (hvalues : ∀ filling ∈ fillings, filling.2.toList ≠ []) {s : String}
    (hs : s.isEmpty = false) : (fillAtOnce fillings s).isEmpty = false := by
  have htext : s.toList ≠ [] := by simpa [String.isEmpty_iff] using hs
  have hfilled : replaceAny (table fillings) s.toList ≠ [] := by
    apply replaceAny_ne_nil _ htext
    intro entry hentry
    obtain ⟨filling, hfilling, rfl⟩ := List.mem_map.mp hentry
    exact hvalues filling hfilling
  simpa [fillAtOnce, String.isEmpty_iff] using hfilled

end Populate

/-! ## Contexts whose names touch no placeholder -/

namespace Context

/-- The names that a transfer puts in. -/
def names (context : Context) : List String :=
  [context.sender, context.recipient] ++ context.coin.toList.map CoinIdentifier.identifier ++
    if context.hasChange then [context.changeAddress] else []

/-- No name can stand in a placeholder, begin or end in one, or hold one. -/
def Hygienic (context : Context) : Prop :=
  ∀ name ∈ context.names, ∀ p : Placeholder, Clear name.toList p.mark.toList

/-- What is put in is a name or an amount. -/
theorem mem_fillings {context : Context} {filling : Placeholder × String}
    (h : filling ∈ context.fillings) :
    filling.2 ∈ context.names ∨ ∃ amount, filling.2 = amountText? amount := by
  rw [fillings, List.mem_append, List.mem_append] at h
  rcases h with (hsides | hcoin) | hchange
  · simp only [List.mem_cons, List.not_mem_nil, or_false] at hsides
    rcases hsides with rfl | rfl | rfl | rfl
    · exact .inr ⟨some context.senderValue, rfl⟩
    · exact .inl (by simp [names])
    · exact .inr ⟨some context.recipientValue, rfl⟩
    · exact .inl (by simp [names])
  · cases hheld : context.coin with
    | none => simp [hheld] at hcoin
    | some coin =>
      obtain rfl : filling = (.coinIdentifier, coin.identifier) := by simpa [hheld] using hcoin
      exact .inl (by simp [names, hheld])
  · by_cases hhas : context.hasChange = true
    · simp only [hhas, if_true, List.mem_cons, List.not_mem_nil, or_false] at hchange
      rcases hchange with rfl | rfl
      · exact .inl (by simp [names, hhas])
      · exact .inr ⟨context.changeValue, rfl⟩
    · simp [hhas] at hchange

/-- No placeholder is filled twice. -/
theorem fillings_distinct (context : Context) :
    context.fillings.Pairwise fun a b => a.1 ≠ b.1 := by
  rw [fillings]
  cases context.coin <;> cases context.hasChange <;> simp

/-- Addresses with small letters or digits, and without braces, touch no placeholder. -/
theorem hygienic_of_isTame {context : Context} (h : ∀ name ∈ context.names, IsTame name) :
    context.Hygienic :=
  fun name hname => (h name hname).clear

/-- All that a hygienic context puts in touches no placeholder. -/
theorem Hygienic.clear {context : Context} (h : context.Hygienic) :
    ∀ filling ∈ context.fillings, ∀ p : Placeholder, Clear filling.2.toList p.mark.toList := by
  intro filling hfilling p
  rcases mem_fillings hfilling with hname | ⟨amount, hamount⟩
  · exact h _ hname p
  · rw [hamount]
    exact (isTame_amountText? amount).clear p

/-- An operation of a transfer from its template, all placeholders of a text at once. -/
def fillAtOnce (context : Context) (template : Operation) : Operation :=
  Populate.setCurrency context.currency (template.refill (Populate.fillAtOnce context.fillings))

/-- A template keeps the symbol of its currency if no text is emptied. -/
theorem emptiesSymbol_eq_false {f : String → String} {t : Operation}
    (hf : ∀ s : String, s.isEmpty = false → (f s).isEmpty = false)
    (hsymbol : t.emptiesSymbol id = false) : t.emptiesSymbol f = false := by
  cases hamount : t.amount with
  | none => simp [Operation.emptiesSymbol, hamount]
  | some amount =>
    have hnamed : amount.currency.symbol.isEmpty = false := by
      simpa [Operation.emptiesSymbol, hamount] using hsymbol
    simpa [Operation.emptiesSymbol, hamount] using hf _ hnamed

/-- As long as the names touch no placeholder, filling is simultaneous substitution, and a
placeholder alone comes out as what is put in for it. No template may nest deeper than can be
written, no integer in them or among the amounts may have too many digits, and no currency may lack
its symbol, or there would be no operations. -/
theorem populate_hygienic {context : Context} {templates : List Operation}
    (hhygienic : context.Hygienic)
    (hnumbers : ∀ t ∈ templates, NumbersReadBack (Record.written false t).tokens)
    (hshallow : ∀ t ∈ templates, Record.nesting t ≤ maxNesting)
    (hintegers : ∀ t ∈ templates, Populate.hasShortIntegers t = true)
    (hamounts : ∀ amount ∈ context.amounts, Numeral.isShort amount = true)
    (hsymbols : ∀ t ∈ templates, t.emptiesSymbol id = false) :
    context.populate templates =
        .ok (templates.map fun t => context.fillAtOnce (Record.portable t)) ∧
      ∀ t ∈ templates, ∀ filling ∈ context.fillings,
        t.account.map AccountIdentifier.address = some filling.1.mark →
        (context.fillAtOnce (Record.portable t)).account.map AccountIdentifier.address =
          some filling.2 := by
  have honce := Populate.fillText_eq_fillAtOnce hhygienic.clear
  have hwritten : Populate.templateText templates =
      .ok (Json.array (templates.map (Record.written false))).written := by
    have hnone : templates.find? (fun t => maxNesting < Record.nesting t) = none := by
      rw [List.find?_eq_none]
      intro t ht
      simpa using hshallow t ht
    rw [Populate.templateText_eq, hnone]
    exact if_pos (List.all_eq_true.mpr hintegers)
  have hkept : templates.any (·.emptiesSymbol (Populate.fillAtOnce context.fillings)) = false := by
    rw [List.any_eq_false]
    intro t ht
    have hvalues : ∀ filling ∈ context.fillings, filling.2.toList ≠ [] := fun filling hfilling =>
      (hhygienic.clear filling hfilling .sender).ne_nil (by decide)
    have hsymbol : t.emptiesSymbol (Populate.fillAtOnce context.fillings) = false :=
      emptiesSymbol_eq_false (fun _ => Populate.fillAtOnce_isEmpty hvalues) (hsymbols t ht)
    simp [hsymbol]
  constructor
  · rw [populate_of_written hwritten (List.all_eq_true.mpr hamounts) hnumbers, honce, hkept]
    simp only [fill, honce]
    rfl
  · intro t _ filling hfilling haddress
    cases haccount : t.account with
    | none => simp [haccount] at haddress
    | some account =>
      have hmark : account.address = filling.1.mark := by simpa [haccount] using haddress
      have hfilled := Populate.fillAtOnce_mark context.fillings_distinct hfilling
      rw [← hmark] at hfilled
      simpa [fillAtOnce, Populate.setCurrency, Operation.refill, AccountIdentifier.refill,
        Record.portable, haccount] using hfilled

/-- A context whose names touch no placeholder, though some need escapes. -/
def tameContext : Context := { plainContext with recipient := "\n(bé)" }

/-- A template with a placeholder alone, next to others and in its data. -/
def tameTemplate : Operation :=
  plainOperation 0 Placeholder.changeAddress.mark
    (Placeholder.changeValue.mark ++ Placeholder.recipientValue.mark)
    (some [(Placeholder.recipient.mark, .string ("to " ++ Placeholder.coinIdentifier.mark))])

/-- What the template is filled to. -/
def tameFilled : Operation :=
  plainOperation 0 "c" "920" (some [("\n(bé)", .string "to a:0")])

/-- Placeholders alone, beside others and in data are filled at once, one text with a line break and
brackets. -/
theorem populate_hygienic_rehearsed :
    tameContext.Hygienic ∧
      (∀ t ∈ [tameTemplate], NumbersReadBack (Record.written false t).tokens) ∧
      (∀ t ∈ [tameTemplate], Record.nesting t ≤ maxNesting) ∧
      (∀ t ∈ [tameTemplate], Populate.hasShortIntegers t = true) ∧
      (∀ amount ∈ tameContext.amounts, Numeral.isShort amount = true) ∧
      (∀ t ∈ [tameTemplate], t.emptiesSymbol id = false) ∧
      tameContext.populate [tameTemplate] = .ok [tameFilled] := by
  have hhygienic : tameContext.Hygienic := hygienic_of_isTame (by decide)
  have hnumbers : ∀ t ∈ [tameTemplate], NumbersReadBack (Record.written false t).tokens := by
    decide +kernel
  have hshallow : ∀ t ∈ [tameTemplate], Record.nesting t ≤ maxNesting := by decide +kernel
  have hintegers : ∀ t ∈ [tameTemplate], Populate.hasShortIntegers t = true := by decide +kernel
  have hamounts : ∀ amount ∈ tameContext.amounts, Numeral.isShort amount = true := by
    decide +kernel
  have hsymbols : ∀ t ∈ [tameTemplate], t.emptiesSymbol id = false := by decide +kernel
  have hfilled : tameContext.fillAtOnce (Record.portable tameTemplate) = tameFilled := by
    decide +kernel
  obtain ⟨hpopulated, -⟩ :=
    populate_hygienic hhygienic hnumbers hshallow hintegers hamounts hsymbols
  rw [List.map_singleton, hfilled] at hpopulated
  exact ⟨hhygienic, hnumbers, hshallow, hintegers, hamounts, hsymbols, hpopulated⟩

/-- Transfers to bob from an address that is a placeholder, and from one that a template turns into
a placeholder. -/
def wildContext (sender : String) : Context :=
  { plainContext with sender := sender, recipient := "bob" }

/-- Names that touch placeholders are rewritten: what is put in for the sender comes out as the
recipient, whether it is a placeholder or becomes one between the braces around it. -/
theorem populate_ne_fillAtOnce :
    let asked := plainOperation 0 Placeholder.sender.mark "1" none;
    let braced := plainOperation 0 ("\x7b\x7b " ++ Placeholder.sender.mark ++ " \x7d\x7d") "1" none;
    let bob := plainOperation 0 "bob" "1" none;
    (wildContext Placeholder.recipient.mark).populate [asked] = .ok [bob] ∧
      (wildContext Placeholder.recipient.mark).fillAtOnce asked ≠ bob ∧
      (wildContext "RECIPIENT").populate [braced] = .ok [bob] ∧
      (wildContext "RECIPIENT").fillAtOnce braced ≠ bob := by
  decide +kernel

end Context

end TransferDrill

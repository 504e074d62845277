import TransferDrill.Scenario.Populate
import TransferDrill.Proofs.Json.Scan
import TransferDrill.Proofs.Rehearsal.Plain
import TransferDrill.Proofs.Scenario.Refill

/-!
# Filling templates is substitution

The placeholders are replaced in the text of one document of all templates, yet what comes out is
each template with the placeholders replaced in its texts, one after another. Nothing that is put
in can leave the string it is put into, whatever characters it has.
-/

namespace TransferDrill

open Json Rehearsal Schema Text

/-- The mark of a placeholder begins with two braces and a blank and needs no escape. -/
theorem Placeholder.isMark (placeholder : Placeholder) : IsMark placeholder.mark.toList where
  plain := by
    have hall : (placeholder.mark.toList.all fun c => Escaped.encodeChar c == [c]) = true := by
      cases placeholder <;> decide
    exact fun c hc => beq_iff_eq.mp (List.all_eq_true.mp hall c hc)
  opens := by cases placeholder <;> exact ⟨_, rfl⟩

namespace Populate

/-- A text in which placeholders are replaced one after another. -/
def fillText (fillings : List (Placeholder × String)) (s : String) : String :=
  fillings.foldl (fun s filling => replaceText filling.1.mark.toList filling.2.toList s) s

/-- A text without a brace holds no placeholder. -/
theorem keepsPlain_fillText (fillings : List (Placeholder × String)) :
    KeepsPlain (fillText fillings) := by
  intro s hs
  induction fillings with
  | nil => rfl
  | cons filling fillings ih =>
    obtain ⟨rest, hmark⟩ := filling.1.isMark.opens
    have hkept : replaceText filling.1.mark.toList filling.2.toList s = s := by
      rw [replaceText, hmark, replace_of_not_mem hs, String.ofList_toList]
    rw [fillText, List.foldl_cons, hkept]
    exact ih

/-- Filling the text of a document fills all strings and names of the document. -/
theorem foldl_fill (fillings : List (Placeholder × String)) (document : Json) :
    fillings.foldl fill document.written =
      (mapTexts (fillText fillings) document).written := by
  induction fillings generalizing document with
  | nil =>
    have hid : fillText [] = id := rfl
    rw [hid, mapTexts_id]
    rfl
  | cons filling fillings ih =>
    rw [List.foldl_cons, fill, replace_written_document filling.1.isMark, ih, mapTexts_mapTexts]
    rfl

/-! ## Writing and reading operations -/

/-- Templates are written unless one of them nests too deep; the first such one answers. -/
theorem writeAll_eq (templates : List Operation) :
    Record.writeAll false templates =
      match templates.find? (fun t => maxNesting < Record.nesting t) with
      | some t => .error ⟨Record.nesting t⟩
      | none => .ok (templates.map (Record.written false)) := by
  induction templates with
  | nil => rfl
  | cons t templates ih =>
    rw [Record.writeAll] at ih ⊢
    rw [List.mapM_cons, ih, Record.write]
    by_cases hdeep : maxNesting < Record.nesting t
    · rw [if_pos hdeep, List.find?_cons_of_pos (by simpa using hdeep)]
      rfl
    · rw [if_neg hdeep, List.find?_cons_of_neg (by simpa using hdeep)]
      cases templates.find? (fun t => maxNesting < Record.nesting t) with
      | none => rfl
      | some deep => rfl

/-- Whether a template holds no integer with too many digits to be written. -/
def hasShortIntegers (t : Operation) : Bool := (Record.written false t).isWritable

/-- The text of all templates is refused if one nests too deep, and otherwise if one holds an
integer with too many digits. -/
theorem templateText_eq (templates : List Operation) :
    templateText templates =
      match templates.find? (fun t => maxNesting < Record.nesting t) with
      | some t => .error (.tooDeep ⟨Record.nesting t⟩)
      | none =>
        if templates.all hasShortIntegers then
          .ok (Json.array (templates.map (Record.written false))).written
        else .error .overlong := by
  rw [templateText, writeAll_eq]
  cases templates.find? (fun t => maxNesting < Record.nesting t) with
  | some t => rfl
  | none =>
    have hshort : isWritable ∘ Record.written false = hasShortIntegers := by
      funext t
      rw [Function.comp_apply, hasShortIntegers]
    simp only [isWritable_array, List.all_map, hshort]

/-- Making a template portable keeps the symbol of its currency. -/
theorem emptiesSymbol_portable (f : String → String) (t : Operation) :
    (Record.portable t).emptiesSymbol f = t.emptiesSymbol f := by
  cases hamount : t.amount with
  | none => simp [Operation.emptiesSymbol, Record.portable, hamount]
  | some amount => simp [Operation.emptiesSymbol, Record.portable, hamount]

/-- Substituted templates are read as templates with their texts changed, unless the symbol of a
currency is empty then. -/
theorem readAll_substituteItems {f : String → String} (hf : KeepsPlain f)
    (templates : List Operation) :
    readAll (substituteItems f (templates.map (Record.written false))) =
      if templates.any (·.emptiesSymbol f) then .error (.invalid [emptySymbol])
      else .ok (templates.map fun t => (Record.portable t).refill f) := by
  induction templates with
  | nil => rfl
  | cons t templates ih =>
    rw [List.map_cons, substituteItems, readAll, Record.written, read_operation hf,
      emptiesSymbol_portable, ih, List.any_cons]
    cases t.emptiesSymbol f with
    | true => rfl
    | false =>
      cases templates.any (·.emptiesSymbol f) with
      | true => rfl
      | false => rfl

/-- The text of all templates, filled, reads back as the templates with their texts filled. -/
theorem read?_foldl_fill (fillings : List (Placeholder × String)) {templates : List Operation}
    (hnumbers : ∀ t ∈ templates, NumbersReadBack (Record.written false t).tokens) :
    read? (fillings.foldl fill (Json.array (templates.map (Record.written false))).written) =
      some (.array (substituteItems (fillText fillings)
        (templates.map (Record.written false)))) := by
  rw [foldl_fill, read?_mapTexts, substitute]
  apply numbersReadBack_array
  intro document hdocument
  obtain ⟨t, ht, rfl⟩ := List.mem_map.mp hdocument
  exact hnumbers t ht

end Populate

/-! ## Filling template by template -/

/-- An operation of a transfer from its template, text by text. -/
def Context.fill (context : Context) (template : Operation) : Operation :=
  Populate.setCurrency context.currency (template.refill (Populate.fillText context.fillings))

/-- The operations of a transfer from its templates, each text by text. The first template that
nests too deep is refused; if none does, an integer with too many digits is, in a template or as an
amount; and if there is none, a template whose currency loses its symbol is. -/
def Context.fillAll (context : Context) (templates : List Operation) :
    Except PopulateFault (List Operation) :=
  match templates.find? (fun t => maxNesting < Record.nesting t) with
  | some t => .error (.tooDeep ⟨Record.nesting t⟩)
  | none =>
    if !(templates.all Populate.hasShortIntegers && context.amounts.all Numeral.isShort) then
      .error .overlong
    else if templates.any (·.emptiesSymbol (Populate.fillText context.fillings)) then
      .error (.invalid [emptySymbol])
    else .ok (templates.map fun t => context.fill (Record.portable t))

/-- Templates whose text is written are filled text by text, unless an amount has too many digits or
a currency loses its symbol. -/
theorem Context.populate_of_written {context : Context} {templates : List Operation}
    (htext : Populate.templateText templates =
      .ok (Json.array (templates.map (Record.written false))).written)
    (hamounts : context.amounts.all Numeral.isShort = true)
    (hnumbers : ∀ t ∈ templates, NumbersReadBack (Record.written false t).tokens) :
    context.populate templates =
      if templates.any (·.emptiesSymbol (Populate.fillText context.fillings)) then
        .error (.invalid [emptySymbol])
      else .ok (templates.map fun t => context.fill (Record.portable t)) := by
  have hread := Populate.read?_foldl_fill context.fillings hnumbers
  have hoperations := Populate.readAll_substituteItems
    (Populate.keepsPlain_fillText context.fillings) templates
  simp only [populate, htext, bind, Except.bind, hamounts, hread, hoperations, Bool.not_true,
    Bool.false_eq_true, if_false]
  cases templates.any (·.emptiesSymbol (Populate.fillText context.fillings)) with
  | true => rfl
  | false => exact congrArg Except.ok List.map_map

/-- Templates whose text is written are not filled with an amount that has too many digits. -/
theorem Context.populate_of_long {context : Context} {templates : List Operation} {text : List Char}
    (htext : Populate.templateText templates = .ok text)
    (hamounts : ¬context.amounts.all Numeral.isShort = true) :
    context.populate templates = .error .overlong := by
  simp [populate, htext, bind, Except.bind, hamounts]

/-- Filling the text of all templates at once gives what filling each text of each template gives,
if floating point numbers read back as they are written. -/
theorem Context.populate_eq_fillAll (context : Context) (templates : List Operation)
    (hnumbers : ∀ t ∈ templates, NumbersReadBack (Record.written false t).tokens) :
    context.populate templates = context.fillAll templates := by
  have htext := Populate.templateText_eq templates
  rw [fillAll]
  cases hdeep : templates.find? (fun t => maxNesting < Record.nesting t) with
  | some t =>
    rw [hdeep] at htext
    rw [populate, htext]
    rfl
  | none =>
    simp only [hdeep] at htext ⊢
    by_cases hwritable : templates.all Populate.hasShortIntegers = true
    · rw [if_pos hwritable] at htext
      by_cases hamounts : context.amounts.all Numeral.isShort = true
      · rw [populate_of_written htext hamounts hnumbers, hwritable, hamounts]
        rfl
      · rw [populate_of_long htext hamounts, if_pos (by simp [hamounts])]
    · rw [if_neg hwritable] at htext
      rw [populate, htext, if_pos (by simp [hwritable])]
      rfl

/-- A template with placeholders in a name and in a text of its data. -/
def plainTemplate : Operation :=
  plainOperation 0 Placeholder.sender.mark ("-" ++ Placeholder.senderValue.mark)
    (some [(Placeholder.sender.mark, .float (.ofDecimal false 25 (-1))),
      ("k", .array [.null, .string ("to " ++ Placeholder.recipient.mark)])])

/-- What the template is filled to. -/
def plainFilled : Operation :=
  plainOperation 0 "a\"\\" "-30"
    (some [("a\"\\", .float (.ofDecimal false 25 (-1))),
      ("k", .array [.null, .string "to \n9é"])])

/-- Texts with quotes, backslashes and line breaks are put in, also as names, and a placeholder that
is put in is filled in turn. -/
theorem Context.populate_eq_fillAll_rehearsed :
    (∀ t ∈ [plainTemplate], NumbersReadBack (Record.written false t).tokens) ∧
      plainContext.populate [plainTemplate] = .ok [plainFilled] := by
  have hnumbers : ∀ t ∈ [plainTemplate], NumbersReadBack (Record.written false t).tokens := by
    decide +kernel
  have hfilled : plainContext.fillAll [plainTemplate] = .ok [plainFilled] := by decide +kernel
  exact ⟨hnumbers, (populate_eq_fillAll plainContext [plainTemplate] hnumbers).trans hfilled⟩

/-- A template that takes its currency from the sender. -/
def symbolTemplate : Operation :=
  { plainOperation 0 "a" "1" none with
    amount := some ⟨"1", ⟨Placeholder.sender.mark, 8, none⟩, none⟩ }

/-- A template with a document as data. -/
def dataTemplate (document : Json) : Operation := plainOperation 0 "a" "1" (some [("k", document)])

/-- An array in which arrays nest. -/
def nested : Nat → Json
  | 0 => .array []
  | n + 1 => .array [nested n]

/-- A template that is not just filled text by text, although its numbers read back. -/
def Context.Exceptional (context : Context) (t : Operation) : Prop :=
  NumbersReadBack (Record.written false t).tokens ∧ context.populate [t] ≠ .ok [context.fill t]

instance (context : Context) (t : Operation) : Decidable (context.Exceptional t) :=
  inferInstanceAs (Decidable (_ ∧ _))

/-- A symbol that the filling empties is refused, a number that is not finite becomes null, data
that nests too deep is refused, and so is an amount with too many digits. -/
theorem Context.populate_ne_fill :
    Exceptional { plainContext with sender := "" } symbolTemplate ∧
      Exceptional plainContext (dataTemplate (.float (.ofDecimal false 1 400))) ∧
      plainContext.populate [dataTemplate (nested 256)] = .error (.tooDeep ⟨257⟩) ∧
      { plainContext with senderValue := 10 ^ Numeral.maxDigits }.populate [plainTemplate] =
        .error .overlong := by
  decide +kernel

end TransferDrill

import TransferDrill.Json.RoundTrip
import TransferDrill.Text.Escaped.RoundTrip
import TransferDrill.Proofs.Json.Word
import TransferDrill.Proofs.Text.Escape

/-!
# Written documents read back

The scanner finds the tokens of a document in its text. A word stays open until a character comes
that belongs to no word, so what has been read is stated of the scanner with its open word; in a
document, a word is never followed by another one. Floating point numbers are taken to read back.
-/

namespace TransferDrill.Json

open Text

/-- Whether a token reads back if it is a floating point number. -/
def Token.readsBack : Token → Bool
  | .float x => ofWord? (x.text "Infinity" "NaN") == some (.float x)
  | _ => true

/-- All floating point numbers among tokens read back. -/
def NumbersReadBack (tokens : List Token) : Prop := ∀ token ∈ tokens, token.readsBack = true

instance (tokens : List Token) : Decidable (NumbersReadBack tokens) :=
  inferInstanceAs (Decidable (∀ token ∈ tokens, token.readsBack = true))

/-- The numbers of later items read back if those of each item do. -/
theorem numbersReadBack_laterItemTokens {items : List Json}
    (h : ∀ item ∈ items, NumbersReadBack item.tokens) :
    NumbersReadBack (laterItemTokens items) := by
  induction items with
  | nil => exact nofun
  | cons item items ih =>
    obtain ⟨hitem, hrest⟩ := List.forall_mem_cons.mp h
    rw [laterItemTokens, NumbersReadBack, List.cons_append, List.forall_mem_cons]
    exact ⟨rfl, List.forall_mem_append.mpr ⟨hitem, ih hrest⟩⟩

/-- The numbers of an array read back if those of each item do. -/
theorem numbersReadBack_array {items : List Json}
    (h : ∀ item ∈ items, NumbersReadBack item.tokens) :
    NumbersReadBack (Json.array items).tokens := by
  cases items with
  | nil => decide
  | cons item items =>
    obtain ⟨hitem, hrest⟩ := List.forall_mem_cons.mp h
    have hlater := numbersReadBack_laterItemTokens hrest
    have hclose : NumbersReadBack [.closeArray] := by decide
    rw [tokens, itemTokens, NumbersReadBack, List.cons_append, List.forall_mem_cons]
    exact ⟨rfl, List.forall_mem_append.mpr ⟨List.forall_mem_append.mpr ⟨hitem, hlater⟩, hclose⟩⟩

namespace Scanner

/-- The scanner has read tokens, held latest first, of which the last may be an open word. -/
def HasRead (s : Scanner) (found : List Token) : Prop :=
  s = ⟨.between, found⟩ ∨ ∃ seen token earlier, s = ⟨.word seen, earlier⟩ ∧
    Token.ofWord? seen.reverse = some token ∧ found = token :: earlier

variable {s : Scanner} {found : List Token}

/-- A character that belongs to no word ends the token before it. -/
theorem HasRead.step_eq (h : s.HasRead found) {c : Char} (hc : Token.isWordChar c = false) :
    s.step c = enter found c := by
  rcases h with rfl | ⟨seen, token, earlier, rfl, hword, rfl⟩
  · rfl
  · simp [step, hc, hword]

/-- When the text has ended, the tokens read are those found. -/
theorem HasRead.finish_eq (h : s.HasRead found) : s.finish = some found.reverse := by
  rcases h with rfl | ⟨seen, token, earlier, rfl, hword, rfl⟩
  · rfl
  · simp [finish, hword]

/-- The scanner after the text of some tokens. -/
def takes (s : Scanner) (tokens : List Token) : Option Scanner :=
  (tokens.flatMap Token.written).foldlM step s

/-- The scanner takes the text of the first token and then the other tokens. -/
theorem takes_cons (s : Scanner) (token : Token) (tokens : List Token) :
    s.takes (token :: tokens) = (token.written.foldlM step s).bind (·.takes tokens) := by
  simp [takes, List.flatMap_cons, List.foldlM_append]

/-- The scanner takes some tokens and then the others. -/
theorem takes_append (s : Scanner) (tokens more : List Token) :
    s.takes (tokens ++ more) = (s.takes tokens).bind (·.takes more) := by
  simp [takes, List.flatMap_append, List.foldlM_append]

/-! ## Words -/

/-- Inside a word, word characters belong to it. -/
theorem foldlM_wordChars {w : List Char} (hw : ∀ c ∈ w, Token.isWordChar c = true)
    (seen : List Char) :
    w.foldlM step ⟨.word seen, found⟩ = some ⟨.word (w.reverse ++ seen), found⟩ := by
  induction w generalizing seen with
  | nil => rfl
  | cons c w ih =>
    obtain ⟨hc, hrest⟩ := List.forall_mem_cons.mp hw
    simp [step, hc, ih hrest]

/-- Between tokens, a word begins a token, which stays open. -/
theorem foldlM_word {w : List Char} (hw : IsWord w) {token : Token}
    (htoken : Token.ofWord? w = some token) :
    ∃ s, w.foldlM step ⟨.between, found⟩ = some s ∧ s.HasRead (token :: found) := by
  obtain ⟨hne, hchars⟩ := hw
  cases w with
  | nil => exact absurd rfl hne
  | cons c w =>
    obtain ⟨hc, hrest⟩ := List.forall_mem_cons.mp hchars
    have hgap : Token.isGap c = false := by
      cases hgap : Token.isGap c with
      | false => rfl
      | true =>
        simp only [Token.isGap, Bool.or_eq_true, beq_iff_eq] at hgap
        rcases hgap with ((rfl | rfl) | rfl) | rfl <;> exact absurd hc (by decide)
    have hquote : c ≠ '"' := by
      intro h
      subst h
      exact absurd hc (by decide)
    refine ⟨⟨.word (w.reverse ++ [c]), found⟩, ?_, .inr ⟨_, token, found, rfl, ?_, rfl⟩⟩
    · simp [step, enter, hgap, hquote, hc, foldlM_wordChars hrest]
    · simpa using htoken

/-! ## Strings -/

/-- Inside a string, characters other than quotes and backslashes belong to it. -/
theorem foldlM_plain {w : List Char} (hw : ∀ c ∈ w, c ≠ '"' ∧ c ≠ '\\') (seen : List Char) :
    w.foldlM step ⟨.string seen, found⟩ = some ⟨.string (w.reverse ++ seen), found⟩ := by
  induction w generalizing seen with
  | nil => rfl
  | cons c w ih =>
    obtain ⟨⟨hquote, hbackslash⟩, hrest⟩ := List.forall_mem_cons.mp hw
    simp [step, hquote, hbackslash, ih hrest]

/-- Inside a string, an escape by digits belongs to it. -/
theorem foldlM_unitEscape (n : Nat) (seen : List Char) :
    (Escaped.unitEscape n).foldlM step ⟨.string seen, found⟩ =
      some ⟨.string ((Escaped.unitEscape n).reverse ++ seen), found⟩ := by
  have hdigits : ∀ c ∈ Hex.digits 4 n, c ≠ '"' ∧ c ≠ '\\' := fun c hc =>
    ⟨(Escaped.ne_of_mem_digits hc).1, (Escaped.ne_of_mem_digits hc).2.1⟩
  simp [Escaped.unitEscape, step, foldlM_plain hdigits]

/-- Inside a string, a character that was written belongs to it. -/
theorem foldlM_encodeChar (c : Char) (seen : List Char) :
    (Escaped.encodeChar c).foldlM step ⟨.string seen, found⟩ =
      some ⟨.string ((Escaped.encodeChar c).reverse ++ seen), found⟩ := by
  rcases Escaped.encodeChar_shape c with
    ⟨hself, hquote, hbackslash⟩ | ⟨letter, hletter, -⟩ | ⟨n, hunit⟩ | ⟨m, n, hpair⟩
  · rw [hself]
    exact foldlM_plain (by simp [hquote, hbackslash]) seen
  · rw [hletter]
    simp [step]
  · rw [hunit]
    exact foldlM_unitEscape n seen
  · rw [hpair]
    simp [List.foldlM_append, foldlM_unitEscape]

/-- Inside a string, the scanner takes a whole escaped text and stays inside. -/
theorem foldlM_encode (found : List Token) (text seen : List Char) :
    (Escaped.encode text).foldlM step ⟨.string seen, found⟩ =
      some ⟨.string ((Escaped.encode text).reverse ++ seen), found⟩ := by
  induction text generalizing seen with
  | nil => rfl
  | cons c text ih =>
    rw [Escaped.encode_cons, List.foldlM_append, foldlM_encodeChar]
    simp [ih]

/-- A string is read back from its text. -/
theorem HasRead.foldlM_string (h : s.HasRead found) (text : String) :
    (Token.string text).written.foldlM step s = some ⟨.between, .string text :: found⟩ := by
  have hopen : s.step '"' = some ⟨.string [], found⟩ := h.step_eq (by decide)
  have hbody := foldlM_encode found text.toList []
  have hclose : step ⟨.string ((Escaped.encode text.toList).reverse ++ []), found⟩ '"' =
      some ⟨.between, .string text :: found⟩ := by
    simp [step, Escaped.decode_encode]
  rw [Token.written, List.cons_append, List.foldlM_cons, hopen, Option.bind_eq_bind,
    Option.bind_some, List.foldlM_append, hbody, Option.bind_eq_bind, Option.bind_some,
    List.foldlM_cons, hclose]
  rfl

/-! ## Punctuation -/

end Scanner

/-- Tokens that structure a document. -/
def Token.isPunctuation : Token → Bool
  | .openObject | .closeObject | .openArray | .closeArray | .colon | .comma => true
  | _ => false

/-- Punctuation is read back from its text. -/
theorem Scanner.HasRead.foldlM_punctuation {s : Scanner} {found : List Token}
    (h : s.HasRead found) {token : Token} (htoken : token.isPunctuation = true) :
    token.written.foldlM step s = some ⟨.between, token :: found⟩ := by
  -- a mark is one character, after which a blank may follow
  have hmark : ∀ {c : Char} {blank : List Char}, token.written = c :: blank →
      blank = [] ∨ blank = [' '] → Token.isWordChar c = false →
      enter found c = some ⟨.between, token :: found⟩ →
      token.written.foldlM step s = some ⟨.between, token :: found⟩ := by
    intro c blank hwritten hblank hword henter
    rw [hwritten, List.foldlM_cons, h.step_eq hword, henter]
    rcases hblank with rfl | rfl <;> rfl
  cases token with
  | openObject => exact hmark rfl (.inl rfl) (by decide) rfl
  | closeObject => exact hmark rfl (.inl rfl) (by decide) rfl
  | openArray => exact hmark rfl (.inl rfl) (by decide) rfl
  | closeArray => exact hmark rfl (.inl rfl) (by decide) rfl
  | colon => exact hmark rfl (.inr rfl) (by decide) rfl
  | comma => exact hmark rfl (.inr rfl) (by decide) rfl
  | _ => cases htoken

/-! ## Documents -/

namespace Scanner

variable {s : Scanner} {found : List Token}

/-- After punctuation, the scanner goes on between tokens. -/
theorem HasRead.takes_punctuation (h : s.HasRead found) {token : Token}
    (htoken : token.isPunctuation = true) (tokens : List Token) :
    s.takes (token :: tokens) = takes ⟨.between, token :: found⟩ tokens := by
  rw [takes_cons, h.foldlM_punctuation htoken, Option.bind_some]

/-- After a string, the scanner goes on between tokens. -/
theorem HasRead.takes_string (h : s.HasRead found) (text : String) (tokens : List Token) :
    s.takes (.string text :: tokens) = takes ⟨.between, .string text :: found⟩ tokens := by
  rw [takes_cons, h.foldlM_string, Option.bind_some]

/-- A single word is read back from its text. -/
theorem takes_word {w : List Char} (hw : IsWord w) {token : Token} (hwritten : token.written = w)
    (hread : Token.ofWord? w = some token) :
    ∃ s, takes ⟨.between, found⟩ [token] = some s ∧ s.HasRead (token :: found) := by
  obtain ⟨s, hs, hhas⟩ := foldlM_word hw hread
  refine ⟨s, ?_, hhas⟩
  rw [takes_cons, hwritten, hs]
  rfl

mutual

/-- Between tokens, the text of a document is read as its tokens. -/
theorem takes_tokens : (document : Json) → (found : List Token) →
    NumbersReadBack document.tokens →
    ∃ s, takes ⟨.between, found⟩ document.tokens = some s ∧
      s.HasRead (document.tokens.reverse ++ found)
  | .null, _, _ => takes_word (isWord_of_all (by decide) (by decide)) rfl (by decide)
  | .bool true, _, _ => takes_word (isWord_of_all (by decide) (by decide)) rfl (by decide)
  | .bool false, _, _ => takes_word (isWord_of_all (by decide) (by decide)) rfl (by decide)
  | .int n, _, _ => takes_word (isWord_ofInt n) rfl (ofWord?_ofInt n)
  | .float x, _, hnumbers => by
    have hread : Token.readsBack (.float x) = true := hnumbers _ (by simp [Json.tokens])
    exact takes_word (isWord_text x) rfl (beq_iff_eq.mp hread)
  | .string s, found, _ => ⟨_, HasRead.takes_string (.inl rfl) s [], .inl rfl⟩
  | .array [], found, _ => by
    refine ⟨⟨.between, .closeArray :: .openArray :: found⟩, ?_, .inl rfl⟩
    rw [Json.tokens, itemTokens, List.cons_append, HasRead.takes_punctuation (.inl rfl) rfl,
      List.nil_append, HasRead.takes_punctuation (.inl rfl) rfl]
    rfl
  | .array (item :: rest), found, hnumbers => by
    have hitem : NumbersReadBack item.tokens :=
      fun token htoken => hnumbers token (by simp [Json.tokens, itemTokens, htoken])
    have hrest : NumbersReadBack (laterItemTokens rest) :=
      fun token htoken => hnumbers token (by simp [Json.tokens, itemTokens, htoken])
    obtain ⟨s, hs, hhas⟩ := takes_tokens item (.openArray :: found) hitem
    obtain ⟨s', hs', hhas'⟩ := takes_laterItemTokens rest s _ hhas hrest
    refine ⟨⟨.between, .closeArray :: ((laterItemTokens rest).reverse ++
      (item.tokens.reverse ++ .openArray :: found))⟩, ?_, .inl ?_⟩
    · simp only [Json.tokens, itemTokens, List.cons_append, List.append_assoc]
      rw [HasRead.takes_punctuation (.inl rfl) rfl, takes_append, hs, Option.bind_some,
        takes_append, hs', Option.bind_some, hhas'.takes_punctuation rfl]
      rfl
    · simp [Json.tokens, itemTokens]
  | .object [], found, _ => by
    refine ⟨⟨.between, .closeObject :: .openObject :: found⟩, ?_, .inl rfl⟩
    rw [Json.tokens, memberTokens, List.cons_append, HasRead.takes_punctuation (.inl rfl) rfl,
      List.nil_append, HasRead.takes_punctuation (.inl rfl) rfl]
    rfl
  | .object ((name, value) :: rest), found, hnumbers => by
    have hvalue : NumbersReadBack value.tokens :=
      fun token htoken => hnumbers token (by simp [Json.tokens, memberTokens, htoken])
    have hrest : NumbersReadBack (laterMemberTokens rest) :=
      fun token htoken => hnumbers token (by simp [Json.tokens, memberTokens, htoken])
    obtain ⟨s, hs, hhas⟩ :=
      takes_tokens value (.colon :: .string name :: .openObject :: found) hvalue
    obtain ⟨s', hs', hhas'⟩ := takes_laterMemberTokens rest s _ hhas hrest
    refine ⟨⟨.between, .closeObject :: ((laterMemberTokens rest).reverse ++
      (value.tokens.reverse ++ .colon :: .string name :: .openObject :: found))⟩, ?_, .inl ?_⟩
    · simp only [Json.tokens, memberTokens, List.cons_append, List.append_assoc]
      rw [HasRead.takes_punctuation (.inl rfl) rfl, HasRead.takes_string (.inl rfl),
        HasRead.takes_punctuation (.inl rfl) rfl, takes_append, hs, Option.bind_some,
        takes_append, hs', Option.bind_some, hhas'.takes_punctuation rfl]
      rfl
    · simp [Json.tokens, memberTokens]

/-- After an item, the text of the later items is read as their tokens. -/
theorem takes_laterItemTokens : (items : List Json) → (s : Scanner) → (found : List Token) →
    s.HasRead found → NumbersReadBack (laterItemTokens items) →
    ∃ s', s.takes (laterItemTokens items) = some s' ∧
      s'.HasRead ((laterItemTokens items).reverse ++ found)
  | [], s, _, hhas, _ => ⟨s, rfl, hhas⟩
  | item :: rest, s, found, hhas, hnumbers => by
    have hitem : NumbersReadBack item.tokens :=
      fun token htoken => hnumbers token (by simp [laterItemTokens, htoken])
    have hrest : NumbersReadBack (laterItemTokens rest) :=
      fun token htoken => hnumbers token (by simp [laterItemTokens, htoken])
    obtain ⟨s', hs', hhas'⟩ := takes_tokens item (.comma :: found) hitem
    obtain ⟨s'', hs'', hhas''⟩ := takes_laterItemTokens rest s' _ hhas' hrest
    refine ⟨s'', ?_, ?_⟩
    · rw [laterItemTokens, List.cons_append, hhas.takes_punctuation rfl, takes_append, hs',
        Option.bind_some, hs'']
    · simpa [laterItemTokens] using hhas''

/-- After a member, the text of the later members is read as their tokens. -/
theorem takes_laterMemberTokens : (members : List (String × Json)) → (s : Scanner) →
    (found : List Token) → s.HasRead found → NumbersReadBack (laterMemberTokens members) →
    ∃ s', s.takes (laterMemberTokens members) = some s' ∧
      s'.HasRead ((laterMemberTokens members).reverse ++ found)
  | [], s, _, hhas, _ => ⟨s, rfl, hhas⟩
  | (name, value) :: rest, s, found, hhas, hnumbers => by
    have hvalue : NumbersReadBack value.tokens :=
      fun token htoken => hnumbers token (by simp [laterMemberTokens, htoken])
    have hrest : NumbersReadBack (laterMemberTokens rest) :=
      fun token htoken => hnumbers token (by simp [laterMemberTokens, htoken])
    obtain ⟨s', hs', hhas'⟩ := takes_tokens value (.colon :: .string name :: .comma :: found) hvalue
    obtain ⟨s'', hs'', hhas''⟩ := takes_laterMemberTokens rest s' _ hhas' hrest
    refine ⟨s'', ?_, ?_⟩
    · simp only [laterMemberTokens, List.cons_append]
      rw [hhas.takes_punctuation rfl, HasRead.takes_string (.inl rfl),
        HasRead.takes_punctuation (.inl rfl) rfl, takes_append, hs', Option.bind_some, hs'']
    · simpa [laterMemberTokens] using hhas''

end

end Scanner

/-- The text of a document is scanned as its tokens. -/
theorem scan_written {document : Json} (hnumbers : NumbersReadBack document.tokens) :
    scan document.written = some document.tokens := by
  obtain ⟨s, hs, hhas⟩ := Scanner.takes_tokens document [] hnumbers
  rw [scan, written]
  rw [Scanner.takes] at hs
  rw [hs]
  simpa using hhas.finish_eq

/-- A written document reads back, with one member for each name. -/
theorem read?_written {document : Json} (hnumbers : NumbersReadBack document.tokens) :
    read? document.written = some document.withoutRepeats := by
  rw [read?, scan_written hnumbers]
  exact ofTokens?_tokens document

end TransferDrill.Json

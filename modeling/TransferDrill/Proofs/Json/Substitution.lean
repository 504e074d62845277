import TransferDrill.Json.RoundTrip
import TransferDrill.Proofs.Json.Scan
import TransferDrill.Proofs.Text.Replace

/-!
# Substitution in documents

A function on texts acts on a document through all its strings and all its names, at every depth;
of names that then coincide, the last value wins. Replacing a mark in the text of a document acts
in this way: no mark is found outside of strings, across their quotes or inside an escape.
-/

namespace TransferDrill.Json

open Text

mutual

/-- A document with a function applied to all its strings and names. -/
def mapTexts (f : String → String) : Json → Json
  | .string s => .string (f s)
  | .array items => .array (mapItemTexts f items)
  | .object members => .object (mapMemberTexts f members)
  | other => other

/-- Items with a function applied to all their strings and names. -/
def mapItemTexts (f : String → String) : List Json → List Json
  | [] => []
  | item :: rest => mapTexts f item :: mapItemTexts f rest

/-- Members with a function applied to all their strings and names; names may coincide then. -/
def mapMemberTexts (f : String → String) : List (String × Json) → List (String × Json)
  | [] => []
  | (name, value) :: rest => (f name, mapTexts f value) :: mapMemberTexts f rest

end

mutual

/-- A document in which a function is substituted for all strings and names. -/
def substitute (f : String → String) : Json → Json
  | .string s => .string (f s)
  | .array items => .array (substituteItems f items)
  | .object members => .object (substituteMembers f [] members)
  | other => other

/-- Items in which a function is substituted. -/
def substituteItems (f : String → String) : List Json → List Json
  | [] => []
  | item :: rest => substitute f item :: substituteItems f rest

/-- Members in which a function is substituted, set one after another on top of earlier ones. -/
def substituteMembers (f : String → String) (earlier : Members) : List (String × Json) → Members
  | [] => earlier
  | (name, value) :: rest =>
    substituteMembers f (earlier.put (f name) (substitute f value)) rest

end

mutual

/-- Substitution applies the function everywhere and then leaves one member for each name. -/
theorem withoutRepeats_mapTexts (f : String → String) : (document : Json) →
    (mapTexts f document).withoutRepeats = substitute f document
  | .null | .bool _ | .int _ | .float _ | .string _ => rfl
  | .array items => by
    rw [mapTexts, withoutRepeats, itemsWithoutRepeats_mapItemTexts f items, substitute]
  | .object members => by
    rw [mapTexts, withoutRepeats, membersWithoutRepeats_mapMemberTexts f members, substitute]

/-- Changing the texts of items and then keeping the last of repeated names is substitution in the
items. -/
theorem itemsWithoutRepeats_mapItemTexts (f : String → String) : (items : List Json) →
    itemsWithoutRepeats (mapItemTexts f items) = substituteItems f items
  | [] => rfl
  | item :: rest => by
    rw [mapItemTexts, itemsWithoutRepeats, withoutRepeats_mapTexts f item,
      itemsWithoutRepeats_mapItemTexts f rest, substituteItems]

/-- Changing the texts of members and then keeping the last of repeated names is substitution in the
members. -/
theorem membersWithoutRepeats_mapMemberTexts (f : String → String) :
    (members : List (String × Json)) → (earlier : Members) →
    membersWithoutRepeats earlier (mapMemberTexts f members) = substituteMembers f earlier members
  | [], _ => rfl
  | (name, value) :: rest, earlier => by
    rw [mapMemberTexts, membersWithoutRepeats, withoutRepeats_mapTexts f value,
      membersWithoutRepeats_mapMemberTexts f rest, substituteMembers]

end

mutual

/-- Applying one function after another is applying their composition. -/
theorem mapTexts_mapTexts (f g : String → String) : (document : Json) →
    mapTexts g (mapTexts f document) = mapTexts (g ∘ f) document
  | .null | .bool _ | .int _ | .float _ | .string _ => rfl
  | .array items => by simp [mapTexts, mapItemTexts_mapItemTexts f g items]
  | .object members => by simp [mapTexts, mapMemberTexts_mapMemberTexts f g members]

/-- The texts of items are changed once instead of twice. -/
theorem mapItemTexts_mapItemTexts (f g : String → String) : (items : List Json) →
    mapItemTexts g (mapItemTexts f items) = mapItemTexts (g ∘ f) items
  | [] => rfl
  | item :: rest => by
    simp [mapItemTexts, mapTexts_mapTexts f g item, mapItemTexts_mapItemTexts f g rest]

/-- The texts and names of members are changed once instead of twice. -/
theorem mapMemberTexts_mapMemberTexts (f g : String → String) :
    (members : List (String × Json)) →
    mapMemberTexts g (mapMemberTexts f members) = mapMemberTexts (g ∘ f) members
  | [] => rfl
  | (name, value) :: rest => by
    simp [mapMemberTexts, mapTexts_mapTexts f g value, mapMemberTexts_mapMemberTexts f g rest]

end

mutual

/-- A document whose texts stay does. -/
theorem mapTexts_id : (document : Json) → mapTexts id document = document
  | .null | .bool _ | .int _ | .float _ | .string _ => rfl
  | .array items => by simp [mapTexts, mapItemTexts_id items]
  | .object members => by simp [mapTexts, mapMemberTexts_id members]

/-- Items whose texts stay do. -/
theorem mapItemTexts_id : (items : List Json) → mapItemTexts id items = items
  | [] => rfl
  | item :: rest => by simp [mapItemTexts, mapTexts_id item, mapItemTexts_id rest]

/-- Members whose texts stay do. -/
theorem mapMemberTexts_id : (members : List (String × Json)) → mapMemberTexts id members = members
  | [] => rfl
  | (name, value) :: rest => by
    simp [mapMemberTexts, mapTexts_id value, mapMemberTexts_id rest]

end

/-! ## Tokens -/

/-- A token with a function applied to it if it is a string. -/
def Token.mapText (f : String → String) : Token → Token
  | .string s => .string (f s)
  | other => other

mutual

/-- The function acts on the tokens of a document. -/
theorem tokens_mapTexts (f : String → String) : (document : Json) →
    (mapTexts f document).tokens = document.tokens.map (Token.mapText f)
  | .null | .bool _ | .int _ | .float _ | .string _ => rfl
  | .array items => by
    simp [mapTexts, tokens, itemTokens_mapItemTexts f items, Token.mapText]
  | .object members => by
    simp [mapTexts, tokens, memberTokens_mapMemberTexts f members, Token.mapText]

/-- The tokens of items with changed texts are their tokens with changed texts. -/
theorem itemTokens_mapItemTexts (f : String → String) : (items : List Json) →
    itemTokens (mapItemTexts f items) = (itemTokens items).map (Token.mapText f)
  | [] => rfl
  | item :: rest => by
    simp [mapItemTexts, itemTokens, tokens_mapTexts f item, laterItemTokens_mapItemTexts f rest]

/-- The same behind a comma. -/
theorem laterItemTokens_mapItemTexts (f : String → String) : (items : List Json) →
    laterItemTokens (mapItemTexts f items) = (laterItemTokens items).map (Token.mapText f)
  | [] => rfl
  | item :: rest => by
    simp [mapItemTexts, laterItemTokens, tokens_mapTexts f item,
      laterItemTokens_mapItemTexts f rest, Token.mapText]

/-- The tokens of members with changed texts are their tokens with changed texts. -/
theorem memberTokens_mapMemberTexts (f : String → String) : (members : List (String × Json)) →
    memberTokens (mapMemberTexts f members) = (memberTokens members).map (Token.mapText f)
  | [] => rfl
  | (name, value) :: rest => by
    simp [mapMemberTexts, memberTokens, tokens_mapTexts f value,
      laterMemberTokens_mapMemberTexts f rest, Token.mapText]

/-- The same behind a comma. -/
theorem laterMemberTokens_mapMemberTexts (f : String → String) :
    (members : List (String × Json)) →
    laterMemberTokens (mapMemberTexts f members) =
      (laterMemberTokens members).map (Token.mapText f)
  | [] => rfl
  | (name, value) :: rest => by
    simp [mapMemberTexts, laterMemberTokens, tokens_mapTexts f value,
      laterMemberTokens_mapMemberTexts f rest, Token.mapText]

end

/-- A document reads back as substituted from the text in which the function has acted. -/
theorem read?_mapTexts (f : String → String) {document : Json}
    (hnumbers : NumbersReadBack document.tokens) :
    read? (mapTexts f document).written = some (substitute f document) := by
  have hback : NumbersReadBack (mapTexts f document).tokens := by
    intro token htoken
    rw [tokens_mapTexts] at htoken
    obtain ⟨original, horiginal, rfl⟩ := List.mem_map.mp htoken
    have hsame : (original.mapText f).readsBack = original.readsBack := by cases original <;> rfl
    rw [hsame]
    exact hnumbers original horiginal
  rw [read?_written hback, withoutRepeats_mapTexts]

/-! ## Marks in the text of a document -/

/-- The text of a token other than a string begins with no blank, and with a brace only if the
token opens an object. -/
theorem Token.written_cons (token : Token) :
    ∃ first rest, token.written = first :: rest ∧ first ≠ ' ' ∧
      ('\x7b' ∈ token.written → token = .openObject ∨ ∃ s, token = .string s) := by
  have hword : ∀ w, IsWord w → ∃ first rest, w = first :: rest ∧ first ≠ ' ' ∧ '\x7b' ∉ w := by
    intro w h
    obtain ⟨hne, hchars⟩ := h
    cases w with
    | nil => exact absurd rfl hne
    | cons first rest =>
      refine ⟨first, rest, rfl, ?_, fun hbrace => absurd (hchars _ hbrace) (by decide)⟩
      intro h
      subst h
      exact absurd (hchars _ (List.mem_cons_self ..)) (by decide)
  cases token with
  | openObject => exact ⟨_, _, rfl, by decide, fun _ => .inl rfl⟩
  | string s => exact ⟨_, _, rfl, by decide, fun _ => .inr ⟨s, rfl⟩⟩
  | int n =>
    obtain ⟨first, rest, hwritten, hblank, hbrace⟩ := hword _ (isWord_ofInt n)
    exact ⟨first, rest, hwritten, hblank, fun h => absurd h hbrace⟩
  | float x =>
    obtain ⟨first, rest, hwritten, hblank, hbrace⟩ := hword _ (isWord_text x)
    exact ⟨first, rest, hwritten, hblank, fun h => absurd h hbrace⟩
  | bool value => cases value <;> exact ⟨_, _, rfl, by decide, fun h => absurd h (by decide)⟩
  | _ => exact ⟨_, _, rfl, by decide, fun h => absurd h (by decide)⟩

/-- No mark begins where an object is opened: a second brace would open another object, and no
token begins with a blank. -/
theorem no_mark_at_openObject {pattern : List Char} (hmark : IsMark pattern)
    (tokens : List Token) :
    pattern.isPrefixOf ('\x7b' :: tokens.flatMap Token.written) = false := by
  obtain ⟨rest, rfl⟩ := hmark.opens
  cases tokens with
  | nil => rfl
  | cons second later =>
    obtain ⟨first, more, hsecond, -, hopens⟩ := second.written_cons
    by_cases hbrace : first = '\x7b'
    · subst hbrace
      rcases hopens (by simp [hsecond]) with rfl | ⟨s, rfl⟩
      · cases later with
        | nil => rfl
        | cons third later =>
          obtain ⟨first, more, hthird, hblank, -⟩ := third.written_cons
          have hne : (' ' == first) = false := beq_false_of_ne (Ne.symm hblank)
          rw [List.flatMap_cons, List.flatMap_cons, hthird, Token.written]
          simp [List.isPrefixOf, hne]
      · cases hsecond
    · have hne : ('\x7b' == first) = false := beq_false_of_ne (Ne.symm hbrace)
      simp [hsecond, List.isPrefixOf, hne]

/-- Replace a mark in a text. -/
def replaceText (pattern value : List Char) (s : String) : String :=
  String.ofList (replace pattern value s.toList)

/-- Replacing a mark in the text of tokens acts on their strings. -/
theorem replace_written {pattern value : List Char} (hmark : IsMark pattern)
    (tokens : List Token) :
    replace pattern (Escaped.encode value) (tokens.flatMap Token.written) =
      (tokens.map (Token.mapText (replaceText pattern value))).flatMap Token.written := by
  have hquote : '"' ∉ pattern := fun h => absurd (hmark.plain _ h) (by decide)
  have hpattern : pattern ≠ [] := by
    obtain ⟨rest, rfl⟩ := hmark.opens
    exact List.cons_ne_nil _ _
  induction tokens with
  | nil => rfl
  | cons token tokens ih =>
    rw [List.flatMap_cons, List.map_cons, List.flatMap_cons, ← ih]
    by_cases hstring : ∃ s, token = .string s
    · obtain ⟨s, rfl⟩ := hstring
      have hopen := replace_append_cons hpattern hquote (Escaped.encode value) []
        (Escaped.encode s.toList ++ '"' :: tokens.flatMap Token.written)
      have hclose := replace_append_cons hpattern hquote (Escaped.encode value)
        (Escaped.encode s.toList) (tokens.flatMap Token.written)
      rw [Escaped.replace_encode hmark] at hclose
      rw [hclose, replace_nil] at hopen
      simpa [Token.written, Token.mapText, replaceText] using hopen
    · have hother : token.mapText (replaceText pattern value) = token := by
        cases token with
        | string s => exact absurd ⟨s, rfl⟩ hstring
        | _ => rfl
      rw [hother]
      obtain ⟨-, -, -, -, hopens⟩ := token.written_cons
      by_cases hbrace : '\x7b' ∈ token.written
      · obtain rfl := (hopens hbrace).resolve_right hstring
        exact replace_cons_of_no_match (no_mark_at_openObject hmark tokens)
      · obtain ⟨rest, rfl⟩ := hmark.opens
        exact replace_append_of_not_mem hbrace ..

/-- Replacing a mark in the text of a document acts on all strings and names of the document. -/
theorem replace_written_document {pattern value : List Char} (hmark : IsMark pattern)
    (document : Json) :
    replace pattern (Escaped.encode value) document.written =
      (mapTexts (replaceText pattern value) document).written := by
  rw [written, replace_written hmark, ← tokens_mapTexts, written]

end TransferDrill.Json

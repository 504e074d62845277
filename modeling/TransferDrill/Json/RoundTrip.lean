import TransferDrill.Json.Document

/-!
# Tokens read back

Reading the tokens that are written for a document gives the document again, with one member for
each name: a repeated name keeps its place and takes the last value. The statement about the
reading machine is made for every stack of open containers, so that it can be proved by recursion
on the document.
-/

namespace TransferDrill.Json

mutual

/-- A document with one member for each name. -/
def withoutRepeats : Json → Json
  | .array items => .array (itemsWithoutRepeats items)
  | .object members => .object (membersWithoutRepeats [] members)
  | other => other

/-- Items with one member for each name. -/
def itemsWithoutRepeats : List Json → List Json
  | [] => []
  | item :: rest => item.withoutRepeats :: itemsWithoutRepeats rest

/-- Members set one after another on top of earlier ones. -/
def membersWithoutRepeats (earlier : Members) : List (String × Json) → Members
  | [] => earlier
  | (name, value) :: rest =>
    membersWithoutRepeats (earlier.put name value.withoutRepeats) rest

end

/-- A document starts with a token that is taken alike by a reader of a value and by one that
expects the first item of an array. -/
theorem tokens_head (document : Json) : ∃ first rest, document.tokens = first :: rest ∧
    ∀ outer,
      Reader.step (.firstItem outer) first = Reader.step (.value (.item [] :: outer)) first := by
  cases document <;> exact ⟨_, _, by simp only [tokens, List.cons_append]; rfl, fun _ => rfl⟩

/-- The first item of an array is read as any value in it is: its first token closes no array. -/
theorem foldlM_firstItem (document : Json) (outer : List Frame) :
    document.tokens.foldlM Reader.step (.firstItem outer) =
      document.tokens.foldlM Reader.step (.value (.item [] :: outer)) := by
  obtain ⟨first, rest, spelling, alike⟩ := tokens_head document
  rw [spelling, List.foldlM_cons, List.foldlM_cons, alike]

mutual

/-- A reader of a value takes the tokens of a document and hands the document on. -/
theorem foldlM_tokens : (document : Json) → (outer : List Frame) →
    document.tokens.foldlM Reader.step (.value outer) =
      some (Reader.deliver document.withoutRepeats outer)
  | .null, _ => rfl
  | .bool _, _ => rfl
  | .int _, _ => rfl
  | .float _, _ => rfl
  | .string _, _ => rfl
  | .array [], _ => rfl
  | .array (item :: rest), outer => by
    have later := foldlM_laterItemTokens rest [item.withoutRepeats] outer
    simp only [tokens, itemTokens, withoutRepeats, itemsWithoutRepeats, List.cons_append,
      List.append_assoc, List.foldlM_cons, List.foldlM_append]
    simp only [List.foldlM_append] at later
    simpa [Reader.step, Reader.enter, foldlM_firstItem, foldlM_tokens item, Reader.deliver]
      using later
  | .object [], _ => rfl
  | .object ((name, value) :: rest), outer => by
    have later := foldlM_laterMemberTokens rest (Keyed.put name value.withoutRepeats []) outer
    simp only [tokens, memberTokens, withoutRepeats, membersWithoutRepeats, List.cons_append,
      List.append_assoc, List.foldlM_cons, List.foldlM_append]
    simp only [List.foldlM_append] at later
    simpa [Reader.step, Reader.enter, foldlM_tokens value, Reader.deliver] using later

/-- After an item the reader takes the remaining items and closes the array. -/
theorem foldlM_laterItemTokens : (items earlier : List Json) → (outer : List Frame) →
    (laterItemTokens items ++ [Token.closeArray]).foldlM Reader.step (.afterItem earlier outer) =
      some (Reader.deliver (.array (earlier.reverse ++ itemsWithoutRepeats items)) outer)
  | [], earlier, outer => by simp [laterItemTokens, itemsWithoutRepeats, Reader.step]
  | item :: rest, earlier, outer => by
    have later := foldlM_laterItemTokens rest (item.withoutRepeats :: earlier) outer
    simp only [laterItemTokens, itemsWithoutRepeats, List.cons_append, List.append_assoc,
      List.foldlM_cons, List.foldlM_append]
    simp only [List.foldlM_append] at later
    simpa [Reader.step, Reader.enter, foldlM_tokens item, Reader.deliver] using later

/-- After a member the reader takes the remaining members and closes the object. -/
theorem foldlM_laterMemberTokens : (members : List (String × Json)) → (earlier : Members) →
    (outer : List Frame) →
    (laterMemberTokens members ++ [Token.closeObject]).foldlM Reader.step
        (.afterMember earlier outer) =
      some (Reader.deliver (.object (membersWithoutRepeats earlier members)) outer)
  | [], earlier, outer => by simp [laterMemberTokens, membersWithoutRepeats, Reader.step]
  | (name, value) :: rest, earlier, outer => by
    have later := foldlM_laterMemberTokens rest (earlier.put name value.withoutRepeats) outer
    simp only [laterMemberTokens, membersWithoutRepeats, List.cons_append, List.append_assoc,
      List.foldlM_cons, List.foldlM_append]
    simp only [List.foldlM_append] at later
    simpa [Reader.step, Reader.enter, foldlM_tokens value, Reader.deliver] using later

end

/-- Tokens read back as the document with one member for each name. -/
theorem ofTokens?_tokens (document : Json) :
    ofTokens? document.tokens = some document.withoutRepeats := by
  simp [ofTokens?, foldlM_tokens, Reader.deliver, Reader.finish]

end TransferDrill.Json

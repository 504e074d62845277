/-!
# Replacing text

Occurrences of a pattern are replaced from left to right; they do not overlap, and what was put
in is not searched again.
-/

namespace TransferDrill.Text

/-- Replace in a text whose first `skip` characters belong to an occurrence already replaced. -/
def replaceFrom (pattern value : List Char) : (skip : Nat) → List Char → List Char
  | _, [] => []
  | skip + 1, _ :: rest => replaceFrom pattern value skip rest
  | 0, c :: rest =>
    if pattern.isPrefixOf (c :: rest) then
      value ++ replaceFrom pattern value (pattern.length - 1) rest
    else c :: replaceFrom pattern value 0 rest

/-- Replace every occurrence of a non-empty pattern. -/
def replace (pattern value text : List Char) : List Char :=
  replaceFrom pattern value 0 text

/-- In an empty text nothing is replaced. -/
theorem replace_nil (pattern value : List Char) : replace pattern value [] = [] := rfl

/-- A character at which no occurrence starts stays. -/
theorem replace_cons_of_no_match {pattern value : List Char} {c : Char} {rest : List Char}
    (h : pattern.isPrefixOf (c :: rest) = false) :
    replace pattern value (c :: rest) = c :: replace pattern value rest := by
  simp [replace, replaceFrom, h]

end TransferDrill.Text

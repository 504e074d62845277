import TransferDrill.Numeric.Numeral
import TransferDrill.Text.Blank
import TransferDrill.Text.DecimalDigit

/-!
# Numbers in ledgers

A ledger entry is an integer in the decimal digits of any script, with blanks around it, a sign
and single underscores. The length of its digits is judged before what stands behind them.
-/

namespace TransferDrill.Numeral

/-- Why a ledger entry is no integer. -/
inductive EntryFault where
  | malformed
  | overlong (digits : Nat)
deriving DecidableEq, Repr

/-- Whether a character belongs to the digits of an entry. -/
def isEntryDigit (c : Char) : Bool := c == '_' || (Text.decimalValue? c).isSome

/-- The integer of a ledger entry. -/
def entry (s : List Char) : Except EntryFault Int :=
  let (negative, body) := splitSign (s.dropWhile Text.isBlank)
  match (ungrouped? (body.takeWhile isEntryDigit)).bind (·.mapM Text.decimalValue?) with
  | none => .error .malformed
  | some digits =>
    if maxDigits < digits.length then .error (.overlong digits.length)
    else if (body.dropWhile isEntryDigit).all Text.isBlank then
      .ok (signed negative (ofDigits digits))
    else .error .malformed

example : (entry " -1_0\n".toList).toOption = some (-10) := by decide +kernel
example : ["", "-", "1_", "_1", "1__0", "1 0", "+-1", "1.0"].map (entry ·.toList |>.toOption) =
    List.replicate 8 none := by
  decide +kernel

end TransferDrill.Numeral

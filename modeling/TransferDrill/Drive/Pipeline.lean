import TransferDrill.Drive.Script
import TransferDrill.Model.Settings

/-!
# Constructing a transaction

An intent becomes a signed transaction in steps of the adapter. The unsigned transaction is
parsed again and checked before anything is signed, the signed one before it is named: both have
to contain the intended operations, the first has no signers yet, and the second has exactly
those of the payloads.
-/

namespace TransferDrill

/-- A signed transaction and its name. -/
structure Transaction where
  identifier : TransactionIdentifier
  content : String
deriving DecidableEq, Repr

namespace Drive

variable (settings : Settings)

/-- Make a check after announcing it; the adapter may refuse. -/
def check {φ : Type} (announcement : Call) (report : CheckFault φ → Failure)
    (verdict : Except φ Unit) : Script Unit := do
  let _ ← Script.attempt announcement (report ∘ .refused)
  Script.ofExcept (report ∘ .found) verdict

/-- Check the operations of a parsed transaction. -/
def checkOperations (signed : Bool) (intent observed : List Operation) : Script Unit :=
  check (.checkOperations .lenient intent observed) (.operations signed)
    (Matching.checkOperations .lenient intent observed)

/-- Check the signers of a parsed transaction. -/
def checkSigners (payloads : List SigningPayload) (signers : List String) : Script Unit :=
  check (.checkSigners payloads signers) .signers (Matching.checkSigners payloads signers)

/-- Construct, sign and verify a transaction for an intent. -/
def createTransaction (intent : List Operation) : Script Transaction := do
  let network := settings.network
  let request ← Script.step (.preprocess network intent) .preprocess
  let metadata ← Script.step (.metadata network request) .metadata
  let unsigned ← Script.step (.payloads network intent metadata) .payloads
  let draft ← Script.step (.parse network false unsigned.content) (.parse false)
  Script.require draft.signers.isEmpty (.earlySigners draft.signers.length)
  checkOperations false intent draft.operations
  Script.log .debug s!"Unsigned transaction verified, signing {unsigned.payloads.length} payloads"
  let signatures ← Script.step (.sign unsigned.payloads) .sign
  let content ← Script.step (.combine network unsigned.content signatures) .combine
  let parsed ← Script.step (.parse network true content) (.parse true)
  checkOperations true intent parsed.operations
  checkSigners unsigned.payloads parsed.signers
  let identifier ← Script.step (.hash network content) .hash
  return ⟨identifier, content⟩

end Drive

end TransferDrill

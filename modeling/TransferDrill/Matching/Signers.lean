import TransferDrill.Model.Signing
import TransferDrill.Json.Literal

/-!
# Comparing signers with the payloads

The signers of a transaction have to be the addresses of its payloads, each exactly once however
many payloads it has to sign.
-/

namespace TransferDrill

/-- Why signers are not those of the payloads. -/
inductive SignersFault where
  | count (expected found : Nat)
  | missing (signers : List String)
  | unexpected (signers : List String)
deriving DecidableEq, Repr

/-- How wrong signers are reported. -/
def SignersFault.message : SignersFault → String
  | .count expected found => s!"expected {expected} signers but found {found}"
  | .missing signers => s!"missing signers: {Json.literalStrings signers}"
  | .unexpected signers => s!"unexpected signers: {Json.literalStrings signers}"

namespace Matching

/-- The addresses that have to sign, each once, in order of appearance. -/
def intendedSigners (payloads : List SigningPayload) : List String :=
  (payloads.map (·.signer)).eraseDups

/-- Check that the signers are the intended ones; those missing are listed in ascending order. -/
def checkSigners (payloads : List SigningPayload) (signers : List String) :
    Except SignersFault Unit :=
  let intended := intendedSigners payloads
  let missing := intended.filter (!signers.contains ·)
  let unexpected := signers.filter (!intended.contains ·)
  if intended.length ≠ signers.length then .error (.count intended.length signers.length)
  else if !missing.isEmpty then .error (.missing (missing.mergeSort (decide <| · ≤ ·)))
  else if !unexpected.isEmpty then .error (.unexpected unexpected)
  else .ok ()

end Matching

end TransferDrill

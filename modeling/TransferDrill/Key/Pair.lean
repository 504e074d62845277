import TransferDrill.Key.Secp256k1
import TransferDrill.Model.Signing

/-!
# Making key pairs

On secp256k1 the secret bytes are a big-endian number in the range of the group, and the public
key is compressed. On edwards25519 the pair is made elsewhere and only stored: of its secret
part the first 32 bytes, the seed, are kept. Other curves are not supported.
-/

namespace TransferDrill

open Schema Text

/-- Why no key pair could be made. -/
inductive KeyFault where
  | unsupportedCurve (curve : Curve)
  | scalarOutOfRange
deriving DecidableEq, Repr

/-- How a failure to make a key pair is reported. -/
def KeyFault.message : KeyFault → String
  | .unsupportedCurve curve => s!"unsupported curve type: {Choice.label curve}"
  | .scalarOutOfRange =>
    s!"Secret scalar must be greater than 0 and less than {Secp256k1.groupOrder}."

namespace KeyPair

/-- Bytes in hexadecimal. -/
def hex (bytes : List UInt8) : String := String.ofList (Hex.encode bytes)

/-- The pair of a secret scalar on secp256k1. -/
def ofSecret (secret : List UInt8) : Except KeyFault KeyPair :=
  let scalar := Secp256k1.ofBigEndian secret
  if 0 < scalar ∧ scalar < Secp256k1.groupOrder then
    .ok ⟨⟨hex (Secp256k1.publicKey scalar), .secp256k1⟩, hex (Secp256k1.bigEndian 32 scalar)⟩
  else .error .scalarOutOfRange

/-- The pair of public and secret bytes on edwards25519. -/
def ofEdwards (publicBytes secretBytes : List UInt8) : KeyPair :=
  ⟨⟨hex publicBytes, .edwards25519⟩, hex (secretBytes.take 32)⟩

/-- The bytes of the private key. -/
def privateBytes (pair : KeyPair) : Except Hex.Stray (List UInt8) :=
  Hex.decode pair.privateKey.toList

end KeyPair

end TransferDrill

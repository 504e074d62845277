import TransferDrill.Schema.Choice

/-!
# The kinds that documents name

Accounting models, curves, signature schemes and what happens to a coin.
-/

namespace TransferDrill

open Schema

/-- How a chain keeps balances: per account, or as unspent coins. -/
inductive AccountingModel where
  | account
  | utxo
deriving DecidableEq, Repr

instance : Choice AccountingModel where
  all := [.account, .utxo]
  label
    | .account => "account"
    | .utxo => "utxo"

/-- The curve of a key. -/
inductive Curve where
  | secp256k1
  | secp256r1
  | edwards25519
  | tweedle
  | pallas
deriving DecidableEq, Repr

instance : Choice Curve where
  all := [.secp256k1, .secp256r1, .edwards25519, .tweedle, .pallas]
  label
    | .secp256k1 => "secp256k1"
    | .secp256r1 => "secp256r1"
    | .edwards25519 => "edwards25519"
    | .tweedle => "tweedle"
    | .pallas => "pallas"

/-- The scheme of a signature. -/
inductive SignatureScheme where
  | ecdsa
  | ecdsaRecovery
  | ed25519
  | schnorr1
  | schnorrPoseidon
deriving DecidableEq, Repr

instance : Choice SignatureScheme where
  all := [.ecdsa, .ecdsaRecovery, .ed25519, .schnorr1, .schnorrPoseidon]
  label
    | .ecdsa => "ecdsa"
    | .ecdsaRecovery => "ecdsa_recovery"
    | .ed25519 => "ed25519"
    | .schnorr1 => "schnorr_1"
    | .schnorrPoseidon => "schnorr_poseidon"

/-- What an operation does to a coin. -/
inductive CoinAction where
  | created
  | spent
deriving DecidableEq, Repr

instance : Choice CoinAction where
  all := [.created, .spent]
  label
    | .created => "coin_created"
    | .spent => "coin_spent"

end TransferDrill

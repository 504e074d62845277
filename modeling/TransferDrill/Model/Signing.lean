import TransferDrill.Model.Chain

/-!
# Keys, payloads and signatures

What is exchanged with an adapter to have a transaction signed.
-/

namespace TransferDrill

open Schema

/-- A public key in hexadecimal. -/
structure PublicKey where
  hexBytes : String
  curve : Curve
deriving DecidableEq, Repr

instance : Record PublicKey where
  title := "PublicKey"
  ofMembers m :=
    PublicKey.mk
      <$> required "hex_bytes" string m
      <*> required "curve_type" Choice.read m
  toMembers _ a := [("hex_bytes", .string a.hexBytes), ("curve_type", Choice.dump a.curve)]

/-- Key material to be stored by the adapter; the private key is in hexadecimal. -/
structure KeyPair where
  publicKey : PublicKey
  privateKey : String
deriving DecidableEq, Repr

instance : Record KeyPair where
  title := "KeyPair"
  ofMembers m :=
    KeyPair.mk
      <$> required "public_key" Record.read m
      <*> required "private_key" string m
  toMembers keepAbsent a :=
    [("public_key", Record.dump keepAbsent a.publicKey), ("private_key", .string a.privateKey)]

/-- Bytes to be signed, by an account or by a bare address. -/
structure SigningPayload where
  account : Option AccountIdentifier
  address : Option String
  hexBytes : String
  scheme : Option SignatureScheme
deriving DecidableEq, Repr

instance : Record SigningPayload where
  title := "SigningPayload"
  ofMembers m :=
    SigningPayload.mk
      <$> optional "account_identifier" Record.read m
      <*> optional "address" string m
      <*> required "hex_bytes" string m
      <*> optional "signature_type" Choice.read m
  toMembers keepAbsent a :=
    optionalMember keepAbsent "account_identifier" (a.account.map (Record.dump keepAbsent))
      ++ optionalMember keepAbsent "address" (a.address.map .string)
      ++ [("hex_bytes", .string a.hexBytes)]
      ++ optionalMember keepAbsent "signature_type" (a.scheme.map Choice.dump)
  portable a := { a with account := a.account.map Record.portable }
  nesting a := partNesting a.account

/-- The address that has to sign: the account's if there is an account, else the bare one. -/
def SigningPayload.signer (payload : SigningPayload) : String :=
  match payload.account with
  | some account => account.address
  | none => payload.address.getD ""

/-- A signature of a payload. -/
structure Signature where
  payload : SigningPayload
  publicKey : PublicKey
  scheme : SignatureScheme
  hexBytes : String
deriving DecidableEq, Repr

instance : Record Signature where
  title := "Signature"
  ofMembers m :=
    Signature.mk
      <$> required "signing_payload" Record.read m
      <*> required "public_key" Record.read m
      <*> required "signature_type" Choice.read m
      <*> required "hex_bytes" string m
  toMembers keepAbsent a :=
    [("signing_payload", Record.dump keepAbsent a.payload),
      ("public_key", Record.dump keepAbsent a.publicKey),
      ("signature_type", Choice.dump a.scheme), ("hex_bytes", .string a.hexBytes)]
  portable a := { a with payload := Record.portable a.payload }
  nesting a := Record.nesting a.payload

/-- The name of a transaction on its network. -/
structure TransactionIdentifier where
  hash : String
deriving DecidableEq, Repr

instance : Record TransactionIdentifier where
  title := "TransactionIdentifier"
  ofMembers m := TransactionIdentifier.mk <$> required "hash" nonEmptyString m
  toMembers _ a := [("hash", .string a.hash)]

/-- A transaction that was handed off and is not yet confirmed. -/
structure Broadcast where
  identifier : TransactionIdentifier
  sender : String
deriving DecidableEq, Repr

instance : Record Broadcast where
  title := "Broadcast"
  ofMembers m :=
    Broadcast.mk
      <$> required "identifier" Record.read m
      <*> required "sender" string m
  toMembers keepAbsent a :=
    [("identifier", Record.dump keepAbsent a.identifier), ("sender", .string a.sender)]

end TransferDrill

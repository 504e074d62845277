import TransferDrill.Drive.Address
import TransferDrill.Proofs.Drive.Path
import TransferDrill.Proofs.Text.Hex
import Mathlib.Data.List.Induction

/-!
# Stored keys

Key material is stored as hexadecimal text. What is stored of a key pair reads back: on secp256k1
the private key as the 32 bytes of the secret scalar, zeros in front included, from which the same
pair is made again, and the public key as a compressed point; on edwards25519 the private key as the
seed and the public key as the public bytes.
-/

namespace TransferDrill

open Text

namespace Secp256k1

/-- The last byte counts least. -/
theorem ofBigEndian_concat (bytes : List UInt8) (b : UInt8) :
    ofBigEndian (bytes ++ [b]) = 256 * ofBigEndian bytes + b.toNat := by
  rw [ofBigEndian, List.foldl_append]
  rfl

/-- Zero has zeros only. -/
theorem bigEndian_zero (width : Nat) : bigEndian width 0 = List.replicate width 0 := by
  induction width with
  | zero => rfl
  | succ width ih =>
    rw [bigEndian, Nat.zero_div, ih, List.replicate_succ']
    rfl

/-- The bytes of a number are written again, with zeros in front up to the width. -/
theorem bigEndian_ofBigEndian (zeros : Nat) (bytes : List UInt8) :
    bigEndian (zeros + bytes.length) (ofBigEndian bytes) = List.replicate zeros 0 ++ bytes := by
  induction bytes using List.reverseRecOn with
  | nil => simpa [ofBigEndian] using bigEndian_zero zeros
  | append_singleton bytes b ih =>
    have hlt := b.toNat_lt
    have hquotient : (256 * ofBigEndian bytes + b.toNat) / 256 = ofBigEndian bytes := by omega
    have hlast : UInt8.ofNat ((256 * ofBigEndian bytes + b.toNat) % 256) = b := by
      apply UInt8.toNat_inj.mp
      rw [UInt8.toNat_ofNat']
      omega
    rw [List.length_append, List.length_singleton, ← Nat.add_assoc, bigEndian, ofBigEndian_concat,
      hquotient, hlast, ih, List.append_assoc]

/-- Bytes of the right width are those of the number that they denote. -/
theorem bigEndian_ofBigEndian_of_length {width : Nat} {bytes : List UInt8}
    (h : bytes.length ≤ width) :
    bigEndian width (ofBigEndian bytes) = List.replicate (width - bytes.length) 0 ++ bytes := by
  rw [← bigEndian_ofBigEndian, Nat.sub_add_cancel h]

/-- A compressed point is a parity, two or three, and then 32 bytes. -/
theorem exists_compress (p : Point) :
    ∃ parity x, compress p = parity :: x ∧ (parity = 2 ∨ parity = 3) ∧ x.length = 32 := by
  have hparity (y : Nat) : UInt8.ofNat (2 + y % 2) = 2 ∨ UInt8.ofNat (2 + y % 2) = 3 := by
    rcases Nat.mod_two_eq_zero_or_one y with h | h
    · exact .inl (by rw [h]; rfl)
    · exact .inr (by rw [h]; rfl)
  exact ⟨_, _, rfl, hparity _, bigEndian_length 32 _⟩

end Secp256k1

namespace KeyPair

open Secp256k1

/-- Bytes in hexadecimal are read as these. -/
theorem decode_hex (bytes : List UInt8) : Hex.decode (hex bytes).toList = .ok bytes := by
  rw [hex, String.toList_ofList]
  exact Hex.decode_eq_ok_iff.mpr (Hex.spells_encode bytes)

/-- A secret gives a pair exactly if its number is in the range of the group, and then the pair of
that number. -/
theorem ofSecret_eq_ok_iff {secret : List UInt8} {pair : KeyPair} :
    ofSecret secret = .ok pair ↔
      (0 < ofBigEndian secret ∧ ofBigEndian secret < groupOrder) ∧
        ⟨⟨hex (Secp256k1.publicKey (ofBigEndian secret)), .secp256k1⟩,
          hex (bigEndian 32 (ofBigEndian secret))⟩ = pair := by
  rw [ofSecret]
  split
  · next hrange => simp [hrange]
  · next hrange => simp [hrange]

/-- What is stored of a scalar reads back as its 32 bytes, from which the same pair is made. -/
theorem ofSecret_privateBytes {secret : List UInt8} {pair : KeyPair}
    (h : ofSecret secret = .ok pair) :
    ∃ bytes, pair.privateBytes = .ok bytes ∧ bytes.length = 32 ∧
      ofBigEndian bytes = ofBigEndian secret ∧
      (secret.length ≤ 32 → bytes = List.replicate (32 - secret.length) 0 ++ secret) ∧
      ofSecret bytes = .ok pair := by
  obtain ⟨hrange, rfl⟩ := ofSecret_eq_ok_iff.mp h
  have hfits : ofBigEndian secret < 256 ^ 32 := Nat.lt_trans hrange.2 (by decide)
  have hsame := ofBigEndian_bigEndian hfits
  refine ⟨_, decode_hex _, bigEndian_length 32 _, hsame, bigEndian_ofBigEndian_of_length, ?_⟩
  rw [ofSecret_eq_ok_iff, hsame]
  exact ⟨hrange, rfl⟩

/-- What is stored of a public key reads back as a compressed point. -/
theorem ofSecret_publicBytes {secret : List UInt8} {pair : KeyPair}
    (h : ofSecret secret = .ok pair) :
    ∃ parity x, Hex.decode pair.publicKey.hexBytes.toList = .ok (parity :: x) ∧
      (parity = 2 ∨ parity = 3) ∧ x.length = 32 := by
  obtain ⟨-, rfl⟩ := ofSecret_eq_ok_iff.mp h
  obtain ⟨parity, x, hkey, hparity, hlength⟩ :=
    exists_compress (multiple base 256 (ofBigEndian secret))
  refine ⟨parity, x, ?_, hparity, hlength⟩
  rw [← hkey]
  exact decode_hex _

end KeyPair

namespace Drive

open Secp256k1

/-- On secp256k1 a pair is made of secret bytes. -/
theorem newKeyPair_secp256k1_leads {events : List Event} {pair : KeyPair}
    (h : (newKeyPair .secp256k1).Leads events (.done pair)) :
    ∃ secret, events = [⟨.secretBytes, secret⟩] ∧ KeyPair.ofSecret secret = .ok pair := by
  obtain ⟨secret, later, rfl, hlater⟩ := Script.leads_request_bind_iff.mp h
  refine ⟨secret, ?_⟩
  cases hmade : KeyPair.ofSecret secret with
  | ok made =>
    rw [hmade, Script.ofExcept, Script.leads_done_iff] at hlater
    obtain ⟨rfl, hpair⟩ := hlater
    cases hpair
    exact ⟨rfl, rfl⟩
  | error fault =>
    rw [hmade, Script.ofExcept, Script.leads_failed_iff] at hlater
    cases hlater.2

/-- On edwards25519 a pair is stored as it was made. -/
theorem newKeyPair_edwards25519_leads {events : List Event} {pair : KeyPair}
    (h : (newKeyPair .edwards25519).Leads events (.done pair)) :
    ∃ publicBytes secretBytes, events = [⟨.edwardsPair, (publicBytes, secretBytes)⟩] ∧
      KeyPair.ofEdwards publicBytes secretBytes = pair := by
  obtain ⟨⟨publicBytes, secretBytes⟩, later, rfl, hlater⟩ := Script.leads_request_bind_iff.mp h
  obtain ⟨rfl, hpair⟩ := Script.leads_done_iff.mp hlater
  cases hpair
  exact ⟨publicBytes, secretBytes, rfl, rfl⟩

/-- Key pairs survive storage. On secp256k1 a pair is made of any secret bytes whose number is in
the range of the group; its private key reads back as the 32 bytes of that number, which are the
secret with zeros in front and give the same pair again, and its public key as a parity and 32
bytes. On edwards25519 the private key reads back as the first 32 secret bytes and the public key as
the public bytes. Whatever is stored as a private key, its bytes are those that the text spells;
bytes written in either case, with blanks around them, are spelled. -/
theorem newKeyPair_survives :
    (∀ events pair, (newKeyPair .secp256k1).Leads events (.done pair) →
      ∃ secret bytes parity x, events = [⟨.secretBytes, secret⟩] ∧
        pair.privateBytes = .ok bytes ∧ bytes.length = 32 ∧
        ofBigEndian bytes = ofBigEndian secret ∧
        (secret.length ≤ 32 → bytes = List.replicate (32 - secret.length) 0 ++ secret) ∧
        KeyPair.ofSecret bytes = .ok pair ∧
        Hex.decode pair.publicKey.hexBytes.toList = .ok (parity :: x) ∧
        (parity = 2 ∨ parity = 3) ∧ x.length = 32) ∧
      (∀ secret, (∃ pair, KeyPair.ofSecret secret = .ok pair) ↔
        0 < ofBigEndian secret ∧ ofBigEndian secret < groupOrder) ∧
      (∀ events pair, (newKeyPair .edwards25519).Leads events (.done pair) →
        ∃ publicBytes secretBytes, events = [⟨.edwardsPair, (publicBytes, secretBytes)⟩] ∧
          pair.privateBytes = .ok (secretBytes.take 32) ∧
          Hex.decode pair.publicKey.hexBytes.toList = .ok publicBytes) ∧
      (∀ (pair : KeyPair) (bytes : List UInt8),
        pair.privateBytes = .ok bytes ↔ Hex.Spells pair.privateKey.toList bytes) ∧
      ∀ (key : PublicKey) (casing : Hex.Casing) (pieces : List (List Char × UInt8))
        (last : List Char), (∀ piece ∈ pieces, ∀ c ∈ piece.1, isAsciiBlank c = true) →
        (∀ c ∈ last, isAsciiBlank c = true) →
        KeyPair.privateBytes ⟨key, String.ofList (Hex.layOut casing pieces last)⟩ =
          .ok (pieces.map Prod.snd) := by
  refine ⟨?_, ?_, ?_, fun pair bytes => Hex.decode_eq_ok_iff, ?_⟩
  · intro events pair h
    obtain ⟨secret, hevents, hmade⟩ := newKeyPair_secp256k1_leads h
    obtain ⟨bytes, hbytes, hlength, hvalue, hpadded, hagain⟩ :=
      KeyPair.ofSecret_privateBytes hmade
    obtain ⟨parity, x, hkey, hparity, hx⟩ := KeyPair.ofSecret_publicBytes hmade
    exact ⟨secret, bytes, parity, x, hevents, hbytes, hlength, hvalue, hpadded, hagain, hkey,
      hparity, hx⟩
  · intro secret
    constructor
    · exact fun ⟨pair, hmade⟩ => (KeyPair.ofSecret_eq_ok_iff.mp hmade).1
    · exact fun hrange => ⟨_, KeyPair.ofSecret_eq_ok_iff.mpr ⟨hrange, rfl⟩⟩
  · intro events pair h
    obtain ⟨publicBytes, secretBytes, hevents, rfl⟩ := newKeyPair_edwards25519_leads h
    exact ⟨publicBytes, secretBytes, hevents, KeyPair.decode_hex _, KeyPair.decode_hex _⟩
  · intro key casing pieces last hgaps hlast
    rw [KeyPair.privateBytes, String.toList_ofList]
    exact Hex.decode_eq_ok_iff.mpr (Hex.spells_layOut casing hgaps hlast)

/-- The smallest secret is stored with all its zeros, and blanks do no harm to a stored key. -/
theorem newKeyPair_survives_rehearsed :
    let secret := List.replicate 31 0 ++ [1];
    (∃ pair, (newKeyPair .secp256k1).Leads [⟨.secretBytes, secret⟩] (.done pair) ∧
      pair.privateBytes = .ok secret) ∧
      KeyPair.privateBytes ⟨⟨"", .secp256k1⟩, " 0A\tFF\n"⟩ = .ok [10, 255] := by
  intro secret
  obtain ⟨hsurvives, hrange, -, -, hspelled⟩ := newKeyPair_survives
  constructor
  · obtain ⟨pair, hmade⟩ := (hrange secret).mpr (by decide)
    have hleads : (newKeyPair .secp256k1).Leads [⟨.secretBytes, secret⟩] (.done pair) := by
      refine Script.leads_request_bind_iff.mpr ⟨secret, [], rfl, ?_⟩
      rw [hmade]
      exact .done pair
    obtain ⟨given, bytes, -, -, hevents, hbytes, -, -, hpadded, -⟩ := hsurvives _ _ hleads
    cases hevents
    refine ⟨pair, hleads, ?_⟩
    rw [hbytes, hpadded (by decide)]
    rfl
  · exact hspelled ⟨"", .secp256k1⟩ .upper [([' '], 10), (['\t'], 255)] ['\n']
      (by simp [isAsciiBlank]) (by simp [isAsciiBlank])

end Drive

end TransferDrill

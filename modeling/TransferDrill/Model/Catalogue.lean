import TransferDrill.Model.Operation
import TransferDrill.Model.Signing
import TransferDrill.Model.Settings

/-!
# The catalogue of records

Every record of the drill under its title, to read and check a document of a kind named at run
time.
-/

namespace TransferDrill

open Schema

/-- Read a document as a record and write it again with all its members. -/
def Schema.Record.normalize (α : Type) [Record α] (document : Json) :
    Reading (Except TooDeep Json) :=
  (Record.read document : Reading α).map (Record.write true)

/-- The records by title. -/
def catalogue : List (String × (Json → Reading (Except TooDeep Json))) :=
  let entry (α : Type) [Record α] := (Record.title α, Record.normalize α)
  [entry NetworkIdentifier, entry Currency, entry AccountIdentifier, entry Amount,
    entry CoinIdentifier, entry CoinChange, entry OperationIdentifier, entry Operation,
    entry PublicKey, entry KeyPair, entry SigningPayload, entry Signature,
    entry TransactionIdentifier, entry Broadcast, entry Settings]

end TransferDrill

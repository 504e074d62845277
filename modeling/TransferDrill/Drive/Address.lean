import TransferDrill.Drive.Script
import TransferDrill.Model.Settings
import TransferDrill.Model.Display

/-!
# Addresses and their funds

What an address must hold, how its holding is looked up, how a new address comes about, and how
the drive waits until someone has funded it.
-/

namespace TransferDrill

open Schema

/-- The kinds of transfer, by the balance that they need. -/
inductive Action where
  | newAccountSend
  | existingAccountSend
  | changeSend
  | fullSend
deriving DecidableEq, Repr

instance : Choice Action where
  all := [.newAccountSend, .existingAccountSend, .changeSend, .fullSend]
  label
    | .newAccountSend => "new-account-send"
    | .existingAccountSend => "existing-account-send"
    | .changeSend => "change-send"
    | .fullSend => "full-send"

/-- What an address must hold for a transfer: the fee, the minimum that stays with the sender or
goes to the only output, and a second minimum for a new account or a change output. -/
def Settings.requiredBalance (settings : Settings) : Action → Nat
  | .newAccountSend | .changeSend => 2 * settings.minimumBalance + settings.maximumFee
  | .existingAccountSend | .fullSend => settings.minimumBalance + settings.maximumFee

namespace Drive

variable (settings : Settings)

/-- Look up what an address holds. -/
def holding (address : String) : Script Holding :=
  let account := AccountIdentifier.ofAddress address
  match settings.accounting with
  | .utxo => Script.call (.coinBalance account settings.currency) (.fetchBalance address)
  | .account => do
    let value ← Script.call (.accountBalance account settings.currency) (.fetchBalance address)
    return ⟨value, none⟩

/-- Make a key pair on a curve. -/
def newKeyPair (curve : Curve) : Script KeyPair :=
  match curve with
  | .secp256k1 => do
    let secret ← Script.request .secretBytes
    Script.ofExcept .keyPair (KeyPair.ofSecret secret)
  | .edwards25519 => do
    let (publicBytes, secretBytes) ← Script.request .edwardsPair
    return KeyPair.ofEdwards publicBytes secretBytes
  | other => .failed (.keyPair (.unsupportedCurve other))

/-- Make a key pair, derive its address, store the key and only then announce the address. -/
def newAddress : Script String := do
  let pair ← newKeyPair settings.curve
  let address ← Script.call (.derive settings.network pair.publicKey) .deriveAddress
  Script.call (.storeKey address pair) .storeAddress
  Script.call (.addressCreated address) .announceAddress
  Script.log .info s!"Created address {address}"
  return address

/-- An amount for a log line. -/
def showAmount (amount : Int) : Script String :=
  match settings.currency.display? amount with
  | some text => .done text
  | none => .failed .unshowableAmount

/-- The balance that a new address is funded with: enough for every kind of transfer. -/
def fundingGoal : Nat :=
  match settings.accounting with
  | .utxo => settings.requiredBalance .changeSend
  | .account => settings.requiredBalance .newAccountSend

/-- The goal is two minimums and the fee, whatever kind of transfer asks for it. -/
theorem fundingGoal_eq :
    (fundingGoal settings : Int) = 2 * settings.minimumBalance + settings.maximumFee := by
  unfold fundingGoal
  cases settings.accounting <;> simp [Settings.requiredBalance]

/-- Look at an address until it holds the goal; the need is announced once. -/
def awaitFundsFrom (address : String) :
    (rounds : Nat) → (announced : Bool) → Script (Int × Option CoinIdentifier)
  | 0, _ => .unfinished
  | rounds + 1, announced => do
    let held ← holding settings address
    match held.balance.filter fun balance => (fundingGoal settings : Int) ≤ balance with
    | some balance =>
      let shown ← showAmount settings balance
      Script.log .info s!"Found balance {shown} on {address}"
      return (balance, held.coin)
    | none =>
      if !announced then
        let shown ← showAmount settings (fundingGoal settings)
        Script.log .warning s!"Waiting for funds on {address} (need {shown})"
      Script.sleep settings.sleepTime
      awaitFundsFrom address rounds true

/-- Wait until an address holds enough to send from. -/
def awaitFunds (patience : Nat) (address : String) : Script (Int × Option CoinIdentifier) :=
  awaitFundsFrom settings address patience false

/-- Create an address and wait until it is funded. -/
def fundNewAddress (patience : Nat) : Script Unit := do
  let address ← newAddress settings
  let report := fun f : Failure => if f.isConstruction then .funding address f else f
  let _ ← (awaitFunds settings patience address).reportAs report

end Drive

end TransferDrill

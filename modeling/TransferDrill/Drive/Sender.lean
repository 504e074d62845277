import TransferDrill.Drive.Address

/-!
# Finding a sender

The sender is the first unlocked address with the highest balance, all of it read afresh. Where
there is none, the drive waits for pending broadcasts, and where there are none of these either,
it funds a new address.
-/

namespace TransferDrill

/-- An address to send from and what it holds. -/
structure Sender where
  address : String
  balance : Int
  coin : Option CoinIdentifier
deriving DecidableEq, Repr

/-- The better of the best sender so far and a later one, which has to hold more. -/
def Sender.better (best : Option Sender) (later : Sender) : Sender :=
  match best with
  | none => later
  | some sender => if sender.balance < later.balance then later else sender

namespace Drive

variable (settings : Settings)

/-- The best sender among addresses that are not locked, given the best one so far. -/
def bestAmong (locked : List String) : (best : Option Sender) → List String → Script (Option Sender)
  | best, [] => .done best
  | best, address :: rest =>
    if locked.contains address then bestAmong locked best rest
    else do
      let held ← holding settings address
      match held.balance with
      | none => bestAmong locked best rest
      | some balance =>
        bestAmong locked (some (Sender.better best ⟨address, balance, held.coin⟩)) rest

/-- The best unlocked sender; an empty address names nobody. -/
def bestUnlocked (addresses : List String) : Script (Option Sender) := do
  let locked ← Script.call .lockedAddresses .listLocked
  let best ← bestAmong settings locked none addresses
  return best.filter fun sender => !sender.address.isEmpty

/-- Look for a sender, for a number of rounds. -/
def findSenderFrom (patience : Nat) : (rounds : Nat) → Script Sender
  | 0 => .unfinished
  | rounds + 1 => do
    let addresses ← Script.call .allAddresses .listAddresses
    if addresses.isEmpty then
      fundNewAddress settings patience
      findSenderFrom patience rounds
    else
      match ← bestUnlocked settings addresses with
      | some sender => return sender
      | none =>
        let broadcasts ← Script.call .allBroadcasts .listBroadcasts
        if broadcasts.isEmpty then
          fundNewAddress settings patience
          findSenderFrom patience rounds
        else
          Script.log .debug s!"All addresses locked, waiting on {broadcasts.length} broadcasts"
          Script.sleep settings.sleepTime
          findSenderFrom patience rounds

/-- Find a funded sender, waiting and creating addresses as long as it takes. -/
def findSender (patience : Nat) : Script Sender :=
  findSenderFrom settings patience patience

end Drive

end TransferDrill

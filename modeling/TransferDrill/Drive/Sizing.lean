import TransferDrill.Drive.Sender

/-!
# Sizing a transfer

From a sender and what it holds: who receives, how much, and whether there is change. On a chain
of accounts the sender has to hold the fee as well, but keeps only the minimum, from which the fee
may be paid; on a chain of coins the whole coin is spent and every output receives the minimum at
least.
-/

namespace TransferDrill

/-- A transfer that has been sized, and the templates of its operations. -/
structure Transfer where
  context : Context
  templates : List Operation
deriving DecidableEq, Repr

/-- The operations of a transfer. -/
def Transfer.populate (transfer : Transfer) : Except PopulateFault (List Operation) :=
  transfer.context.populate transfer.templates

/-- Possible recipients by whether they hold the minimum. -/
structure Recipients where
  funded : List String
  others : List String
deriving DecidableEq, Repr

/-- An address that was picked, and whether it was created for that. -/
structure Pick where
  address : String
  created : Bool
deriving DecidableEq, Repr

namespace Drive

variable (settings : Settings)

/-- Divide addresses by whether they hold the minimum. -/
def divide : List String → Script Recipients
  | [] => .done ⟨[], []⟩
  | address :: rest => do
    let held ← holding settings address
    let recipients ← divide rest
    if held.balance.any fun balance => (settings.minimumBalance : Int) ≤ balance then
      return { recipients with funded := address :: recipients.funded }
    else
      return { recipients with others := address :: recipients.others }

/-- All addresses but the sender's, by whether they hold the minimum; an output on a chain of
coins always receives the minimum, so there nobody counts as funded. -/
def findRecipients (sender : String) : Script Recipients := do
  let addresses ← Script.call .allAddresses .listAddresses
  let candidates := addresses.filter (· != sender)
  match settings.accounting with
  | .utxo => return ⟨[], candidates⟩
  | .account => divide settings candidates

/-- Pick the first candidate, or now and then a new address while there are not too many. -/
def pickAddress (candidates : List String) : Script Pick := do
  let available ← Script.call .allAddresses .listAvailable
  match candidates with
  | [] => return ⟨← newAddress settings, true⟩
  | first :: _ =>
    let draw ← Script.request .probability
    if settings.newAddressProbability.exact.less draw.exact &&
        decide (available.length < settings.maxAddresses) then
      return ⟨← newAddress settings, true⟩
    else return ⟨first, false⟩

/-- Draw an amount from a range. -/
def drawAmount (low high : Int) : Script Int :=
  if high < low then .failed (.invertedRange ⟨low, high⟩) else Script.request (.uniform low high)

/-- A transfer between accounts: what is sent is what is received. -/
def accountTransfer (sender recipient : String) (value : Int) : Transfer where
  context := ⟨sender, value, recipient, value, settings.currency, "", none, none⟩
  templates := settings.templates

/-- Size a transfer on a chain of accounts. -/
def sizeAccount (sender : String) (balance : Int) (recipients : Recipients) : Script Transfer := do
  let spendable := balance - settings.minimumBalance
  if settings.requiredBalance .newAccountSend ≤ balance then
    let pick ← pickAddress settings (recipients.funded ++ recipients.others)
    let least : Int :=
      if pick.created || recipients.others.contains pick.address then settings.minimumBalance else 0
    let value ← drawAmount least spendable
    return accountTransfer settings sender pick.address value
  else if settings.requiredBalance .existingAccountSend ≤ balance then
    match recipients.funded with
    | [] => .failed (.ofShortage (.noFundedRecipient sender))
    | recipient :: _ =>
      let value ← drawAmount 0 spendable
      return accountTransfer settings sender recipient value
  else
    .failed
      (.ofShortage (.balanceBelow balance sender (settings.requiredBalance .existingAccountSend)))

/-- A transfer of a whole coin to one output. -/
def fullTransfer (sender : String) (coinValue : Int) (coin : Option CoinIdentifier)
    (recipient : String) (value : Int) : Transfer where
  context := ⟨sender, coinValue, recipient, value, settings.currency, "", none, coin⟩
  templates := settings.templates

/-- A transfer of a whole coin to an output and to change; nothing is added for change that has
no address. -/
def changeTransfer (sender : String) (coinValue : Int) (coin : Option CoinIdentifier)
    (recipient : String) (value : Int) (template : Operation) (changeAddress : String)
    (changeValue : Int) : Transfer where
  context :=
    ⟨sender, coinValue, recipient, value, settings.currency, changeAddress, some changeValue, coin⟩
  templates := settings.templates ++ (if changeAddress.isEmpty then [] else [template])

/-- Size a transfer of a whole coin. -/
def sizeCoin (sender : String) (coinValue : Int) (candidates : List String)
    (coin : Option CoinIdentifier) : Script Transfer := do
  let minimum : Int := settings.minimumBalance
  let spendable := coinValue - settings.maximumFee
  if coinValue < settings.requiredBalance .fullSend then
    .failed (.ofShortage (.coinBelow coinValue sender (settings.requiredBalance .fullSend)))
  else
    let pick ← pickAddress settings candidates
    let left := if pick.created then candidates else candidates.filter (· != pick.address)
    match settings.changeTemplate.filter
        fun _ => settings.requiredBalance .changeSend ≤ coinValue with
    | some template =>
      let change ← pickAddress settings left
      let surplus := spendable - 2 * minimum
      let share ← drawAmount 0 surplus
      return changeTransfer settings sender coinValue coin pick.address (minimum + share) template
        change.address (minimum + (surplus - share))
    | none =>
      let value ← drawAmount minimum spendable
      return fullTransfer settings sender coinValue coin pick.address value

/-- Decide on a transfer from a sender. -/
def sizeTransfer (sender : Sender) : Script Transfer := do
  let recipients ← findRecipients settings sender.address
  match settings.accounting with
  | .utxo => sizeCoin settings sender.address sender.balance recipients.others sender.coin
  | .account => sizeAccount settings sender.address sender.balance recipients

end Drive

end TransferDrill

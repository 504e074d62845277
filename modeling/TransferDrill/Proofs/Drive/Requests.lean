import TransferDrill.Drive.Loop
import TransferDrill.Proofs.Drive.Path

/-!
# What the parts of the drive ask for

Selecting a sender and finding recipients only read. Sizing a transfer reads, makes addresses and
draws; it neither sleeps nor asks what is locked or pending. Before there is an intent, nothing is
constructed or handed off, and construction does nothing but that.
-/

namespace TransferDrill

namespace Ask

/-- Requests for addresses and for what they hold. -/
def ReadsHoldings : Ask → Prop
  | .call .allAddresses | .call (.accountBalance ..) | .call (.coinBalance ..) => True
  | _ => False

/-- Requests for the state of the world. -/
def Reads : Ask → Prop
  | .call .allAddresses | .call .lockedAddresses | .call .allBroadcasts => True
  | .call (.accountBalance ..) | .call (.coinBalance ..) => True
  | _ => False

/-- Requests for the bytes of a new key pair. -/
def DrawsKey : Ask → Prop
  | .secretBytes | .edwardsPair => True
  | _ => False

/-- Requests of making an address: the bytes of its key, the calls that derive the address, keep the
key and announce the address, and a log line. -/
def InMaking : Ask → Prop
  | .secretBytes | .edwardsPair | .log .. => True
  | .call (.derive ..) | .call (.storeKey ..) | .call (.addressCreated ..) => True
  | _ => False

/-- Requests of sizing a transfer. -/
def InSizing : Ask → Prop
  | .call .allAddresses | .call (.accountBalance ..) | .call (.coinBalance ..) => True
  | .call (.derive ..) | .call (.storeKey ..) | .call (.addressCreated ..) => True
  | .secretBytes | .edwardsPair | .probability | .uniform .. | .log .. => True
  | _ => False

/-- Requests of constructing a transaction. -/
def InConstruction : Ask → Prop
  | .call (.preprocess ..) | .call (.metadata ..) | .call (.payloads ..) | .call (.parse ..) => True
  | .call (.checkOperations ..) | .call (.checkSigners ..) => True
  | .call (.sign ..) | .call (.combine ..) | .call (.hash ..) => True
  | .log .. => True
  | _ => False

/-- Requests made while there is no intent: all but those of construction and the hand-off. -/
def BeforeIntent : Ask → Prop
  | .call (.preprocess ..) | .call (.metadata ..) | .call (.payloads ..) => False
  | .call (.parse ..) => False
  | .call (.checkOperations ..) | .call (.checkSigners ..) => False
  | .call (.sign ..) | .call (.combine ..) | .call (.hash ..) => False
  | .call (.transactionCreated ..) => False
  | _ => True

/-- To look up holdings is to read the state of the world. -/
theorem reads_of_readsHoldings (q : Ask) (h : q.ReadsHoldings) : q.Reads := by
  cases q with
  | call c => cases c <;> trivial
  | _ => trivial

/-- Holdings are looked up in sizing. -/
theorem inSizing_of_readsHoldings (q : Ask) (h : q.ReadsHoldings) : q.InSizing := by
  cases q with
  | call c => cases c <;> trivial
  | _ => trivial

/-- The bytes of a key are drawn in making an address. -/
theorem inMaking_of_drawsKey (q : Ask) (h : q.DrawsKey) : q.InMaking := by
  cases q <;> trivial

/-- Addresses are made in sizing. -/
theorem inSizing_of_inMaking (q : Ask) (h : q.InMaking) : q.InSizing := by
  cases q with
  | call c => cases c <;> trivial
  | _ => trivial

/-- The state of the world is read before there is an intent. -/
theorem beforeIntent_of_reads (q : Ask) (h : q.Reads) : q.BeforeIntent := by
  cases q with
  | call c => cases c <;> trivial
  | _ => trivial

/-- Transfers are sized before there is an intent. -/
theorem beforeIntent_of_inSizing (q : Ask) (h : q.InSizing) : q.BeforeIntent := by
  cases q with
  | call c => cases c <;> trivial
  | _ => trivial

end Ask

namespace Drive

variable {settings : Settings}

/-! ## Holdings and recipients -/

/-- Looking up one address reads holdings only. -/
theorem holding_readsHoldings (address : String) :
    (holding settings address).OnlyAsks Ask.ReadsHoldings := by
  unfold holding
  cases settings.accounting with
  | account => exact .bind (.attempt trivial) fun _ => trivial
  | utxo => exact .attempt trivial

/-- A scan for the best sender reads holdings only. -/
theorem bestAmong_readsHoldings (locked addresses : List String) (best : Option Sender) :
    (bestAmong settings locked best addresses).OnlyAsks Ask.ReadsHoldings := by
  induction addresses generalizing best with
  | nil => trivial
  | cons address rest ih =>
    rw [bestAmong]
    split
    · exact ih best
    · refine .bind (holding_readsHoldings address) fun held => ?_
      split <;> exact ih _

/-- A sender is selected by reading alone. -/
theorem bestUnlocked_reads (addresses : List String) :
    (bestUnlocked settings addresses).OnlyAsks Ask.Reads := by
  refine .bind (.attempt trivial) fun locked => .bind ?_ fun _ => trivial
  exact (bestAmong_readsHoldings locked addresses none).mono Ask.reads_of_readsHoldings

/-- Dividing possible recipients reads holdings only. -/
theorem divide_readsHoldings (addresses : List String) :
    (divide settings addresses).OnlyAsks Ask.ReadsHoldings := by
  induction addresses with
  | nil => trivial
  | cons address rest ih =>
    refine .bind (holding_readsHoldings address) fun held => .bind ih fun recipients => ?_
    split <;> trivial

/-- Recipients are found by reading holdings alone. -/
theorem findRecipients_readsHoldings (sender : String) :
    (findRecipients settings sender).OnlyAsks Ask.ReadsHoldings := by
  refine .bind (.attempt trivial) fun addresses => ?_
  cases settings.accounting with
  | account => exact divide_readsHoldings _
  | utxo => trivial

/-! ## Sizing -/

/-- Making a key pair draws its bytes and nothing else. -/
theorem newKeyPair_drawsKey (curve : Curve) : (newKeyPair curve).OnlyAsks Ask.DrawsKey := by
  unfold newKeyPair
  cases curve with
  | secp256k1 => exact .bind (.request trivial) fun _ => .ofExcept
  | edwards25519 => exact .bind (.request trivial) fun _ => trivial
  | _ => trivial

/-- An address is made by the requests of making one. -/
theorem newAddress_inMaking : (newAddress settings).OnlyAsks Ask.InMaking := by
  refine .bind ((newKeyPair_drawsKey _).mono Ask.inMaking_of_drawsKey) fun pair => ?_
  refine .bind (.attempt trivial) fun address => ?_
  refine .bind (.attempt trivial) fun _ => ?_
  refine .bind (.attempt trivial) fun _ => ?_
  exact .bind (.request trivial) fun _ => trivial

/-- An address may be made in sizing. -/
theorem newAddress_inSizing : (newAddress settings).OnlyAsks Ask.InSizing :=
  newAddress_inMaking.mono Ask.inSizing_of_inMaking

/-- An address is picked by requests of sizing. -/
theorem pickAddress_inSizing (candidates : List String) :
    (pickAddress settings candidates).OnlyAsks Ask.InSizing := by
  refine .bind (.attempt trivial) fun available => ?_
  have hnew : ((newAddress settings).bind fun address => .done (⟨address, true⟩ : Pick)).OnlyAsks
      Ask.InSizing := .bind newAddress_inSizing fun _ => trivial
  cases candidates with
  | nil => exact hnew
  | cons first rest =>
    refine .bind (.request trivial) fun draw => ?_
    split
    · exact hnew
    · trivial

/-- An amount is drawn by requests of sizing. -/
theorem drawAmount_inSizing (low high : Int) : (drawAmount low high).OnlyAsks Ask.InSizing := by
  unfold drawAmount
  split
  · trivial
  · exact .request trivial

/-- A transfer between accounts is sized by requests of sizing. -/
theorem sizeAccount_inSizing (sender : String) (balance : Int) (recipients : Recipients) :
    (sizeAccount settings sender balance recipients).OnlyAsks Ask.InSizing := by
  unfold sizeAccount
  split
  · refine .bind (pickAddress_inSizing _) fun pick => ?_
    exact .bind (drawAmount_inSizing _ _) fun _ => trivial
  · split
    · split
      · trivial
      · exact .bind (drawAmount_inSizing _ _) fun _ => trivial
    · trivial

/-- A transfer of a coin is sized by requests of sizing. -/
theorem sizeCoin_inSizing (sender : String) (coinValue : Int) (candidates : List String)
    (coin : Option CoinIdentifier) :
    (sizeCoin settings sender coinValue candidates coin).OnlyAsks Ask.InSizing := by
  unfold sizeCoin
  dsimp only
  split
  · trivial
  · refine .bind (pickAddress_inSizing _) fun pick => ?_
    split
    · refine .bind (pickAddress_inSizing _) fun change => ?_
      exact .bind (drawAmount_inSizing _ _) fun _ => trivial
    · exact .bind (drawAmount_inSizing _ _) fun _ => trivial

/-- A transfer is sized without sleeping, without asking what is locked or pending and without a
hand-off. -/
theorem sizeTransfer_inSizing (sender : Sender) :
    (sizeTransfer settings sender).OnlyAsks Ask.InSizing := by
  refine .bind ((findRecipients_readsHoldings _).mono Ask.inSizing_of_readsHoldings) ?_
  intro recipients
  cases settings.accounting with
  | account => exact sizeAccount_inSizing _ _ _
  | utxo => exact sizeCoin_inSizing _ _ _ _

/-! ## Waiting, and senders -/

/-- An amount is shown without any request. -/
theorem showAmount_onlyAsks {kind : Ask → Prop} (amount : Int) :
    (showAmount settings amount).OnlyAsks kind := by
  unfold showAmount
  split <;> trivial

/-- To wait for the funds of an address is to look it up, to write log lines and to sleep. -/
theorem awaitFundsFrom_onlyAsks {kind : Ask → Prop} {address : String}
    (hholding : (holding settings address).OnlyAsks kind)
    (hlog : ∀ level text, kind (.log level text)) (hsleep : ∀ seconds, kind (.sleep seconds))
    (rounds : Nat) (announced : Bool) :
    (awaitFundsFrom settings address rounds announced).OnlyAsks kind := by
  induction rounds generalizing announced with
  | zero => trivial
  | succ rounds ih =>
    rw [awaitFundsFrom]
    refine .bind hholding fun held => ?_
    split
    · exact .bind (showAmount_onlyAsks _) fun _ => .bind (.request (hlog ..)) fun _ => trivial
    · have hwait : ((Script.sleep settings.sleepTime).bind fun _ =>
          awaitFundsFrom settings address rounds true).OnlyAsks kind :=
        .bind (.sleep (hsleep _)) fun _ => ih true
      split
      · exact .bind (showAmount_onlyAsks _) fun _ => .bind (.request (hlog ..)) fun _ => hwait
      · exact hwait

/-- Funds are awaited while there is no intent. -/
theorem awaitFundsFrom_beforeIntent (address : String) (rounds : Nat) (announced : Bool) :
    (awaitFundsFrom settings address rounds announced).OnlyAsks Ask.BeforeIntent := by
  have hholding : (holding settings address).OnlyAsks Ask.BeforeIntent :=
    ((holding_readsHoldings address).mono Ask.reads_of_readsHoldings).mono Ask.beforeIntent_of_reads
  exact awaitFundsFrom_onlyAsks hholding (fun _ _ => trivial) (fun _ => trivial) rounds announced

/-- A new address is made and funded while there is no intent. -/
theorem fundNewAddress_beforeIntent (patience : Nat) :
    (fundNewAddress settings patience).OnlyAsks Ask.BeforeIntent := by
  refine .bind (newAddress_inSizing.mono Ask.beforeIntent_of_inSizing) fun address => ?_
  exact .bind (.reportAs (awaitFundsFrom_beforeIntent ..)) fun _ => trivial

/-- A sender is looked for while there is no intent. -/
theorem findSenderFrom_beforeIntent (patience rounds : Nat) :
    (findSenderFrom settings patience rounds).OnlyAsks Ask.BeforeIntent := by
  induction rounds with
  | zero => trivial
  | succ rounds ih =>
    rw [findSenderFrom]
    have hfund : ((fundNewAddress settings patience).bind fun _ =>
        findSenderFrom settings patience rounds).OnlyAsks Ask.BeforeIntent :=
      .bind (fundNewAddress_beforeIntent patience) fun _ => ih
    refine .bind (.attempt trivial) fun addresses => ?_
    split
    · exact hfund
    · refine .bind ((bestUnlocked_reads addresses).mono Ask.beforeIntent_of_reads) fun best => ?_
      split
      · trivial
      · refine .bind (.attempt trivial) fun broadcasts => ?_
        split
        · exact hfund
        · exact .bind (.request trivial) fun _ => .bind (.sleep trivial) fun _ => ih

/-- After a shortage the drive waits while there is no intent. -/
theorem awaitChange_beforeIntent (patience : Nat) (shortage : Shortage) :
    (awaitChange settings patience shortage).OnlyAsks Ask.BeforeIntent := by
  refine .bind (.attempt trivial) fun broadcasts => ?_
  split
  · exact .bind (.request trivial) fun _ => fundNewAddress_beforeIntent patience
  · exact .bind (.request trivial) fun _ => .sleep trivial

/-! ## Construction -/

/-- A transaction is constructed by the requests of construction. -/
theorem createTransaction_inConstruction (intent : List Operation) :
    (createTransaction settings intent).OnlyAsks Ask.InConstruction := by
  refine .bind (.attempt trivial) fun request => .bind (.attempt trivial) fun metadata => ?_
  refine .bind (.attempt trivial) fun unsigned => .bind (.attempt trivial) fun draft => ?_
  refine .bind .require fun _ => .bind (.bind (.attempt trivial) fun _ => .ofExcept) fun _ => ?_
  refine .bind (.request trivial) fun _ => .bind (.attempt trivial) fun signatures => ?_
  refine .bind (.attempt trivial) fun content => .bind (.attempt trivial) fun parsed => ?_
  refine .bind (.bind (.attempt trivial) fun _ => .ofExcept) fun _ => ?_
  refine .bind (.bind (.attempt trivial) fun _ => .ofExcept) fun _ => ?_
  exact .bind (.attempt trivial) fun identifier => trivial

end Drive

end TransferDrill

import TransferDrill.Drive.Loop
import TransferDrill.Proofs.Drive.Path

/-!
# What the drive is assembled from

Between its loops the drive is put together of single calls, draws and log lines, and of making an
address, one after another. So a property of scripts that these have, and that one script after
another has if both have it, is one of every part of the drive in which nothing is waited for.
-/

namespace TransferDrill

/-- Requests of making an address: the bytes of its key, and the calls that derive the address, keep
the key and announce the address. -/
def Ask.MakesAddress : Ask → Prop
  | .secretBytes | .edwardsPair => True
  | .call (.derive ..) | .call (.storeKey ..) | .call (.addressCreated ..) => True
  | _ => False

/-- Requests that are neither calls nor sleeps nor made for a key. -/
def Ask.Incidental : Ask → Prop
  | .probability | .uniform .. | .log .. => True
  | _ => False

/-- The parts of the drive that can be run by themselves; each loop takes as many rounds as there is
patience. -/
inductive Drive.Part (settings : Settings) (patience : Nat) : {α : Type} → Script α → Prop
  | holding (address : String) : Part settings patience (holding settings address)
  | newAddress : Part settings patience (newAddress settings)
  | awaitFunds (address : String) : Part settings patience (awaitFunds settings patience address)
  | fundNewAddress : Part settings patience (fundNewAddress settings patience)
  | bestUnlocked (addresses : List String) :
      Part settings patience (bestUnlocked settings addresses)
  | findSender : Part settings patience (findSender settings patience)
  | findRecipients (sender : String) : Part settings patience (findRecipients settings sender)
  | pickAddress (candidates : List String) :
      Part settings patience (pickAddress settings candidates)
  | sizeAccount (sender : String) (balance : Int) (recipients : Recipients) :
      Part settings patience (sizeAccount settings sender balance recipients)
  | sizeCoin (sender : String) (coinValue : Int) (candidates : List String)
      (coin : Option CoinIdentifier) :
      Part settings patience (sizeCoin settings sender coinValue candidates coin)
  | sizeTransfer (sender : Sender) : Part settings patience (sizeTransfer settings sender)
  | createTransaction (intent : List Operation) :
      Part settings patience (createTransaction settings intent)
  | createTransactions (wanted : Option Int) :
      Part settings patience (createTransactions settings patience wanted)

/-- A property that one script after another has if both have it, and that single calls have unless
they make an address. -/
structure Compositional (property : ∀ {α : Type}, Script α → Prop) : Prop where
  done : ∀ {α : Type} (a : α), property (.done a)
  failed : ∀ {α : Type} (f : Failure), property (.failed f : Script α)
  bind : ∀ {α β : Type} {script : Script α} {next : α → Script β}, property script →
    (∀ a, property (next a)) → property (script.bind next)
  call : ∀ (c : Call) (report : AdapterError → Failure), ¬(Ask.call c).MakesAddress →
    property (Script.attempt c report)
  request : ∀ q : Ask, q.Incidental → property (Script.request q)

namespace Compositional

open Drive

variable {property : ∀ {α : Type}, Script α → Prop} (h : Compositional property)
  {settings : Settings}

include h

/-- A result that is at hand has the property. -/
theorem ofExcept {α ε : Type} (report : ε → Failure) (result : Except ε α) :
    property (Script.ofExcept report result) := by
  cases result with
  | ok a => exact h.done a
  | error e => exact h.failed _

/-- A condition has the property. -/
theorem require (condition : Bool) (failure : Failure) :
    property (Script.require condition failure) := by
  cases condition with
  | true => exact h.done ()
  | false => exact h.failed _

/-- A log line has the property. -/
theorem log (level : LogLevel) (text : String) : property (Script.log level text) :=
  h.request _ trivial

/-! ## Holdings and senders -/

/-- Looking up an address has the property. -/
theorem holding (address : String) : property (holding settings address) := by
  unfold Drive.holding
  cases settings.accounting with
  | account => exact h.bind (h.call _ _ id) fun _ => h.done _
  | utxo => exact h.call _ _ id

/-- Showing an amount has the property. -/
theorem showAmount (amount : Int) : property (showAmount settings amount) := by
  unfold Drive.showAmount
  split
  · exact h.done _
  · exact h.failed _

/-- A scan for the best sender has the property, by induction on the addresses. -/
theorem bestAmong (locked addresses : List String) (best : Option Sender) :
    property (bestAmong settings locked best addresses) := by
  induction addresses generalizing best with
  | nil => exact h.done _
  | cons address rest ih =>
    rw [Drive.bestAmong]
    split
    · exact ih best
    · refine h.bind (h.holding address) fun held => ?_
      split <;> exact ih _

/-- A selection has the property. -/
theorem bestUnlocked (addresses : List String) : property (bestUnlocked settings addresses) := by
  refine h.bind (h.call _ _ id) fun locked => ?_
  exact h.bind (h.bestAmong locked addresses none) fun _ => h.done _

/-! ## Sizing -/

/-- Dividing possible recipients has the property, by induction on the addresses. -/
theorem divide (addresses : List String) : property (divide settings addresses) := by
  induction addresses with
  | nil => exact h.done _
  | cons address rest ih =>
    refine h.bind (h.holding address) fun held => h.bind ih fun recipients => ?_
    split <;> exact h.done _

/-- Finding recipients has the property. -/
theorem findRecipients (sender : String) : property (findRecipients settings sender) := by
  refine h.bind (h.call _ _ id) fun addresses => ?_
  cases settings.accounting with
  | account => exact h.divide _
  | utxo => exact h.done _

/-- Drawing an amount has the property. -/
theorem drawAmount (low high : Int) : property (drawAmount low high) := by
  unfold Drive.drawAmount
  split
  · exact h.failed _
  · exact h.request _ trivial

section NewAddress

variable (hnew : property (newAddress settings))

include hnew

/-- Picking an address has the property if making one has. -/
theorem pickAddress (candidates : List String) : property (pickAddress settings candidates) := by
  refine h.bind (h.call _ _ id) fun available => ?_
  have hmade : property
      ((newAddress settings).bind fun address => .done (⟨address, true⟩ : Pick)) :=
    h.bind hnew fun _ => h.done _
  cases candidates with
  | nil => exact hmade
  | cons first rest =>
    refine h.bind (h.request _ trivial) fun draw => ?_
    split
    · exact hmade
    · exact h.done _

/-- Sizing a transfer between accounts has the property if making an address has. -/
theorem sizeAccount (sender : String) (balance : Int) (recipients : Recipients) :
    property (sizeAccount settings sender balance recipients) := by
  unfold Drive.sizeAccount
  split
  · refine h.bind (h.pickAddress hnew _) fun pick => ?_
    exact h.bind (h.drawAmount _ _) fun _ => h.done _
  · split
    · split
      · exact h.failed _
      · exact h.bind (h.drawAmount _ _) fun _ => h.done _
    · exact h.failed _

/-- Sizing a transfer of a coin has the property if making an address has. -/
theorem sizeCoin (sender : String) (coinValue : Int) (candidates : List String)
    (coin : Option CoinIdentifier) :
    property (sizeCoin settings sender coinValue candidates coin) := by
  unfold Drive.sizeCoin
  dsimp only
  split
  · exact h.failed _
  · refine h.bind (h.pickAddress hnew _) fun pick => ?_
    split
    · refine h.bind (h.pickAddress hnew _) fun change => ?_
      exact h.bind (h.drawAmount _ _) fun _ => h.done _
    · exact h.bind (h.drawAmount _ _) fun _ => h.done _

/-- Sizing a transfer has the property if making an address has. -/
theorem sizeTransfer (sender : Sender) : property (sizeTransfer settings sender) := by
  refine h.bind (h.findRecipients _) fun recipients => ?_
  cases settings.accounting with
  | account => exact h.sizeAccount hnew _ _ _
  | utxo => exact h.sizeCoin hnew _ _ _ _

end NewAddress

/-! ## Construction and the hand-off -/

/-- A check has the property unless its announcement makes an address. -/
theorem check {φ : Type} (announcement : Call) (report : CheckFault φ → Failure)
    (verdict : Except φ Unit) (hcall : ¬(Ask.call announcement).MakesAddress) :
    property (check announcement report verdict) :=
  h.bind (h.call _ _ hcall) fun _ => h.ofExcept _ _

/-- Constructing a transaction has the property. -/
theorem createTransaction (intent : List Operation) :
    property (createTransaction settings intent) := by
  refine h.bind (h.call _ _ id) fun request => h.bind (h.call _ _ id) fun metadata => ?_
  refine h.bind (h.call _ _ id) fun unsigned => h.bind (h.call _ _ id) fun draft => ?_
  refine h.bind (h.require _ _) fun _ => h.bind (h.check _ _ _ id) fun _ => ?_
  refine h.bind (h.log _ _) fun _ => h.bind (h.call _ _ id) fun signatures => ?_
  refine h.bind (h.call _ _ id) fun content => h.bind (h.call _ _ id) fun parsed => ?_
  refine h.bind (h.check _ _ _ id) fun _ => h.bind (h.check _ _ _ id) fun _ => ?_
  exact h.bind (h.call _ _ id) fun identifier => h.done _

/-- Making a transfer has the property. -/
theorem makeTransfer (sender : Sender) (transfer : Transfer) :
    property (makeTransfer settings sender transfer) := by
  refine h.bind (h.ofExcept _ _) fun intent => ?_
  refine h.bind (h.createTransaction intent) fun transaction => ?_
  exact h.bind (h.call _ _ id) fun _ => h.log _ _

end Compositional

/-- Only a loop can be left unfinished. -/
theorem neverUnfinished_compositional :
    Compositional fun script => ∀ events, ¬script.Leads events .unfinished where
  done _ _ h := by simp at h
  failed _ _ h := by simp at h
  bind h hnext events hleads := by
    rcases Script.leads_bind hleads with ⟨a, first, second, -, hsecond, rfl⟩ | ⟨cut, hcut, hstop⟩
    · exact hnext a second hsecond
    · cases hcut
      exact h events hstop
  call c report _ events h := by
    rw [← Script.bind_done (Script.attempt c report)] at h
    rcases Script.leads_attempt_bind h with ⟨fault, rfl, hfault⟩ | ⟨value, later, rfl, hlater⟩
    · cases hfault
    · simp at hlater
  request q _ events h := by
    obtain ⟨reply, later, rfl, hlater⟩ := Script.leads_ask_iff.mp h
    simp at hlater

end TransferDrill

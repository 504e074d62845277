import TransferDrill.Rehearsal.World
import TransferDrill.Numeric.Numeral.Entry
import TransferDrill.Text.Quoted

/-!
# The ledger of a scripted world

When a transaction is handed off, a world that keeps a ledger books its operations: the value is
added to the balance of the account, and the largest coin follows: a balance below zero leaves no
coin, a value above the coin's becomes the new coin. A value that is no integer stops the booking
where it stands.
-/

namespace TransferDrill.Rehearsal

/-- How a text that is no entry is reported; a malformed one is cut off after 200 characters. -/
def badEntry (value : String) : Numeral.EntryFault → AdapterError
  | .malformed =>
    let shown := String.ofList ((Text.Quoted.encode value.toList).take 200)
    ⟨.value, s!"invalid literal for int() with base 10: {shown}"⟩
  | .overlong digits =>
    ⟨.value, s!"Exceeds the limit ({Numeral.maxDigits} digits) for integer string conversion: " ++
      s!"value has {digits} digits; use sys.set_int_max_str_digits() to increase the limit"⟩

/-- The coin after a booking: none below zero, else the larger of the old one and the new. -/
def coinAfter (old : Option Holding) (coin : CoinIdentifier) (value : Int) : Option Holding :=
  if value < 0 then some ⟨some 0, none⟩
  else if (old.bind (·.balance)).getD 0 < value then some ⟨some value, some coin⟩
  else old

/-- Book one operation. -/
def State.book (state : State) (hash : String) (index : Nat) (operation : Operation) :
    State × Except AdapterError Unit :=
  match operation.account, operation.amount with
  | some account, some amount =>
    match Numeral.entry amount.value.toList with
    | .error e => (state, .error (badEntry amount.value e))
    | .ok value =>
      let address := account.address
      let balance := ((Keyed.get? address state.balances).bind id).getD 0 + value
      let coins := match coinAfter (Keyed.get? address state.coins) ⟨s!"{hash}:{index}"⟩ value with
        | some coin => Keyed.put address coin state.coins
        | none => state.coins
      ({ state with balances := Keyed.put address (some balance) state.balances, coins }, .ok ())
  | _, _ => (state, .ok ())

/-- Book operations, the first of which has the given index. -/
def State.bookFrom (hash : String) :
    (index : Nat) → State → List Operation → State × Except AdapterError Unit
  | _, state, [] => (state, .ok ())
  | index, state, operation :: rest =>
    match state.book hash index operation with
    | (state, .ok ()) => bookFrom hash (index + 1) state rest
    | (state, .error e) => (state, .error e)

end TransferDrill.Rehearsal

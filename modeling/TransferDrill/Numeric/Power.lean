/-!
# Powers

Natural numbers and integers are raised to powers by the operations of the core library. They stay
the preferred ones where powers in other structures come into scope.
-/

namespace TransferDrill

@[default_instance 20000]
instance (priority := 20000) natPower : Pow Nat Nat := instPowNat

@[default_instance 20000]
instance (priority := 20000) intPower : Pow Int Nat := instPowNat

end TransferDrill

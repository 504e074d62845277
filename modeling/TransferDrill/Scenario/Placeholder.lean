/-!
# Placeholders

The marks in operation templates for which a transfer's addresses and amounts are put in.
-/

namespace TransferDrill

/-- What a template can ask for. -/
inductive Placeholder where
  | senderValue
  | sender
  | recipientValue
  | recipient
  | coinIdentifier
  | changeAddress
  | changeValue
deriving DecidableEq, Repr

/-- The mark of a placeholder. -/
def Placeholder.mark : Placeholder → String
  | .senderValue => "\x7b\x7b SENDER_VALUE \x7d\x7d"
  | .sender => "\x7b\x7b SENDER \x7d\x7d"
  | .recipientValue => "\x7b\x7b RECIPIENT_VALUE \x7d\x7d"
  | .recipient => "\x7b\x7b RECIPIENT \x7d\x7d"
  | .coinIdentifier => "\x7b\x7b COIN_IDENTIFIER \x7d\x7d"
  | .changeAddress => "\x7b\x7b CHANGE_ADDRESS \x7d\x7d"
  | .changeValue => "\x7b\x7b CHANGE_VALUE \x7d\x7d"

end TransferDrill

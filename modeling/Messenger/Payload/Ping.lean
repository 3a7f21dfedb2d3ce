import Messenger.ReadFault
import Messenger.Text.Cut

/-!
A ping announces a round trip: the payment hash that will confirm it, a colon, and
the timestamp that identifies it.
-/

namespace Messenger

structure Ping where
  paymentHash : String
  timestamp : UInt64
  deriving DecidableEq, Repr

namespace Ping

def parse (raw : String) : Except ReadFault Ping :=
  match Text.cutLast ':' raw.toList with
  | none => .error ⟨.format, .ping, .noSeparator⟩
  | some (hash, time) =>
    if hash.isEmpty then .error ⟨.format, .ping, .emptyHash⟩
    else
      match Decimal.read64 (String.ofList time) with
      | .ok timestamp => .ok { paymentHash := String.ofList hash, timestamp }
      | .error fault => .error ⟨.format, .ping, .badTime fault⟩

end Ping

end Messenger

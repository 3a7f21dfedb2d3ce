import Messenger.Text.Cut
import Messenger.Text.Decimal

/-! How values are shown to a reader of messages. -/

namespace Messenger

namespace Text

def fieldList (name : String) (fields : List (String × String)) : String :=
  name ++ " \x7b " ++
    ", ".intercalate (fields.map fun (field, value) => field ++ ": " ++ value) ++
    " \x7d"

def ofBool (value : Bool) : String :=
  if value then "true" else "false"

def thousandths (value : Nat) : String :=
  let digits := dropTrailing '0' ((Decimal.write (1000 + value)).toList.drop 1)
  if digits.isEmpty then "" else "." ++ String.ofList digits

/-- A duration in milliseconds, shown in milliseconds below one second. -/
def duration (millis : Nat) : String :=
  if millis = 0 then "0ns"
  else if millis < 1000 then Decimal.write millis ++ "ms"
  else Decimal.write (millis / 1000) ++ thousandths (millis % 1000) ++ "s"

end Text

end Messenger

/-! Amounts in satoshis. -/

namespace Messenger

namespace Amount

def tribeMinimum : UInt64 := 3

/-- A tribe message carries what was asked for, but never less than the minimum. -/
def tribeMessage (requested : Option UInt64) : UInt64 :=
  max (requested.getD 0) tribeMinimum

def deletion (isTribe : Bool) : UInt64 :=
  if isTribe then 1 else 0

end Amount

end Messenger

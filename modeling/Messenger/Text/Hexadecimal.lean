import Messenger.Bytes

/-! Hexadecimal digits in lower case. -/

namespace Messenger

namespace Hexadecimal

def write (value : Nat) : List Char :=
  Nat.toDigits 16 value

def writePair (value : Nat) : List Char :=
  [(value / 16).digitChar, (value % 16).digitChar]

def writeBytes (bytes : Bytes) : String :=
  String.ofList (bytes.flatMap fun byte => writePair byte.toNat)

end Hexadecimal

end Messenger

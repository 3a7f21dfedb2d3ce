/-! Bytes as they travel in payloads and stored values. -/

namespace Messenger

abbrev Bytes := List UInt8

namespace Bytes

/-- The number that bytes stand for, the highest first. -/
def toNat (bytes : Bytes) : Nat :=
  bytes.foldl (fun value byte => value * 256 + byte.toNat) 0

def ofNat : (width : Nat) → Nat → Bytes
  | 0, _ => []
  | width + 1, value => UInt8.ofNat (value >>> (8 * width) % 256) :: ofNat width value

end Bytes

end Messenger

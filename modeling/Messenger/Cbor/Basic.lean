import Messenger.Bytes
import Messenger.Text.Binary64
import Messenger.Text.Quoted
import Messenger.Text.Shown

/-! CBOR items, and how an item is shown in a message. -/

namespace Messenger

inductive Cbor where
  | integer (value : Int)
  | bytes (value : Bytes)
  | text (value : String)
  | array (items : List Cbor)
  | map (pairs : List (Cbor × Cbor))
  | tagged (number : Nat) (item : Cbor)
  | bool (value : Bool)
  | null
  /-- A double-precision number by its bits. -/
  | float (bits : Nat)

namespace Cbor

def commaList (shown : List String) : String :=
  ", ".intercalate shown

mutual

def shown : Cbor → String
  | .integer value => "Integer(Integer(" ++ Binary64.writeInteger value ++ "))"
  | .bytes value =>
    "Bytes([" ++ commaList (value.map fun byte => Decimal.write byte.toNat) ++ "])"
  | .text value => "Text(" ++ Text.quote value ++ ")"
  | .array items => "Array([" ++ commaList (shownItems items) ++ "])"
  | .map pairs => "Map([" ++ commaList (shownPairs pairs) ++ "])"
  | .tagged number item =>
    "Tag(" ++ Decimal.write number ++ ", " ++ shown item ++ ")"
  | .bool value => "Bool(" ++ Text.ofBool value ++ ")"
  | .null => "Null"
  | .float bits => "Float(" ++ Binary64.write bits ++ ")"

def shownItems : List Cbor → List String
  | [] => []
  | item :: rest => shown item :: shownItems rest

def shownPairs : List (Cbor × Cbor) → List String
  | [] => []
  | (key, value) :: rest =>
    ("(" ++ shown key ++ ", " ++ shown value ++ ")") :: shownPairs rest

end

end Cbor

end Messenger

/-!
JSON values as this library needs them. Payloads are read for a few known members,
and everything else is only checked for its form; so a string keeps no text when its
escapes leave half a surrogate pair, and a number is kept only if it is written as a
plain natural number.
-/

namespace Messenger

inductive Json where
  | null
  | bool (value : Bool)
  | number (natural : Option Nat)
  | string (text : Option String)
  | array (items : List Json)
  | object (members : List (Option String × Json))

namespace Json

def string? : Json → Option String
  | .string text => text
  | _ => none

def word? : Json → Option UInt64
  | .number (some value) => if value < UInt64.size then some (UInt64.ofNat value) else none
  | _ => none

/-! A record with named fields is written as an object, or as an array of the first
fields in order. Members with other names are skipped; a field given twice is not. -/

def named? (members : List (Option String × Json)) : Option (List (String × Json)) :=
  members.mapM fun (name, value) => name.map fun name => (name, value)

/-- The fields that are present, or `none` if the value is no such record. -/
def record? (names : List String) : Json → Option (List (String × Json))
  | .array items =>
    if items.length ≤ names.length then some (names.zip items) else none
  | .object members =>
    (named? members).bind fun members =>
      let known := members.filter fun member => names.contains member.1
      if (known.map Prod.fst).Nodup then some known else none
  | _ => none

variable {α : Type}

def field? (fields : List (String × Json)) (read : Json → Option α) (name : String) :
    Option α :=
  (fields.lookup name).bind read

def fieldOr (fields : List (String × Json)) (read : Json → Option α) (default : α)
    (name : String) : Option α :=
  match fields.lookup name with
  | none => some default
  | some value => read value

def optionalField? (fields : List (String × Json)) (read : Json → Option α)
    (name : String) : Option (Option α) :=
  match fields.lookup name with
  | none => some none
  | some .null => some none
  | some value => (read value).map some

end Json

end Messenger

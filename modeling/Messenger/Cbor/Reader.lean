import Messenger.Cbor.Basic

/-!
Reading one CBOR item from the front of a byte string. Heads need not be the
shortest, strings, arrays and maps may be of indefinite length, and items may be
nested 256 deep. A number in the bytes of a tagged item is read as an integer if it fits.
-/

namespace Messenger

namespace Cbor

/-- The head of an item. A length that is missing is indefinite. -/
inductive Head where
  | unsigned (value : Nat)
  | negative (value : Nat)
  | bytes (length : Option Nat)
  | text (length : Option Nat)
  | array (length : Option Nat)
  | map (length : Option Nat)
  | tag (number : Nat)
  | simple (code : Nat)
  | float (bits : Nat)
  | stop
  deriving DecidableEq

def takeBytes (count : Nat) (bytes : Bytes) : Option (Bytes × Bytes) :=
  if count ≤ bytes.length then some (bytes.take count, bytes.drop count) else none

def argumentWidth? : Nat → Option Nat
  | 24 => some 1
  | 25 => some 2
  | 26 => some 4
  | 27 => some 8
  | _ => none

def readArgument (low : Nat) (rest : Bytes) : Option (Option Nat × Bytes) :=
  if low < 24 then some (some low, rest)
  else if low = 31 then some (none, rest)
  else
    (argumentWidth? low).bind fun width =>
      (takeBytes width rest).map fun (argument, rest) =>
        (some argument.toNat, rest)

def otherHead (low : Nat) (argument : Nat) : Head :=
  if low = 25 then .float (Binary64.widen 5 10 argument)
  else if low = 26 then .float (Binary64.widen 8 23 argument)
  else if low = 27 then .float argument
  else .simple argument

def headOf (major low : Nat) (argument : Option Nat) : Option Head :=
  match major, argument with
  | 0, some value => some (.unsigned value)
  | 1, some value => some (.negative value)
  | 2, length => some (.bytes length)
  | 3, length => some (.text length)
  | 4, length => some (.array length)
  | 5, length => some (.map length)
  | 6, some number => some (.tag number)
  | 7, some argument => some (otherHead low argument)
  | 7, none => some .stop
  | _, _ => none

def readHead : Bytes → Option (Head × Bytes)
  | [] => none
  | initial :: rest =>
    let low := initial.toNat % 32
    (readArgument low rest).bind fun (argument, rest) =>
      (headOf (initial.toNat / 32) low argument).map fun head => (head, rest)

def chunkLength? (ofText : Bool) : Head → Option (Option Nat)
  | .bytes length => if ofText then none else some length
  | .text length => if ofText then some length else none
  | _ => none

/-- The chunks of a string of indefinite length, up to its end. A chunk may itself be
of indefinite length; `depth` counts those that are open. -/
def readChunks (ofText : Bool) : (bound depth : Nat) → Bytes →
    Option (List Bytes × Bytes)
  | 0, _, _ => none
  | bound + 1, depth, input =>
    match readHead input with
    | none => none
    | some (.stop, rest) =>
      match depth with
      | 0 => some ([], rest)
      | depth + 1 => readChunks ofText bound depth rest
    | some (head, rest) =>
      match chunkLength? ofText head with
      | none => none
      | some none => readChunks ofText bound (depth + 1) rest
      | some (some length) =>
        match takeBytes length rest with
        | none => none
        | some (chunk, rest) =>
          (readChunks ofText bound depth rest).map fun (chunks, rest) =>
            (chunk :: chunks, rest)

def readStringChunks (ofText : Bool) (bound : Nat) (length : Option Nat) (rest : Bytes) :
    Option (List Bytes × Bytes) :=
  match length with
  | some length => (takeBytes length rest).map fun (chunk, rest) => ([chunk], rest)
  | none => readChunks ofText bound 0 rest

def utf8? (bytes : Bytes) : Option String :=
  String.fromUTF8? bytes.toByteArray

theorem utf8?_toUTF8 (text : String) : utf8? text.toUTF8.data.toList = some text := by
  have same : text.toUTF8.data.toList.toByteArray = text.toUTF8 := by
    apply ByteArray.ext
    simp
  rw [utf8?, same, String.fromUTF8?, dif_pos]
  rfl

def joinText? (chunks : List Bytes) : Option String :=
  (chunks.mapM utf8?).map fun texts => "".intercalate texts

def simpleItem? : Nat → Option Cbor
  | 20 => some (.bool false)
  | 21 => some (.bool true)
  | 22 => some .null
  | 23 => some .null
  | _ => none

/-- The length of a number's bytes and what follows their head. The bytes after tag 2 or 3
are a number if their count is given and is at most sixteen. -/
def numberLength? (tag : Nat) (input : Bytes) : Option (Nat × Bytes) :=
  match readHead input with
  | some (.bytes (some length), rest) =>
    if (tag = 2 ∨ tag = 3) ∧ length ≤ 16 then some (length, rest) else none
  | _ => none

/-- The number that bytes stand for, counted down from -1 if it is negative. One that
needs more than 64 bits stays tagged, without zeros in front; a negative one of 128 bits
is refused. -/
def ofMagnitude? (negative : Bool) (magnitude : Nat) : Option Cbor :=
  if magnitude < UInt64.size then
    some (.integer (if negative then -1 - magnitude else magnitude))
  else if negative && 1 <<< 127 ≤ magnitude then none
  else
    let bytes := (Bytes.ofNat 16 magnitude).dropWhile (· == 0)
    some (.tagged (if negative then 3 else 2) (.bytes bytes))

/-! The bound is spent by one at every step inwards or onwards; `nesting` is how many
more arrays, maps and tags may be opened. -/

mutual

def readItem : (bound nesting : Nat) → Bytes → Option (Cbor × Bytes)
  | 0, _, _ => none
  | bound + 1, nesting, input =>
    match readHead input with
    | none => none
    | some (.unsigned value, rest) => some (.integer value, rest)
    | some (.negative value, rest) => some (.integer (-1 - value), rest)
    | some (.bytes length, rest) =>
      (readStringChunks false bound length rest).map fun (chunks, rest) =>
        (.bytes chunks.flatten, rest)
    | some (.text length, rest) =>
      (readStringChunks true bound length rest).bind fun (chunks, rest) =>
        (joinText? chunks).map fun text => (.text text, rest)
    | some (.array length, rest) =>
      match nesting with
      | 0 => none
      | nesting + 1 =>
        (readItems bound nesting length rest).map fun (items, rest) =>
          (.array items, rest)
    | some (.map length, rest) =>
      match nesting with
      | 0 => none
      | nesting + 1 =>
        (readPairs bound nesting length rest).map fun (pairs, rest) =>
          (.map pairs, rest)
    | some (.tag number, rest) =>
      match numberLength? number rest, nesting with
      | some (length, rest), _ =>
        (takeBytes length rest).bind fun (magnitude, rest) =>
          (ofMagnitude? (number == 3) magnitude.toNat).map fun item => (item, rest)
      | none, 0 => none
      | none, nesting + 1 =>
        (readItem bound nesting rest).map fun (item, rest) =>
          (.tagged number item, rest)
    | some (.simple code, rest) => (simpleItem? code).map fun item => (item, rest)
    | some (.float bits, rest) => some (.float bits, rest)
    | some (.stop, _) => none

def readItems : (bound nesting : Nat) → (length : Option Nat) → Bytes →
    Option (List Cbor × Bytes)
  | 0, _, _, _ => none
  | _, _, some 0, input => some ([], input)
  | bound + 1, nesting, length, input =>
    match length, input with
    | none, 0xFF :: rest => some ([], rest)
    | length, input =>
      match readItem bound nesting input with
      | none => none
      | some (item, rest) =>
        (readItems bound nesting (length.map (· - 1)) rest).map
          fun (items, rest) => (item :: items, rest)

def readPairs : (bound nesting : Nat) → (length : Option Nat) → Bytes →
    Option (List (Cbor × Cbor) × Bytes)
  | 0, _, _, _ => none
  | _, _, some 0, input => some ([], input)
  | bound + 1, nesting, length, input =>
    match length, input with
    | none, 0xFF :: rest => some ([], rest)
    | length, input =>
      match readItem bound nesting input with
      | none => none
      | some (key, rest) =>
        match readItem bound nesting rest with
        | none => none
        | some (value, rest) =>
          (readPairs bound nesting (length.map (· - 1)) rest).map
            fun (pairs, rest) => ((key, value) :: pairs, rest)

end

def nestingLimit : Nat := 256

/-- The item at the front of a byte string; what follows it is ignored. -/
def decode? (bytes : Bytes) : Option Cbor :=
  (readItem (2 * bytes.length + 2) nestingLimit bytes).map Prod.fst

end Cbor

end Messenger

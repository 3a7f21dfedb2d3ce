import Messenger.Json.Basic
import Messenger.Text.Decimal

/-!
Reading JSON text: the strict grammar, nothing but white space after the value, any
depth of nesting.
-/

namespace Messenger

namespace Json

def isBlank (c : Char) : Bool :=
  c == ' ' || c == '\t' || c == '\n' || c == '\r'

def skipBlank (text : List Char) : List Char :=
  text.dropWhile isBlank

/-- What a string is written with: characters, and 16-bit units given in hexadecimal. -/
inductive Mark where
  | char (c : Char)
  | unit (code : Nat)
  deriving DecidableEq

def hexDigit? (c : Char) : Option Nat :=
  if '0' ≤ c ∧ c ≤ '9' then some (c.toNat - '0'.toNat)
  else if 'a' ≤ c ∧ c ≤ 'f' then some (c.toNat - 'a'.toNat + 10)
  else if 'A' ≤ c ∧ c ≤ 'F' then some (c.toNat - 'A'.toNat + 10)
  else none

def hexUnit? (a b c d : Char) : Option Nat := do
  let a ← hexDigit? a
  let b ← hexDigit? b
  let c ← hexDigit? c
  let d ← hexDigit? d
  return ((a * 16 + b) * 16 + c) * 16 + d

def shortEscape? : Char → Option Char
  | '"' => some '"'
  | '\\' => some '\\'
  | '/' => some '/'
  | 'b' => some '\x08'
  | 'f' => some '\x0c'
  | 'n' => some '\n'
  | 'r' => some '\r'
  | 't' => some '\t'
  | _ => none

def readMarks : List Char → Option (List Mark × List Char)
  | [] => none
  | '"' :: rest => some ([], rest)
  | '\\' :: 'u' :: a :: b :: c :: d :: rest =>
    match hexUnit? a b c d, readMarks rest with
    | some code, some (marks, rest) => some (.unit code :: marks, rest)
    | _, _ => none
  | '\\' :: letter :: rest =>
    match shortEscape? letter, readMarks rest with
    | some c, some (marks, rest) => some (.char c :: marks, rest)
    | _, _ => none
  | c :: rest =>
    if c.toNat < 0x20 then none
    else (readMarks rest).map fun (marks, rest) => (.char c :: marks, rest)

def isHighSurrogate (code : Nat) : Bool :=
  0xD800 ≤ code && code < 0xDC00

def isLowSurrogate (code : Nat) : Bool :=
  0xDC00 ≤ code && code < 0xE000

def surrogatePair (high low : Nat) : Char :=
  Char.ofNat (0x10000 + (high - 0xD800) * 0x400 + (low - 0xDC00))

/-- The text of marks, or `none` if half of a surrogate pair stands alone. -/
def textOf : List Mark → Option (List Char)
  | [] => some []
  | .char c :: rest => (textOf rest).map (c :: ·)
  | .unit high :: .unit low :: rest =>
    if isHighSurrogate high then
      if isLowSurrogate low then (textOf rest).map (surrogatePair high low :: ·)
      else none
    else if isLowSurrogate high then none
    else (textOf (.unit low :: rest)).map (Char.ofNat high :: ·)
  | .unit code :: rest =>
    if isHighSurrogate code || isLowSurrogate code then none
    else (textOf rest).map (Char.ofNat code :: ·)

def readString (text : List Char) : Option (Option String × List Char) :=
  (readMarks text).map fun (marks, rest) => ((textOf marks).map String.ofList, rest)

def isDigit (c : Char) : Bool :=
  (Decimal.digit? c).isSome

def readDigits (text : List Char) : Option (List Char × List Char) :=
  match text.takeWhile isDigit with
  | [] => none
  | digits => some (digits, text.dropWhile isDigit)

def valueOf (digits : List Char) : Nat :=
  digits.foldl (fun value c => 10 * value + (Decimal.digit? c).getD 0) 0

def skipFraction : List Char → Option (Bool × List Char)
  | '.' :: rest => (readDigits rest).map fun (_, rest) => (true, rest)
  | rest => some (false, rest)

def skipSign : List Char → List Char
  | '+' :: rest => rest
  | '-' :: rest => rest
  | rest => rest

def skipExponent : List Char → Option (Bool × List Char)
  | 'e' :: rest => (readDigits (skipSign rest)).map fun (_, rest) => (true, rest)
  | 'E' :: rest => (readDigits (skipSign rest)).map fun (_, rest) => (true, rest)
  | rest => some (false, rest)

def readUnsigned (text : List Char) : Option (Option Nat × List Char) := do
  let (digits, rest) ← readDigits text
  if digits.length > 1 && digits.head? == some '0' then none
  let (fraction, rest) ← skipFraction rest
  let (exponent, rest) ← skipExponent rest
  return (if fraction || exponent then none else some (valueOf digits), rest)

def readNumber : List Char → Option (Option Nat × List Char)
  | '-' :: rest => (readUnsigned rest).map fun (_, rest) => (none, rest)
  | text => readUnsigned text

/-! The bound is spent by one at every step inwards or onwards; a text of some length
never needs more than twice that many steps. -/

mutual

def readValue : Nat → List Char → Option (Json × List Char)
  | 0, _ => none
  | bound + 1, text =>
    match skipBlank text with
    | 'n' :: 'u' :: 'l' :: 'l' :: rest => some (.null, rest)
    | 't' :: 'r' :: 'u' :: 'e' :: rest => some (.bool true, rest)
    | 'f' :: 'a' :: 'l' :: 's' :: 'e' :: rest => some (.bool false, rest)
    | '"' :: rest => (readString rest).map fun (text, rest) => (.string text, rest)
    | '[' :: rest =>
      match skipBlank rest with
      | ']' :: rest => some (.array [], rest)
      | rest => (readItems bound rest).map fun (items, rest) => (.array items, rest)
    | '{' :: rest =>
      match skipBlank rest with
      | '}' :: rest => some (.object [], rest)
      | rest =>
        (readMembers bound rest).map fun (members, rest) => (.object members, rest)
    | rest => (readNumber rest).map fun (natural, rest) => (.number natural, rest)

def readItems : Nat → List Char → Option (List Json × List Char)
  | 0, _ => none
  | bound + 1, text =>
    match readValue bound text with
    | none => none
    | some (item, rest) =>
      match skipBlank rest with
      | ']' :: rest => some ([item], rest)
      | ',' :: rest =>
        (readItems bound rest).map fun (items, rest) => (item :: items, rest)
      | _ => none

def readMembers : Nat → List Char → Option (List (Option String × Json) × List Char)
  | 0, _ => none
  | bound + 1, text =>
    match skipBlank text with
    | '"' :: rest =>
      match readString rest with
      | none => none
      | some (name, rest) =>
        match skipBlank rest with
        | ':' :: rest =>
          match readValue bound rest with
          | none => none
          | some (value, rest) =>
            match skipBlank rest with
            | '}' :: rest => some ([(name, value)], rest)
            | ',' :: rest =>
              (readMembers bound rest).map fun (members, rest) =>
                ((name, value) :: members, rest)
            | _ => none
        | _ => none
    | _ => none

end

section

/-! White space in front makes no difference. -/

variable {text other : List Char} (bound : Nat) (same : skipBlank text = skipBlank other)

include same

theorem readValue_congr : readValue bound text = readValue bound other := by
  cases bound with
  | zero => rfl
  | succ bound => rw [readValue, readValue, same]

theorem readItems_congr : readItems bound text = readItems bound other := by
  cases bound with
  | zero => rfl
  | succ bound => rw [readItems, readItems, readValue_congr bound same]

theorem readMembers_congr : readMembers bound text = readMembers bound other := by
  cases bound with
  | zero => rfl
  | succ bound => rw [readMembers, readMembers, same]

end

def parse? (text : String) : Option Json :=
  match readValue (2 * text.toList.length + 1) text.toList with
  | some (value, rest) => if (skipBlank rest).isEmpty then some value else none
  | none => none

end Json

end Messenger

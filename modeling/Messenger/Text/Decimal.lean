/-!
Unsigned decimal numbers up to a limit: an optional `+`, then one or more ASCII
digits, leading zeros allowed.
-/

namespace Messenger

namespace Decimal

inductive Fault where
  | empty
  | badDigit
  | tooLarge
  deriving DecidableEq, Repr

def Fault.message : Fault → String
  | .empty => "cannot parse integer from empty string"
  | .badDigit => "invalid digit found in string"
  | .tooLarge => "number too large to fit in target type"

def digit? (c : Char) : Option Nat :=
  if '0' ≤ c ∧ c ≤ '9' then some (c.toNat - '0'.toNat) else none

/-- Reads digits from the left onto `value`; whichever fault is met first decides. -/
def readDigits (limit value : Nat) : List Char → Except Fault Nat
  | [] => .ok value
  | c :: rest =>
    match digit? c with
    | none => .error .badDigit
    | some d =>
      if 10 * value + d ≤ limit then readDigits limit (10 * value + d) rest
      else .error .tooLarge

def read (limit : Nat) : List Char → Except Fault Nat
  | [] => .error .empty
  | '+' :: c :: rest => readDigits limit 0 (c :: rest)
  | text => readDigits limit 0 text

theorem readDigits_le {limit value result : Nat} {text : List Char}
    (start : value ≤ limit) (reads : readDigits limit value text = .ok result) :
    result ≤ limit := by
  induction text generalizing value with
  | nil => simp_all [readDigits]
  | cons c rest induction =>
    unfold readDigits at reads
    split at reads
    · contradiction
    · split at reads
      · exact induction ‹_› reads
      · contradiction

theorem read_le {limit result : Nat} {text : List Char}
    (reads : read limit text = .ok result) : result ≤ limit := by
  unfold read at reads
  split at reads
  · contradiction
  all_goals exact readDigits_le (Nat.zero_le _) reads

def read64 (text : String) : Except Fault UInt64 :=
  (read (UInt64.size - 1) text.toList).map UInt64.ofNat

def read64? (text : String) : Option UInt64 :=
  (read64 text).toOption

def read16? (text : List Char) : Option UInt16 :=
  (read (UInt16.size - 1) text).toOption.map UInt16.ofNat

def write (value : Nat) : String :=
  value.repr

theorem digit?_digitChar {value : Nat} (bound : value < 10) :
    digit? value.digitChar = some value := by
  revert value
  decide

theorem readDigits_append (limit value : Nat) (left right : List Char) :
    readDigits limit value (left ++ right) =
      (readDigits limit value left).bind (readDigits limit · right) := by
  induction left generalizing value with
  | nil => rfl
  | cons c rest induction =>
      simp only [List.cons_append, readDigits]
      cases digit? c with
      | none => rfl
      | some d =>
          simp only
          split
          · exact induction _
          · rfl

theorem readDigits_toDigits {limit value : Nat} (bound : value ≤ limit) :
    readDigits limit 0 (Nat.toDigits 10 value) = .ok value := by
  induction value using Nat.strongRecOn with
  | ind value induction =>
      rw [Nat.toDigits_eq_if (by decide)]
      split
      · simp [readDigits, digit?_digitChar ‹_›, bound]
      · have before := induction (value / 10) (by omega) (by omega)
        have last : digit? (value % 10).digitChar = some (value % 10) :=
          digit?_digitChar (by omega)
        have whole : 10 * (value / 10) + value % 10 = value := by omega
        rw [readDigits_append, before]
        simp [Except.bind, readDigits, last, whole, bound]

theorem read_write {limit value : Nat} (bound : value ≤ limit) :
    read limit (write value).toList = .ok value := by
  have digits : (write value).toList = Nat.toDigits 10 value := Nat.toList_repr
  rw [digits]
  unfold read
  split
  · rename_i empty
    exact absurd empty Nat.toDigits_ne_nil
  · rename_i c rest sign
    have digit := Nat.isDigit_of_mem_toDigits (b := 10) (n := value) (c := '+')
      (by decide) (by decide) (sign ▸ List.mem_cons_self)
    exact absurd digit (by decide)
  · exact readDigits_toDigits bound

theorem read64?_write (word : UInt64) : read64? (write word.toNat) = some word := by
  have bound : word.toNat ≤ UInt64.size - 1 := Nat.le_pred_of_lt word.toNat_lt
  rw [read64?, read64, read_write bound, Except.map, UInt64.ofNat_toNat]
  rfl

end Decimal

end Messenger

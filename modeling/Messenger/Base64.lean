import Messenger.Bytes
import Messenger.Text.Blank

/-!
Base64 with the standard alphabet: three bytes are four letters, the last group is
padded, and bits that no byte uses are zero. Each list of bytes has one form.
-/

namespace Messenger

namespace Base64

def letter (value : Nat) : Char :=
  if value < 26 then Char.ofNat ('A'.toNat + value)
  else if value < 52 then Char.ofNat ('a'.toNat + (value - 26))
  else if value < 62 then Char.ofNat ('0'.toNat + (value - 52))
  else if value = 62 then '+'
  else '/'

def value? (c : Char) : Option Nat :=
  if 'A' ≤ c ∧ c ≤ 'Z' then some (c.toNat - 'A'.toNat)
  else if 'a' ≤ c ∧ c ≤ 'z' then some (c.toNat - 'a'.toNat + 26)
  else if '0' ≤ c ∧ c ≤ '9' then some (c.toNat - '0'.toNat + 52)
  else if c = '+' then some 62
  else if c = '/' then some 63
  else none

def encode : Bytes → List Char
  | [] => []
  | [a] => [letter (a.toNat / 4), letter (a.toNat % 4 * 16), '=', '=']
  | [a, b] =>
    [letter (a.toNat / 4), letter (a.toNat % 4 * 16 + b.toNat / 16),
      letter (b.toNat % 16 * 4), '=']
  | a :: b :: c :: rest =>
    letter (a.toNat / 4) :: letter (a.toNat % 4 * 16 + b.toNat / 16) ::
      letter (b.toNat % 16 * 4 + c.toNat / 64) :: letter (c.toNat % 64) :: encode rest

def decodeOne (a b : Char) : Option Bytes := do
  let a ← value? a
  let b ← value? b
  if b % 16 = 0 then some [UInt8.ofNat (a * 4 + b / 16)] else none

def decodeTwo (a b c : Char) : Option Bytes := do
  let a ← value? a
  let b ← value? b
  let c ← value? c
  if c % 4 = 0 then
    some [UInt8.ofNat (a * 4 + b / 16), UInt8.ofNat (b % 16 * 16 + c / 4)]
  else none

def decodeThree (a b c d : Char) : Option Bytes := do
  let a ← value? a
  let b ← value? b
  let c ← value? c
  let d ← value? d
  return [UInt8.ofNat (a * 4 + b / 16), UInt8.ofNat (b % 16 * 16 + c / 4),
    UInt8.ofNat (c % 4 * 64 + d)]

def decode : List Char → Option Bytes
  | [] => some []
  | [a, b, '=', '='] => decodeOne a b
  | [a, b, c, '='] => decodeTwo a b c
  | a :: b :: c :: d :: rest =>
    match decodeThree a b c d, decode rest with
    | some group, some bytes => some (group ++ bytes)
    | _, _ => none
  | _ => none

theorem value?_letter (value : Nat) (bounded : value < 64) :
    value? (letter value) = some value := by
  revert value
  decide

theorem letter_ne_pad (value : Nat) (bounded : value < 64) : letter value ≠ '=' := by
  revert value
  decide

theorem letter_not_blank (value : Nat) (bounded : value < 64) :
    Text.isBlank (letter value) = false := by
  revert value
  decide

theorem byte_eq {byte : UInt8} {value : Nat} (same : value = byte.toNat) :
    UInt8.ofNat value = byte := by
  rw [same, UInt8.ofNat_toNat]

theorem decodeOne_letters (a : UInt8) :
    decodeOne (letter (a.toNat / 4)) (letter (a.toNat % 4 * 16)) = some [a] := by
  have bounded := a.toNat_lt
  have first : a.toNat / 4 * 4 + a.toNat % 4 * 16 / 16 = a.toNat := by omega
  have unused : a.toNat % 4 * 16 % 16 = 0 := by omega
  simp only [decodeOne, value?_letter (a.toNat / 4) (by omega),
    value?_letter (a.toNat % 4 * 16) (by omega), Option.bind_eq_bind, Option.bind_some,
    if_pos unused, byte_eq first]

theorem decodeTwo_letters (a b : UInt8) :
    decodeTwo (letter (a.toNat / 4)) (letter (a.toNat % 4 * 16 + b.toNat / 16))
        (letter (b.toNat % 16 * 4)) =
      some [a, b] := by
  have aBounded := a.toNat_lt
  have bBounded := b.toNat_lt
  have first :
      a.toNat / 4 * 4 + (a.toNat % 4 * 16 + b.toNat / 16) / 16 = a.toNat := by omega
  have second :
      (a.toNat % 4 * 16 + b.toNat / 16) % 16 * 16 + b.toNat % 16 * 4 / 4 = b.toNat := by
    omega
  have unused : b.toNat % 16 * 4 % 4 = 0 := by omega
  simp only [decodeTwo, value?_letter (a.toNat / 4) (by omega),
    value?_letter (a.toNat % 4 * 16 + b.toNat / 16) (by omega),
    value?_letter (b.toNat % 16 * 4) (by omega), Option.bind_eq_bind, Option.bind_some,
    if_pos unused, byte_eq first, byte_eq second]

theorem decodeThree_letters (a b c : UInt8) :
    decodeThree (letter (a.toNat / 4)) (letter (a.toNat % 4 * 16 + b.toNat / 16))
        (letter (b.toNat % 16 * 4 + c.toNat / 64)) (letter (c.toNat % 64)) =
      some [a, b, c] := by
  have aBounded := a.toNat_lt
  have bBounded := b.toNat_lt
  have cBounded := c.toNat_lt
  have first :
      a.toNat / 4 * 4 + (a.toNat % 4 * 16 + b.toNat / 16) / 16 = a.toNat := by omega
  have second :
      (a.toNat % 4 * 16 + b.toNat / 16) % 16 * 16 +
          (b.toNat % 16 * 4 + c.toNat / 64) / 4 =
        b.toNat := by omega
  have third :
      (b.toNat % 16 * 4 + c.toNat / 64) % 4 * 64 + c.toNat % 64 = c.toNat := by omega
  simp only [decodeThree, value?_letter (a.toNat / 4) (by omega),
    value?_letter (a.toNat % 4 * 16 + b.toNat / 16) (by omega),
    value?_letter (b.toNat % 16 * 4 + c.toNat / 64) (by omega),
    value?_letter (c.toNat % 64) (by omega), Option.bind_eq_bind, Option.bind_some,
    byte_eq first, byte_eq second, byte_eq third]
  rfl

/-- A group whose last letter is no padding is three bytes, wherever it stands. -/
theorem decode_group (a b c d : Char) (rest : List Char) (full : d ≠ '=') :
    decode (a :: b :: c :: d :: rest) =
      (decodeThree a b c d).bind fun group =>
        (decode rest).map fun bytes => group ++ bytes := by
  rw [decode.eq_4 a b c d rest (fun _ pad _ => full pad) (fun pad _ => full pad)]
  cases decodeThree a b c d <;> cases decode rest <;> rfl

theorem decode_encode (bytes : Bytes) : decode (encode bytes) = some bytes := by
  induction bytes using encode.induct with
  | case1 => rfl
  | case2 a =>
      rw [encode, decode]
      exact decodeOne_letters a
  | case3 a b =>
      rw [encode, decode]
      · exact decodeTwo_letters a b
      · intro pad
        exact letter_ne_pad _ (by omega) pad
  | case4 a b c rest induction =>
      rw [encode, decode_group _ _ _ _ _ (letter_ne_pad _ (by omega)),
        decodeThree_letters, induction]
      rfl

theorem encode_not_blank {bytes : Bytes} {c : Char} (member : c ∈ encode bytes) :
    Text.isBlank c = false := by
  induction bytes using encode.induct with
  | case1 => cases member
  | case2 a =>
      have bounded := a.toNat_lt
      simp only [encode, List.mem_cons, List.not_mem_nil, or_false] at member
      rcases member with same | same | same | same <;> subst same
      · exact letter_not_blank _ (by omega)
      · exact letter_not_blank _ (by omega)
      · rfl
      · rfl
  | case3 a b =>
      have aBounded := a.toNat_lt
      have bBounded := b.toNat_lt
      simp only [encode, List.mem_cons, List.not_mem_nil, or_false] at member
      rcases member with same | same | same | same <;> subst same
      · exact letter_not_blank _ (by omega)
      · exact letter_not_blank _ (by omega)
      · exact letter_not_blank _ (by omega)
      · rfl
  | case4 a b c rest induction =>
      have aBounded := a.toNat_lt
      have bBounded := b.toNat_lt
      have cBounded := c.toNat_lt
      simp only [encode, List.mem_cons] at member
      rcases member with same | same | same | same | inside
      · exact same ▸ letter_not_blank _ (by omega)
      · exact same ▸ letter_not_blank _ (by omega)
      · exact same ▸ letter_not_blank _ (by omega)
      · exact same ▸ letter_not_blank _ (by omega)
      · exact induction inside

theorem encode_eq_nil {bytes : Bytes} : encode bytes = [] ↔ bytes = [] := by
  fun_cases encode bytes <;> simp

end Base64

end Messenger

import Messenger.Json.Reader

/-!
JSON as it can be written. A written value keeps all that the writer is free to choose: the
white space between tokens, how the characters of a string are escaped, and how a number is
put. Its text is what stands there to be read, and its value is what a reader keeps of it.
-/

namespace Messenger

namespace Json

/-- White space between two tokens. -/
structure Gap where
  text : List Char
  blank : ∀ c ∈ text, isBlank c = true

def Gap.none : Gap :=
  ⟨[], nofun⟩

def Gap.space : Gap :=
  ⟨[' '], List.all_eq_true.mp rfl⟩

structure HexDigit where
  value : Fin 16
  upper : Bool

def HexDigit.char (digit : HexDigit) : Char :=
  if digit.upper then (Nat.digitChar digit.value).toUpper else Nat.digitChar digit.value

/-- A 16-bit unit. -/
structure HexUnit where
  first : HexDigit
  second : HexDigit
  third : HexDigit
  fourth : HexDigit

def HexUnit.ofCode (code : Nat) (upper : Bool) : HexUnit where
  first := ⟨⟨code / 0x1000 % 16, Nat.mod_lt _ (by decide)⟩, upper⟩
  second := ⟨⟨code / 0x100 % 16, Nat.mod_lt _ (by decide)⟩, upper⟩
  third := ⟨⟨code / 0x10 % 16, Nat.mod_lt _ (by decide)⟩, upper⟩
  fourth := ⟨⟨code % 16, Nat.mod_lt _ (by decide)⟩, upper⟩

def HexUnit.code (unit : HexUnit) : Nat :=
  unit.first.value * 0x1000 + unit.second.value * 0x100 + unit.third.value * 0x10 +
    unit.fourth.value

theorem HexUnit.code_ofCode {code : Nat} (fits : code < 0x10000) (upper : Bool) :
    (HexUnit.ofCode code upper).code = code := by
  simp only [HexUnit.code, HexUnit.ofCode]
  omega

def HexUnit.text (unit : HexUnit) : List Char :=
  [unit.first.char, unit.second.char, unit.third.char, unit.fourth.char]

/-- The letters behind a backslash, with the characters that they stand for. -/
def shortEscapes : List (Char × Char) :=
  [('"', '"'), ('\\', '\\'), ('/', '/'), ('b', '\x08'), ('f', '\x0c'), ('n', '\n'),
    ('r', '\r'), ('t', '\t')]

/-- May stand in a string as it is. -/
def Legal (c : Char) : Prop :=
  0x20 ≤ c.toNat ∧ c ≠ '"' ∧ c ≠ '\\'

instance (c : Char) : Decidable (Legal c) :=
  inferInstanceAs (Decidable (_ ∧ _))

inductive Stroke where
  | plain (c : Char) (legal : Legal c)
  | short (letter c : Char) (listed : (letter, c) ∈ shortEscapes)
  | escaped (unit : HexUnit)

def Stroke.text : Stroke → List Char
  | .plain c _ => [c]
  | .short letter _ _ => ['\\', letter]
  | .escaped unit => '\\' :: 'u' :: unit.text

def Stroke.mark : Stroke → Mark
  | .plain c _ => .char c
  | .short _ c _ => .char c
  | .escaped unit => .unit unit.code

def quoted (strokes : List Stroke) : List Char :=
  '"' :: (strokes.flatMap Stroke.text ++ ['"'])

/-- The text that strokes spell, if no half of a surrogate pair stands alone. -/
def spelt? (strokes : List Stroke) : Option String :=
  (textOf (strokes.map Stroke.mark)).map String.ofList

/-- A text is spelt with one stroke for each character, or with a pair of surrogates for one
that needs more than 16 bits. -/
inductive Spells : List Stroke → List Char → Prop
  | nil : Spells [] []
  | plain {strokes : List Stroke} {text : List Char} {c : Char} {legal : Legal c} :
      Spells strokes text → Spells (.plain c legal :: strokes) (c :: text)
  | short {strokes : List Stroke} {text : List Char} {letter c : Char}
      {listed : (letter, c) ∈ shortEscapes} : Spells strokes text →
      Spells (.short letter c listed :: strokes) (c :: text)
  | escaped {strokes : List Stroke} {text : List Char} {unit : HexUnit} {c : Char} :
      unit.code = c.toNat → Spells strokes text → Spells (.escaped unit :: strokes) (c :: text)
  | pair {strokes : List Stroke} {text : List Char} {high low : HexUnit} {c : Char} :
      0x10000 ≤ c.toNat → high.code = 0xD800 + (c.toNat - 0x10000) / 0x400 →
      low.code = 0xDC00 + (c.toNat - 0x10000) % 0x400 → Spells strokes text →
      Spells (.escaped high :: .escaped low :: strokes) (c :: text)

/-- A text without a character that has to be escaped. -/
def plainly (text : List Char) (legal : ∀ c ∈ text, Legal c) : List Stroke :=
  text.pmap Stroke.plain legal

theorem spells_plainly {text : List Char} (legal : ∀ c ∈ text, Legal c) :
    Spells (plainly text legal) text := by
  induction text with
  | nil => exact .nil
  | cons c rest induction => exact .plain (induction fun d member => legal d (.tail c member))

structure Digits where
  text : List Char
  written : text ≠ []
  decimal : ∀ c ∈ text, c.isDigit = true

structure Exponent where
  letter : Char
  isLetter : letter = 'e' ∨ letter = 'E'
  sign : List Char
  isSign : sign = [] ∨ sign = ['+'] ∨ sign = ['-']
  digits : Digits

def Exponent.text (exponent : Exponent) : List Char :=
  exponent.letter :: (exponent.sign ++ exponent.digits.text)

structure Numeral where
  negative : Bool
  whole : Digits
  /-- Zero leads only where it is all. -/
  leads : whole.text.head? = some '0' → whole.text = ['0']
  fraction : Option Digits
  exponent : Option Exponent

namespace Numeral

def fractionText (numeral : Numeral) : List Char :=
  numeral.fraction.elim [] fun digits => '.' :: digits.text

def exponentText (numeral : Numeral) : List Char :=
  numeral.exponent.elim [] Exponent.text

def text (numeral : Numeral) : List Char :=
  (if numeral.negative then ['-'] else []) ++
    (numeral.whole.text ++ (numeral.fractionText ++ numeral.exponentText))

/-- A sign, a fraction or an exponent makes a number something else than a word. -/
def natural? (numeral : Numeral) : Option Nat :=
  if numeral.negative || numeral.fraction.isSome || numeral.exponent.isSome then none
  else some (valueOf numeral.whole.text)

theorem digitChar_eq_zero {value : Nat} (small : value < 10)
    (zero : value.digitChar = '0') : value = 0 := by
  revert value
  decide

theorem eq_zero_of_head?_toDigits {value : Nat}
    (zero : (Nat.toDigits 10 value).head? = some '0') : value = 0 := by
  induction value using Nat.strongRecOn with
  | ind value induction =>
      rw [Nat.toDigits_eq_if (by decide)] at zero
      split at zero
      · exact digitChar_eq_zero ‹_› (Option.some.inj zero)
      · rw [List.head?_append, Option.or_eq_left_of_isSome
          (List.isSome_head?.mpr Nat.toDigits_ne_nil)] at zero
        have none := induction (value / 10) (by omega) zero
        omega

theorem toDigits_leads {value : Nat} (zero : (Nat.toDigits 10 value).head? = some '0') :
    Nat.toDigits 10 value = ['0'] := by
  rw [eq_zero_of_head?_toDigits zero, Nat.toDigits_zero]

/-- The digits of a word, without zeros before them. -/
def ofWord (word : UInt64) : Numeral where
  negative := false
  whole := {
    text := Nat.toDigits 10 word.toNat
    written := Nat.toDigits_ne_nil
    decimal := fun _ => Nat.isDigit_of_mem_toDigits (by decide) (by decide) }
  leads := toDigits_leads
  fraction := none
  exponent := none

end Numeral

/-- The name of a member, up to the colon. -/
structure Label where
  before : Gap
  name : List Stroke
  after : Gap

def Label.text (label : Label) : List Char :=
  label.before.text ++ (quoted label.name ++ (label.after.text ++ [':']))

mutual

inductive Written where
  | null
  | bool (value : Bool)
  | number (numeral : Numeral)
  | string (strokes : List Stroke)
  | emptyArray (gap : Gap)
  | array (items : Items)
  | emptyObject (gap : Gap)
  | object (members : Members)

inductive Items where
  | last (before : Gap) (item : Written) (after : Gap)
  | more (before : Gap) (item : Written) (after : Gap) (rest : Items)

inductive Members where
  | last (label : Label) (before : Gap) (value : Written) (after : Gap)
  | more (label : Label) (before : Gap) (value : Written) (after : Gap) (rest : Members)

end

mutual

def Written.text : Written → List Char
  | .null => ['n', 'u', 'l', 'l']
  | .bool true => ['t', 'r', 'u', 'e']
  | .bool false => ['f', 'a', 'l', 's', 'e']
  | .number numeral => numeral.text
  | .string strokes => quoted strokes
  | .emptyArray gap => '[' :: (gap.text ++ [']'])
  | .array items => '[' :: (items.text ++ [']'])
  | .emptyObject gap => '{' :: (gap.text ++ ['}'])
  | .object members => '{' :: (members.text ++ ['}'])

def Items.text : Items → List Char
  | .last before item after => before.text ++ (item.text ++ after.text)
  | .more before item after rest =>
    before.text ++ (item.text ++ (after.text ++ ',' :: rest.text))

def Members.text : Members → List Char
  | .last label before value after =>
    label.text ++ (before.text ++ (value.text ++ after.text))
  | .more label before value after rest =>
    label.text ++ (before.text ++ (value.text ++ (after.text ++ ',' :: rest.text)))

end

mutual

def Written.value : Written → Json
  | .null => .null
  | .bool value => .bool value
  | .number numeral => .number numeral.natural?
  | .string strokes => .string (spelt? strokes)
  | .emptyArray _ => .array []
  | .array items => .array items.values
  | .emptyObject _ => .object []
  | .object members => .object members.values

def Items.values : Items → List Json
  | .last _ item _ => [item.value]
  | .more _ item _ rest => item.value :: rest.values

def Members.values : Members → List (Option String × Json)
  | .last label _ value _ => [(spelt? label.name, value.value)]
  | .more label _ value _ rest => (spelt? label.name, value.value) :: rest.values

end

end Json

end Messenger

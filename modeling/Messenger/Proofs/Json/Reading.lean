import Mathlib.Data.List.DropRight
import Messenger.Proofs.Json.Written
import Messenger.Proofs.Text.Numerals

/-!
Whatever is written is read: from the text of a written value the reader takes its value and
leaves what stands behind it, however deep the value is nested.
-/

namespace Messenger

namespace Json

variable {rest : List Char}

theorem HexDigit.hexDigit?_char (digit : HexDigit) :
    hexDigit? digit.char = some digit.value.val := by
  obtain ⟨value, upper⟩ := digit
  revert value upper
  decide

theorem HexUnit.hexUnit?_text (unit : HexUnit) :
    hexUnit? unit.first.char unit.second.char unit.third.char unit.fourth.char =
      some unit.code := by
  simp only [hexUnit?, HexDigit.hexDigit?_char, Option.bind_eq_bind, Option.bind_some,
    HexUnit.code, Option.pure_def, Option.some.injEq]
  omega

theorem shortEscape?_listed {letter c : Char} (listed : (letter, c) ∈ shortEscapes) :
    letter ≠ 'u' ∧ shortEscape? letter = some c := by
  have all : shortEscapes.all (fun escape =>
      escape.1 ≠ 'u' ∧ shortEscape? escape.1 = some escape.2) = true := by
    decide
  exact of_decide_eq_true (List.all_eq_true.mp all _ listed)

theorem readMarks_escape {letter c : Char} {text rest : List Char} {marks : List Mark}
    (short : letter ≠ 'u') (escape : shortEscape? letter = some c)
    (read : readMarks text = some (marks, rest)) :
    readMarks ('\\' :: letter :: text) = some (.char c :: marks, rest) := by
  rw [readMarks.eq_4 letter text]
  · simp only [escape, read]
  · intro a b c d rest unit
    exact absurd unit short

theorem readMarks_plain {c : Char} {text rest : List Char} {marks : List Mark}
    (quote : c ≠ '"') (backslash : c ≠ '\\') (plain : ¬c.toNat < 0x20)
    (read : readMarks text = some (marks, rest)) :
    readMarks (c :: text) = some (.char c :: marks, rest) := by
  rw [readMarks.eq_5 c text quote, if_neg plain, read]
  · rfl
  · intro a b c d rest same
    exact absurd same backslash
  · intro letter rest same
    exact absurd same backslash

theorem readMarks_stroke (stroke : Stroke) {text : List Char} {marks : List Mark}
    (read : readMarks text = some (marks, rest)) :
    readMarks (stroke.text ++ text) = some (stroke.mark :: marks, rest) := by
  cases stroke with
  | plain c legal =>
      obtain ⟨visible, quote, backslash⟩ := legal
      exact readMarks_plain quote backslash (Nat.not_lt.mpr visible) read
  | short letter c listed =>
      obtain ⟨other, escape⟩ := shortEscape?_listed listed
      exact readMarks_escape other escape read
  | escaped unit =>
      simp only [Stroke.text, HexUnit.text, List.cons_append, List.nil_append, readMarks,
        unit.hexUnit?_text, read, Stroke.mark]

theorem readMarks_strokes (strokes : List Stroke) (rest : List Char) :
    readMarks (strokes.flatMap Stroke.text ++ '"' :: rest) =
      some (strokes.map Stroke.mark, rest) := by
  induction strokes with
  | nil => rfl
  | cons stroke others induction =>
      rw [List.flatMap_cons, List.append_assoc, readMarks_stroke stroke induction,
        List.map_cons]

theorem quoted_append (strokes : List Stroke) (rest : List Char) :
    quoted strokes ++ rest = '"' :: (strokes.flatMap Stroke.text ++ '"' :: rest) := by
  simp [quoted]

theorem readString_strokes (strokes : List Stroke) (rest : List Char) :
    readString (strokes.flatMap Stroke.text ++ '"' :: rest) = some (spelt? strokes, rest) := by
  rw [readString, readMarks_strokes]
  rfl

theorem not_surrogate (c : Char) :
    isHighSurrogate c.toNat = false ∧ isLowSurrogate c.toNat = false := by
  have valid : c.toNat < 0xD800 ∨ 0xDFFF < c.toNat ∧ c.toNat < 0x110000 := c.valid
  simp only [isHighSurrogate, isLowSurrogate, Bool.and_eq_false_iff, decide_eq_false_iff_not]
  omega

theorem textOf_char {c : Char} {marks : List Mark} {text : List Char}
    (stands : textOf marks = some text) : textOf (.char c :: marks) = some (c :: text) := by
  simp [textOf, stands]

theorem textOf_unit {code : Nat} (notHigh : isHighSurrogate code = false)
    (notLow : isLowSurrogate code = false) (marks : List Mark) :
    textOf (.unit code :: marks) = (textOf marks).map (Char.ofNat code :: ·) := by
  cases marks with
  | nil => simp [textOf, notHigh, notLow]
  | cons mark rest =>
      cases mark with
      | char c => simp [textOf, notHigh, notLow]
      | unit low => simp [textOf, notHigh, notLow]

theorem textOf_escaped {code : Nat} {c : Char} (same : code = c.toNat) (marks : List Mark) :
    textOf (.unit code :: marks) = (textOf marks).map (c :: ·) := by
  obtain ⟨notHigh, notLow⟩ := not_surrogate c
  rw [same, textOf_unit notHigh notLow, Char.ofNat_toNat]

theorem textOf_pair {high low : Nat} {c : Char} (astral : 0x10000 ≤ c.toNat)
    (highEq : high = 0xD800 + (c.toNat - 0x10000) / 0x400)
    (lowEq : low = 0xDC00 + (c.toNat - 0x10000) % 0x400) (marks : List Mark) :
    textOf (.unit high :: .unit low :: marks) = (textOf marks).map (c :: ·) := by
  have bound : c.toNat < 0x110000 := by
    have valid : c.toNat < 0xD800 ∨ 0xDFFF < c.toNat ∧ c.toNat < 0x110000 := c.valid
    omega
  have isHigh : isHighSurrogate high = true := by
    simp only [isHighSurrogate, Bool.and_eq_true, decide_eq_true_eq]
    omega
  have isLow : isLowSurrogate low = true := by
    simp only [isLowSurrogate, Bool.and_eq_true, decide_eq_true_eq]
    omega
  have joined : 0x10000 + (high - 0xD800) * 0x400 + (low - 0xDC00) = c.toNat := by omega
  have paired : surrogatePair high low = c := by
    rw [surrogatePair, joined, Char.ofNat_toNat]
  rw [textOf, if_pos isHigh, if_pos isLow, paired]

theorem Spells.textOf_marks {strokes : List Stroke} {text : List Char}
    (spells : Spells strokes text) : textOf (strokes.map Stroke.mark) = some text := by
  induction spells with
  | nil => rfl
  | plain _ read => exact textOf_char read
  | short _ read => exact textOf_char read
  | escaped same _ read =>
      rw [List.map_cons, Stroke.mark, textOf_escaped same, read, Option.map_some]
  | pair astral highEq lowEq _ read =>
      rw [List.map_cons, List.map_cons, Stroke.mark, Stroke.mark,
        textOf_pair astral highEq lowEq, read, Option.map_some]

theorem Spells.spelt?_eq {strokes : List Stroke} {text : String}
    (spells : Spells strokes text.toList) : spelt? strokes = some text := by
  rw [spelt?, spells.textOf_marks, Option.map_some, String.ofList_toList]

theorem isDigit_eq (c : Char) : isDigit c = c.isDigit := by
  rw [isDigit, Decimal.digit?_eq]
  cases c.isDigit <;> rfl

theorem valueOf_eq {digits : List Char} (decimal : ∀ c ∈ digits, c.isDigit = true) :
    valueOf digits = Nat.ofDigitChars 10 digits 0 := by
  suffices folds : ∀ value, digits.foldl
      (fun value c => 10 * value + (Decimal.digit? c).getD 0) value =
        Nat.ofDigitChars 10 digits value from folds 0
  induction digits with
  | nil => exact fun _ => rfl
  | cons c others induction =>
      have ⟨digit, later⟩ := List.forall_mem_cons.mp decimal
      intro value
      rw [List.foldl_cons, Nat.ofDigitChars_cons, Decimal.digit?_eq, if_pos digit]
      exact induction later _

theorem Numeral.natural?_ofWord (word : UInt64) :
    (Numeral.ofWord word).natural? = some word.toNat := by
  have digits : valueOf (Numeral.ofWord word).whole.text = word.toNat := by
    rw [valueOf_eq (Numeral.ofWord word).whole.decimal]
    exact Nat.ofDigitChars_toDigits (by decide) (by decide)
  rw [Numeral.natural?, digits]
  rfl

/-- A text that does not carry a number on. -/
def Apart (rest : List Char) : Prop :=
  ∀ c ∈ rest.head?, c.isDigit = false ∧ c ≠ '.' ∧ c ≠ 'e' ∧ c ≠ 'E'

theorem readDigits_text (digits : Digits)
    (apart : ∀ c ∈ rest.head?, c.isDigit = false) :
    readDigits (digits.text ++ rest) = some (digits.text, rest) := by
  have inside : ∀ c ∈ digits.text, isDigit c = true := fun c member =>
    (isDigit_eq c).trans (digits.decimal c member)
  have none : rest.takeWhile isDigit = [] ∧ rest.dropWhile isDigit = rest := by
    cases rest with
    | nil => exact ⟨rfl, rfl⟩
    | cons c others =>
        have other : ¬isDigit c = true := by
          rw [isDigit_eq, apart c rfl]
          decide
        exact ⟨List.takeWhile_cons_of_neg other, List.dropWhile_cons_of_neg other⟩
  rw [readDigits, List.takeWhile_append_of_pos inside, List.dropWhile_append_of_pos inside,
    none.1, none.2, List.append_nil]
  split
  · rename_i empty
    exact absurd empty digits.written
  · rfl

theorem Digits.exists_cons (digits : Digits) :
    ∃ c others, digits.text = c :: others ∧ c.isDigit = true := by
  obtain ⟨c, others, same⟩ := List.exists_cons_of_ne_nil digits.written
  exact ⟨c, others, same, digits.decimal c (same ▸ List.mem_cons_self)⟩

theorem skipSign_text (exponent : Exponent) (rest : List Char) :
    skipSign (exponent.sign ++ (exponent.digits.text ++ rest)) =
      exponent.digits.text ++ rest := by
  rcases exponent.isSign with sign | sign | sign <;> rw [sign]
  · obtain ⟨c, others, same, digit⟩ := exponent.digits.exists_cons
    rw [same, List.nil_append, List.cons_append]
    unfold skipSign
    split
    · rename_i plus
      cases plus
      cases digit
    · rename_i minus
      cases minus
      cases digit
    · rfl
  · rfl
  · rfl

namespace Numeral

variable (numeral : Numeral)

/-! The parts of a number are read from the end on: where one part ends the next one begins. -/

theorem skipExponent_text (apart : Apart rest) :
    skipExponent (numeral.exponentText ++ rest) = some (numeral.exponent.isSome, rest) := by
  unfold exponentText
  cases numeral.exponent with
  | none =>
      show skipExponent rest = some (false, rest)
      unfold skipExponent
      split
      · exact absurd rfl (apart 'e' rfl).2.2.1
      · exact absurd rfl (apart 'E' rfl).2.2.2
      · rfl
  | some exponent =>
      have digits := readDigits_text exponent.digits fun c first => (apart c first).1
      have read : readDigits (skipSign (exponent.sign ++ exponent.digits.text ++ rest)) =
          some (exponent.digits.text, rest) := by
        rw [List.append_assoc, skipSign_text, digits]
      show skipExponent (exponent.letter :: _) = _
      rcases exponent.isLetter with letter | letter <;> rw [letter] <;>
        exact congrArg (Option.map _) read

theorem head?_exponentText (apart : Apart rest) :
    ∀ c ∈ (numeral.exponentText ++ rest).head?, c.isDigit = false ∧ c ≠ '.' := by
  unfold exponentText
  cases numeral.exponent with
  | none => exact fun c first => ⟨(apart c first).1, (apart c first).2.1⟩
  | some exponent =>
      rintro c ⟨⟩
      rcases exponent.isLetter with letter | letter <;> rw [letter] <;> decide

theorem skipFraction_text (apart : Apart rest) :
    skipFraction (numeral.fractionText ++ (numeral.exponentText ++ rest)) =
      some (numeral.fraction.isSome, numeral.exponentText ++ rest) := by
  have follows := numeral.head?_exponentText apart
  unfold fractionText
  cases numeral.fraction with
  | none =>
      show skipFraction (numeral.exponentText ++ rest) = _
      unfold skipFraction
      split
      · rename_i point
        exact absurd rfl (follows '.' (by rw [point]; rfl)).2
      · rfl
  | some digits =>
      have read := readDigits_text digits fun c first => (follows c first).1
      show (readDigits (digits.text ++ _)).map _ = _
      rw [read]
      rfl

theorem head?_fractionText (apart : Apart rest) :
    ∀ c ∈ (numeral.fractionText ++ (numeral.exponentText ++ rest)).head?,
      c.isDigit = false := by
  unfold fractionText
  cases numeral.fraction with
  | none => exact fun c first => (numeral.head?_exponentText apart c first).1
  | some digits =>
      rintro c ⟨⟩
      decide

theorem not_leading_zero :
    (numeral.whole.text.length > 1 && numeral.whole.text.head? == some '0') = false := by
  rw [Bool.and_eq_false_iff, decide_eq_false_iff_not, beq_eq_false_iff_ne]
  by_cases zero : numeral.whole.text.head? = some '0'
  · rw [numeral.leads zero]
    exact Or.inl (by decide)
  · exact Or.inr zero

theorem readUnsigned_text (apart : Apart rest) :
    readUnsigned (numeral.whole.text ++
        (numeral.fractionText ++ (numeral.exponentText ++ rest))) =
      some (if numeral.fraction.isSome || numeral.exponent.isSome then none
        else some (valueOf numeral.whole.text), rest) := by
  have whole := readDigits_text numeral.whole (numeral.head?_fractionText apart)
  rw [readUnsigned, whole]
  simp only [Option.bind_eq_bind, Option.bind_some, numeral.not_leading_zero,
    Bool.false_eq_true, if_false, numeral.skipFraction_text apart,
    numeral.skipExponent_text apart]
  rfl

theorem readNumber_digit {c : Char} (digit : c.isDigit = true) (text : List Char) :
    readNumber (c :: text) = readUnsigned (c :: text) := by
  unfold readNumber
  split
  · rename_i minus
    cases minus
    cases digit
  · rfl

theorem readNumber_text (apart : Apart rest) :
    readNumber (numeral.text ++ rest) = some (numeral.natural?, rest) := by
  have read := numeral.readUnsigned_text apart
  unfold text natural?
  cases numeral.negative with
  | true =>
      rw [if_pos rfl, List.append_assoc, List.append_assoc, List.append_assoc,
        List.singleton_append, readNumber, read]
      rfl
  | false =>
      obtain ⟨c, others, same, digit⟩ := numeral.whole.exists_cons
      rw [if_neg Bool.false_ne_true, List.nil_append, List.append_assoc, List.append_assoc]
      rw [same, List.cons_append, readNumber_digit digit, ← List.cons_append, ← same, read]
      rfl

end Numeral

theorem skipBlank_gap (gap : Gap) (text : List Char) :
    skipBlank (gap.text ++ text) = skipBlank text :=
  List.dropWhile_append_of_pos gap.blank

theorem skipBlank_solid {c : Char} (solid : isBlank c = false) (text : List Char) :
    skipBlank (c :: text) = c :: text :=
  List.dropWhile_cons_of_neg (by simp [solid])

theorem skipBlank_skipBlank (text : List Char) : skipBlank (skipBlank text) = skipBlank text :=
  List.dropWhile_idempotent _ _

theorem apart_cons {c : Char} (closes : c.isDigit = false ∧ c ≠ '.' ∧ c ≠ 'e' ∧ c ≠ 'E')
    (rest : List Char) : Apart (c :: rest) := by
  rintro _ ⟨⟩
  exact closes

theorem eq_of_isBlank {c : Char} (blank : isBlank c = true) :
    c = ' ' ∨ c = '\t' ∨ c = '\n' ∨ c = '\r' := by
  simpa only [isBlank, Bool.or_eq_true, beq_iff_eq, or_assoc] using blank

theorem Gap.apart (gap : Gap) (apart : Apart rest) : Apart (gap.text ++ rest) := by
  obtain ⟨text, blank⟩ := gap
  cases text with
  | nil => exact apart
  | cons c others =>
      apply apart_cons
      rcases eq_of_isBlank (blank c List.mem_cons_self) with rfl | rfl | rfl | rfl <;> decide

theorem readValue_gap (bound : Nat) (gap : Gap) (text : List Char) :
    readValue bound (gap.text ++ text) = readValue bound text :=
  readValue_congr bound (skipBlank_gap gap text)

theorem readValue_quote (bound : Nat) (text : List Char) :
    readValue (bound + 1) ('"' :: text) =
      (readString text).map fun (text, rest) => (.string text, rest) := by
  rw [readValue, skipBlank_solid (by decide)]
  rfl

theorem solid_of_numeral {c : Char} (starts : c.isDigit = true ∨ c = '-') :
    isBlank c = false ∧ c ≠ ']' := by
  constructor
  · rw [Bool.eq_false_iff]
    intro blank
    rcases eq_of_isBlank blank with rfl | rfl | rfl | rfl <;> exact absurd starts (by decide)
  · rintro rfl
    exact absurd starts (by decide)

theorem readValue_numeral (bound : Nat) {c : Char} (starts : c.isDigit = true ∨ c = '-')
    (text : List Char) :
    readValue (bound + 1) (c :: text) =
      (readNumber (c :: text)).map fun (natural, rest) => (.number natural, rest) := by
  rw [readValue, skipBlank_solid (solid_of_numeral starts).1]
  split
  case h_7 => rfl
  all_goals
    rename_i same
    cases same
    exact absurd starts (by decide)

theorem readValue_bracket (bound : Nat) {text : List Char}
    (item : ∀ rest, skipBlank text ≠ ']' :: rest) :
    readValue (bound + 1) ('[' :: text) =
      (readItems bound text).map fun (items, rest) => (.array items, rest) := by
  rw [readValue, skipBlank_solid (by decide)]
  simp only
  rw [readItems_congr _ (skipBlank_skipBlank text)]

theorem readValue_emptyArray (bound : Nat) {text : List Char}
    (closed : skipBlank text = ']' :: rest) :
    readValue (bound + 1) ('[' :: text) = some (.array [], rest) := by
  rw [readValue, skipBlank_solid (by decide)]
  simp only [closed]

theorem readValue_emptyObject (bound : Nat) {text : List Char}
    (closed : skipBlank text = '}' :: rest) :
    readValue (bound + 1) ('{' :: text) = some (.object [], rest) := by
  rw [readValue, skipBlank_solid (by decide)]
  simp only [closed]

theorem readValue_brace (bound : Nat) {text : List Char}
    (member : ∀ rest, skipBlank text ≠ '}' :: rest) :
    readValue (bound + 1) ('{' :: text) =
      (readMembers bound text).map fun (members, rest) => (.object members, rest) := by
  rw [readValue, skipBlank_solid (by decide)]
  simp only
  rw [readMembers_congr _ (skipBlank_skipBlank text)]

section

variable {bound : Nat} {text after : List Char} {value : Json}

theorem readItems_close (read : readValue bound text = some (value, after))
    (closed : skipBlank after = ']' :: rest) :
    readItems (bound + 1) text = some ([value], rest) := by
  rw [readItems, read]
  simp only [closed]

theorem readItems_comma (read : readValue bound text = some (value, after))
    (more : skipBlank after = ',' :: rest) :
    readItems (bound + 1) text =
      (readItems bound rest).map fun (items, rest) => (value :: items, rest) := by
  rw [readItems, read]
  simp only [more]

theorem skipBlank_label (label : Label) (text : List Char) :
    skipBlank (label.text ++ text) =
      '"' :: (label.name.flatMap Stroke.text ++
        '"' :: (label.after.text ++ ':' :: text)) := by
  rw [Label.text, List.append_assoc, skipBlank_gap, List.append_assoc, quoted_append,
    skipBlank_solid (by decide), List.append_assoc, List.singleton_append]

theorem readMembers_close (label : Label)
    (read : readValue bound text = some (value, after))
    (closed : skipBlank after = '}' :: rest) :
    readMembers (bound + 1) (label.text ++ text) =
      some ([(spelt? label.name, value)], rest) := by
  rw [readMembers, skipBlank_label]
  simp only [readString_strokes, skipBlank_gap,
    skipBlank_solid (show isBlank ':' = false from rfl), read, closed]

theorem readMembers_comma (label : Label)
    (read : readValue bound text = some (value, after))
    (more : skipBlank after = ',' :: rest) :
    readMembers (bound + 1) (label.text ++ text) =
      (readMembers bound rest).map fun (members, rest) =>
        ((spelt? label.name, value) :: members, rest) := by
  rw [readMembers, skipBlank_label]
  simp only [readString_strokes, skipBlank_gap,
    skipBlank_solid (show isBlank ':' = false from rfl), read, more]

end

theorem Numeral.exists_cons (numeral : Numeral) :
    ∃ c others, numeral.text = c :: others ∧ (c.isDigit = true ∨ c = '-') := by
  unfold Numeral.text
  cases numeral.negative with
  | true => exact ⟨'-', _, rfl, Or.inr rfl⟩
  | false =>
      obtain ⟨c, others, same, digit⟩ := numeral.whole.exists_cons
      rw [same]
      exact ⟨c, _, rfl, Or.inl digit⟩

theorem Written.exists_cons (written : Written) :
    ∃ c others, written.text = c :: others ∧ isBlank c = false ∧ c ≠ ']' := by
  cases written with
  | number numeral =>
      obtain ⟨c, others, same, starts⟩ := numeral.exists_cons
      exact ⟨c, others, same, solid_of_numeral starts⟩
  | bool value => cases value <;> exact ⟨_, _, rfl, by decide⟩
  | null => exact ⟨_, _, rfl, by decide⟩
  | string strokes => exact ⟨_, _, rfl, by decide⟩
  | emptyArray gap => exact ⟨_, _, rfl, by decide⟩
  | array items => exact ⟨_, _, rfl, by decide⟩
  | emptyObject gap => exact ⟨_, _, rfl, by decide⟩
  | object members => exact ⟨_, _, rfl, by decide⟩

theorem Written.length_pos (written : Written) : 0 < written.text.length := by
  obtain ⟨c, others, same, -⟩ := written.exists_cons
  rw [same]
  exact Nat.succ_pos _

theorem Items.exists_first (items : Items) :
    ∃ (before : Gap) (item : Written) (others : List Char),
      items.text = before.text ++ (item.text ++ others) := by
  cases items with
  | last before item after => exact ⟨before, item, _, rfl⟩
  | more before item after others => exact ⟨before, item, _, rfl⟩

theorem Members.exists_first (members : Members) :
    ∃ (label : Label) (others : List Char), members.text = label.text ++ others := by
  cases members with
  | last label before value after => exact ⟨label, _, rfl⟩
  | more label before value after others => exact ⟨label, _, rfl⟩

theorem Items.not_closed (items : Items) (more rest : List Char) :
    skipBlank (items.text ++ more) ≠ ']' :: rest := by
  obtain ⟨before, item, others, first⟩ := items.exists_first
  obtain ⟨c, text, same, solid, other⟩ := item.exists_cons
  rw [first, same, List.append_assoc, skipBlank_gap, List.append_assoc, List.cons_append,
    skipBlank_solid solid]
  exact fun closed => other (List.cons.inj closed).1

theorem Members.not_closed (members : Members) (more rest : List Char) :
    skipBlank (members.text ++ more) ≠ '}' :: rest := by
  obtain ⟨label, others, first⟩ := members.exists_first
  rw [first, List.append_assoc, skipBlank_label]
  exact nofun

/-- What a value in a container is followed by. -/
def Closes (c : Char) : Prop :=
  c = ',' ∨ c = ']' ∨ c = '}'

theorem Closes.skipBlank_gap {c : Char} (closes : Closes c) (gap : Gap) (rest : List Char) :
    skipBlank (gap.text ++ c :: rest) = c :: rest := by
  rw [Json.skipBlank_gap]
  rcases closes with rfl | rfl | rfl <;> exact skipBlank_solid (by decide) rest

theorem Closes.apart {c : Char} (closes : Closes c) (gap : Gap) (rest : List Char) :
    Apart (gap.text ++ c :: rest) := by
  refine gap.apart (apart_cons ?_ rest)
  rcases closes with rfl | rfl | rfl <;> decide

/-- A value is read in a container as it is read alone. -/
theorem readValue_between {bound : Nat} {text : List Char} {value : Json} {c : Char}
    (closes : Closes c) (before after : Gap) (rest : List Char)
    (read : ∀ rest, Apart rest → readValue bound (text ++ rest) = some (value, rest)) :
    readValue bound (before.text ++ (text ++ (after.text ++ c :: rest))) =
      some (value, after.text ++ c :: rest) := by
  rw [readValue_gap]
  exact read _ (closes.apart after rest)

/-! The bound of the reader is twice the length of the text, and each step inwards or onwards
uses up a character. -/

mutual

theorem Written.readValue_text (written : Written) {bound : Nat} {rest : List Char}
    (enough : 2 * written.text.length ≤ bound + 1) (apart : Apart rest) :
    readValue bound (written.text ++ rest) = some (written.value, rest) := by
  have nonempty := written.length_pos
  obtain ⟨bound, rfl⟩ := Nat.exists_eq_add_one.mpr (show 0 < bound by omega)
  cases written with
  | null => rw [readValue]; rfl
  | bool value => cases value <;> rw [readValue] <;> rfl
  | number numeral =>
      obtain ⟨c, others, same, starts⟩ := numeral.exists_cons
      have read := numeral.readNumber_text apart
      rw [Written.text]
      rw [same, List.cons_append] at read ⊢
      rw [readValue_numeral _ starts, read]
      rfl
  | string strokes =>
      rw [Written.text, quoted_append, readValue_quote, readString_strokes]
      rfl
  | emptyArray gap =>
      have closed : skipBlank (gap.text ++ [']'] ++ rest) = ']' :: rest := by
        rw [List.append_assoc, skipBlank_gap]
        exact skipBlank_solid (by decide) rest
      rw [Written.text, List.cons_append, readValue_emptyArray _ closed]
      rfl
  | array items =>
      simp only [Written.text, List.length_cons, List.length_append] at enough
      have inside : readItems bound (items.text ++ ']' :: rest) = some (items.values, rest) :=
        items.readItems_text (by omega)
      rw [Written.text, List.cons_append, List.append_assoc,
        readValue_bracket _ (items.not_closed _), List.singleton_append, inside]
      rfl
  | emptyObject gap =>
      have closed : skipBlank (gap.text ++ ['}'] ++ rest) = '}' :: rest := by
        rw [List.append_assoc, skipBlank_gap]
        exact skipBlank_solid (by decide) rest
      rw [Written.text, List.cons_append, readValue_emptyObject _ closed]
      rfl
  | object members =>
      simp only [Written.text, List.length_cons, List.length_append] at enough
      have inside :
          readMembers bound (members.text ++ '}' :: rest) = some (members.values, rest) :=
        members.readMembers_text (by omega)
      rw [Written.text, List.cons_append, List.append_assoc,
        readValue_brace _ (members.not_closed _), List.singleton_append, inside]
      rfl

theorem Items.readItems_text (items : Items) {bound : Nat} {rest : List Char}
    (enough : 2 * items.text.length ≤ bound) :
    readItems bound (items.text ++ ']' :: rest) = some (items.values, rest) := by
  cases items with
  | last before item after =>
      simp only [Items.text, List.length_append] at enough
      have nonempty := item.length_pos
      obtain ⟨bound, rfl⟩ := Nat.exists_eq_add_one.mpr (show 0 < bound by omega)
      have closes : Closes ']' := Or.inr (Or.inl rfl)
      have read := readValue_between closes before after rest fun rest =>
        item.readValue_text (show 2 * item.text.length ≤ bound + 1 by omega)
      simp only [Items.text, List.append_assoc]
      exact readItems_close read (closes.skipBlank_gap after rest)
  | more before item after others =>
      simp only [Items.text, List.length_append, List.length_cons] at enough
      have nonempty := item.length_pos
      obtain ⟨bound, rfl⟩ := Nat.exists_eq_add_one.mpr (show 0 < bound by omega)
      have closes : Closes ',' := Or.inl rfl
      have read := readValue_between closes before after (others.text ++ ']' :: rest)
        fun rest => item.readValue_text (show 2 * item.text.length ≤ bound + 1 by omega)
      simp only [Items.text, List.append_assoc, List.cons_append]
      rw [readItems_comma read (closes.skipBlank_gap after _),
        others.readItems_text (by omega)]
      rfl

theorem Members.readMembers_text (members : Members) {bound : Nat} {rest : List Char}
    (enough : 2 * members.text.length ≤ bound) :
    readMembers bound (members.text ++ '}' :: rest) = some (members.values, rest) := by
  cases members with
  | last label before value after =>
      simp only [Members.text, List.length_append] at enough
      have nonempty := value.length_pos
      obtain ⟨bound, rfl⟩ := Nat.exists_eq_add_one.mpr (show 0 < bound by omega)
      have closes : Closes '}' := Or.inr (Or.inr rfl)
      have read := readValue_between closes before after rest fun rest =>
        value.readValue_text (show 2 * value.text.length ≤ bound + 1 by omega)
      simp only [Members.text, List.append_assoc]
      exact readMembers_close label read (closes.skipBlank_gap after rest)
  | more label before value after others =>
      simp only [Members.text, List.length_append, List.length_cons] at enough
      have nonempty := value.length_pos
      obtain ⟨bound, rfl⟩ := Nat.exists_eq_add_one.mpr (show 0 < bound by omega)
      have closes : Closes ',' := Or.inl rfl
      have read := readValue_between closes before after (others.text ++ '}' :: rest)
        fun rest => value.readValue_text (show 2 * value.text.length ≤ bound + 1 by omega)
      simp only [Members.text, List.append_assoc, List.cons_append]
      rw [readMembers_comma label read (closes.skipBlank_gap after _),
        others.readMembers_text (by omega)]
      rfl

end

/-- A value is read off the whole text, with white space before and behind it. -/
theorem parse?_text (before : Gap) (written : Written) (after : Gap) {text : String}
    (whole : text.toList = before.text ++ (written.text ++ after.text)) :
    parse? text = some written.value := by
  have nothing : skipBlank after.text = [] := by
    have blank := skipBlank_gap after []
    rwa [List.append_nil] at blank
  have apart : Apart after.text := by
    have empty : Apart [] := nofun
    have behind := after.apart empty
    rwa [List.append_nil] at behind
  have length : text.toList.length =
      before.text.length + (written.text.length + after.text.length) := by
    rw [whole, List.length_append, List.length_append]
  have enough : 2 * written.text.length ≤ 2 * text.toList.length + 1 + 1 := by omega
  have read := written.readValue_text enough apart
  rw [← readValue_gap _ before, ← whole] at read
  rw [parse?, read]
  simp only [nothing]
  rfl

end Json

end Messenger

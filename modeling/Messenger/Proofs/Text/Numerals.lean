import Messenger.Text.Decimal

/-!
The numerals that a decimal reader accepts. Those of a number are its digits with any zeros
before them and with or without a plus sign; every number up to the limit is read from
each of its numerals, and nothing else is read.
-/

namespace Messenger

namespace Decimal

theorem digit?_eq (c : Char) :
    digit? c = if c.isDigit = true then some (c.toNat - '0'.toNat) else none := by
  have same : ('0' ≤ c ∧ c ≤ '9') ↔ c.isDigit = true := by
    simp only [Char.isDigit, Bool.and_eq_true, decide_eq_true_eq]
    exact Iff.rfl
  simp only [digit?, same]

/-- An optional plus sign, and one or more digits; zeros may lead. -/
def Writes (text : List Char) (value : Nat) : Prop :=
  ∃ digits, (text = digits ∨ text = '+' :: digits) ∧ digits ≠ [] ∧
    (∀ c ∈ digits, c.isDigit = true) ∧ Nat.ofDigitChars 10 digits 0 = value

theorem Writes.not_mem {text : List Char} {value : Nat} (writes : Writes text value) {c : Char}
    (other : c.isDigit = false) (sign : c ≠ '+') : c ∉ text := by
  obtain ⟨digits, shape, -, decimal, -⟩ := writes
  have apart : c ∉ digits := fun member =>
    Bool.false_ne_true (other.symm.trans (decimal c member))
  rcases shape with rfl | rfl
  · exact apart
  · exact List.not_mem_cons_of_ne_of_not_mem sign apart

theorem Writes.ne_nil {text : List Char} {value : Nat} (writes : Writes text value) :
    text ≠ [] := by
  obtain ⟨digits, rfl | rfl, written, -, -⟩ := writes
  · exact written
  · exact List.cons_ne_nil _ _

theorem le_ofDigitChars (text : List Char) (value : Nat) :
    value ≤ Nat.ofDigitChars 10 text value := by
  induction text generalizing value with
  | nil => exact Nat.le_refl value
  | cons c rest induction =>
      rw [Nat.ofDigitChars_cons]
      refine Nat.le_trans ?_ (induction _)
      omega

theorem readDigits_eq_ok_iff {limit value result : Nat} {text : List Char}
    (start : value ≤ limit) :
    readDigits limit value text = .ok result ↔
      (∀ c ∈ text, c.isDigit = true) ∧ Nat.ofDigitChars 10 text value = result ∧
        result ≤ limit := by
  induction text generalizing value with
  | nil =>
      simp only [readDigits, Except.ok.injEq, Nat.ofDigitChars_nil]
      constructor
      · rintro rfl
        exact ⟨List.forall_mem_nil _, rfl, start⟩
      · exact fun reads => reads.2.1
  | cons c rest induction =>
      rw [readDigits, digit?_eq, List.forall_mem_cons, Nat.ofDigitChars_cons]
      by_cases digit : c.isDigit = true
      · rw [if_pos digit]
        dsimp only
        split
        · rename_i fits
          rw [induction fits, and_iff_right digit]
        · rename_i large
          -- what has outgrown the limit never comes back
          have outgrown := le_ofDigitChars rest (10 * value + (c.toNat - '0'.toNat))
          constructor
          · rintro ⟨⟩
          · rintro ⟨-, rfl, fits⟩
            exact absurd (Nat.le_trans outgrown fits) large
      · rw [if_neg digit]
        constructor
        · rintro ⟨⟩
        · exact fun reads => absurd reads.1.1 digit

theorem read_digits {limit : Nat} {digits : List Char} (written : digits ≠ [])
    (decimal : ∀ c ∈ digits, c.isDigit = true) :
    read limit digits = readDigits limit 0 digits := by
  unfold read
  split
  · exact absurd rfl written
  · exact absurd (decimal '+' List.mem_cons_self) (by decide)
  · rfl

theorem read_plus {limit : Nat} {digits : List Char} (written : digits ≠ []) :
    read limit ('+' :: digits) = readDigits limit 0 digits := by
  obtain ⟨c, rest, rfl⟩ := List.exists_cons_of_ne_nil written
  rfl

theorem writes_of_read {limit result : Nat} {text : List Char}
    (reads : read limit text = .ok result) : Writes text result := by
  have zero : 0 ≤ limit := Nat.zero_le limit
  unfold read at reads
  split at reads
  · cases reads
  · obtain ⟨decimal, value, -⟩ := (readDigits_eq_ok_iff zero).mp reads
    exact ⟨_, Or.inr rfl, List.cons_ne_nil _ _, decimal, value⟩
  · rename_i written _
    obtain ⟨decimal, value, -⟩ := (readDigits_eq_ok_iff zero).mp reads
    exact ⟨_, Or.inl rfl, written, decimal, value⟩

/-- Exactly the numbers up to the limit are read, however many zeros lead. -/
theorem read_eq_ok_iff {limit result : Nat} {text : List Char} :
    read limit text = .ok result ↔ Writes text result ∧ result ≤ limit := by
  refine ⟨fun reads => ⟨writes_of_read reads, read_le reads⟩, ?_⟩
  rintro ⟨⟨digits, shape, written, decimal, value⟩, fits⟩
  have reads : readDigits limit 0 digits = .ok result :=
    (readDigits_eq_ok_iff (Nat.zero_le limit)).mpr ⟨decimal, value, fits⟩
  rcases shape with rfl | rfl
  · rw [read_digits written decimal, reads]
  · rw [read_plus written, reads]

/-- Words are read like the numbers that they stand for. -/
theorem map_read_eq_ok_iff {α : Type} {limit : Nat} {ofNat : Nat → α} {toNat : α → Nat}
    (ofNat_toNat : ∀ word, ofNat (toNat word) = word)
    (toNat_ofNat : ∀ value ≤ limit, toNat (ofNat value) = value)
    (bound : ∀ word, toNat word ≤ limit) {text : List Char} {word : α} :
    (read limit text).map ofNat = .ok word ↔ Writes text (toNat word) := by
  have whole : Writes text (toNat word) ↔ read limit text = .ok (toNat word) := by
    rw [read_eq_ok_iff, and_iff_left (bound word)]
  rw [whole]
  cases reads : read limit text with
  | error fault => constructor <;> rintro ⟨⟩
  | ok value =>
      simp only [Except.map, Except.ok.injEq]
      constructor
      · rintro rfl
        exact (toNat_ofNat value (read_le reads)).symm
      · rintro rfl
        exact ofNat_toNat word

theorem read64_eq_ok_iff {text : String} {word : UInt64} :
    read64 text = .ok word ↔ Writes text.toList word.toNat :=
  map_read_eq_ok_iff (fun _ => UInt64.ofNat_toNat)
    (fun _ fits => UInt64.toNat_ofNat_of_lt' (Nat.lt_of_le_pred (by decide) fits))
    fun word => Nat.le_pred_of_lt word.toNat_lt

theorem read16?_eq_some_iff {text : List Char} {word : UInt16} :
    read16? text = some word ↔ Writes text word.toNat := by
  have whole : (read (UInt16.size - 1) text).map UInt16.ofNat = .ok word ↔
      Writes text word.toNat :=
    map_read_eq_ok_iff (fun _ => UInt16.ofNat_toNat)
      (fun _ fits => UInt16.toNat_ofNat_of_lt' (Nat.lt_of_le_pred (by decide) fits))
      fun word => Nat.le_pred_of_lt word.toNat_lt
  rw [← whole, read16?]
  cases read (UInt16.size - 1) text <;> simp [Except.map, Except.toOption]

theorem writes_write (value : Nat) : Writes (write value).toList value :=
  writes_of_read (read_write (Nat.le_refl value))

end Decimal

end Messenger

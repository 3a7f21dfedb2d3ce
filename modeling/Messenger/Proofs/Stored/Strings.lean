import Messenger.Json.Writer
import Messenger.Proofs.Json.Reading

/-!
The JSON that is written is read back: an object whose values are strings, whatever the
characters in them. What the writer puts down is one of the texts that an object can have.
-/

namespace Messenger

namespace Json

theorem text_ofCode {code : Nat} (control : code < 0x20) :
    (HexUnit.ofCode code false).text = '0' :: '0' :: Hexadecimal.writePair code := by
  revert code
  decide

/-- A character is written with one stroke, and that spells it. -/
theorem exists_stroke (c : Char) :
    ∃ stroke : Stroke, stroke.text = writeChar c ∧
      ∀ {strokes : List Stroke} {text : List Char},
        Spells strokes text → Spells (stroke :: strokes) (c :: text) := by
  fun_cases writeChar c
  case case8 control =>
      have small : c.toNat < 0x10000 := Nat.lt_trans control (by decide)
      refine ⟨.escaped (.ofCode c.toNat false), ?_, .escaped (HexUnit.code_ofCode small false)⟩
      rw [Stroke.text, text_ofCode control]
      rfl
  case case9 quote backslash _ _ _ _ _ plain =>
      have legal : Legal c := ⟨Nat.not_lt.mp plain, quote, backslash⟩
      exact ⟨.plain c legal, rfl, .plain⟩
  all_goals exact ⟨.short _ _ (by simp [shortEscapes]), rfl, .short⟩

theorem exists_strokes (text : List Char) :
    ∃ strokes : List Stroke, strokes.flatMap Stroke.text = text.flatMap writeChar ∧
      Spells strokes text := by
  induction text with
  | nil => exact ⟨[], rfl, .nil⟩
  | cons c rest induction =>
      obtain ⟨stroke, written, spells⟩ := exists_stroke c
      obtain ⟨strokes, writtenMore, spellsMore⟩ := induction
      refine ⟨stroke :: strokes, ?_, spells spellsMore⟩
      rw [List.flatMap_cons, List.flatMap_cons, written, writtenMore]

theorem exists_quoted (text : String) :
    ∃ strokes, quoted strokes = writeString text.toList ∧ spelt? strokes = some text := by
  obtain ⟨strokes, written, spells⟩ := exists_strokes text.toList
  exact ⟨strokes, by rw [quoted, written, writeString]; rfl, spells.spelt?_eq⟩

def ofStrings (members : List (String × String)) : List (Option String × Json) :=
  members.map fun (name, text) => (some name, .string (some text))

theorem exists_member (member : String × String) :
    ∃ (label : Label) (value : Written), label.text ++ value.text = writeMember member ∧
      spelt? label.name = some member.1 ∧ value.value = .string (some member.2) := by
  obtain ⟨name, writtenName, speltName⟩ := exists_quoted member.1
  obtain ⟨value, writtenValue, speltValue⟩ := exists_quoted member.2
  refine ⟨⟨.none, name, .none⟩, .string value, ?_, speltName, congrArg Json.string speltValue⟩
  simp [Label.text, Gap.none, Written.text, writtenName, writtenValue, writeMember]

theorem exists_members (first : String × String) (others : List (String × String)) :
    ∃ members : Members,
      members.text = [','].intercalate ((first :: others).map writeMember) ∧
        members.values = ofStrings (first :: others) := by
  induction others generalizing first with
  | nil =>
      obtain ⟨label, value, written, name, valued⟩ := exists_member first
      refine ⟨.last label .none value .none, ?_, ?_⟩
      · rw [List.map_singleton, List.intercalate_singleton, ← written]
        simp [Members.text, Gap.none]
      · rw [Members.values, name, valued]
        rfl
  | cons next others induction =>
      obtain ⟨label, value, written, name, valued⟩ := exists_member first
      obtain ⟨members, writtenMore, values⟩ := induction next
      refine ⟨.more label .none value .none members, ?_, ?_⟩
      · rw [List.map_cons, List.map_cons, List.intercalate_cons_cons, ← List.map_cons,
          ← writtenMore, ← written]
        simp [Members.text, Gap.none]
      · rw [Members.values, name, valued, values]
        rfl

/-- Every object of strings is read back as it was written. -/
theorem parse?_writeStrings (members : List (String × String)) :
    parse? (writeStrings members) = some (.object (ofStrings members)) := by
  cases members with
  | nil => rfl
  | cons first others =>
      obtain ⟨members, written, values⟩ := exists_members first others
      have whole : (writeStrings (first :: others)).toList =
          Gap.none.text ++ ((Written.object members).text ++ Gap.none.text) := by
        rw [writeStrings, String.toList_ofList, Written.text, written, Gap.none,
          List.nil_append, List.append_nil]
        rfl
      rw [parse?_text _ _ _ whole, Written.value, values]

end Json

end Messenger

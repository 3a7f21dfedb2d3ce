import Messenger.Payload.Counts
import Messenger.Payload.Status
import Messenger.Proofs.Json.Reading

/-!
Payloads in JSON, however they are rendered. The members of a record may stand in any order
and among others, and everything about them that the writer is free to choose may be chosen in
any way: what is read is the record.
-/

namespace Messenger

namespace Json

def Written.word (word : UInt64) : Written :=
  .number (.ofWord word)

/-- A string that spells the text. -/
def Quotes (text : String) (written : Written) : Prop :=
  ∃ strokes, written = .string strokes ∧ Spells strokes text.toList

/-- The canonical digits of the word. -/
def Numbers (word : UInt64) (written : Written) : Prop :=
  written = .word word

/-- A place in a record: its name, and what may stand there, `none` being that it is left
out. -/
structure Slot where
  name : String
  admits : Option Written → Prop

namespace Slot

variable {α : Type}

def required (name : String) (writes : Written → Prop) : Slot where
  name
  admits place := ∃ written, place = some written ∧ writes written

/-- May be left out for the default. -/
def defaulted (name : String) (default : α) (writes : α → Written → Prop) (value : α) :
    Slot where
  name
  admits place :=
    match place with
    | some written => writes value written
    | none => value = default

/-- Nothing may be left out, or written as `null`. -/
def optional (name : String) (writes : α → Written → Prop) (value : Option α) : Slot where
  name
  admits place :=
    match value, place with
    | some value, some written => writes value written
    | some _, none => False
    | none, some written => written = .null
    | none, none => True

end Slot

/-- The members of an object, in order and with the names that are spelt. -/
inductive Members.Lists : Members → List (String × Written) → Prop
  | last {label : Label} {before after : Gap} {value : Written} {name : String} :
      Spells label.name name.toList →
      Members.Lists (.last label before value after) [(name, value)]
  | more {label : Label} {before after : Gap} {value : Written} {name : String}
      {others : Members} {entries : List (String × Written)} :
      Spells label.name name.toList → others.Lists entries →
      Members.Lists (.more label before value after others) ((name, value) :: entries)

inductive Written.Lists : Written → List (String × Written) → Prop
  | empty {gap : Gap} : Written.Lists (.emptyObject gap) []
  | members {members : Members} {entries : List (String × Written)} :
      members.Lists entries → Written.Lists (.object members) entries

/-- An object that fills each slot at most once, and with what it admits. Members with other
names may stand in it as often as they like. -/
structure Rendering (slots : List Slot) where
  before : Gap
  object : Written
  after : Gap
  entries : List (String × Written)
  lists : object.Lists entries
  once : ((entries.map Prod.fst).filter (slots.map Slot.name).contains).Nodup
  admitted : ∀ slot ∈ slots, slot.admits (entries.lookup slot.name)

def Rendering.text {slots : List Slot} (rendering : Rendering slots) : String :=
  String.ofList (rendering.before.text ++ (rendering.object.text ++ rendering.after.text))

def valued (entry : String × Written) : String × Json :=
  (entry.1, entry.2.value)

theorem Members.Lists.named?_values {members : Members} {entries : List (String × Written)}
    (lists : members.Lists entries) : named? members.values = some (entries.map valued) := by
  induction lists with
  | last spells =>
      simp [Members.values, named?, spells.spelt?_eq, valued]
  | more spells _ induction =>
      rw [Members.values, named?, List.mapM_cons, spells.spelt?_eq]
      rw [named?] at induction
      rw [induction]
      rfl

theorem Written.Lists.record?_value {object : Written} {entries : List (String × Written)}
    (lists : object.Lists entries) {names : List String}
    (once : ((entries.map Prod.fst).filter names.contains).Nodup) :
    record? names object.value =
      some ((entries.map valued).filter fun member => names.contains member.1) := by
  have distinct : (((entries.map valued).filter fun member =>
      names.contains member.1).map Prod.fst).Nodup := by
    have same : ((entries.map valued).filter fun member => names.contains member.1).map
        Prod.fst = (entries.map Prod.fst).filter names.contains := by
      rw [List.filter_map, List.filter_map, List.map_map]
      rfl
    rwa [same]
  cases lists with
  | empty => rfl
  | members lists =>
      rw [Written.value, record?, lists.named?_values, Option.bind_some]
      exact if_pos distinct

theorem lookup_known {names : List String} {name : String}
    (known : names.contains name = true) (entries : List (String × Written)) :
    ((entries.map valued).filter fun member => names.contains member.1).lookup name =
      (entries.lookup name).map Written.value := by
  induction entries with
  | nil => rfl
  | cons entry rest induction =>
      obtain ⟨own, written⟩ := entry
      rw [List.map_cons, List.filter_cons, valued]
      by_cases same : name = own
      · subst same
        rw [if_pos known, List.lookup_cons_self, List.lookup_cons_self]
        rfl
      · have apart : (name == own) = false := beq_eq_false_iff_ne.mpr same
        rw [List.lookup_cons, apart]
        split
        · rw [List.lookup_cons, apart]
          exact induction
        · exact induction

/-- What is read fills the slot: it is the value of something that the slot admits. -/
def Fills (fields : List (String × Json)) (slot : Slot) : Prop :=
  ∃ place, slot.admits place ∧ fields.lookup slot.name = place.map Written.value

theorem Rendering.fields {slots : List Slot} (rendering : Rendering slots) :
    ∃ value fields, parse? rendering.text = some value ∧
      record? (slots.map Slot.name) value = some fields ∧
      ∀ slot ∈ slots, Fills fields slot := by
  have whole : rendering.text.toList = rendering.before.text ++
      (rendering.object.text ++ rendering.after.text) := String.toList_ofList
  refine ⟨_, _, parse?_text _ _ _ whole, rendering.lists.record?_value rendering.once, ?_⟩
  intro slot member
  have known : (slots.map Slot.name).contains slot.name = true :=
    List.contains_iff_mem.mpr (List.mem_map_of_mem member)
  exact ⟨_, rendering.admitted slot member, lookup_known known rendering.entries⟩

section

variable {α : Type} {fields : List (String × Json)} {name : String} {read : Json → Option α}

theorem field?_required {writes : Written → Prop} {value : α}
    (fills : Fills fields (.required name writes))
    (reads : ∀ written, writes written → read written.value = some value) :
    field? fields read name = some value := by
  obtain ⟨place, ⟨written, rfl, stands⟩, found⟩ := fills
  have there : fields.lookup name = some written.value := found
  rw [field?, there, Option.bind_some, reads written stands]

theorem fieldOr_defaulted {writes : α → Written → Prop} {default value : α}
    (fills : Fills fields (.defaulted name default writes value))
    (reads : ∀ written, writes value written → read written.value = some value) :
    fieldOr fields read default name = some value := by
  obtain ⟨place, stands, found⟩ := fills
  have there : fields.lookup name = place.map Written.value := found
  rw [fieldOr, there]
  cases place with
  | some written => exact reads written stands
  | none => exact congrArg some (Eq.symm stands)

theorem optionalField?_optional {writes : α → Written → Prop} {value : Option α}
    (fills : Fills fields (.optional name writes value)) (strict : read .null = none)
    (reads : ∀ value written, writes value written → read written.value = some value) :
    optionalField? fields read name = some value := by
  obtain ⟨place, stands, found⟩ := fills
  have there : fields.lookup name = place.map Written.value := found
  rw [optionalField?, there]
  cases value with
  | none =>
      cases place with
      | none => rfl
      | some written =>
          obtain rfl : written = .null := stands
          rfl
  | some value =>
      cases place with
      | none => exact stands.elim
      | some written =>
          have same := reads value written stands
          rw [Option.map_some]
          generalize written.value = json at same ⊢
          cases json
          case null => cases strict.symm.trans same
          all_goals exact congrArg (Option.map some) same

end

theorem string?_of_quotes {text : String} {written : Written} (quotes : Quotes text written) :
    string? written.value = some text := by
  obtain ⟨strokes, rfl, spells⟩ := quotes
  exact spells.spelt?_eq

theorem value_word (word : UInt64) :
    (Written.word word).value = .number (some word.toNat) := by
  rw [Written.word, Written.value, Numeral.natural?_ofWord]

theorem word?_of_numbers {word : UInt64} {written : Written} (numbers : Numbers word written) :
    word? written.value = some word := by
  obtain rfl : written = .word word := numbers
  have small : word.toNat < UInt64.size := word.toNat_lt
  rw [value_word, word?, if_pos small, UInt64.ofNat_toNat]

end Json

open Json

namespace SettledStatus

/-- A string, or a number for its canonical digits. -/
def Identifies (id : String) (written : Written) : Prop :=
  Quotes id written ∨ ∃ word : UInt64, id = Decimal.write word.toNat ∧ Numbers word written

def slots (settled : SettledStatus) : List Slot :=
  [.required "htlc_id" (Identifies settled.htlcId),
    .required "status" (Quotes settled.status)]

theorem readId_of_identifies {id : String} {written : Written}
    (identifies : Identifies id written) : readId written.value = some id := by
  rcases identifies with ⟨strokes, rfl, spells⟩ | ⟨word, rfl, numbers⟩
  · exact spells.spelt?_eq
  · have read := word?_of_numbers numbers
    obtain rfl : written = .word word := numbers
    rw [value_word] at read ⊢
    show (word? _).map _ = _
    rw [read]
    rfl

theorem parse_rendering (settled : SettledStatus) (rendering : Rendering settled.slots) :
    parse rendering.text = .ok settled := by
  obtain ⟨value, fields, parsed, record, fills⟩ := rendering.fields
  simp only [slots, List.forall_mem_cons] at fills
  have record : record? ["htlc_id", "status"] value = some fields := record
  have htlcId := field?_required fills.1 fun _ => readId_of_identifies
  have status := field?_required fills.2.1 fun _ => string?_of_quotes
  rw [parse, parsed, Option.bind_some, ofJson?]
  simp only [record, htlcId, status, Option.bind_eq_bind, Option.bind_some]
  rfl

end SettledStatus

namespace SentStatus

def slots (sent : SentStatus) : List Slot :=
  [.defaulted "tag" "" Quotes sent.tag, .defaulted "status" "" Quotes sent.status,
    .optional "preimage" Quotes sent.preimage,
    .optional "payment_hash" Quotes sent.paymentHash,
    .optional "message" Quotes sent.message]

theorem parse_rendering (sent : SentStatus) (rendering : Rendering sent.slots) :
    parse rendering.text = .ok sent := by
  obtain ⟨value, fields, parsed, record, fills⟩ := rendering.fields
  simp only [slots, List.forall_mem_cons] at fills
  have record :
      record? ["tag", "status", "preimage", "payment_hash", "message"] value = some fields :=
    record
  have reads (text : String) (written : Written) : Quotes text written →
      string? written.value = some text := string?_of_quotes
  have tag := fieldOr_defaulted fills.1 (reads sent.tag)
  have status := fieldOr_defaulted fills.2.1 (reads sent.status)
  have preimage := optionalField?_optional fills.2.2.1 rfl reads
  have paymentHash := optionalField?_optional fills.2.2.2.1 rfl reads
  have message := optionalField?_optional fills.2.2.2.2.1 rfl reads
  rw [parse, parsed, Option.bind_some, ofJson?]
  simp only [record, tag, status, preimage, paymentHash, message, Option.bind_eq_bind,
    Option.bind_some]
  rfl

end SentStatus

namespace Counts

def slots (counts : Counts) : List Slot :=
  [.optional "total" Numbers counts.total, .optional "ok_key" Numbers counts.okKey,
    .optional "first_for_each_scid" Numbers counts.firstForEachScid,
    .optional "total_highest_index" Numbers counts.totalHighestIndex,
    .optional "ok_key_highest_index" Numbers counts.okKeyHighestIndex,
    .optional "first_for_each_scid_highest_index" Numbers
      counts.firstForEachScidHighestIndex]

theorem parse_rendering (counts : Counts) (rendering : Rendering counts.slots) :
    parse rendering.text = .ok counts := by
  obtain ⟨value, fields, parsed, record, fills⟩ := rendering.fields
  simp only [slots, List.forall_mem_cons] at fills
  have record :
      record?
        ["total", "ok_key", "first_for_each_scid", "total_highest_index",
          "ok_key_highest_index", "first_for_each_scid_highest_index"] value = some fields :=
    record
  have field {name : String} {count : Option UInt64}
      (fills : Fills fields (.optional name Numbers count)) :
      optionalField? fields word? name = some count :=
    optionalField?_optional fills rfl fun _ _ => word?_of_numbers
  rw [parse, parsed, Option.bind_some, ofJson?]
  simp only [record, field fills.1, field fills.2.1, field fills.2.2.1, field fills.2.2.2.1,
    field fills.2.2.2.2.1, field fills.2.2.2.2.2.1, Option.bind_eq_bind, Option.bind_some]
  rfl

end Counts

/-- Whatever the rendering of a payload, the payload is read from it. -/
theorem payloads_read_back :
    (∀ (settled : SettledStatus) (rendering : Rendering settled.slots),
      SettledStatus.parse rendering.text = .ok settled) ∧
    (∀ (sent : SentStatus) (rendering : Rendering sent.slots),
      SentStatus.parse rendering.text = .ok sent) ∧
    ∀ (counts : Counts) (rendering : Rendering counts.slots),
      Counts.parse rendering.text = .ok counts :=
  ⟨SettledStatus.parse_rendering, SentStatus.parse_rendering, Counts.parse_rendering⟩

/-- A character outside the basic plane as a surrogate pair, and a slash escaped. -/
def oddStatus : List Stroke :=
  [.escaped (.ofCode 0xD83D true), .escaped (.ofCode 0xDE00 false),
    .short '/' '/' (.tail _ (.tail _ (.head _)))]

def hugeNumber : Numeral where
  negative := true
  whole := ⟨['1'], by decide, List.all_eq_true.mp rfl⟩
  leads := by decide
  fraction := none
  exponent := some
    ⟨'e', .inl rfl, ['+'], by decide, ⟨['9', '9', '9'], by decide, List.all_eq_true.mp rfl⟩⟩

/-- What no field is read from may hold what could not be read. -/
def oddValue : Written :=
  .array (.more .none (.number hugeNumber) .none
    (.last .space (.object (.last
      ⟨.none, [.escaped (.ofCode 0xD800 false)], .none⟩
      .none .null .none)) .none))

def SettledStatus.oddlyWritten : Rendering (SettledStatus.mk "42" "😀/").slots where
  before := .space
  object := .object
    (.more ⟨.none, plainly "x".toList (by simp [Legal]), .none⟩ .none oddValue .space
    (.more ⟨.space, .escaped (.ofCode 0x73 false) ::
        plainly "tatus".toList (by simp [Legal]), .none⟩ .none (.string oddStatus) .none
    (.last ⟨.none, plainly "htlc_id".toList (by simp [Legal]), .space⟩ .space (.word 42)
      .none)))
  after := .none
  entries := [("x", oddValue), ("status", .string oddStatus), ("htlc_id", .word 42)]
  lists := .members (.more (spells_plainly _) (.more (.escaped rfl (spells_plainly _))
    (.last (spells_plainly _))))
  once := by decide
  admitted := by
    have htlcId : Identifies "42" (.word 42) := .inr ⟨42, rfl, rfl⟩
    have status : Quotes "😀/" (.string oddStatus) :=
      ⟨oddStatus, rfl, .pair (by decide) rfl rfl (.short .nil)⟩
    simp only [slots, List.forall_mem_cons, List.not_mem_nil, false_imp_iff, implies_true,
      and_true]
    exact ⟨⟨_, rfl, htlcId⟩, ⟨_, rfl, status⟩⟩

/-- The status is left out, and the preimage is written as `null`. -/
def SentStatus.oddlyWritten : Rendering (SentStatus.mk "t" "" none (some "") none).slots where
  before := .none
  object := .object
    (.more ⟨.none, plainly "payment_hash".toList (by simp [Legal]), .none⟩ .none (.string [])
      .none
    (.more ⟨.none, plainly "preimage".toList (by simp [Legal]), .none⟩ .none .null .none
    (.last ⟨.none, plainly "tag".toList (by simp [Legal]), .none⟩ .none
      (.string (plainly "t".toList (by simp [Legal]))) .none)))
  after := .space
  entries := [("payment_hash", .string []), ("preimage", .null),
    ("tag", .string (plainly "t".toList (by simp [Legal])))]
  lists := .members (.more (spells_plainly _) (.more (spells_plainly _)
    (.last (spells_plainly _))))
  once := by decide
  admitted := by
    have tag : Quotes "t" (.string (plainly "t".toList (by simp [Legal]))) :=
      ⟨_, rfl, spells_plainly _⟩
    have paymentHash : Quotes "" (.string []) := ⟨[], rfl, .nil⟩
    simp only [slots, List.forall_mem_cons, List.not_mem_nil, false_imp_iff, implies_true,
      and_true]
    exact ⟨tag, rfl, rfl, paymentHash, trivial⟩

/-- What is unknown may stand twice, and the largest count is read. -/
def Counts.oddlyWritten :
    Rendering
      (Counts.mk none (some 18446744073709551615) none none none (some 0)).slots where
  before := .none
  object := .object
    (.more ⟨.none, [], .none⟩ .none (.emptyArray .space) .none
    (.more ⟨.none, plainly "ok_key".toList (by simp [Legal]), .none⟩ .none
      (.word 18446744073709551615) .none
    (.more ⟨.none, plainly "first_for_each_scid_highest_index".toList (by simp [Legal]), .none⟩
      .none (.word 0) .none
    (.last ⟨.none, [], .none⟩ .none (.bool true) .none))))
  after := .none
  entries := [("", .emptyArray .space), ("ok_key", .word 18446744073709551615),
    ("first_for_each_scid_highest_index", .word 0), ("", .bool true)]
  lists := .members (.more .nil (.more (spells_plainly _) (.more (spells_plainly _)
    (.last .nil))))
  once := by decide
  admitted := by
    simp only [slots, List.forall_mem_cons, List.not_mem_nil, false_imp_iff, implies_true,
      and_true]
    exact ⟨trivial, rfl, trivial, trivial, trivial, rfl⟩

theorem payloads_oddlyWritten :
    SettledStatus.parse (" \x7b\"x\":[-1e+999, \x7b\"\\ud800\":null\x7d] , " ++
        "\"\\u0073tatus\":\"\\uD83D\\ude00\\/\",\"htlc_id\" : 42\x7d") =
      .ok ⟨"42", "😀/"⟩ ∧
    SentStatus.parse "\x7b\"payment_hash\":\"\",\"preimage\":null,\"tag\":\"t\"\x7d " =
      .ok ⟨"t", "", none, some "", none⟩ ∧
    Counts.parse ("\x7b\"\":[ ],\"ok_key\":18446744073709551615," ++
        "\"first_for_each_scid_highest_index\":0,\"\":true\x7d") =
      .ok ⟨none, some 18446744073709551615, none, none, none, some 0⟩ := by
  have ⟨settled, sent, counts⟩ := payloads_read_back
  exact ⟨settled _ SettledStatus.oddlyWritten, sent _ SentStatus.oddlyWritten,
    counts _ Counts.oddlyWritten⟩

end Messenger

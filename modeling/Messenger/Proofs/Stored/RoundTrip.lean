import Messenger.Proofs.Stored.Strings
import Messenger.UserState

/-! The stored form of a user state is read back as the same state. -/

namespace Messenger

namespace UserState

theorem stringMembers?_ofStrings (members : List (String × String)) :
    stringMembers? (.object (Json.ofStrings members)) = some members := by
  have named :
      Json.named? (Json.ofStrings members) =
        some (members.map fun member => (member.1, .string (some member.2))) := by
    induction members with
    | nil => rfl
    | cons member others induction =>
        rw [Json.named?] at induction ⊢
        rw [Json.ofStrings, List.map_cons, List.mapM_cons, ← Json.ofStrings, induction]
        rfl
  rw [stringMembers?, named, Option.bind_some]
  clear named
  induction members with
  | nil => rfl
  | cons member others induction =>
      rw [List.map_cons, List.mapM_cons, induction]
      rfl

/-- The members that stand for entries: their values are base64. -/
def storedMembers (entries : List (String × Bytes)) : List (String × String) :=
  entries.map fun (key, value) => (key, String.ofList (Base64.encode value))

theorem storedMembers_ordered (entries : KeyMap Bytes) :
    (storedMembers entries.entries).Pairwise fun first second => first.1 < second.1 :=
  List.pairwise_map.mpr entries.ordered

theorem decodeEntries_storedMembers (entries : List (String × Bytes)) :
    decodeEntries (storedMembers entries) = .ok entries := by
  induction entries with
  | nil => rfl
  | cons entry rest induction =>
      obtain ⟨key, value⟩ := entry
      simp only [storedMembers, List.map_cons, decodeEntries, String.toList_ofList,
        Base64.decode_encode] at induction ⊢
      rw [induction]
      rfl

def storedBytes (state : UserState) : Bytes :=
  (Json.writeStrings (storedMembers state.entries.entries)).toUTF8.data.toList

theorem toStored_toList (state : UserState) :
    state.toStored.toList = Base64.encode state.storedBytes :=
  String.toList_ofList

theorem read_storedBytes (state : UserState) :
    ((Cbor.utf8? state.storedBytes).bind Json.parse?).bind stringMembers? =
      some (storedMembers state.entries.entries) := by
  rw [storedBytes, Cbor.utf8?_toUTF8, Option.bind_some, Json.parse?_writeStrings,
    Option.bind_some, stringMembers?_ofStrings]

theorem storedBytes_ne_nil (state : UserState) : state.storedBytes ≠ [] := by
  intro none
  have read := read_storedBytes state
  have unread : (Json.parse? "").bind stringMembers? = Option.none := rfl
  have empty : Cbor.utf8? [] = some "" := Cbor.utf8?_toUTF8 ""
  rw [none, empty, Option.bind_some, unread] at read
  cases read

theorem fromStored_eq {stored : String} {text : List Char} {bytes : Bytes}
    {members : List (String × String)} {entries : List (String × Bytes)}
    (trimmed : Text.trim stored.toList = text) (written : text ≠ [])
    (decoded : Base64.decode text = some bytes)
    (read : ((Cbor.utf8? bytes).bind Json.parse?).bind stringMembers? = some members)
    (values : decodeEntries (KeyMap.ofList members).entries = .ok entries) :
    fromStored stored = .ok ⟨KeyMap.ofList entries⟩ := by
  rw [fromStored, trimmed]
  cases text with
  | nil => exact absurd rfl written
  | cons first rest =>
      simp only [decoded, read, values]
      rfl

theorem fromStored_toStored (state : UserState) (before after : String)
    (beforeBlank : ∀ c ∈ before.toList, Text.isBlank c = true)
    (afterBlank : ∀ c ∈ after.toList, Text.isBlank c = true) :
    fromStored (before ++ state.toStored ++ after) = .ok state := by
  have trimmed :
      Text.trim (before ++ state.toStored ++ after).toList =
        Base64.encode state.storedBytes := by
    rw [String.toList_append, String.toList_append, toStored_toList]
    apply Text.trim_surrounded beforeBlank afterBlank
    intro c member
    exact Base64.encode_not_blank member
  have written : Base64.encode state.storedBytes ≠ [] := by
    rw [ne_eq, Base64.encode_eq_nil]
    exact storedBytes_ne_nil state
  have values :
      decodeEntries (KeyMap.ofList (storedMembers state.entries.entries)).entries =
        .ok state.entries.entries := by
    rw [KeyMap.entries_ofList (storedMembers_ordered state.entries),
      decodeEntries_storedMembers]
  rw [fromStored_eq trimmed written (Base64.decode_encode _) (read_storedBytes state)
    values, KeyMap.ofList_entries]

/-- Keys with a quote, a control character and a character outside the basic plane. -/
def oddKeys : UserState :=
  ⟨KeyMap.ofList [("", []), ("\"\\\x01", [0]), ("😀", [255, 0, 7, 61])]⟩

theorem fromStored_toStored_oddKeys :
    fromStored ("\u2003\n" ++ oddKeys.toStored ++ "\u00a0") = .ok oddKeys :=
  fromStored_toStored oddKeys "\u2003\n" "\u00a0" (List.all_eq_true.mp (by decide))
    (List.all_eq_true.mp (by decide))

end UserState

end Messenger

import Messenger.Bench.Basic
import Messenger.Proofs.Lookup
import Messenger.Proofs.Stored.CoreForm
import Messenger.Session.Dispatch

/-!
Merging deltas. A written delta is merged key by key, whatever stands behind it. A delta is
merged only if all of it is a map of texts to bytes; otherwise nothing of it is.
-/

namespace Messenger

namespace UserState

/-- Entries of the delta win, and other keys keep what they had. -/
theorem get?_override (state delta : UserState) (key : String) :
    (state.override delta).get? key = (delta.get? key <|> state.get? key) :=
  KeyMap.get?_insertAll _ _ _

theorem empty_override (delta : UserState) : (∅ : UserState).override delta = delta :=
  congrArg UserState.mk (KeyMap.ofList_entries delta.entries)

theorem applyDelta_of_ok {state decoded : UserState} {delta : Bytes}
    (read : decodeDelta delta = .ok decoded) :
    state.applyDelta delta = (state.override decoded, .ok decoded.size) := by
  rw [applyDelta, read]

theorem applyDelta_encodeDelta {written : UserState} (encodable : written.Encodable)
    (state : UserState) (rest : Bytes) :
    state.applyDelta (encodeDelta written.entries ++ rest) =
      (state.override written, .ok written.size) :=
  applyDelta_of_ok (decodeDelta_encodeDelta encodable rest)

theorem applyDelta_toCoreBytes {written : UserState} (encodable : written.Encodable) :
    applyDelta ∅ written.toCoreBytes = (written, .ok written.size) := by
  rw [applyDelta_of_ok (decodeDelta_toCoreBytes encodable), empty_override]

theorem deltaEntries_eq_ok {pairs : List (Cbor × Cbor)} {entries : List (String × Bytes)} :
    deltaEntries pairs = .ok entries ↔ pairs = entries.map Cbor.entryPair := by
  constructor
  · intro read
    induction pairs generalizing entries with
    | nil =>
        cases read
        rfl
    | cons pair rest induction =>
        unfold deltaEntries at read
        split at read
        · contradiction
        · rename_i key value _ equal
          cases equal
          cases others : deltaEntries rest with
          | error fault =>
              rw [others] at read
              cases read
          | ok later =>
              rw [others] at read
              cases read
              rw [induction others]
              rfl
        · cases read
  · rintro rfl
    exact deltaEntries_pairs entries

theorem decodeDelta_eq_ok {delta : Bytes} {decoded : UserState} :
    decodeDelta delta = .ok decoded ↔
      ∃ entries, Cbor.decode? delta = some (.map (entries.map Cbor.entryPair)) ∧
        decoded = ⟨KeyMap.ofList entries⟩ := by
  constructor
  · intro read
    unfold decodeDelta at read
    split at read
    · cases read
    · rename_i pairs item
      cases found : deltaEntries pairs with
      | error fault =>
          rw [found] at read
          cases read
      | ok entries =>
          rw [found] at read
          cases read
          exact ⟨entries, deltaEntries_eq_ok.mp found ▸ item, rfl⟩
    · cases read
  · rintro ⟨entries, item, rfl⟩
    rw [decodeDelta, item]
    dsimp only
    rw [deltaEntries_pairs]
    rfl

/-- A delta is merged if and only if the item at its front is a map of texts to bytes. One
pair of another kind is enough to refuse it, whatever stands before that pair. -/
theorem applyDelta_eq_ok {state merged : UserState} {delta : Bytes} {count : Nat} :
    state.applyDelta delta = (merged, .ok count) ↔
      ∃ entries, Cbor.decode? delta = some (.map (entries.map Cbor.entryPair)) ∧
        merged = state.override ⟨KeyMap.ofList entries⟩ ∧
          count = (KeyMap.ofList entries).size := by
  constructor
  · intro applied
    cases read : decodeDelta delta with
    | error fault =>
        rw [applyDelta, read] at applied
        cases applied
    | ok decoded =>
        rw [applyDelta_of_ok read] at applied
        cases applied
        obtain ⟨entries, item, rfl⟩ := decodeDelta_eq_ok.mp read
        exact ⟨entries, item, rfl, rfl⟩
  · rintro ⟨entries, item, rfl, rfl⟩
    exact applyDelta_of_ok (decodeDelta_eq_ok.mpr ⟨entries, item, rfl⟩)

/-- What is written is merged exactly and read back exactly. A delta is merged if all of it
can be read; otherwise the state is as it was, and so is a session, but for what listeners
are told. -/
theorem merges_exactly_or_not_at_all {written : UserState} (encodable : written.Encodable) :
    (∀ (state : UserState) (junk : Bytes), ∃ merged,
      state.applyDelta (encodeDelta written.entries ++ junk) = (merged, .ok written.size) ∧
        ∀ key, merged.get? key = (written.get? key <|> state.get? key)) ∧
      applyDelta ∅ written.toCoreBytes = (written, .ok written.size) ∧
      (∀ (state merged : UserState) (delta : Bytes) (count : Nat),
        state.applyDelta delta = (merged, .ok count) ↔
          ∃ entries, Cbor.decode? delta = some (.map (entries.map Cbor.entryPair)) ∧
            merged = state.override ⟨KeyMap.ofList entries⟩ ∧
              count = (KeyMap.ofList entries).size) ∧
      (∀ (state : UserState) (delta : Bytes) (fault : ReadFault),
        (state.applyDelta delta).2 = .error fault → (state.applyDelta delta).1 = state) ∧
      ∀ {W : Type} (session : Session W) (delta : Bytes) (fault : ReadFault),
        (session.owner.userState.applyDelta delta).2 = .error fault →
          session.applyDelta delta = session.report (.ofFault fault) := by
  refine ⟨fun state junk => ?_, applyDelta_toCoreBytes encodable, ?_, ?_, ?_⟩
  · exact ⟨state.override written, applyDelta_encodeDelta encodable state junk,
      state.get?_override written⟩
  · exact fun state merged delta count => applyDelta_eq_ok
  · exact fun state delta fault unread => congrArg Prod.fst (applyDelta_of_error unread)
  · exact fun session delta fault unread => Session.applyDelta_of_error unread

/-! Lengths of one head byte, of two and of three, under a key outside the basic plane. -/

def mixedLengths : UserState :=
  ⟨KeyMap.ofList [("", []), ("k", List.replicate 24 7), ("😀", List.replicate 300 255)]⟩

theorem mixedLengths_encodable : mixedLengths.Encodable := by
  have entries : mixedLengths.entries.entries =
      [("", []), ("k", List.replicate 24 7), ("😀", List.replicate 300 255)] :=
    KeyMap.entries_ofList (by decide)
  rw [Encodable, entries]
  refine ⟨by decide, ?_⟩
  simp only [List.forall_mem_cons, Cbor.EntryFits, List.length_replicate]
  decide

def oneForEach : UserState :=
  ⟨KeyMap.ofList [("k", [1]), ("l", [1])]⟩

def keepsOneForEach : Session Bench :=
  { Session.new .test (.new 7) with owner := { userState := oneForEach } }

/-- A map of a pair that can be read and a pair whose value is a number. -/
def badSecondPair : Bytes :=
  [0xA2, 0x61, 0x6B, 0x41, 0x02, 0x61, 0x6C, 0x05]

theorem merges_mixedLengths :
    mixedLengths.Encodable ∧
      (∃ merged, oneForEach.applyDelta (encodeDelta mixedLengths.entries ++ [0xFF, 0]) =
          (merged, .ok 3) ∧
        merged.get? "k" = some (List.replicate 24 7) ∧ merged.get? "l" = some [1]) ∧
      (oneForEach.applyDelta badSecondPair).1 = oneForEach ∧
      keepsOneForEach.applyDelta badSecondPair =
        keepsOneForEach.report (.ofFault ⟨.cbor, .stateDelta, .badEntry "Text(\"l\")"⟩) := by
  obtain ⟨merges, -, -, keeps, refuses⟩ := merges_exactly_or_not_at_all mixedLengths_encodable
  obtain ⟨merged, applied, keys⟩ := merges oneForEach [0xFF, 0]
  have unread : (oneForEach.applyDelta badSecondPair).2 =
      .error ⟨.cbor, .stateDelta, .badEntry "Text(\"l\")"⟩ := rfl
  refine ⟨mixedLengths_encodable, ⟨merged, applied, ?_, ?_⟩, keeps _ _ _ unread,
    refuses _ _ _ unread⟩
  · rw [keys]
    decide +kernel
  · rw [keys]
    decide +kernel

end UserState

end Messenger

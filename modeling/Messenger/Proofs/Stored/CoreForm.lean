import Mathlib.Tactic.Ring
import Messenger.UserState

/-!
The core form of a user state reads back: what the key core is handed decodes to the state
it was made from.
-/

namespace Messenger

namespace Bytes

theorem toNat_cons (byte : UInt8) (rest : Bytes) :
    toNat (byte :: rest) = byte.toNat * 256 ^ rest.length + toNat rest := by
  have shifted (bytes : Bytes) (value : Nat) :
      bytes.foldl (fun value byte => value * 256 + byte.toNat) value =
        value * 256 ^ bytes.length + toNat bytes := by
    induction bytes generalizing value with
    | nil => simp [toNat]
    | cons next others induction =>
        have start : toNat (next :: others) =
            next.toNat * 256 ^ others.length + toNat others := by
          simpa [toNat] using induction next.toNat
        rw [List.foldl_cons, induction, start, List.length_cons]
        ring
  simpa [toNat] using shifted rest byte.toNat

@[simp] theorem length_ofNat (width value : Nat) : (ofNat width value).length = width := by
  induction width with
  | zero => rfl
  | succ width induction => rw [ofNat, List.length_cons, induction]

theorem toNat_ofNat {width value : Nat} (fits : value < 256 ^ width) :
    toNat (ofNat width value) = value := by
  have low (width : Nat) : toNat (ofNat width value) = value % 256 ^ width := by
    induction width with
    | zero => simp [ofNat, toNat, Nat.mod_one]
    | succ width induction =>
        have digit : (UInt8.ofNat (value >>> (8 * width) % 256)).toNat =
            value / 256 ^ width % 256 := by
          rw [UInt8.toNat_ofNat', Nat.shiftRight_eq_div_pow, Nat.pow_mul]
          exact Nat.mod_mod _ _
        rw [ofNat, toNat_cons, induction, length_ofNat, digit, Nat.pow_succ,
          Nat.mod_mul, Nat.mul_comm, Nat.add_comm]
  rw [low, Nat.mod_eq_of_lt fits]

end Bytes

namespace Cbor

theorem takeBytes_append (bytes rest : Bytes) :
    takeBytes bytes.length (bytes ++ rest) = some (bytes, rest) := by
  simp [takeBytes]

theorem readArgument_wide {low width argument : Nat} (code : argumentWidth? low = some width)
    (fits : argument < 256 ^ width) (rest : Bytes) :
    readArgument low (Bytes.ofNat width argument ++ rest) = some (some argument, rest) := by
  have wide : ¬low < 24 ∧ low ≠ 31 := by
    constructor
    · intro small
      unfold argumentWidth? at code
      split at code <;> simp_all
    · rintro rfl
      cases code
  have taken := takeBytes_append (Bytes.ofNat width argument) rest
  rw [Bytes.length_ofNat] at taken
  rw [readArgument, if_neg wide.1, if_neg wide.2, code, Option.bind_some, taken,
    Option.map_some]
  dsimp only
  rw [Bytes.toNat_ofNat fits]

theorem readHead_initial {major low : Nat} (small : major < 8) (short : low < 32)
    {argument : Nat} {tail rest : Bytes}
    (read : readArgument low tail = some (some argument, rest)) :
    readHead (UInt8.ofNat (major * 32 + low) :: tail) =
      (headOf major low (some argument)).map fun head => (head, rest) := by
  have initial : (UInt8.ofNat (major * 32 + low)).toNat = major * 32 + low := by
    rw [UInt8.toNat_ofNat']
    omega
  have lowEq : (major * 32 + low) % 32 = low := by omega
  have majorEq : (major * 32 + low) / 32 = major := by omega
  rw [readHead]
  simp only [initial, lowEq, majorEq, read, Option.bind_some]

/-- A head of a kind whose argument is a length reads back with that length. -/
theorem readHead_writeHead {major argument : Nat} (small : major < 7)
    (fits : argument < UInt64.size) (rest : Bytes) :
    ∃ low, readHead (writeHead major argument ++ rest) =
      (headOf major low (some argument)).map fun head => (head, rest) := by
  have wide {low width : Nat} (code : argumentWidth? low = some width) (short : low < 32)
      (fits : argument < 256 ^ width) :=
    @readHead_initial major low (by omega) short argument
      (Bytes.ofNat width argument ++ rest) rest (readArgument_wide code fits rest)
  unfold writeHead
  dsimp only
  split
  · rename_i tiny
    exact ⟨argument, readHead_initial (by omega) (by omega) (if_pos tiny)⟩
  · split
    · rename_i byte
      exact ⟨24, wide rfl (by omega) byte⟩
    · split
      · rename_i word
        exact ⟨25, wide rfl (by omega) word⟩
      · split
        · rename_i word
          exact ⟨26, wide rfl (by omega) word⟩
        · exact ⟨27, wide rfl (by omega) fits⟩

theorem readHead_bytes {length : Nat} (fits : length < UInt64.size) (rest : Bytes) :
    readHead (writeHead 2 length ++ rest) = some (.bytes (some length), rest) := by
  obtain ⟨_, read⟩ := @readHead_writeHead 2 length (by omega) fits rest
  exact read

theorem readHead_text {length : Nat} (fits : length < UInt64.size) (rest : Bytes) :
    readHead (writeHead 3 length ++ rest) = some (.text (some length), rest) := by
  obtain ⟨_, read⟩ := @readHead_writeHead 3 length (by omega) fits rest
  exact read

theorem readHead_map {length : Nat} (fits : length < UInt64.size) (rest : Bytes) :
    readHead (writeHead 5 length ++ rest) = some (.map (some length), rest) := by
  obtain ⟨_, read⟩ := @readHead_writeHead 5 length (by omega) fits rest
  exact read

theorem readItem_writeBytes {bytes : Bytes} (fits : bytes.length < UInt64.size)
    (bound nesting : Nat) (rest : Bytes) :
    readItem (bound + 1) nesting (writeBytes bytes ++ rest) = some (.bytes bytes, rest) := by
  have head := readHead_bytes fits (bytes ++ rest)
  rw [← List.append_assoc] at head
  have chunks : readStringChunks false bound (some bytes.length) (bytes ++ rest) =
      some ([bytes], rest) := by
    rw [readStringChunks, takeBytes_append]
    rfl
  unfold readItem writeBytes
  rw [head]
  dsimp only
  rw [chunks, Option.map_some, List.flatten_singleton]

theorem readItem_writeText {text : String}
    (fits : text.toUTF8.data.toList.length < UInt64.size) (bound nesting : Nat)
    (rest : Bytes) :
    readItem (bound + 1) nesting (writeText text ++ rest) = some (.text text, rest) := by
  have head := readHead_text fits (text.toUTF8.data.toList ++ rest)
  rw [← List.append_assoc] at head
  have chunks : readStringChunks true bound (some text.toUTF8.data.toList.length)
      (text.toUTF8.data.toList ++ rest) = some ([text.toUTF8.data.toList], rest) := by
    rw [readStringChunks, takeBytes_append]
    rfl
  have joined : joinText? [text.toUTF8.data.toList] = some text := by
    rw [joinText?, List.mapM_cons, utf8?_toUTF8]
    rfl
  unfold readItem writeText
  dsimp only
  rw [head]
  dsimp only
  rw [chunks, Option.bind_some, joined, Option.map_some]

def writeEntry (entry : String × Bytes) : Bytes :=
  writeText entry.1 ++ writeBytes entry.2

def entryPair (entry : String × Bytes) : Cbor × Cbor :=
  (.text entry.1, .bytes entry.2)

/-- What has a length that a head can hold. -/
def EntryFits (entry : String × Bytes) : Prop :=
  entry.1.toUTF8.data.toList.length < UInt64.size ∧ entry.2.length < UInt64.size

theorem readPairs_next {bound nesting length : Nat} {input middle last : Bytes}
    {key value : Cbor} (readKey : readItem bound nesting input = some (key, middle))
    (readValue : readItem bound nesting middle = some (value, last)) :
    readPairs (bound + 1) nesting (some (length + 1)) input =
      (readPairs bound nesting (some length) last).map fun (pairs, rest) =>
        ((key, value) :: pairs, rest) := by
  rw [readPairs]
  · simp only [readKey, readValue]
    rfl
  · exact nofun
  · exact nofun

theorem readPairs_written {entries : List (String × Bytes)}
    (fit : ∀ entry ∈ entries, EntryFits entry) {bound : Nat}
    (enough : entries.length + 1 < bound) (nesting : Nat) (rest : Bytes) :
    readPairs bound nesting (some entries.length) (entries.flatMap writeEntry ++ rest) =
      some (entries.map entryPair, rest) := by
  induction entries generalizing bound with
  | nil =>
      obtain ⟨more, rfl⟩ := Nat.exists_eq_add_of_lt enough
      rfl
  | cons entry others induction =>
      have ⟨first, later⟩ := List.forall_mem_cons.mp fit
      rw [List.length_cons] at enough
      obtain ⟨more, rfl⟩ : ∃ more, bound = more + 1 + 1 := ⟨bound - 2, by omega⟩
      have readRest := induction later (show others.length + 1 < more + 1 by omega)
      have readKey := readItem_writeText first.1 more nesting
        (writeBytes entry.2 ++ (others.flatMap writeEntry ++ rest))
      have readValue := readItem_writeBytes first.2 more nesting
        (others.flatMap writeEntry ++ rest)
      have split : (entry :: others).flatMap writeEntry ++ rest = writeText entry.1 ++
          (writeBytes entry.2 ++ (others.flatMap writeEntry ++ rest)) := by
        simp [writeEntry]
      rw [split, List.length_cons, readPairs_next readKey readValue, readRest]
      rfl

theorem length_lt_writeMap (entries : List (String × Bytes)) :
    2 * entries.length < (writeMap entries).length := by
  have head (major argument : Nat) : 0 < (writeHead major argument).length := by
    unfold writeHead
    dsimp only
    repeat' split
    all_goals simp
  have body : 2 * entries.length ≤ (entries.flatMap writeEntry).length := by
    induction entries with
    | nil => exact Nat.le_refl 0
    | cons entry rest induction =>
        have key := head 3 entry.1.toUTF8.data.toList.length
        have value := head 2 entry.2.length
        simp only [List.flatMap_cons, List.length_append, writeEntry, writeText, writeBytes,
          List.length_cons]
        omega
  have first := head 5 entries.length
  change 2 * entries.length <
    (writeHead 5 entries.length ++ entries.flatMap writeEntry).length
  rw [List.length_append]
  omega

/-- A written map is read off the front, whatever follows it. -/
theorem decode?_writeMap {entries : List (String × Bytes)}
    (few : entries.length < UInt64.size) (fit : ∀ entry ∈ entries, EntryFits entry)
    (rest : Bytes) :
    decode? (writeMap entries ++ rest) = some (.map (entries.map entryPair)) := by
  have length : (writeMap entries ++ rest).length =
      (writeMap entries).length + rest.length := List.length_append
  have room := length_lt_writeMap entries
  have pairs := readPairs_written fit
    (show entries.length + 1 < 2 * (writeMap entries ++ rest).length + 1 by omega) 255 rest
  have head := readHead_map few (entries.flatMap writeEntry ++ rest)
  have whole : writeHead 5 entries.length ++ (entries.flatMap writeEntry ++ rest) =
      writeMap entries ++ rest :=
    (List.append_assoc _ _ _).symm
  rw [whole] at head
  unfold decode? readItem
  rw [head]
  dsimp only [nestingLimit]
  rw [pairs]
  rfl

end Cbor

namespace UserState

/-- What can be written: no length or count needs more than 64 bits. -/
def Encodable (state : UserState) : Prop :=
  state.entries.entries.length < UInt64.size ∧
    ∀ entry ∈ state.entries.entries, Cbor.EntryFits entry

theorem deltaEntries_pairs (entries : List (String × Bytes)) :
    deltaEntries (entries.map Cbor.entryPair) = .ok entries := by
  induction entries with
  | nil => rfl
  | cons entry rest induction =>
      rw [List.map_cons, Cbor.entryPair, deltaEntries, induction]
      rfl

/-- What stands behind the written map does not matter. -/
theorem decodeDelta_encodeDelta {state : UserState} (encodable : state.Encodable)
    (rest : Bytes) : decodeDelta (encodeDelta state.entries ++ rest) = .ok state := by
  have decoded := Cbor.decode?_writeMap encodable.1 encodable.2 rest
  have read : decodeDelta (encodeDelta state.entries ++ rest) =
      (deltaEntries (state.entries.entries.map Cbor.entryPair)).map fun entries =>
        ⟨KeyMap.ofList entries⟩ := by
    unfold decodeDelta
    rw [encodeDelta, decoded]
  rw [read, deltaEntries_pairs]
  exact congrArg Except.ok (congrArg UserState.mk (KeyMap.ofList_entries state.entries))

theorem decodeDelta_toCoreBytes {state : UserState} (encodable : state.Encodable) :
    decodeDelta state.toCoreBytes = .ok state := by
  have decoded := decodeDelta_encodeDelta encodable []
  rwa [List.append_nil] at decoded

end UserState

end Messenger

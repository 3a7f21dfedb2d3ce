import Messenger.Base64
import Messenger.Cbor.Reader
import Messenger.Cbor.Writer
import Messenger.Json.Reader
import Messenger.Json.Writer
import Messenger.KeyMap
import Messenger.ReadFault
import Messenger.Text.Blank

/-!
The owner's protocol state: bytes by key. It is kept in a stored form, which is
base64 of a JSON object of base64 values, and handed to the key core as a CBOR map;
the core answers with deltas in the same CBOR form.
-/

namespace Messenger

structure UserState where
  entries : KeyMap Bytes
  deriving DecidableEq

namespace UserState

def empty : UserState :=
  ⟨∅⟩

instance : EmptyCollection UserState := ⟨empty⟩

instance : Inhabited UserState := ⟨empty⟩

def get? (state : UserState) (key : String) : Option Bytes :=
  state.entries.get? key

def size (state : UserState) : Nat :=
  state.entries.size

def isEmpty (state : UserState) : Bool :=
  state.entries.isEmpty

def insert (state : UserState) (key : String) (value : Bytes) : UserState :=
  ⟨state.entries.insert key value⟩

/-- Entries of `delta` win over those of `state`. -/
def override (state delta : UserState) : UserState :=
  ⟨state.entries.insertAll delta.entries.entries⟩

def removeKeys (state : UserState) (keys : List String) : UserState :=
  ⟨state.entries.eraseAll keys⟩

def toStored (state : UserState) : String :=
  let members := state.entries.entries.map fun (key, value) =>
    (key, String.ofList (Base64.encode value))
  String.ofList (Base64.encode (Json.writeStrings members).toUTF8.data.toList)

def stringMembers? : Json → Option (List (String × String))
  | .object members =>
    (Json.named? members).bind fun members =>
      members.mapM fun (name, value) => value.string?.map fun text => (name, text)
  | _ => none

/-- Decodes values in the order of their keys; the first that fails is named. -/
def decodeEntries : List (String × String) → Except ReadFault (List (String × Bytes))
  | [] => .ok []
  | (key, value) :: rest =>
    match Base64.decode value.toList with
    | none => .error ⟨.base64, .userState, .notBase64At key⟩
    | some bytes => (decodeEntries rest).map ((key, bytes) :: ·)

/-- Reads a stored form; white space alone stands for the empty state. -/
def fromStored (stored : String) : Except ReadFault UserState :=
  match Text.trim stored.toList with
  | [] => .ok ∅
  | text =>
    match Base64.decode text with
    | none => .error ⟨.base64, .userState, .notBase64⟩
    | some bytes =>
      match ((Cbor.utf8? bytes).bind Json.parse?).bind stringMembers? with
      | none => .error (.notJson .userState)
      | some members =>
        (decodeEntries (KeyMap.ofList members).entries).map fun entries =>
          ⟨KeyMap.ofList entries⟩

def encodeDelta (entries : KeyMap Bytes) : Bytes :=
  Cbor.writeMap entries.entries

def toCoreBytes (state : UserState) : Bytes :=
  encodeDelta state.entries

/-- The entries of a map; the first pair that is not text to bytes is at fault. -/
def deltaEntries : List (Cbor × Cbor) → Except ReadFault (List (String × Bytes))
  | [] => .ok []
  | (.text key, .bytes value) :: rest => (deltaEntries rest).map ((key, value) :: ·)
  | (key, _) :: _ => .error ⟨.cbor, .stateDelta, .badEntry key.shown⟩

def decodeDelta (delta : Bytes) : Except ReadFault UserState :=
  match Cbor.decode? delta with
  | none => .error ⟨.cbor, .stateDelta, .notCbor⟩
  | some (.map pairs) => (deltaEntries pairs).map fun entries => ⟨KeyMap.ofList entries⟩
  | some _ => .error ⟨.cbor, .stateDelta, .notMap⟩

/-- Merges a delta. Answers with the number of entries that it brought. -/
def applyDelta (state : UserState) (delta : Bytes) : UserState × Except ReadFault Nat :=
  match decodeDelta delta with
  | .ok decoded => (state.override decoded, .ok decoded.size)
  | .error fault => (state, .error fault)

/-- Nothing of a delta that cannot be read is merged. -/
theorem applyDelta_of_error {state : UserState} {delta : Bytes} {fault : ReadFault}
    (unread : (state.applyDelta delta).2 = .error fault) :
    state.applyDelta delta = (state, .error fault) := by
  unfold applyDelta at unread ⊢
  cases read : decodeDelta delta with
  | ok decoded =>
      rw [read] at unread
      cases unread
  | error other =>
      rw [read] at unread
      cases unread
      rfl

/-! Values are key material, so only their lengths are shown. -/

def shown (state : UserState) : String :=
  "\x7b" ++ ", ".intercalate (state.entries.entries.map fun (key, value) =>
    Text.quote key ++ ": " ++ Text.quote (Text.byteCount value.length)) ++ "\x7d"

end UserState

end Messenger

import Messenger.KeyMap
import Messenger.Text.Cut

/-!
Round trips that wait for a confirmation. A key is a payment hash or a tag; keys
with one timestamp belong to one round trip and are completed together.
-/

namespace Messenger

structure Liveness where
  entries : KeyMap UInt64
  deriving DecidableEq, Repr

namespace Liveness

def empty : Liveness :=
  ⟨∅⟩

instance : EmptyCollection Liveness := ⟨empty⟩

instance : Inhabited Liveness := ⟨empty⟩

def size (liveness : Liveness) : Nat :=
  liveness.entries.size

def isEmpty (liveness : Liveness) : Bool :=
  liveness.entries.isEmpty

def timestamp? (liveness : Liveness) (key : String) : Option UInt64 :=
  liveness.entries.get? key

/-- Puts a key into the round trip of a timestamp. The empty key is never tracked. -/
def record (liveness : Liveness) (key : String) (timestamp : UInt64) : Liveness :=
  if key = "" then liveness else ⟨liveness.entries.insert key timestamp⟩

def recordAll (liveness : Liveness) (keys : List String) (timestamp : UInt64) :
    Liveness :=
  keys.foldl (fun liveness key => liveness.record key timestamp) liveness

def purge (liveness : Liveness) (timestamp : UInt64) : Liveness :=
  ⟨liveness.entries.filter fun _ other => other != timestamp⟩

/-- Completes the round trip of a key: its timestamp, if the key is tracked, and what
is left without that round trip. -/
def complete (liveness : Liveness) (key : String) : Option UInt64 × Liveness :=
  match liveness.timestamp? key with
  | none => (none, liveness)
  | some timestamp => (some timestamp, liveness.purge timestamp)

def keyMentionedIn? (liveness : Liveness) (error : String) : Option String :=
  liveness.entries.keys.find? fun key => Text.occursIn key.toList error.toList

end Liveness

end Messenger

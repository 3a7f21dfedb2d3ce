import Messenger.Bundle

/-!
Bundles that wait for a settlement or an asynchronous payment to be confirmed. The
confirmation names the index or the tag of a message that the bundle carries.
-/

namespace Messenger

inductive SettlementKey where
  | index (value : String)
  | tag (value : String)
  deriving DecidableEq, Repr

def SettlementKey.names (key : SettlementKey) (bundle : Bundle) : Bool :=
  match key with
  | .index value => bundle.carriesIndex value
  | .tag value => bundle.carriesTag value

structure SettlementQueue where
  /-- The oldest first. -/
  pending : List Bundle
  deriving DecidableEq, Repr

namespace SettlementQueue

def empty : SettlementQueue :=
  ⟨[]⟩

instance : EmptyCollection SettlementQueue := ⟨empty⟩

instance : Inhabited SettlementQueue := ⟨empty⟩

def size (queue : SettlementQueue) : Nat :=
  queue.pending.length

def isEmpty (queue : SettlementQueue) : Bool :=
  queue.pending.isEmpty

def enqueue (queue : SettlementQueue) (bundle : Bundle) : SettlementQueue :=
  ⟨queue.pending ++ [bundle]⟩

/-- Removes every bundle with a key; the oldest of them is released. -/
def take (queue : SettlementQueue) (key : SettlementKey) :
    Option Bundle × SettlementQueue :=
  (queue.pending.find? key.names,
    ⟨queue.pending.filter fun bundle => !key.names bundle⟩)

end SettlementQueue

end Messenger

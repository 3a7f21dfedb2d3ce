import Messenger.Word

/-! Timestamps that never repeat, whatever the wall clock does. -/

namespace Messenger

structure UniqueClock where
  last : UInt64
  deriving DecidableEq, Repr

namespace UniqueClock

def new : UniqueClock :=
  ⟨0⟩

/-- The next timestamp: the wall reading, or the one after the last if that is later. -/
def next (clock : UniqueClock) (wall : UInt64) : UInt64 :=
  max wall (Word.next clock.last)

def tick (clock : UniqueClock) (wall : UInt64) : UniqueClock :=
  ⟨clock.next wall⟩

end UniqueClock

end Messenger

/-!
How far a restore has come, in percent. The contacts own the first few percent and
the messages the rest.
-/

namespace Messenger

structure RestoreProgress where
  contactsRestored : UInt64 := 0
  contactsHighestIndex : UInt64 := 0
  contactsTotal : UInt64 := 0
  messagesRestored : UInt64 := 0
  messagesTotal : UInt64 := 0
  deriving DecidableEq, Repr, Inhabited

namespace RestoreProgress

def contactsWeight : UInt8 := 4

def messagesWeight : UInt8 := 96

/-- The share of a weight that is done; nothing to do is all done. -/
def weighted (restored total : UInt64) (weight : UInt8) : UInt8 :=
  if total = 0 then weight
  else
    let share := (min restored total).toNat * weight.toNat / total.toNat
    if share < UInt8.size then UInt8.ofNat share else weight

/-- Percent during the contacts phase. The total is an index, so the phase is measured
by the highest index and not by the number of records. -/
def contactsPercentage (progress : RestoreProgress) : UInt8 :=
  weighted progress.contactsHighestIndex progress.contactsTotal contactsWeight

def messagesPercentage (progress : RestoreProgress) : UInt8 :=
  if progress.messagesTotal ≤ progress.messagesRestored then 100
  else
    contactsWeight +
      weighted progress.messagesRestored progress.messagesTotal messagesWeight

end RestoreProgress

end Messenger

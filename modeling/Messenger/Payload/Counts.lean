import Messenger.Json.Reader
import Messenger.ReadFault

/-! How many messages and contacts an account has on the server. -/

namespace Messenger

structure Counts where
  total : Option UInt64
  okKey : Option UInt64
  firstForEachScid : Option UInt64
  totalHighestIndex : Option UInt64
  okKeyHighestIndex : Option UInt64
  firstForEachScidHighestIndex : Option UInt64
  deriving DecidableEq, Repr, Inhabited

namespace Counts

def ofJson? (value : Json) : Option Counts := do
  let fields ←
    Json.record?
      ["total", "ok_key", "first_for_each_scid", "total_highest_index",
        "ok_key_highest_index", "first_for_each_scid_highest_index"]
      value
  let total ← Json.optionalField? fields Json.word? "total"
  let okKey ← Json.optionalField? fields Json.word? "ok_key"
  let firstForEachScid ← Json.optionalField? fields Json.word? "first_for_each_scid"
  let totalHighestIndex ← Json.optionalField? fields Json.word? "total_highest_index"
  let okKeyHighestIndex ← Json.optionalField? fields Json.word? "ok_key_highest_index"
  let firstForEachScidHighestIndex ←
    Json.optionalField? fields Json.word? "first_for_each_scid_highest_index"
  return {
    total, okKey, firstForEachScid
    totalHighestIndex, okKeyHighestIndex, firstForEachScidHighestIndex }

def parse (raw : String) : Except ReadFault Counts :=
  match (Json.parse? raw).bind ofJson? with
  | some counts => .ok counts
  | none => .error (.notJson .msgsCounts)

/-- The highest contact-record index that a restore has to reach. -/
def contactsTotal (counts : Counts) : UInt64 :=
  (counts.firstForEachScidHighestIndex <|> counts.firstForEachScid).getD 0

def messagesTotal (counts : Counts) : UInt64 :=
  counts.total.getD 0

def newestIndex (counts : Counts) : UInt64 :=
  (counts.totalHighestIndex <|> counts.total).getD 0

end Counts

end Messenger

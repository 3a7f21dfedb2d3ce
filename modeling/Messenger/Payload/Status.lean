import Messenger.Json.Reader
import Messenger.ReadFault

/-! Outcomes of settlements and of outbound payments. -/

namespace Messenger

def completeStatus : String := "COMPLETE"

structure SettledStatus where
  /-- Names a parked bundle by the index of one of its messages. -/
  htlcId : String
  status : String
  deriving DecidableEq, Repr

namespace SettledStatus

/-- An identifier is a string, or a number standing for its digits. -/
def readId (value : Json) : Option String :=
  match value with
  | .string text => text
  | value => value.word?.map fun word => Decimal.write word.toNat

def ofJson? (value : Json) : Option SettledStatus := do
  let fields ← Json.record? ["htlc_id", "status"] value
  let htlcId ← Json.field? fields readId "htlc_id"
  let status ← Json.field? fields Json.string? "status"
  return { htlcId, status }

def parse (raw : String) : Except ReadFault SettledStatus :=
  match (Json.parse? raw).bind ofJson? with
  | some status => .ok status
  | none => .error (.notJson .settledStatus)

def isComplete (settled : SettledStatus) : Bool :=
  settled.status == completeStatus

end SettledStatus

structure SentStatus where
  tag : String
  status : String
  preimage : Option String
  paymentHash : Option String
  message : Option String
  deriving DecidableEq, Repr

namespace SentStatus

def ofJson? (value : Json) : Option SentStatus := do
  let fields ←
    Json.record? ["tag", "status", "preimage", "payment_hash", "message"] value
  let tag ← Json.fieldOr fields Json.string? "" "tag"
  let status ← Json.fieldOr fields Json.string? "" "status"
  let preimage ← Json.optionalField? fields Json.string? "preimage"
  let paymentHash ← Json.optionalField? fields Json.string? "payment_hash"
  let message ← Json.optionalField? fields Json.string? "message"
  return { tag, status, preimage, paymentHash, message }

def parse (raw : String) : Except ReadFault SentStatus :=
  match (Json.parse? raw).bind ofJson? with
  | some status => .ok status
  | none => .error (.notJson .sentStatus)

def isComplete (sent : SentStatus) : Bool :=
  sent.status == completeStatus

end SentStatus

end Messenger

import Messenger.Text.Decimal

/-! Why a text or a byte string in a bundle, or a stored state, cannot be read. -/

namespace Messenger

inductive Field where
  | settledStatus
  | sentStatus
  | msgsCounts
  | myContactInfo
  | inviterContactInfo
  | ping
  | userState
  | stateDelta
  deriving DecidableEq, Repr

def Field.name : Field → String
  | .settledStatus => "settled_status"
  | .sentStatus => "sent_status"
  | .msgsCounts => "msgs_counts"
  | .myContactInfo => "my_contact_info"
  | .inviterContactInfo => "inviter_contact_info"
  | .ping => "ping"
  | .userState => "user_state"
  | .stateDelta => "state_delta"

inductive Form where
  | json
  | base64
  | cbor
  | format
  deriving DecidableEq, Repr

inductive Reason where
  | notJson
  | notBase64
  | notBase64At (key : String)
  | notCbor
  | notMap
  | badEntry (key : String)
  | emptyKey
  | noSeparator
  | emptyHash
  | badTime (fault : Decimal.Fault)
  /-- A reason given by someone else, in their words. -/
  | told (text : String)
  deriving DecidableEq, Repr

def Reason.text : Reason → String
  | .notJson => "<json error>"
  | .notBase64 => "<base64 error>"
  | .notBase64At key => key ++ ": <base64 error>"
  | .notCbor => "<cbor error>"
  | .notMap => "not a map"
  | .badEntry key => "entry " ++ key ++ " is not text -> bytes"
  | .emptyKey => "empty pubkey"
  | .noSeparator => "missing ':' separator"
  | .emptyHash => "empty hash"
  | .badTime fault => "timestamp: " ++ fault.message
  | .told text => text

structure ReadFault where
  form : Form
  field : Field
  reason : Reason
  deriving DecidableEq, Repr

namespace ReadFault

def notJson (field : Field) : ReadFault :=
  ⟨.json, field, .notJson⟩

def message (fault : ReadFault) : String :=
  let opening := match fault.form with
    | .json => "invalid json in "
    | .base64 => "invalid base64 in "
    | .cbor => "invalid cbor in "
    | .format => "malformed "
  opening ++ fault.field.name ++ ": " ++ fault.reason.text

end ReadFault

end Messenger

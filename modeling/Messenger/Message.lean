import Messenger.Text.Decimal

/-! Decoded messages, and the kinds of message that the session acts on. -/

namespace Messenger

inductive MessageKind where
  | message
  | contactKey
  | contactKeyConfirmation
  | groupJoin
  | delete
  | memberApprove
  | contactKeyRecord
  deriving DecidableEq, Repr

namespace MessageKind

def code : MessageKind → UInt8
  | .message => 0
  | .contactKey => 10
  | .contactKeyConfirmation => 11
  | .groupJoin => 14
  | .delete => 17
  | .memberApprove => 20
  | .contactKeyRecord => 33

/-- Other codes are carried through untouched. -/
def ofCode? : UInt8 → Option MessageKind
  | 0 => some .message
  | 10 => some .contactKey
  | 11 => some .contactKeyConfirmation
  | 14 => some .groupJoin
  | 17 => some .delete
  | 20 => some .memberApprove
  | 33 => some .contactKeyRecord
  | _ => none

end MessageKind

structure Message where
  kindCode : UInt8 := 0
  content : Option String := none
  amountMsat : Option UInt64 := none
  sender : Option String := none
  uuid : Option String := none
  index : Option String := none
  tag : Option String := none
  paymentHash : Option String := none
  invoice : Option String := none
  mediaToken : Option String := none
  mediaKey : Option String := none
  mediaType : Option String := none
  replyUuid : Option String := none
  threadUuid : Option String := none
  originalUuid : Option String := none
  date : Option UInt64 := none
  sentTo : Option String := none
  fromMe : Bool := false
  deriving DecidableEq, Repr, Inhabited

namespace Message

def kind? (message : Message) : Option MessageKind :=
  MessageKind.ofCode? message.kindCode

/-- The index as a number; an index that is none does not count. -/
def indexValue? (message : Message) : Option UInt64 :=
  message.index.bind Decimal.read64?

def affectsTribe (message : Message) : Bool :=
  match message.kind? with
  | some .groupJoin => true
  | some .memberApprove => true
  | _ => false

def affectsContact (message : Message) : Bool :=
  match message.kind? with
  | some .contactKey => true
  | some .contactKeyConfirmation => true
  | some .contactKeyRecord => true
  | _ => false

def hash? (message : Message) : Option String :=
  message.paymentHash.filter (· ≠ "")

def tag? (message : Message) : Option String :=
  message.tag.filter (· ≠ "")

def indexValues (messages : List Message) : List UInt64 :=
  messages.filterMap indexValue?

def highestIndex? (messages : List Message) : Option UInt64 :=
  (indexValues messages).max?

def lowestIndex? (messages : List Message) : Option UInt64 :=
  (indexValues messages).min?

end Message

end Messenger

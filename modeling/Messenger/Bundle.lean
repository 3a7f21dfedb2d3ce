import Messenger.Bytes
import Messenger.Message

/-!
A bundle is what every call of the key core answers: a sparse record in which each
field asks for one kind of effect. A bundle is never changed, only applied or parked.
-/

namespace Messenger

structure Publish where
  topic : String
  payload : Bytes
  deriving DecidableEq, Repr, Inhabited

structure Invite where
  code : String
  tag : String
  deriving DecidableEq, Repr, Inhabited

structure Bundle where
  stateDelta : Option Bytes := none
  deletions : List String := []
  ping : Option String := none
  balanceMsat : Option UInt64 := none
  messages : List Message := []
  newTribe : Option String := none
  tribeMembers : Option String := none
  myContactInfo : Option String := none
  inviterContactInfo : Option String := none
  newInvite : Option Invite := none
  msgsCounts : Option String := none
  msgsTotal : Option UInt64 := none
  lastRead : Option String := none
  initialTribe : Option String := none
  error : Option String := none
  sentStatus : Option String := none
  settledStatus : Option String := none
  asyncPayTag : Option String := none
  lspHost : Option String := none
  muteLevels : Option String := none
  payments : Option String := none
  paymentsTotal : Option UInt64 := none
  tags : Option String := none
  subscriptionTopics : List String := []
  /-- Completed by a settlement; until then nothing else goes out. -/
  settlement : Option Publish := none
  /-- What follows it waits for the register delay. -/
  register : Option Publish := none
  /-- Completed by the tag of the payment. -/
  asyncPay : Option Publish := none
  publishes : List Publish := []
  deriving DecidableEq, Repr, Inhabited

namespace Bundle

def carriesIndex (bundle : Bundle) (index : String) : Bool :=
  bundle.messages.any fun message => message.index == some index

def carriesTag (bundle : Bundle) (tag : String) : Bool :=
  bundle.messages.any fun message => message.tag == some tag

def messageTags (bundle : Bundle) : List String :=
  bundle.messages.filterMap Message.tag?

def publishesNothing (bundle : Bundle) : Bool :=
  bundle.settlement.isNone && bundle.register.isNone && bundle.asyncPay.isNone &&
    bundle.publishes.isEmpty

end Bundle

end Messenger

import Messenger.Broker.Link

/-!
What a session asks of the key core. The core derives keys, signs, and decides what
to publish; a session only carries its answers out.
-/

namespace Messenger

structure Mnemonic where
  words : String
  deriving DecidableEq, Repr

/-- The words are never shown. -/
def Mnemonic.shown (_ : Mnemonic) : String :=
  "Mnemonic(<redacted>)"

structure CoreContext where
  seed : String
  /-- No two calls have the same. -/
  uniqueTime : UInt64
  userState : Bytes
  displayName : String
  avatar : Option String
  deriving DecidableEq, Repr

def CoreContext.shown (context : CoreContext) : String :=
  Text.fieldList "CoreContext" [
    ("seed", Text.quote "<redacted>"),
    ("unique_time", Decimal.write context.uniqueTime.toNat),
    ("user_state", Text.quote (Text.byteCount context.userState.length)),
    ("alias", Text.quote context.displayName),
    ("avatar", context.avatar.elim "None" fun avatar =>
      "Some(" ++ Text.quote avatar ++ ")")]

structure ParsedInvite where
  lspHost : Option String := none
  initialTribe : Option String := none
  inviterContactInfo : Option String := none
  deriving DecidableEq, Repr

inductive CoreCall where
  | initialSetup (device : String) (inviteCode : Option String)
  | handleInbound (topic : String) (payload : Bytes)
  | fetchMessageCounts
  | fetchFirstMessagesPerKey (lastIndex : UInt64) (limit : UInt32) (reverse : Bool)
  | fetchMessagesBatch (lastIndex : UInt64) (limit : UInt32) (reverse : Bool)
  | fetchPings
  | pingDone (timestamp : UInt64)
  | readMarkers
  | muteLevels
  | send (recipient : String) (kindCode : UInt8) (content : String)
      (amountSats : UInt64) (isTribe : Bool)
  | payInvoice (invoice : String)
  | makeInvite (nickname : String) (amountSats : UInt64) (message : String)
      (tribeHost : Option String)
  | joinTribe (tribeKey : String) (routeHint : Option String) (displayName : String)
      (amountSats : UInt64) (isPrivate : Bool)
  | setMuteLevel (key : String) (level : UInt8)
  | markRead (key : String) (index : UInt64)
  | fetchPayments (lastIndex : Option UInt64) (limit : UInt32)
  deriving DecidableEq, Repr

def CoreCall.name : CoreCall → String
  | .initialSetup .. => "initial_setup"
  | .handleInbound .. => "handle_inbound"
  | .fetchMessageCounts => "fetch_message_counts"
  | .fetchFirstMessagesPerKey .. => "fetch_first_messages_per_key"
  | .fetchMessagesBatch .. => "fetch_messages_batch"
  | .fetchPings => "fetch_pings"
  | .pingDone .. => "ping_done"
  | .readMarkers => "read_markers"
  | .muteLevels => "mute_levels"
  | .send .. => "send"
  | .payInvoice .. => "pay_invoice"
  | .makeInvite .. => "make_invite"
  | .joinTribe .. => "join_tribe"
  | .setMuteLevel .. => "set_mute_level"
  | .markRead .. => "mark_read"
  | .fetchPayments .. => "fetch_payments"

end Messenger

import Messenger.Amount
import Messenger.Json.Writer
import Messenger.Session.Lifecycle

/-!
What a caller can ask of a session. Most operations are one call of the key core whose
bundle is then applied.
-/

namespace Messenger

structure OutgoingMessage where
  recipient : String
  kind : MessageKind
  content : String
  amountSats : Option UInt64 := none
  isTribe : Bool := false
  deriving DecidableEq, Repr

namespace OutgoingMessage

/-- A message to a tribe is raised to the least amount. -/
def carriedAmount (message : OutgoingMessage) : UInt64 :=
  if message.isTribe then Amount.tribeMessage message.amountSats
  else message.amountSats.getD 0

end OutgoingMessage

structure InviteRequest where
  nickname : String := ""
  amountSats : UInt64 := 0
  message : String := ""
  tribeHost : Option String := none
  deriving DecidableEq, Repr

structure TribeJoin where
  tribeKey : String := ""
  routeHint : Option String := none
  displayName : String := ""
  amountSats : UInt64 := 0
  isPrivate : Bool := false
  deriving DecidableEq, Repr

inductive Operation where
  | addListener
  | beginRestore (mnemonic : Mnemonic)
  | createAccount (displayName mixer : String) (inviteCode : Option String)
  | restoreAccount (params : RestoreParams)
  | start (address : String) (mnemonic : Mnemonic) (owner : Owner)
  | reconnect
  | disconnect
  | send (message : OutgoingMessage)
  | delete (recipient uuid : String) (isTribe : Bool)
  | payInvoice (invoice : String)
  | createInvite (request : InviteRequest)
  | joinTribe (join : TribeJoin)
  | setMuteLevel (key : String) (level : UInt8)
  | markRead (key : String) (index : UInt64)
  | fetchPayments (lastIndex : Option UInt64) (limit : UInt32)
  | cancelRestore
  | dispatch (bundle : Bundle) (context : DispatchContext)
  deriving DecidableEq

namespace Session

variable {W : Type} [Surroundings W]

def execute (session : Session W) (call : CoreCall) :
    Session W × Except SessionError Unit :=
  match session.runCall call with
  | (session, .error error) => (session, .error error)
  | (session, .ok (bundle, _)) => (session.accept bundle {}, .ok ())

def deletionContent (uuid : String) : String :=
  Json.writeStrings [("content", uuid)]

/-- The time of the round trip that a bundle starts: of its ping, if that can be read,
and otherwise of the call that answered it. -/
def roundTripTime (bundle : Bundle) (time : UInt64) : UInt64 :=
  match bundle.ping.map Ping.parse with
  | some (.ok ping) => ping.timestamp
  | _ => time

def tryPayInvoice (session : Session W) (invoice : String) :
    Session W × Except SessionError Unit :=
  match Surroundings.paymentHash session.outside invoice with
  | .error reason => (session, .error (.core "payment_hash_from_invoice" reason))
  | .ok hash =>
    match session.runCall (.payInvoice invoice) with
    | (session, .error error) => (session, .error error)
    | (session, .ok (bundle, time)) =>
      let timestamp := roundTripTime bundle time
      let session :=
        { session with liveness := session.liveness.record hash timestamp }
      (session.accept bundle (.started timestamp), .ok ())

/-- Begins an operation. What it leaves on the agenda is carried out next. -/
def perform (session : Session W) : Operation → Session W × Except SessionError Unit
  | .addListener => (session.addListener, .ok ())
  | .beginRestore mnemonic => (session.beginRestore mnemonic, .ok ())
  | .createAccount displayName mixer inviteCode =>
    session.createAccount displayName mixer inviteCode
  | .restoreAccount params => session.restoreAccount params
  | .start address mnemonic owner => session.start address mnemonic owner
  | .reconnect => session.reconnect
  | .disconnect => (session.disconnect, .ok ())
  | .send message =>
    reported (session.execute (.send message.recipient message.kind.code message.content
      message.carriedAmount message.isTribe))
  | .delete recipient uuid isTribe =>
    reported (session.execute (.send recipient MessageKind.delete.code
      (deletionContent uuid) (Amount.deletion isTribe) isTribe))
  | .payInvoice invoice => reported (session.tryPayInvoice invoice)
  | .createInvite request =>
    reported (session.execute (.makeInvite request.nickname request.amountSats
      request.message request.tribeHost))
  | .joinTribe join =>
    reported (session.execute (.joinTribe join.tribeKey join.routeHint join.displayName
      join.amountSats join.isPrivate))
  | .setMuteLevel key level => reported (session.execute (.setMuteLevel key level))
  | .markRead key index => reported (session.execute (.markRead key index))
  | .fetchPayments lastIndex limit =>
    reported (session.execute (.fetchPayments lastIndex limit))
  | .cancelRestore => (session.cancelRestore, .ok ())
  | .dispatch bundle context => (session.accept bundle context, .ok ())

end Session

end Messenger

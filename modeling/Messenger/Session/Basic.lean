import Messenger.Event
import Messenger.Liveness
import Messenger.Payload.Ping
import Messenger.Restore.Machine
import Messenger.Session.Surroundings
import Messenger.Settlement
import Messenger.UniqueClock
import Messenger.UserState

/-!
The state of a session, and the small steps that everything else is made of: telling
listeners, taking a timestamp, calling the key core.
-/

namespace Messenger

structure Account where
  seed : String
  network : Network
  mixer : String
  tribeServer : Option String := none
  router : Option String := none
  defaultTribe : Option String := none
  inviteCode : Option String := none
  /-- A restore was asked for and has not finished. -/
  restoring : Bool := false
  deriving DecidableEq, Repr

structure Owner where
  displayName : String := ""
  avatar : Option String := none
  userState : UserState := ∅
  messageLastIndex : Option UInt64 := none
  deriving DecidableEq

structure Dashboard where
  pendingInviter : Option Contact := none
  initialTribe : Option String := none
  inFlightInvite : Option Invite := none
  deriving DecidableEq, Repr

structure OpeningParams where
  address : String
  mnemonic : Mnemonic
  tribeServer : Option String := none
  router : Option String := none
  defaultTribe : Option String := none
  deriving DecidableEq, Repr

structure DispatchContext where
  /-- The settlement is done, so it is not published. -/
  skipSettlement : Bool := false
  /-- The asynchronous payment is done, so it is not published. -/
  skipAsyncPay : Bool := false
  originatingTopic : Option String := none
  /-- A round trip that the caller began with this bundle. -/
  startedPing : Option UInt64 := none
  deriving DecidableEq, Repr

namespace DispatchContext

def inbound (topic : String) : DispatchContext where
  originatingTopic := some topic

def started (timestamp : UInt64) : DispatchContext where
  startedPing := some timestamp

def settled : DispatchContext where
  skipSettlement := true

def asyncPaid : DispatchContext where
  skipSettlement := true
  skipAsyncPay := true

end DispatchContext

inductive Work where
  | dispatch (bundle : Bundle) (context : DispatchContext)
  | call (call : CoreCall)
  | inbound (topic : String) (payload : Bytes)
  /-- Initial setup, then the restore or the sync. With `resumePaging` a restore that
  is under way asks again for what it waits for. -/
  | bootstrap (resumePaging : Bool)
  deriving DecidableEq, Repr

/-- The rest of a bundle, to be published once the register delay is over. -/
structure Waiting where
  due : Nat
  bundle : Bundle
  context : DispatchContext
  deriving DecidableEq, Repr

inductive Entry where
  | opened (account : Account) (owner : Owner)
  /-- A bundle came from the key core or the caller, while an account was live or not. -/
  | received (bundle : Bundle) (context : DispatchContext) (live : Bool)
  /-- A timestamp was issued at a reading of the wall clock. -/
  | stamped (wall time : UInt64)
  | called (context : CoreContext) (call : CoreCall) (answer : Except String Bundle)
  /-- A connection's keys were asked for, with one time for both. -/
  | keysAsked (seed : String) (time : UInt64)
  | attempted (generation : Nat) (options : ConnectOptions)
  | applied (bundle : Bundle) (context : DispatchContext)
  | woken (waiting : Waiting)
  | published (publish : Publish) (time : Nat) (outcome : Except LinkError Unit)
  | subscribed (topics : List String) (outcome : Except LinkError Unit)
  | disconnected
  | told (callback : Callback)

structure Session (W : Type) where
  config : Config
  outside : W
  /-- Milliseconds into the run. -/
  now : Nat := 0
  clock : UniqueClock := .new
  account : Option Account := none
  owner : Owner := {}
  liveness : Liveness := ∅
  settlements : SettlementQueue := ∅
  restore : RestoreMachine
  dashboard : Dashboard := {}
  lastOpening : Option OpeningParams := none
  pendingRestore : Option Mnemonic := none
  connected : Bool := false
  /-- The one automatic reconnect of an opening is used up. -/
  reconnectSpent : Bool := false
  bootstrapped : Bool := false
  /-- The number of connection attempts and disconnects. Events of an attempt count as
  long as no later one has begun. -/
  generation : Nat := 0
  agenda : List Work := []
  /-- What listeners are told once the agenda is done. -/
  farewell : List Event := []
  /-- In the order they fall due. -/
  waiting : List Waiting := []
  listeners : List (List Callback) := []
  journal : List Entry := []

namespace Session

variable {W : Type}

def new (config : Config) (outside : W) : Session W where
  config
  outside
  restore := .new config.contactsPageSize config.messagesPageSize

def hasSession (session : Session W) : Bool :=
  session.account.isSome

def isIdle (session : Session W) : Bool :=
  session.agenda.isEmpty && session.farewell.isEmpty

def given {α : Type} (session : Session W) (field : Option α)
    (act : Session W → α → Session W) : Session W :=
  match field with
  | none => session
  | some value => act session value

@[simp] theorem given_none {α : Type} (session : Session W)
    (act : Session W → α → Session W) : session.given none act = session := rfl

@[simp] theorem given_some {α : Type} (session : Session W) (value : α)
    (act : Session W → α → Session W) :
    session.given (some value) act = act session value := rfl

def note (session : Session W) (entry : Entry) : Session W :=
  { session with journal := session.journal ++ [entry] }

def tell (session : Session W) (callback : Callback) : Session W :=
  { session with
    listeners := session.listeners.map (· ++ [callback])
    journal := session.journal ++ [.told callback] }

def notify (session : Session W) (event : Event) : Session W :=
  session.tell (.event event)

def report (session : Session W) (error : SessionError) : Session W :=
  session.notify (.error error)

def enqueue (session : Session W) (work : Work) : Session W :=
  { session with agenda := session.agenda ++ [work] }

def accept (session : Session W) (bundle : Bundle) (context : DispatchContext) :
    Session W :=
  (session.note (.received bundle context session.hasSession)).enqueue
    (.dispatch bundle context)

def reported (result : Session W × Except SessionError Unit) :
    Session W × Except SessionError Unit :=
  match result with
  | (session, .ok ()) => (session, .ok ())
  | (session, .error error) => (session.report error, .error error)

variable [Surroundings W]

def uniqueTime (session : Session W) : Session W × UInt64 :=
  let (wall, outside) := Surroundings.wallMillis session.outside session.now
  let time := session.clock.next wall
  let session := { session with outside, clock := session.clock.tick wall }
  (session.note (.stamped wall time), time)

def randomBytes (session : Session W) (count : Nat) : Session W × Bytes :=
  let (bytes, outside) := Surroundings.randomBytes session.outside count
  ({ session with outside }, bytes)

/-- Calls the key core for the live account. Answers with the bundle and the time of
the call. -/
def runCall (session : Session W) (call : CoreCall) :
    Session W × Except SessionError (Bundle × UInt64) :=
  match session.account with
  | none => (session, .error .noSession)
  | some account =>
    let (session, time) := session.uniqueTime
    let context : CoreContext := {
      seed := account.seed
      uniqueTime := time
      userState := session.owner.userState.toCoreBytes
      displayName := session.owner.displayName
      avatar := session.owner.avatar }
    let (answer, outside) := Surroundings.runCall session.outside context call
    let session := { session with outside }.note (.called context call answer)
    match answer with
    | .ok bundle => (session, .ok (bundle, time))
    | .error reason => (session, .error (.core call.name reason))

end Session

end Messenger

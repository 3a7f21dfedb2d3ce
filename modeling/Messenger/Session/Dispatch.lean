import Messenger.Session.Batch
import Messenger.Session.Connection

/-!
Applying a bundle. Its fields are applied in one fixed order, then comes the publish
phase: a settlement parks the bundle and stops; otherwise a register publish makes the
rest wait; then an asynchronous payment parks the bundle, and only without one the
remaining publishes go out. What listeners and the link are awaited for in between is
assumed to return at once.
-/

namespace Messenger

namespace Session

variable {W : Type} [Surroundings W]

def setUserState (session : Session W) (userState : UserState) : Session W :=
  let owner := { session.owner with userState }
  { session with owner }.notify (.userStateChanged userState.toStored)

/-- Tells what the user state came to, or why the delta cannot be read. -/
def applyDelta (session : Session W) (delta : Bytes) : Session W :=
  match session.owner.userState.applyDelta delta with
  | (userState, .ok _) => session.setUserState userState
  | (userState, .error fault) =>
    { session with owner := { session.owner with userState } }.report (.ofFault fault)

omit [Surroundings W] in
theorem applyDelta_of_error {session : Session W} {delta : Bytes} {fault : ReadFault}
    (unread : (session.owner.userState.applyDelta delta).2 = .error fault) :
    session.applyDelta delta = session.report (.ofFault fault) := by
  rw [applyDelta, UserState.applyDelta_of_error unread]

omit [Surroundings W] in
theorem applyDelta_cases (session : Session W) (delta : Bytes) :
    (∃ fault, session.applyDelta delta = session.report (.ofFault fault)) ∨
      ∃ userState, session.applyDelta delta = session.setUserState userState := by
  cases read : (session.owner.userState.applyDelta delta).2 with
  | error fault => exact Or.inl ⟨fault, applyDelta_of_error read⟩
  | ok count =>
      refine Or.inr ⟨(session.owner.userState.applyDelta delta).1, ?_⟩
      rw [applyDelta, ← Prod.eta (session.owner.userState.applyDelta delta), read]

def applyDeletions (session : Session W) (deletions : List String) : Session W :=
  if deletions.isEmpty then session
  else session.setUserState (session.owner.userState.removeKeys deletions)

/-- Tracks the round trip that a bundle announces, by its hash and by the tags of its
messages. Answers with its timestamp. -/
def recordPing (session : Session W) (bundle : Bundle) : Session W × Option UInt64 :=
  match bundle.ping.map Ping.parse with
  | none => (session, none)
  | some (.error fault) => (session.report (.ofFault fault), none)
  | some (.ok ping) =>
    let liveness :=
      (session.liveness.record ping.paymentHash ping.timestamp).recordAll
        bundle.messageTags ping.timestamp
    ({ session with liveness }, some ping.timestamp)

def completeKey (session : Session W) (key : String) : Session W :=
  match session.liveness.complete key with
  | (none, _) => session
  | (some timestamp, liveness) =>
    { session with liveness }.enqueue (.call (.pingDone timestamp))

/-- A message with a payment hash confirms that hash's round trip, unless it is the one
that its own bundle started. -/
def completePing (started : Option UInt64) (session : Session W) (message : Message) :
    Session W :=
  match message.hash? with
  | none => session
  | some hash =>
    match session.liveness.timestamp? hash with
    | none => session
    | some timestamp =>
      if some timestamp = started then session else session.completeKey hash

def onMyContactInfo (session : Session W) (raw : String) : Session W :=
  match Contact.parseOwn raw with
  | .error fault => session.report (.ofFault fault)
  | .ok contact =>
    session.notify (.ownerRegistered {
      contact
      restoring := session.account.elim false (·.restoring)
      production := session.config.production
      router := session.account.bind (·.router)
      defaultTribe := session.account.bind (·.defaultTribe) })

def welcome (session : Session W) (inviter : Contact) : Session W :=
  let dashboard := { session.dashboard with pendingInviter := some inviter }
  { session with dashboard }.notify (.pendingInviter inviter)

def onInviterContactInfo (session : Session W) (raw : String) : Session W :=
  match Contact.parseInviter raw with
  | .error fault => session.report (.ofFault fault)
  | .ok inviter =>
    if session.dashboard.pendingInviter = some inviter then session
    else (session.welcome inviter).enqueue (.bootstrap false)

def onNewInvite (session : Session W) (invite : Invite) : Session W :=
  { session with dashboard := { session.dashboard with inFlightInvite := some invite } }

def onMsgsCounts (session : Session W) (raw : String) : Session W :=
  match Counts.parse raw with
  | .error fault => session.report (.ofFault fault)
  | .ok counts =>
    (session.notify (.msgsCounts counts)).advanceRestore (session.restore.onCounts counts)

def onInitialTribe (session : Session W) (tribe : String) : Session W :=
  let dashboard := { session.dashboard with initialTribe := some tribe }
  { session with dashboard }.notify (.initialTribe tribe)

/-- An error that names a tracked key confirms its round trip; any other is reported. -/
def onError (session : Session W) (error : String) : Session W :=
  match session.liveness.keyMentionedIn? error with
  | some key => session.completeKey key
  | none => session.report (.protocol error)

/-- A payment that completes the invite in flight makes it usable. -/
def onSentStatus (session : Session W) (raw : String) : Session W :=
  match SentStatus.parse raw with
  | .error fault => session.report (.ofFault fault)
  | .ok status =>
    match session.dashboard.inFlightInvite with
    | some invite =>
      if status.isComplete && invite.tag == status.tag then
        let dashboard := { session.dashboard with inFlightInvite := none }
        { session with dashboard }.notify (.inviteCreated invite)
      else session.notify (.sentStatus status)
    | none => session.notify (.sentStatus status)

def release (session : Session W) (key : SettlementKey) (context : DispatchContext) :
    Session W :=
  match session.settlements.take key with
  | (none, settlements) => { session with settlements }
  | (some bundle, settlements) =>
    { session with settlements }.enqueue (.dispatch bundle context)

def onSettledStatus (session : Session W) (raw : String) : Session W :=
  match SettledStatus.parse raw with
  | .error fault => session.report (.ofFault fault)
  | .ok status =>
    if status.isComplete then session.release (.index status.htlcId) .settled
    else session

def onAsyncPayTag (session : Session W) (tag : String) : Session W :=
  session.release (.tag tag) .asyncPaid

def onLspHost (session : Session W) (host : String) : Session W :=
  let account := session.account.map fun (account : Account) =>
    { account with mixer := host }
  { session with account }.notify (.mixerChanged host)

def park (session : Session W) (bundle : Bundle) : Session W :=
  { session with settlements := session.settlements.enqueue bundle }

def continuePublishing (session : Session W) (bundle : Bundle)
    (context : DispatchContext) : Session W :=
  if session.hasSession then
    match bundle.asyncPay, context.skipAsyncPay with
    | some asyncPay, false => (session.publish asyncPay).park bundle
    | _, _ => bundle.publishes.foldl publish session
  else session

def delay (session : Session W) (bundle : Bundle) (context : DispatchContext) :
    Session W :=
  let due := session.now + sleepTime session.config.registerDelay
  { session with waiting := session.waiting ++ [{ due, bundle, context }] }

def publishPhase (session : Session W) (bundle : Bundle) (context : DispatchContext) :
    Session W :=
  if bundle.publishesNothing then session
  else
    match bundle.settlement, context.skipSettlement with
    | some settlement, false => (session.publish settlement).park bundle
    | _, _ =>
      match bundle.register with
      | some register => (session.publish register).delay bundle context
      | none => session.continuePublishing bundle context

def applyMessages (session : Session W) (bundle : Bundle) (context : DispatchContext) :
    Session W :=
  let session := session.given bundle.stateDelta applyDelta
  let session := session.applyDeletions bundle.deletions
  let (session, roundTrip) := session.recordPing bundle
  let session := session.given bundle.balanceMsat fun session millis =>
    session.notify (.balance (millis / 1000))
  let session :=
    session.deliverBatch bundle.messages (context.originatingTopic.getD "")
  bundle.messages.foldl (completePing (roundTrip <|> context.startedPing)) session

def applyNews (session : Session W) (bundle : Bundle) : Session W :=
  let session := session.given bundle.newTribe fun session tribe =>
    session.notify (.newTribe tribe)
  let session := session.given bundle.tribeMembers fun session members =>
    session.notify (.tribeMembers members)
  let session := session.given bundle.myContactInfo onMyContactInfo
  let session := session.given bundle.inviterContactInfo onInviterContactInfo
  let session := session.given bundle.newInvite onNewInvite
  let session := session.given bundle.msgsCounts onMsgsCounts
  let session := session.given bundle.msgsTotal fun session total =>
    session.notify (.msgsTotal total)
  let session := session.given bundle.lastRead fun session markers =>
    session.notify (.lastRead markers)
  session.given bundle.initialTribe onInitialTribe

def applyOutcomes (session : Session W) (bundle : Bundle) : Session W :=
  let session := session.given bundle.error onError
  let session := session.given bundle.sentStatus onSentStatus
  let session := session.given bundle.settledStatus onSettledStatus
  session.given bundle.asyncPayTag onAsyncPayTag

def applySettings (session : Session W) (bundle : Bundle) : Session W :=
  let session := session.given bundle.lspHost onLspHost
  let session := session.given bundle.muteLevels fun session levels =>
    session.notify (.muteLevels levels)
  let session := session.given bundle.payments fun session page =>
    session.notify (.payments page)
  let session := session.given bundle.paymentsTotal fun session total =>
    session.notify (.paymentsTotal total)
  let session := session.given bundle.tags fun session tags => session.notify (.tags tags)
  if bundle.subscriptionTopics.isEmpty then session
  else session.subscribe bundle.subscriptionTopics

def apply (session : Session W) (bundle : Bundle) (context : DispatchContext) :
    Session W :=
  if session.hasSession then
    let session := session.note (.applied bundle context)
    let session := (session.applyMessages bundle context).applyNews bundle
    let session := (session.applyOutcomes bundle).applySettings bundle
    session.publishPhase bundle context
  else session.report .noSession

end Session

end Messenger

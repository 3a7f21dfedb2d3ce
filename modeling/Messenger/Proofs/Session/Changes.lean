import Messenger.Proofs.Session.Link
import Messenger.Proofs.Session.Rows

/-!
What a session does comes to a sequence of small changes, each of one concern. Every function
of the session is taken apart here once, with the concerns that its changes may have; what a
change of some concern leaves as it is, a function without that concern leaves too.
-/

namespace Messenger

/-- What a change of a session is about. -/
inductive Concern where
  | news
  | messages
  | userState
  | tracking
  | confirming
  | answering
  | dashboard
  | invite
  | errands
  | broker
  | settling
  | parking
  | publishing
  | subscribing
  | calling
  | accepting
  | following
  | cancelling
  | opening
  | promising
  | linking
  | inbox
  | waking
  deriving DecidableEq

/-- What neither calls the core nor bears on the user state, and leaves it to bundles to take
the restore on. -/
def Concern.isQuiet : Concern → Bool
  | .userState => false
  | .calling => false
  | .following => false
  | .cancelling => false
  | _ => true

/-- Listeners are told of it, and nothing is kept of it. -/
def Event.isNews : Event → Bool
  | .connection _ => false
  | .mixerChanged _ => false
  | .userStateChanged _ => false
  | .messageIndex _ => false
  | _ => true

/-- What listeners are told of messages. -/
def Callback.delivers : Callback → Bool
  | .upsertTribes _ => true
  | .upsertContacts _ => true
  | .deliver _ => true
  | .event (.messageIndex _) => true
  | .event _ => false

/-- What is put on the agenda besides bundles, restores and confirmations. -/
def Work.isErrand : Work → Bool
  | .bootstrap _ => true
  | .call .readMarkers => true
  | .call .muteLevels => true
  | _ => false

/-- The state after the delta of a bundle, if it has one that can be read, and then after
its deletions. -/
def UserState.absorb (state : UserState) (bundle : Bundle) : UserState :=
  let merged := match bundle.stateDelta with
    | none => state
    | some delta => (state.applyDelta delta).1
  merged.removeKeys bundle.deletions

namespace Session

variable {W : Type}

/-- The first thing that applying a bundle does. -/
def absorb (session : Session W) (bundle : Bundle) (context : DispatchContext) :
    Session W :=
  ((session.note (.applied bundle context)).given bundle.stateDelta applyDelta).applyDeletions
    bundle.deletions

/-- Another user state, with something to tell. -/
def withUserState (session : Session W) (userState : UserState) (callbacks : List Callback) :
    Session W :=
  { session with
    owner := { session.owner with userState }
    listeners := session.listeners.map (· ++ callbacks)
    journal := session.journal ++ callbacks.map .told }

theorem withUserState_same (session : Session W) :
    session.withUserState session.owner.userState [] = session := by
  simp [withUserState]

theorem withUserState_twice (session : Session W) (first second : UserState)
    (early late : List Callback) :
    (session.withUserState first early).withUserState second late =
      session.withUserState second (early ++ late) := by
  simp [withUserState]

theorem applyDelta_eq (session : Session W) (delta : Bytes) :
    ∃ callbacks, session.applyDelta delta =
      session.withUserState (session.owner.userState.applyDelta delta).1 callbacks := by
  unfold applyDelta
  rcases session.owner.userState.applyDelta delta with ⟨userState, count | fault⟩
  · exact ⟨[_], rfl⟩
  · exact ⟨[_], rfl⟩

theorem applyDeletions_eq (session : Session W) (deletions : List String) :
    ∃ callbacks, session.applyDeletions deletions =
      session.withUserState (session.owner.userState.removeKeys deletions) callbacks := by
  unfold applyDeletions
  split
  · rename_i none
    rw [List.isEmpty_iff.mp none]
    exact ⟨[], session.withUserState_same.symm⟩
  · exact ⟨[_], rfl⟩

theorem absorb_eq (session : Session W) (bundle : Bundle) (context : DispatchContext) :
    ∃ callbacks, session.absorb bundle context =
      (session.note (.applied bundle context)).withUserState
        (session.owner.userState.absorb bundle) callbacks := by
  unfold absorb UserState.absorb
  cases bundle.stateDelta with
  | none => exact applyDeletions_eq _ _
  | some delta =>
      obtain ⟨early, merged⟩ := (session.note (.applied bundle context)).applyDelta_eq delta
      rw [given_some, merged]
      obtain ⟨late, deleted⟩ := applyDeletions_eq _ bundle.deletions
      exact ⟨early ++ late, deleted.trans (withUserState_twice _ _ _ _ _)⟩

/-- Once the index of messages is raised, the owner knows of all of them. -/
theorem known_raiseMessageIndex (session : Session W) (messages : List Message) :
    ∀ highest ∈ Message.highestIndex? messages,
      (session.raiseMessageIndex messages).owner.messageLastIndex.any (highest ≤ ·) =
        true := by
  intro highest brought
  unfold raiseMessageIndex
  rw [Option.mem_def.mp brought]
  dsimp only
  split
  · rename_i known
    exact known
  · exact decide_eq_true (UInt64.le_refl highest)

/-- What the core sees of a session when it is called. -/
def contextAt (session : Session W) (account : Account) (time : UInt64) : CoreContext where
  seed := account.seed
  uniqueTime := time
  userState := session.owner.userState.toCoreBytes
  displayName := session.owner.displayName
  avatar := session.owner.avatar

/-- A time is drawn from the clock, at a reading of the wall. -/
def drawn (session : Session W) (wall : UInt64) (outside : W) : Session W :=
  { session with outside, clock := session.clock.tick wall }.note
    (.stamped wall (session.clock.next wall))

/-- The core is called for an account, at a time that is drawn for the call. -/
def asked (session : Session W) (account : Account) (call : CoreCall)
    (answer : Except String Bundle) (wall : UInt64) (outside : W) : Session W :=
  (session.drawn wall outside).note
    (.called (session.contextAt account (session.clock.next wall)) call answer)

variable [Surroundings W]

/-- One small change. -/
inductive Change : Session W → Concern → Session W → Prop where
  | notify (session : Session W) {event : Event} (news : event.isNews = true) :
      Change session .news (session.notify event)
  | shown (session : Session W) {callback : Callback} (delivers : callback.delivers = true) :
      Change session .messages (session.tell callback)
  | raiseIndex (session : Session W) {index : UInt64}
      (higher : session.owner.messageLastIndex.any (index ≤ ·) = false) :
      Change session .messages
        { session with owner := { session.owner with messageLastIndex := some index } }
  | setUserState (session : Session W) (userState : UserState) :
      Change session .userState (session.setUserState userState)
  | track (session : Session W) (key : String) (timestamp : UInt64) :
      Change session .tracking
        { session with liveness := session.liveness.record key timestamp }
  | complete (session : Session W) {key : String} {timestamp : UInt64} {liveness : Liveness}
      (tracked : session.liveness.complete key = (some timestamp, liveness)) :
      Change session .confirming
        ({ session with liveness }.enqueue (.call (.pingDone timestamp)))
  | counted (session : Session W) (counts : Counts) :
      Change session .answering (session.advanceRestore (session.restore.onCounts counts))
  /-- The owner's index is raised before the restore machine sees the messages. -/
  | paged (session : Session W) (messages : List Message) (topic : String)
      (known : ∀ highest ∈ Message.highestIndex? messages,
        session.owner.messageLastIndex.any (highest ≤ ·) = true) :
      Change session .answering
        (session.advanceRestore (session.restore.onBatch messages topic))
  | display (session : Session W) (dashboard : Dashboard)
      (invite : dashboard.inFlightInvite = session.dashboard.inFlightInvite) :
      Change session .dashboard { session with dashboard }
  | carryInvite (session : Session W) (inFlightInvite : Option Invite) :
      Change session .invite
        { session with dashboard := { session.dashboard with inFlightInvite } }
  | errand (session : Session W) {work : Work} (isErrand : work.isErrand = true) :
      Change session .errands (session.enqueue work)
  | rehost (session : Session W) (host : String) :
      Change session .broker (session.onLspHost host)
  | release (session : Session W) (key : SettlementKey) (context : DispatchContext) :
      Change session .settling (session.release key context)
  | park (session : Session W) (bundle : Bundle) :
      Change session .parking (session.park bundle)
  | delay (session : Session W) (bundle : Bundle) (context : DispatchContext) :
      Change session .parking (session.delay bundle context)
  | publish (session : Session W) (publish : Publish) :
      Change session .publishing (session.publish publish)
  | subscribe (session : Session W) (topics : List String) :
      Change session .subscribing (session.subscribe topics)
  | ask (session : Session W) {account : Account} (call : CoreCall)
      (answer : Except String Bundle) (wall : UInt64) (outside : W)
      (lives : session.account = some account) :
      Change session .calling (session.asked account call answer wall outside)
  | accept (session : Session W) (bundle : Bundle) (context : DispatchContext) :
      Change session .accepting (session.accept bundle context)
  | enterRestore (session : Session W) (restoring resumePaging : Bool) :
      Change session .following (session.enterRestore restoring resumePaging)
  | cancelRestore (session : Session W) : Change session .cancelling session.cancelRestore
  | supply (session : Session W) (outside : W) (lastOpening : Option OpeningParams)
      (pendingRestore : Option Mnemonic) :
      Change session .opening { session with outside, lastOpening, pendingRestore }
  | promise (session : Session W) :
      Change session .promising (session.lastly (.connection .connected))
  | link {first last : Session W} (link : LinkOnly first last) : Change first .linking last
  | arrive (session : Session W) (topic : String) (payload : Bytes) :
      Change session .inbox (session.enqueue (.inbound topic payload))
  | wake (session : Session W) {first : Waiting} {waiting : List Waiting}
      (next : session.waiting = first :: waiting) :
      Change session .waking ({ session with waiting }.note (.woken first))

/-- A sequence of changes of these concerns. -/
def Changes (concerns : List Concern) : Session W → Session W → Prop :=
  Relation.ReflTransGen fun first last => ∃ concern ∈ concerns, Change first concern last

namespace Changes

variable {concerns others : List Concern} {first middle last : Session W}

theorem one {concern : Concern} (change : Change first concern last) :
    Changes [concern] first last :=
  Relation.ReflTransGen.single ⟨concern, List.mem_singleton_self concern, change⟩

theorem refl (concerns : List Concern) (session : Session W) :
    Changes concerns session session :=
  Relation.ReflTransGen.refl

theorem trans (start : Changes concerns first middle) (rest : Changes concerns middle last) :
    Changes concerns first last :=
  Relation.ReflTransGen.trans start rest

theorem widen (changes : Changes concerns first last) (among : concerns ⊆ others) :
    Changes others first last := by
  refine Relation.ReflTransGen.mono ?_ first last changes
  rintro first last ⟨concern, member, change⟩
  exact ⟨concern, among member, change⟩

theorem andThen (start : Changes concerns first middle) (rest : Changes others middle last) :
    Changes (concerns ++ others) first last :=
  (start.widen (List.subset_append_left _ _)).trans
    (rest.widen (List.subset_append_right _ _))

/-- What each change leads on to, their sequence leads on to. -/
theorem lift (leads : Session W → Session W → Prop) (refl : ∀ session, leads session session)
    (trans : ∀ {first middle last}, leads first middle → leads middle last → leads first last)
    (each : ∀ {concern : Concern} {first last : Session W}, concern ∈ concerns →
      Change first concern last → leads first last)
    (changes : Changes concerns first last) : leads first last := by
  induction changes with
  | refl => exact refl first
  | tail _ change induction =>
      obtain ⟨concern, member, change⟩ := change
      exact trans induction (each member change)

/-- What each change leaves as it is, their sequence leaves as it is. -/
theorem keep {α : Type} (part : Session W → α)
    (each : ∀ {concern : Concern} {first last : Session W}, concern ∈ concerns →
      Change first concern last → part last = part first)
    (changes : Changes concerns first last) : part last = part first :=
  changes.lift (fun first last => part last = part first) (fun _ => rfl)
    (fun start rest => rest.trans start) each

theorem given {α : Type} {act : Session W → α → Session W} (session : Session W)
    (field : Option α)
    (changes : ∀ session value, Changes concerns session (act session value)) :
    Changes concerns session (session.given field act) := by
  cases field with
  | none => exact refl concerns session
  | some value => exact changes session value

theorem foldl {α : Type} {act : Session W → α → Session W}
    (changes : ∀ session value, Changes concerns session (act session value))
    (values : List α) (session : Session W) :
    Changes concerns session (values.foldl act session) := by
  induction values generalizing session with
  | nil => exact refl concerns session
  | cons value rest induction => exact (changes session value).trans (induction _)

theorem notify (session : Session W) {event : Event} (news : event.isNews = true) :
    Changes [.news] session (session.notify event) :=
  one (.notify session news)

theorem report (session : Session W) (error : SessionError) :
    Changes [.news] session (session.report error) :=
  notify session rfl

theorem reported (result : Session W × Except SessionError Unit) :
    Changes [.news] result.1 (Session.reported result).1 := by
  obtain ⟨session, outcome⟩ := result
  cases outcome with
  | ok _ => exact refl _ session
  | error error => exact report session error

theorem givenNews {α : Type} (session : Session W) (field : Option α) (event : α → Event)
    (news : ∀ value, (event value).isNews = true) :
    Changes [.news] session
      (session.given field fun session value => session.notify (event value)) :=
  given session field fun session value => notify session (news value)

theorem tellGroup (session : Session W) (group : List Message)
    {callback : List Message → Callback} (delivers : (callback group).delivers = true) :
    Changes [.messages] session (session.tellGroup group callback) := by
  unfold Session.tellGroup
  split
  · exact refl _ session
  · exact one (.shown session delivers)

theorem raiseMessageIndex (session : Session W) (messages : List Message) :
    Changes [.messages] session (session.raiseMessageIndex messages) := by
  unfold Session.raiseMessageIndex
  split
  · exact refl _ session
  · split
    · exact refl _ session
    · rename_i lower
      exact (one (.raiseIndex session (Bool.eq_false_iff.mpr lower))).trans
        (one (.shown _ rfl))

theorem deliverBatch (session : Session W) (messages : List Message) (topic : String) :
    Changes [.messages, .answering] session (session.deliverBatch messages topic) := by
  unfold Session.deliverBatch
  split
  · split
    · exact (one (.paged session [] topic nofun)).widen (by decide)
    · exact refl _ session
  · extract_lets tribes contacts delivered
    have grouped : Changes [.messages] session contacts :=
      (tellGroup session _ rfl).trans (tellGroup _ _ rfl)
    have told : Changes [.messages] contacts (contacts.deliverAll messages) :=
      foldl (fun session message => one (.shown session rfl)) messages contacts
    have raised : Changes [.messages] session delivered :=
      (grouped.trans told).trans (raiseMessageIndex _ messages)
    exact raised.andThen (one (.paged _ messages topic (known_raiseMessageIndex _ messages)))

theorem applyDelta (session : Session W) (delta : Bytes) :
    Changes [.news, .userState] session (session.applyDelta delta) := by
  rcases session.applyDelta_cases delta with ⟨fault, same⟩ | ⟨userState, same⟩
  · rw [same]
    exact (report session _).widen (by decide)
  · rw [same]
    exact (one (.setUserState session userState)).widen (by decide)

theorem applyDeletions (session : Session W) (deletions : List String) :
    Changes [.userState] session (session.applyDeletions deletions) := by
  unfold Session.applyDeletions
  split
  · exact refl _ session
  · exact one (.setUserState session _)

theorem recordPing (session : Session W) (bundle : Bundle) :
    Changes [.news, .tracking] session (session.recordPing bundle).1 := by
  unfold Session.recordPing
  split
  · exact refl _ session
  · exact (report session _).widen (by decide)
  · rename_i ping _
    have tags (tags : List String) (session : Session W) : Changes [.tracking] session
        { session with liveness := session.liveness.recordAll tags ping.timestamp } := by
      induction tags generalizing session with
      | nil => exact refl _ session
      | cons tag rest induction =>
          exact (one (.track session tag ping.timestamp)).trans (induction _)
    have tracked := (one (.track session ping.paymentHash ping.timestamp)).trans
      (tags bundle.messageTags _)
    exact tracked.widen (by decide)

theorem completeKey (session : Session W) (key : String) :
    Changes [.confirming] session (session.completeKey key) := by
  unfold Session.completeKey
  split
  · exact refl _ session
  · rename_i tracked
    exact one (.complete session tracked)

theorem completePing (started : Option UInt64) (session : Session W) (message : Message) :
    Changes [.confirming] session (Session.completePing started session message) := by
  unfold Session.completePing
  split
  · exact refl _ session
  · split
    · exact refl _ session
    · split
      · exact refl _ session
      · exact completeKey session _

theorem onMyContactInfo (session : Session W) (raw : String) :
    Changes [.news] session (session.onMyContactInfo raw) := by
  unfold Session.onMyContactInfo
  split
  · exact report session _
  · exact notify session rfl

theorem welcome (session : Session W) (inviter : Contact) :
    Changes [.dashboard, .news] session (session.welcome inviter) :=
  (one (.display session { session.dashboard with pendingInviter := some inviter } rfl)).andThen
    (notify _ (rfl : (Event.pendingInviter inviter).isNews = true))

theorem onInviterContactInfo (session : Session W) (raw : String) :
    Changes [.dashboard, .news, .errands] session (session.onInviterContactInfo raw) := by
  unfold Session.onInviterContactInfo
  split
  · exact (report session _).widen (by decide)
  · split
    · exact refl _ session
    · exact (welcome session _).andThen (one (.errand _ rfl))

theorem onMsgsCounts (session : Session W) (raw : String) :
    Changes [.news, .answering] session (session.onMsgsCounts raw) := by
  unfold Session.onMsgsCounts
  split
  · exact (report session _).widen (by decide)
  · rename_i counts _
    exact (notify session (rfl : (Event.msgsCounts counts).isNews = true)).andThen
      (one (.counted (session.notify _) counts))

theorem onInitialTribe (session : Session W) (tribe : String) :
    Changes [.dashboard, .news] session (session.onInitialTribe tribe) :=
  (one (.display session { session.dashboard with initialTribe := some tribe } rfl)).andThen
    (notify _ (rfl : (Event.initialTribe tribe).isNews = true))

theorem onError (session : Session W) (error : String) :
    Changes [.news, .confirming] session (session.onError error) := by
  unfold Session.onError
  split
  · exact (completeKey session _).widen (by decide)
  · exact (report session _).widen (by decide)

theorem onSentStatus (session : Session W) (raw : String) :
    Changes [.invite, .news] session (session.onSentStatus raw) := by
  unfold Session.onSentStatus
  split
  · exact (report session _).widen (by decide)
  · split
    · split
      · exact (one (.carryInvite session none)).andThen (notify _ rfl)
      · exact (notify session rfl).widen (by decide)
    · exact (notify session rfl).widen (by decide)

theorem onSettledStatus (session : Session W) (raw : String) :
    Changes [.news, .settling] session (session.onSettledStatus raw) := by
  unfold Session.onSettledStatus
  split
  · exact (report session _).widen (by decide)
  · split
    · exact (one (.release session _ _)).widen (by decide)
    · exact refl _ session

theorem continuePublishing (session : Session W) (bundle : Bundle)
    (context : DispatchContext) :
    Changes [.publishing, .parking] session (session.continuePublishing bundle context) := by
  unfold Session.continuePublishing
  split
  · split
    · exact (one (.publish session _)).andThen (one (.park _ bundle))
    · have all : Changes [.publishing] session (bundle.publishes.foldl Session.publish session) :=
        foldl (fun session publish => one (.publish session publish)) bundle.publishes session
      exact all.widen (by decide)
  · exact refl _ session

theorem publishPhase (session : Session W) (bundle : Bundle) (context : DispatchContext) :
    Changes [.publishing, .parking] session (session.publishPhase bundle context) := by
  unfold Session.publishPhase
  split
  · exact refl _ session
  · split
    · exact (one (.publish session _)).andThen (one (.park _ bundle))
    · split
      · exact (one (.publish session _)).andThen (one (.delay _ bundle context))
      · exact continuePublishing session bundle context

end Changes

end Session

/-- What a row may be about. -/
def Row.concerns : Row → List Concern
  | .stateDelta => [.news, .userState]
  | .deletions => [.userState]
  | .ping => [.news, .tracking]
  | .messages => [.messages, .answering]
  | .confirmations => [.confirming]
  | .inviterContactInfo => [.dashboard, .news, .errands]
  | .newInvite => [.invite]
  | .msgsCounts => [.news, .answering]
  | .initialTribe => [.dashboard, .news]
  | .error => [.news, .confirming]
  | .sentStatus => [.invite, .news]
  | .settledStatus => [.news, .settling]
  | .asyncPayTag => [.settling]
  | .lspHost => [.broker]
  | .subscriptions => [.subscribing]
  | .publishes => [.publishing, .parking]
  | _ => [.news]

namespace Session

variable {W : Type} [Surroundings W]

namespace Changes

theorem applyRow (session : Session W) (bundle : Bundle) (context : DispatchContext)
    (row : Row) : Changes row.concerns session (session.applyRow bundle context row) := by
  cases row with
  | stateDelta => exact given session _ applyDelta
  | deletions => exact applyDeletions session _
  | ping => exact recordPing session bundle
  | balance => exact givenNews session _ _ fun _ => rfl
  | messages => exact deliverBatch session _ _
  | confirmations => exact foldl (completePing _) _ session
  | newTribe => exact givenNews session _ _ fun _ => rfl
  | tribeMembers => exact givenNews session _ _ fun _ => rfl
  | myContactInfo => exact given session _ onMyContactInfo
  | inviterContactInfo => exact given session _ onInviterContactInfo
  | newInvite => exact given session _ fun session invite => one (.carryInvite session _)
  | msgsCounts => exact given session _ onMsgsCounts
  | msgsTotal => exact givenNews session _ _ fun _ => rfl
  | lastRead => exact givenNews session _ _ fun _ => rfl
  | initialTribe => exact given session _ onInitialTribe
  | error => exact given session _ onError
  | sentStatus => exact given session _ onSentStatus
  | settledStatus => exact given session _ onSettledStatus
  | asyncPayTag => exact given session _ fun session tag => one (.release session _ _)
  | lspHost => exact given session _ fun session host => one (.rehost session host)
  | muteLevels => exact givenNews session _ _ fun _ => rfl
  | payments => exact givenNews session _ _ fun _ => rfl
  | paymentsTotal => exact givenNews session _ _ fun _ => rfl
  | tags => exact givenNews session _ _ fun _ => rfl
  | subscriptions =>
      unfold Session.applyRow
      dsimp only
      split
      · exact refl _ session
      · exact one (.subscribe session _)
  | publishes => exact publishPhase session bundle context

theorem applyRows (session : Session W) (bundle : Bundle) (context : DispatchContext)
    (rows : List Row) :
    Changes (rows.flatMap Row.concerns) session (session.applyRows bundle context rows) := by
  induction rows generalizing session with
  | nil => exact refl _ session
  | cons row rest induction =>
      exact (applyRow session bundle context row).andThen (induction _)

/-- A live session applies a bundle row by row. -/
theorem apply {session : Session W} (live : session.hasSession = true) (bundle : Bundle)
    (context : DispatchContext) :
    Changes (Row.all.flatMap Row.concerns) (session.note (.applied bundle context))
      (session.apply bundle context) := by
  rw [apply_eq_applyRows live]
  exact applyRows _ bundle context Row.all

/-- Once the user state is taken over, nothing changes it any more. -/
theorem applyAbsorbed {session : Session W} (live : session.hasSession = true)
    (bundle : Bundle) (context : DispatchContext) :
    Changes ((Row.all.drop 2).flatMap Row.concerns) (session.absorb bundle context)
      (session.apply bundle context) := by
  rw [apply_eq_applyRows live]
  exact applyRows (session.absorb bundle context) bundle context (Row.all.drop 2)

end Changes

end Session

end Messenger

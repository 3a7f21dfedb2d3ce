import Messenger.Proofs.Session.Activities
import Messenger.Proofs.Session.Following

/-!
The outbox of a session is what decides which publishes it attempts: the bundles that are
ready to be applied, parked or delayed, whether an account is live, and what happened to
bundles before. Whatever else a session does leaves the outbox as it is.
-/

namespace Messenger

/-- What a journal tells about bundles. -/
inductive Happening where
  | received (bundle : Bundle) (context : DispatchContext) (live : Bool)
  | applied (bundle : Bundle) (context : DispatchContext)
  | attempted (publish : Publish) (time : Nat)
  | opened
  | closed
  deriving DecidableEq

def Entry.happening? : Entry → Option Happening
  | .received bundle context live => some (.received bundle context live)
  | .applied bundle context => some (.applied bundle context)
  | .published publish time _ => some (.attempted publish time)
  | .opened _ _ => some .opened
  | .disconnected => some .closed
  | _ => none

theorem Entry.happening?_of_ofLink {entry : Entry} (ofLink : entry.ofLink = true) :
    entry.happening? = none := by
  cases entry with
  | opened account owner => cases ofLink
  | disconnected => cases ofLink
  | received bundle context live => cases ofLink
  | applied bundle context => cases ofLink
  | published publish time outcome => cases ofLink
  | _ => rfl

def Work.dispatch? : Work → Option (Bundle × DispatchContext)
  | .dispatch bundle context => some (bundle, context)
  | _ => none

theorem Work.dispatch?_of_isErrand {work : Work} (isErrand : work.isErrand = true) :
    work.dispatch? = none := by
  cases work with
  | dispatch bundle context => cases isErrand
  | _ => rfl

namespace Bundle

def settledIndex? (bundle : Bundle) : Option String :=
  bundle.settledStatus.bind fun raw =>
    match SettledStatus.parse raw with
    | .error _ => none
    | .ok status => if status.isComplete then some status.htlcId else none

/-- The keys that the bundle confirms, and how what they release is to be applied. -/
def confirmations (bundle : Bundle) : List (SettlementKey × DispatchContext) :=
  (bundle.settledIndex?.map fun index => (.index index, .settled)).toList ++
    (bundle.asyncPayTag.map fun tag => (.tag tag, .asyncPaid)).toList

end Bundle

structure Outbox where
  ready : List (Bundle × DispatchContext)
  parked : SettlementQueue
  delayed : List Waiting
  live : Bool
  now : Nat
  pause : Nat
  history : List Happening

namespace Outbox

def note (outbox : Outbox) (happening : Happening) : Outbox :=
  { outbox with history := outbox.history ++ [happening] }

def accept (outbox : Outbox) (bundle : Bundle) (context : DispatchContext) : Outbox :=
  { outbox.note (.received bundle context outbox.live) with
    ready := outbox.ready ++ [(bundle, context)] }

def attempt (outbox : Outbox) (publish : Publish) : Outbox :=
  outbox.note (.attempted publish outbox.now)

def release (outbox : Outbox) (key : SettlementKey) (context : DispatchContext) :
    Outbox :=
  match outbox.parked.take key with
  | (none, parked) => { outbox with parked }
  | (some bundle, parked) =>
    { outbox with parked, ready := outbox.ready ++ [(bundle, context)] }

/-- A key releases the oldest bundle that it names; the others that it names are dropped. -/
theorem release_cases (outbox : Outbox) (key : SettlementKey) (context : DispatchContext) :
    ((∀ bundle ∈ outbox.parked.pending, key.names bundle = false) ∧
      outbox.release key context = { outbox with parked := (outbox.parked.take key).2 }) ∨
    ∃ released ∈ outbox.parked.pending, key.names released = true ∧
      outbox.release key context =
        { outbox with
          parked := (outbox.parked.take key).2
          ready := outbox.ready ++ [(released, context)] } := by
  cases found : outbox.parked.pending.find? key.names with
  | none =>
      left
      constructor
      · intro bundle member
        simpa using List.find?_eq_none.mp found bundle member
      · simp [release, SettlementQueue.take, found]
  | some released =>
      right
      refine ⟨released, List.mem_of_find?_eq_some found, List.find?_some found, ?_⟩
      simp [release, SettlementQueue.take, found]

@[simp] theorem release_history (outbox : Outbox) (key : SettlementKey)
    (context : DispatchContext) :
    (outbox.release key context).history = outbox.history := by
  unfold release
  split <;> rfl

def confirm (outbox : Outbox) (bundle : Bundle) : Outbox :=
  bundle.confirmations.foldl
    (fun outbox confirmation => outbox.release confirmation.1 confirmation.2) outbox

def park (outbox : Outbox) (bundle : Bundle) : Outbox :=
  { outbox with parked := outbox.parked.enqueue bundle }

def delay (outbox : Outbox) (bundle : Bundle) (context : DispatchContext) : Outbox :=
  { outbox with
    delayed := outbox.delayed ++ [{ due := outbox.now + outbox.pause, bundle, context }] }

def continuePublishing (outbox : Outbox) (bundle : Bundle) (context : DispatchContext) :
    Outbox :=
  if outbox.live then
    match bundle.asyncPay, context.skipAsyncPay with
    | some asyncPay, false => (outbox.attempt asyncPay).park bundle
    | _, _ => bundle.publishes.foldl attempt outbox
  else outbox

def publishPhase (outbox : Outbox) (bundle : Bundle) (context : DispatchContext) :
    Outbox :=
  if bundle.publishesNothing then outbox
  else
    match bundle.settlement, context.skipSettlement with
    | some settlement, false => (outbox.attempt settlement).park bundle
    | _, _ =>
      match bundle.register with
      | some register => (outbox.attempt register).delay bundle context
      | none => outbox.continuePublishing bundle context

def apply (outbox : Outbox) (bundle : Bundle) (context : DispatchContext) : Outbox :=
  if outbox.live then
    ((outbox.note (.applied bundle context)).confirm bundle).publishPhase bundle context
  else outbox

def opened (outbox : Outbox) : Outbox :=
  { outbox.note .opened with live := true }

def closed (outbox : Outbox) : Outbox :=
  { outbox.note .closed with live := false, parked := ∅ }

/-- What can happen to an outbox. It is opened and closed only while nothing is ready. -/
inductive Step : Outbox → Outbox → Prop where
  | accept (outbox : Outbox) (bundle : Bundle) (context : DispatchContext) :
      Step outbox (outbox.accept bundle context)
  | apply (outbox : Outbox) {bundle : Bundle} {context : DispatchContext}
      {ready : List (Bundle × DispatchContext)}
      (first : outbox.ready = (bundle, context) :: ready) :
      Step outbox ({ outbox with ready }.apply bundle context)
  | wake (outbox : Outbox) {waiting : Waiting} {delayed : List Waiting}
      (first : outbox.delayed = waiting :: delayed) (due : waiting.due ≤ outbox.now) :
      Step outbox
        ({ outbox with delayed }.continuePublishing waiting.bundle waiting.context)
  | opened (outbox : Outbox) (done : outbox.ready = []) : Step outbox outbox.opened
  | closed (outbox : Outbox) (done : outbox.ready = []) : Step outbox outbox.closed
  | pass (outbox : Outbox) (millis : Nat) :
      Step outbox { outbox with now := outbox.now + millis }

abbrev Steps : Outbox → Outbox → Prop :=
  Relation.ReflTransGen Step

theorem Steps.one {first last : Outbox} (step : Step first last) : Steps first last :=
  Relation.ReflTransGen.single step

end Outbox

namespace Session

variable {W : Type}

def history (session : Session W) : List Happening :=
  session.journal.filterMap Entry.happening?

def outbox (session : Session W) : Outbox where
  ready := session.agenda.filterMap Work.dispatch?
  parked := session.settlements
  delayed := session.waiting
  live := session.hasSession
  now := session.now
  pause := sleepTime session.config.registerDelay
  history := session.history

theorem outbox_note (session : Session W) (entry : Entry) :
    (session.note entry).outbox =
      { session.outbox with
        history := session.outbox.history ++ entry.happening?.toList } := by
  cases happens : entry.happening? <;> simp [outbox, history, note, happens, hasSession]

theorem outbox_note_quiet {entry : Entry} (session : Session W)
    (quiet : entry.happening? = none) : (session.note entry).outbox = session.outbox := by
  rw [outbox_note, quiet, Option.toList_none, List.append_nil]

theorem outbox_tell (session : Session W) (callback : Callback) :
    (session.tell callback).outbox = session.outbox :=
  outbox_note_quiet { session with listeners := session.listeners.map (· ++ [callback]) } rfl

theorem outbox_notify (session : Session W) (event : Event) :
    (session.notify event).outbox = session.outbox :=
  outbox_tell session _

theorem outbox_report (session : Session W) (error : SessionError) :
    (session.report error).outbox = session.outbox :=
  outbox_tell session _

theorem outbox_enqueue (session : Session W) (work : Work) :
    (session.enqueue work).outbox =
      { session.outbox with ready := session.outbox.ready ++ work.dispatch?.toList } := by
  cases dispatch : work.dispatch? <;> simp [outbox, history, enqueue, dispatch, hasSession]

theorem outbox_enqueue_quiet {work : Work} (session : Session W)
    (quiet : work.dispatch? = none) : (session.enqueue work).outbox = session.outbox := by
  rw [outbox_enqueue, quiet, Option.toList_none, List.append_nil]

theorem outbox_endRestore (session : Session W) :
    session.endRestore.outbox = session.outbox := by
  simp [outbox, history, endRestore, hasSession]

theorem outbox_follow (session : Session W) (action : RestoreAction) :
    (session.follow action).outbox = session.outbox := by
  have call (call : CoreCall) : (session.enqueue (.call call)).outbox = session.outbox :=
    outbox_enqueue_quiet session rfl
  cases action <;> simp [follow, call, outbox_notify, outbox_endRestore]

theorem outbox_advanceRestore (session : Session W)
    (step : RestoreMachine × List RestoreAction) :
    (session.advanceRestore step).outbox = session.outbox := by
  have follows (actions : List RestoreAction) (session : Session W) :
      (session.followAll actions).outbox = session.outbox := by
    induction actions generalizing session with
    | nil => rfl
    | cons action rest induction => exact (induction _).trans (outbox_follow session action)
  exact follows step.2 { session with restore := step.1 }

theorem outbox_enterRestore (session : Session W) (restoring resumePaging : Bool) :
    (session.enterRestore restoring resumePaging).outbox = session.outbox := by
  obtain ⟨step, entered, -, -⟩ := session.enterRestore_eq restoring resumePaging
  rw [entered, outbox_advanceRestore]

theorem outbox_cancelRestore (session : Session W) :
    session.cancelRestore.outbox = session.outbox := by
  unfold cancelRestore
  split
  · rfl
  · exact (outbox_advanceRestore _ _).trans (outbox_endRestore session)

theorem outbox_onLspHost (session : Session W) (host : String) :
    (session.onLspHost host).outbox = session.outbox := by
  rw [onLspHost, outbox_notify]
  simp [outbox, history, hasSession]

theorem outbox_accept (session : Session W) (bundle : Bundle) (context : DispatchContext) :
    (session.accept bundle context).outbox = session.outbox.accept bundle context := by
  rw [accept, outbox_enqueue, outbox_note]
  rfl

theorem outbox_release (session : Session W) (key : SettlementKey)
    (context : DispatchContext) :
    (session.release key context).outbox = session.outbox.release key context := by
  unfold release Outbox.release
  rw [show session.outbox.parked = session.settlements from rfl]
  rcases session.settlements.take key with ⟨none | bundle, settlements⟩
  · rfl
  · exact outbox_enqueue { session with settlements } (.dispatch bundle context)

theorem outbox_given_onSettledStatus (session : Session W) (bundle : Bundle) :
    (session.given bundle.settledStatus onSettledStatus).outbox =
      (bundle.settledIndex?.map fun index =>
        (SettlementKey.index index, DispatchContext.settled)).toList.foldl
        (fun outbox confirmation => outbox.release confirmation.1 confirmation.2)
        session.outbox := by
  rw [Bundle.settledIndex?]
  cases bundle.settledStatus with
  | none => rfl
  | some raw =>
      rw [given_some, onSettledStatus, Option.bind_some]
      rcases SettledStatus.parse raw with fault | status
      · exact outbox_report session _
      · cases complete : status.isComplete with
        | false => simp [complete]
        | true => simp [complete, outbox_release]

theorem outbox_given_onAsyncPayTag (session : Session W) (bundle : Bundle) :
    (session.given bundle.asyncPayTag onAsyncPayTag).outbox =
      (bundle.asyncPayTag.map fun tag =>
        (SettlementKey.tag tag, DispatchContext.asyncPaid)).toList.foldl
        (fun outbox confirmation => outbox.release confirmation.1 confirmation.2)
        session.outbox := by
  cases bundle.asyncPayTag with
  | none => rfl
  | some tag => exact outbox_release session _ _

variable [Surroundings W] {concern : Concern} {concerns : List Concern} {first last : Session W}

theorem outbox_link (link : LinkOnly first last) : last.outbox = first.outbox := by
  obtain ⟨more, grown, ofLink⟩ := link.journal
  have unhappened : more.filterMap Entry.happening? = [] :=
    List.filterMap_eq_nil_iff.mpr fun entry member =>
      Entry.happening?_of_ofLink (ofLink entry member)
  have history : last.history = first.history := by
    rw [history, grown, List.filterMap_append, unhappened, List.append_nil]
    rfl
  calc
    last.outbox = { first.outbox with history := last.history } := by
      rw [link.rest]
      rfl
    _ = first.outbox := by rw [history]; rfl

theorem outbox_publish (session : Session W) (publish : Publish) :
    (session.publish publish).outbox = session.outbox.attempt publish := by
  rw [outbox_link (.publish session publish), sent, outbox_note]
  rfl

/-- Only taking bundles in, releasing, parking, delaying and publishing bear on the outbox. -/
theorem outbox_of_change
    (other : concern ∉ [.settling, .parking, .publishing, .accepting, .waking])
    (change : Change first concern last) : last.outbox = first.outbox := by
  cases change with
  | notify news => exact outbox_tell first _
  | shown delivers => exact outbox_tell first _
  | setUserState userState => exact outbox_tell _ _
  | complete tracked => exact outbox_enqueue_quiet _ rfl
  | counted counts => exact outbox_advanceRestore first _
  | paged messages topic known => exact outbox_advanceRestore first _
  | errand isErrand => exact outbox_enqueue_quiet first (Work.dispatch?_of_isErrand isErrand)
  | rehost host => exact outbox_onLspHost first host
  | release key context => exact absurd (by decide) other
  | park bundle => exact absurd (by decide) other
  | delay bundle context => exact absurd (by decide) other
  | publish publish => exact absurd (by decide) other
  | subscribe topics => exact outbox_link (.subscribe first topics)
  | ask call answer wall outside lives =>
      exact (outbox_note_quiet _ rfl).trans (outbox_note_quiet _ rfl)
  | accept bundle context => exact absurd (by decide) other
  | enterRestore restoring resumePaging => exact outbox_enterRestore first restoring resumePaging
  | cancelRestore => exact outbox_cancelRestore first
  | link link => exact outbox_link link
  | arrive topic payload => exact outbox_enqueue_quiet first rfl
  | wake next => exact absurd (by decide) other
  | _ => rfl

theorem outbox_of_changes
    (others : ∀ concern ∈ concerns,
      concern ∉ [.settling, .parking, .publishing, .accepting, .waking])
    (changes : Changes concerns first last) : last.outbox = first.outbox :=
  changes.keep outbox fun member => outbox_of_change (others _ member)

theorem outbox_reported (result : Session W × Except SessionError Unit) :
    (reported result).1.outbox = result.1.outbox :=
  outbox_of_changes (by decide) (.reported result)

theorem outbox_runCall (session : Session W) (call : CoreCall) :
    (session.runCall call).1.outbox = session.outbox :=
  outbox_of_changes (by decide) (.of_runCall rfl)

theorem outbox_continuePublishing (session : Session W) (bundle : Bundle)
    (context : DispatchContext) :
    (session.continuePublishing bundle context).outbox =
      session.outbox.continuePublishing bundle context := by
  have publishAll (publishes : List Publish) (session : Session W) :
      (publishes.foldl publish session).outbox =
        publishes.foldl Outbox.attempt session.outbox := by
    induction publishes generalizing session with
    | nil => rfl
    | cons publish rest induction =>
        rw [List.foldl_cons, induction, outbox_publish, List.foldl_cons]
  unfold continuePublishing Outbox.continuePublishing
  rw [show session.outbox.live = session.hasSession from rfl]
  split
  · have all := publishAll bundle.publishes session
    cases bundle.asyncPay with
    | none => exact all
    | some asyncPay =>
        cases context.skipAsyncPay with
        | false => exact congrArg (Outbox.park · bundle) (outbox_publish session asyncPay)
        | true => exact all
  · rfl

theorem outbox_publishPhase (session : Session W) (bundle : Bundle)
    (context : DispatchContext) :
    (session.publishPhase bundle context).outbox =
      session.outbox.publishPhase bundle context := by
  unfold publishPhase Outbox.publishPhase
  split
  · rfl
  · have rest :
        (match bundle.register with
        | some register => (session.publish register).delay bundle context
        | none => session.continuePublishing bundle context).outbox =
          match bundle.register with
          | some register => (session.outbox.attempt register).delay bundle context
          | none => session.outbox.continuePublishing bundle context := by
      cases bundle.register with
      | none => exact outbox_continuePublishing session bundle context
      | some register =>
          exact congrArg (Outbox.delay · bundle context) (outbox_publish session register)
    cases bundle.settlement with
    | none => exact rest
    | some settlement =>
        cases context.skipSettlement with
        | false => exact congrArg (Outbox.park · bundle) (outbox_publish session settlement)
        | true => exact rest

/-- Of what a bundle does only its confirmations and its publishes reach the outbox. -/
theorem outbox_apply (session : Session W) (bundle : Bundle) (context : DispatchContext) :
    (session.apply bundle context).outbox = session.outbox.apply bundle context := by
  cases live : session.hasSession with
  | true =>
      have rows : Row.all = Row.all.take 17 ++ .settledStatus :: .asyncPayTag ::
        ((Row.all.drop 19).take 6 ++ [.publishes]) := rfl
      have before := outbox_of_changes (by decide)
        (.applyRows (session.note (.applied bundle context)) bundle context (Row.all.take 17))
      rw [apply_eq_applyRows live, rows, applyRows_append, applyRows_cons, applyRows_cons,
        applyRows_append]
      generalize (session.note (.applied bundle context)).applyRows bundle context
        (Row.all.take 17) = start at before ⊢
      have confirmed : ((start.applyRow bundle context .settledStatus).applyRow bundle context
          .asyncPayTag).outbox = start.outbox.confirm bundle := by
        rw [Outbox.confirm, Bundle.confirmations, List.foldl_append,
          ← outbox_given_onSettledStatus start bundle]
        exact outbox_given_onAsyncPayTag _ bundle
      rw [applyRows_cons, applyRows_nil]
      change (Session.publishPhase _ bundle context).outbox = _
      have opened : session.outbox.live = true := live
      rw [outbox_publishPhase, outbox_of_changes (by decide)
        (.applyRows _ bundle context ((Row.all.drop 19).take 6)), confirmed, before, outbox_note,
        Outbox.apply, if_pos opened]
      rfl
  | false =>
      rw [apply_closed live, Outbox.apply, if_neg (by simp [outbox, live])]
      exact outbox_report session _

end Session

end Messenger

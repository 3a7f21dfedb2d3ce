import Mathlib.Data.List.Forall2
import Messenger.Proofs.Session.Rows
import Messenger.Session.Run

/-!
Two sessions that hold the same but for copies of bundles. What a session does never
depends on what it told and noted before, nor on the bundles that it holds for later, as
long as it does not take one up. So two such sessions go on alike: they do the same, tell
the same and note the same.
-/

namespace Messenger

variable {copy : Bundle → Bundle → Prop}

inductive Work.Twin (copy : Bundle → Bundle → Prop) : Work → Work → Prop where
  | dispatch {first second : Bundle} (context : DispatchContext)
      (copies : copy first second) :
      Twin copy (.dispatch first context) (.dispatch second context)
  | call (call : CoreCall) : Twin copy (.call call) (.call call)
  | inbound (topic : String) (payload : Bytes) :
      Twin copy (.inbound topic payload) (.inbound topic payload)
  | bootstrap (resumePaging : Bool) :
      Twin copy (.bootstrap resumePaging) (.bootstrap resumePaging)

structure Waiting.Twin (copy : Bundle → Bundle → Prop) (first second : Waiting) : Prop where
  due : second.due = first.due
  bundle : copy first.bundle second.bundle
  context : second.context = first.context

theorem Work.Twin.refl (same : ∀ bundle, copy bundle bundle) (work : Work) :
    work.Twin copy work := by
  cases work with
  | dispatch bundle context => exact .dispatch context (same bundle)
  | call call => exact .call call
  | inbound topic payload => exact .inbound topic payload
  | bootstrap resumePaging => exact .bootstrap resumePaging

def Entry.callback? : Entry → Option Callback
  | .told callback => some callback
  | _ => none

/-- What listeners hear of the entries. -/
def heard (entries : List Entry) : List Callback :=
  entries.filterMap Entry.callback?

/-- Copies that differ at most in the fields that have to be read. -/
structure Faithful (copy : Bundle → Bundle → Prop) : Prop where
  same : ∀ bundle, copy bundle bundle
  without : ∀ {first second : Bundle}, copy first second →
    ∃ fields, second = first.without fields

namespace Session

variable {W : Type} {first second firstMiddle secondMiddle firstLast secondLast : Session W}

/-- The journal goes on, and every listener hears what is told. -/
structure Grows (more : List Entry) (first last : Session W) : Prop where
  journal : last.journal = first.journal ++ more
  listeners : last.listeners = first.listeners.map (· ++ heard more)

namespace Grows

variable {more early late : List Entry} {middle last : Session W}

theorem of_same (journal : last.journal = first.journal)
    (listeners : last.listeners = first.listeners) : Grows [] first last := by
  constructor
  case journal => rw [journal, List.append_nil]
  case listeners => simp [listeners, heard]

theorem trans (start : Grows early first middle) (rest : Grows late middle last) :
    Grows (early ++ late) first last := by
  constructor
  case journal => rw [rest.journal, start.journal, List.append_assoc]
  case listeners => simp [rest.listeners, start.listeners, heard]

theorem tell (session : Session W) (callback : Callback) :
    Grows [.told callback] session (session.tell callback) :=
  ⟨rfl, rfl⟩

theorem noting {entry : Entry} (untold : entry.callback? = none)
    (journal : last.journal = first.journal ++ [entry])
    (listeners : last.listeners = first.listeners) : Grows [entry] first last := by
  refine ⟨journal, ?_⟩
  simp [listeners, heard, untold]

theorem note (session : Session W) {entry : Entry} (untold : entry.callback? = none) :
    Grows [entry] session (session.note entry) :=
  noting untold rfl rfl

end Grows

/-- The same session, but for copies of bundles, and for what was told and noted. -/
inductive Twins (copy : Bundle → Bundle → Prop) : Session W → Session W → Prop where
  | mk (session : Session W) {agenda : List Work} {pending : List Bundle}
      {waiting : List Waiting} (listeners : List (List Callback)) (journal : List Entry)
      (agendas : List.Forall₂ (Work.Twin copy) session.agenda agenda)
      (parked : List.Forall₂ copy session.settlements.pending pending)
      (delayed : List.Forall₂ (Waiting.Twin copy) session.waiting waiting) :
      Twins copy session
        { session with agenda, settlements := ⟨pending⟩, waiting, listeners, journal }

/-- Two sessions go on alike. -/
structure Alongside (copy : Bundle → Bundle → Prop)
    (first second firstLast secondLast : Session W) : Prop where
  twins : Twins copy firstLast secondLast
  grows : ∃ more, Grows more first firstLast ∧ Grows more second secondLast

namespace Alongside

theorem still (twins : Twins copy firstLast secondLast)
    (first_still : firstLast.journal = first.journal ∧
      firstLast.listeners = first.listeners)
    (second_still : secondLast.journal = second.journal ∧
      secondLast.listeners = second.listeners) :
    Alongside copy first second firstLast secondLast :=
  ⟨twins, [], .of_same first_still.1 first_still.2, .of_same second_still.1 second_still.2⟩

theorem refl (twins : Twins copy first second) : Alongside copy first second first second :=
  still twins ⟨rfl, rfl⟩ ⟨rfl, rfl⟩

theorem trans (start : Alongside copy first second firstMiddle secondMiddle)
    (rest : Alongside copy firstMiddle secondMiddle firstLast secondLast) :
    Alongside copy first second firstLast secondLast := by
  obtain ⟨early, firstEarly, secondEarly⟩ := start.grows
  obtain ⟨late, firstLate, secondLate⟩ := rest.grows
  exact ⟨rest.twins, early ++ late, firstEarly.trans firstLate,
    secondEarly.trans secondLate⟩

theorem andThen (start : Alongside copy first second firstMiddle secondMiddle)
    (rest : Twins copy firstMiddle secondMiddle →
      Alongside copy firstMiddle secondMiddle firstLast secondLast) :
    Alongside copy first second firstLast secondLast :=
  start.trans (rest start.twins)

end Alongside

namespace Twins

theorem of_journal (same : ∀ bundle, copy bundle bundle) (session : Session W)
    (journal : List Entry) : Twins copy session { session with journal } := by
  refine .mk session session.listeners journal ?_ ?_ ?_
  · exact List.forall₂_same.mpr fun work _ => .refl same work
  · exact List.forall₂_same.mpr fun bundle _ => same bundle
  · exact List.forall₂_same.mpr fun waiting _ => ⟨rfl, same waiting.bundle, rfl⟩

theorem refl (same : ∀ bundle, copy bundle bundle) (session : Session W) :
    Twins copy session session :=
  of_journal same session session.journal

theorem config (twins : Twins copy first second) : second.config = first.config := by
  cases twins; rfl

theorem outside (twins : Twins copy first second) : second.outside = first.outside := by
  cases twins; rfl

theorem account (twins : Twins copy first second) : second.account = first.account := by
  cases twins; rfl

theorem hasSession (twins : Twins copy first second) :
    second.hasSession = first.hasSession := by
  cases twins; rfl

theorem owner (twins : Twins copy first second) : second.owner = first.owner := by
  cases twins; rfl

theorem liveness (twins : Twins copy first second) : second.liveness = first.liveness := by
  cases twins; rfl

theorem restore (twins : Twins copy first second) : second.restore = first.restore := by
  cases twins; rfl

theorem dashboard (twins : Twins copy first second) :
    second.dashboard = first.dashboard := by
  cases twins; rfl

theorem farewell (twins : Twins copy first second) : second.farewell = first.farewell := by
  cases twins; rfl

theorem now (twins : Twins copy first second) : second.now = first.now := by
  cases twins; rfl

theorem clock (twins : Twins copy first second) : second.clock = first.clock := by
  cases twins; rfl

theorem generation (twins : Twins copy first second) :
    second.generation = first.generation := by
  cases twins; rfl

theorem reconnectSpent (twins : Twins copy first second) :
    second.reconnectSpent = first.reconnectSpent := by
  cases twins; rfl

theorem agenda (twins : Twins copy first second) :
    List.Forall₂ (Work.Twin copy) first.agenda second.agenda := by
  cases twins; assumption

theorem waiting (twins : Twins copy first second) :
    List.Forall₂ (Waiting.Twin copy) first.waiting second.waiting := by
  cases twins; assumption

theorem isIdle (twins : Twins copy first second) : second.isIdle = first.isIdle := by
  have agendas := twins.agenda
  rw [Session.isIdle, Session.isIdle, twins.farewell]
  generalize first.agenda = agenda at agendas
  generalize second.agenda = other at agendas
  cases agendas <;> rfl

/-- What is noted does not matter to what follows. -/
theorem noted (twins : Twins copy first second) (entry other : Entry) :
    Twins copy (first.note entry) (second.note other) := by
  cases twins with
  | mk listeners journal agendas parked delayed =>
      exact .mk (first.note entry) _ _ agendas parked delayed

theorem note (twins : Twins copy first second) (entry : Entry)
    (untold : entry.callback? = none) :
    Alongside copy first second (first.note entry) (second.note entry) :=
  ⟨twins.noted entry entry, [entry], .note first untold, .note second untold⟩

/-- Nor does what listeners are told. -/
theorem told (twins : Twins copy first second) (callback : Callback) :
    Twins copy (first.tell callback) second := by
  cases twins with
  | mk listeners journal agendas parked delayed =>
      exact .mk (first.tell callback) _ _ agendas parked delayed

theorem tell (twins : Twins copy first second) (callback : Callback) :
    Alongside copy first second (first.tell callback) (second.tell callback) := by
  refine ⟨?_, [.told callback], .tell first callback, .tell second callback⟩
  cases twins with
  | mk listeners journal agendas parked delayed =>
      exact .mk (first.tell callback) _ _ agendas parked delayed

theorem notify (twins : Twins copy first second) (event : Event) :
    Alongside copy first second (first.notify event) (second.notify event) :=
  twins.tell _

theorem report (twins : Twins copy first second) (error : SessionError) :
    Alongside copy first second (first.report error) (second.report error) :=
  twins.notify _

theorem enqueue_twin (twins : Twins copy first second) {work other : Work}
    (twin : work.Twin copy other) :
    Alongside copy first second (first.enqueue work) (second.enqueue other) := by
  refine .still ?_ ⟨rfl, rfl⟩ ⟨rfl, rfl⟩
  cases twins with
  | mk listeners journal agendas parked delayed =>
      exact .mk (first.enqueue work) _ _ (List.rel_append agendas (.cons twin .nil)) parked
        delayed

theorem given {α : Type} (twins : Twins copy first second) (field : Option α)
    {act : Session W → α → Session W}
    (next : ∀ {first second : Session W} (value : α), Twins copy first second →
      Alongside copy first second (act first value) (act second value)) :
    Alongside copy first second (first.given field act) (second.given field act) := by
  cases field with
  | none => exact .refl twins
  | some value => exact next value twins

theorem notifyGiven {α : Type} (twins : Twins copy first second) (field : Option α)
    (event : α → Event) :
    Alongside copy first second
      (first.given field fun session value => session.notify (event value))
      (second.given field fun session value => session.notify (event value)) :=
  twins.given field fun value twins => twins.notify (event value)

theorem foldl {α : Type} (twins : Twins copy first second) (values : List α)
    {act : Session W → α → Session W}
    (next : ∀ {first second : Session W} (value : α), Twins copy first second →
      Alongside copy first second (act first value) (act second value)) :
    Alongside copy first second (values.foldl act first) (values.foldl act second) := by
  induction values generalizing first second with
  | nil => exact .refl twins
  | cons value rest induction =>
      exact (next value twins).andThen fun twins => induction twins

theorem withOwner (twins : Twins copy first second) (owner : Owner) :
    Alongside copy first second { first with owner } { second with owner } := by
  refine .still ?_ ⟨rfl, rfl⟩ ⟨rfl, rfl⟩
  cases twins with
  | mk listeners journal agendas parked delayed =>
      exact .mk { first with owner } _ _ agendas parked delayed

theorem withLiveness (twins : Twins copy first second) (liveness : Liveness) :
    Alongside copy first second { first with liveness } { second with liveness } := by
  refine .still ?_ ⟨rfl, rfl⟩ ⟨rfl, rfl⟩
  cases twins with
  | mk listeners journal agendas parked delayed =>
      exact .mk { first with liveness } _ _ agendas parked delayed

theorem withDashboard (twins : Twins copy first second) (dashboard : Dashboard) :
    Alongside copy first second { first with dashboard } { second with dashboard } := by
  refine .still ?_ ⟨rfl, rfl⟩ ⟨rfl, rfl⟩
  cases twins with
  | mk listeners journal agendas parked delayed =>
      exact .mk { first with dashboard } _ _ agendas parked delayed

theorem withRestore (twins : Twins copy first second) (restore : RestoreMachine) :
    Alongside copy first second { first with restore } { second with restore } := by
  refine .still ?_ ⟨rfl, rfl⟩ ⟨rfl, rfl⟩
  cases twins with
  | mk listeners journal agendas parked delayed =>
      exact .mk { first with restore } _ _ agendas parked delayed

theorem withAccount (twins : Twins copy first second) (account : Option Account) :
    Alongside copy first second { first with account } { second with account } := by
  refine .still ?_ ⟨rfl, rfl⟩ ⟨rfl, rfl⟩
  cases twins with
  | mk listeners journal agendas parked delayed =>
      exact .mk { first with account } _ _ agendas parked delayed

theorem withOutside (twins : Twins copy first second) (outside : W) :
    Alongside copy first second { first with outside } { second with outside } := by
  refine .still ?_ ⟨rfl, rfl⟩ ⟨rfl, rfl⟩
  cases twins with
  | mk listeners journal agendas parked delayed =>
      exact .mk { first with outside } _ _ agendas parked delayed

theorem withClock (twins : Twins copy first second) (clock : UniqueClock) :
    Alongside copy first second { first with clock } { second with clock } := by
  refine .still ?_ ⟨rfl, rfl⟩ ⟨rfl, rfl⟩
  cases twins with
  | mk listeners journal agendas parked delayed =>
      exact .mk { first with clock } _ _ agendas parked delayed

theorem withGeneration (twins : Twins copy first second) (generation : Nat) :
    Alongside copy first second { first with generation } { second with generation } := by
  refine .still ?_ ⟨rfl, rfl⟩ ⟨rfl, rfl⟩
  cases twins with
  | mk listeners journal agendas parked delayed =>
      exact .mk { first with generation } _ _ agendas parked delayed

theorem withReconnect (twins : Twins copy first second)
    (reconnectSpent bootstrapped : Bool) :
    Alongside copy first second { first with reconnectSpent, bootstrapped }
      { second with reconnectSpent, bootstrapped } := by
  refine .still ?_ ⟨rfl, rfl⟩ ⟨rfl, rfl⟩
  cases twins with
  | mk listeners journal agendas parked delayed =>
      exact .mk { first with reconnectSpent, bootstrapped } _ _ agendas parked delayed

theorem withNow (twins : Twins copy first second) (now : Nat) :
    Alongside copy first second { first with now } { second with now } := by
  refine .still ?_ ⟨rfl, rfl⟩ ⟨rfl, rfl⟩
  cases twins with
  | mk listeners journal agendas parked delayed =>
      exact .mk { first with now } _ _ agendas parked delayed

theorem withFarewell (twins : Twins copy first second) (farewell : List Event) :
    Alongside copy first second { first with farewell } { second with farewell } := by
  refine .still ?_ ⟨rfl, rfl⟩ ⟨rfl, rfl⟩
  cases twins with
  | mk listeners journal agendas parked delayed =>
      exact .mk { first with farewell } _ _ agendas parked delayed

theorem withAgendas (twins : Twins copy first second) {agenda other : List Work}
    (agendas : List.Forall₂ (Work.Twin copy) agenda other) :
    Alongside copy first second { first with agenda } { second with agenda := other } := by
  refine .still ?_ ⟨rfl, rfl⟩ ⟨rfl, rfl⟩
  cases twins with
  | mk listeners journal _ parked delayed =>
      exact .mk { first with agenda } _ _ agendas parked delayed

theorem withWaitings (twins : Twins copy first second) {waiting other : List Waiting}
    (delayed : List.Forall₂ (Waiting.Twin copy) waiting other) :
    Alongside copy first second { first with waiting } { second with waiting := other } := by
  refine .still ?_ ⟨rfl, rfl⟩ ⟨rfl, rfl⟩
  cases twins with
  | mk listeners journal agendas parked _ =>
      exact .mk { first with waiting } _ _ agendas parked delayed

theorem endRestore (twins : Twins copy first second) :
    Alongside copy first second first.endRestore second.endRestore := by
  unfold Session.endRestore
  rw [twins.account]
  exact twins.withAccount _

theorem follow (twins : Twins copy first second) (action : RestoreAction) :
    Alongside copy first second (first.follow action) (second.follow action) := by
  cases action with
  | fetchCounts => exact twins.enqueue_twin (.call _)
  | fetchContacts lastIndex limit => exact twins.enqueue_twin (.call _)
  | fetchMessages lastIndex limit reverse => exact twins.enqueue_twin (.call _)
  | fetchPings => exact twins.enqueue_twin (.call _)
  | fetchReadMarkers => exact twins.enqueue_twin (.call _)
  | fetchMuteLevels => exact twins.enqueue_twin (.call _)
  | markInvoicesPaid => exact twins.notify _
  | progress percent => exact twins.notify _
  | finished => exact twins.endRestore.andThen fun twins => twins.notify _
  | cancelled => exact twins.notify _
  | syncFinished => exact twins.notify _

theorem followAll (twins : Twins copy first second) (actions : List RestoreAction) :
    Alongside copy first second (first.followAll actions) (second.followAll actions) :=
  twins.foldl actions fun action twins => twins.follow action

theorem advanceRestore (twins : Twins copy first second)
    (step : RestoreMachine × List RestoreAction) :
    Alongside copy first second (first.advanceRestore step) (second.advanceRestore step) :=
  (twins.withRestore step.1).andThen fun twins => twins.followAll step.2

theorem enterRestore (twins : Twins copy first second) (restoring resumePaging : Bool) :
    Alongside copy first second (first.enterRestore restoring resumePaging)
      (second.enterRestore restoring resumePaging) := by
  unfold Session.enterRestore
  rw [twins.restore, twins.owner]
  split
  · split
    · exact twins.followAll _
    · exact .refl twins
  · split
    · exact twins.advanceRestore _
    · exact twins.advanceRestore _

theorem tellGroup (twins : Twins copy first second) (group : List Message)
    (callback : List Message → Callback) :
    Alongside copy first second (first.tellGroup group callback)
      (second.tellGroup group callback) := by
  unfold Session.tellGroup
  split
  · exact .refl twins
  · exact twins.tell _

theorem raiseMessageIndex (twins : Twins copy first second) (messages : List Message) :
    Alongside copy first second (first.raiseMessageIndex messages)
      (second.raiseMessageIndex messages) := by
  unfold Session.raiseMessageIndex
  rw [twins.owner]
  split
  · exact .refl twins
  · split
    · exact .refl twins
    · exact (twins.withOwner _).andThen fun twins => twins.notify _

theorem deliverBatch (twins : Twins copy first second) (messages : List Message)
    (topic : String) :
    Alongside copy first second (first.deliverBatch messages topic)
      (second.deliverBatch messages topic) := by
  unfold Session.deliverBatch
  split
  · split
    · rw [twins.restore]
      exact twins.advanceRestore _
    · exact .refl twins
  · have tribes := twins.tellGroup (messages.filter Message.affectsTribe) .upsertTribes
    have grouped := tribes.andThen fun twins =>
      twins.tellGroup (messages.filter Message.affectsContact) .upsertContacts
    have delivered := grouped.andThen fun twins =>
      twins.foldl messages fun message twins => twins.tell (.deliver message)
    have raised := delivered.andThen fun twins => twins.raiseMessageIndex messages
    refine raised.andThen fun twins => ?_
    dsimp only [Session.deliverAll]
    rw [twins.restore]
    exact twins.advanceRestore _

theorem setUserState (twins : Twins copy first second) (userState : UserState) :
    Alongside copy first second (first.setUserState userState)
      (second.setUserState userState) := by
  unfold Session.setUserState
  rw [twins.owner]
  exact (twins.withOwner _).andThen fun twins => twins.notify _

theorem applyDelta (twins : Twins copy first second) (delta : Bytes) :
    Alongside copy first second (first.applyDelta delta) (second.applyDelta delta) := by
  unfold Session.applyDelta
  rw [twins.owner]
  split
  · exact twins.setUserState _
  · exact (twins.withOwner _).andThen fun twins => twins.report _

theorem applyDeletions (twins : Twins copy first second) (deletions : List String) :
    Alongside copy first second (first.applyDeletions deletions)
      (second.applyDeletions deletions) := by
  unfold Session.applyDeletions
  rw [twins.owner]
  split
  · exact .refl twins
  · exact twins.setUserState _

theorem recordPing (twins : Twins copy first second) (bundle : Bundle) :
    Alongside copy first second (first.recordPing bundle).1
      (second.recordPing bundle).1 := by
  unfold Session.recordPing
  rw [twins.liveness]
  split
  · exact .refl twins
  · exact twins.report _
  · exact twins.withLiveness _

theorem completeKey (twins : Twins copy first second) (key : String) :
    Alongside copy first second (first.completeKey key) (second.completeKey key) := by
  unfold Session.completeKey
  rw [twins.liveness]
  split
  · exact .refl twins
  · exact (twins.withLiveness _).andThen fun twins => twins.enqueue_twin (.call _)

theorem completePing (started : Option UInt64) (twins : Twins copy first second)
    (message : Message) :
    Alongside copy first second (Session.completePing started first message)
      (Session.completePing started second message) := by
  unfold Session.completePing
  rw [twins.liveness]
  split
  · exact .refl twins
  · split
    · exact .refl twins
    · split
      · exact .refl twins
      · exact twins.completeKey _

theorem onMyContactInfo (twins : Twins copy first second) (raw : String) :
    Alongside copy first second (first.onMyContactInfo raw) (second.onMyContactInfo raw) := by
  unfold Session.onMyContactInfo
  rw [twins.account, twins.config]
  split
  · exact twins.report _
  · exact twins.notify _

theorem onInviterContactInfo (twins : Twins copy first second) (raw : String) :
    Alongside copy first second (first.onInviterContactInfo raw)
      (second.onInviterContactInfo raw) := by
  unfold Session.onInviterContactInfo Session.welcome
  rw [twins.dashboard]
  split
  · exact twins.report _
  · split
    · exact .refl twins
    · exact ((twins.withDashboard _).andThen fun twins => twins.notify _).andThen
        fun twins => twins.enqueue_twin (.bootstrap false)

theorem onNewInvite (twins : Twins copy first second) (invite : Invite) :
    Alongside copy first second (first.onNewInvite invite) (second.onNewInvite invite) := by
  unfold Session.onNewInvite
  rw [twins.dashboard]
  exact twins.withDashboard _

theorem onMsgsCounts (twins : Twins copy first second) (raw : String) :
    Alongside copy first second (first.onMsgsCounts raw) (second.onMsgsCounts raw) := by
  unfold Session.onMsgsCounts
  rw [twins.restore]
  split
  · exact twins.report _
  · exact (twins.notify _).andThen fun twins => twins.advanceRestore _

theorem onInitialTribe (twins : Twins copy first second) (tribe : String) :
    Alongside copy first second (first.onInitialTribe tribe)
      (second.onInitialTribe tribe) := by
  unfold Session.onInitialTribe
  rw [twins.dashboard]
  exact (twins.withDashboard _).andThen fun twins => twins.notify _

theorem onError (twins : Twins copy first second) (error : String) :
    Alongside copy first second (first.onError error) (second.onError error) := by
  unfold Session.onError
  rw [twins.liveness]
  split
  · exact twins.completeKey _
  · exact twins.report _

theorem onSentStatus (twins : Twins copy first second) (raw : String) :
    Alongside copy first second (first.onSentStatus raw) (second.onSentStatus raw) := by
  unfold Session.onSentStatus
  rw [twins.dashboard]
  split
  · exact twins.report _
  · split
    · split
      · exact (twins.withDashboard _).andThen fun twins => twins.notify _
      · exact twins.notify _
    · exact twins.notify _

theorem onLspHost (twins : Twins copy first second) (host : String) :
    Alongside copy first second (first.onLspHost host) (second.onLspHost host) := by
  unfold Session.onLspHost
  rw [twins.account]
  exact (twins.withAccount _).andThen fun twins => twins.notify _

variable (faithful : Faithful copy)

include faithful in
theorem names_eq {first second : Bundle} (copies : copy first second) (key : SettlementKey) :
    key.names second = key.names first := by
  obtain ⟨fields, rfl⟩ := faithful.without copies
  cases key <;> rfl

include faithful in
/-- A key takes copies of the same bundles out of both queues. -/
theorem take_forall₂ {pending others : List Bundle} (parked : List.Forall₂ copy pending others)
    (key : SettlementKey) :
    Option.Rel copy (pending.find? key.names) (others.find? key.names) ∧
      List.Forall₂ copy (pending.filter fun bundle => !key.names bundle)
        (others.filter fun bundle => !key.names bundle) := by
  induction parked with
  | nil => exact ⟨.none, .nil⟩
  | @cons bundle other rest others copies _ induction =>
      have names := names_eq faithful copies key
      cases named : key.names bundle with
      | true =>
          rw [named] at names
          simp only [List.find?_cons, List.filter_cons, named, names, Bool.not_true,
            Bool.false_eq_true, if_false]
          exact ⟨.some copies, induction.2⟩
      | false =>
          rw [named] at names
          simp only [List.find?_cons, List.filter_cons, named, names, Bool.not_false, if_true]
          exact ⟨induction.1, .cons copies induction.2⟩

include faithful in
theorem take (twins : Twins copy first second) (key : SettlementKey) :
    Option.Rel copy (first.settlements.take key).1 (second.settlements.take key).1 ∧
      Alongside copy first second
        { first with settlements := (first.settlements.take key).2 }
        { second with settlements := (second.settlements.take key).2 } := by
  cases twins with
  | mk listeners journal agendas parked delayed =>
      obtain ⟨taken, left⟩ := take_forall₂ faithful parked key
      refine ⟨taken, .still ?_ ⟨rfl, rfl⟩ ⟨rfl, rfl⟩⟩
      exact .mk { first with settlements := (first.settlements.take key).2 } _ _ agendas left
        delayed

include faithful in
theorem release (twins : Twins copy first second) (key : SettlementKey)
    (context : DispatchContext) :
    Alongside copy first second (first.release key context)
      (second.release key context) := by
  obtain ⟨taken, left⟩ := twins.take faithful key
  unfold Session.release
  generalize first.settlements.take key = own at taken left
  generalize second.settlements.take key = other at taken left
  obtain ⟨oldest, settlements⟩ := own
  obtain ⟨otherOldest, others⟩ := other
  cases taken with
  | none => exact left
  | some copies => exact left.andThen fun twins => twins.enqueue_twin (.dispatch context copies)

include faithful in
theorem onSettledStatus (twins : Twins copy first second) (raw : String) :
    Alongside copy first second (first.onSettledStatus raw) (second.onSettledStatus raw) := by
  unfold Session.onSettledStatus
  split
  · exact twins.report _
  · split
    · exact twins.release faithful _ _
    · exact .refl twins

theorem park (twins : Twins copy first second) {bundle other : Bundle}
    (copies : copy bundle other) :
    Alongside copy first second (first.park bundle) (second.park other) := by
  refine .still ?_ ⟨rfl, rfl⟩ ⟨rfl, rfl⟩
  cases twins with
  | mk listeners journal agendas parked delayed =>
      exact .mk (first.park bundle) _ _ agendas
        (List.rel_append parked (.cons copies .nil)) delayed

theorem delay (twins : Twins copy first second) {bundle other : Bundle}
    (copies : copy bundle other) (context : DispatchContext) :
    Alongside copy first second (first.delay bundle context) (second.delay other context) := by
  refine .still ?_ ⟨rfl, rfl⟩ ⟨rfl, rfl⟩
  cases twins with
  | mk listeners journal agendas parked delayed =>
      exact .mk (first.delay bundle context) _ _ agendas parked
        (List.rel_append delayed (.cons ⟨rfl, copies, rfl⟩ .nil))

include faithful in
theorem accept (twins : Twins copy first second) (bundle : Bundle)
    (context : DispatchContext) :
    Alongside copy first second (first.accept bundle context)
      (second.accept bundle context) := by
  unfold Session.accept
  rw [twins.hasSession]
  exact (twins.note (.received bundle context first.hasSession) rfl).andThen fun twins =>
    twins.enqueue_twin (.dispatch context (faithful.same bundle))

variable [Surroundings W]

theorem uniqueTime (twins : Twins copy first second) :
    second.uniqueTime.2 = first.uniqueTime.2 ∧
      Alongside copy first second first.uniqueTime.1 second.uniqueTime.1 := by
  have ticked := (twins.withOutside first.uniqueTime.1.outside).andThen fun twins =>
    twins.withClock first.uniqueTime.1.clock
  have stamped := ticked.andThen fun twins =>
    twins.note (.stamped (Surroundings.wallMillis first.outside first.now).1
      first.uniqueTime.2) rfl
  have reading : Surroundings.wallMillis second.outside second.now =
      Surroundings.wallMillis first.outside first.now := by
    rw [twins.outside, twins.now]
  unfold Session.uniqueTime
  rw [reading, twins.clock]
  exact ⟨rfl, stamped⟩

theorem attempt (twins : Twins copy first second) (endpoint : Endpoint)
    (username password : String) :
    (second.attempt endpoint username password).2 =
        (first.attempt endpoint username password).2 ∧
      Alongside copy first second (first.attempt endpoint username password).1
        (second.attempt endpoint username password).1 := by
  have begun := ((twins.withOutside (first.randomBytes 8).1.outside).andThen
    fun twins => twins.withGeneration (first.generation + 1)).andThen
    fun twins => twins.notify (.connection .connecting)
  have connected := begun.andThen fun twins =>
    twins.withOutside (first.attempt endpoint username password).1.outside
  have attempted := connected.andThen fun twins =>
    twins.note (.attempted (first.generation + 1)
      { endpoint, username, password
        clientId := "switchboard_" ++ Hexadecimal.writeBytes (first.randomBytes 8).2
        keepAlive := first.config.keepAlive }) rfl
  have keepAlive : second.config.keepAlive = first.config.keepAlive := by
    rw [twins.config]
  unfold Session.attempt Session.randomBytes
  dsimp only
  rw [twins.outside, twins.generation, keepAlive]
  exact ⟨rfl, attempted⟩

theorem connect (twins : Twins copy first second) :
    second.connect.2 = first.connect.2 ∧
      Alongside copy first second first.connect.1 second.connect.1 := by
  unfold Session.connect
  rw [twins.account, twins.config]
  split
  · exact ⟨rfl, .refl twins⟩
  · rename_i account _
    split
    · exact ⟨rfl, .refl twins⟩
    · obtain ⟨time, timed⟩ := twins.uniqueTime
      have asked := timed.andThen fun twins =>
        twins.note (.keysAsked account.seed first.uniqueTime.2) rfl
      have signed : (second.uniqueTime.1.note (.keysAsked account.seed first.uniqueTime.2)
          ).credentials account first.uniqueTime.2 =
          (first.uniqueTime.1.note (.keysAsked account.seed first.uniqueTime.2)
          ).credentials account first.uniqueTime.2 := by
        unfold Session.credentials
        rw [asked.twins.outside]
      dsimp only
      rw [time, signed]
      split
      · exact ⟨rfl, asked⟩
      · obtain ⟨outcome, attempted⟩ := asked.twins.attempt _ _ _
        exact ⟨outcome, asked.trans attempted⟩

theorem reconnectOnce (twins : Twins copy first second) :
    Alongside copy first second first.reconnectOnce second.reconnectOnce := by
  unfold Session.reconnectOnce
  rw [twins.hasSession, twins.reconnectSpent]
  split
  · exact .refl twins
  · have begun := twins.withReconnect true false
    obtain ⟨outcome, connected⟩ := begun.twins.connect
    have tried := begun.trans connected
    generalize Session.connect { first with reconnectSpent := true, bootstrapped := false } =
      attempt at outcome tried
    generalize Session.connect { second with reconnectSpent := true, bootstrapped := false } =
      other at outcome tried
    obtain ⟨firstTried, result⟩ := attempt
    obtain ⟨secondTried, otherResult⟩ := other
    cases outcome
    cases result with
    | ok => exact tried
    | error error => exact tried.andThen fun twins => twins.report error

theorem linkFailed (twins : Twins copy first second) (error : SessionError) :
    Alongside copy first second (first.linkFailed error) (second.linkFailed error) :=
  (twins.report error).andThen fun twins => twins.reconnectOnce

theorem publish (twins : Twins copy first second) (publish : Publish) :
    Alongside copy first second (first.publish publish) (second.publish publish) := by
  have sent := (twins.withOutside (Surroundings.publish first.outside publish).2).andThen
    fun twins => twins.note (.published publish first.now
      (Surroundings.publish first.outside publish).1) rfl
  unfold Session.publish
  rw [twins.outside]
  dsimp only
  rw [twins.now] at sent ⊢
  split
  · exact sent
  · exact sent.andThen fun twins => twins.linkFailed _

theorem subscribe (twins : Twins copy first second) (topics : List String) :
    Alongside copy first second (first.subscribe topics) (second.subscribe topics) := by
  have asked := (twins.withOutside (Surroundings.subscribe first.outside topics).2).andThen
    fun twins => twins.note (.subscribed topics
      (Surroundings.subscribe first.outside topics).1) rfl
  unfold Session.subscribe
  rw [twins.outside]
  dsimp only
  split
  · exact asked
  · exact asked.andThen fun twins => twins.linkFailed _

theorem runCall (twins : Twins copy first second) (call : CoreCall) :
    (second.runCall call).2 = (first.runCall call).2 ∧
      Alongside copy first second (first.runCall call).1 (second.runCall call).1 := by
  unfold Session.runCall
  rw [twins.account]
  split
  · exact ⟨rfl, .refl twins⟩
  · rename_i account _
    obtain ⟨time, timed⟩ := twins.uniqueTime
    have owner := timed.twins.owner
    have userState := congrArg Owner.userState owner
    have displayName := congrArg Owner.displayName owner
    have avatar := congrArg Owner.avatar owner
    dsimp only
    rw [time, timed.twins.outside, userState, displayName, avatar]
    have answered (context : CoreContext) (answer : Except String Bundle) (outside : W) :=
      (timed.andThen fun twins => twins.withOutside outside).andThen fun twins =>
        twins.note (.called context call answer) rfl
    split
    · exact ⟨rfl, answered _ _ _⟩
    · exact ⟨rfl, answered _ _ _⟩

section Bundles

variable {bundle other : Bundle} {context : DispatchContext}

include faithful in
theorem continuePublishing (twins : Twins copy first second) (copies : copy bundle other) :
    Alongside copy first second (first.continuePublishing bundle context)
      (second.continuePublishing other context) := by
  obtain ⟨fields, cleaned⟩ := faithful.without copies
  have asyncPay : other.asyncPay = bundle.asyncPay := by rw [cleaned]; rfl
  have publishes : other.publishes = bundle.publishes := by rw [cleaned]; rfl
  unfold Session.continuePublishing
  rw [twins.hasSession, asyncPay, publishes]
  split
  · split
    · exact (twins.publish _).andThen fun twins => twins.park copies
    · exact twins.foldl bundle.publishes fun publish twins => twins.publish publish
  · exact .refl twins

include faithful in
theorem publishPhase (twins : Twins copy first second) (copies : copy bundle other) :
    Alongside copy first second (first.publishPhase bundle context)
      (second.publishPhase other context) := by
  obtain ⟨fields, cleaned⟩ := faithful.without copies
  have nothing : other.publishesNothing = bundle.publishesNothing := by rw [cleaned]; rfl
  have settlement : other.settlement = bundle.settlement := by rw [cleaned]; rfl
  have register : other.register = bundle.register := by rw [cleaned]; rfl
  unfold Session.publishPhase
  rw [nothing, settlement, register]
  split
  · exact .refl twins
  · split
    · exact (twins.publish _).andThen fun twins => twins.park copies
    · split
      · exact (twins.publish _).andThen fun twins => twins.delay copies context
      · exact twins.continuePublishing faithful copies

include faithful in
/-- Every row has the same effect on the two. -/
theorem applyRow (twins : Twins copy first second) (row : Row) :
    Alongside copy first second (first.applyRow bundle context row)
      (second.applyRow bundle context row) := by
  cases row with
  | stateDelta => exact twins.given _ fun delta twins => twins.applyDelta delta
  | deletions => exact twins.applyDeletions _
  | ping => exact twins.recordPing bundle
  | balance => exact twins.notifyGiven _ fun millis => .balance (millis / 1000)
  | messages => exact twins.deliverBatch _ _
  | confirmations => exact twins.foldl _ fun message twins => twins.completePing _ message
  | newTribe => exact twins.notifyGiven _ .newTribe
  | tribeMembers => exact twins.notifyGiven _ .tribeMembers
  | myContactInfo => exact twins.given _ fun raw twins => twins.onMyContactInfo raw
  | inviterContactInfo => exact twins.given _ fun raw twins => twins.onInviterContactInfo raw
  | newInvite => exact twins.given _ fun invite twins => twins.onNewInvite invite
  | msgsCounts => exact twins.given _ fun raw twins => twins.onMsgsCounts raw
  | msgsTotal => exact twins.notifyGiven _ .msgsTotal
  | lastRead => exact twins.notifyGiven _ .lastRead
  | initialTribe => exact twins.given _ fun tribe twins => twins.onInitialTribe tribe
  | error => exact twins.given _ fun error twins => twins.onError error
  | sentStatus => exact twins.given _ fun raw twins => twins.onSentStatus raw
  | settledStatus => exact twins.given _ fun raw twins => twins.onSettledStatus faithful raw
  | asyncPayTag => exact twins.given _ fun tag twins => twins.release faithful _ _
  | lspHost => exact twins.given _ fun host twins => twins.onLspHost host
  | muteLevels => exact twins.notifyGiven _ .muteLevels
  | payments => exact twins.notifyGiven _ .payments
  | paymentsTotal => exact twins.notifyGiven _ .paymentsTotal
  | tags => exact twins.notifyGiven _ .tags
  | subscriptions =>
      unfold Session.applyRow
      dsimp only
      split
      · exact .refl twins
      · exact twins.subscribe _
  | publishes => exact twins.publishPhase faithful (faithful.same bundle)

include faithful in
theorem apply (twins : Twins copy first second) (bundle : Bundle)
    (context : DispatchContext) :
    Alongside copy first second (first.apply bundle context)
      (second.apply bundle context) := by
  cases live : first.hasSession with
  | true =>
      rw [apply_eq_applyRows live, apply_eq_applyRows (twins.hasSession.trans live)]
      exact (twins.note (.applied bundle context) rfl).andThen fun twins =>
        twins.foldl Row.all fun row twins => twins.applyRow faithful row
  | false =>
      unfold Session.apply
      rw [twins.hasSession, live]
      exact twins.report .noSession

include faithful in
theorem callThenApply (twins : Twins copy first second) (call : CoreCall) :
    Alongside copy first second (first.callThenApply call context)
      (second.callThenApply call context) := by
  obtain ⟨outcome, called⟩ := twins.runCall call
  unfold Session.callThenApply
  generalize first.runCall call = own at outcome called
  generalize second.runCall call = mirrored at outcome called
  obtain ⟨_, result⟩ := own
  obtain ⟨_, _⟩ := mirrored
  cases outcome
  cases result with
  | ok answer => exact called.andThen fun twins => twins.accept faithful _ _
  | error error => exact called.andThen fun twins => twins.report error

include faithful in
theorem bootstrap (twins : Twins copy first second) (resumePaging : Bool) :
    Alongside copy first second (first.bootstrap resumePaging)
      (second.bootstrap resumePaging) := by
  unfold Session.bootstrap
  rw [twins.account, twins.config]
  split
  · exact twins.report _
  · rename_i account _
    obtain ⟨outcome, called⟩ :=
      twins.runCall (.initialSetup first.config.device account.inviteCode)
    generalize first.runCall (.initialSetup first.config.device account.inviteCode) = own
      at outcome called
    generalize second.runCall (.initialSetup first.config.device account.inviteCode) =
      mirrored at outcome called
    obtain ⟨_, result⟩ := own
    obtain ⟨_, _⟩ := mirrored
    cases outcome
    cases result with
    | ok answer =>
        exact (called.andThen fun twins => twins.accept faithful _ _).andThen fun twins =>
          twins.enterRestore _ _
    | error error => exact called.andThen fun twins => twins.report error

end Bundles

end Twins

end Session

end Messenger

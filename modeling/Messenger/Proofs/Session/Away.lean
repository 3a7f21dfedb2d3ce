import Messenger.Proofs.Session.Coherent
import Messenger.Proofs.Session.Twins

/-!
Most of what a session does is away from its connection: it neither opens nor closes nor
attempts one, tells no status, and leaves what the next attempt depends on as it is.
-/

namespace Messenger

namespace Account

/-- All that stays of an account when its restore comes to an end. -/
def enduring (account : Account) : Account :=
  { account with restoring := false }

end Account

def Callback.ofConnection : Callback → Bool
  | .event (.connection _) => true
  | .event (.mixerChanged _) => true
  | _ => false

namespace Entry

/-- What is noted of connections, of the accounts that they are made for, and of where the
broker is. -/
def ofConnection : Entry → Bool
  | .opened _ _ => true
  | .attempted _ _ => true
  | .disconnected => true
  | .told callback => callback.ofConnection
  | _ => false

end Entry

theorem heard_told (callbacks : List Callback) : heard (callbacks.map .told) = callbacks :=
  List.filterMap_map.trans List.filterMap_some

theorem RestoreAction.away_of_told {actions : List RestoreAction} :
    ∀ callback ∈ told actions, callback.ofConnection = false := by
  intro callback member
  obtain ⟨event, tells, rfl⟩ := List.mem_map.mp member
  obtain ⟨action, -, same⟩ := List.mem_filterMap.mp tells
  cases action <;> cases same <;> rfl

theorem Entry.unattempted_of_away {entry : Entry} (away : entry.ofConnection = false) :
    entry.attempt? = none ∧ entry.isOpening = false := by
  cases entry with
  | opened account owner => cases away
  | attempted generation options => cases away
  | _ => exact ⟨rfl, rfl⟩

theorem Event.away_of_isNews {event : Event} (news : event.isNews = true) :
    (Callback.event event).ofConnection = false := by
  cases event with
  | connection status => cases news
  | mixerChanged host => cases news
  | _ => rfl

theorem Callback.away_of_delivers {callback : Callback} (delivers : callback.delivers = true) :
    callback.ofConnection = false := by
  cases callback with
  | event event =>
      cases event with
      | messageIndex index => rfl
      | _ => cases delivers
  | _ => rfl

namespace Session

variable {W : Type}

/-- The session with all but its connection taken from another one. -/
def withAffairsOf (session other : Session W) : Session W :=
  { other with
    config := session.config
    lastOpening := session.lastOpening
    connected := session.connected
    generation := session.generation
    farewell := session.farewell }

/-- A step that is away from the connection. -/
structure Away (first last : Session W) : Prop where
  rest : last = first.withAffairsOf last
  account : last.account.map Account.enduring = first.account.map Account.enduring
  spent : first.reconnectSpent = true → last.reconnectSpent = true
  grows : ∃ more, Grows more first last ∧ ∀ entry ∈ more, entry.ofConnection = false

namespace Away

variable {first middle last : Session W}

theorem config (away : Away first last) : last.config = first.config :=
  (congrArg Session.config away.rest :)

theorem lastOpening (away : Away first last) : last.lastOpening = first.lastOpening :=
  (congrArg Session.lastOpening away.rest :)

theorem connected (away : Away first last) : last.connected = first.connected :=
  (congrArg Session.connected away.rest :)

theorem generation (away : Away first last) : last.generation = first.generation :=
  (congrArg Session.generation away.rest :)

theorem farewell (away : Away first last) : last.farewell = first.farewell :=
  (congrArg Session.farewell away.rest :)

theorem trans (start : Away first middle) (rest : Away middle last) : Away first last := by
  obtain ⟨early, earlyGrows, earlyAway⟩ := start.grows
  obtain ⟨late, lateGrows, lateAway⟩ := rest.grows
  constructor
  case rest =>
    calc
      last = middle.withAffairsOf last := rest.rest
      _ = (first.withAffairsOf middle).withAffairsOf last := by rw [← start.rest]
      _ = first.withAffairsOf last := rfl
  case account => exact rest.account.trans start.account
  case spent => exact rest.spent ∘ start.spent
  case grows =>
    refine ⟨early ++ late, earlyGrows.trans lateGrows, fun entry member => ?_⟩
    exact (List.mem_append.mp member).elim (earlyAway entry) (lateAway entry)

/-- Nothing is told or noted. -/
theorem of_silent (rest : last = first.withAffairsOf last)
    (account : last.account.map Account.enduring = first.account.map Account.enduring)
    (spent : first.reconnectSpent = true → last.reconnectSpent = true)
    (journal : last.journal = first.journal) (listeners : last.listeners = first.listeners) :
    Away first last :=
  ⟨rest, account, spent, [], .of_same journal listeners, List.forall_mem_nil _⟩

theorem refl (session : Session W) : Away session session :=
  of_silent rfl rfl id rfl rfl

theorem tell (session : Session W) {callback : Callback}
    (away : callback.ofConnection = false) : Away session (session.tell callback) :=
  ⟨rfl, rfl, id, _, .tell session callback, List.forall_mem_singleton.mpr away⟩

theorem report (session : Session W) (error : SessionError) :
    Away session (session.report error) :=
  tell session rfl

theorem note (session : Session W) {entry : Entry} (untold : entry.callback? = none)
    (away : entry.ofConnection = false) : Away session (session.note entry) :=
  ⟨rfl, rfl, id, _, .note session untold, List.forall_mem_singleton.mpr away⟩

theorem enqueue (session : Session W) (work : Work) : Away session (session.enqueue work) :=
  of_silent rfl rfl id rfl rfl

theorem accept (session : Session W) (bundle : Bundle) (context : DispatchContext) :
    Away session (session.accept bundle context) :=
  (note session rfl rfl).trans (enqueue _ _)

theorem enduring_endRestore (session : Session W) :
    session.endRestore.account.map Account.enduring =
      session.account.map Account.enduring := by
  unfold endRestore
  cases session.account <;> rfl

theorem endRestore (session : Session W) : Away session session.endRestore :=
  of_silent rfl (enduring_endRestore session) id rfl rfl

theorem advanceRestore (session : Session W) (step : RestoreMachine × List RestoreAction) :
    Away session (session.advanceRestore step) := by
  rw [advanceRestore_eq]
  constructor
  case rest => rfl
  case account =>
    change (session.accountAfter step.2).map Account.enduring = _
    unfold accountAfter
    split
    · exact enduring_endRestore session
    · rfl
  case spent => exact id
  case grows =>
    refine ⟨(RestoreAction.told step.2).map .told, ⟨rfl, ?_⟩, fun entry member => ?_⟩
    · rw [heard_told]
    · obtain ⟨callback, tells, rfl⟩ := List.mem_map.mp member
      exact RestoreAction.away_of_told callback tells

theorem cancelRestore (session : Session W) : Away session session.cancelRestore := by
  unfold Session.cancelRestore
  split
  · exact refl session
  · exact (endRestore session).trans (advanceRestore _ _)

theorem enterRestore (session : Session W) (restoring resumePaging : Bool) :
    Away session (session.enterRestore restoring resumePaging) := by
  obtain ⟨step, entered, -, -⟩ := session.enterRestore_eq restoring resumePaging
  exact entered ▸ advanceRestore session step

theorem release (session : Session W) (key : SettlementKey) (context : DispatchContext) :
    Away session (session.release key context) := by
  unfold Session.release
  split
  · exact of_silent rfl rfl id rfl rfl
  · exact of_silent rfl rfl id rfl rfl

theorem withOutside (session : Session W) (outside : W) :
    Away session { session with outside } :=
  of_silent rfl rfl id rfl rfl

theorem spendReconnect (session : Session W) :
    Away session { session with reconnectSpent := true, bootstrapped := false } :=
  of_silent rfl rfl (fun _ => rfl) rfl rfl

theorem drawn (session : Session W) (wall : UInt64) (outside : W) :
    Away session (session.drawn wall outside) := by
  have ticked : Away session { session with outside, clock := session.clock.tick wall } :=
    of_silent rfl rfl id rfl rfl
  exact ticked.trans (note _ rfl rfl)

variable [Surroundings W] {concern : Concern} {concerns : List Concern}

theorem uniqueTime (session : Session W) : Away session session.uniqueTime.1 :=
  drawn session _ _

/-- Only the broker's address, what goes to it, and what openings and attempts depend on are of
the connection. -/
theorem of_change
    (other : concern ∉ [.broker, .publishing, .subscribing, .opening, .promising, .linking])
    (change : Change first concern last) : Away first last := by
  cases change with
  | notify news => exact tell first (Event.away_of_isNews news)
  | shown delivers => exact tell first (Callback.away_of_delivers delivers)
  | setUserState userState =>
      have owned : Away first { first with owner := { first.owner with userState } } :=
        of_silent rfl rfl id rfl rfl
      exact owned.trans (tell _ rfl)
  | counted counts => exact advanceRestore first _
  | paged messages topic known => exact advanceRestore first _
  | rehost host => exact absurd (by decide) other
  | release key context => exact release first key context
  | publish publish => exact absurd (by decide) other
  | subscribe topics => exact absurd (by decide) other
  | ask call answer wall outside lives => exact (drawn first wall outside).trans (note _ rfl rfl)
  | accept bundle context => exact accept first bundle context
  | enterRestore restoring resumePaging => exact enterRestore first restoring resumePaging
  | cancelRestore => exact cancelRestore first
  | supply outside lastOpening pendingRestore => exact absurd (by decide) other
  | promise => exact absurd (by decide) other
  | link link => exact absurd (by decide) other
  | wake next =>
      rename_i woken waiting
      have taken : Away first { first with waiting } := of_silent rfl rfl id rfl rfl
      exact taken.trans (note _ rfl rfl)
  | _ => exact of_silent rfl rfl id rfl rfl

theorem of_changes
    (others : ∀ concern ∈ concerns,
      concern ∉ [.broker, .publishing, .subscribing, .opening, .promising, .linking])
    (changes : Changes concerns first last) : Away first last :=
  changes.lift Away refl trans fun member => of_change (others _ member)

end Away

end Session

end Messenger

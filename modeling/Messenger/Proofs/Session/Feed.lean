import Messenger.Proofs.Session.Activities
import Messenger.Proofs.Session.Following

/-!
The feed of a session is what concerns the messages of bundles: up to which index the owner
knows of messages, and which entries of the journal open an account, apply a bundle or deliver
its messages. An opening and the application of a bundle go on with it, nothing else does.
-/

namespace Messenger

def Entry.delivers : Entry → Bool
  | .opened _ _ => true
  | .applied _ _ => true
  | .told callback => callback.delivers
  | _ => false

theorem Entry.delivers_of_ofLink {entry : Entry} (ofLink : entry.ofLink = true) :
    entry.delivers = false := by
  cases entry with
  | opened account owner => cases ofLink
  | applied bundle context => cases ofLink
  | told callback =>
      cases callback with
      | event event =>
          cases event with
          | messageIndex index => cases ofLink
          | _ => rfl
      | _ => cases ofLink
  | _ => rfl

theorem Event.delivers_of_isNews {event : Event} (news : event.isNews = true) :
    (Callback.event event).delivers = false := by
  cases event with
  | messageIndex index => cases news
  | _ => rfl

structure Feed where
  index : Option UInt64
  entries : List Entry
  /-- What is left to be told of messages once the agenda is done. -/
  farewell : List Event

theorem RestoreAction.undelivering_told (actions : List RestoreAction) :
    ((told actions).map Entry.told).filter Entry.delivers = [] := by
  refine List.filter_eq_nil_iff.mpr fun entry member => ?_
  obtain ⟨callback, tells, rfl⟩ := List.mem_map.mp member
  obtain ⟨event, reported, rfl⟩ := List.mem_map.mp tells
  obtain ⟨action, -, same⟩ := List.mem_filterMap.mp reported
  cases action <;> cases same <;> exact Bool.false_ne_true

namespace Session

variable {W : Type}

def feed (session : Session W) : Feed where
  index := session.owner.messageLastIndex
  entries := session.journal.filter Entry.delivers
  farewell := session.farewell.filter fun event => (Callback.event event).delivers

theorem feed_note (session : Session W) {entry : Entry} (plain : entry.delivers = false) :
    (session.note entry).feed = session.feed := by
  simp [feed, note, plain]

theorem feed_notify (session : Session W) {event : Event}
    (plain : (Callback.event event).delivers = false) :
    (session.notify event).feed = session.feed := by
  simp [feed, notify, tell, Entry.delivers, plain]

theorem feed_report (session : Session W) (error : SessionError) :
    (session.report error).feed = session.feed :=
  feed_notify session rfl

theorem feed_accept (session : Session W) (bundle : Bundle) (context : DispatchContext) :
    (session.accept bundle context).feed = session.feed :=
  feed_note session rfl

theorem feed_lastly (session : Session W) {event : Event}
    (plain : (Callback.event event).delivers = false) :
    (session.lastly event).feed = session.feed := by
  simp [feed, lastly, plain]

theorem feed_advanceRestore (session : Session W)
    (step : RestoreMachine × List RestoreAction) :
    (session.advanceRestore step).feed = session.feed := by
  rw [advanceRestore_eq]
  simp [feed, RestoreAction.undelivering_told]

theorem feed_cancelRestore (session : Session W) :
    session.cancelRestore.feed = session.feed := by
  unfold cancelRestore
  split
  · rfl
  · exact feed_advanceRestore _ _

theorem feed_enterRestore (session : Session W) (restoring resumePaging : Bool) :
    (session.enterRestore restoring resumePaging).feed = session.feed := by
  obtain ⟨step, entered, -⟩ := session.enterRestore_eq restoring resumePaging
  rw [entered, feed_advanceRestore]

theorem feed_release (session : Session W) (key : SettlementKey) (context : DispatchContext) :
    (session.release key context).feed = session.feed := by
  unfold release
  split <;> rfl

variable [Surroundings W] {concern : Concern} {concerns : List Concern} {first last : Session W}

theorem feed_disconnect (session : Session W) : session.disconnect.feed = session.feed := by
  simp [feed, disconnect, notify, tell, note, Entry.delivers, Callback.delivers]

theorem feed_link (link : LinkOnly first last) : last.feed = first.feed := by
  obtain ⟨more, grown, ofLink⟩ := link.journal
  have owner : last.owner = first.owner := (congrArg Session.owner link.rest :)
  have farewell : last.farewell = first.farewell := (congrArg Session.farewell link.rest :)
  have none : more.filter Entry.delivers = [] := List.filter_eq_nil_iff.mpr
    fun entry member => Bool.eq_false_iff.mp (Entry.delivers_of_ofLink (ofLink entry member))
  rw [feed, owner, farewell, grown, List.filter_append, none, List.append_nil]
  rfl

/-- Only messages are fed. -/
theorem feed_of_change (other : concern ≠ .messages) (change : Change first concern last) :
    last.feed = first.feed := by
  cases change with
  | notify news => exact feed_notify first (Event.delivers_of_isNews news)
  | shown delivers => exact absurd rfl other
  | raiseIndex higher => exact absurd rfl other
  | setUserState userState => exact feed_notify _ rfl
  | counted counts => exact feed_advanceRestore first _
  | paged messages topic known => exact feed_advanceRestore first _
  | rehost host => exact feed_notify _ rfl
  | release key context => exact feed_release first key context
  | publish publish =>
      have sent : (first.sent publish).feed = first.feed := feed_note _ rfl
      exact (feed_link (.publish first publish)).trans sent
  | subscribe topics => exact feed_link (.subscribe first topics)
  | ask call answer wall outside lives => exact (feed_note _ rfl).trans (feed_note _ rfl)
  | accept bundle context => exact feed_accept first bundle context
  | enterRestore restoring resumePaging => exact feed_enterRestore first restoring resumePaging
  | cancelRestore => exact feed_cancelRestore first
  | promise => exact feed_lastly first rfl
  | link link => exact feed_link link
  | wake next => exact feed_note _ rfl
  | _ => rfl

theorem feed_of_changes (others : .messages ∉ concerns) (changes : Changes concerns first last) :
    last.feed = first.feed :=
  changes.keep feed fun member =>
    feed_of_change fun same => others (same ▸ member)

theorem feed_reported (result : Session W × Except SessionError Unit) :
    (reported result).1.feed = result.1.feed :=
  feed_of_changes (by decide) (.reported result)

end Session

end Messenger

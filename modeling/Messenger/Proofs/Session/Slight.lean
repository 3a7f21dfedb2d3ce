import Messenger.Proofs.Session.Activities
import Messenger.Proofs.Session.Following

/-!
Most of what a session does is slight: it draws no time from the clock, leaves the owner's
user state and the restore alone, opens no account and calls for nothing that a restore
fetches.
-/

namespace Messenger

/-- What a restore fetches. -/
def CoreCall.restores : CoreCall → Bool
  | .fetchMessageCounts => true
  | .fetchFirstMessagesPerKey .. => true
  | .fetchMessagesBatch _ _ reverse => reverse
  | _ => false

def Work.restores : Work → Bool
  | .call asked => asked.restores
  | _ => false

/-- The stored form that listeners are to keep. -/
def Callback.stored? : Callback → Option String
  | .event (.userStateChanged stored) => some stored
  | _ => none

theorem Work.restores_of_isErrand {work : Work} (isErrand : work.isErrand = true) :
    work.restores = false := by
  cases work with
  | call call =>
      cases call with
      | readMarkers => rfl
      | muteLevels => rfl
      | _ => cases isErrand
  | _ => rfl

theorem Event.unstored_of_isNews {event : Event} (news : event.isNews = true) :
    (Callback.event event).stored? = none := by
  cases event with
  | userStateChanged stored => cases news
  | _ => rfl

theorem Callback.unstored_of_delivers {callback : Callback}
    (delivers : callback.delivers = true) : callback.stored? = none := by
  cases callback with
  | event event =>
      cases event with
      | messageIndex index => rfl
      | _ => cases delivers
  | _ => rfl

/-- All but what is noted of accounts, of times and what they are for, and of the owner's
user state. -/
def Entry.isSlight : Entry → Bool
  | .opened _ _ => false
  | .stamped _ _ => false
  | .called _ _ _ => false
  | .keysAsked _ _ => false
  | .attempted _ _ => false
  | .told callback => callback.stored?.isNone
  | _ => true

/-- Publishing and subscribing may end in an attempt, for which a time is drawn. -/
def Concern.isSlight : Concern → Bool
  | .userState => false
  | .answering => false
  | .publishing => false
  | .subscribing => false
  | .calling => false
  | .following => false
  | .cancelling => false
  | .promising => false
  | .linking => false
  | _ => true

/-- What is read off a journal stays, as long as nothing of the kind is noted. -/
theorem filterMap_grown {β : Type} {read : Entry → Option β} (journal : List Entry)
    {more : List Entry} (unread : ∀ entry ∈ more, read entry = none) :
    (journal ++ more).filterMap read = journal.filterMap read := by
  rw [List.filterMap_append, List.filterMap_eq_nil_iff.mpr unread, List.append_nil]

theorem RestoreAction.slight_of_told {actions : List RestoreAction} :
    ∀ entry ∈ (told actions).map Entry.told, entry.isSlight = true := by
  intro entry member
  obtain ⟨callback, tells, rfl⟩ := List.mem_map.mp member
  obtain ⟨event, reported, rfl⟩ := List.mem_map.mp tells
  obtain ⟨action, -, same⟩ := List.mem_filterMap.mp reported
  cases action <;> cases same <;> rfl

/-- What slight deeds leave as it is. -/
structure Essentials where
  clock : UniqueClock
  userState : UserState
  restore : RestoreMachine
  /-- Whether the live account asks for a restore. -/
  restoring : Option Bool
  farewell : List Event

namespace Session

variable {W : Type}

def essentials (session : Session W) : Essentials where
  clock := session.clock
  userState := session.owner.userState
  restore := session.restore
  restoring := session.account.map (·.restoring)
  farewell := session.farewell

structure Slight (first last : Session W) : Prop where
  essentials : last.essentials = first.essentials
  agenda : ∃ more, last.agenda = first.agenda ++ more ∧ ∀ work ∈ more, work.restores = false
  journal : Adds Entry.isSlight first.journal last.journal

namespace Slight

variable {first middle last : Session W}

theorem clock (slight : Slight first last) : last.clock = first.clock :=
  congrArg Essentials.clock slight.essentials

theorem userState (slight : Slight first last) :
    last.owner.userState = first.owner.userState :=
  congrArg Essentials.userState slight.essentials

theorem restore (slight : Slight first last) : last.restore = first.restore :=
  congrArg Essentials.restore slight.essentials

theorem restoring (slight : Slight first last) :
    last.account.map (·.restoring) = first.account.map (·.restoring) :=
  congrArg Essentials.restoring slight.essentials

theorem farewell (slight : Slight first last) : last.farewell = first.farewell :=
  congrArg Essentials.farewell slight.essentials

theorem trans (start : Slight first middle) (rest : Slight middle last) :
    Slight first last := by
  obtain ⟨early, earlyEq, earlyPlain⟩ := start.agenda
  obtain ⟨late, lateEq, latePlain⟩ := rest.agenda
  refine ⟨rest.essentials.trans start.essentials, ⟨early ++ late, ?_, ?_⟩,
    start.journal.trans rest.journal⟩
  · rw [lateEq, earlyEq, List.append_assoc]
  · exact List.forall_mem_append.mpr ⟨earlyPlain, latePlain⟩

/-- Nothing is left to do and nothing is noted. -/
theorem of_silent (essentials : last.essentials = first.essentials)
    (agenda : last.agenda = first.agenda) (journal : last.journal = first.journal) :
    Slight first last :=
  ⟨essentials, ⟨[], by rw [agenda, List.append_nil], List.forall_mem_nil _⟩,
    .of_eq journal⟩

theorem note (session : Session W) {entry : Entry} (isSlight : entry.isSlight = true) :
    Slight session (session.note entry) :=
  ⟨rfl, ⟨[], (List.append_nil _).symm, List.forall_mem_nil _⟩, .one rfl isSlight⟩

theorem tell (session : Session W) {callback : Callback}
    (unstored : callback.stored? = none) : Slight session (session.tell callback) := by
  refine ⟨rfl, ⟨[], (List.append_nil _).symm, List.forall_mem_nil _⟩, .one rfl ?_⟩
  rw [Entry.isSlight, unstored, Option.isNone_none]

theorem notify (session : Session W) {event : Event}
    (unstored : (Callback.event event).stored? = none) :
    Slight session (session.notify event) :=
  tell session unstored

theorem report (session : Session W) (error : SessionError) :
    Slight session (session.report error) :=
  notify session rfl

theorem enqueue (session : Session W) {work : Work} (plain : work.restores = false) :
    Slight session (session.enqueue work) :=
  ⟨rfl, ⟨[work], rfl, List.forall_mem_singleton.mpr plain⟩, .of_eq rfl⟩

theorem accept (session : Session W) (bundle : Bundle) (context : DispatchContext) :
    Slight session (session.accept bundle context) :=
  (note session rfl).trans (enqueue _ rfl)

theorem release (session : Session W) (key : SettlementKey) (context : DispatchContext) :
    Slight session (session.release key context) := by
  unfold Session.release
  split
  · exact of_silent rfl rfl rfl
  · rename_i settlements _
    have taken : Slight session { session with settlements } := of_silent rfl rfl rfl
    exact taken.trans (enqueue _ rfl)

theorem onLspHost (session : Session W) (host : String) :
    Slight session (session.onLspHost host) := by
  have moved (account : Option Account) :
      (account.map fun account => { account with mixer := host }).map (·.restoring) =
        account.map (·.restoring) := by
    cases account <;> rfl
  exact ⟨congrArg (fun restoring => { session.essentials with restoring })
    (moved session.account), ⟨[], (List.append_nil _).symm, List.forall_mem_nil _⟩,
    .one rfl rfl⟩

theorem withOutside (session : Session W) (outside : W) :
    Slight session { session with outside } :=
  of_silent rfl rfl rfl

theorem of_change [Surroundings W] {concern : Concern} (isSlight : concern.isSlight = true)
    (change : Change first concern last) : Slight first last := by
  cases change with
  | notify news => exact notify first (Event.unstored_of_isNews news)
  | shown delivers => exact tell first (Callback.unstored_of_delivers delivers)
  | setUserState userState => cases isSlight
  | complete tracked =>
      rename_i key timestamp liveness
      have tracked : Slight first { first with liveness } := of_silent rfl rfl rfl
      exact tracked.trans (enqueue _ rfl)
  | counted counts => cases isSlight
  | paged messages topic known => cases isSlight
  | errand isErrand => exact enqueue first (Work.restores_of_isErrand isErrand)
  | rehost host => exact onLspHost first host
  | release key context => exact release first key context
  | publish publish => cases isSlight
  | subscribe topics => cases isSlight
  | ask call answer wall outside lives => cases isSlight
  | accept bundle context => exact accept first bundle context
  | enterRestore restoring resumePaging => cases isSlight
  | cancelRestore => cases isSlight
  | promise => cases isSlight
  | link link => cases isSlight
  | arrive topic payload => exact enqueue first rfl
  | wake next =>
      rename_i woken waiting
      have taken : Slight first { first with waiting } := of_silent rfl rfl rfl
      exact taken.trans (note _ rfl)
  | _ => exact of_silent rfl rfl rfl

end Slight

end Session

end Messenger

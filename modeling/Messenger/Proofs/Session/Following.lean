import Messenger.Session.Run

/-!
What carrying out the actions of the restore machine comes to: calls go to the end of the
agenda, listeners are told the rest, and a restore that has finished is not asked for any
more.
-/

namespace Messenger

namespace RestoreMachine

theorem finished_not_mem_resume (machine : RestoreMachine) :
    .finished ∉ machine.resume := by
  unfold resume
  split
  · split <;> simp [fetchContactsAt]
  · simp [fetchBackward]
  · exact List.not_mem_nil

theorem beginSync_isRestoring (machine : RestoreMachine) (lastIndex : Option UInt64) :
    (machine.beginSync lastIndex).1.isRestoring = false := by
  cases lastIndex <;> rfl

theorem finished_not_mem_beginSync (machine : RestoreMachine) (lastIndex : Option UInt64) :
    .finished ∉ (machine.beginSync lastIndex).2 := by
  cases lastIndex <;> simp [beginSync, fetchForward]

end RestoreMachine

namespace RestoreAction

def call? : RestoreAction → Option CoreCall
  | .fetchCounts => some .fetchMessageCounts
  | .fetchContacts lastIndex limit => some (.fetchFirstMessagesPerKey lastIndex limit false)
  | .fetchMessages lastIndex limit reverse =>
    some (.fetchMessagesBatch lastIndex limit reverse)
  | .fetchPings => some .fetchPings
  | .fetchReadMarkers => some .readMarkers
  | .fetchMuteLevels => some .muteLevels
  | .markInvoicesPaid | .progress _ | .finished | .cancelled | .syncFinished => none

def event? : RestoreAction → Option Event
  | .markInvoicesPaid => some .pendingInvoicesPaid
  | .progress percent => some (.restoreProgress percent)
  | .finished => some .restoreFinished
  | .cancelled => some .restoreCancelled
  | .syncFinished => some .syncFinished
  | .fetchCounts | .fetchContacts _ _ | .fetchMessages _ _ _ => none
  | .fetchPings | .fetchReadMarkers | .fetchMuteLevels => none

def calls (actions : List RestoreAction) : List CoreCall :=
  actions.filterMap call?

def told (actions : List RestoreAction) : List Callback :=
  (actions.filterMap event?).map .event

theorem calls_cons (action : RestoreAction) (rest : List RestoreAction) :
    calls (action :: rest) = action.call?.toList ++ calls rest := by
  cases called : action.call? <;> simp [calls, called]

theorem told_cons (action : RestoreAction) (rest : List RestoreAction) :
    told (action :: rest) = (action.event?.map .event).toList ++ told rest := by
  cases reported : action.event? <;> simp [told, reported]

@[simp] theorem calls_nil : calls [] = [] := rfl

@[simp] theorem told_nil : told [] = [] := rfl

theorem finished_mem_told {actions : List RestoreAction} :
    .event .restoreFinished ∈ told actions ↔ .finished ∈ actions := by
  constructor
  · intro member
    obtain ⟨event, reported, same⟩ := List.mem_map.mp member
    obtain ⟨action, inside, tells⟩ := List.mem_filterMap.mp reported
    cases Callback.event.inj same
    cases action with
    | finished => exact inside
    | _ => cases tells
  · intro member
    exact List.mem_map_of_mem (List.mem_filterMap.mpr ⟨.finished, member, rfl⟩)

end RestoreAction

namespace Session

variable {W : Type}

/-- The account that a restore's actions leave. -/
def accountAfter (session : Session W) (actions : List RestoreAction) : Option Account :=
  if .finished ∈ actions then session.endRestore.account else session.account

theorem endRestore_endRestore (session : Session W) :
    session.endRestore.endRestore = session.endRestore := by
  cases lives : session.account <;> simp [endRestore, lives]

theorem follow_eq (session : Session W) (action : RestoreAction) :
    session.follow action = { session with
      account := session.accountAfter [action]
      agenda := session.agenda ++ (RestoreAction.calls [action]).map .call
      listeners := session.listeners.map (· ++ RestoreAction.told [action])
      journal := session.journal ++ (RestoreAction.told [action]).map .told } := by
  rw [RestoreAction.calls_cons, RestoreAction.told_cons]
  cases action <;>
    simp [follow, enqueue, notify, tell, accountAfter, endRestore, RestoreAction.call?,
      RestoreAction.event?]

theorem accountAfter_cons (session : Session W) (action : RestoreAction)
    (rest : List RestoreAction) :
    (session.follow action).accountAfter rest = session.accountAfter (action :: rest) := by
  have account : (session.follow action).account = session.accountAfter [action] := by
    rw [follow_eq]
  have ended : (session.follow action).endRestore.account = session.endRestore.account := by
    simp only [endRestore, account, accountAfter, List.mem_singleton]
    split
    · exact congrArg Session.account session.endRestore_endRestore
    · rfl
  by_cases now : RestoreAction.finished = action <;> by_cases later : .finished ∈ rest <;>
    simp [accountAfter, ended, account, now, later]

theorem followAll_eq (session : Session W) (actions : List RestoreAction) :
    session.followAll actions = { session with
      account := session.accountAfter actions
      agenda := session.agenda ++ (RestoreAction.calls actions).map .call
      listeners := session.listeners.map (· ++ RestoreAction.told actions)
      journal := session.journal ++ (RestoreAction.told actions).map .told } := by
  induction actions generalizing session with
  | nil => simp [followAll, accountAfter]
  | cons action rest induction =>
      change (session.follow action).followAll rest = _
      rw [induction, accountAfter_cons, follow_eq]
      simp [RestoreAction.calls_cons action, RestoreAction.told_cons action]

theorem advanceRestore_eq (session : Session W)
    (step : RestoreMachine × List RestoreAction) :
    session.advanceRestore step = { session with
      restore := step.1
      account := session.accountAfter step.2
      agenda := session.agenda ++ (RestoreAction.calls step.2).map .call
      listeners := session.listeners.map (· ++ RestoreAction.told step.2)
      journal := session.journal ++ (RestoreAction.told step.2).map .told } :=
  followAll_eq { session with restore := step.1 } step.2

/-- Entering a restore takes the machine on unless it neither goes on nor is asked to. -/
theorem enterRestore_eq (session : Session W) (restoring resumePaging : Bool) :
    ∃ step, session.enterRestore restoring resumePaging = session.advanceRestore step ∧
      step.1.isRestoring = (session.restore.isRestoring || restoring) ∧
      .finished ∉ step.2 := by
  unfold enterRestore
  split
  · rename_i going
    rw [going, Bool.true_or]
    split
    · exact ⟨(session.restore, session.restore.resume), rfl, going,
        session.restore.finished_not_mem_resume⟩
    · exact ⟨(session.restore, []), rfl, going, List.not_mem_nil⟩
  · rename_i idle
    rw [Bool.not_eq_true] at idle
    rw [idle, Bool.false_or]
    split
    · rename_i asked
      exact ⟨session.restore.beginRestore, rfl, asked.symm,
        by simp [RestoreMachine.beginRestore]⟩
    · rename_i unasked
      rw [Bool.not_eq_true] at unasked
      exact ⟨session.restore.beginSync session.owner.messageLastIndex, rfl,
        unasked ▸ RestoreMachine.beginSync_isRestoring _ _,
        RestoreMachine.finished_not_mem_beginSync _ _⟩

end Session

end Messenger

import Messenger.Session.Basic

/-! Carrying out what the restore machine asks for. -/

namespace Messenger

namespace Session

variable {W : Type}

def endRestore (session : Session W) : Session W :=
  { session with
    account := session.account.map fun account => { account with restoring := false } }

/-- Fetches become calls on the agenda, the rest is told at once. -/
def follow (session : Session W) : RestoreAction → Session W
  | .fetchCounts => session.enqueue (.call .fetchMessageCounts)
  | .fetchContacts lastIndex limit =>
    session.enqueue (.call (.fetchFirstMessagesPerKey lastIndex limit false))
  | .fetchMessages lastIndex limit reverse =>
    session.enqueue (.call (.fetchMessagesBatch lastIndex limit reverse))
  | .fetchPings => session.enqueue (.call .fetchPings)
  | .fetchReadMarkers => session.enqueue (.call .readMarkers)
  | .fetchMuteLevels => session.enqueue (.call .muteLevels)
  | .markInvoicesPaid => session.notify .pendingInvoicesPaid
  | .progress percent => session.notify (.restoreProgress percent)
  | .finished => session.endRestore.notify .restoreFinished
  | .cancelled => session.notify .restoreCancelled
  | .syncFinished => session.notify .syncFinished

def followAll (session : Session W) (actions : List RestoreAction) : Session W :=
  actions.foldl follow session

def advanceRestore (session : Session W)
    (step : RestoreMachine × List RestoreAction) : Session W :=
  { session with restore := step.1 }.followAll step.2

def cancelRestore (session : Session W) : Session W :=
  match session.restore.cancel with
  | (_, []) => session
  | step => session.endRestore.advanceRestore step

end Session

end Messenger

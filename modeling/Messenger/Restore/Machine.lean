import Messenger.Bundle
import Messenger.Payload.Counts
import Messenger.Restore.Progress
import Messenger.Topic
import Messenger.Word

/-!
The restore of an account, and its incremental sync. A restore asks for counts, walks
the contact records upwards, then the messages from the newest down; a sync walks the
messages upwards. Each step answers with the next machine and the actions it asks for;
both walks end in the same catching up.
-/

namespace Messenger

inductive RestorePhase where
  | notRestoring
  | restoringContacts
  | restoringMessages
  | finished
  | cancelled
  deriving DecidableEq, Repr, Inhabited

def RestorePhase.isRestoring : RestorePhase → Bool
  | .restoringContacts => true
  | .restoringMessages => true
  | _ => false

inductive RestoreAction where
  | fetchCounts
  | fetchContacts (lastIndex : UInt64) (limit : UInt32)
  | fetchMessages (lastIndex : UInt64) (limit : UInt32) (reverse : Bool)
  | fetchPings
  | fetchReadMarkers
  | fetchMuteLevels
  | markInvoicesPaid
  | progress (percent : UInt8)
  | finished
  | cancelled
  | syncFinished
  deriving DecidableEq, Repr

structure RestoreMachine where
  phase : RestorePhase
  progress : RestoreProgress
  contactsPageSize : UInt32
  messagesPageSize : UInt32
  awaitingCounts : Bool
  newestIndex : UInt64
  contactsCursor : UInt64
  messagesCursor : UInt64
  /-- The highest message index seen, which a sync goes on from. -/
  highestIndex : Option UInt64
  emitted : UInt8
  deriving DecidableEq, Repr

namespace RestoreMachine

def new (contactsPageSize messagesPageSize : UInt32) : RestoreMachine where
  phase := .notRestoring
  progress := {}
  contactsPageSize
  messagesPageSize
  awaitingCounts := false
  newestIndex := 0
  contactsCursor := 0
  messagesCursor := 0
  highestIndex := none
  emitted := 0

def isRestoring (machine : RestoreMachine) : Bool :=
  machine.phase.isRestoring

def percentage (machine : RestoreMachine) : UInt8 :=
  match machine.phase with
  | .notRestoring => 0
  | .restoringContacts => machine.progress.contactsPercentage
  | .restoringMessages => machine.progress.messagesPercentage
  | .finished => 100
  | .cancelled => 0

def fetchContactsAt (machine : RestoreMachine) (index : UInt64) : RestoreAction :=
  .fetchContacts index machine.contactsPageSize

def fetchBackward (machine : RestoreMachine) (index : UInt64) : RestoreAction :=
  .fetchMessages index machine.messagesPageSize true

def fetchForward (machine : RestoreMachine) (index : UInt64) : RestoreAction :=
  .fetchMessages index machine.messagesPageSize false

def catchUp : List RestoreAction :=
  [.markInvoicesPaid, .fetchReadMarkers, .fetchMuteLevels, .fetchPings]

def observe (machine : RestoreMachine) (index : UInt64) : RestoreMachine :=
  { machine with highestIndex := some (max (machine.highestIndex.getD index) index) }

def beginRestore (machine : RestoreMachine) : RestoreMachine × List RestoreAction :=
  ({ machine with
      phase := .restoringContacts
      progress := {}
      awaitingCounts := true
      newestIndex := 0
      contactsCursor := 0
      messagesCursor := 0
      emitted := 0 },
    [.fetchCounts])

/-- Starts a sync after the last index known; without one there is nothing to walk. -/
def beginSync (machine : RestoreMachine) (lastIndex : Option UInt64) :
    RestoreMachine × List RestoreAction :=
  let machine := { machine with phase := .notRestoring }
  match lastIndex with
  | some index => (machine.observe index, [machine.fetchForward (Word.next index)])
  | none => (machine, [.fetchPings])

def resume (machine : RestoreMachine) : List RestoreAction :=
  match machine.phase with
  | .restoringContacts =>
    if machine.awaitingCounts then [.fetchCounts]
    else [machine.fetchContactsAt machine.contactsCursor]
  | .restoringMessages => [machine.fetchBackward machine.messagesCursor]
  | _ => []

def cancel (machine : RestoreMachine) : RestoreMachine × List RestoreAction :=
  if machine.isRestoring then
    ({ machine with
        phase := .cancelled
        progress := {}
        awaitingCounts := false
        emitted := 0 },
      [.cancelled])
  else (machine, [])

/-- Reports progress that has moved on. One hundred is kept for the end. -/
def emitProgress (machine : RestoreMachine) : RestoreMachine × List RestoreAction :=
  let percent := min machine.percentage 99
  if machine.emitted < percent then
    ({ machine with emitted := percent }, [.progress percent])
  else (machine, [])

def continueWith (machine : RestoreMachine) (fetch : RestoreAction) :
    RestoreMachine × List RestoreAction :=
  let (machine, actions) := machine.emitProgress
  (machine, actions ++ [fetch])

def finish (machine : RestoreMachine) : RestoreMachine × List RestoreAction :=
  ({ machine with
      phase := .finished
      progress := { machine.progress with
        messagesRestored :=
          max machine.progress.messagesRestored machine.progress.messagesTotal }
      emitted := 100 },
    .progress 100 :: .finished :: catchUp)

def completeContacts (machine : RestoreMachine) : RestoreMachine × List RestoreAction :=
  let machine := { machine with
    phase := .restoringMessages
    progress := { machine.progress with
      contactsRestored :=
        max machine.progress.contactsRestored machine.progress.contactsTotal
      contactsHighestIndex :=
        max machine.progress.contactsHighestIndex machine.progress.contactsTotal } }
  if machine.progress.messagesTotal = 0 then machine.finish
  else
    let fetch := machine.fetchBackward machine.newestIndex
    if machine.emitted < RestoreProgress.contactsWeight then
      ({ machine with emitted := RestoreProgress.contactsWeight },
        [.progress RestoreProgress.contactsWeight, fetch])
    else (machine, [fetch])

def onCounts (machine : RestoreMachine) (counts : Counts) :
    RestoreMachine × List RestoreAction :=
  if machine.phase = .restoringContacts ∧ machine.awaitingCounts = true then
    let machine := { machine with
      awaitingCounts := false
      progress := { machine.progress with
        contactsTotal := counts.contactsTotal
        messagesTotal := counts.messagesTotal }
      newestIndex := counts.newestIndex
      messagesCursor := counts.newestIndex }
    if machine.progress.contactsTotal = 0 then machine.completeContacts
    else (machine, [machine.fetchContactsAt 0])
  else (machine, [])

def onContactsPage (machine : RestoreMachine) (count : UInt64)
    (highest : Option UInt64) : RestoreMachine × List RestoreAction :=
  match highest with
  | none => machine.completeContacts
  | some highest =>
    let machine := { machine with
      progress := { machine.progress with
        contactsRestored := Word.saturatingAdd machine.progress.contactsRestored count
        contactsHighestIndex := max machine.progress.contactsHighestIndex highest } }
    if machine.progress.contactsTotal ≤ highest then machine.completeContacts
    else
      let machine := { machine with contactsCursor := Word.next highest }
      machine.continueWith (machine.fetchContactsAt machine.contactsCursor)

def onMessagesPage (machine : RestoreMachine) (count : UInt64)
    (lowest : Option UInt64) : RestoreMachine × List RestoreAction :=
  match lowest with
  | none => machine.finish
  | some lowest =>
    let machine := { machine with
      progress := { machine.progress with
        messagesRestored := Word.saturatingAdd machine.progress.messagesRestored count } }
    if machine.progress.messagesTotal ≤ machine.progress.messagesRestored ∨ lowest = 0
    then machine.finish
    else
      let machine := { machine with messagesCursor := lowest - 1 }
      machine.continueWith (machine.fetchBackward machine.messagesCursor)

/-- A page of a sync; a page without an index is the last. -/
def onSyncPage (machine : RestoreMachine) (highest : Option UInt64) :
    RestoreMachine × List RestoreAction :=
  match highest with
  | some index =>
    let machine := machine.observe index
    let next := machine.highestIndex.elim 0 Word.next
    (machine, [machine.fetchForward next])
  | none => (machine, .syncFinished :: catchUp)

/-- Messages that arrived on a topic. Off the batch topics they are live traffic, which
moves only the highest index. -/
def onBatch (machine : RestoreMachine) (messages : List Message) (topic : String) :
    RestoreMachine × List RestoreAction :=
  let highest := Message.highestIndex? messages
  let count := Word.ofCount messages.length
  if Topic.isBatch topic then
    match machine.phase with
    | .restoringContacts =>
      if machine.awaitingCounts then (machine, [])
      else machine.onContactsPage count highest
    | .restoringMessages => machine.onMessagesPage count (Message.lowestIndex? messages)
    | .notRestoring => machine.onSyncPage highest
    | .finished => (machine, [])
    | .cancelled => (machine, [])
  else
    match highest with
    | some index => (machine.observe index, [])
    | none => (machine, [])

end RestoreMachine

end Messenger

import Messenger.Session.Restoring

/-!
Messages of a bundle. Listeners keep what concerns tribes first, then what concerns
contacts, then get every message; the restore machine sees the messages last.
-/

namespace Messenger

namespace Session

variable {W : Type}

def tellGroup (session : Session W) (group : List Message)
    (callback : List Message → Callback) : Session W :=
  if group.isEmpty then session else session.tell (callback group)

def deliverAll (session : Session W) (messages : List Message) : Session W :=
  messages.foldl (fun session message => session.tell (.deliver message)) session

def raiseMessageIndex (session : Session W) (messages : List Message) : Session W :=
  match Message.highestIndex? messages with
  | none => session
  | some highest =>
    if session.owner.messageLastIndex.any (highest ≤ ·) then session
    else
      let owner := { session.owner with messageLastIndex := some highest }
      { session with owner }.notify (.messageIndex highest)

/-- An empty batch counts only on a batch topic, as the end of a walk. -/
def deliverBatch (session : Session W) (messages : List Message) (topic : String) :
    Session W :=
  if messages.isEmpty then
    if Topic.isBatch topic then
      session.advanceRestore (session.restore.onBatch [] topic)
    else session
  else
    let session := session.tellGroup (messages.filter Message.affectsTribe) .upsertTribes
    let session :=
      session.tellGroup (messages.filter Message.affectsContact) .upsertContacts
    let session := (session.deliverAll messages).raiseMessageIndex messages
    session.advanceRestore (session.restore.onBatch messages topic)

end Session

end Messenger

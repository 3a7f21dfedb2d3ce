import Messenger.Session.Basic

/-!
Reading what a session did out of its journal, and what a listener was told out of its
callbacks.
-/

namespace Messenger

namespace Entry

def call? : Entry → Option (CoreContext × CoreCall)
  | .called context call _ => some (context, call)
  | _ => none

/-- A publish that the link took, with its time. -/
def published? : Entry → Option (Publish × Nat)
  | .published publish time (.ok ()) => some (publish, time)
  | _ => none

def topics : Entry → List String
  | .subscribed topics (.ok ()) => topics
  | _ => []

def attempt? : Entry → Option ConnectOptions
  | .attempted _ options => some options
  | _ => none

def isDisconnect : Entry → Bool
  | .disconnected => true
  | _ => false

end Entry

namespace Callback

def event? : Callback → Option Event
  | .event told => some told
  | _ => none

def error? : Callback → Option SessionError
  | .event (.error error) => some error
  | _ => none

def status? : Callback → Option ConnectionStatus
  | .event (.connection status) => some status
  | _ => none

def progress? : Callback → Option UInt8
  | .event (.restoreProgress percent) => some percent
  | _ => none

def deliveredIndex? : Callback → Option String
  | .deliver message => message.index
  | _ => none

end Callback

end Messenger

import Messenger.Broker.Link
import Messenger.ReadFault

/-! How an operation of a session fails. -/

namespace Messenger

inductive ErrorClass where
  | transport
  | core
  | protocol
  | malformed
  | session
  deriving DecidableEq, Repr

inductive SessionError where
  | noSession
  | alreadyConnected
  | invalidAddress (address : String) (fault : AddressFault)
  | connect (reason : String)
  | connectionLost (reason : String)
  | publish (topic reason : String)
  | subscribe (reason : String)
  | core (operation reason : String)
  | keyDerivation (reason : String)
  /-- An error that the other side reports in a bundle. -/
  | protocol (message : String)
  | malformed (field : Field) (reason : Reason)
  deriving DecidableEq, Repr

namespace SessionError

def errorClass : SessionError → ErrorClass
  | .noSession => .session
  | .alreadyConnected => .session
  | .invalidAddress .. => .session
  | .connect .. => .transport
  | .connectionLost .. => .transport
  | .publish .. => .transport
  | .subscribe .. => .transport
  | .core .. => .core
  | .keyDerivation .. => .core
  | .protocol .. => .protocol
  | .malformed .. => .malformed

def message : SessionError → String
  | .noSession => "no active session"
  | .alreadyConnected => "session already connected"
  | .invalidAddress address fault =>
    "invalid broker address " ++ Text.quote address ++ ": " ++ fault.text
  | .connect reason => "connect failed: " ++ reason
  | .connectionLost reason => "connection lost: " ++ reason
  | .publish topic reason => "publish to " ++ topic ++ " failed: " ++ reason
  | .subscribe reason => "subscribe failed: " ++ reason
  | .core operation reason => operation ++ " failed: " ++ reason
  | .keyDerivation reason => "key derivation failed: " ++ reason
  | .protocol message => "protocol error: " ++ message
  | .malformed field reason => "malformed " ++ field.name ++ ": " ++ reason.text

def ofFault (fault : ReadFault) : SessionError :=
  .malformed fault.field fault.reason

def ofLink : LinkError → SessionError
  | .connect reason => .connect reason
  | .publish topic reason => .publish topic reason
  | .subscribe reason => .subscribe reason
  | .notConnected => .connect "not connected"

end SessionError

end Messenger

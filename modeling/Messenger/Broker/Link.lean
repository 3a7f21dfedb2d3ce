import Messenger.Broker.Endpoint
import Messenger.Bundle
import Messenger.Text.Quoted
import Messenger.Text.Shown

/-!
The link to a broker: what it is told, what it reports later, and how it fails.
-/

namespace Messenger

structure ConnectOptions where
  endpoint : Endpoint
  clientId : String
  username : String
  /-- A signature with a timestamp. -/
  password : String
  /-- In milliseconds. -/
  keepAlive : Nat
  deriving DecidableEq, Repr

inductive LinkError where
  | connect (reason : String)
  | publish (topic reason : String)
  | subscribe (reason : String)
  | notConnected
  deriving DecidableEq, Repr

def LinkError.message : LinkError → String
  | .connect reason => "connect failed: " ++ reason
  | .publish topic reason => "publish to " ++ topic ++ " failed: " ++ reason
  | .subscribe reason => "subscribe failed: " ++ reason
  | .notConnected => "not connected"

inductive LinkEvent where
  | connected
  | connectionFailed (reason : String)
  | connectionLost (reason : String)
  | message (topic : String) (payload : Bytes)
  deriving DecidableEq, Repr

namespace IdleLink

def publish (_ : Publish) : Except LinkError Unit :=
  .error .notConnected

def subscribe (_ : List String) : Except LinkError Unit :=
  .error .notConnected

def disconnect : Except LinkError Unit :=
  .ok ()

end IdleLink

/-! Payloads are shown by their length, passwords not at all. -/

def Publish.shown (publish : Publish) : String :=
  Text.fieldList "Publish" [
    ("topic", Text.quote publish.topic),
    ("payload", Text.quote (Text.byteCount publish.payload.length))]

def Endpoint.shown (endpoint : Endpoint) : String :=
  Text.fieldList "BrokerEndpoint" [
    ("host", Text.quote endpoint.host),
    ("port", Decimal.write endpoint.port.toNat),
    ("tls", Text.ofBool endpoint.tls)]

def ConnectOptions.shown (options : ConnectOptions) : String :=
  Text.fieldList "ConnectOptions" [
    ("endpoint", options.endpoint.shown),
    ("client_id", Text.quote options.clientId),
    ("username", Text.quote options.username),
    ("password", Text.quote "<redacted>"),
    ("keep_alive", Text.duration options.keepAlive)]

end Messenger

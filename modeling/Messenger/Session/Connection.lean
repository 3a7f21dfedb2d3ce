import Messenger.Session.Basic
import Messenger.Text.Hexadecimal

/-!
Connecting, and what follows when the link fails. A session that was opened gets one
automatic reconnect, spent on the first failure; after that the caller decides.
-/

namespace Messenger

namespace Session

variable {W : Type} [Surroundings W]

def credentials (session : Session W) (account : Account) (time : UInt64) :
    Except String (String × String) :=
  match Surroundings.publicKey session.outside account.seed time account.network with
  | .error reason => .error reason
  | .ok username =>
    match Surroundings.signature session.outside account.seed time account.network with
    | .error reason => .error reason
    | .ok password => .ok (username, password)

/-- Begins an attempt, which supersedes every earlier one. -/
def attempt (session : Session W) (endpoint : Endpoint) (username password : String) :
    Session W × Except SessionError Unit :=
  let (session, bytes) := session.randomBytes 8
  let options : ConnectOptions := {
    endpoint, username, password
    clientId := "switchboard_" ++ Hexadecimal.writeBytes bytes
    keepAlive := session.config.keepAlive }
  let generation := session.generation + 1
  let session := { session with generation }.notify (.connection .connecting)
  let (outcome, outside) := Surroundings.connect session.outside generation options
  let session := { session with outside }.note (.attempted generation options)
  (session, outcome.mapError .ofLink)

def connect (session : Session W) : Session W × Except SessionError Unit :=
  match session.account with
  | none => (session, .error .noSession)
  | some account =>
    match Endpoint.parse account.mixer session.config with
    | .error fault => (session, .error (.invalidAddress account.mixer fault))
    | .ok endpoint =>
      let (session, time) := session.uniqueTime
      let session := session.note (.keysAsked account.seed time)
      match session.credentials account time with
      | .error reason => (session, .error (.keyDerivation reason))
      | .ok (username, password) => session.attempt endpoint username password

def reconnectOnce (session : Session W) : Session W :=
  if !session.hasSession || session.reconnectSpent then session
  else
    match { session with reconnectSpent := true, bootstrapped := false }.connect with
    | (session, .ok ()) => session
    | (session, .error error) => session.report error

def linkFailed (session : Session W) (error : SessionError) : Session W :=
  (session.report error).reconnectOnce

def connectionFailed (session : Session W) (reason : String) : Session W :=
  let session := { session with connected := false }.report (.connect reason)
  (session.notify (.connection .disconnected)).reconnectOnce

def connectionLost (session : Session W) (reason : String) : Session W :=
  let session := { session with connected := false }
  (session.notify (.connection .disconnected)).linkFailed (.connectionLost reason)

def publish (session : Session W) (publish : Publish) : Session W :=
  let (outcome, outside) := Surroundings.publish session.outside publish
  let session :=
    { session with outside }.note (.published publish session.now outcome)
  match outcome with
  | .ok () => session
  | .error error => session.linkFailed (.ofLink error)

def subscribe (session : Session W) (topics : List String) : Session W :=
  let (outcome, outside) := Surroundings.subscribe session.outside topics
  let session := { session with outside }.note (.subscribed topics outcome)
  match outcome with
  | .ok () => session
  | .error error => session.linkFailed (.ofLink error)

/-- Makes an account the live one and connects. With `resume` the restore machine goes
on where it was. -/
def openAccount (session : Session W) (account : Account) (owner : Owner)
    (resume : Bool) : Session W × Except SessionError Unit :=
  let fresh :=
    RestoreMachine.new session.config.contactsPageSize session.config.messagesPageSize
  let session := { session with
    account := some account
    owner
    restore := if resume then session.restore else fresh
    reconnectSpent := false
    bootstrapped := false
    connected := false }.note (.opened account owner)
  match session.connect with
  | (session, .ok ()) => (session, .ok ())
  | (session, .error (.connect reason)) => (session.connectionFailed reason, .ok ())
  | (session, .error error) => (session, .error error)

/-- Closes the connection for good: parked bundles and tracked round trips are gone, and
no event of an earlier attempt counts any more. -/
def disconnect (session : Session W) : Session W :=
  let session := { session with
    generation := session.generation + 1
    account := none
    connected := false
    bootstrapped := false
    outside := Surroundings.disconnect session.outside }.note .disconnected
  let session := { session with
    liveness := ∅
    settlements := ∅
    dashboard := { session.dashboard with inFlightInvite := none } }
  session.notify (.connection .disconnected)

end Session

end Messenger

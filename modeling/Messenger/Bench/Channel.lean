import Messenger.Broker.Link

/-!
A link that never leaves the process. An attempt is acknowledged at once, or fails as
scripted, or waits to be acknowledged by hand. Its events are in transit until they are
delivered.
-/

namespace Messenger

structure Channel where
  connectFailures : List String := []
  publishFailures : List String := []
  subscribeFailures : List String := []
  manual : Bool := false
  attempts : List Nat := []
  /-- The generation that events are injected for, until the link is closed. -/
  current : Option Nat := none
  inTransit : List (Nat × LinkEvent) := []
  deriving DecidableEq, Repr

namespace Channel

def send (channel : Channel) (generation : Nat) (event : LinkEvent) : Channel :=
  { channel with inTransit := channel.inTransit ++ [(generation, event)] }

def failConnect (channel : Channel) (reason : String) : Channel :=
  { channel with connectFailures := channel.connectFailures ++ [reason] }

def failPublish (channel : Channel) (reason : String) : Channel :=
  { channel with publishFailures := channel.publishFailures ++ [reason] }

def failSubscribe (channel : Channel) (reason : String) : Channel :=
  { channel with subscribeFailures := channel.subscribeFailures ++ [reason] }

def pop {α : Type} : List α → Option α × List α
  | [] => (none, [])
  | first :: rest => (some first, rest)

/-- A scripted failure comes first, even when attempts are acknowledged by hand. -/
def connect (channel : Channel) (generation : Nat) : Channel :=
  let (failure, connectFailures) := pop channel.connectFailures
  let channel := { channel with
    connectFailures
    attempts := channel.attempts ++ [generation]
    current := some generation }
  match failure with
  | some reason => channel.send generation (.connectionFailed reason)
  | none => if channel.manual then channel else channel.send generation .connected

def publish (channel : Channel) (publish : Publish) : Except LinkError Unit × Channel :=
  if channel.current.isNone then (.error .notConnected, channel)
  else
    let (failure, publishFailures) := pop channel.publishFailures
    let outcome := match failure with
      | some reason => .error (.publish publish.topic reason)
      | none => .ok ()
    (outcome, { channel with publishFailures })

def subscribe (channel : Channel) : Except LinkError Unit × Channel :=
  let (failure, subscribeFailures) := pop channel.subscribeFailures
  let outcome := match failure with
    | some reason => .error (.subscribe reason)
    | none => .ok ()
  (outcome, { channel with subscribeFailures })

def disconnect (channel : Channel) : Channel :=
  { channel with current := none }

/-- Sends an event for the latest attempt, unless the link was closed since. -/
def inject (channel : Channel) (event : LinkEvent) : Bool × Channel :=
  match channel.current with
  | some generation => (true, channel.send generation event)
  | none => (false, channel)

def injectInto (channel : Channel) (attempt : Nat) (event : LinkEvent) :
    Bool × Channel :=
  match channel.attempts[attempt]? with
  | some generation => (true, channel.send generation event)
  | none => (false, channel)

end Channel

end Messenger

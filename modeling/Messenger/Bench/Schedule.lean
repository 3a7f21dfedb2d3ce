import Messenger.Bench.Basic
import Messenger.Session.Run

/-!
Running a session on a bench. Nothing happens behind a caller's back: what is due and
what is in transit waits until the caller lets time pass. At one time everything is run
that is ready, in rounds: first what is due, then the events that are in transit.
-/

namespace Messenger

namespace Bench

/-- The number of steps, or of rounds, after which a run is given up. -/
def patience : Nat := 1000000

def finish (session : Session Bench) : Session Bench :=
  session.drain patience

def perform (session : Session Bench) (operation : Operation) :
    Session Bench × Except SessionError Unit :=
  let (session, outcome) := session.perform operation
  (finish session, outcome)

def wakeAll (session : Session Bench) : Session Bench :=
  session.waiting.foldl (fun session _ => finish session.wake) session

/-- Delivers the events that are in transit; what they lead to is sent later. -/
def deliverAll (session : Session Bench) : Session Bench :=
  let bench := session.outside
  let emptied := { bench with channel := { bench.channel with inTransit := [] } }
  bench.channel.inTransit.foldl
    (fun session (generation, event) => finish (session.receive generation event))
    { session with outside := emptied }

def isQuiet (session : Session Bench) : Bool :=
  session.outside.channel.inTransit.isEmpty &&
    session.nextDue?.all fun due => session.now < due

def rounds : (count : Nat) → Session Bench → Session Bench
  | 0, session => session
  | count + 1, session =>
    if isQuiet session then session else rounds count (deliverAll (wakeAll session))

def quiesce (session : Session Bench) : Session Bench :=
  rounds patience session

/-- Lets time pass until `deadline`, with a stop whenever something falls due. -/
def sleepUntil (deadline : Nat) : (stops : Nat) → Session Bench → Session Bench
  | 0, session => session
  | stops + 1, session =>
    match session.nextDue?.filter (· ≤ deadline) with
    | some due =>
      sleepUntil deadline stops (quiesce (session.advance (due - session.now)))
    | none => quiesce (session.advance (deadline - session.now))

def sleep (session : Session Bench) (millis : Nat) : Session Bench :=
  let session := quiesce session
  sleepUntil (session.now + sleepTime millis) patience session

def settle (session : Session Bench) : Session Bench :=
  sleep session 1

end Bench

end Messenger

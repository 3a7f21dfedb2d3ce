import Messenger.Session.Operation

/-!
How a session runs. Work is taken from the agenda in order, one piece a step, and what a
piece leads to is put behind the rest. Operations, events and wake-ups begin only when
the agenda is done. Whatever a move awaits of listeners and of the link is assumed to
return at once, so that a move is carried out whole and no other comes in between. A
confirmation may release a bundle that confirms another, so nothing bounds the number of
steps from outside; `drain` takes the bound as an argument.
-/

namespace Messenger

namespace Session

variable {W : Type} [Surroundings W]

/-- Makes a call; its bundle goes on the agenda, its failure is reported. -/
def callThenApply (session : Session W) (call : CoreCall) (context : DispatchContext) :
    Session W :=
  match session.runCall call with
  | (session, .error error) => session.report error
  | (session, .ok (bundle, _)) => session.accept bundle context

/-- Goes on with a restore, or begins one that was asked for, or else begins a sync. -/
def enterRestore (session : Session W) (restoring resumePaging : Bool) : Session W :=
  if session.restore.isRestoring then
    if resumePaging then session.followAll session.restore.resume else session
  else if restoring then session.advanceRestore session.restore.beginRestore
  else session.advanceRestore (session.restore.beginSync session.owner.messageLastIndex)

def bootstrap (session : Session W) (resumePaging : Bool) : Session W :=
  match session.account with
  | none => session.report .noSession
  | some account =>
    match session.runCall (.initialSetup session.config.device account.inviteCode) with
    | (session, .error error) => session.report error
    | (session, .ok (bundle, _)) =>
      (session.accept bundle {}).enterRestore account.restoring resumePaging

def carryOut (session : Session W) : Work → Session W
  | .dispatch bundle context => session.apply bundle context
  | .call call => session.callThenApply call {}
  | .inbound topic payload =>
    session.callThenApply (.handleInbound topic payload) (.inbound topic)
  | .bootstrap resumePaging => session.bootstrap resumePaging

/-- One piece of work, or once there is none, one last event. -/
def step (session : Session W) : Session W :=
  match session.agenda, session.farewell with
  | work :: agenda, _ => { session with agenda }.carryOut work
  | [], event :: farewell => { session with farewell }.notify event
  | [], [] => session

theorem step_cons {session : Session W} {work : Work} {agenda : List Work}
    (next : session.agenda = work :: agenda) :
    session.step = { session with agenda }.carryOut work := by
  rw [step, next]

theorem step_nil {session : Session W} (done : session.agenda = []) :
    session.step = match session.farewell with
      | event :: farewell => { session with farewell }.notify event
      | [] => session := by
  rw [step, done]
  cases session.farewell <;> rfl

def drain : (steps : Nat) → Session W → Session W
  | 0, session => session
  | steps + 1, session => if session.isIdle then session else drain steps session.step

/-- The first time after an opening or a reconnect, the bootstrap follows. -/
def onConnected (session : Session W) : Session W :=
  let session := { session with connected := true }.notify (.connection .connected)
  if session.bootstrapped then session
  else { session with bootstrapped := true }.enqueue (.bootstrap true)

/-- Takes an event of the link. An attempt that was superseded is not listened to. -/
def receive (session : Session W) (generation : Nat) (event : LinkEvent) : Session W :=
  if generation = session.generation then
    match event with
    | .connected => session.onConnected
    | .connectionFailed reason => session.connectionFailed reason
    | .connectionLost reason => session.connectionLost reason
    | .message topic payload => session.enqueue (.inbound topic payload)
  else session

def nextDue? (session : Session W) : Option Nat :=
  session.waiting.head?.map (·.due)

def wake (session : Session W) : Session W :=
  match session.waiting with
  | [] => session
  | first :: waiting =>
    if first.due ≤ session.now then
      ({ session with waiting }.note (.woken first)).continuePublishing first.bundle
        first.context
    else session

/-- A wake-up does nothing, or the first continuation falls due. -/
theorem wake_cases (session : Session W) :
    session.wake = session ∨ ∃ first waiting, session.waiting = first :: waiting ∧
      first.due ≤ session.now ∧
        session.wake = ({ session with waiting }.note (.woken first)).continuePublishing
          first.bundle first.context := by
  unfold wake
  split
  · exact Or.inl rfl
  · rename_i first waiting waits
    split
    · rename_i due
      exact Or.inr ⟨first, waiting, waits, due, rfl⟩
    · exact Or.inl rfl

def advance (session : Session W) (millis : Nat) : Session W :=
  { session with now := session.now + millis }

/-- What can happen to a session, each carried out whole: a hook of a listener or a request
to the link that takes its time is not modelled. -/
inductive Move (W : Type) where
  | perform (operation : Operation)
  | receive (generation : Nat) (event : LinkEvent)
  | wake
  | step
  | advance (millis : Nat)
  | surround (outside : W)

/-- Operations, events and wake-ups wait for the agenda. -/
def permits (session : Session W) : Move W → Bool
  | .perform _ => session.isIdle
  | .receive _ _ => session.isIdle
  | .wake => session.isIdle
  | .step => true
  | .advance _ => true
  | .surround _ => true

def move (session : Session W) : Move W → Session W
  | .perform operation => (session.perform operation).1
  | .receive generation event => session.receive generation event
  | .wake => session.wake
  | .step => session.step
  | .advance millis => session.advance millis
  | .surround outside => { session with outside }

inductive Reaches (initial : Session W) : Session W → Prop where
  | here : Reaches initial initial
  | after {session : Session W} (next : Move W) :
      Reaches initial session → session.permits next → Reaches initial (session.move next)

end Session

end Messenger

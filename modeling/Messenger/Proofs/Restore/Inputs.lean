import Messenger.Restore.Machine

/-!
Everything that can be put into a restore machine, in any order and with any arguments,
and what a run of such inputs asks for.
-/

namespace Messenger

inductive RestoreInput where
  | beginRestore
  | beginSync (lastIndex : Option UInt64)
  | counts (counts : Counts)
  | batch (messages : List Message) (topic : String)
  | resume
  | cancel

namespace RestoreMachine

def handle (machine : RestoreMachine) : RestoreInput → RestoreMachine × List RestoreAction
  | .beginRestore => machine.beginRestore
  | .beginSync lastIndex => machine.beginSync lastIndex
  | .counts counts => machine.onCounts counts
  | .batch messages topic => machine.onBatch messages topic
  | .resume => (machine, machine.resume)
  | .cancel => machine.cancel

def after (machine : RestoreMachine) (inputs : List RestoreInput) : RestoreMachine :=
  inputs.foldl (fun machine input => (machine.handle input).1) machine

@[simp] theorem after_nil (machine : RestoreMachine) : machine.after [] = machine := rfl

@[simp] theorem after_cons (machine : RestoreMachine) (input : RestoreInput)
    (rest : List RestoreInput) :
    machine.after (input :: rest) = (machine.handle input).1.after rest := rfl

/-- What a run of inputs asks for, one after another. -/
def actions (machine : RestoreMachine) : List RestoreInput → List RestoreAction
  | [] => []
  | input :: rest => (machine.handle input).2 ++ (machine.handle input).1.actions rest

end RestoreMachine

end Messenger

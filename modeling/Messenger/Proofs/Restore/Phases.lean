import Messenger.Proofs.Restore.Progress
import Messenger.Proofs.Restore.Walk

/-!
The phases of a restore. An input leaves the phase as it is or moves it along an arrow of
one diagram, and out of the two ends no arrow leads but those of a new beginning: there,
answers that are late, resuming and cancelling do nothing.
-/

namespace Messenger

namespace RestoreInput

/-- Counts, or a page. A live batch is none of them. -/
def carriesOn : RestoreInput → Bool
  | .counts _ => true
  | .batch _ topic => Topic.isBatch topic
  | _ => false

def isBeginning : RestoreInput → Bool
  | .beginRestore => true
  | .beginSync _ => true
  | _ => false

end RestoreInput

namespace RestorePhase

inductive Arrow : RestorePhase → RestoreInput → RestorePhase → Prop
  | restore {phase : RestorePhase} : Arrow phase .beginRestore .restoringContacts
  | sync {phase : RestorePhase} {lastIndex : Option UInt64} :
      Arrow phase (.beginSync lastIndex) .notRestoring
  | messages {input : RestoreInput} : input.carriesOn = true →
      Arrow .restoringContacts input .restoringMessages
  | finish {phase : RestorePhase} {input : RestoreInput} :
      phase = .restoringContacts ∨ phase = .restoringMessages → input.carriesOn = true →
      Arrow phase input .finished
  | cancel {phase : RestorePhase} :
      phase = .restoringContacts ∨ phase = .restoringMessages →
      Arrow phase .cancel .cancelled

def Ended (phase : RestorePhase) : Prop :=
  phase = .finished ∨ phase = .cancelled

end RestorePhase

namespace RestoreMachine

variable {machine : RestoreMachine}

def Follows (phase : RestorePhase) (input : RestoreInput) (next : RestorePhase) : Prop :=
  next = phase ∨ phase.Arrow input next

theorem continueWith_phase (machine : RestoreMachine) (fetch : RestoreAction) :
    (machine.continueWith fetch).1.phase = machine.phase := by
  obtain ⟨emitted, same⟩ := continueWith_machine machine fetch
  rw [same]

theorem completeContacts_follows {input : RestoreInput} (carriesOn : input.carriesOn = true)
    (machine : RestoreMachine) :
    Follows .restoringContacts input machine.completeContacts.1.phase := by
  refine Or.inr ?_
  unfold completeContacts
  dsimp only
  split
  · exact .finish (Or.inl rfl) carriesOn
  · split
    · exact .messages carriesOn
    · exact .messages carriesOn

theorem onCounts_follows (machine : RestoreMachine) (counts : Counts) :
    Follows machine.phase (.counts counts) (machine.onCounts counts).1.phase := by
  unfold onCounts
  split
  · rename_i awaits
    dsimp only
    split
    · rw [awaits.1]
      exact completeContacts_follows rfl _
    · exact Or.inl rfl
  · exact Or.inl rfl

theorem onContactsPage_follows {input : RestoreInput} (carriesOn : input.carriesOn = true)
    (phase : machine.phase = .restoringContacts) (count : UInt64)
    (highest : Option UInt64) :
    Follows .restoringContacts input (machine.onContactsPage count highest).1.phase := by
  unfold onContactsPage
  split
  · exact completeContacts_follows carriesOn _
  · dsimp only
    split
    · exact completeContacts_follows carriesOn _
    · rw [continueWith_phase]
      exact Or.inl phase

theorem onMessagesPage_follows {input : RestoreInput} (carriesOn : input.carriesOn = true)
    (phase : machine.phase = .restoringMessages) (count : UInt64)
    (lowest : Option UInt64) :
    Follows .restoringMessages input (machine.onMessagesPage count lowest).1.phase := by
  unfold onMessagesPage
  split
  · exact Or.inr (.finish (Or.inr rfl) carriesOn)
  · dsimp only
    split
    · exact Or.inr (.finish (Or.inr rfl) carriesOn)
    · rw [continueWith_phase]
      exact Or.inl phase

theorem onSyncPage_phase (machine : RestoreMachine) (highest : Option UInt64) :
    (machine.onSyncPage highest).1.phase = machine.phase := by
  cases highest <;> rfl

theorem onBatch_follows (machine : RestoreMachine) (messages : List Message)
    (topic : String) :
    Follows machine.phase (.batch messages topic) (machine.onBatch messages topic).1.phase := by
  unfold onBatch
  dsimp only
  split
  · rename_i batch
    have carriesOn : (RestoreInput.batch messages topic).carriesOn = true := batch
    split
    · rename_i phase
      rw [phase]
      split
      · exact Or.inl phase
      · exact onContactsPage_follows carriesOn phase _ _
    · rename_i phase
      rw [phase]
      exact onMessagesPage_follows carriesOn phase _ _
    · exact Or.inl (onSyncPage_phase machine _)
    · exact Or.inl rfl
    · exact Or.inl rfl
  · split
    · exact Or.inl rfl
    · exact Or.inl rfl

theorem cancel_follows (machine : RestoreMachine) :
    Follows machine.phase .cancel machine.cancel.1.phase := by
  unfold cancel
  split
  · rename_i restoring
    exact Or.inr (.cancel (isRestoring_iff.mp restoring))
  · exact Or.inl rfl

theorem handle_follows (machine : RestoreMachine) (input : RestoreInput) :
    Follows machine.phase input (machine.handle input).1.phase := by
  cases input with
  | beginRestore => exact Or.inr .restore
  | beginSync lastIndex => cases lastIndex <;> exact Or.inr .sync
  | counts counts => exact onCounts_follows machine counts
  | batch messages topic => exact onBatch_follows machine messages topic
  | resume => exact Or.inl rfl
  | cancel => exact cancel_follows machine

/-- All that can still change is the highest index seen, by live traffic. -/
theorem handle_of_ended (ended : machine.phase.Ended) {input : RestoreInput}
    (goesOn : input.isBeginning = false) :
    ∃ highestIndex, machine.handle input = ({ machine with highestIndex }, []) := by
  have idle : machine.isRestoring = false := by
    rcases ended with phase | phase <;> rw [isRestoring, phase] <;> rfl
  have unchanged : ∃ highestIndex, (machine, ([] : List RestoreAction)) =
      ({ machine with highestIndex }, []) := ⟨machine.highestIndex, rfl⟩
  cases input with
  | beginRestore => cases goesOn
  | beginSync lastIndex => cases goesOn
  | counts counts =>
      have past : machine.phase ≠ .restoringContacts := by
        rcases ended with phase | phase <;> simp [phase]
      rw [handle, onCounts_late fun waits => past waits.1]
      exact unchanged
  | batch messages topic =>
      cases batch : Topic.isBatch topic with
      | true =>
          rw [handle, onBatch_late ended messages batch]
          exact unchanged
      | false =>
          rw [handle, onBatch_live machine messages batch]
          cases Message.highestIndex? messages with
          | none => exact unchanged
          | some index => exact ⟨_, rfl⟩
  | resume =>
      have silent : machine.resume = [] := by
        rcases ended with phase | phase <;> simp [resume, phase]
      rw [handle, silent]
      exact unchanged
  | cancel =>
      have silent : machine.cancel = (machine, []) := by simp [cancel, idle]
      rw [handle, silent]
      exact unchanged

theorem after_of_ended (ended : machine.phase.Ended) {inputs : List RestoreInput}
    (goesOn : ∀ input ∈ inputs, input.isBeginning = false) :
    machine.actions inputs = [] ∧
      ∃ highestIndex, machine.after inputs = { machine with highestIndex } := by
  induction inputs generalizing machine with
  | nil => exact ⟨rfl, machine.highestIndex, rfl⟩
  | cons input rest induction =>
      obtain ⟨seen, step⟩ := handle_of_ended ended (goesOn input List.mem_cons_self)
      obtain ⟨silent, highestIndex, later⟩ :=
        @induction { machine with highestIndex := seen } ended fun input member =>
          goesOn input (List.mem_cons_of_mem _ member)
      rw [actions, after_cons, step]
      exact ⟨silent, highestIndex, later⟩

/-- Every input of a run leaves the phase or follows an arrow. Once a restore has finished
or was cancelled, nothing but a new beginning asks for anything or changes its phase, its
counters or its percentage. -/
theorem follows_arrows_to_an_end (contactsPageSize messagesPageSize : UInt32)
    (earlier : List RestoreInput) :
    let machine := (new contactsPageSize messagesPageSize).after earlier
    (∀ input, (machine.handle input).1.phase = machine.phase ∨
      machine.phase.Arrow input (machine.handle input).1.phase) ∧
    (machine.phase = .finished ∨ machine.phase = .cancelled →
      ∀ later : List RestoreInput, (∀ input ∈ later, input.isBeginning = false) →
        machine.actions later = [] ∧
          (machine.after later).phase = machine.phase ∧
          (machine.after later).progress = machine.progress ∧
          (machine.after later).percentage = machine.percentage) := by
  intro machine
  refine ⟨handle_follows machine, fun ended later goesOn => ?_⟩
  obtain ⟨silent, highestIndex, same⟩ := after_of_ended ended goesOn
  rw [same]
  exact ⟨silent, rfl, rfl, rfl⟩

/-- All that may come late: other counts, a page, the end of the pages and live traffic. -/
def lateAnswers : List RestoreInput :=
  [.counts ⟨some 7, none, some 5, some 9, none, none⟩, pageOf "1", .batch [] "x/batch",
    .batch [Message.numbered 12] "x/stream", .resume, .cancel]

theorem ends_wholeWalk :
    let machine := (new 1 1).after (.beginRestore :: wholeWalk)
    machine.phase = .finished ∧ (∀ input ∈ lateAnswers, input.isBeginning = false) ∧
      machine.actions lateAnswers = [] ∧ (machine.after lateAnswers).percentage = 100 := by
  intro machine
  have ended : machine.phase = .finished := by decide +kernel
  have goesOn : ∀ input ∈ lateAnswers, input.isBeginning = false := by decide
  have late := (follows_arrows_to_an_end 1 1 (.beginRestore :: wholeWalk)).2 (Or.inl ended)
    lateAnswers goesOn
  refine ⟨ended, goesOn, late.1, late.2.2.2.trans ?_⟩
  rw [percentage, ended]

end RestoreMachine

end Messenger

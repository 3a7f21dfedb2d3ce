import Mathlib.Data.List.Induction
import Messenger.Proofs.Restore.Answers
import Messenger.Proofs.Restore.Progress

/-!
What a restore waits for. Its cursors stand where the request that was made last begins, so
to ask again is to ask for the same.
-/

namespace Messenger

namespace RestoreAction

/-- A request for the counts or for a page. -/
def isFetch : RestoreAction → Bool
  | .fetchCounts => true
  | .fetchContacts _ _ => true
  | .fetchMessages _ _ _ => true
  | _ => false

def lastFetch? (actions : List RestoreAction) : Option RestoreAction :=
  (actions.filter isFetch).getLast?

theorem lastFetch?_append (actions more : List RestoreAction) :
    lastFetch? (actions ++ more) = (lastFetch? more).or (lastFetch? actions) := by
  rw [lastFetch?, List.filter_append, List.getLast?_append]
  rfl

theorem lastFetch?_of_asksFor {actions : List RestoreAction} {fetch : RestoreAction}
    (asks : RestoreMachine.AsksFor actions fetch) (fetches : fetch.isFetch = true) :
    lastFetch? actions = some fetch := by
  obtain ⟨reports, rfl, -⟩ := asks
  rw [lastFetch?_append, lastFetch?, List.filter_cons_of_pos fetches]
  rfl

end RestoreAction

namespace RestoreMachine

open RestoreAction (lastFetch? lastFetch?_append lastFetch?_of_asksFor)

theorem after_concat (machine : RestoreMachine) (inputs : List RestoreInput)
    (input : RestoreInput) :
    machine.after (inputs ++ [input]) = ((machine.after inputs).handle input).1 := by
  rw [after, List.foldl_append]
  rfl

theorem actions_concat (machine : RestoreMachine) (inputs : List RestoreInput)
    (input : RestoreInput) :
    machine.actions (inputs ++ [input]) =
      machine.actions inputs ++ ((machine.after inputs).handle input).2 := by
  induction inputs generalizing machine with
  | nil => exact List.append_nil _
  | cons first rest induction =>
      rw [List.cons_append, actions, induction, after_cons, actions, List.append_assoc]

/-- Where the cursors stand before the walks that they are for. -/
structure Primed (machine : RestoreMachine) : Prop where
  contacts : machine.phase = .restoringContacts → machine.awaitingCounts = true →
    machine.contactsCursor = 0
  messages : machine.phase = .restoringContacts →
    machine.messagesCursor = machine.newestIndex

/-- What an input does to the request that is outstanding. -/
inductive Reissues (machine : RestoreMachine)
    (step : RestoreMachine × List RestoreAction) : Prop
  | stopped (ended : step.1.isRestoring = false)
  | same (restoring : machine.isRestoring = true) (silent : lastFetch? step.2 = none)
      (kept : step.1.resume = machine.resume)
  | next {fetch : RestoreAction} (restoring : machine.isRestoring = true)
      (asked : lastFetch? step.2 = some fetch) (awaits : step.1.resume = [fetch])

variable {first machine : RestoreMachine}

theorem Primed.elsewhere (phase : machine.phase ≠ .restoringContacts) : machine.Primed :=
  ⟨fun same => absurd same phase, fun same => absurd same phase⟩

theorem Primed.idle (idle : machine.isRestoring = false) : machine.Primed := by
  refine .elsewhere fun phase => ?_
  rw [isRestoring, phase] at idle
  cases idle

theorem Reissues.silent {next : RestoreMachine} (resume : next.resume = machine.resume)
    (restoring : next.isRestoring = machine.isRestoring) : Reissues machine (next, []) := by
  cases goesOn : machine.isRestoring with
  | false => exact .stopped (restoring.trans goesOn)
  | true => exact .same goesOn rfl resume

theorem completeContacts_reissues (restoring : first.isRestoring = true)
    (start : machine.messagesCursor = machine.newestIndex) :
    machine.completeContacts.1.Primed ∧ Reissues first machine.completeContacts := by
  by_cases left : machine.progress.messagesTotal = 0
  · have ended : machine.completeContacts.1.isRestoring = false := by
      simp [completeContacts, left, finish, isRestoring, RestorePhase.isRestoring]
    exact ⟨.idle ended, .stopped ended⟩
  · obtain ⟨_, _, _, moved⟩ := completeContacts_machine machine left
    have asked := lastFetch?_of_asksFor (completeContacts_asksFor machine left) rfl
    refine ⟨.elsewhere (by simp [moved]), .next restoring asked ?_⟩
    rw [moved, ← start]
    rfl

theorem continueWith_reissues {fetch : RestoreAction} (restoring : first.isRestoring = true)
    (fetches : fetch.isFetch = true) (awaits : machine.resume = [fetch]) :
    Reissues first (machine.continueWith fetch) := by
  obtain ⟨emitted, same⟩ := continueWith_machine machine fetch
  have asked := lastFetch?_of_asksFor (continueWith_asksFor machine fetch) fetches
  refine .next restoring asked ?_
  rw [same]
  exact awaits

theorem onCounts_reissues (primed : machine.Primed) (counts : Counts) :
    (machine.onCounts counts).1.Primed ∧ Reissues machine (machine.onCounts counts) := by
  unfold onCounts
  split
  · rename_i awaits
    have restoring : machine.isRestoring = true := isRestoring_iff.mpr (Or.inl awaits.1)
    dsimp only
    split
    · exact completeContacts_reissues restoring rfl
    · refine ⟨⟨nofun, fun _ => rfl⟩, .next restoring rfl ?_⟩
      simp [resume, awaits.1, fetchContactsAt, primed.contacts awaits.1 awaits.2]
  · exact ⟨primed, .silent rfl rfl⟩

theorem onContactsPage_reissues (primed : machine.Primed)
    (phase : machine.phase = .restoringContacts) (read : machine.awaitingCounts = false)
    (count : UInt64) (highest : Option UInt64) :
    (machine.onContactsPage count highest).1.Primed ∧
      Reissues machine (machine.onContactsPage count highest) := by
  have restoring : machine.isRestoring = true := isRestoring_iff.mpr (Or.inl phase)
  unfold onContactsPage
  split
  · exact completeContacts_reissues restoring (primed.messages phase)
  · dsimp only
    split
    · exact completeContacts_reissues restoring (primed.messages phase)
    · refine ⟨?_, continueWith_reissues restoring rfl (by simp [resume, phase, read])⟩
      obtain ⟨emitted, same⟩ := continueWith_machine _ _
      rw [same]
      exact ⟨fun _ awaits => absurd (read.symm.trans awaits) (by decide), primed.messages⟩

theorem onMessagesPage_reissues (phase : machine.phase = .restoringMessages) (count : UInt64)
    (lowest : Option UInt64) :
    (machine.onMessagesPage count lowest).1.Primed ∧
      Reissues machine (machine.onMessagesPage count lowest) := by
  have restoring : machine.isRestoring = true := isRestoring_iff.mpr (Or.inr phase)
  unfold onMessagesPage
  split
  · exact ⟨.idle rfl, .stopped rfl⟩
  · dsimp only
    split
    · exact ⟨.idle rfl, .stopped rfl⟩
    · refine ⟨?_, continueWith_reissues restoring rfl (by simp [resume, phase])⟩
      obtain ⟨emitted, same⟩ := continueWith_machine _ _
      rw [same]
      exact .elsewhere (by simp [phase])

theorem onBatch_reissues (primed : machine.Primed) (messages : List Message)
    (topic : String) :
    (machine.onBatch messages topic).1.Primed ∧
      Reissues machine (machine.onBatch messages topic) := by
  have ignored : machine.Primed ∧ Reissues machine (machine, []) := ⟨primed, .silent rfl rfl⟩
  unfold onBatch
  dsimp only
  split
  · split
    · rename_i phase
      split
      · exact ignored
      · rename_i read
        exact onContactsPage_reissues primed phase (Bool.eq_false_iff.mpr read) _ _
    · rename_i phase
      exact onMessagesPage_reissues phase _ _
    · rename_i phase
      have ended : (machine.onSyncPage (Message.highestIndex? messages)).1.isRestoring =
          false := by
        unfold onSyncPage
        split <;> simp [observe, isRestoring, phase, RestorePhase.isRestoring]
      exact ⟨.idle ended, .stopped ended⟩
    · exact ignored
    · exact ignored
  · split
    · exact ⟨⟨primed.contacts, primed.messages⟩, .silent rfl rfl⟩
    · exact ignored

theorem cancel_reissues (machine : RestoreMachine) :
    machine.cancel.1.Primed ∧ Reissues machine machine.cancel :=
  ⟨.idle machine.cancel_isRestoring, .stopped machine.cancel_isRestoring⟩

theorem resume_reissues (machine : RestoreMachine) :
    Reissues machine (machine, machine.resume) := by
  cases phase : machine.phase with
  | restoringContacts =>
      have restoring : machine.isRestoring = true := isRestoring_iff.mpr (Or.inl phase)
      cases awaits : machine.awaitingCounts with
      | true =>
          have again : machine.resume = [.fetchCounts] := by simp [resume, phase, awaits]
          exact .next restoring (by rw [again]; rfl) again
      | false =>
          have again : machine.resume = [machine.fetchContactsAt machine.contactsCursor] := by
            simp [resume, phase, awaits]
          exact .next restoring (by rw [again]; rfl) again
  | restoringMessages =>
      have restoring : machine.isRestoring = true := isRestoring_iff.mpr (Or.inr phase)
      have again : machine.resume = [machine.fetchBackward machine.messagesCursor] := by
        simp [resume, phase]
      exact .next restoring (by rw [again]; rfl) again
  | _ => exact .stopped (by rw [isRestoring, phase]; rfl)

theorem handle_reissues (primed : machine.Primed) {input : RestoreInput}
    (goesOn : input ≠ .beginRestore) :
    (machine.handle input).1.Primed ∧ Reissues machine (machine.handle input) := by
  cases input with
  | beginRestore => exact absurd rfl goesOn
  | beginSync lastIndex =>
      have ended : (machine.beginSync lastIndex).1.isRestoring = false := by
        cases lastIndex <;> rfl
      exact ⟨.idle ended, .stopped ended⟩
  | counts counts => exact onCounts_reissues primed counts
  | batch messages topic => exact onBatch_reissues primed messages topic
  | resume => exact ⟨primed, resume_reissues machine⟩
  | cancel => exact cancel_reissues machine

/-- The request that a run made last since it began a restore. -/
def Outstanding (machine : RestoreMachine) (inputs : List RestoreInput)
    (fetch : RestoreAction) : Prop :=
  ∃ earlier later, inputs = earlier ++ .beginRestore :: later ∧ .beginRestore ∉ later ∧
    lastFetch? ((machine.after earlier).actions (.beginRestore :: later)) = some fetch

theorem Outstanding.begun (machine : RestoreMachine) (inputs : List RestoreInput) :
    Outstanding machine (inputs ++ [.beginRestore]) .fetchCounts :=
  ⟨inputs, [], rfl, List.not_mem_nil, rfl⟩

theorem Outstanding.concat {inputs : List RestoreInput} {input : RestoreInput}
    {fetch : RestoreAction} (outstanding : Outstanding machine inputs fetch)
    (goesOn : input ≠ .beginRestore) :
    Outstanding machine (inputs ++ [input])
      ((lastFetch? ((machine.after inputs).handle input).2).getD fetch) := by
  obtain ⟨earlier, later, rfl, unbegun, last⟩ := outstanding
  have whole : (machine.after earlier).after (.beginRestore :: later) =
      machine.after (earlier ++ .beginRestore :: later) := by
    rw [after, after, after, List.foldl_append]
  refine ⟨earlier, later ++ [input], by simp, ?_, ?_⟩
  · simpa [unbegun] using goesOn.symm
  · rw [← List.cons_append, actions_concat, lastFetch?_append, whole, last]
    cases lastFetch? ((machine.after _).handle input).2 <;> rfl

theorem after_awaits {inputs : List RestoreInput} (primed : machine.Primed)
    (idle : machine.isRestoring = false) :
    (machine.after inputs).Primed ∧
      ((machine.after inputs).isRestoring = true →
        ∃ fetch, Outstanding machine inputs fetch ∧
          (machine.after inputs).resume = [fetch]) := by
  -- from the right: only the last input decides whether the request stands or is a new one
  induction inputs using List.reverseRecOn with
  | nil => exact ⟨primed, fun restoring => absurd (idle.symm.trans restoring) (by decide)⟩
  | append_singleton inputs input induction =>
      obtain ⟨before, awaits⟩ := induction
      rw [after_concat]
      by_cases again : input = .beginRestore
      · subst again
        exact ⟨⟨fun _ _ => rfl, fun _ => rfl⟩,
          fun _ => ⟨.fetchCounts, .begun machine inputs, rfl⟩⟩
      · obtain ⟨after, reissues⟩ := handle_reissues before again
        refine ⟨after, fun restoring => ?_⟩
        cases reissues with
        | stopped ended => exact absurd (ended.symm.trans restoring) (by decide)
        | same restored silent kept =>
            obtain ⟨fetch, outstanding, resumes⟩ := awaits restored
            have still := outstanding.concat again
            rw [silent] at still
            exact ⟨fetch, still, kept.trans resumes⟩
        | @next fetch restored asked resumes =>
            obtain ⟨_, outstanding, -⟩ := awaits restored
            have now := outstanding.concat again
            rw [asked] at now
            exact ⟨fetch, now, resumes⟩

/-- While a restore is under way, resuming it asks once more for what was asked for last
since it was begun, and otherwise for nothing. The machine stays as it is. -/
theorem resume_asks_for_outstanding (contactsPageSize messagesPageSize : UInt32)
    (inputs : List RestoreInput) :
    let start := new contactsPageSize messagesPageSize
    let machine := start.after inputs
    (machine.phase = .restoringContacts ∨ machine.phase = .restoringMessages →
      ∃ fetch, Outstanding start inputs fetch ∧ machine.resume = [fetch]) ∧
    (¬(machine.phase = .restoringContacts ∨ machine.phase = .restoringMessages) →
      machine.resume = []) ∧
    machine.handle .resume = (machine, machine.resume) := by
  intro start machine
  refine ⟨fun under => ?_, fun apart => ?_, rfl⟩
  · exact (after_awaits (.idle rfl) rfl).2 (isRestoring_iff.mpr under)
  · rw [resume]
    cases phase : machine.phase with
    | restoringContacts => exact absurd (Or.inl phase) apart
    | restoringMessages => exact absurd (Or.inr phase) apart
    | _ => rfl

end RestoreMachine

end Messenger

import Messenger.Proofs.Restore.Inputs
import Messenger.Proofs.Restore.Walk

/-!
What an answer does to a restore. It neither begins one nor ends one without finishing it,
and the highest index seen is the one that was, or one that the answer brought.
-/

namespace Messenger

namespace RestoreInput

/-- What comes in bundles. -/
def isAnswer : RestoreInput → Bool
  | .counts _ => true
  | .batch _ _ => true
  | _ => false

end RestoreInput

namespace RestoreMachine

variable {machine : RestoreMachine}

theorem completeContacts_isRestoring (machine : RestoreMachine) :
    machine.completeContacts.1.isRestoring =
      decide (.finished ∉ machine.completeContacts.2) := by
  unfold completeContacts
  dsimp only
  split
  · simp [finish, isRestoring, RestorePhase.isRestoring]
  · split
    · simp [isRestoring, RestorePhase.isRestoring, fetchBackward]
    · simp [isRestoring, RestorePhase.isRestoring, fetchBackward]

theorem continueWith_isRestoring {fetch : RestoreAction} (fetches : .finished ≠ fetch) :
    (machine.continueWith fetch).1.isRestoring =
      (machine.isRestoring && decide (.finished ∉ (machine.continueWith fetch).2)) := by
  obtain ⟨emitted, same⟩ := continueWith_machine machine fetch
  have unfinished : .finished ∉ (machine.continueWith fetch).2 := fun member =>
    fetches (((continueWith_asksFor machine fetch).mem_iff (by simp)).mp member)
  rw [decide_eq_true unfinished, Bool.and_true, same]
  rfl

theorem onContactsPage_isRestoring (restoring : machine.isRestoring = true) (count : UInt64)
    (highest : Option UInt64) :
    (machine.onContactsPage count highest).1.isRestoring =
      decide (.finished ∉ (machine.onContactsPage count highest).2) := by
  unfold onContactsPage
  split
  · exact completeContacts_isRestoring machine
  · dsimp only
    split
    · exact completeContacts_isRestoring _
    · rw [continueWith_isRestoring (by simp [fetchContactsAt])]
      exact Bool.and_eq_right_iff_imp.mpr fun _ => restoring

theorem onMessagesPage_isRestoring (restoring : machine.isRestoring = true) (count : UInt64)
    (lowest : Option UInt64) :
    (machine.onMessagesPage count lowest).1.isRestoring =
      decide (.finished ∉ (machine.onMessagesPage count lowest).2) := by
  unfold onMessagesPage
  split
  · simp [finish, isRestoring, RestorePhase.isRestoring]
  · dsimp only
    split
    · simp [finish, isRestoring, RestorePhase.isRestoring]
    · rw [continueWith_isRestoring (by simp [fetchBackward])]
      exact Bool.and_eq_right_iff_imp.mpr fun _ => restoring

theorem onCounts_isRestoring (machine : RestoreMachine) (counts : Counts) :
    (machine.onCounts counts).1.isRestoring =
      (machine.isRestoring && decide (.finished ∉ (machine.onCounts counts).2)) := by
  unfold onCounts
  split
  · rename_i awaits
    have restoring : machine.isRestoring = true := by rw [isRestoring, awaits.1]; rfl
    rw [restoring, Bool.true_and]
    dsimp only
    split
    · exact completeContacts_isRestoring _
    · rw [decide_eq_true (by simp [fetchContactsAt])]
      exact restoring
  · simp

theorem onBatch_isRestoring (machine : RestoreMachine) (messages : List Message)
    (topic : String) :
    (machine.onBatch messages topic).1.isRestoring =
      (machine.isRestoring && decide (.finished ∉ (machine.onBatch messages topic).2)) := by
  unfold onBatch
  dsimp only
  split
  · split
    · rename_i phase
      have restoring : machine.isRestoring = true := by rw [isRestoring, phase]; rfl
      split
      · simp
      · rw [restoring, Bool.true_and]
        exact onContactsPage_isRestoring restoring _ _
    · rename_i phase
      have restoring : machine.isRestoring = true := by rw [isRestoring, phase]; rfl
      rw [restoring, Bool.true_and]
      exact onMessagesPage_isRestoring restoring _ _
    · rename_i phase
      have idle : machine.isRestoring = false := by rw [isRestoring, phase]; rfl
      rw [idle, Bool.false_and]
      unfold onSyncPage
      split
      · exact idle
      · exact idle
    · simp
    · simp
  · split
    · rw [decide_eq_true List.not_mem_nil, Bool.and_true]
      rfl
    · simp

/-- An answer neither begins a restore nor ends one without finishing it. -/
theorem answer_isRestoring (machine : RestoreMachine) {input : RestoreInput}
    (answers : input.isAnswer = true) :
    (machine.handle input).1.isRestoring =
      (machine.isRestoring && decide (.finished ∉ (machine.handle input).2)) := by
  cases input with
  | counts counts => exact onCounts_isRestoring machine counts
  | batch messages topic => exact onBatch_isRestoring machine messages topic
  | _ => cases answers

theorem cancel_isRestoring (machine : RestoreMachine) :
    machine.cancel.1.isRestoring = false := by
  unfold cancel
  split
  · rfl
  · rename_i idle
    exact Bool.eq_false_iff.mpr idle

theorem mem_highestIndex_observe {index highest : UInt64}
    (seen : highest ∈ (machine.observe index).highestIndex) :
    highest ∈ machine.highestIndex ∨ highest = index := by
  have same : max (machine.highestIndex.getD index) index = highest := Option.some.inj seen
  rw [Word.max_eq] at same
  split at same
  · exact Or.inr same.symm
  · rename_i above
    cases before : machine.highestIndex with
    | none =>
        rw [before] at above
        exact absurd (UInt64.le_refl index) above
    | some earlier =>
        rw [before] at same
        exact Or.inl (congrArg some same)

theorem continueWith_highestIndex (machine : RestoreMachine) (fetch : RestoreAction) :
    (machine.continueWith fetch).1.highestIndex = machine.highestIndex := by
  obtain ⟨emitted, same⟩ := continueWith_machine machine fetch
  rw [same]

theorem completeContacts_highestIndex (machine : RestoreMachine) :
    machine.completeContacts.1.highestIndex = machine.highestIndex := by
  unfold completeContacts
  dsimp only
  split
  · rfl
  · split <;> rfl

theorem onCounts_highestIndex (machine : RestoreMachine) (counts : Counts) :
    (machine.onCounts counts).1.highestIndex = machine.highestIndex := by
  unfold onCounts
  split
  · dsimp only
    split
    · exact completeContacts_highestIndex _
    · rfl
  · rfl

theorem cancel_highestIndex (machine : RestoreMachine) :
    machine.cancel.1.highestIndex = machine.highestIndex := by
  unfold cancel
  split <;> rfl

theorem onContactsPage_highestIndex (machine : RestoreMachine) (count : UInt64)
    (highest : Option UInt64) :
    (machine.onContactsPage count highest).1.highestIndex = machine.highestIndex := by
  unfold onContactsPage
  split
  · exact completeContacts_highestIndex machine
  · dsimp only
    split
    · exact completeContacts_highestIndex _
    · exact continueWith_highestIndex _ _

theorem onMessagesPage_highestIndex (machine : RestoreMachine) (count : UInt64)
    (lowest : Option UInt64) :
    (machine.onMessagesPage count lowest).1.highestIndex = machine.highestIndex := by
  unfold onMessagesPage
  split
  · rfl
  · dsimp only
    split
    · rfl
    · exact continueWith_highestIndex _ _

theorem mem_highestIndex_onBatch {messages : List Message} {topic : String}
    {highest : UInt64} (seen : highest ∈ (machine.onBatch messages topic).1.highestIndex) :
    highest ∈ machine.highestIndex ∨ highest ∈ Message.highestIndex? messages := by
  unfold onBatch at seen
  dsimp only at seen
  split at seen
  · split at seen
    · split at seen
      · exact Or.inl seen
      · exact Or.inl (onContactsPage_highestIndex machine _ _ ▸ seen)
    · exact Or.inl (onMessagesPage_highestIndex machine _ _ ▸ seen)
    · unfold onSyncPage at seen
      split at seen
      · rename_i index brought
        exact (mem_highestIndex_observe seen).imp_right fun same =>
        brought.trans (congrArg some same.symm)
      · exact Or.inl seen
    · exact Or.inl seen
    · exact Or.inl seen
  · split at seen
    · rename_i index brought
      exact (mem_highestIndex_observe seen).imp_right fun same =>
        brought.trans (congrArg some same.symm)
    · exact Or.inl seen

theorem mem_highestIndex_beginSync {lastIndex : Option UInt64} {highest : UInt64}
    (seen : highest ∈ (machine.beginSync lastIndex).1.highestIndex) :
    highest ∈ machine.highestIndex ∨ highest ∈ lastIndex := by
  cases lastIndex with
  | none => exact Or.inl seen
  | some last =>
      exact (mem_highestIndex_observe seen).imp_right fun same => congrArg some same.symm

end RestoreMachine

end Messenger

import Messenger.Proofs.Restore.Progress
import Messenger.Proofs.Restore.Walk

/-!
The percentage that is read off a restore before and after each input. As long as the counts
are awaited it is that of complete contacts, and from the counts on it never falls. So there
is one place where it can fall, the arrival of the counts, and it does if and only if they
announce contacts.
-/

namespace Messenger

namespace RestoreInput

/-- Neither a beginning nor a cancel. -/
def goesOn : RestoreInput → Bool
  | .counts _ => true
  | .batch _ _ => true
  | .resume => true
  | _ => false

def counts? : RestoreInput → Option Counts
  | counts counted => some counted
  | _ => none

end RestoreInput

namespace RestoreMachine

variable {machine : RestoreMachine}

/-- The percentage before the first input and after each. -/
def readings (machine : RestoreMachine) : List RestoreInput → List UInt8
  | [] => [machine.percentage]
  | input :: rest => machine.percentage :: (machine.handle input).1.readings rest

/-- A restore that has its counts, and may have finished. -/
def Counted (machine : RestoreMachine) : Prop :=
  machine.phase = .restoringContacts ∧ machine.awaitingCounts = false ∨
    machine.phase = .restoringMessages ∨ machine.phase = .finished

def Rises (machine next : RestoreMachine) : Prop :=
  next.Counted ∧ machine.percentage ≤ next.percentage

theorem Counted.rises (counted : machine.Counted) : Rises machine machine :=
  ⟨counted, UInt8.le_refl _⟩

theorem finish_rises (below : machine.percentage ≤ 100) (last : RestoreMachine) :
    Rises machine last.finish.1 :=
  ⟨Or.inr (Or.inr rfl), below⟩

theorem continueWith_rises {next : RestoreMachine} (rises : Rises machine next)
    (fetch : RestoreAction) : Rises machine (next.continueWith fetch).1 := by
  obtain ⟨emitted, same⟩ := continueWith_machine next fetch
  rw [same]
  exact rises

theorem completeContacts_rises (below : machine.percentage ≤ RestoreProgress.contactsWeight)
    (last : RestoreMachine) : Rises machine last.completeContacts.1 := by
  by_cases left : last.progress.messagesTotal = 0
  · obtain ⟨final, same⟩ := completeContacts_finish last left
    rw [same]
    exact finish_rises (UInt8.le_trans below (by decide)) final
  · obtain ⟨contactsRestored, contactsHighestIndex, emitted, same⟩ :=
      completeContacts_machine last left
    rw [same]
    refine ⟨Or.inr (Or.inl rfl), UInt8.le_trans below ?_⟩
    exact RestoreProgress.contactsWeight_le_messagesPercentage _

theorem percentage_restoringContacts (phase : machine.phase = .restoringContacts) :
    machine.percentage = machine.progress.contactsPercentage := by
  rw [percentage, phase]

theorem percentage_restoringMessages (phase : machine.phase = .restoringMessages) :
    machine.percentage = machine.progress.messagesPercentage := by
  rw [percentage, phase]

theorem rises_inContacts {next : RestoreMachine} (phase : machine.phase = .restoringContacts)
    (stays : next.phase = .restoringContacts) (counted : next.awaitingCounts = false)
    (total : next.progress.contactsTotal = machine.progress.contactsTotal)
    (further : machine.progress.contactsHighestIndex ≤ next.progress.contactsHighestIndex) :
    Rises machine next := by
  refine ⟨Or.inl ⟨stays, counted⟩, ?_⟩
  rw [percentage_restoringContacts phase, percentage_restoringContacts stays]
  exact RestoreProgress.contactsPercentage_mono (UInt64.le_of_eq total) further

theorem rises_inMessages {next : RestoreMachine} (phase : machine.phase = .restoringMessages)
    (stays : next.phase = .restoringMessages)
    (total : next.progress.messagesTotal = machine.progress.messagesTotal)
    (more : machine.progress.messagesRestored ≤ next.progress.messagesRestored) :
    Rises machine next := by
  refine ⟨Or.inr (Or.inl stays), ?_⟩
  rw [percentage_restoringMessages phase, percentage_restoringMessages stays]
  exact RestoreProgress.messagesPercentage_mono (UInt64.le_of_eq total) more

theorem onContactsPage_rises (phase : machine.phase = .restoringContacts)
    (counted : machine.awaitingCounts = false) (count : UInt64) (highest : Option UInt64) :
    Rises machine (machine.onContactsPage count highest).1 := by
  have below : machine.percentage ≤ RestoreProgress.contactsWeight := by
    rw [percentage_restoringContacts phase]
    exact machine.progress.contactsPercentage_le
  unfold onContactsPage
  split
  · exact completeContacts_rises below machine
  · dsimp only
    split
    · exact completeContacts_rises below _
    · apply continueWith_rises
      exact rises_inContacts phase phase counted rfl Std.left_le_max

theorem onMessagesPage_rises (phase : machine.phase = .restoringMessages) (count : UInt64)
    (lowest : Option UInt64) : Rises machine (machine.onMessagesPage count lowest).1 := by
  have below : machine.percentage ≤ 100 := by
    rw [percentage_restoringMessages phase]
    exact machine.progress.messagesPercentage_le
  unfold onMessagesPage
  split
  · exact finish_rises below machine
  · dsimp only
    split
    · exact finish_rises below _
    · have more : machine.progress.messagesRestored ≤
          Word.saturatingAdd machine.progress.messagesRestored count := by
        have bound :=
          UInt64.le_iff_toNat_le.mp (Word.le_largest machine.progress.messagesRestored)
        rw [UInt64.le_iff_toNat_le, Word.toNat_saturatingAdd]
        omega
      apply continueWith_rises
      exact rises_inMessages phase phase rfl more

theorem onCounts_rises (counted : machine.Counted) (counts : Counts) :
    Rises machine (machine.onCounts counts).1 := by
  have late : ¬(machine.phase = .restoringContacts ∧ machine.awaitingCounts = true) := by
    rintro ⟨phase, awaits⟩
    rcases counted with ⟨-, answered⟩ | other | other
    · exact Bool.false_ne_true (answered.symm.trans awaits)
    · cases phase.symm.trans other
    · cases phase.symm.trans other
  rw [onCounts_late late]
  exact counted.rises

theorem onBatch_rises (counted : machine.Counted) (messages : List Message)
    (topic : String) : Rises machine (machine.onBatch messages topic).1 := by
  cases batch : Topic.isBatch topic with
  | false =>
      rw [onBatch_live machine messages batch]
      cases Message.highestIndex? messages <;> exact counted.rises
  | true =>
      rcases counted with ⟨phase, answered⟩ | phase | phase
      · rw [onBatch_restoringContacts phase answered messages batch]
        exact onContactsPage_rises phase answered _ _
      · have page : machine.onBatch messages topic =
            machine.onMessagesPage (Word.ofCount messages.length)
              (Message.lowestIndex? messages) := by
          simp [onBatch, batch, phase]
        rw [page]
        exact onMessagesPage_rises phase _ _
      · rw [onBatch_late (Or.inl phase) messages batch]
        exact Counted.rises (Or.inr (Or.inr phase))

theorem handle_rises (counted : machine.Counted) {input : RestoreInput}
    (goesOn : input.goesOn = true) : Rises machine (machine.handle input).1 := by
  cases input with
  | counts counts => exact onCounts_rises counted counts
  | batch messages topic => exact onBatch_rises counted messages topic
  | resume => exact counted.rises
  | beginRestore => cases goesOn
  | beginSync lastIndex => cases goesOn
  | cancel => cases goesOn

/-- The readings begin with the percentage, so what is not above it is not above any of them. -/
theorem pairwise_cons_readings {first : UInt8} {inputs : List RestoreInput} :
    (first :: machine.readings inputs).Pairwise (· ≤ ·) ↔
      first ≤ machine.percentage ∧ (machine.readings inputs).Pairwise (· ≤ ·) := by
  obtain ⟨later, same⟩ : ∃ later, machine.readings inputs = machine.percentage :: later := by
    cases inputs <;> exact ⟨_, rfl⟩
  rw [same, List.pairwise_cons]
  refine and_congr_left fun rising => ?_
  constructor
  · exact fun below => below _ List.mem_cons_self
  · intro below other member
    rcases List.mem_cons.mp member with rfl | inside
    · exact below
    · exact UInt8.le_trans below ((List.pairwise_cons.mp rising).1 _ inside)

theorem readings_rise (counted : machine.Counted) {inputs : List RestoreInput}
    (goesOn : ∀ input ∈ inputs, input.goesOn = true) :
    (machine.readings inputs).Pairwise (· ≤ ·) := by
  induction inputs generalizing machine with
  | nil => exact List.pairwise_singleton _ _
  | cons input rest induction =>
      have ⟨now, later⟩ := List.forall_mem_cons.mp goesOn
      have rises := handle_rises counted now
      exact pairwise_cons_readings.mpr ⟨rises.2, induction rises.1 later⟩

/-- A restore that has begun and not gone any further. -/
structure Uncounted (machine : RestoreMachine) : Prop where
  phase : machine.phase = .restoringContacts
  awaits : machine.awaitingCounts = true
  progress : machine.progress = {}

theorem beginRestore_uncounted (machine : RestoreMachine) : machine.beginRestore.1.Uncounted :=
  ⟨rfl, rfl, rfl⟩

theorem Uncounted.percentage_eq (uncounted : machine.Uncounted) :
    machine.percentage = RestoreProgress.contactsWeight := by
  rw [percentage_restoringContacts uncounted.phase, uncounted.progress]
  rfl

theorem Uncounted.waits (uncounted : machine.Uncounted) {input : RestoreInput}
    (goesOn : input.goesOn = true) (other : input.counts? = none) :
    (machine.handle input).1.Uncounted := by
  cases input with
  | batch messages topic =>
      cases batch : Topic.isBatch topic with
      | false =>
          rw [handle, onBatch_live machine messages batch]
          cases Message.highestIndex? messages with
          | none => exact uncounted
          | some index => exact ⟨uncounted.phase, uncounted.awaits, uncounted.progress⟩
      | true =>
          have ignored : machine.onBatch messages topic = (machine, []) := by
            simp [onBatch, batch, uncounted.phase, uncounted.awaits]
          rw [handle, ignored]
          exact uncounted
  | resume => exact uncounted
  | counts counts => cases other
  | beginRestore => cases goesOn
  | beginSync lastIndex => cases goesOn
  | cancel => cases goesOn

theorem Uncounted.onCounts_counted (uncounted : machine.Uncounted) (counts : Counts) :
    (machine.onCounts counts).1.Counted ∧
      (RestoreProgress.contactsWeight ≤ (machine.onCounts counts).1.percentage ↔
        counts.contactsTotal = 0) := by
  unfold onCounts
  rw [if_pos ⟨uncounted.phase, uncounted.awaits⟩]
  dsimp only
  split
  · rename_i none
    have below := UInt8.le_of_eq uncounted.percentage_eq
    obtain ⟨counted, above⟩ := completeContacts_rises below _
    exact ⟨counted, iff_of_true (uncounted.percentage_eq ▸ above) none⟩
  · rename_i some
    refine ⟨Or.inl ⟨uncounted.phase, rfl⟩, iff_of_false ?_ some⟩
    -- no record has been reached yet, so none of the contacts' share is done
    have start : RestoreProgress.weighted 0 counts.contactsTotal
        RestoreProgress.contactsWeight = 0 := by
      rw [← UInt8.toNat_inj, RestoreProgress.toNat_weighted, if_neg some]
      simp [Word.min_eq]
    simp only [percentage, uncounted.phase, uncounted.progress,
      RestoreProgress.contactsPercentage, start]
    decide

/-- How many readings there are before the counts: the first, and one for each input. -/
def awaited (inputs : List RestoreInput) : Nat :=
  (inputs.takeWhile fun input => input.counts?.isNone).length + 1

theorem awaited_waits {input : RestoreInput} (other : input.counts? = none)
    (rest : List RestoreInput) : awaited (input :: rest) = awaited rest + 1 := by
  simp [awaited, other]

theorem Uncounted.readings_eq (uncounted : machine.Uncounted) {inputs : List RestoreInput}
    (goesOn : ∀ input ∈ inputs, input.goesOn = true) :
    ∃ later,
      machine.readings inputs =
        List.replicate (awaited inputs) RestoreProgress.contactsWeight ++ later ∧
      later.Pairwise (· ≤ ·) ∧
      ((machine.readings inputs).Pairwise (· ≤ ·) ↔
        ∀ counts, inputs.findSome? RestoreInput.counts? = some counts →
          counts.contactsTotal = 0) := by
  induction inputs generalizing machine with
  | nil =>
      refine ⟨[], ?_, List.Pairwise.nil, ?_⟩
      · rw [readings, uncounted.percentage_eq]
        rfl
      · exact iff_of_true (List.pairwise_singleton _ _) nofun
  | cons input rest induction =>
      have ⟨now, others⟩ := List.forall_mem_cons.mp goesOn
      have weight := uncounted.percentage_eq
      cases found : input.counts? with
      | none =>
          have waits := uncounted.waits now found
          obtain ⟨later, same, rising, whole⟩ := induction waits others
          refine ⟨later, ?_, rising, ?_⟩
          · rw [readings, same, weight, awaited_waits found, List.replicate_succ,
              List.cons_append]
          · have level := UInt8.le_of_eq (weight.trans waits.percentage_eq.symm)
            rw [readings, pairwise_cons_readings, and_iff_right level, whole,
              List.findSome?_cons, found]
      | some counts =>
          obtain rfl : input = .counts counts := by
            cases input <;> cases found
            rfl
          obtain ⟨counted, above⟩ := uncounted.onCounts_counted counts
          have rising := readings_rise counted others
          refine ⟨_, ?_, rising, ?_⟩
          · rw [readings, weight]
            rfl
          · rw [readings, weight, pairwise_cons_readings, handle, and_iff_left rising]
            refine above.trans ⟨?_, fun none => none counts rfl⟩
            rintro none counts ⟨⟩
            exact none

/-- Until the counts of a restore are there its percentage is that of complete contacts, and
from then on it never falls. So it falls once, at the counts, or not at all, and the latter if
and only if the first counts announce no contacts. -/
theorem percentage_rises_iff (machine : RestoreMachine) {inputs : List RestoreInput}
    (goesOn : ∀ input ∈ inputs, input.goesOn = true) :
    let readings := machine.beginRestore.1.readings inputs
    (∃ later, readings =
        List.replicate (awaited inputs) RestoreProgress.contactsWeight ++ later ∧
        later.Pairwise (· ≤ ·)) ∧
      (readings.Pairwise (· ≤ ·) ↔
        ∀ counts, inputs.findSome? RestoreInput.counts? = some counts →
          counts.contactsTotal = 0) := by
  intro readings
  obtain ⟨later, same, rising, whole⟩ :=
    (beginRestore_uncounted machine).readings_eq goesOn
  exact ⟨⟨later, same, rising⟩, whole⟩

/-- Counts that announce contacts. -/
def countsWithContacts : List RestoreInput :=
  [.counts ⟨some 10, none, none, some 10, none, some 150⟩]

theorem percentage_falls_at_counts :
    (∀ input ∈ countsWithContacts, input.goesOn = true) ∧
      (new 100 100).beginRestore.1.readings countsWithContacts = [4, 0] ∧
      ¬((new 100 100).beginRestore.1.readings countsWithContacts).Pairwise (· ≤ ·) := by
  have read : (new 100 100).beginRestore.1.readings countsWithContacts = [4, 0] := by
    decide +kernel
  refine ⟨by simp [countsWithContacts, RestoreInput.goesOn], read, ?_⟩
  rw [read]
  decide

def walkWithoutContacts : List RestoreInput :=
  [.resume, pageOf "7", .counts ⟨some 2, none, none, some 9, none, none⟩, .resume, pageOf "9",
    pageOf "3"]

theorem percentage_rises_withoutContacts :
    (∀ input ∈ walkWithoutContacts, input.goesOn = true) ∧
      (new 1 1).beginRestore.1.readings walkWithoutContacts = [4, 4, 4, 4, 4, 52, 100] ∧
      ((new 1 1).beginRestore.1.readings walkWithoutContacts).Pairwise (· ≤ ·) := by
  have goesOn : ∀ input ∈ walkWithoutContacts, input.goesOn = true := by
    decide
  refine ⟨goesOn, by decide +kernel, ?_⟩
  apply (percentage_rises_iff (new 1 1) goesOn).2.mpr
  rintro counts ⟨⟩
  rfl

end RestoreMachine

end Messenger

import Messenger.Proofs.Restore.Inputs
import Messenger.Proofs.Restore.Percentages

/-!
What a restore reports of its progress: values that only rise, each of them the percentage
that the machine has reached, and one hundred with the end and not before.
-/

namespace Messenger

namespace RestoreAction

def percent? : RestoreAction → Option UInt8
  | .progress percent => some percent
  | _ => none

end RestoreAction

namespace RestoreMachine

def percents (actions : List RestoreAction) : List UInt8 :=
  actions.filterMap RestoreAction.percent?

theorem percents_append (actions more : List RestoreAction) :
    percents (actions ++ more) = percents actions ++ percents more :=
  List.filterMap_append

theorem percents_report (percent : UInt8) {fetch : RestoreAction}
    (silent : fetch.percent? = none) : percents [.progress percent, fetch] = [percent] := by
  have rest : percents [fetch] = [] := List.filterMap_cons_none silent
  show percent :: percents [fetch] = [percent]
  rw [rest]

theorem percents_finish (machine : RestoreMachine) : percents machine.finish.2 = [100] := rfl

theorem mem_percents {percent : UInt8} {actions : List RestoreAction}
    (member : .progress percent ∈ actions) : percent ∈ percents actions :=
  List.mem_filterMap.mpr ⟨_, member, rfl⟩

/-- What keeps the reports in order: a restore that is under way has something left to
do, and has not reported its end. -/
structure Steady (machine : RestoreMachine) : Prop where
  contacts : machine.phase = .restoringContacts → machine.progress.messagesRestored = 0
  messages : machine.phase = .restoringMessages →
    machine.progress.messagesRestored < machine.progress.messagesTotal
  emitted : machine.isRestoring = true → machine.emitted < 100

/-- What an input other than a new beginning does to the reports. -/
inductive Turn (machine : RestoreMachine) : RestoreMachine × List RestoreAction → Prop
  | silent {next : RestoreMachine} {actions : List RestoreAction}
      (quiet : percents actions = []) (unfinished : .finished ∉ actions)
      (kept : next.isRestoring = true →
        machine.isRestoring = true ∧ next.emitted = machine.emitted) :
      Turn machine (next, actions)
  | report {next : RestoreMachine} {percent : UInt8} {fetch : RestoreAction}
      (restoring : machine.isRestoring = true) (more : machine.emitted < percent)
      (below : percent < 100) (emitted : next.emitted = percent)
      (exact : next.percentage = percent) (silent : fetch.percent? = none)
      (unfinished : fetch ≠ .finished) :
      Turn machine (next, [.progress percent, fetch])
  | finish (restoring : machine.isRestoring = true) (last : RestoreMachine) :
      Turn machine last.finish

variable {first machine : RestoreMachine}

theorem isRestoring_iff : machine.isRestoring = true ↔
    machine.phase = .restoringContacts ∨ machine.phase = .restoringMessages := by
  rw [isRestoring]
  cases machine.phase <;> simp [RestorePhase.isRestoring]

theorem Steady.inContacts (phase : machine.phase = .restoringContacts)
    (restored : machine.progress.messagesRestored = 0) (emitted : machine.emitted < 100) :
    machine.Steady :=
  ⟨fun _ => restored, fun other => (nomatch phase.symm.trans other), fun _ => emitted⟩

theorem Steady.inMessages (phase : machine.phase = .restoringMessages)
    (left : machine.progress.messagesRestored < machine.progress.messagesTotal)
    (emitted : machine.emitted < 100) : machine.Steady :=
  ⟨fun other => (nomatch phase.symm.trans other), fun _ => left, fun _ => emitted⟩

theorem Steady.notRestoring (ended : machine.isRestoring = false) : machine.Steady := by
  have idle : machine.isRestoring ≠ true := by simp [ended]
  refine ⟨fun phase => ?_, fun phase => ?_, fun restoring => absurd restoring idle⟩
  · exact absurd (isRestoring_iff.mpr (Or.inl phase)) idle
  · exact absurd (isRestoring_iff.mpr (Or.inr phase)) idle

theorem continueWith_eq (below : machine.percentage < 100) (fetch : RestoreAction) :
    machine.continueWith fetch =
      if machine.emitted < machine.percentage then
        ({ machine with emitted := machine.percentage },
          [.progress machine.percentage, fetch])
      else (machine, [fetch]) := by
  have unchanged : min machine.percentage 99 = machine.percentage := by
    apply if_pos
    rw [UInt8.lt_iff_toNat_lt] at below
    rw [UInt8.le_iff_toNat_le]
    exact Nat.le_of_lt_succ below
  have entry : machine.continueWith fetch =
      (machine.emitProgress.1, machine.emitProgress.2 ++ [fetch]) := rfl
  rw [entry, emitProgress, unchanged]
  split <;> rfl

theorem continueWith_turn {fetch : RestoreAction} (restoring : first.isRestoring = true)
    (emitted : machine.emitted = first.emitted) (below : machine.percentage < 100)
    (silent : fetch.percent? = none) (unfinished : fetch ≠ .finished) :
    Turn first (machine.continueWith fetch) := by
  rw [continueWith_eq below, emitted]
  split
  · rename_i more
    exact .report restoring more below rfl rfl silent unfinished
  · refine .silent ?_ ?_ fun _ => ⟨restoring, emitted⟩
    · simp [percents, silent]
    · simpa using unfinished.symm

theorem continueWith_steady {fetch : RestoreAction} (steady : machine.Steady)
    (below : machine.percentage < 100) : (machine.continueWith fetch).1.Steady := by
  rw [continueWith_eq below]
  split
  · exact ⟨steady.contacts, steady.messages, fun _ => below⟩
  · exact steady

theorem finish_steady (machine : RestoreMachine) : machine.finish.1.Steady :=
  .notRestoring rfl

theorem completeContacts_turn (restoring : first.isRestoring = true)
    (emitted : machine.emitted = first.emitted)
    (restored : machine.progress.messagesRestored = 0) :
    Turn first machine.completeContacts := by
  unfold completeContacts
  dsimp only
  split
  · exact .finish restoring _
  · rename_i some
    split
    · rename_i more
      refine .report restoring (emitted ▸ more) (by decide) rfl ?_ rfl (by simp [fetchBackward])
      exact RestoreProgress.messagesPercentage_start restored some
    · exact .silent rfl (by simp [fetchBackward]) fun _ => ⟨restoring, emitted⟩

theorem completeContacts_steady (emitted : machine.emitted < 100)
    (restored : machine.progress.messagesRestored = 0) :
    machine.completeContacts.1.Steady := by
  unfold completeContacts
  dsimp only
  split
  · exact finish_steady _
  · rename_i some
    have left : machine.progress.messagesRestored < machine.progress.messagesTotal := by
      rw [restored]
      exact UInt64.pos_iff_ne_zero.mpr some
    split
    · exact .inMessages rfl left (by decide : RestoreProgress.contactsWeight < 100)
    · exact .inMessages rfl left emitted

theorem onCounts_turn (steady : machine.Steady) (counts : Counts) :
    Turn machine (machine.onCounts counts) ∧ (machine.onCounts counts).1.Steady := by
  unfold onCounts
  split
  · rename_i awaits
    have restoring : machine.isRestoring = true := isRestoring_iff.mpr (Or.inl awaits.1)
    have emitted := steady.emitted restoring
    have restored := steady.contacts awaits.1
    dsimp only
    split
    · exact ⟨completeContacts_turn restoring rfl restored,
        completeContacts_steady emitted restored⟩
    · exact ⟨.silent rfl (by simp [fetchContactsAt]) fun _ => ⟨restoring, rfl⟩,
        .inContacts awaits.1 restored emitted⟩
  · exact ⟨.silent rfl List.not_mem_nil fun restoring => ⟨restoring, rfl⟩, steady⟩

theorem onContactsPage_turn (steady : machine.Steady)
    (phase : machine.phase = .restoringContacts) (count : UInt64)
    (highest : Option UInt64) :
    Turn machine (machine.onContactsPage count highest) ∧
      (machine.onContactsPage count highest).1.Steady := by
  have restoring : machine.isRestoring = true := isRestoring_iff.mpr (Or.inl phase)
  have emitted := steady.emitted restoring
  have restored := steady.contacts phase
  cases highest with
  | none =>
      exact ⟨completeContacts_turn restoring rfl restored,
        completeContacts_steady emitted restored⟩
  | some highest =>
      unfold onContactsPage
      dsimp only
      split
      · exact ⟨completeContacts_turn restoring rfl restored,
          completeContacts_steady emitted restored⟩
      · generalize counted : RestoreMachine.mk _ _ _ _ _ _ _ _ _ _ = next
        have phase : next.phase = .restoringContacts := by rw [← counted, phase]
        have below : next.percentage < 100 := by
          rw [percentage, phase]
          exact UInt8.lt_of_le_of_lt next.progress.contactsPercentage_le (by decide)
        have kept : next.emitted = machine.emitted := by rw [← counted]
        refine ⟨continueWith_turn restoring kept below rfl (by simp [fetchContactsAt]), ?_⟩
        refine continueWith_steady (.inContacts phase ?_ (kept ▸ emitted)) below
        rw [← counted]
        exact restored

theorem onMessagesPage_turn (steady : machine.Steady)
    (phase : machine.phase = .restoringMessages) (count : UInt64)
    (lowest : Option UInt64) :
    Turn machine (machine.onMessagesPage count lowest) ∧
      (machine.onMessagesPage count lowest).1.Steady := by
  have restoring : machine.isRestoring = true := isRestoring_iff.mpr (Or.inr phase)
  cases lowest with
  | none => exact ⟨.finish restoring machine, finish_steady machine⟩
  | some lowest =>
      unfold onMessagesPage
      dsimp only
      split
      · exact ⟨.finish restoring _, finish_steady _⟩
      · rename_i unfinished
        generalize counted : RestoreMachine.mk _ _ _ _ _ _ _ _ _ _ = next
        have phase : next.phase = .restoringMessages := by rw [← counted, phase]
        have left : next.progress.messagesRestored < next.progress.messagesTotal := by
          rw [← counted]
          exact UInt64.not_le.mp fun done => unfinished (Or.inl done)
        have below : next.percentage < 100 := by
          rw [percentage, phase]
          exact RestoreProgress.messagesPercentage_lt left
        have kept : next.emitted = machine.emitted := by rw [← counted]
        refine ⟨continueWith_turn restoring kept below rfl (by simp [fetchBackward]), ?_⟩
        refine continueWith_steady (.inMessages phase left ?_) below
        exact kept ▸ steady.emitted restoring

theorem onSyncPage_turn (ended : machine.isRestoring = false) (highest : Option UInt64) :
    Turn machine (machine.onSyncPage highest) ∧
      (machine.onSyncPage highest).1.Steady := by
  cases highest with
  | some index =>
      refine ⟨.silent rfl (by simp [fetchForward]) fun restoring => ?_, .notRestoring ended⟩
      exact absurd (ended.symm.trans restoring) Bool.false_ne_true
  | none =>
      refine ⟨.silent rfl (by simp [catchUp]) fun restoring => ?_, .notRestoring ended⟩
      exact absurd (ended.symm.trans restoring) Bool.false_ne_true

theorem observe_steady (steady : machine.Steady) (index : UInt64) :
    (machine.observe index).Steady :=
  ⟨steady.contacts, steady.messages, steady.emitted⟩

theorem onBatch_turn (steady : machine.Steady) (messages : List Message) (topic : String) :
    Turn machine (machine.onBatch messages topic) ∧
      (machine.onBatch messages topic).1.Steady := by
  have ignored : Turn machine (machine, []) ∧ machine.Steady :=
    ⟨.silent rfl List.not_mem_nil fun restoring => ⟨restoring, rfl⟩, steady⟩
  unfold onBatch
  dsimp only
  split
  · split
    · rename_i phase
      split
      · exact ignored
      · exact onContactsPage_turn steady phase _ _
    · rename_i phase
      exact onMessagesPage_turn steady phase _ _
    · rename_i phase
      exact onSyncPage_turn (by rw [isRestoring, phase]; rfl) _
    · exact ignored
    · exact ignored
  · split
    · rename_i index _
      exact ⟨.silent rfl List.not_mem_nil fun restoring => ⟨restoring, rfl⟩,
        observe_steady steady index⟩
    · exact ignored

theorem cancel_turn (steady : machine.Steady) :
    Turn machine machine.cancel ∧ machine.cancel.1.Steady := by
  unfold cancel
  split
  · exact ⟨.silent rfl (by simp) nofun, .notRestoring rfl⟩
  · exact ⟨.silent rfl List.not_mem_nil fun restoring => ⟨restoring, rfl⟩, steady⟩

theorem resume_turn (machine : RestoreMachine) :
    Turn machine (machine, machine.resume) := by
  have kept (restoring : machine.isRestoring = true) :
      machine.isRestoring = true ∧ machine.emitted = machine.emitted := ⟨restoring, rfl⟩
  unfold resume
  split
  · split
    · exact .silent rfl (by simp) kept
    · exact .silent rfl (by simp [fetchContactsAt]) kept
  · exact .silent rfl (by simp [fetchBackward]) kept
  · exact .silent rfl List.not_mem_nil kept

theorem beginSync_turn (machine : RestoreMachine) (lastIndex : Option UInt64) :
    Turn machine (machine.beginSync lastIndex) ∧
      (machine.beginSync lastIndex).1.Steady := by
  cases lastIndex with
  | some index =>
      exact ⟨.silent rfl (by simp [fetchForward]) nofun, .notRestoring rfl⟩
  | none => exact ⟨.silent rfl (by simp) nofun, .notRestoring rfl⟩

theorem handle_steady (steady : machine.Steady) (input : RestoreInput) :
    (machine.handle input).1.Steady := by
  cases input with
  | beginRestore => exact .inContacts rfl rfl (by decide : (0 : UInt8) < 100)
  | beginSync lastIndex => exact (beginSync_turn machine lastIndex).2
  | counts counts => exact (onCounts_turn steady counts).2
  | batch messages topic => exact (onBatch_turn steady messages topic).2
  | resume => exact steady
  | cancel => exact (cancel_turn steady).2

theorem handle_turn (steady : machine.Steady) {input : RestoreInput}
    (goesOn : input ≠ .beginRestore) : Turn machine (machine.handle input) := by
  cases input with
  | beginRestore => exact absurd rfl goesOn
  | beginSync lastIndex => exact (beginSync_turn machine lastIndex).1
  | counts counts => exact (onCounts_turn steady counts).1
  | batch messages topic => exact (onBatch_turn steady messages topic).1
  | resume => exact resume_turn machine
  | cancel => exact (cancel_turn steady).1

theorem after_steady (steady : machine.Steady) (inputs : List RestoreInput) :
    (machine.after inputs).Steady := by
  induction inputs generalizing machine with
  | nil => exact steady
  | cons input rest induction => exact induction (handle_steady steady input)

theorem Steady.percentage_eq_hundred_iff (steady : machine.Steady) :
    machine.percentage = 100 ↔ machine.phase = .finished := by
  cases phase : machine.phase with
  | restoringContacts =>
      have low := machine.progress.contactsPercentage_le
      have below : machine.percentage < 100 := by
        rw [percentage, phase]
        exact UInt8.lt_of_le_of_lt low (by decide)
      simpa using UInt8.ne_of_lt below
  | restoringMessages =>
      have below : machine.percentage < 100 := by
        rw [percentage, phase]
        exact RestoreProgress.messagesPercentage_lt (steady.messages phase)
      simpa using UInt8.ne_of_lt below
  | notRestoring => simp [percentage, phase]
  | finished => simp [percentage, phase]
  | cancelled => simp [percentage, phase]

/-- One hundred stands right before the end. -/
def HeraldsEnd (actions : List RestoreAction) : Prop :=
  ∀ before after, actions = before ++ .progress 100 :: after → after.head? = some .finished

theorem HeraldsEnd.of_not_mem {actions : List RestoreAction}
    (absent : 100 ∉ percents actions) : HeraldsEnd actions := by
  intro before after same
  have member : .progress 100 ∈ actions :=
    same ▸ List.mem_append_right before List.mem_cons_self
  exact absurd (mem_percents member) absent

theorem finish_heraldsEnd (machine : RestoreMachine) : HeraldsEnd machine.finish.2 := by
  intro before after same
  cases before with
  | nil =>
      obtain rfl := (List.cons.inj same).2
      rfl
  | cons first rest =>
      have later : .progress 100 ∈ RestoreAction.finished :: catchUp :=
        (List.cons.inj same).2 ▸ List.mem_append_right rest List.mem_cons_self
      simp [catchUp] at later

theorem Turn.heraldsEnd {step : RestoreMachine × List RestoreAction}
    (turn : Turn machine step) : HeraldsEnd step.2 := by
  cases turn with
  | silent quiet unfinished kept => exact .of_not_mem (by simp [quiet])
  | @report next percent fetch restoring more below emitted exact silent unfinished =>
      apply HeraldsEnd.of_not_mem
      rw [percents_report percent silent, List.mem_singleton]
      exact (UInt8.ne_of_lt below).symm
  | finish restoring last => exact finish_heraldsEnd last

theorem Turn.percentage_eq {step : RestoreMachine × List RestoreAction} {percent : UInt8}
    (turn : Turn machine step) (member : .progress percent ∈ step.2) :
    step.1.percentage = percent := by
  have reported := mem_percents member
  cases turn with
  | silent quiet unfinished kept => simp [quiet] at reported
  | report restoring more below emitted exact silent unfinished =>
      rw [percents_report _ silent, List.mem_singleton] at reported
      exact exact.trans reported.symm
  | finish restoring last =>
      rw [percents_finish, List.mem_singleton] at reported
      exact reported.symm

/-- The reports of a run that goes on from a machine. -/
structure Rising (machine : RestoreMachine) (actions : List RestoreAction) : Prop where
  rising : (percents actions).Pairwise (· < ·)
  above : ∀ percent ∈ percents actions,
    machine.isRestoring = true ∧ machine.emitted < percent
  once : actions.count .finished ≤ 1
  under : .finished ∈ actions → machine.isRestoring = true

theorem Turn.rising {step : RestoreMachine × List RestoreAction}
    {actions : List RestoreAction} (steady : machine.Steady) (turn : Turn machine step)
    (later : Rising step.1 actions) : Rising machine (step.2 ++ actions) := by
  cases turn with
  | @silent next early quiet unfinished kept =>
      have same : percents (early ++ actions) = percents actions := by
        rw [percents_append, quiet, List.nil_append]
      constructor
      case rising => exact same ▸ later.rising
      case above =>
        intro percent member
        obtain ⟨restoring, more⟩ := later.above percent (same ▸ member)
        exact ⟨(kept restoring).1, (kept restoring).2 ▸ more⟩
      case once =>
        rw [List.count_append, List.count_eq_zero.mpr unfinished, Nat.zero_add]
        exact later.once
      case under =>
        intro member
        exact (kept (later.under ((List.mem_append.mp member).resolve_left unfinished))).1
  | @report next percent fetch restoring more below emitted exact silent unfinished =>
      have same : percents ([.progress percent, fetch] ++ actions) =
          percent :: percents actions := by
        rw [percents_append, percents_report percent silent, List.singleton_append]
      have above : ∀ other ∈ percents actions, percent < other := fun other member =>
        emitted ▸ (later.above other member).2
      constructor
      case rising => exact same ▸ List.pairwise_cons.mpr ⟨above, later.rising⟩
      case above =>
        intro other member
        refine ⟨restoring, ?_⟩
        cases List.mem_cons.mp (same ▸ member) with
        | inl now => exact now ▸ more
        | inr after => exact UInt8.lt_trans more (above other after)
      case once => simpa [unfinished] using later.once
      case under => exact fun _ => restoring
  | finish restoring last =>
      -- nothing is reported any more once the machine has finished
      have silent : percents actions = [] :=
        List.eq_nil_iff_forall_not_mem.mpr fun percent member =>
          Bool.false_ne_true (later.above percent member).1
      have unfinished : .finished ∉ actions := fun member =>
        Bool.false_ne_true (later.under member)
      have same : percents (last.finish.2 ++ actions) = [100] := by
        rw [percents_append, percents_finish, silent, List.append_nil]
      constructor
      case rising => exact same ▸ List.pairwise_singleton _ _
      case above =>
        intro percent member
        rw [same, List.mem_singleton] at member
        exact ⟨restoring, member ▸ steady.emitted restoring⟩
      case once =>
        rw [List.count_append, List.count_eq_zero.mpr unfinished]
        exact Nat.le_refl 1
      case under => exact fun _ => restoring

theorem rising_actions (steady : machine.Steady) {inputs : List RestoreInput}
    (goesOn : .beginRestore ∉ inputs) : Rising machine (machine.actions inputs) := by
  induction inputs generalizing machine with
  | nil => exact ⟨List.Pairwise.nil, nofun, Nat.zero_le 1, nofun⟩
  | cons input rest induction =>
      have now : input ≠ .beginRestore := fun same => goesOn (same ▸ List.mem_cons_self)
      have later : .beginRestore ∉ rest := fun member => goesOn (List.mem_cons_of_mem _ member)
      exact (handle_turn steady now).rising steady
        (induction (handle_steady steady input) later)

theorem handle_heraldsEnd (steady : machine.Steady) (input : RestoreInput) :
    HeraldsEnd (machine.handle input).2 := by
  by_cases again : input = .beginRestore
  · subst again
    exact .of_not_mem List.not_mem_nil
  · exact (handle_turn steady again).heraldsEnd

theorem handle_percentage_eq (steady : machine.Steady) {input : RestoreInput}
    {percent : UInt8} (member : .progress percent ∈ (machine.handle input).2) :
    (machine.handle input).1.percentage = percent := by
  by_cases again : input = .beginRestore
  · subst again
    exact absurd member (by simp [handle, beginRestore])
  · exact (handle_turn steady again).percentage_eq member

/-- Between two beginnings of a restore the reports rise strictly to at most one end. -/
theorem reports_rise {contactsPageSize messagesPageSize : UInt32}
    {earlier inputs : List RestoreInput} (goesOn : .beginRestore ∉ inputs) :
    let machine := (new contactsPageSize messagesPageSize).after earlier
    (percents (machine.actions inputs)).Pairwise (· < ·) ∧
      (machine.actions inputs).count .finished ≤ 1 ∧
      (machine.percentage = 100 ↔ machine.phase = .finished) ∧
      ∀ input, HeraldsEnd (machine.handle input).2 ∧
        ∀ percent, .progress percent ∈ (machine.handle input).2 →
          (machine.handle input).1.percentage = percent := by
  intro machine
  have fresh : (new contactsPageSize messagesPageSize).Steady := .notRestoring rfl
  have steady : machine.Steady := after_steady fresh earlier
  have run := rising_actions steady goesOn
  refine ⟨run.rising, run.once, steady.percentage_eq_hundred_iff, fun input => ?_⟩
  exact ⟨handle_heraldsEnd steady input, fun _ => handle_percentage_eq steady⟩

def pageOf (index : String) : RestoreInput :=
  .batch [{ index := some index }] "x/batch"

/-- One page of contacts and two messages, with the counts that announce them. -/
def wholeWalk : List RestoreInput :=
  let counts : Counts := ⟨some 2, none, some 5, some 9, none, none⟩
  [.counts counts, pageOf "5", .resume, pageOf "9", pageOf "3"]

theorem reports_rise_wholeWalk :
    .beginRestore ∉ wholeWalk ∧
      percents (((new 1 1).after [.beginRestore]).actions wholeWalk) = [4, 52, 100] ∧
      ([4, 52, 100] : List UInt8).Pairwise (· < ·) := by
  have goesOn : RestoreInput.beginRestore ∉ wholeWalk := by simp [wholeWalk, pageOf]
  have reported :
      percents (((new 1 1).after [.beginRestore]).actions wholeWalk) = [4, 52, 100] := by
    decide +kernel
  refine ⟨goesOn, reported, ?_⟩
  rw [← reported]
  exact (@reports_rise 1 1 [.beginRestore] wholeWalk goesOn).1

end RestoreMachine

end Messenger

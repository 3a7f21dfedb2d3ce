import Messenger.Proofs.Session.Deeds
import Messenger.Proofs.Session.RestoreKept

/-!
What sets a restore going. Once something was fetched for it, it goes on to be or was; and
in a session where none is under way only an initial setup that succeeds can begin one, for
an account that asks for it.
-/

namespace Messenger

namespace RestoreAction

/-- What a restore fetches, and its end. -/
def ofRestore : RestoreAction → Bool
  | .fetchCounts => true
  | .fetchContacts _ _ => true
  | .fetchMessages _ _ reverse => reverse
  | .finished => true
  | _ => false

theorem unrestoring_calls {actions : List RestoreAction}
    (apart : ∀ action ∈ actions, action.ofRestore = false) :
    ∀ work ∈ (calls actions).map Work.call, work.restores = false := by
  intro work member
  obtain ⟨call, called, rfl⟩ := List.mem_map.mp member
  obtain ⟨action, inside, asks⟩ := List.mem_filterMap.mp called
  have plain := apart action inside
  cases action with
  | fetchCounts => cases plain
  | fetchContacts lastIndex limit => cases plain
  | fetchMessages lastIndex limit reverse =>
      cases asks
      exact plain
  | fetchPings => cases asks; rfl
  | fetchReadMarkers => cases asks; rfl
  | fetchMuteLevels => cases asks; rfl
  | _ => cases asks

theorem unfinished {actions : List RestoreAction}
    (apart : ∀ action ∈ actions, action.ofRestore = false) : .finished ∉ actions :=
  fun member => nomatch apart _ member

end RestoreAction

namespace RestoreMachine

theorem apart_of_beginSync (machine : RestoreMachine) (lastIndex : Option UInt64) :
    ∀ action ∈ (machine.beginSync lastIndex).2, action.ofRestore = false := by
  cases lastIndex with
  | none => exact List.forall_mem_singleton.mpr rfl
  | some index => exact List.forall_mem_singleton.mpr rfl

/-- A machine that is not restoring does not begin to with an answer. -/
theorem apart_of_answer {machine : RestoreMachine} (idle : machine.isRestoring = false)
    {input : RestoreInput} (answers : input.isAnswer = true) :
    ∀ action ∈ (machine.handle input).2, action.ofRestore = false := by
  have apart {phase : RestorePhase} (same : machine.phase = phase)
      (restoring : phase.isRestoring = true) : False := by
    rw [isRestoring, same, restoring] at idle
    cases idle
  cases input with
  | counts counts =>
      unfold handle onCounts
      dsimp only
      split
      · rename_i awaits
        exact (apart awaits.1 rfl).elim
      · exact List.forall_mem_nil _
  | batch messages topic =>
      unfold handle onBatch
      dsimp only
      split
      · split
        · rename_i phase
          exact (apart phase rfl).elim
        · rename_i phase
          exact (apart phase rfl).elim
        · unfold onSyncPage
          split
          · exact List.forall_mem_singleton.mpr rfl
          · exact (by decide : ∀ action ∈ .syncFinished :: catchUp, action.ofRestore = false)
        · exact List.forall_mem_nil _
        · exact List.forall_mem_nil _
      · split
        · exact List.forall_mem_nil _
        · exact List.forall_mem_nil _
  | _ => cases answers

theorem cancel_of_idle {machine : RestoreMachine} (idle : machine.isRestoring = false) :
    machine.cancel = (machine, []) := by
  rw [cancel, if_neg (by simp [idle])]

end RestoreMachine

namespace Entry

/-- A fetch of a restore. -/
def restores : Entry → Bool
  | .called _ call _ => call.restores
  | _ => false

/-- What neither bears on a restore nor fetches anything for it. -/
def sparesRestore (entry : Entry) : Bool :=
  !entry.bearsOnRestore && !entry.restores

theorem sparesRestore_of_isSlight {entry : Entry} (slight : entry.isSlight = true) :
    entry.sparesRestore = true := by
  cases entry with
  | opened account owner => cases slight
  | called context call answer => cases slight
  | _ => rfl

theorem sparesRestore_called {context : CoreContext} {call : CoreCall}
    {answer : Except String Bundle} (apart : call.restores = false)
    (plain : ∀ bundle, answer = .ok bundle → call.isSetUp = false) :
    (Entry.called context call answer).sparesRestore = true := by
  cases answer with
  | error reason =>
      simp [sparesRestore, bearsOnRestore, isOpening, setsUp, restores, apart]
  | ok bundle =>
      simp [sparesRestore, bearsOnRestore, isOpening, setsUp, restores, apart, plain]

theorem of_sparesRestore {entry : Entry} (spares : entry.sparesRestore = true) :
    entry.bearsOnRestore = false ∧ entry.restores = false := by
  simpa [sparesRestore] using spares

end Entry

namespace Session

variable {W : Type}

/-- Something was fetched for a restore, or is about to be. -/
def Underway (session : Session W) (since : List Entry) : Prop :=
  (∃ entry ∈ since, entry.restores = true) ∨
    session.account.isSome = true ∧ ∃ work ∈ session.agenda, work.restores = true

theorem accountAfter_isSome (session : Session W) (actions : List RestoreAction) :
    (session.accountAfter actions).isSome = session.account.isSome := by
  unfold accountAfter
  split
  · exact Option.isSome_map
  · rfl

theorem accountAfter_of_unfinished (session : Session W) {actions : List RestoreAction}
    (unfinished : .finished ∉ actions) : session.accountAfter actions = session.account :=
  if_neg unfinished

/-- What is noted of an initial setup that succeeds. -/
def setUpEntries (session : Session W) (account : Account) (device : String)
    (inviteCode : Option String) (bundle : Bundle) (wall : UInt64) : List Entry :=
  [.stamped wall (session.clock.next wall),
    .called (session.contextAt account (session.clock.next wall))
      (.initialSetup device inviteCode) (.ok bundle),
    .received bundle {} session.hasSession]

theorem setUpFor_journal (session : Session W) (account : Account) (device : String)
    (inviteCode : Option String) (bundle : Bundle) (wall : UInt64) (outside : W) :
    (session.setUpFor account device inviteCode bundle wall outside).journal =
      session.journal ++ session.setUpEntries account device inviteCode bundle wall := by
  simp [setUpFor, asked, drawn, accept, enqueue, note, setUpEntries, hasSession]

namespace Underway

variable {first last : Session W} {since : List Entry}

theorem goesOn (underway : first.Underway since) (more : List Entry)
    (lives : first.account.isSome = true → last.account.isSome = true)
    (agenda : first.agenda ⊆ last.agenda) : last.Underway (since ++ more) := by
  rcases underway with ⟨entry, member, restores⟩ | ⟨live, work, member, restores⟩
  · exact Or.inl ⟨entry, List.mem_append_left _ member, restores⟩
  · exact Or.inr ⟨lives live, work, agenda member, restores⟩

theorem stays (underway : first.Underway since) (more : List Entry)
    (account : last.account = first.account) (agenda : last.agenda = first.agenda) :
    last.Underway (since ++ more) :=
  underway.goesOn more (fun lives => account ▸ lives) (agenda ▸ List.Subset.refl _)

/-- The next piece of work is what is about to be fetched, or can be taken away. -/
theorem next (underway : first.Underway since) {work : Work} {agenda : List Work}
    (next : first.agenda = work :: agenda) :
    first.account.isSome = true ∧ work.restores = true ∨
      ({ first with agenda } : Session W).Underway since := by
  rcases underway with made | ⟨live, other, member, restores⟩
  · exact Or.inr (Or.inl made)
  · rcases List.mem_cons.mp (next ▸ member) with rfl | later
    · exact Or.inl ⟨live, restores⟩
    · exact Or.inr (Or.inr ⟨live, other, later, restores⟩)

theorem advanceRestore (underway : first.Underway since)
    (step : RestoreMachine × List RestoreAction) :
    (first.advanceRestore step).Underway
      (since ++ (RestoreAction.told step.2).map .told) := by
  rw [advanceRestore_eq]
  refine underway.goesOn _ (fun lives => ?_) (List.subset_append_left _ _)
  exact (first.accountAfter_isSome step.2).trans lives

theorem cancelRestore (underway : first.Underway since) :
    ∃ more, first.cancelRestore.journal = first.journal ++ more ∧
      first.cancelRestore.Underway (since ++ more) := by
  unfold Session.cancelRestore
  split
  · exact ⟨[], (List.append_nil _).symm, underway.stays [] rfl rfl⟩
  · have ended : first.endRestore.Underway (since ++ []) :=
      underway.goesOn [] (fun lives => Option.isSome_map.trans lives) (List.Subset.refl _)
    rw [List.append_nil] at ended
    exact ⟨_, by rw [advanceRestore_eq]; rfl, ended.advanceRestore _⟩

theorem setUp (underway : first.Underway since) (account : Account) (device : String)
    (inviteCode : Option String) (bundle : Bundle) (wall : UInt64) (outside : W)
    (restoring resumePaging : Bool) :
    ∃ more, ((first.setUpFor account device inviteCode bundle wall outside).enterRestore
        restoring resumePaging).journal = first.journal ++ more ∧
      ((first.setUpFor account device inviteCode bundle wall outside).enterRestore
        restoring resumePaging).Underway (since ++ more) := by
  have noted := first.setUpFor_journal account device inviteCode bundle wall outside
  let settled := first.setUpFor account device inviteCode bundle wall outside
  let entries := first.setUpEntries account device inviteCode bundle wall
  have ready : settled.Underway (since ++ entries) :=
    underway.goesOn entries id (List.subset_append_left _ _)
  obtain ⟨step, entered, -, -⟩ := enterRestore_eq settled restoring resumePaging
  rw [entered]
  refine ⟨entries ++ (RestoreAction.told step.2).map .told, ?_, ?_⟩
  · rw [advanceRestore_eq, noted, List.append_assoc]
  · rw [← List.append_assoc]
    exact ready.advanceRestore step

end Underway

/-- Once a restore fetches something it goes on to, or has. -/
theorem Deed.underway [Surroundings W] {conduct : Conduct} {first last : Session W}
    (deed : Deed conduct first last) (ordered : conduct.ordered = true) {since : List Entry}
    (underway : first.Underway since) :
    ∃ more, last.journal = first.journal ++ more ∧ last.Underway (since ++ more) := by
  cases deed with
  | slight slight =>
      obtain ⟨more, journal, -⟩ := slight.journal
      obtain ⟨works, agenda, -⟩ := slight.agenda
      have lives : last.account.isSome = first.account.isSome := by
        simpa using congrArg Option.isSome slight.restoring
      exact ⟨more, journal,
        underway.goesOn more lives.trans (agenda ▸ List.subset_append_left _ _)⟩
  | promise => exact ⟨[], (List.append_nil _).symm, underway.stays [] rfl rfl⟩
  | depart next => exact ⟨_, rfl, underway.stays _ rfl rfl⟩
  | take next vain =>
      refine ⟨[], (List.append_nil _).symm, ?_⟩
      rcases underway.next next with ⟨live, restores⟩ | rest
      · rw [vain restores] at live
        cases live
      · exact rest.stays [] rfl rfl
  | @ask agenda account call answer wall outside origin lives plain =>
      have asks : call.restores = true ∨ ({ first with agenda } : Session W).Underway since := by
        rcases origin with next | ⟨rfl, -⟩
        · exact (underway.next next).imp_left And.right
        · exact Or.inr underway
      refine ⟨_, List.append_assoc _ _ _, ?_⟩
      rcases asks with restores | rest
      · exact Or.inl ⟨_, List.mem_append_right _ (List.mem_cons_of_mem _ List.mem_cons_self),
          restores⟩
      · exact rest.stays _ rfl rfl
  | setUp wall outside resumePaging lives =>
      exact underway.setUp _ _ _ _ wall outside _ resumePaging
  | keys seed wall outside => exact ⟨_, List.append_assoc _ _ _, underway.stays _ rfl rfl⟩
  | attempt generation ready derived => exact ⟨_, rfl, underway.stays _ rfl rfl⟩
  | setUserState userState => exact ⟨_, rfl, underway.stays _ rfl rfl⟩
  | answer answers => exact ⟨_, by rw [advanceRestore_eq], underway.advanceRestore _⟩
  | cancel => exact underway.cancelRestore
  | adopt owner resume unasked =>
      exact ⟨_, rfl, underway.goesOn _ (fun _ => rfl) (List.Subset.refl _)⟩
  | close done =>
      -- what is queued would be lost, but nothing is when the caller waits for the agenda
      refine ⟨_, first.disconnect_journal, ?_⟩
      rcases underway with ⟨entry, member, restores⟩ | ⟨-, work, member, -⟩
      · exact Or.inl ⟨entry, List.mem_append_left _ member, restores⟩
      · rw [done ordered] at member
        cases member

/-- No restore is under way and nothing is about to be fetched for one. -/
structure Calm (session : Session W) : Prop where
  idle : session.restore.isRestoring = false
  unqueued : ∀ work ∈ session.agenda, work.restores = false

/-- What a deed comes to for a session that is not restoring. -/
inductive Stir (first last : Session W) (more : List Entry) : Prop where
  | still (calm : last.Calm) (spares : ∀ entry ∈ more, entry.sparesRestore = true)
      (asks : ∀ asks ∈ last.account.map (·.restoring), asks ∈ first.account.map (·.restoring))
  | opened (calm : last.Calm) {account : Account} {owner : Owner}
      (notes : more = [.opened account owner])
      (unasked : ∀ asks ∈ last.account.map (·.restoring), asks = false)
  | setUp {account : Account} (lives : first.account = some account)
      (succeeds : (more.find? Entry.bearsOnRestore).any Entry.setsUp = true)
      (unfetched : ∀ entry ∈ more, entry.restores = false)
      (begins : account.restoring = true → last.Underway more)
      (rests : account.restoring = false → last.Calm ∧ last.account = first.account)

namespace Calm

variable {first last : Session W}

theorem of_same (calm : first.Calm) (restore : last.restore = first.restore)
    (agenda : last.agenda = first.agenda) : last.Calm :=
  ⟨restore ▸ calm.idle, agenda ▸ calm.unqueued⟩

/-- The machine is moved on without a fetch for a restore. -/
theorem advanceRestore (unqueued : ∀ work ∈ first.agenda, work.restores = false)
    {step : RestoreMachine × List RestoreAction} (idle : step.1.isRestoring = false)
    (apart : ∀ action ∈ step.2, action.ofRestore = false) :
    (first.advanceRestore step).Calm ∧
      (first.advanceRestore step).account = first.account := by
  rw [advanceRestore_eq]
  refine ⟨⟨idle, List.forall_mem_append.mpr ⟨unqueued, ?_⟩⟩, ?_⟩
  · exact RestoreAction.unrestoring_calls apart
  · exact first.accountAfter_of_unfinished (RestoreAction.unfinished apart)

theorem sparing_told {actions : List RestoreAction} :
    ∀ entry ∈ (RestoreAction.told actions).map Entry.told, entry.sparesRestore = true :=
  fun entry member => Entry.sparesRestore_of_isSlight (RestoreAction.slight_of_told entry member)

theorem cancelRestore (calm : first.Calm) : first.cancelRestore = first := by
  unfold Session.cancelRestore
  rw [RestoreMachine.cancel_of_idle calm.idle]

/-- With an account that asks for a restore the machine begins one, and otherwise a sync. -/
theorem enterRestore (calm : first.Calm) (restoring resumePaging : Bool) :
    ∃ step, first.enterRestore restoring resumePaging = first.advanceRestore step ∧
      .finished ∉ step.2 ∧ (restoring = true → .fetchCounts ∈ step.2) ∧
      (restoring = false →
        step.1.isRestoring = false ∧ ∀ action ∈ step.2, action.ofRestore = false) := by
  -- nothing is under way that could be resumed
  unfold Session.enterRestore
  rw [if_neg (by simp [calm.idle])]
  cases restoring with
  | true =>
      refine ⟨first.restore.beginRestore, rfl, ?_, fun _ => List.mem_cons_self, ?_⟩
      · simp [RestoreMachine.beginRestore]
      · exact fun unasked => absurd unasked (by decide)
  | false =>
      have apart := first.restore.apart_of_beginSync first.owner.messageLastIndex
      refine ⟨_, rfl, RestoreAction.unfinished apart, ?_, ?_⟩
      · exact fun asks => absurd asks (by decide)
      · exact fun _ => ⟨first.restore.beginSync_isRestoring _, apart⟩

/-- The first initial setup that succeeds begins the restore that its account asks for. -/
theorem setUp (calm : first.Calm) {account : Account} {device : String}
    {inviteCode : Option String} {bundle : Bundle} (wall : UInt64) (outside : W)
    (resumePaging : Bool) (lives : first.account = some account) :
    ∃ more, ((first.setUpFor account device inviteCode bundle wall outside).enterRestore
        account.restoring resumePaging).journal = first.journal ++ more ∧
      Stir first ((first.setUpFor account device inviteCode bundle wall outside).enterRestore
        account.restoring resumePaging) more := by
  have noted := first.setUpFor_journal account device inviteCode bundle wall outside
  let settled := first.setUpFor account device inviteCode bundle wall outside
  have ready : settled.Calm := ⟨calm.idle, List.forall_mem_append.mpr
    ⟨calm.unqueued, List.forall_mem_singleton.mpr rfl⟩⟩
  obtain ⟨step, entered, unfinished, begins, rests⟩ :=
    ready.enterRestore account.restoring resumePaging
  have kept : (settled.advanceRestore step).account = first.account := by
    rw [advanceRestore_eq]
    exact settled.accountAfter_of_unfinished unfinished
  rw [entered]
  refine ⟨_, by rw [advanceRestore_eq, noted, List.append_assoc], .setUp lives rfl ?_ ?_ ?_⟩
  · refine List.forall_mem_append.mpr ⟨?_, fun entry member =>
      (Entry.of_sparesRestore (Calm.sparing_told entry member)).2⟩
    simp [setUpEntries, Entry.restores, CoreCall.restores]
  · intro asks
    refine Or.inr ⟨by rw [kept, lives]; rfl, .call .fetchMessageCounts, ?_, rfl⟩
    rw [advanceRestore_eq]
    refine List.mem_append_right _ (List.mem_map_of_mem ?_)
    exact List.mem_filterMap.mpr ⟨.fetchCounts, begins asks, rfl⟩
  · intro unasked
    obtain ⟨idle, apart⟩ := rests unasked
    exact ⟨(advanceRestore ready.unqueued idle apart).1, kept⟩

end Calm

/-- Only an initial setup that succeeds stirs a session that is not restoring, as long as the
caller requests no restore. -/
theorem Deed.stir [Surroundings W] {conduct : Conduct} {first last : Session W}
    (deed : Deed conduct first last) (sparing : conduct.sparing = true) (calm : first.Calm) :
    ∃ more, last.journal = first.journal ++ more ∧ Stir first last more := by
  have still {more : List Entry} (restore : last.restore = first.restore)
      (agenda : last.agenda = first.agenda)
      (spares : ∀ entry ∈ more, entry.sparesRestore = true)
      (account : last.account = first.account) : Stir first last more :=
    .still (calm.of_same restore agenda) spares fun _ member => account ▸ member
  cases deed with
  | slight slight =>
      obtain ⟨more, journal, isSlight⟩ := slight.journal
      obtain ⟨works, agenda, plain⟩ := slight.agenda
      refine ⟨more, journal, .still ⟨slight.restore ▸ calm.idle, ?_⟩ ?_ ?_⟩
      · exact agenda ▸ List.forall_mem_append.mpr ⟨calm.unqueued, plain⟩
      · exact fun entry member => Entry.sparesRestore_of_isSlight (isSlight entry member)
      · exact fun _ member => slight.restoring ▸ member
  | promise => exact ⟨[], (List.append_nil _).symm, still rfl rfl (List.forall_mem_nil _) rfl⟩
  | depart next => exact ⟨_, rfl, still rfl rfl (List.forall_mem_singleton.mpr rfl) rfl⟩
  | take next vain =>
      have ⟨_, others⟩ := List.forall_mem_cons.mp (next ▸ calm.unqueued)
      exact ⟨[], (List.append_nil _).symm, .still ⟨calm.idle, others⟩ (List.forall_mem_nil _)
        fun _ member => member⟩
  | @ask agenda account call answer wall outside origin lives plain =>
      have ⟨apart, others⟩ : call.restores = false ∧ ∀ work ∈ agenda, work.restores = false := by
        rcases origin with next | ⟨rfl, apart⟩
        · exact List.forall_mem_cons.mp (next ▸ calm.unqueued)
        · exact ⟨apart, calm.unqueued⟩
      refine ⟨_, List.append_assoc _ _ _, .still ⟨calm.idle, others⟩ ?_ fun _ member => member⟩
      exact List.forall_mem_cons.mpr ⟨rfl, List.forall_mem_singleton.mpr
        (Entry.sparesRestore_called apart plain)⟩
  | setUp wall outside resumePaging lives => exact calm.setUp wall outside resumePaging lives
  | keys seed wall outside =>
      refine ⟨_, List.append_assoc _ _ _, still rfl rfl ?_ rfl⟩
      exact List.forall_mem_cons.mpr ⟨rfl, List.forall_mem_singleton.mpr rfl⟩
  | attempt generation ready derived =>
      exact ⟨_, rfl, still rfl rfl (List.forall_mem_singleton.mpr rfl) rfl⟩
  | setUserState userState =>
      exact ⟨_, rfl, still rfl rfl (List.forall_mem_singleton.mpr rfl) rfl⟩
  | @answer input answers =>
      have same := first.restore.answer_isRestoring answers
      rw [calm.idle, Bool.false_and] at same
      obtain ⟨after, account⟩ := Calm.advanceRestore calm.unqueued same
        (RestoreMachine.apart_of_answer calm.idle answers)
      exact ⟨_, by rw [advanceRestore_eq], .still after Calm.sparing_told
        fun _ member => account ▸ member⟩
  | cancel =>
      rw [calm.cancelRestore]
      exact ⟨[], (List.append_nil _).symm, .still calm (List.forall_mem_nil _) fun _ => id⟩
  | @adopt account owner resume unasked =>
      have machine : (first.adopt account owner resume).restore.isRestoring = false := by
        cases resume with
        | true => exact calm.idle
        | false => rfl
      refine ⟨_, rfl, .opened ⟨machine, calm.unqueued⟩ rfl ?_⟩
      rintro _ ⟨⟩
      exact (unasked sparing).trans (by rw [calm.idle, Bool.and_false])
  | close done =>
      exact ⟨_, first.disconnect_journal, .still (calm.of_same rfl rfl) (by decide) nofun⟩

end Session

end Messenger

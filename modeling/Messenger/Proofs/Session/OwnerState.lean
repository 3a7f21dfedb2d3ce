import Messenger.Proofs.Session.InOrder
import Messenger.Proofs.Session.Minor
import Messenger.Proofs.Session.Settlement
import Messenger.Proofs.Stored.CoreForm
import Messenger.Session.Journal

/-!
The owner's user state follows the bundles that are applied, and a call of the core reads
it as it is at that moment. What the core returned earlier may still be on the agenda then.
-/

namespace Messenger

namespace Entry

def openingState? : Entry → Option UserState
  | .opened _ owner => some owner.userState
  | _ => none

def returned? : Entry → Option Bundle
  | .called _ _ (.ok bundle) => some bundle
  | _ => none

def isCall : Entry → Bool
  | .called _ _ _ => true
  | _ => false

theorem of_isPlain {entry : Entry} (plain : entry.isPlain = true) :
    entry.isOpening = false ∧ entry.happening?.bind Happening.applied? = none ∧
      entry.returned? = none := by
  cases entry with
  | opened account owner => cases plain
  | applied bundle context => cases plain
  | called context call answer => cases plain
  | _ => exact ⟨rfl, rfl, rfl⟩

theorem uncalled_of_isPlain {entry : Entry} (plain : entry.isPlain = true) :
    (!entry.isCall) = true := by
  cases entry with
  | called context call answer => cases plain
  | _ => rfl

end Entry

namespace Session

variable {W : Type}

/-- The owner's state when the account was opened last. -/
def openingState (session : Session W) : UserState :=
  (session.journal.filterMap Entry.openingState?).getLastD ∅

/-- The opening state with what has been applied since. -/
def replayed (session : Session W) : UserState :=
  (session.outbox.applied.map Prod.fst).foldl UserState.absorb session.openingState

/-- What the core has returned since the account was opened. -/
def returned (session : Session W) : List Bundle :=
  (afterLast Entry.isOpening session.journal).filterMap Entry.returned?

/-- The opening state with what the core has returned since. -/
def promised (session : Session W) : UserState :=
  session.returned.foldl UserState.absorb session.openingState

section Grown

variable {first last : Session W} {more : List Entry}

theorem history_grown (grown : last.journal = first.journal ++ more) :
    last.outbox.history = first.outbox.history ++ more.filterMap Entry.happening? := by
  change last.journal.filterMap _ = _
  rw [grown, List.filterMap_append]
  rfl

theorem unopened_happenings (unopened : ∀ entry ∈ more, entry.isOpening = false) :
    ∀ happening ∈ more.filterMap Entry.happening?, happening.isOpening = false := by
  intro happening member
  obtain ⟨entry, inside, happens⟩ := List.mem_filterMap.mp member
  have quiet := unopened entry inside
  cases entry with
  | opened account owner => cases quiet
  | received bundle context live => cases happens; rfl
  | applied bundle context => cases happens; rfl
  | published publish time outcome => cases happens; rfl
  | disconnected => cases happens; rfl
  | _ => cases happens

theorem returned_grown (grown : last.journal = first.journal ++ more)
    (unopened : ∀ entry ∈ more, entry.isOpening = false) :
    last.returned = first.returned ++ more.filterMap Entry.returned? := by
  rw [returned, grown, afterLast_append _ unopened, List.filterMap_append]
  rfl

theorem openingState_grown (grown : last.journal = first.journal ++ more)
    (unopened : ∀ entry ∈ more, entry.isOpening = false) :
    last.openingState = first.openingState := by
  have silent : more.filterMap Entry.openingState? = [] := by
    refine List.filterMap_eq_nil_iff.mpr fun entry member => ?_
    have quiet := unopened entry member
    cases entry with
    | opened account owner => cases quiet
    | _ => rfl
  rw [openingState, openingState, grown, List.filterMap_append, silent, List.append_nil]

end Grown

structure Plain (first last : Session W) : Prop where
  userState : last.owner.userState = first.owner.userState
  journal : Adds Entry.isPlain first.journal last.journal

namespace Plain

variable {first middle last : Session W}

theorem of_same (userState : last.owner.userState = first.owner.userState)
    (journal : last.journal = first.journal) : Plain first last :=
  ⟨userState, .of_eq journal⟩

theorem of_minor (minor : Minor first last) : Plain first last :=
  ⟨minor.userState, minor.journal⟩

theorem trans (start : Plain first middle) (rest : Plain middle last) : Plain first last :=
  ⟨rest.userState.trans start.userState, start.journal.trans rest.journal⟩

theorem advanceRestore (session : Session W) (step : RestoreMachine × List RestoreAction) :
    Plain session (session.advanceRestore step) := by
  rw [advanceRestore_eq]
  exact ⟨rfl, _, rfl, Entry.isPlain_told⟩

theorem cancelRestore (session : Session W) : Plain session session.cancelRestore := by
  have ended : Plain session session.endRestore := of_same rfl rfl
  unfold Session.cancelRestore
  split
  · exact of_same rfl rfl
  · exact ended.trans (advanceRestore _ _)

theorem enterRestore (session : Session W) (restoring resumePaging : Bool) :
    Plain session (session.enterRestore restoring resumePaging) := by
  obtain ⟨step, entered, -, -⟩ := session.enterRestore_eq restoring resumePaging
  exact entered ▸ advanceRestore session step

end Plain

/-- The user state is the replayed one, and what the core returned came in fresh. -/
structure Threads (session : Session W) : Prop where
  userState : session.owner.userState = session.replayed
  returned : session.returned.Sublist
    ((session.outbox.received.filter isFresh).map Prod.fst)

namespace Threads

variable {first middle last : Session W} {more : List Entry}

theorem grown (threads : first.Threads) (grown : last.journal = first.journal ++ more)
    (unopened : ∀ entry ∈ more, entry.isOpening = false)
    (userState : last.owner.userState =
      (((more.filterMap Entry.happening?).filterMap Happening.applied?).map Prod.fst).foldl
        UserState.absorb first.owner.userState)
    (fresh : (more.filterMap Entry.returned?).Sublist
      ((((more.filterMap Entry.happening?).filterMap Happening.received?).filter isFresh).map
        Prod.fst)) : last.Threads := by
  have quiet := unopened_happenings unopened
  constructor
  case userState =>
    rw [userState, threads.userState, replayed, replayed, openingState_grown grown unopened,
      Outbox.applied_grown (history_grown grown) quiet, List.map_append, List.foldl_append]
  case returned =>
    rw [returned_grown grown unopened, Outbox.received_grown (history_grown grown) quiet,
      List.filter_append, List.map_append]
    exact threads.returned.append fresh

theorem plain (threads : first.Threads) (plain : Plain first last) : last.Threads := by
  obtain ⟨more, grown, quiet⟩ := plain.journal
  have unopened : ∀ entry ∈ more, entry.isOpening = false :=
    fun entry member => (Entry.of_isPlain (quiet entry member)).1
  have unapplied : (more.filterMap Entry.happening?).filterMap Happening.applied? = [] := by
    rw [List.filterMap_filterMap, List.filterMap_eq_nil_iff]
    exact fun entry member => (Entry.of_isPlain (quiet entry member)).2.1
  have uncalled : more.filterMap Entry.returned? = [] :=
    List.filterMap_eq_nil_iff.mpr fun entry member =>
      (Entry.of_isPlain (quiet entry member)).2.2
  exact threads.grown grown unopened (by rw [unapplied]; exact plain.userState)
    (uncalled ▸ List.nil_sublist _)

theorem absorb (threads : first.Threads) (bundle : Bundle) (context : DispatchContext) :
    (first.absorb bundle context).Threads := by
  obtain ⟨callbacks, same⟩ := first.absorb_eq bundle context
  -- the note that the bundle is applied takes effect together with what it brings
  let merged : Session W :=
    { first.note (.applied bundle context) with
      owner := { first.owner with userState := first.owner.userState.absorb bundle } }
  have noted : merged.Threads :=
    @grown _ first merged [.applied bundle context] threads rfl
      (List.forall_mem_singleton.mpr rfl) rfl (List.nil_sublist _)
  rw [same]
  exact noted.plain ⟨rfl, callbacks.map .told, rfl, Entry.isPlain_told⟩

theorem adopt (session : Session W) (account : Account) (owner : Owner) (resume : Bool) :
    (session.adopt account owner resume).Threads := by
  have marked : afterLast Entry.isOpening (session.adopt account owner resume).journal = [] :=
    afterLast_mark session.journal rfl
  have opening : (session.adopt account owner resume).journal =
      session.journal ++ [.opened account owner] := rfl
  have since : (session.adopt account owner resume).outbox.sinceOpened = [] := by
    rw [Outbox.sinceOpened, history_grown opening]
    exact afterLast_mark _ rfl
  have opened : (session.adopt account owner resume).openingState = owner.userState := by
    rw [openingState, opening, List.filterMap_append]
    exact List.getLastD_concat ..
  constructor
  case userState =>
    rw [replayed, Outbox.applied, since, opened]
    rfl
  case returned =>
    rw [Session.returned, marked]
    exact List.nil_sublist _

/-- An answer is put behind the call at once. -/
theorem answered (threads : first.Threads) {agenda : List Work} {call : CoreCall}
    {bundle : Bundle} {context : DispatchContext} (fresh : context.skipSettlement = false)
    (calls : Calls { first with agenda } call (.ok bundle) last) :
    (last.accept bundle context).Threads := by
  obtain ⟨owner, account, wall, time, -, journal⟩ := calls.noted
  have grown : (last.accept bundle context).journal = first.journal ++
      ([.stamped wall time, .called (first.contextAt account time) call (.ok bundle)] ++
        [.received bundle context last.hasSession]) := by
    rw [← List.append_assoc, ← journal]
    rfl
  refine threads.grown grown ?_ (congrArg Owner.userState owner) ?_
  · intro entry member
    simp only [List.cons_append, List.nil_append, List.mem_cons, List.not_mem_nil,
      or_false] at member
    rcases member with rfl | rfl | rfl <;> rfl
  · change [bundle].Sublist (([(bundle, context)].filter isFresh).map Prod.fst)
    rw [List.filter_cons_of_pos (by simp [isFresh, fresh])]
    exact List.Sublist.refl _

theorem refused (threads : first.Threads) {agenda : List Work} {call : CoreCall}
    {reason : String} (calls : Calls { first with agenda } call (.error reason) last) :
    last.Threads := by
  obtain ⟨owner, account, wall, time, -, journal⟩ := calls.noted
  refine threads.grown journal ?_ (congrArg Owner.userState owner) (List.nil_sublist _)
  intro entry member
  simp only [List.mem_cons, List.not_mem_nil, or_false] at member
  rcases member with rfl | rfl <;> rfl

theorem ask (threads : first.Threads) (ask : Ask first last) : last.Threads := by
  cases ask with
  | refused shorter calls => exact threads.refused calls
  | answered fresh shorter plain calls => exact threads.answered fresh calls
  | setUp resumePaging next lives calls =>
      exact (threads.answered rfl calls).plain (.enterRestore _ _ resumePaging)

end Threads

variable [Surroundings W]

theorem Threads.invariant : Invariant (@Threads W) where
  quiet {first last} quiet threads := by
    cases quiet.effect with
    | minor minor => exact threads.plain (.of_minor minor)
    | answer answers => exact threads.plain (.advanceRestore first _)
    | absorb bundle context => exact threads.absorb bundle context
    | close =>
        refine threads.plain ⟨rfl, _, first.disconnect_journal, ?_⟩
        decide
    | reopen owner goesOn => exact .adopt first _ owner true
  ask ask threads := threads.ask ask
  adopt session account owner _ := .adopt session account owner false
  cancelRestore session threads := threads.plain (.cancelRestore session)

section Uncalled

variable {first middle last : Session W}

abbrev Uncalled (first last : Session W) : Prop :=
  Adds (fun entry => !entry.isCall) first.journal last.journal

omit [Surroundings W] in
theorem Plain.uncalled (plain : Plain first last) : Uncalled first last :=
  plain.journal.imp fun _ => Entry.uncalled_of_isPlain

theorem Effect.uncalled (effect : Effect first last) : Uncalled first last := by
  cases effect with
  | minor minor => exact (Plain.of_minor minor).uncalled
  | answer answers => exact (Plain.advanceRestore first _).uncalled
  | absorb bundle context =>
      obtain ⟨callbacks, grown⟩ := first.absorb_journal bundle context
      refine ⟨_, grown, List.forall_mem_cons.mpr ⟨rfl, fun entry member => ?_⟩⟩
      exact Entry.uncalled_of_isPlain (Entry.isPlain_told entry member)
  | close => exact ⟨_, first.disconnect_journal, by decide⟩
  | reopen owner goesOn => exact .one rfl rfl

theorem Quiets.uncalled (quiets : Quiets first last) : Uncalled first last := by
  induction quiets with
  | refl => exact .of_eq rfl
  | tail _ quiet induction => exact induction.trans quiet.effect.uncalled

theorem MayBegin.uncalled (mayBegin : MayBegin first last) : Uncalled first last := by
  cases mayBegin with
  | inl quiets => exact quiets.uncalled
  | inr begun =>
      obtain ⟨middle, account, owner, before, rest⟩ := begun
      have opened : Uncalled middle (middle.adopt account owner false) := .one rfl rfl
      exact (before.uncalled.trans opened).trans rest.uncalled

omit [Surroundings W] in
theorem Ask.called (ask : Ask first last) :
    ∃ account wall time call answer, first.account = some account ∧
      Adds (fun entry => !entry.isCall) (first.journal ++
        [.stamped wall time, .called (first.contextAt account time) call answer])
        last.journal := by
  cases ask with
  | refused shorter calls =>
      obtain ⟨-, account, wall, time, lives, journal⟩ := calls.noted
      exact ⟨account, wall, time, _, _, lives, .of_eq journal⟩
  | @answered agenda call called bundle context fresh shorter plain calls =>
      obtain ⟨-, account, wall, time, lives, journal⟩ := calls.noted
      refine ⟨account, wall, time, call, .ok bundle, lives, ?_⟩
      rw [← journal]
      exact .one rfl rfl
  | @setUp agenda asking called bundle resumePaging next known calls =>
      obtain ⟨-, account, wall, time, lives, journal⟩ := calls.noted
      refine ⟨account, wall, time, .initialSetup first.config.device asking.inviteCode,
        .ok bundle, lives, ?_⟩
      rw [← journal]
      exact (Adds.one rfl rfl).trans (Plain.enterRestore _ _ resumePaging).uncalled

end Uncalled

/-- The core is called for the live account, with what the session holds when the move
begins. -/
theorem context_of_called {session : Session W} (tame : session.Tame) {next : Move W}
    {context : CoreContext} {call : CoreCall} {answer : Except String Bundle}
    (called : .called context call answer ∈ session.added next) :
    ∃ account time, session.account = some account ∧
      context = session.contextAt account time := by
  have never (uncalled : Uncalled session (session.move next)) : False := by
    cases uncalled.of_mem_drop called
  rcases move_cases tame next with ⟨middle, asked, rest⟩ | mayBegin | rfl
  · cases asked with
    | inl same => exact absurd (same ▸ rest.uncalled) never
    | inr ask =>
        obtain ⟨account, wall, time, asked, answered, lives, noted⟩ := ask.called
        obtain ⟨more, grown, uncalled⟩ := noted.trans rest.uncalled
        rw [added, grown, List.append_assoc, List.drop_left] at called
        refine ⟨account, time, lives, ?_⟩
        rcases List.mem_append.mp called with first | later
        · simp only [List.mem_cons, reduceCtorEq, Entry.called.injEq, List.not_mem_nil,
            or_false, false_or] at first
          exact first.1
        · cases uncalled _ later
  · exact (never mayBegin.uncalled).elim
  · exact (never (Plain.cancelRestore session).uncalled).elim

/-- A call of the core reads the state that the account was opened with and, in order,
every bundle that has been applied since. What the core returned before is, in its order,
among those and the ones that wait on the agenda. Nothing waits when a caller's operation
asks the core, and where nothing waits and nothing else was applied, the state that is read
is the one that the returned bundles make. -/
theorem calls_read_what_was_applied {config : Config} {outside : W} {session : Session W}
    {next : Move W} {context : CoreContext} {call : CoreCall}
    {answer : Except String Bundle} (reached : Reaches (new config outside) session)
    (permitted : session.permits next = true)
    (called : .called context call answer ∈ session.added next) :
    context.userState = session.replayed.toCoreBytes ∧
    (session.replayed.Encodable →
      UserState.decodeDelta context.userState = .ok session.replayed) ∧
    session.returned.Sublist
      (((session.outbox.applied ++ session.outbox.ready).filter isFresh).map Prod.fst) ∧
    ((∃ operation, next = .perform operation) → session.outbox.ready = []) ∧
    (session.outbox.ready = [] → session.outbox.applied.length = session.returned.length →
      session.replayed = session.promised) := by
  have tame := reached.tame (new_tame config outside)
  have start : (new config outside).Threads := ⟨rfl, List.nil_sublist _⟩
  have threads := Threads.invariant.reaches reached (new_tame config outside) start
  obtain ⟨account, time, lives, rfl⟩ := context_of_called tame called
  have live : session.outbox.live = true := by
    change session.account.isSome = true
    rw [lives, Option.isSome_some]
  have inOrder := reached.steps.inOrder (fun dead => absurd dead Bool.false_ne_true) live
  have read : (session.contextAt account time).userState = session.replayed.toCoreBytes :=
    congrArg UserState.toCoreBytes threads.userState
  have among : session.returned.Sublist
      (((session.outbox.applied ++ session.outbox.ready).filter isFresh).map Prod.fst) :=
    inOrder ▸ threads.returned
  refine ⟨read, ?_, among, ?_, ?_⟩
  · intro encodable
    rw [read]
    exact UserState.decodeDelta_toCoreBytes encodable
  · rintro ⟨operation, rfl⟩
    exact ready_of_isIdle permitted
  · intro nothing same
    rw [nothing, List.append_nil] at among
    have inside := among.trans ((List.filter_sublist).map Prod.fst)
    have exactly := inside.eq_of_length (by rw [List.length_map, same])
    rw [replayed, promised, exactly]

def bringsKey : Bundle where
  stateDelta := some [161, 97, 107, 65, 1]

/-- The core reports a new key when it is asked for the read markers. -/
def markersBench : Bench :=
  { Bench.new 7 with script := { answers := [("read_markers", .ok bringsKey)] } }

/-- A reconnect of a live connection asks for the markers and for the levels at once. -/
def markersMoves : List (Move Bench) :=
  [.perform (.start "broker" twelveWords {}), .receive 1 .connected, .step, .step, .step,
    .step, .perform .reconnect, .step]

def markersRun : Session Bench :=
  markersMoves.foldl move (new .test markersBench)

theorem markersRun_reached : Reaches (new .test markersBench) markersRun :=
  Reaches.here.moves (by decide +kernel)

theorem called_markersRun :
    ∃ context answer, .called context .muteLevels answer ∈ markersRun.added .step ∧
      context.userState = [160] := by
  have asked : ([160], CoreCall.muteLevels) ∈
      ((markersRun.added .step).filterMap Entry.call?).map
        fun asked => (asked.1.userState, asked.2) := by
    decide +kernel
  obtain ⟨⟨context, call⟩, member, same⟩ := List.mem_map.mp asked
  obtain ⟨read, rfl⟩ := Prod.mk.inj same
  obtain ⟨entry, inside, calls⟩ := List.mem_filterMap.mp member
  cases entry with
  | called context call answer =>
      cases calls
      exact ⟨context, answer, inside, read⟩
  | _ => cases calls

theorem calls_read_markersRun :
    ∃ context answer, .called context .muteLevels answer ∈ markersRun.added .step ∧
      context.userState = markersRun.replayed.toCoreBytes ∧
      (markersRun.replayed.Encodable →
        UserState.decodeDelta context.userState = .ok markersRun.replayed) ∧
      markersRun.returned.Sublist
        (((markersRun.outbox.applied ++ markersRun.outbox.ready).filter isFresh).map
          Prod.fst) ∧
      ((∃ operation, (Move.step : Move Bench) = .perform operation) →
        markersRun.outbox.ready = []) ∧
      (markersRun.outbox.ready = [] →
        markersRun.outbox.applied.length = markersRun.returned.length →
          markersRun.replayed = markersRun.promised) := by
  obtain ⟨context, answer, called, -⟩ := called_markersRun
  exact ⟨context, answer, called, calls_read_what_was_applied markersRun_reached rfl called⟩

/-- The core has returned a new key, and yet it is asked for the levels with a state that
is empty. -/
theorem levels_asked_without_key :
    Reaches (new .test markersBench) markersRun ∧
      markersRun.promised.get? "k" = some [1] ∧
      ∃ context answer, .called context .muteLevels answer ∈ markersRun.added .step ∧
        UserState.decodeDelta context.userState = .ok ∅ := by
  obtain ⟨context, answer, called, read⟩ := called_markersRun
  refine ⟨markersRun_reached, by decide +kernel, context, answer, called, ?_⟩
  rw [read]
  rfl

end Session

end Messenger

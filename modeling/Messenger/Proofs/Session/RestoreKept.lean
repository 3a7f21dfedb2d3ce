import Messenger.Proofs.Session.Minor
import Messenger.Proofs.Session.Settlement

/-!
Whether a restore that was asked for survives reconnecting. It does from the first initial
setup on, because then the restore machine is under way and opening the account again goes
on with it. Before, only the account knows of the restore, and opening it again forgets.
-/

namespace Messenger

namespace Entry

/-- An initial setup that succeeded. -/
def setsUp : Entry → Bool
  | .called _ call (.ok _) => call.isSetUp
  | _ => false

def endsRestore : Entry → Bool
  | .told (.event .restoreFinished) => true
  | _ => false

def bearsOnRestore (entry : Entry) : Bool :=
  entry.isOpening || entry.setsUp

theorem not_bears_of_isPlain {entry : Entry} (plain : entry.isPlain = true) :
    (!entry.bearsOnRestore) = true := by
  cases entry with
  | opened account owner => cases plain
  | called context call answer => cases plain
  | _ => rfl

end Entry

/-- The account was opened again before an initial setup succeeded. -/
def reopenedEarly (since : List Entry) : Bool :=
  (since.find? Entry.bearsOnRestore).any Entry.isOpening

namespace Session

variable {W : Type}

/-- The machine stays on its side of restoring, and no account but the old one is left. -/
structure Unmoved (first last : Session W) : Prop where
  isRestoring : last.restore.isRestoring = first.restore.isRestoring
  asks : ∀ asks ∈ last.account.map (·.restoring), asks ∈ first.account.map (·.restoring)
  journal : Adds (fun entry => !entry.bearsOnRestore) first.journal last.journal

namespace Unmoved

variable {first middle last : Session W}

theorem of_minor (minor : Minor first last) : Unmoved first last :=
  ⟨congrArg _ minor.restore, fun _ member => minor.restoring ▸ member,
    minor.journal.imp fun _ => Entry.not_bears_of_isPlain⟩

theorem trans (start : Unmoved first middle) (rest : Unmoved middle last) :
    Unmoved first last :=
  ⟨rest.isRestoring.trans start.isRestoring,
    fun asks member => start.asks asks (rest.asks asks member),
    start.journal.trans rest.journal⟩

theorem note (session : Session W) {entry : Entry} (apart : entry.bearsOnRestore = false) :
    Unmoved session (session.note entry) :=
  ⟨rfl, fun _ => id, .one rfl (by simp [apart])⟩

theorem accept (session : Session W) (bundle : Bundle) (context : DispatchContext) :
    Unmoved session (session.accept bundle context) :=
  ⟨rfl, fun _ => id, .one rfl rfl⟩

theorem advanceRestore (session : Session W) {step : RestoreMachine × List RestoreAction}
    (same : step.1.isRestoring = session.restore.isRestoring)
    (unfinished : .finished ∉ step.2) : Unmoved session (session.advanceRestore step) := by
  rw [advanceRestore_eq, accountAfter, if_neg unfinished]
  refine ⟨same, fun _ => id, _, rfl, ?_⟩
  intro entry member
  obtain ⟨callback, -, rfl⟩ := List.mem_map.mp member
  rfl

theorem absorb (session : Session W) (bundle : Bundle) (context : DispatchContext) :
    Unmoved session (session.absorb bundle context) := by
  obtain ⟨callbacks, same⟩ := session.absorb_eq bundle context
  have noted : Unmoved session (session.note (.applied bundle context)) := note session rfl
  rw [same]
  refine noted.trans ⟨rfl, fun _ => id, callbacks.map .told, rfl, fun entry member => ?_⟩
  exact Entry.not_bears_of_isPlain (Entry.isPlain_told entry member)

end Unmoved

/-- How far a restore that was asked for has come. -/
inductive Kept (session : Session W) (since : List Entry) : Prop where
  | awaited (untouched : since.find? Entry.bearsOnRestore = none)
      (idle : session.restore.isRestoring = false)
      (asked : ∀ asks ∈ session.account.map (·.restoring), asks = true)
  | going {mark : Entry} (earliest : since.find? Entry.bearsOnRestore = some mark)
      (setUp : mark.isOpening = false) (going : session.restore.isRestoring = true)
  | forgotten {mark : Entry} (earliest : since.find? Entry.bearsOnRestore = some mark)
      (reopened : mark.isOpening = true) (idle : session.restore.isRestoring = false)
      (unasked : ∀ asks ∈ session.account.map (·.restoring), asks = false)
  | finished (told : .told (.event .restoreFinished) ∈ since)

/-- The same, with what the journal of another session does not have. -/
def KeptSince (start session : Session W) : Prop :=
  ∃ since, session.journal = start.journal ++ since ∧ session.Kept since

namespace KeptSince

variable {start first last : Session W}

theorem unmoved (kept : KeptSince start first) (unmoved : Unmoved first last) :
    KeptSince start last := by
  obtain ⟨since, journal, stage⟩ := kept
  obtain ⟨more, grown, apart⟩ := unmoved.journal
  have none : more.find? Entry.bearsOnRestore = none :=
    List.find?_eq_none.mpr fun entry member => by simpa using apart entry member
  have same : (since ++ more).find? Entry.bearsOnRestore =
      since.find? Entry.bearsOnRestore := by
    rw [List.find?_append, none, Option.or_none]
  refine ⟨since ++ more, by rw [grown, journal, List.append_assoc], ?_⟩
  cases stage with
  | awaited untouched idle asked =>
      exact .awaited (same.trans untouched) (unmoved.isRestoring.trans idle)
        fun asks member => asked asks (unmoved.asks asks member)
  | going earliest setUp going =>
      exact .going (same.trans earliest) setUp (unmoved.isRestoring.trans going)
  | forgotten earliest reopened idle unasked =>
      exact .forgotten (same.trans earliest) reopened (unmoved.isRestoring.trans idle)
        fun asks member => unasked asks (unmoved.asks asks member)
  | finished told => exact .finished (List.mem_append_left _ told)

theorem finish (kept : KeptSince start first) {step : RestoreMachine × List RestoreAction}
    (finished : .finished ∈ step.2) : KeptSince start (first.advanceRestore step) := by
  obtain ⟨since, journal, -⟩ := kept
  refine ⟨since ++ (RestoreAction.told step.2).map .told, ?_, .finished ?_⟩
  · rw [advanceRestore_eq, ← List.append_assoc, ← journal]
  · refine List.mem_append_right _ (List.mem_map_of_mem ?_)
    exact RestoreAction.finished_mem_told.mpr finished

/-- Opening the account again forgets a restore whose machine has not begun. -/
theorem reopen (kept : KeptSince start first) {account : Account} (owner : Owner)
    (goesOn : account.restoring = first.restore.isRestoring) :
    KeptSince start (first.adopt account owner true) := by
  obtain ⟨since, journal, stage⟩ := kept
  have asks {stays : Bool} (machine : first.restore.isRestoring = stays) :
      ∀ asks ∈ (first.adopt account owner true).account.map (·.restoring), asks = stays := by
    rintro _ ⟨⟩
    exact goesOn.trans machine
  refine ⟨since ++ [.opened account owner], ?_, ?_⟩
  · rw [← List.append_assoc, ← journal]
    rfl
  cases stage with
  | awaited untouched idle asked =>
      have earliest : (since ++ [Entry.opened account owner]).find? Entry.bearsOnRestore =
          some (.opened account owner) := by
        rw [List.find?_append, untouched]
        rfl
      exact .forgotten earliest rfl idle (asks idle)
  | going earliest setUp going =>
      exact .going (by rw [List.find?_append, earliest, Option.some_or]) setUp going
  | forgotten earliest reopened idle unasked =>
      exact .forgotten (by rw [List.find?_append, earliest, Option.some_or]) reopened idle
        (asks idle)
  | finished told => exact .finished (List.mem_append_left _ told)

end KeptSince

section Calling

variable {start first last : Session W} {agenda : List Work} {account : Account}

theorem Calls.keeps {call : CoreCall} {answer : Except String Bundle}
    (calls : Calls { first with agenda } call answer last) :
    last.restore = first.restore ∧ last.account = first.account :=
  ⟨(congrArg Session.restore calls.rest :), (congrArg Session.account calls.rest :)⟩

/-- A call other than an initial setup that succeeds. -/
theorem Calls.unmoved {call : CoreCall} {answer : Except String Bundle}
    (calls : Calls { first with agenda } call answer last)
    (plain : ∀ context, (Entry.called context call answer).setsUp = false) :
    Unmoved first last := by
  obtain ⟨restore, account⟩ := calls.keeps
  obtain ⟨-, _, wall, time, -, journal⟩ := calls.noted
  refine ⟨congrArg _ restore, fun _ member => account ▸ member, _, journal, ?_⟩
  intro entry member
  simp only [List.mem_cons, List.not_mem_nil, or_false] at member
  rcases member with rfl | rfl
  · rfl
  · simp [Entry.bearsOnRestore, Entry.isOpening, plain]

/-- After an initial setup the machine is under way, unless the restore was forgotten or
has finished. -/
theorem KeptSince.setUp (kept : KeptSince start first) {device : String}
    {inviteCode : Option String} {bundle : Bundle} (resumePaging : Bool)
    (lives : first.account = some account)
    (calls : Calls { first with agenda } (.initialSetup device inviteCode) (.ok bundle) last) :
    KeptSince start ((last.accept bundle {}).enterRestore account.restoring resumePaging) := by
  obtain ⟨step, entered, machine, unfinished⟩ :=
    enterRestore_eq (last.accept bundle {}) account.restoring resumePaging
  obtain ⟨restore, same⟩ := calls.keeps
  obtain ⟨-, asking, wall, time, -, noted⟩ := calls.noted
  obtain ⟨since, journal, stage⟩ := kept
  have isRestoring : step.1.isRestoring =
      (first.restore.isRestoring || account.restoring) := by
    rw [machine, ← restore]
    rfl
  let answer : Entry :=
    .called (first.contextAt asking time) (.initialSetup device inviteCode) (.ok bundle)
  let ready : Session W := { last.accept bundle {} with restore := step.1 }
  have readied : KeptSince start ready := by
    refine ⟨since ++
      [.stamped wall time, answer, .received bundle {} last.hasSession], ?_, ?_⟩
    · change last.journal ++ [_] = _
      rw [noted, journal]
      simp only [List.append_assoc, List.cons_append, List.nil_append, answer]
    cases stage with
    | awaited untouched idle asked =>
        have earliest : (since ++ [.stamped wall time, answer,
            .received bundle {} last.hasSession]).find? Entry.bearsOnRestore = some answer := by
          rw [List.find?_append, untouched]
          rfl
        have restoring : account.restoring = true := asked _ (by rw [lives]; rfl)
        exact .going earliest rfl (by rw [isRestoring, restoring, Bool.or_true])
    | going earliest setUp going =>
        exact .going (by rw [List.find?_append, earliest, Option.some_or]) setUp
          (by rw [isRestoring, going, Bool.true_or])
    | forgotten earliest reopened idle unasked =>
        have restoring : account.restoring = false := unasked _ (by rw [lives]; rfl)
        exact .forgotten (by rw [List.find?_append, earliest, Option.some_or]) reopened
          (by rw [isRestoring, idle, restoring]; rfl)
          fun asks member => unasked asks (same ▸ member)
    | finished told => exact .finished (List.mem_append_left _ told)
  rw [entered]
  exact readied.unmoved (.advanceRestore ready rfl unfinished)

theorem KeptSince.ask (kept : KeptSince start first) (ask : Ask first last) :
    KeptSince start last := by
  cases ask with
  | refused shorter calls => exact kept.unmoved (calls.unmoved fun _ => rfl)
  | answered fresh shorter plain calls =>
      exact (kept.unmoved (calls.unmoved fun _ => plain)).unmoved (.accept _ _ _)
  | setUp resumePaging next lives calls => exact kept.setUp resumePaging lives calls

end Calling

variable [Surroundings W]

theorem KeptSince.quiet {start first last : Session W} (kept : KeptSince start first)
    (quiet : Quiet first last) : KeptSince start last := by
  cases quiet.effect with
  | minor minor => exact kept.unmoved (.of_minor minor)
  | @answer input answers =>
      by_cases finished : .finished ∈ (first.restore.handle input).2
      · exact kept.finish finished
      · have same := first.restore.answer_isRestoring answers
        rw [decide_eq_true finished, Bool.and_true] at same
        exact kept.unmoved (.advanceRestore first same finished)
  | absorb bundle context => exact kept.unmoved (.absorb first bundle context)
  | close => exact kept.unmoved ⟨rfl, nofun, _, first.disconnect_journal, by decide⟩
  | reopen owner goesOn => exact kept.reopen owner goesOn

theorem KeptSince.lasting (start : Session W) : Lasting (KeptSince start) where
  quiet quiet kept := kept.quiet quiet
  ask ask kept := kept.ask ask

/-- The move leaves a restore alone: it does not cancel one, and opens an account only by
reconnecting. -/
def Spares (session : Session W) (next : Move W) : Prop :=
  next.cancels = false ∧
    (next.begins = true → ∀ entry ∈ session.added next, entry.isOpening = false)

/-- A run of moves that leave a restore alone. -/
inductive Spared (start : Session W) : Session W → Prop where
  | here : Spared start start
  | after {session : Session W} (next : Move W) (spared : Spared start session)
      (permitted : session.permits next = true) (spares : session.Spares next) :
      Spared start (session.move next)

theorem KeptSince.move {start session : Session W} (kept : KeptSince start session)
    (tame : session.Tame) {next : Move W} (spares : session.Spares next) :
    KeptSince start (session.move next) := by
  obtain ⟨goesOn, unopened⟩ := spares
  cases begins : next.begins with
  | false => exact (lasting start).turn (move_turn tame begins goesOn) kept
  | true =>
      cases move_mayBegin session begins with
      | inl quiets => exact (lasting start).quiets quiets kept
      | inr begun =>
          obtain ⟨middle, account, owner, before, rest⟩ := begun
          obtain ⟨early, earlyEq⟩ := before.journal_prefix
          obtain ⟨late, lateEq⟩ := rest.journal_prefix
          have opened : Entry.opened account owner ∈ session.added next := by
            rw [added, ← lateEq]
            change _ ∈ (middle.journal ++ [Entry.opened account owner] ++ late).drop _
            rw [← earlyEq, List.append_assoc, List.append_assoc, List.drop_left]
            simp
          cases unopened begins _ opened

theorem Spared.tame {start session : Session W} (spared : Spared start session)
    (tame : start.Tame) : session.Tame := by
  induction spared with
  | here => exact tame
  | after next _ _ _ induction => exact induction.move next

theorem Spared.keptSince {start session : Session W} (spared : Spared start session)
    (tame : start.Tame) (asked : KeptSince start start) : KeptSince start session := by
  induction spared with
  | here => exact asked
  | after next before _ spares induction => exact induction.move (before.tame tame) spares

omit [Surroundings W] in
theorem eq_of_reported_ok {result : Session W × Except SessionError Unit} {last : Session W}
    (done : reported result = (last, .ok ())) : result = (last, .ok ()) := by
  obtain ⟨session, outcome⟩ := result
  cases outcome with
  | ok _ => exact done
  | error error => cases done

theorem restoreAccount_opens {session restored : Session W} {params : RestoreParams}
    (asked : session.restoreAccount params = (restored, .ok ())) :
    ∃ (middle : Session W) (account : Account) (owner : Owner), account.restoring = true ∧
      LinkOnly (middle.adopt account owner false) restored := by
  have opened := eq_of_reported_ok asked
  unfold tryRestoreAccount at opened
  split at opened
  · cases opened
  · split at opened
    · cases opened
    · dsimp only at opened
      split at opened
      · cases opened
      · refine ⟨_, _, _, ?_, congrArg Prod.fst opened ▸ openAccount_link _ _ _ _⟩
        rfl

/-- A restore that was asked for with success is known to the account alone. -/
theorem keptSince_of_restoreAccount {session restored : Session W} {params : RestoreParams}
    (asked : session.restoreAccount params = (restored, .ok ())) :
    KeptSince restored restored := by
  obtain ⟨middle, account, owner, restoring, link⟩ := restoreAccount_opens asked
  have lives : restored.account = some account := (congrArg Session.account link.rest :)
  have machine : restored.restore =
      .new middle.config.contactsPageSize middle.config.messagesPageSize :=
    (congrArg Session.restore link.rest :)
  refine ⟨[], (List.append_nil _).symm, .awaited rfl ?_ ?_⟩
  · rw [machine]
    rfl
  · rw [lives]
    rintro _ ⟨⟩
    exact restoring

/-- What the journal has that the journal of `start` has not. -/
def since (session start : Session W) : List Entry :=
  session.journal.drop start.journal.length

theorem bootstrap_cases (session : Session W) (agenda : List Work) (resumePaging : Bool) :
    Unmoved session ({ session with agenda }.bootstrap resumePaging) ∨
      ∃ account called bundle, session.account = some account ∧
        Calls { session with agenda }
          (.initialSetup session.config.device account.inviteCode) (.ok bundle) called ∧
        { session with agenda }.bootstrap resumePaging =
          (called.accept bundle {}).enterRestore account.restoring resumePaging := by
  have taken : Unmoved session { session with agenda } := .of_minor (.of_same rfl rfl rfl rfl)
  have report (session : Session W) (error : SessionError) :
      Unmoved session (session.report error) := .of_minor (.tell session _)
  unfold bootstrap
  split
  · exact Or.inl (taken.trans (report _ _))
  · rename_i account lives
    split
    · rename_i result
      cases runCall_refused result with
      | inl same => exact Or.inl (taken.trans (same ▸ report _ _))
      | inr refused =>
          obtain ⟨reason, calls⟩ := refused
          exact Or.inl ((calls.unmoved fun _ => rfl).trans (report _ _))
    · rename_i result
      exact Or.inr ⟨account, _, _, lives, runCall_answered result, rfl⟩

/-- A bootstrap with a successful initial setup enters the restore. -/
theorem isRestoring_of_setsUp {session : Session W} {resumePaging : Bool}
    {agenda : List Work} (next : session.agenda = .bootstrap resumePaging :: agenda)
    (succeeds : ∃ entry ∈ session.added .step, entry.setsUp = true) :
    ∃ account, session.account = some account ∧
      session.step.restore.isRestoring =
        (session.restore.isRestoring || account.restoring) := by
  have stepped : session.step = { session with agenda }.bootstrap resumePaging := by
    simp only [step, next, carryOut]
  rcases session.bootstrap_cases agenda resumePaging with unmoved |
    ⟨account, called, bundle, lives, calls, entered⟩
  · obtain ⟨entry, member, setsUp⟩ := succeeds
    have apart := (stepped ▸ unmoved.journal).of_mem_drop member
    simp [Entry.bearsOnRestore, setsUp] at apart
  · obtain ⟨step, advanced, machine, -⟩ :=
      enterRestore_eq (called.accept bundle {}) account.restoring resumePaging
    refine ⟨account, lives, ?_⟩
    rw [stepped, entered, advanced, advanceRestore_eq, ← calls.keeps.1]
    exact machine

/-- The bootstrap after a restore that was asked for goes on with it or begins it, whatever
happened to the connection, if and only if the account was not opened again before an
initial setup succeeded. -/
theorem restores_iff_not_reopenedEarly {config : Config} {outside : W}
    {session restored last : Session W} {params : RestoreParams} {resumePaging : Bool}
    {agenda : List Work} (reached : Reaches (new config outside) session)
    (asked : session.restoreAccount params = (restored, .ok ()))
    (spared : Spared restored last)
    (unfinished : .told (.event .restoreFinished) ∉ last.since restored)
    (next : last.agenda = .bootstrap resumePaging :: agenda)
    (succeeds : ∃ entry ∈ last.added .step, entry.setsUp = true) :
    last.step.restore.isRestoring = true ↔ reopenedEarly (last.since restored) = false := by
  have tame : restored.Tame := by
    have moved := (reached.tame (new_tame config outside)).move
      (.perform (.restoreAccount params))
    change (session.restoreAccount params).1.Tame at moved
    rwa [asked] at moved
  obtain ⟨account, lives, restoring⟩ := isRestoring_of_setsUp next succeeds
  obtain ⟨since, journal, stage⟩ := spared.keptSince tame (keptSince_of_restoreAccount asked)
  have same : last.since restored = since := by
    rw [Session.since, journal, List.drop_left]
  rw [same] at unfinished ⊢
  rw [restoring, reopenedEarly]
  cases stage with
  | awaited untouched idle asked =>
      have known : account.restoring = true := asked _ (by rw [lives]; rfl)
      simp [untouched, known]
  | going earliest setUp going => simp [earliest, setUp, going]
  | forgotten earliest reopened idle unasked =>
      have forgot : account.restoring = false := unasked _ (by rw [lives]; rfl)
      simp [earliest, reopened, idle, forgot]
  | finished told => exact absurd told unfinished

theorem Spared.moves {start session : Session W} (spared : Spared start session)
    {moves : List (Move W)} (permitted : session.permitsAll moves = true)
    (apart : ∀ next ∈ moves, next.cancels = false ∧ next.begins = false) :
    Spared start (moves.foldl move session) := by
  induction moves generalizing session with
  | nil => exact spared
  | cons next rest induction =>
      obtain ⟨first, others⟩ := (Bool.and_eq_true _ _).mp permitted
      have ⟨now, later⟩ := List.forall_mem_cons.mp apart
      have spares : session.Spares next := ⟨now.1, fun begins => by simp [now.2] at begins⟩
      exact induction (spared.after next first spares) others later

def fromBroker : RestoreParams where
  mixerAddress := "broker"

/-- A session that has the words of the account to be restored. -/
def wordedRun : Session Bench :=
  (new .test (.new 7)).beginRestore twelveWords

def restoredRun : Session Bench :=
  (wordedRun.restoreAccount fromBroker).1

theorem wordedRun_reached : Reaches (new .test (.new 7)) wordedRun :=
  Reaches.here.after (.perform (.beginRestore twelveWords)) rfl

theorem restoredRun_ok : wordedRun.restoreAccount fromBroker = (restoredRun, .ok ()) :=
  Prod.ext rfl (by rfl)

theorem unfinished_of_all {entries : List Entry}
    (quiet : entries.all fun entry => !entry.endsRestore) :
    .told (.event .restoreFinished) ∉ entries := by
  intro told
  cases List.all_eq_true.mp quiet _ told

/-- The connection is lost after the first bootstrap and comes back. -/
def lostMoves : List (Move Bench) :=
  [.receive 1 .connected, .step, .step, .step, .step, .receive 1 (.connectionLost "reset"),
    .receive 2 .connected]

def lostRun : Session Bench :=
  lostMoves.foldl move restoredRun

theorem lostRun_spared : Spared restoredRun lostRun :=
  Spared.here.moves (by decide +kernel) (by decide +kernel)

theorem restores_lostRun :
    reopenedEarly (lostRun.since restoredRun) = false ∧
      lostRun.step.restore.isRestoring = true := by
  have early : reopenedEarly (lostRun.since restoredRun) = false := by decide +kernel
  refine ⟨early, (restores_iff_not_reopenedEarly wordedRun_reached restoredRun_ok
    lostRun_spared ?_ rfl ?_).mpr early⟩
  · exact unfinished_of_all (by decide +kernel)
  · exact List.any_eq_true.mp (by decide +kernel)

/-- The first connection does not come up, and the caller reconnects. -/
def reconnectedRun : Session Bench :=
  [Move.perform .reconnect, .receive 3 .connected].foldl move restoredRun

/-- The restore was asked for with success, the first initial setup succeeds, and yet the
session only syncs. -/
theorem forgotten_by_reconnect :
    Reaches (new .test (.new 7)) wordedRun ∧
      wordedRun.restoreAccount fromBroker = (restoredRun, .ok ()) ∧
      Spared restoredRun reconnectedRun ∧
      .told (.event .restoreFinished) ∉ reconnectedRun.since restoredRun ∧
      reconnectedRun.agenda = [.bootstrap true] ∧
      (∃ entry ∈ reconnectedRun.added .step, entry.setsUp = true) ∧
      reconnectedRun.step.restore.isRestoring = false ∧
      .call .fetchPings ∈ reconnectedRun.step.agenda := by
  refine ⟨wordedRun_reached, restoredRun_ok, ?_, ?_, ?_, ?_, ?_, ?_⟩
  · exact Spared.here.moves (by decide +kernel) (by decide +kernel)
  · exact unfinished_of_all (by decide +kernel)
  · decide +kernel
  · exact List.any_eq_true.mp (by decide +kernel)
  · decide +kernel
  · decide +kernel

end Session

end Messenger

import Messenger.Proofs.Session.Stirring

/-!
What a cancelled restore still fetches. To cancel tells the restore machine, if it is under
way, and only then the account. A restore that only the account knows of, because no initial
setup has succeeded yet, is not cancelled: the first one that does begins it.
-/

namespace Messenger

namespace Session

variable {W : Type}

/-- An initial setup succeeded before any account was opened. -/
def setUpFirst (since : List Entry) : Bool :=
  (since.find? Entry.bearsOnRestore).any Entry.setsUp

/-- What has become of a restore since it was cancelled. -/
inductive Quelled (session : Session W) (asked : Bool) (since : List Entry) : Prop where
  | awaited (wanted : asked = true) (untouched : since.find? Entry.bearsOnRestore = none)
      (calm : session.Calm) (unfetched : ∀ entry ∈ since, entry.restores = false)
      (asks : ∀ asks ∈ session.account.map (·.restoring), asks = true)
  | stopped (settled : asked = false ∨ reopenedEarly since = true) (calm : session.Calm)
      (unfetched : ∀ entry ∈ since, entry.restores = false)
      (unasked : ∀ asks ∈ session.account.map (·.restoring), asks = false)
  | begun (wanted : asked = true) (setUp : setUpFirst since = true)
      (underway : session.Underway since)

section Earliest

variable {since more : List Entry} {kind : Entry → Bool}

/-- What came first stays first. -/
theorem any_earliest_append
    (earliest : (since.find? Entry.bearsOnRestore).any kind = true) :
    ((since ++ more).find? Entry.bearsOnRestore).any kind = true := by
  rw [List.find?_append]
  cases found : since.find? Entry.bearsOnRestore with
  | none =>
      rw [found] at earliest
      cases earliest
  | some entry =>
      rw [found] at earliest
      exact earliest

theorem not_setUpFirst_of_reopenedEarly (reopened : reopenedEarly since = true) :
    setUpFirst since = false := by
  unfold reopenedEarly at reopened
  unfold setUpFirst
  cases found : since.find? Entry.bearsOnRestore with
  | none => rfl
  | some entry =>
      rw [found] at reopened
      cases entry with
      | opened account owner => rfl
      | _ => cases reopened

theorem earliest_of_untouched (untouched : since.find? Entry.bearsOnRestore = none)
    (more : List Entry) :
    (since ++ more).find? Entry.bearsOnRestore = more.find? Entry.bearsOnRestore := by
  rw [List.find?_append, untouched, Option.none_or]

end Earliest

namespace Quelled

variable {first last : Session W} {asked : Bool} {since more : List Entry}

theorem unfetched_append (before : ∀ entry ∈ since, entry.restores = false)
    (now : ∀ entry ∈ more, entry.restores = false) :
    ∀ entry ∈ since ++ more, entry.restores = false :=
  List.forall_mem_append.mpr ⟨before, now⟩

/-- As long as no initial setup succeeds, the account may ask for the restore. -/
theorem of_awaited (wanted : asked = true)
    (untouched : since.find? Entry.bearsOnRestore = none)
    (unfetched : ∀ entry ∈ since, entry.restores = false)
    (asks : ∀ asks ∈ first.account.map (·.restoring), asks = true)
    (stir : Stir first last more) : last.Quelled asked (since ++ more) := by
  have earliest := earliest_of_untouched untouched more
  cases stir with
  | still calm spares same =>
      have none : more.find? Entry.bearsOnRestore = none :=
        List.find?_eq_none.mpr fun entry member => by
          simp [(Entry.of_sparesRestore (spares entry member)).1]
      exact .awaited wanted (earliest.trans none) calm
        (unfetched_append unfetched fun entry member =>
          (Entry.of_sparesRestore (spares entry member)).2)
        fun asking member => asks asking (same asking member)
  | opened calm notes unasked =>
      subst notes
      refine .stopped (Or.inr ?_) calm
        (unfetched_append unfetched (List.forall_mem_singleton.mpr rfl)) unasked
      rw [reopenedEarly, earliest]
      rfl
  | @setUp account lives succeeds fetched begins rests =>
      have restoring : account.restoring = true := asks _ (by rw [lives]; rfl)
      refine .begun wanted (by rw [setUpFirst, earliest, succeeds]) ?_
      rcases begins restoring with ⟨entry, member, restores⟩ | queued
      · exact Or.inl ⟨entry, List.mem_append_right _ member, restores⟩
      · exact Or.inr queued

theorem of_stopped (settled : asked = false ∨ reopenedEarly since = true)
    (unfetched : ∀ entry ∈ since, entry.restores = false)
    (unasked : ∀ asks ∈ first.account.map (·.restoring), asks = false)
    (stir : Stir first last more) : last.Quelled asked (since ++ more) := by
  have stays : asked = false ∨ reopenedEarly (since ++ more) = true :=
    settled.imp_right any_earliest_append
  cases stir with
  | still calm spares same =>
      exact .stopped stays calm
        (unfetched_append unfetched fun entry member =>
          (Entry.of_sparesRestore (spares entry member)).2)
        fun asking member => unasked asking (same asking member)
  | opened calm notes unasked =>
      subst notes
      exact .stopped stays calm (unfetched_append unfetched (List.forall_mem_singleton.mpr rfl))
        unasked
  | @setUp account lives succeeds fetched begins rests =>
      have resting : account.restoring = false := unasked _ (by rw [lives]; rfl)
      obtain ⟨calm, same⟩ := rests resting
      exact .stopped stays calm (unfetched_append unfetched fetched)
        fun asking member => unasked asking (same ▸ member)

end Quelled

def QuelledSince (start : Session W) (asked : Bool) (session : Session W) : Prop :=
  ∃ since, session.journal = start.journal ++ since ∧ session.Quelled asked since

theorem quelledSince_steady [Surroundings W] (start : Session W) (asked : Bool) :
    Steady { ordered := true, sparing := true } (QuelledSince start asked) := by
  rintro first last deed ⟨since, journal, stage⟩
  have goesOn {more : List Entry} (grown : last.journal = first.journal ++ more)
      (quelled : last.Quelled asked (since ++ more)) : QuelledSince start asked last :=
    ⟨since ++ more, by rw [grown, journal, List.append_assoc], quelled⟩
  cases stage with
  | awaited wanted untouched calm unfetched asks =>
      obtain ⟨more, grown, stir⟩ := deed.stir rfl calm
      exact goesOn grown (.of_awaited wanted untouched unfetched asks stir)
  | stopped settled calm unfetched unasked =>
      obtain ⟨more, grown, stir⟩ := deed.stir rfl calm
      exact goesOn grown (.of_stopped settled unfetched unasked stir)
  | begun wanted setUp underway =>
      obtain ⟨more, grown, underway⟩ := deed.underway rfl underway
      exact goesOn grown (.begun wanted (any_earliest_append setUp) underway)

theorem asks_of_any {account : Option Account} {asked : Bool}
    (known : account.any (·.restoring) = asked) :
    ∀ asks ∈ account.map (·.restoring), asks = asked := by
  cases account with
  | none => exact nofun
  | some account =>
      rintro _ ⟨⟩
      exact known

/-- To cancel is to no avail if only the account knows of the restore. -/
theorem quelled_cancelRestore {session : Session W} (idle : session.isIdle = true) :
    session.cancelRestore.Quelled
      (session.account.any (·.restoring) && !session.restore.isRestoring) [] := by
  have unqueued : ∀ work ∈ session.agenda, work.restores = false := by
    rw [agenda_of_isIdle idle]
    exact List.forall_mem_nil _
  cases restoring : session.restore.isRestoring with
  | true =>
      -- the machine has something to cancel, and then the account is told too
      have cancels : session.restore.cancel.2 = [.cancelled] := by
        rw [RestoreMachine.cancel, if_pos restoring]
      have stopped : session.cancelRestore =
          session.endRestore.advanceRestore session.restore.cancel := by
        unfold Session.cancelRestore
        split
        · rename_i nothing
          rw [nothing] at cancels
          cases cancels
        · rfl
      have apart : ∀ action ∈ session.restore.cancel.2, action.ofRestore = false :=
        cancels ▸ List.forall_mem_singleton.mpr rfl
      have ended : ∀ work ∈ session.endRestore.agenda, work.restores = false := unqueued
      obtain ⟨calm, account⟩ :=
        Calm.advanceRestore ended session.restore.cancel_isRestoring apart
      rw [stopped]
      refine .stopped (Or.inl (Bool.and_false _)) calm (List.forall_mem_nil _) ?_
      rw [account]
      refine asks_of_any ?_
      unfold endRestore
      cases session.account <;> rfl
  | false =>
      -- nothing happens, whatever the account asks for
      have calm : session.Calm := ⟨restoring, unqueued⟩
      rw [calm.cancelRestore]
      cases known : session.account.any (·.restoring) with
      | true => exact .awaited rfl rfl calm (List.forall_mem_nil _) (asks_of_any known)
      | false => exact .stopped (Or.inl rfl) calm (List.forall_mem_nil _) (asks_of_any known)

/-- A run in which the caller requests no restore. -/
inductive Forgoes [Surroundings W] (start : Session W) : Session W → Prop where
  | here : Forgoes start start
  | after {session : Session W} (next : Move W) (forgoes : Forgoes start session)
      (permitted : session.permits next = true)
      (unrequested : session.requestsRestore next = false) :
      Forgoes start (session.move next)

section Runs

variable [Surroundings W] {start session last : Session W}

theorem Forgoes.tame (forgoes : Forgoes start session) (tame : start.Tame) : session.Tame := by
  induction forgoes with
  | here => exact tame
  | after next _ _ _ induction => exact induction.move next

theorem Forgoes.quelled {asked : Bool} (forgoes : Forgoes start session) (tame : start.Tame)
    (cancelled : start.Quelled asked []) : QuelledSince start asked session := by
  induction forgoes with
  | here => exact ⟨[], (List.append_nil _).symm, cancelled⟩
  | after next before permitted unrequested induction =>
      exact (quelledSince_steady start asked).move (before.tame tame)
        ⟨fun _ => permitted, fun _ => unrequested⟩ induction

/-- After a restore was cancelled, and until the caller requests one again, something is
fetched for it, or about to be, if and only if it was cancelled when the account had asked for
it and the machine had not begun it, and then the first thing that bore on it, of the openings
of an account and the initial setups that succeeded, was an initial setup. -/
theorem fetches_iff_cancelled_before_setUp {config : Config} {outside : W}
    (reached : Reaches (new config outside) session)
    (permitted : session.permits (.perform .cancelRestore) = true)
    (forgoes : Forgoes (session.move (.perform .cancelRestore)) last) :
    ((∃ entry ∈ last.since (session.move (.perform .cancelRestore)), entry.restores = true) ∨
        ∃ work ∈ last.agenda, work.restores = true) ↔
      session.account.any (·.restoring) = true ∧ session.restore.isRestoring = false ∧
        setUpFirst (last.since (session.move (.perform .cancelRestore))) = true := by
  have tame := (reached.tame (new_tame config outside)).move (.perform .cancelRestore)
  obtain ⟨since, journal, stage⟩ := forgoes.quelled tame (quelled_cancelRestore permitted)
  have same : last.since (session.move (.perform .cancelRestore)) = since := by
    rw [Session.since, journal, List.drop_left]
  have silent (calm : last.Calm) (unfetched : ∀ entry ∈ since, entry.restores = false) :
      ¬((∃ entry ∈ since, entry.restores = true) ∨
        ∃ work ∈ last.agenda, work.restores = true) := by
    rintro (⟨entry, member, restores⟩ | ⟨work, member, restores⟩)
    · exact absurd ((unfetched entry member).symm.trans restores) (by decide)
    · exact absurd ((calm.unqueued work member).symm.trans restores) (by decide)
  rw [same, ← and_assoc, ← Bool.not_eq_true', ← Bool.and_eq_true]
  cases stage with
  | awaited wanted untouched calm unfetched asks =>
      refine iff_of_false (silent calm unfetched) ?_
      rintro ⟨-, setUp⟩
      rw [setUpFirst, untouched] at setUp
      cases setUp
  | stopped settled calm unfetched unasked =>
      refine iff_of_false (silent calm unfetched) ?_
      rintro ⟨wanted, setUp⟩
      rcases settled with unwanted | reopened
      · exact absurd (unwanted.symm.trans wanted) (by decide)
      · exact absurd ((not_setUpFirst_of_reopenedEarly reopened).symm.trans setUp) (by decide)
  | begun wanted setUp underway =>
      exact iff_of_true (underway.imp_right And.right) ⟨wanted, setUp⟩

omit [Surroundings W] in
theorem unrequested_of_not_begins {next : Move W} (plain : next.begins = false) :
    session.requestsRestore next = false := by
  cases next with
  | perform operation =>
      cases operation with
      | createAccount displayName mixer inviteCode => cases plain
      | restoreAccount params => cases plain
      | _ => rfl
  | _ => rfl

theorem Forgoes.moves (forgoes : Forgoes start session) {moves : List (Move W)}
    (permitted : session.permitsAll moves = true)
    (apart : ∀ next ∈ moves, next.begins = false) :
    Forgoes start (moves.foldl move session) := by
  induction moves generalizing session with
  | nil => exact forgoes
  | cons next rest induction =>
      obtain ⟨first, others⟩ := (Bool.and_eq_true _ _).mp permitted
      have ⟨now, later⟩ := List.forall_mem_cons.mp apart
      exact induction (forgoes.after next first (unrequested_of_not_begins now)) others later

end Runs

/-- The restore is cancelled while the machine waits for the counts. -/
def begunRun : Session Bench :=
  [Move.receive 1 .connected, .step, .step, .step, .step].foldl move restoredRun

/-- Then the connection is lost, and another bootstrap follows. -/
def stoppedRun : Session Bench :=
  [Move.receive 1 (.connectionLost "reset"), .receive 2 .connected, .step, .step, .step,
    .step].foldl move (begunRun.move (.perform .cancelRestore))

theorem begunRun_reached : Reaches (new .test (.new 7)) begunRun := by
  have restored : Reaches (new .test (.new 7)) restoredRun :=
    wordedRun_reached.after (.perform (.restoreAccount fromBroker)) rfl
  exact restored.moves (by decide +kernel)

theorem stoppedRun_forgoes :
    Forgoes (begunRun.move (.perform .cancelRestore)) stoppedRun :=
  Forgoes.here.moves (by decide +kernel) (by decide +kernel)

theorem unfetched_stoppedRun :
    begunRun.restore.isRestoring = true ∧
      ¬((∃ entry ∈ stoppedRun.since (begunRun.move (.perform .cancelRestore)),
          entry.restores = true) ∨ ∃ work ∈ stoppedRun.agenda, work.restores = true) := by
  have restoring : begunRun.restore.isRestoring = true := by decide +kernel
  refine ⟨restoring, ?_⟩
  rw [fetches_iff_cancelled_before_setUp begunRun_reached (by decide +kernel)
    stoppedRun_forgoes]
  exact fun ⟨_, idle, _⟩ => absurd (idle.symm.trans restoring) (by decide)

/-- The restore is cancelled while the first connection is being made. -/
def earlyRun : Session Bench :=
  [Move.receive 1 .connected, .step, .step, .step].foldl move
    (restoredRun.move (.perform .cancelRestore))

/-- The restore was asked for with success and then cancelled, and yet its counts are
fetched. -/
theorem fetched_after_cancel :
    Reaches (new .test (.new 7)) wordedRun ∧
      wordedRun.restoreAccount fromBroker = (restoredRun, .ok ()) ∧
      restoredRun.permits (.perform .cancelRestore) = true ∧
      Forgoes (restoredRun.move (.perform .cancelRestore)) earlyRun ∧
      ∃ context answer, .called context .fetchMessageCounts answer ∈
        earlyRun.since (restoredRun.move (.perform .cancelRestore)) := by
  refine ⟨wordedRun_reached, restoredRun_ok, by decide +kernel, ?_, ?_⟩
  · exact Forgoes.here.moves (by decide +kernel) (by decide +kernel)
  · have fetched : CoreCall.fetchMessageCounts ∈
        ((earlyRun.since (restoredRun.move (.perform .cancelRestore))).filterMap
          Entry.call?).map Prod.snd := by
      decide +kernel
    obtain ⟨⟨context, call⟩, member, rfl⟩ := List.mem_map.mp fetched
    obtain ⟨entry, inside, calls⟩ := List.mem_filterMap.mp member
    cases entry with
    | called context call answer =>
        cases calls
        exact ⟨context, answer, inside⟩
    | _ => cases calls

end Session

end Messenger

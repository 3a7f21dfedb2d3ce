import Mathlib.Data.List.Induction
import Messenger.Proofs.Session.InOrder
import Messenger.Proofs.Session.Silence

/-!
How often a session connects. Opening an account makes one attempt; the session makes
another by itself once the link has failed, and after that only an opening does.
-/

namespace Messenger

/-- What was noted since an account was opened last. -/
def sinceOpening (journal : List Entry) : List Entry :=
  afterLast Entry.isOpening journal

theorem sinceOpening_append (journal : List Entry) {more : List Entry}
    (current : ∀ entry ∈ more, entry.isCurrent = true) :
    sinceOpening (journal ++ more) = sinceOpening journal ++ more := by
  refine afterLast_append journal fun entry member => ?_
  cases entry with
  | opened account owner => cases current _ member
  | _ => rfl

theorem sinceOpening_opened (before : List Entry) (account : Account) (owner : Owner)
    {period : List Entry} (unopened : ∀ entry ∈ period, entry.isOpening = false) :
    sinceOpening (before ++ .opened account owner :: period) = period := by
  have marked : afterLast Entry.isOpening (before ++ [.opened account owner]) = [] :=
    afterLast_mark before rfl
  rw [sinceOpening, List.append_cons, afterLast_append _ unopened, marked, List.nil_append]

/-- One attempt at most was made since the opening, and if so the link has failed. -/
def MayConnect (earlier : List Entry) : Prop :=
  connects (sinceOpening earlier) ≤ 1 ∧
    (connects (sinceOpening earlier) ≠ 0 →
      (sinceOpening earlier).any Entry.isLinkFailure = true)

namespace Session

variable {W : Type}

structure Sparing (session : Session W) : Prop extends Hushed session where
  guarded : Ahead (·.attempt?.isSome) MayConnect session.journal
  /-- The attempts that were made and the one that may still be. -/
  spared : session.hasSession = true →
    connects (sinceOpening session.journal) + session.allowance ≤ 2

theorem sparing_new (config : Config) (outside : W) : (new config outside).Sparing :=
  ⟨hushed_new config outside, .nil, nofun⟩

theorem allowance_le (session : Session W) : session.allowance ≤ 1 := by
  unfold allowance
  split <;> decide

theorem Sparing.proceed {first last : Session W} (sparing : first.Sparing)
    (proceeds : Proceeds first last) : last.Sparing := by
  obtain ⟨more, proceedsBy⟩ := proceeds
  have spent := proceedsBy.allowance
  constructor
  case toHushed => exact sparing.toHushed.proceed ⟨more, proceedsBy⟩
  case guarded =>
    rw [proceedsBy.journal]
    refine sparing.guarded.append fun early entry late split attempts => ?_
    cases live : first.hasSession with
    | false =>
        obtain ⟨-, -, -, unasked⟩ := proceedsBy.silent live
        have idle := unasked entry (split ▸ List.mem_append_cons_self)
        exact absurd (idle.symm.trans (Entry.isRequest_of_attempt attempts)) (by decide)
    | true =>
        have current : ∀ entry ∈ early, entry.isCurrent = true :=
          fun entry member => proceedsBy.current entry (split ▸ List.mem_append_left _ member)
        have failed : early.any Entry.isLinkFailure = true :=
          failed_of_heralded (split ▸ proceedsBy.heralded) attempts
        have before := sparing.spared live
        have one := first.allowance_le
        have now : 0 < connects (entry :: late) := connects_pos List.mem_cons_self attempts
        rw [split, connects_append] at spent
        constructor
        · rw [sinceOpening_append _ current, connects_append]
          omega
        · rw [sinceOpening_append _ current, List.any_append, failed, Bool.or_true]
          exact fun _ => rfl
  case spared =>
    intro live
    have before := sparing.spared (proceedsBy.live.symm.trans live)
    rw [proceedsBy.journal, sinceOpening_append _ proceedsBy.current, connects_append]
    omega

variable [Surroundings W]

theorem Sparing.enter {session : Session W} (sparing : session.Sparing) (account : Account)
    (owner : Owner) (resume : Bool) :
    (session.adopt account owner resume).connect.1.Sparing := by
  obtain ⟨more, grown, current, once, -, spent⟩ :=
    connect_once (session.adopt account owner resume)
  have adopted : (session.adopt account owner resume).journal =
      session.journal ++ [.opened account owner] := rfl
  have opened : sinceOpening (session.journal ++ [.opened account owner]) = [] :=
    afterLast_mark session.journal rfl
  rw [adopted] at grown
  constructor
  case toHushed => exact sparing.toHushed.enter account owner resume
  case guarded =>
    rw [grown]
    have noted : Ahead (·.attempt?.isSome) MayConnect
        (session.journal ++ [.opened account owner]) :=
      sparing.guarded.append_unmarked (List.forall_mem_singleton.mpr rfl)
    refine noted.append fun early entry late split attempts => ?_
    have earlier : ∀ entry ∈ early, entry.isCurrent = true :=
      fun entry member => current entry (split ▸ List.mem_append_left _ member)
    have now : 0 < connects (entry :: late) := connects_pos List.mem_cons_self attempts
    rw [split, connects_append] at once
    have none : connects early = 0 := by omega
    rw [MayConnect, sinceOpening_append _ earlier, opened, List.nil_append, none]
    exact ⟨Nat.zero_le 1, fun some => absurd rfl some⟩
  case spared =>
    intro _
    have one : (session.adopt account owner resume).connect.1.allowance = 1 := by
      rw [allowance, spent]
      rfl
    rw [grown, sinceOpening_append _ current, opened, List.nil_append, one]
    omega

theorem sparing_enduring : Enduring (@Sparing W) where
  passage sparing passage := by
    cases passage with
    | proceed proceeds => exact sparing.proceed proceeds
    | close =>
        refine ⟨sparing.toHushed.close, ?_, nofun⟩
        rw [disconnect_journal]
        exact sparing.guarded.append_unmarked (by simp [Entry.attempt?])
    | enter account owner resume => exact sparing.enter account owner resume
  woken {session} first waiting sparing := by
    have unopened : sinceOpening (session.journal ++ [.woken first]) =
        sinceOpening session.journal ++ [.woken first] :=
      afterLast_append _ (List.forall_mem_singleton.mpr rfl)
    refine ⟨hushed_enduring.woken first waiting sparing.toHushed,
      sparing.guarded.append_unmarked (List.forall_mem_singleton.mpr rfl), fun live => ?_⟩
    rw [note, unopened, connects_append]
    exact sparing.spared live

/-- Attempts that all keep to what was allowed ahead of them are two at most. -/
theorem connects_le_two {before period after : List Entry} {account : Account} {owner : Owner}
    (guarded : Ahead (·.attempt?.isSome) MayConnect
      (before ++ .opened account owner :: (period ++ after)))
    (unopened : ∀ entry ∈ period, entry.isOpening = false) : connects period ≤ 2 := by
  induction period using List.reverseRecOn generalizing after with
  | nil => exact Nat.zero_le 2
  | append_singleton early entry induction =>
      have earlier : ∀ entry ∈ early, entry.isOpening = false :=
        fun entry member => unopened entry (List.mem_append_left _ member)
      rw [connects_append]
      cases attempts : entry.attempt?.isSome with
      | true =>
          obtain ⟨allowed, -⟩ := guarded (before ++ .opened account owner :: early) entry after
            (by simp) attempts
          rw [sinceOpening_opened before account owner earlier] at allowed
          have one : connects [entry] ≤ 1 := List.countP_le_length
          omega
      | false =>
          have none : connects [entry] = 0 := by simp [connects, attempts]
          rw [List.append_assoc] at guarded
          rw [none]
          exact induction guarded earlier

/-- Between one opening and the next there are two attempts to connect at most, and there
was a failure of the link before the second. After a disconnect there is none until the
next opening. -/
theorem reconnects_once (config : Config) (outside : W) (moves : List (Move W))
    {journal : List Entry}
    (runs : journal = (moves.foldl move (new config outside)).journal) :
    (∀ before account owner period after,
      journal = before ++ .opened account owner :: (period ++ after) →
      (∀ entry ∈ period, entry.isOpening = false) →
      connects period ≤ 2 ∧
        ∀ early attempt late, period = early ++ attempt :: late →
          attempt.attempt?.isSome = true → connects early ≠ 0 →
          early.any Entry.isLinkFailure = true) ∧
    ∀ before period after, journal = before ++ .disconnected :: (period ++ after) →
      (∀ entry ∈ period, entry.isOpening = false) → connects period = 0 := by
  have sparing := sparing_enduring.moves (sparing_new config outside) moves
  constructor
  · intro before account owner period after split unopened
    have guarded := sparing.guarded
    rw [← runs, split] at guarded
    refine ⟨connects_le_two guarded unopened, fun early attempt late parts attempts made => ?_⟩
    obtain ⟨-, failed⟩ := guarded (before ++ .opened account owner :: early) attempt
      (late ++ after) (by simp [parts]) attempts
    have earlier : ∀ entry ∈ early, entry.isOpening = false :=
      fun entry member => unopened entry (parts ▸ List.mem_append_left _ member)
    rw [sinceOpening_opened before account owner earlier] at failed
    exact failed made
  · intro before period after split unopened
    rw [runs] at split
    refine List.countP_eq_zero.mpr fun attempt member attempts => ?_
    have silent := sparing.toHushed.silent split unopened attempt member
    exact absurd (silent.symm.trans (Entry.isRequest_of_attempt attempts)) (by decide)

/-! The first two attempts are refused, and the caller gives up. -/

def refusedMoves : List (Move Bench) :=
  [.perform (.start "broker" twelveWords {}), .receive 1 (.connectionFailed "refused"),
    .receive 2 (.connectionFailed "refused"), .perform .disconnect,
    .receive 2 (.connectionLost "reset")]

def refusedRun : Session Bench :=
  refusedMoves.foldl move (new .test (.new 7))

/-- From the opening to the disconnect. -/
def refusedPeriod : List Entry :=
  (refusedRun.journal.drop 1).take 12

theorem reconnects_once_refusedRun :
    connects refusedPeriod = 2 ∧ connects refusedPeriod ≤ 2 ∧
      (refusedPeriod.take 9).any Entry.isLinkFailure = true ∧
        connects (refusedRun.journal.drop 14) = 0 := by
  have ⟨opened, closed⟩ := @reconnects_once Bench _ .test (.new 7) refusedMoves
    refusedRun.journal rfl
  have opens : refusedRun.journal[0]?.any Entry.isOpening = true := by decide +kernel
  have closes : refusedRun.journal[13]?.any Entry.isDisconnect = true := by decide +kernel
  have again : refusedPeriod[9]?.any (·.attempt?.isSome) = true := by decide +kernel
  obtain ⟨opening, isOpening, split⟩ := split_at opens
  obtain ⟨attempt, attempts, parts⟩ := split_at again
  cases opening with
  | opened account owner =>
      have rest := List.take_append_drop 12 (refusedRun.journal.drop 1)
      rw [List.drop_drop] at rest
      rw [← rest] at split
      obtain ⟨twice, failed⟩ := opened [] account owner refusedPeriod
        (refusedRun.journal.drop 13) split (unopened_of_all (by decide +kernel))
      refine ⟨by decide +kernel, twice, ?_, ?_⟩
      · exact failed _ attempt _ parts attempts (by decide +kernel)
      · refine closed (refusedRun.journal.take 13) _ [] ?_ (unopened_of_all (by decide +kernel))
        rw [List.append_nil]
        exact split_at_disconnected closes
  | _ => cases isOpening

end Session

end Messenger

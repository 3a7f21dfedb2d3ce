import Messenger.Proofs.Session.Silence

/-!
What a new account finds. Opening it clears neither the tracked round trips nor the parked
bundles; only a disconnect does. An account that is opened in place of a live one inherits
what is outstanding for that one.
-/

namespace Messenger

/-- What makes another account the live one. -/
def Operation.replaces : Operation → Bool
  | .createAccount _ _ _ => true
  | .restoreAccount _ => true
  | _ => false

namespace Session

variable {W : Type}

/-- The same round trips are tracked, and the same bundles parked. -/
structure Inherits (first last : Session W) : Prop where
  liveness : last.liveness = first.liveness
  settlements : last.settlements = first.settlements

namespace Inherits

variable {first middle last : Session W}

theorem trans (start : Inherits first middle) (rest : Inherits middle last) :
    Inherits first last :=
  ⟨rest.liveness.trans start.liveness, rest.settlements.trans start.settlements⟩

theorem of_aside (aside : Aside first last) : Inherits first last :=
  ⟨aside.liveness, aside.settlements⟩

variable [Surroundings W]

theorem reported {result : Session W × Except SessionError Unit}
    (inherits : Inherits first result.1) : Inherits first (Session.reported result).1 :=
  inherits.trans (of_aside (.of_changes (by decide) (.reported result)))

/-- Whatever opening an account comes to, nothing is cleared. -/
theorem of_mayOpen {resume : Bool} (mayOpen : MayOpen resume first last) :
    Inherits first last := by
  obtain ⟨middle, changes, ends⟩ := mayOpen
  have aside : Inherits first middle := of_aside (.of_changes (by decide) changes)
  rcases ends with rfl | ⟨account, owner, rfl⟩
  · exact aside
  · have link := openAccount_link middle account owner resume
    exact aside.trans
      ⟨(congrArg Session.liveness link.rest :), (congrArg Session.settlements link.rest :)⟩

end Inherits

variable [Surroundings W]

theorem live_of_openAccount {session last : Session W} {account : Account} {owner : Owner}
    {resume : Bool} (done : session.openAccount account owner resume = (last, .ok ())) :
    last.hasSession = true := by
  have link := openAccount_link session account owner resume
  rw [done] at link
  exact congrArg Option.isSome (congrArg Session.account link.rest :)

theorem live_of_restoreAccount {session last : Session W} {params : RestoreParams}
    (done : session.restoreAccount params = (last, .ok ())) : last.hasSession = true := by
  obtain ⟨middle, account, owner, -, link⟩ := restoreAccount_opens done
  exact congrArg Option.isSome (congrArg Session.account link.rest :)

theorem live_of_createFrom {session last : Session W} {mnemonic : Mnemonic}
    {displayName mixer : String} {inviteCode : Option String}
    (done : session.createFrom mnemonic displayName mixer inviteCode = (last, .ok ())) :
    last.hasSession = true := by
  unfold createFrom at done
  split at done
  · cases done
  · split at done
    · cases done
    · exact live_of_openAccount done

theorem live_of_createAccount {session last : Session W} {displayName mixer : String}
    {inviteCode : Option String}
    (done : session.createAccount displayName mixer inviteCode = (last, .ok ())) :
    last.hasSession = true := by
  have created := eq_of_reported_ok done
  unfold tryCreateAccount at created
  split at created
  · cases created
  · split at created
    · exact live_of_restoreAccount (congrArg reported created)
    · dsimp only at created
      split at created
      · cases created
      · exact live_of_createFrom created

/-- A new account finds just what was tracked and parked before. That is nothing if and only if
no account was live, or nothing was outstanding for the one that was. -/
theorem clean_iff_nothing_outstanding {config : Config} {outside : W}
    {session last : Session W} {operation : Operation}
    (reached : Reaches (new config outside) session) (replaces : operation.replaces = true)
    (done : session.perform operation = (last, .ok ())) :
    last.hasSession = true ∧ last.liveness = session.liveness ∧
      last.settlements = session.settlements ∧
      ((last.liveness = ∅ ∧ last.settlements = ∅) ↔
        (session.hasSession = true → session.liveness = ∅ ∧ session.settlements = ∅)) := by
  have hushed := hushed_enduring.reaches (hushed_new config outside) reached
  obtain ⟨live, inherits⟩ : last.hasSession = true ∧ Inherits session last := by
    cases operation with
    | createAccount displayName mixer inviteCode =>
        have inherits : Inherits session
            (session.perform (.createAccount displayName mixer inviteCode)).1 :=
          .reported (.of_mayOpen (.tryCreateAccount session displayName mixer inviteCode))
        rw [done] at inherits
        exact ⟨live_of_createAccount done, inherits⟩
    | restoreAccount params =>
        have inherits : Inherits session (session.perform (.restoreAccount params)).1 :=
          .reported (.of_mayOpen (.tryRestoreAccount session params))
        rw [done] at inherits
        exact ⟨live_of_restoreAccount done, inherits⟩
    | _ => cases replaces
  refine ⟨live, inherits.liveness, inherits.settlements, ?_⟩
  rw [inherits.liveness, inherits.settlements]
  refine ⟨fun clean _ => clean, fun clean => ?_⟩
  cases before : session.hasSession with
  | true => exact clean before
  | false => exact hushed.empty before

/-! The connection does not come up, and the caller creates another account, after a
disconnect or at once. -/

def outstanding : Bundle where
  messages := [{ index := some "42", tag := some "t" }]
  ping := some "hash:5"
  settlement := some ⟨"settle", [1]⟩
  publishes := [⟨"after", [2]⟩]

def abandonedMoves : List (Move Bench) :=
  [.perform (.createAccount "alice" "broker" none), .perform (.dispatch outstanding {}), .step,
    .receive 1 (.connectionFailed "refused")]

def abandonedRun : Session Bench :=
  abandonedMoves.foldl move (new .test (.new 7))

theorem abandonedRun_reached : Reaches (new .test (.new 7)) abandonedRun :=
  Reaches.here.moves (by decide +kernel)

def newcomer : Operation :=
  .createAccount "bob" "broker" none

def newcomerRun (session : Session Bench) : Session Bench :=
  (session.perform newcomer).1

theorem eq_ok_of_isOk {outcome : Except SessionError Unit} (succeeds : outcome.isOk = true) :
    outcome = .ok () := by
  cases outcome with
  | ok _ => rfl
  | error _ => cases succeeds

theorem clean_after_disconnect :
    (newcomerRun abandonedRun.disconnect).liveness = ∅ ∧
      (newcomerRun abandonedRun.disconnect).settlements = ∅ := by
  have reached : Reaches (new .test (.new 7)) abandonedRun.disconnect :=
    abandonedRun_reached.after (.perform .disconnect) (by decide +kernel)
  have done : abandonedRun.disconnect.perform newcomer =
      (newcomerRun abandonedRun.disconnect, .ok ()) :=
    Prod.ext rfl (eq_ok_of_isOk (by decide +kernel))
  obtain ⟨-, -, -, clean⟩ := clean_iff_nothing_outstanding reached rfl done
  exact clean.mpr nofun

/-- The settlement of the bundle is complete. -/
def confirmingMoves : List (Move Bench) :=
  [.perform (.dispatch settlesFortyTwo {}), .step, .step]

/-- The new account has the bundle and the round trip of the one before, and a confirmation
makes it publish the rest of that bundle. -/
theorem inherited_by_newcomer :
    Reaches (new .test (.new 7)) abandonedRun ∧ abandonedRun.isIdle = true ∧
      (abandonedRun.perform newcomer).2 = .ok () ∧
      (newcomerRun abandonedRun).settlements.pending = [outstanding] ∧
      (newcomerRun abandonedRun).liveness.timestamp? "hash" = some 5 ∧
      .attempted ⟨"after", [2]⟩ 0 ∈
        (confirmingMoves.foldl move (newcomerRun abandonedRun)).history := by
  obtain ⟨idle, succeeds, parked, tracked, attempted⟩ : abandonedRun.isIdle = true ∧
      (abandonedRun.perform newcomer).2.isOk = true ∧
      (newcomerRun abandonedRun).settlements.pending = [outstanding] ∧
      (newcomerRun abandonedRun).liveness.timestamp? "hash" = some 5 ∧
      .attempted ⟨"after", [2]⟩ 0 ∈
        (confirmingMoves.foldl move (newcomerRun abandonedRun)).history := by decide +kernel
  exact ⟨abandonedRun_reached, idle, eq_ok_of_isOk succeeds, parked, tracked, attempted⟩

end Session

end Messenger

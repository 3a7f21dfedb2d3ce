import Messenger.Proofs.Session.OwnAttempt

/-!
What an operation leaves behind when it fails. The operations that open an account take the
words to restore, note the address to reconnect to and make the account the live one as they
go, and take nothing back when a later step fails.
-/

namespace Messenger

/-- An operation ends so only before it connects. -/
def SessionError.precedesConnecting : SessionError → Bool
  | .alreadyConnected => true
  | .core _ _ => true
  | .malformed _ _ => true
  | _ => false

/-- An operation ends so only once it connects. -/
def SessionError.followsOpening : SessionError → Bool
  | .invalidAddress _ _ => true
  | .publish _ _ => true
  | .subscribe _ => true
  | _ => false

/-- What a session stands on: whose it is, and what it would open next. -/
structure Footing where
  account : Option Account
  owner : Owner
  restore : RestoreMachine
  pendingRestore : Option Mnemonic
  lastOpening : Option OpeningParams

namespace Session

variable {W : Type}

def footing (session : Session W) : Footing where
  account := session.account
  owner := session.owner
  restore := session.restore
  pendingRestore := session.pendingRestore
  lastOpening := session.lastOpening

theorem connecting_of_link {outcome : Except LinkError Unit} {error : SessionError}
    (failed : outcome.mapError .ofLink = .error error) : error.precedesConnecting = false := by
  cases outcome with
  | ok _ => cases failed
  | error reason =>
      cases failed
      cases reason <;> rfl

theorem connecting_of_connect [Surroundings W] {session last : Session W}
    {error : SessionError}
    (fails : session.connect = (last, .error error)) : error.precedesConnecting = false := by
  unfold Session.connect at fails
  split at fails
  · cases fails
    rfl
  · split at fails
    · cases fails
      rfl
    · dsimp only at fails
      split at fails
      · cases fails
        rfl
      · obtain ⟨-, failed⟩ := Prod.mk.inj fails
        exact connecting_of_link failed

theorem underivable_of_seedFor [Surroundings W] {session : Session W} {mnemonic : Mnemonic}
    {error : SessionError} (fails : session.seedFor mnemonic = .error error) :
    ∃ reason, error = .keyDerivation reason := by
  unfold seedFor at fails
  cases derived : Surroundings.seedFromMnemonic session.outside mnemonic with
  | ok seed => simp [derived, Except.mapError] at fails
  | error reason =>
      rw [derived] at fails
      cases fails
      exact ⟨reason, rfl⟩

theorem footing_acceptInvite (session : Session W) (invite : ParsedInvite) :
    (session.acceptInvite invite).1.footing = session.footing := by
  unfold acceptInvite
  split
  · rfl
  · cases invite.initialTribe <;> rfl
  · cases invite.initialTribe <;> rfl

theorem footing_resolveInvite [Surroundings W] (session : Session W) (mixer : String)
    (inviteCode : Option String) :
    (session.resolveInvite mixer inviteCode).1.footing = session.footing := by
  cases inviteCode with
  | none => rfl
  | some code =>
      unfold resolveInvite
      dsimp only
      split
      · rfl
      · exact footing_acceptInvite session _

/-- An invite that cannot be read leaves no trace. -/
theorem refused_of_resolveInvite [Surroundings W] {session last : Session W} {mixer : String}
    {inviteCode : Option String} {error : SessionError}
    (fails : session.resolveInvite mixer inviteCode = (last, .error error)) :
    last = session ∧ error.followsOpening = false := by
  cases inviteCode with
  | none => cases fails
  | some code =>
      unfold resolveInvite acceptInvite at fails
      dsimp only at fails
      split at fails
      · cases fails
        exact ⟨rfl, rfl⟩
      · split at fails
        · cases fails
          exact ⟨rfl, rfl⟩
        · cases fails
        · cases fails

/-- What a failed operation leaves, where these are the words and the parameters that it came
to before it would open an account. -/
inductive Leaves (session : Session W) (pendingRestore : Option Mnemonic)
    (lastOpening : Option OpeningParams) (error : SessionError) (last : Session W) : Prop where
  /-- It did not come to open an account. -/
  | unopened
      (footing : last.footing = { session.footing with pendingRestore, lastOpening })
      (journal : ∃ more, last.journal = session.journal ++ more ∧
        ∀ entry ∈ more, entry.isOpening = false)
      (early : error.followsOpening = false)
      (kept : error.precedesConnecting = true → last.footing = session.footing)
  /-- The account that it opened is the live one, whatever was before. -/
  | opened (account : Account) (owner : Owner) (params : OpeningParams)
      (footing : last.footing = {
        account := some account
        owner
        restore := .new session.config.contactsPageSize session.config.messagesPageSize
        pendingRestore
        lastOpening := some params })
      (journal : ∃ more, last.journal = session.journal ++ more ∧ .opened account owner ∈ more)
      (address : params.address = account.mixer)
      (late : error.precedesConnecting = false)

namespace Leaves

variable {session middle last : Session W} {pendingRestore : Option Mnemonic}
  {lastOpening : Option OpeningParams} {error : SessionError}

theorem opens_nothing (session : Session W) : ∃ more,
    session.journal = session.journal ++ more ∧ ∀ entry ∈ more, entry.isOpening = false :=
  ⟨[], (List.append_nil _).symm, List.forall_mem_nil _⟩

theorem still (session : Session W) (early : error.followsOpening = false) :
    Leaves session session.pendingRestore session.lastOpening error session :=
  .unopened rfl (opens_nothing session) early fun _ => rfl

theorem report (leaves : Leaves session pendingRestore lastOpening error last) :
    Leaves session pendingRestore lastOpening error (last.report error) := by
  have reported : (last.report error).journal = last.journal ++ [.told (.event (.error error))] :=
    rfl
  cases leaves with
  | unopened footing journal early kept =>
      obtain ⟨more, grown, unopened⟩ := journal
      refine .unopened footing ⟨more ++ [.told (.event (.error error))], ?_, ?_⟩ early kept
      · rw [reported, grown, List.append_assoc]
      · exact List.forall_mem_append.mpr ⟨unopened, List.forall_mem_singleton.mpr rfl⟩
  | opened account owner params footing journal address late =>
      obtain ⟨more, grown, opened⟩ := journal
      refine .opened account owner params footing
        ⟨more ++ [.told (.event (.error error))], ?_, List.mem_append_left _ opened⟩ address late
      rw [reported, grown, List.append_assoc]

theorem of_reported {result : Session W × Except SessionError Unit}
    (fails : Session.reported result = (last, .error error))
    (leaves : ∀ last, result = (last, .error error) →
      Leaves session pendingRestore lastOpening error last) :
    Leaves session pendingRestore lastOpening error last := by
  obtain ⟨middle, outcome⟩ := result
  cases outcome with
  | ok _ => cases fails
  | error reason =>
      cases fails
      exact (leaves middle rfl).report

/-- What came before neither opened an account nor touched the footing. -/
theorem after (leaves : Leaves middle pendingRestore lastOpening error last)
    (footing : middle.footing = session.footing) (config : middle.config = session.config)
    (journal : ∃ more, middle.journal = session.journal ++ more ∧
      ∀ entry ∈ more, entry.isOpening = false) :
    Leaves session pendingRestore lastOpening error last := by
  obtain ⟨early, grownBefore, unopenedBefore⟩ := journal
  cases leaves with
  | unopened same journal before kept =>
      obtain ⟨more, grown, unopened⟩ := journal
      refine .unopened (footing ▸ same) ⟨early ++ more, ?_, ?_⟩ before (footing ▸ kept)
      · rw [grown, grownBefore, List.append_assoc]
      · exact List.forall_mem_append.mpr ⟨unopenedBefore, unopened⟩
  | opened account owner params same journal address late =>
      obtain ⟨more, grown, opened⟩ := journal
      refine .opened account owner params (config ▸ same)
        ⟨early ++ more, ?_, List.mem_append_right _ opened⟩ address late
      rw [grown, grownBefore, List.append_assoc]

variable [Surroundings W]

theorem openAccount {params : OpeningParams} {account : Account} {owner : Owner}
    (address : params.address = account.mixer)
    (fails : Session.openAccount
      { session with lastOpening := some params, pendingRestore } account owner false =
        (last, .error error)) :
    Leaves session pendingRestore lastOpening error last := by
  have link := openAccount_link
    { session with lastOpening := some params, pendingRestore } account owner false
  rw [fails] at link
  obtain ⟨more, grown, -⟩ := link.journal
  have late : error.precedesConnecting = false := by
    unfold Session.openAccount at fails
    extract_lets fresh live at fails
    split at fails
    · cases fails
    · cases fails
    · rename_i result
      cases fails
      exact connecting_of_connect result
  refine .opened account owner params ?_ ⟨.opened account owner :: more, ?_, ?_⟩ address late
  · exact (congrArg footing link.rest :)
  · rw [grown]
    exact List.append_assoc _ _ _
  · exact List.mem_cons_self

/-- The words are gone even if nothing can be derived from them. -/
theorem tryRestoreAccount {params : RestoreParams}
    (fails : session.tryRestoreAccount params = (last, .error error)) :
    Leaves session (if session.connected then session.pendingRestore else none)
      session.lastOpening error last := by
  unfold Session.tryRestoreAccount at fails
  split at fails
  · rename_i up
    cases fails
    rw [if_pos up]
    exact still session rfl
  · rename_i down
    rw [if_neg down]
    split at fails
    · rename_i none
      cases fails
      exact none ▸ still session rfl
    · rename_i mnemonic _
      dsimp only at fails
      split at fails
      · rename_i underivable
        cases fails
        obtain ⟨reason, rfl⟩ := underivable_of_seedFor underivable
        exact .unopened rfl (opens_nothing session) rfl nofun
      · exact openAccount rfl fails

theorem createFrom {mnemonic : Mnemonic} {displayName mixer : String}
    {inviteCode : Option String}
    (fails : session.createFrom mnemonic displayName mixer inviteCode =
      (last, .error error)) :
    Leaves session session.pendingRestore session.lastOpening error last := by
  unfold Session.createFrom at fails
  split at fails
  · rename_i underivable
    cases fails
    obtain ⟨reason, rfl⟩ := underivable_of_seedFor underivable
    exact still session rfl
  · split at fails
    · rename_i refused
      cases fails
      obtain ⟨rfl, early⟩ := refused_of_resolveInvite refused
      exact still _ early
    · rename_i result
      have footing := session.footing_resolveInvite mixer inviteCode
      have resolved := Away.of_changes (by decide) (.resolveInvite session mixer inviteCode)
      rw [result] at footing resolved
      obtain ⟨more, grows, apart⟩ := resolved.grows
      have unopened : ∀ entry ∈ more, entry.isOpening = false :=
        fun entry member => (Entry.unattempted_of_away (apart entry member)).2
      have words : _ = session.pendingRestore := congrArg Footing.pendingRestore footing
      rw [← words]
      exact (openAccount rfl fails).after footing resolved.config ⟨more, grows.journal, unopened⟩

/-- Fresh words are drawn only if none wait to be restored. -/
theorem tryCreateAccount {displayName mixer : String} {inviteCode : Option String}
    (fails : session.tryCreateAccount displayName mixer inviteCode = (last, .error error)) :
    Leaves session (if session.connected then session.pendingRestore else none)
      session.lastOpening error last := by
  unfold Session.tryCreateAccount at fails
  split at fails
  · rename_i up
    cases fails
    rw [if_pos up]
    exact still session rfl
  · rename_i down
    split at fails
    · exact tryRestoreAccount fails
    · rename_i fresh
      have words : session.pendingRestore = none := by simpa using fresh
      rw [if_neg down, ← words]
      dsimp only at fails
      split at fails
      · cases fails
        exact (still (session.randomBytes 16).1 rfl).after rfl rfl (opens_nothing session)
      · exact (createFrom fails).after rfl rfl
          ⟨[.told (.event (.mnemonicGenerated _))], rfl, List.forall_mem_singleton.mpr rfl⟩

/-- What to reconnect with is another one even if nothing can be derived from it. -/
theorem tryStart {params : OpeningParams} {owner : Owner}
    (fails : session.tryStart params owner false = (last, .error error)) :
    Leaves session session.pendingRestore (some params) error last := by
  unfold Session.tryStart at fails
  dsimp only at fails
  split at fails
  · cases fails
  · split at fails
    · rename_i underivable
      cases fails
      obtain ⟨reason, rfl⟩ := underivable_of_seedFor underivable
      exact .unopened rfl (opens_nothing session) rfl nofun
    · exact openAccount rfl fails

end Leaves

end Session

namespace Operation

variable {W : Type}

/-- The words that are left to restore from after the operation has failed. -/
def wordsLeft (session : Session W) : Operation → Option Mnemonic
  | .start _ _ _ => session.pendingRestore
  | _ => if session.connected then session.pendingRestore else none

/-- What is left to reconnect with, unless the operation opened an account. -/
def paramsLeft (session : Session W) : Operation → Option OpeningParams
  | .start address mnemonic _ => some { address, mnemonic }
  | _ => session.lastOpening

end Operation

namespace Session

variable {W : Type} [Surroundings W]

/-- An operation that fails before it connects, for being refused or for its invite, leaves all
as it was. If keys cannot be derived, the words are used up or what to reconnect with is
replaced. And once the account is opened, it stays the live one. -/
theorem failure_leaves {session last : Session W} {operation : Operation}
    {error : SessionError} (begins : (Move.perform (W := W) operation).begins = true)
    (fails : session.perform operation = (last, .error error)) :
    Leaves session (operation.wordsLeft session) (operation.paramsLeft session) error last ∧
      (error.precedesConnecting = true → last.footing = session.footing) := by
  have leaves : Leaves session (operation.wordsLeft session) (operation.paramsLeft session) error
      last := by
    cases operation with
    | createAccount displayName mixer inviteCode =>
        exact .of_reported fails fun _ failed => .tryCreateAccount failed
    | restoreAccount params => exact .of_reported fails fun _ failed => .tryRestoreAccount failed
    | start address mnemonic owner => exact .of_reported fails fun _ failed => .tryStart failed
    | _ => cases begins
  refine ⟨leaves, fun precedes => ?_⟩
  cases leaves with
  | unopened footing journal early kept => exact kept precedes
  | opened account owner params footing journal address late =>
      exact absurd (late.symm.trans precedes) (by decide)

/-! An account with a broker that cannot be resolved, in place of one that waits for its
connection. -/

def failure? : Except SessionError Unit → Option SessionError
  | .ok _ => none
  | .error error => some error

theorem eq_error_of_failure? {outcome : Except SessionError Unit} {error : SessionError}
    (fails : failure? outcome = some error) : outcome = .error error := by
  cases outcome with
  | ok _ => cases fails
  | error _ =>
      cases fails
      rfl

/-- The account before is gone, although the operation has failed. -/
theorem leaves_misplaced :
    failure? (aliceRun.perform misplaced).2 = some (.invalidAddress "broker:port" .badPort) ∧
      ∃ account owner, .opened account owner ∈ (aliceRun.perform misplaced).1.journal ∧
        (aliceRun.perform misplaced).1.account = some account ∧
          (aliceRun.perform misplaced).1.owner = owner := by
  have fails : failure? (aliceRun.perform misplaced).2 =
      some (.invalidAddress "broker:port" .badPort) := by decide +kernel
  have failed : aliceRun.perform misplaced = ((aliceRun.perform misplaced).1, .error _) :=
    Prod.ext rfl (eq_error_of_failure? fails)
  obtain ⟨leaves, -⟩ := failure_leaves rfl failed
  refine ⟨fails, ?_⟩
  cases leaves with
  | unopened footing journal early kept => cases early
  | opened account owner params footing journal address late =>
      obtain ⟨more, grown, opened⟩ := journal
      refine ⟨account, owner, grown ▸ List.mem_append_right _ opened, ?_, ?_⟩
      · exact (congrArg Footing.account footing :)
      · exact (congrArg Footing.owner footing :)

def startedMoves : List (Move Bench) :=
  [.perform (.start "broker" twelveWords {})]

def startedRun : Session Bench :=
  startedMoves.foldl move (new .test (.new 7))

/-- The words are too few to derive a seed from. -/
def mistyped : Operation :=
  .start "elsewhere" ⟨"too short"⟩ {}

def mistypedRun : Session Bench :=
  (startedRun.perform mistyped).1

/-- The operation fails for its words, and they are what is left to reconnect with: where
reconnecting would have succeeded before, it fails from now on. -/
theorem reconnect_lost_by_failure :
    Reaches (new .test (.new 7)) startedRun ∧ startedRun.isIdle = true ∧
      (startedRun.perform mistyped).2.isOk = false ∧
      startedRun.lastOpening = some { address := "broker", mnemonic := twelveWords } ∧
      mistypedRun.lastOpening = some { address := "elsewhere", mnemonic := ⟨"too short"⟩ } ∧
      startedRun.reconnect.2.isOk = true ∧ mistypedRun.reconnect.2.isOk = false := by
  obtain ⟨permitted, shown⟩ : (new .test (.new 7)).permitsAll startedMoves = true ∧
      startedRun.isIdle = true ∧
      (startedRun.perform mistyped).2.isOk = false ∧
      startedRun.lastOpening = some { address := "broker", mnemonic := twelveWords } ∧
      mistypedRun.lastOpening = some { address := "elsewhere", mnemonic := ⟨"too short"⟩ } ∧
      startedRun.reconnect.2.isOk = true ∧ mistypedRun.reconnect.2.isOk = false := by
    decide +kernel
  exact ⟨Reaches.here.moves permitted, shown⟩

end Session

end Messenger

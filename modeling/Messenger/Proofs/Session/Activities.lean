import Messenger.Proofs.Session.Changes

/-!
Calls of the core, events of the link and the ways in which an account comes to life, taken
apart into changes. An account is opened last, if it is.
-/

namespace Messenger

namespace Session

variable {W : Type} [Surroundings W]

/-- Without an account there is no call; with one the core answers. -/
theorem runCall_cases {session last : Session W} {call : CoreCall}
    {outcome : Except SessionError (Bundle × UInt64)}
    (ran : session.runCall call = (last, outcome)) :
    session.account = none ∧ last = session ∧ outcome = .error .noSession ∨
      ∃ account answer wall outside, session.account = some account ∧
        last = session.asked account call answer wall outside ∧
          ∀ bundle, answer = .ok bundle ↔ ∃ time, outcome = .ok (bundle, time) := by
  unfold runCall at ran
  split at ran
  · rename_i dead
    cases ran
    exact Or.inl ⟨dead, rfl, rfl⟩
  · rename_i account lives
    dsimp only at ran
    split at ran
    · rename_i answered
      cases ran
      refine Or.inr ⟨account, .ok _, _, _, lives, by rw [answered]; rfl, ?_⟩
      simp
    · rename_i refused
      cases ran
      refine Or.inr ⟨account, .error _, _, _, lives, by rw [refused]; rfl, ?_⟩
      simp

namespace Changes

theorem of_runCall {session last : Session W} {call : CoreCall}
    {outcome : Except SessionError (Bundle × UInt64)}
    (ran : session.runCall call = (last, outcome)) : Changes [.calling] session last := by
  rcases runCall_cases ran with
    ⟨-, rfl, -⟩ | ⟨account, answer, wall, outside, lives, rfl, -⟩
  · exact refl _ _
  · exact one (.ask session call answer wall outside lives)

theorem callThenApply (session : Session W) (call : CoreCall) (context : DispatchContext) :
    Changes [.calling, .news, .accepting] session
      (session.callThenApply call context) := by
  unfold Session.callThenApply
  split
  · rename_i ran
    exact ((of_runCall ran).andThen (report _ _)).widen (by decide)
  · rename_i ran
    exact ((of_runCall ran).andThen (one (.accept _ _ _))).widen (by decide)

theorem execute (session : Session W) (call : CoreCall) :
    Changes [.calling, .accepting] session (session.execute call).1 := by
  unfold Session.execute
  split
  · rename_i ran
    exact (of_runCall ran).widen (by decide)
  · rename_i ran
    exact (of_runCall ran).andThen (one (.accept _ _ _))

theorem tryPayInvoice (session : Session W) (invoice : String) :
    Changes [.calling, .tracking, .accepting] session (session.tryPayInvoice invoice).1 := by
  unfold Session.tryPayInvoice
  split
  · exact refl _ session
  · split
    · rename_i ran
      exact (of_runCall ran).widen (by decide)
    · rename_i ran
      exact ((of_runCall ran).andThen (one (.track _ _ _))).andThen (one (.accept _ _ _))

theorem bootstrap (session : Session W) (resumePaging : Bool) :
    Changes [.calling, .news, .accepting, .following] session
      (session.bootstrap resumePaging) := by
  unfold Session.bootstrap
  split
  · exact (report session _).widen (by decide)
  · split
    · rename_i ran
      exact ((of_runCall ran).andThen (report _ _)).widen (by decide)
    · rename_i called bundle _ ran
      have accepted := (of_runCall ran).andThen (one (.accept called bundle {}))
      exact (accepted.andThen (one (.enterRestore _ _ _))).widen (by decide)

theorem receive (session : Session W) (generation : Nat) (event : LinkEvent) :
    Changes [.linking, .errands, .inbox] session (session.receive generation event) := by
  unfold Session.receive
  split
  · cases event with
    | connected =>
        have risen : Changes [.linking] session
            ({ session with connected := true }.notify (.connection .connected)) :=
          one (.link (.status session true .connected))
        unfold onConnected
        dsimp only
        split
        · exact risen.widen (by decide)
        · have marked := risen.trans (one (.link (.bootstrapped _)))
          exact (marked.andThen (one (.errand _ rfl))).widen (by decide)
    | connectionFailed reason =>
        exact (one (.link (.connectionFailed session reason))).widen (by decide)
    | connectionLost reason =>
        exact (one (.link (.connectionLost session reason))).widen (by decide)
    | message topic payload => exact (one (.arrive session topic payload)).widen (by decide)
  · exact refl _ session

theorem wake (session : Session W) :
    Changes [.waking, .publishing, .parking] session session.wake := by
  rcases session.wake_cases with same | ⟨first, waiting, waits, -, woken⟩
  · rw [same]
    exact refl _ session
  · rw [woken]
    exact (one (.wake session waits)).andThen (continuePublishing _ _ _)

theorem acceptInvite (session : Session W) (invite : ParsedInvite) :
    Changes [.dashboard, .news] session (session.acceptInvite invite).1 := by
  have tribe (session : Session W) : Changes [.dashboard, .news] session
      (session.given invite.initialTribe Session.onInitialTribe) :=
    given session _ onInitialTribe
  unfold Session.acceptInvite
  split
  · exact refl _ session
  · exact (welcome session _).trans (tribe _)
  · exact tribe session

theorem resolveInvite (session : Session W) (mixer : String) (inviteCode : Option String) :
    Changes [.dashboard, .news] session (session.resolveInvite mixer inviteCode).1 := by
  cases inviteCode with
  | none => exact refl _ session
  | some code =>
      unfold Session.resolveInvite
      dsimp only
      split
      · exact refl _ session
      · exact acceptInvite session _

/-- What is known is told and asked for again, before listeners are promised the connection. -/
theorem reprime_eq (session : Session W) :
    ∃ asked, Changes [.news, .errands] session asked ∧
      session.reprime = asked.lastly (.connection .connected) := by
  have shown := (givenNews session session.dashboard.pendingInviter .pendingInviter
    fun _ => rfl).trans (givenNews _ session.dashboard.initialTribe .initialTribe fun _ => rfl)
  exact ⟨_, shown.andThen (one (.errand _ (rfl : (Work.call .readMarkers).isErrand = true))), rfl⟩

theorem reprime (session : Session W) :
    Changes [.news, .errands, .promising] session session.reprime := by
  obtain ⟨asked, changes, same⟩ := reprime_eq session
  exact same ▸ changes.andThen (one (.promise asked))

theorem supply (session : Session W) (lastOpening : Option OpeningParams) :
    Changes [.opening] session { session with lastOpening } :=
  one (.supply session session.outside lastOpening session.pendingRestore)

end Changes

/-- A reconnect asks for little, or closes the connection and opens it again. -/
theorem reconnect_cases (session : Session W) :
    Changes [.news, .errands, .promising] session session.reconnect.1 ∨
      ∃ params, session.lastOpening = some params ∧
        session.reconnect = reported (session.disconnect.tryStart params session.owner true) := by
  unfold reconnect
  split
  · have asked : Changes [.errands] session
        ((session.enqueue (.call .readMarkers)).enqueue (.call .muteLevels)) :=
      (Changes.one (.errand session rfl)).trans (.one (.errand _ rfl))
    exact Or.inl ((asked.andThen (.one (.promise _))).widen (by decide))
  · split
    · left
      exact (Changes.reported (session, .error .noSession)).widen (by decide)
    · rename_i params known
      exact Or.inr ⟨params, known, rfl⟩

/-- Small changes, and then perhaps the opening of an account. -/
def MayOpen (resume : Bool) (first last : Session W) : Prop :=
  ∃ middle, Changes [.dashboard, .news, .errands, .opening, .promising] first middle ∧
    (last = middle ∨ ∃ account owner, last = (middle.openAccount account owner resume).1)

namespace MayOpen

variable {resume : Bool} {first middle last : Session W}

theorem of_changes
    (changes : Changes [.dashboard, .news, .errands, .opening, .promising] first last) :
    MayOpen resume first last :=
  ⟨last, changes, Or.inl rfl⟩

theorem openAccount
    (changes : Changes [.dashboard, .news, .errands, .opening, .promising] first middle)
    (account : Account) (owner : Owner) :
    MayOpen resume first (middle.openAccount account owner resume).1 :=
  ⟨middle, changes, Or.inr ⟨account, owner, rfl⟩⟩

theorem after (changes : Changes [.dashboard, .news, .errands, .opening, .promising] first middle)
    (mayOpen : MayOpen resume middle last) : MayOpen resume first last := by
  obtain ⟨opening, more, ends⟩ := mayOpen
  exact ⟨opening, changes.trans more, ends⟩

theorem tryRestoreAccount (session : Session W) (params : RestoreParams) :
    MayOpen false session (session.tryRestoreAccount params).1 := by
  unfold Session.tryRestoreAccount
  split
  · exact of_changes (.refl _ session)
  · split
    · exact of_changes (.refl _ session)
    · have taken (lastOpening : Option OpeningParams) : Changes [.opening] session
          { session with lastOpening, pendingRestore := none } :=
        .one (.supply session session.outside lastOpening none)
      dsimp only
      split
      · exact of_changes ((taken session.lastOpening).widen (by decide))
      · exact openAccount ((taken _).widen (by decide)) _ _

theorem createFrom (session : Session W) (mnemonic : Mnemonic) (displayName mixer : String)
    (inviteCode : Option String) :
    MayOpen false session (session.createFrom mnemonic displayName mixer inviteCode).1 := by
  have resolved := Changes.resolveInvite session mixer inviteCode
  unfold Session.createFrom
  split
  · exact of_changes (.refl _ session)
  · split
    · rename_i result
      rw [result] at resolved
      exact of_changes (resolved.widen (by decide))
    · rename_i result
      rw [result] at resolved
      have supplied (lastOpening : Option OpeningParams) :=
        resolved.andThen (.supply _ lastOpening)
      exact openAccount ((supplied _).widen (by decide)) _ _

theorem tryCreateAccount (session : Session W) (displayName mixer : String)
    (inviteCode : Option String) :
    MayOpen false session (session.tryCreateAccount displayName mixer inviteCode).1 := by
  unfold Session.tryCreateAccount
  split
  · exact of_changes (.refl _ session)
  · split
    · exact tryRestoreAccount session _
    · have random : Changes [.opening] session (session.randomBytes 16).1 :=
        .one (.supply session _ _ _)
      dsimp only
      split
      · exact of_changes (random.widen (by decide))
      · rename_i mnemonic _
        have generated := random.andThen
          (.notify _ (rfl : (Event.mnemonicGenerated mnemonic).isNews = true))
        exact after (generated.widen (by decide)) (createFrom _ _ _ _ _)

theorem tryStart (session : Session W) (params : OpeningParams) (owner : Owner)
    (resume : Bool) : MayOpen resume session (session.tryStart params owner resume).1 := by
  have supplied : Changes [.opening] session { session with lastOpening := some params } :=
    .supply session _
  unfold Session.tryStart
  dsimp only
  split
  · exact of_changes ((supplied.andThen (.reprime _)).widen (by decide))
  · split
    · exact of_changes (supplied.widen (by decide))
    · exact openAccount (supplied.widen (by decide)) _ _

end MayOpen

end Session

end Messenger

import Messenger.Proofs.Restore.Answers
import Messenger.Proofs.Session.Turns

/-!
Most of what a session does bears neither on the owner's user state nor on the restore. Of
the changes that follow a bundle only a step of the restore machine does.
-/

namespace Messenger

def Entry.isOpening : Entry → Bool
  | .opened _ _ => true
  | _ => false

/-- What neither changes the user state nor asks the core. -/
def Entry.isPlain : Entry → Bool
  | .opened _ _ => false
  | .applied _ _ => false
  | .called _ _ _ => false
  | _ => true

theorem Entry.isPlain_of_ofLink {entry : Entry} (ofLink : entry.ofLink = true) :
    entry.isPlain = true := by
  cases entry with
  | opened account owner => cases ofLink
  | applied bundle context => cases ofLink
  | called context call answer => cases ofLink
  | _ => rfl

theorem Entry.isPlain_told {callbacks : List Callback} :
    ∀ entry ∈ callbacks.map Entry.told, entry.isPlain = true := by
  intro entry member
  obtain ⟨callback, -, rfl⟩ := List.mem_map.mp member
  rfl

namespace Session

variable {W : Type}

structure Minor (first last : Session W) : Prop where
  userState : last.owner.userState = first.owner.userState
  restore : last.restore = first.restore
  restoring : last.account.map (·.restoring) = first.account.map (·.restoring)
  journal : Adds Entry.isPlain first.journal last.journal

namespace Minor

variable {first middle last : Session W}

theorem of_fields (userState : last.owner.userState = first.owner.userState)
    (restore : last.restore = first.restore)
    (restoring : last.account.map (·.restoring) = first.account.map (·.restoring))
    (journal : last.journal = first.journal) : Minor first last :=
  ⟨userState, restore, restoring, .of_eq journal⟩

theorem of_same (owner : last.owner = first.owner) (restore : last.restore = first.restore)
    (account : last.account = first.account) (journal : last.journal = first.journal) :
    Minor first last :=
  of_fields (owner ▸ rfl) restore (account ▸ rfl) journal

theorem tell (session : Session W) (callback : Callback) :
    Minor session (session.tell callback) :=
  ⟨rfl, rfl, rfl, .one rfl rfl⟩

theorem release (session : Session W) (key : SettlementKey) (context : DispatchContext) :
    Minor session (session.release key context) := by
  unfold Session.release
  split
  · exact of_same rfl rfl rfl rfl
  · exact of_same rfl rfl rfl rfl

theorem onLspHost (session : Session W) (host : String) :
    Minor session (session.onLspHost host) := by
  refine ⟨rfl, rfl, ?_, .one rfl rfl⟩
  unfold Session.onLspHost
  cases session.account <;> rfl

variable [Surroundings W]

theorem link (link : LinkOnly first last) : Minor first last := by
  have owner : last.owner = first.owner := (congrArg Session.owner link.rest :)
  have restore : last.restore = first.restore := (congrArg Session.restore link.rest :)
  have account : last.account = first.account := (congrArg Session.account link.rest :)
  exact ⟨owner ▸ rfl, restore, account ▸ rfl,
    link.journal.imp fun _ => Entry.isPlain_of_ofLink⟩

theorem publish (session : Session W) (publish : Publish) :
    Minor session (session.publish publish) := by
  have after := link (.publish session publish)
  have sent : Adds Entry.isPlain session.journal (session.sent publish).journal := .one rfl rfl
  exact ⟨after.userState, after.restore, after.restoring, sent.trans after.journal⟩

end Minor

variable [Surroundings W]

/-- The restore machine takes an answer in, or else the change is minor. -/
theorem Change.minor_or_advance {first last : Session W} {concern : Concern}
    (quiet : concern.isQuiet = true) (change : Change first concern last) :
    Minor first last ∨ ∃ input : RestoreInput, input.isAnswer = true ∧
      last = first.advanceRestore (first.restore.handle input) := by
  cases change with
  | notify news => exact Or.inl (.tell first _)
  | shown delivers => exact Or.inl (.tell first _)
  | raiseIndex higher => exact Or.inl (.of_fields rfl rfl rfl rfl)
  | setUserState userState => cases quiet
  | counted counts => exact Or.inr ⟨.counts counts, rfl, rfl⟩
  | paged messages topic => exact Or.inr ⟨.batch messages topic, rfl, rfl⟩
  | rehost host => exact Or.inl (.onLspHost first host)
  | release key context => exact Or.inl (.release first key context)
  | publish publish => exact Or.inl (.publish first publish)
  | subscribe topics => exact Or.inl (.link (.subscribe first topics))
  | ask call answer wall outside lives => cases quiet
  | accept bundle context => exact Or.inl ⟨rfl, rfl, rfl, .one rfl rfl⟩
  | enterRestore restoring resumePaging => cases quiet
  | cancelRestore => cases quiet
  | link link => exact Or.inl (.link link)
  | wake next => exact Or.inl ⟨rfl, rfl, rfl, .one rfl rfl⟩
  | _ => exact Or.inl (.of_same rfl rfl rfl rfl)

/-- What a quiet change comes to for the user state and the restore. -/
inductive Effect : Session W → Session W → Prop where
  | minor {first last : Session W} (minor : Minor first last) : Effect first last
  | answer (session : Session W) {input : RestoreInput} (answers : input.isAnswer = true) :
      Effect session (session.advanceRestore (session.restore.handle input))
  | absorb (session : Session W) (bundle : Bundle) (context : DispatchContext) :
      Effect session (session.absorb bundle context)
  | close (session : Session W) : Effect session session.disconnect
  | reopen (session : Session W) {account : Account} (owner : Owner)
      (goesOn : account.restoring = session.restore.isRestoring) :
      Effect session (session.adopt account owner true)

theorem Quiet.effect {first last : Session W} (quiet : Quiet first last) :
    Effect first last := by
  cases quiet with
  | change quiet change =>
      cases change.minor_or_advance quiet with
      | inl minor => exact .minor minor
      | inr advance =>
          obtain ⟨input, answers, rfl⟩ := advance
          exact .answer first answers
  | absorb bundle context => exact .absorb first bundle context
  | pass millis => exact .minor (.of_same rfl rfl rfl rfl)
  | take next => exact .minor (.of_same rfl rfl rfl rfl)
  | depart next => exact .minor ⟨rfl, rfl, rfl, .one rfl rfl⟩
  | close => exact .close first
  | reopen owner goesOn => exact .reopen first owner goesOn

theorem disconnect_journal (session : Session W) :
    session.disconnect.journal =
      session.journal ++ [.disconnected, .told (.event (.connection .disconnected))] :=
  List.append_assoc _ _ _

omit [Surroundings W] in
theorem absorb_journal (session : Session W) (bundle : Bundle) (context : DispatchContext) :
    ∃ callbacks : List Callback, (session.absorb bundle context).journal =
      session.journal ++ .applied bundle context :: callbacks.map .told := by
  obtain ⟨callbacks, same⟩ := session.absorb_eq bundle context
  refine ⟨callbacks, ?_⟩
  rw [same]
  exact (List.append_cons _ _ _).symm

theorem Effect.journal_prefix {first last : Session W} (effect : Effect first last) :
    first.journal <+: last.journal := by
  cases effect with
  | minor minor =>
      obtain ⟨more, grown, -⟩ := minor.journal
      exact ⟨more, grown.symm⟩
  | answer answers =>
      rw [advanceRestore_eq]
      exact List.prefix_append _ _
  | absorb bundle context =>
      obtain ⟨callbacks, grown⟩ := first.absorb_journal bundle context
      exact ⟨_, grown.symm⟩
  | close => exact ⟨_, first.disconnect_journal.symm⟩
  | reopen owner goesOn => exact List.prefix_append _ _

theorem Quiets.journal_prefix {first last : Session W} (quiets : Quiets first last) :
    first.journal <+: last.journal := by
  induction quiets with
  | refl => exact List.prefix_refl _
  | tail _ quiet induction => exact induction.trans quiet.effect.journal_prefix

end Session

end Messenger

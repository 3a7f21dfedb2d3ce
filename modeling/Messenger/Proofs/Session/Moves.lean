import Messenger.Proofs.Session.Outbox

/-!
Every run of a session is a run of its outbox: operations open and close it, accept
bundles or leave it alone, and a piece of work applies or accepts one bundle at most.
-/

namespace Messenger

namespace Session

variable {W : Type} [Surroundings W]

theorem outbox_disconnect (session : Session W) :
    session.disconnect.outbox = session.outbox.closed := by
  unfold disconnect
  dsimp only
  rw [outbox_notify]
  simp [outbox, history, note, Outbox.closed, Outbox.note, Entry.happening?, hasSession]

theorem outbox_openAccount (session : Session W) (account : Account)
    (owner : Owner) (resume : Bool) :
    (session.openAccount account owner resume).1.outbox = session.outbox.opened := by
  rw [outbox_link (openAccount_link session account owner resume)]
  exact outbox_note _ _

end Session

namespace Outbox

/-- A step that takes up no bundle. -/
inductive Intake : Outbox → Outbox → Prop where
  | accept (outbox : Outbox) (bundle : Bundle) (context : DispatchContext) :
      Intake outbox (outbox.accept bundle context)
  | opened (outbox : Outbox) (done : outbox.ready = []) : Intake outbox outbox.opened
  | closed (outbox : Outbox) (done : outbox.ready = []) : Intake outbox outbox.closed
  | pass (outbox : Outbox) (millis : Nat) :
      Intake outbox { outbox with now := outbox.now + millis }

abbrev Intakes : Outbox → Outbox → Prop :=
  Relation.ReflTransGen Intake

theorem Intakes.one {first last : Outbox} (intake : Intake first last) :
    Intakes first last :=
  Relation.ReflTransGen.single intake

theorem Intake.step {first last : Outbox} (intake : Intake first last) : Step first last := by
  cases intake with
  | accept bundle context => exact .accept first bundle context
  | opened done => exact .opened first done
  | closed done => exact .closed first done
  | pass millis => exact .pass first millis

theorem Intakes.steps {first last : Outbox} (intakes : Intakes first last) :
    Steps first last := by
  induction intakes with
  | refl => exact Relation.ReflTransGen.refl
  | tail _ intake induction => exact induction.tail intake.step

/-- An attempt to open an account fails before the outbox is touched, or opens it. -/
def MayOpen (first last : Outbox) : Prop :=
  last = first ∨ last = first.opened

theorem MayOpen.intakes {first last : Outbox} (mayOpen : MayOpen first last)
    (done : first.ready = []) : Intakes first last := by
  cases mayOpen with
  | inl same => exact same ▸ Relation.ReflTransGen.refl
  | inr opened => exact opened ▸ Intakes.one (.opened first done)

end Outbox

namespace Session

variable {W : Type} [Surroundings W]

theorem MayOpen.outbox {resume : Bool} {first last : Session W}
    (mayOpen : MayOpen resume first last) : first.outbox.MayOpen last.outbox := by
  obtain ⟨middle, changes, ends⟩ := mayOpen
  have same := outbox_of_changes (by decide) changes
  rcases ends with rfl | ⟨account, owner, rfl⟩
  · exact Or.inl same
  · right
    rw [outbox_openAccount, same]

theorem Changes.intakes {concerns : List Concern} {first last : Session W}
    (others : ∀ concern ∈ concerns, concern ∉ [.settling, .parking, .publishing, .waking])
    (changes : Changes concerns first last) : first.outbox.Intakes last.outbox := by
  refine changes.lift (fun first last => first.outbox.Intakes last.outbox)
    (fun _ => Relation.ReflTransGen.refl) Relation.ReflTransGen.trans
    fun {concern first last} member change => ?_
  by_cases accepts : concern = .accepting
  · subst accepts
    cases change with
    | accept bundle context => exact outbox_accept first bundle context ▸ .one (.accept _ _ _)
  · have other := others concern member
    rw [outbox_of_change (by simp_all) change]

theorem reconnect_intakes (session : Session W) (done : session.outbox.ready = []) :
    session.outbox.Intakes session.reconnect.1.outbox := by
  rcases session.reconnect_cases with changes | ⟨params, -, reopens⟩
  · exact changes.intakes (by decide)
  · have opens := (MayOpen.tryStart session.disconnect params session.owner true).outbox
    rw [outbox_disconnect] at opens
    rw [reopens, outbox_reported]
    exact (Outbox.Intakes.one (.closed session.outbox done)).trans (opens.intakes done)

theorem perform_intakes (session : Session W) (operation : Operation)
    (done : session.outbox.ready = []) :
    session.outbox.Intakes (session.perform operation).1.outbox := by
  cases operation with
  | addListener => exact Relation.ReflTransGen.refl
  | beginRestore mnemonic => exact Relation.ReflTransGen.refl
  | createAccount displayName mixer inviteCode =>
      exact outbox_reported (session.tryCreateAccount displayName mixer inviteCode) ▸
        (MayOpen.tryCreateAccount session displayName mixer inviteCode).outbox.intakes done
  | restoreAccount params =>
      exact outbox_reported (session.tryRestoreAccount params) ▸
        (MayOpen.tryRestoreAccount session params).outbox.intakes done
  | start address mnemonic owner =>
      exact outbox_reported (session.tryStart { address, mnemonic } owner false) ▸
        (MayOpen.tryStart session { address, mnemonic } owner false).outbox.intakes done
  | reconnect => exact reconnect_intakes session done
  | disconnect =>
      exact outbox_disconnect session ▸ Outbox.Intakes.one (.closed session.outbox done)
  | payInvoice invoice =>
      exact outbox_reported (session.tryPayInvoice invoice) ▸
        (Changes.tryPayInvoice session invoice).intakes (by decide)
  | cancelRestore =>
      exact outbox_cancelRestore session ▸ Relation.ReflTransGen.refl
  | dispatch bundle context =>
      exact outbox_accept session bundle context ▸ Outbox.Intakes.one (.accept _ _ _)
  | _ =>
      exact outbox_reported (session.execute _) ▸
        (Changes.execute session _).intakes (by decide)

theorem perform_steps (session : Session W) (operation : Operation)
    (done : session.outbox.ready = []) :
    session.outbox.Steps (session.perform operation).1.outbox :=
  (perform_intakes session operation done).steps

omit [Surroundings W] in
/-- Taking up work that applies no bundle. -/
theorem outbox_pop {session : Session W} {work : Work} {agenda : List Work}
    (next : session.agenda = work :: agenda) (other : work.dispatch? = none) :
    { session with agenda }.outbox = session.outbox := by
  simp [outbox, history, next, other, hasSession]

theorem step_intakes (session : Session W)
    (other : ∀ work ∈ session.agenda.head?, work.dispatch? = none) :
    session.outbox.Intakes session.step.outbox := by
  unfold step
  rcases worked : session.agenda with _ | ⟨work, agenda⟩
  · rcases session.farewell with _ | ⟨event, farewell⟩
    · exact Relation.ReflTransGen.refl
    · have same : { session with agenda := [], farewell }.outbox = session.outbox := by
        simp [outbox, history, worked, hasSession]
      exact ((outbox_notify _ event).trans same) ▸ Relation.ReflTransGen.refl
  · have popped := @outbox_pop W session work agenda worked
    cases work with
    | dispatch bundle context => cases other _ (by rw [worked]; rfl)
    | call call =>
        exact popped rfl ▸
          (Changes.callThenApply { session with agenda } call {}).intakes (by decide)
    | inbound topic payload =>
        exact popped rfl ▸
          (Changes.callThenApply { session with agenda } _ _).intakes (by decide)
    | bootstrap resumePaging =>
        exact popped rfl ▸
          (Changes.bootstrap { session with agenda } resumePaging).intakes (by decide)

theorem step_steps (session : Session W) : session.outbox.Steps session.step.outbox := by
  rcases worked : session.agenda with _ | ⟨work, agenda⟩
  · exact (step_intakes session (by simp [worked])).steps
  · cases work with
    | dispatch bundle context =>
        have ready : session.outbox.ready =
            (bundle, context) :: agenda.filterMap Work.dispatch? := by
          rw [outbox, worked]
          rfl
        have applied := outbox_apply { session with agenda } bundle context
        have stepped : session.step = { session with agenda }.apply bundle context := by
          rw [step, worked]
          rfl
        exact stepped ▸ applied ▸ Outbox.Steps.one (.apply session.outbox ready)
    | _ => exact (step_intakes session (by simp [worked, Work.dispatch?])).steps

theorem outbox_receive (session : Session W) (generation : Nat) (event : LinkEvent) :
    (session.receive generation event).outbox = session.outbox :=
  outbox_of_changes (by decide) (.receive session generation event)

theorem wake_steps (session : Session W) : session.outbox.Steps session.wake.outbox := by
  unfold wake
  split
  · exact Relation.ReflTransGen.refl
  · rename_i first waiting waits
    split
    · rename_i due
      rw [outbox_continuePublishing, outbox_note_quiet _ rfl]
      exact Outbox.Steps.one (.wake session.outbox waits due)
    · exact Relation.ReflTransGen.refl

omit [Surroundings W] in
theorem ready_of_isIdle {session : Session W} (idle : session.isIdle = true) :
    session.outbox.ready = [] := by
  rw [isIdle, Bool.and_eq_true, List.isEmpty_iff] at idle
  rw [outbox, idle.1]
  rfl

theorem move_steps (session : Session W) (next : Move W)
    (permitted : session.permits next = true) :
    session.outbox.Steps (session.move next).outbox := by
  cases next with
  | perform operation => exact perform_steps session operation (ready_of_isIdle permitted)
  | receive generation event =>
      exact outbox_receive session generation event ▸ Relation.ReflTransGen.refl
  | wake => exact wake_steps session
  | step => exact step_steps session
  | advance millis => exact Outbox.Steps.one (.pass session.outbox millis)
  | surround outside => exact Relation.ReflTransGen.refl

theorem Reaches.steps {initial session : Session W} (reached : Reaches initial session) :
    initial.outbox.Steps session.outbox := by
  induction reached with
  | here => exact Relation.ReflTransGen.refl
  | after next _ permitted induction =>
      exact induction.trans (move_steps _ next permitted)

theorem Reaches.trans {initial middle session : Session W} (start : Reaches initial middle)
    (rest : Reaches middle session) : Reaches initial session := by
  induction rest with
  | here => exact start
  | after next _ permitted induction => exact induction.after next permitted

theorem drain_succ {session : Session W} (busy : session.isIdle = false) (steps : Nat) :
    drain (steps + 1) session = drain steps session.step :=
  if_neg (by simp [busy])

theorem drain_of_isIdle {session : Session W} (idle : session.isIdle = true) (steps : Nat) :
    drain steps session = session := by
  cases steps with
  | zero => rfl
  | succ steps => exact if_pos idle

def permitsAll (session : Session W) : List (Move W) → Bool
  | [] => true
  | next :: rest => session.permits next && (session.move next).permitsAll rest

theorem Reaches.moves {initial session : Session W} (reached : Reaches initial session)
    {moves : List (Move W)} (permitted : session.permitsAll moves = true) :
    Reaches initial (moves.foldl move session) := by
  induction moves generalizing session with
  | nil => exact reached
  | cons next rest induction =>
      obtain ⟨first, others⟩ := (Bool.and_eq_true _ _).mp permitted
      exact induction (reached.after next first) others

end Session

end Messenger

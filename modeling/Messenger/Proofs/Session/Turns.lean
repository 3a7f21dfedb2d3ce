import Messenger.Proofs.Session.Activities
import Messenger.Proofs.Session.Following

/-!
What one move of a session comes to: at most one call of the core, which comes first and
sees the session as the move found it, and then a sequence of changes without calls. Apart
from these stand the beginning of another account and the cancelling of a restore.
-/

namespace Messenger

def CoreCall.isSetUp : CoreCall → Bool
  | .initialSetup .. => true
  | _ => false

def Work.isSetUpCall : Work → Bool
  | .call asked => asked.isSetUp
  | _ => false

namespace Session

variable {W : Type}

/-- Initial setups come from bootstraps only. -/
def Tame (session : Session W) : Prop :=
  ∀ work ∈ session.agenda, work.isSetUpCall = false

namespace Tame

variable {first middle last : Session W}

theorem of_suffix (tame : first.Tame) (shorter : last.agenda <:+ first.agenda) : last.Tame :=
  fun work member => tame work (shorter.subset member)

theorem of_same (tame : first.Tame) (agenda : last.agenda = first.agenda) : last.Tame :=
  tame.of_suffix (agenda ▸ List.suffix_refl _)

theorem of_append (tame : first.Tame) {more : List Work}
    (agenda : last.agenda = first.agenda ++ more)
    (plain : ∀ work ∈ more, work.isSetUpCall = false) : last.Tame := by
  intro work member
  exact (List.mem_append.mp (agenda ▸ member)).elim (tame work) (plain work)

theorem enqueue (tame : first.Tame) {work : Work} (plain : work.isSetUpCall = false) :
    (first.enqueue work).Tame :=
  tame.of_append rfl (List.forall_mem_singleton.mpr plain)

theorem followed {actions : List RestoreAction} :
    ∀ work ∈ (RestoreAction.calls actions).map Work.call, work.isSetUpCall = false := by
  intro work member
  obtain ⟨call, called, rfl⟩ := List.mem_map.mp member
  obtain ⟨action, -, asks⟩ := List.mem_filterMap.mp called
  cases action <;> cases asks <;> rfl

theorem advanceRestore (tame : first.Tame) (step : RestoreMachine × List RestoreAction) :
    (first.advanceRestore step).Tame :=
  tame.of_append (by rw [advanceRestore_eq]) followed

theorem cancelRestore (tame : first.Tame) : first.cancelRestore.Tame := by
  have ended : first.endRestore.Tame := tame.of_same rfl
  unfold Session.cancelRestore
  split
  · exact tame
  · exact ended.advanceRestore _

theorem enterRestore (tame : first.Tame) (restoring resumePaging : Bool) :
    (first.enterRestore restoring resumePaging).Tame := by
  obtain ⟨step, entered, -, -⟩ := first.enterRestore_eq restoring resumePaging
  exact entered ▸ tame.advanceRestore step

theorem release (tame : first.Tame) (key : SettlementKey) (context : DispatchContext) :
    (first.release key context).Tame := by
  unfold Session.release
  split
  · exact tame.of_same rfl
  · exact tame.of_append rfl (List.forall_mem_singleton.mpr rfl)

theorem absorb (tame : first.Tame) (bundle : Bundle) (context : DispatchContext) :
    (first.absorb bundle context).Tame := by
  obtain ⟨callbacks, same⟩ := first.absorb_eq bundle context
  exact tame.of_same (by rw [same]; rfl)

theorem adopt (tame : first.Tame) (account : Account) (owner : Owner) (resume : Bool) :
    (first.adopt account owner resume).Tame :=
  tame.of_same rfl

end Tame

variable [Surroundings W]

/-- What a session does without calling the core, as long as it keeps to its account. -/
inductive Quiet : Session W → Session W → Prop where
  | change {first last : Session W} {concern : Concern} (quiet : concern.isQuiet = true)
      (change : Change first concern last) : Quiet first last
  | absorb (session : Session W) (bundle : Bundle) (context : DispatchContext) :
      Quiet session (session.absorb bundle context)
  | pass (session : Session W) (millis : Nat) : Quiet session (session.advance millis)
  | take (session : Session W) {work : Work} {agenda : List Work}
      (next : session.agenda = work :: agenda) : Quiet session { session with agenda }
  | depart (session : Session W) {event : Event} {farewell : List Event}
      (next : session.farewell = event :: farewell) :
      Quiet session ({ session with farewell }.notify event)
  | close (session : Session W) : Quiet session session.disconnect
  | reopen (session : Session W) {account : Account} (owner : Owner)
      (goesOn : account.restoring = session.restore.isRestoring) :
      Quiet session (session.adopt account owner true)

abbrev Quiets : Session W → Session W → Prop :=
  Relation.ReflTransGen Quiet

namespace Quiets

variable {first middle last : Session W}

theorem one (quiet : Quiet first last) : Quiets first last :=
  Relation.ReflTransGen.single quiet

theorem changes {concerns : List Concern} (changes : Changes concerns first last)
    (quiet : ∀ concern ∈ concerns, concern.isQuiet = true) : Quiets first last :=
  Relation.ReflTransGen.mono (fun _ _ ⟨concern, member, change⟩ =>
    .change (quiet concern member) change) first last changes

theorem link (link : LinkOnly first last) : Quiets first last :=
  one (.change rfl (.link link))

theorem report (session : Session W) (error : SessionError) :
    Quiets session (session.report error) :=
  changes (.report session error) (by decide)

theorem reported {result : Session W × Except SessionError Unit}
    (quiets : Quiets first result.1) : Quiets first (Session.reported result).1 :=
  quiets.trans (changes (.reported result) (by decide))

/-- Opening an account again takes over the restore that is under way. -/
theorem tryStart (session : Session W) (params : OpeningParams) (owner : Owner) :
    Quiets session (session.tryStart params owner true).1 := by
  have kept : Quiets session { session with lastOpening := some params } :=
    changes (.supply session (some params)) (by decide)
  unfold Session.tryStart
  dsimp only
  split
  · exact kept.trans (changes (.reprime _) (by decide))
  · split
    · exact kept
    · exact (kept.tail (.reopen _ owner rfl)).trans (link (openAccount_link _ _ _ _))

theorem reconnect (session : Session W) : Quiets session session.reconnect.1 := by
  rcases session.reconnect_cases with shown | ⟨params, -, reopens⟩
  · exact changes shown (by decide)
  · have closed := one (.close session)
    rw [reopens]
    exact reported (closed.trans (tryStart session.disconnect params session.owner))

theorem apply (session : Session W) (bundle : Bundle) (context : DispatchContext) :
    Quiets session (session.apply bundle context) := by
  cases live : session.hasSession with
  | true =>
      exact (one (.absorb session bundle context)).trans
        (changes (.applyAbsorbed live bundle context) (by decide))
  | false =>
      rw [apply_closed live]
      exact report session _

end Quiets

/-- Another account is begun, unless something fails before. -/
def MayBegin (first last : Session W) : Prop :=
  Quiets first last ∨
    ∃ middle account owner, Quiets first middle ∧
      Quiets (middle.adopt account owner false) last

namespace MayBegin

variable {first middle last : Session W}

theorem of_mayOpen (mayOpen : MayOpen false first last) : MayBegin first last := by
  obtain ⟨middle, changes, rfl | ⟨account, owner, rfl⟩⟩ := mayOpen
  · exact Or.inl (.changes changes (by decide))
  · exact Or.inr ⟨middle, account, owner, .changes changes (by decide),
      .link (openAccount_link middle account owner false)⟩

theorem reported {result : Session W × Except SessionError Unit}
    (mayBegin : MayBegin first result.1) : MayBegin first (Session.reported result).1 := by
  have again : Quiets result.1 (Session.reported result).1 :=
    .reported Relation.ReflTransGen.refl
  cases mayBegin with
  | inl quiets => exact Or.inl (quiets.trans again)
  | inr begun =>
      obtain ⟨next, account, owner, before, rest⟩ := begun
      exact Or.inr ⟨next, account, owner, before, rest.trans again⟩

end MayBegin

/-- A call of the core for the live account, and the journal's record of it. -/
structure Calls (first : Session W) (call : CoreCall) (answer : Except String Bundle)
    (last : Session W) : Prop where
  rest : last = first.withLinkOf last
  entries : ∃ account wall time,
    first.account = some account ∧
      last.journal = first.journal ++
        [.stamped wall time, .called (first.contextAt account time) call answer]

omit [Surroundings W] in
/-- Where the call was on the agenda, if it was on it, does not matter. -/
theorem Calls.noted {first last : Session W} {agenda : List Work} {call : CoreCall}
    {answer : Except String Bundle} (calls : Calls { first with agenda } call answer last) :
    last.owner = first.owner ∧ ∃ account wall time, first.account = some account ∧
      last.journal = first.journal ++
        [.stamped wall time, .called (first.contextAt account time) call answer] :=
  ⟨(congrArg Session.owner calls.rest :), calls.entries⟩

theorem runCall_answered {session last : Session W} {call : CoreCall} {bundle : Bundle}
    {time : UInt64} (result : session.runCall call = (last, .ok (bundle, time))) :
    Calls session call (.ok bundle) last := by
  rcases runCall_cases result with
    ⟨-, -, refused⟩ | ⟨account, answer, wall, outside, lives, rfl, answered⟩
  · cases refused
  · cases (answered bundle).mpr ⟨time, rfl⟩
    exact ⟨rfl, account, _, _, lives, List.append_assoc _ _ _⟩

theorem runCall_refused {session last : Session W} {call : CoreCall} {error : SessionError}
    (result : session.runCall call = (last, .error error)) :
    last = session ∨ ∃ reason, Calls session call (.error reason) last := by
  rcases runCall_cases result with
    ⟨-, same, -⟩ | ⟨account, answer, wall, outside, lives, rfl, answered⟩
  · exact Or.inl same
  · cases answer with
    | ok bundle =>
        obtain ⟨time, refused⟩ := (answered bundle).mp rfl
        cases refused
    | error reason => exact Or.inr ⟨reason, rfl, account, _, _, lives, List.append_assoc _ _ _⟩

/-- A call and what its answer is put to. The call may come from the head of the agenda. -/
inductive Ask : Session W → Session W → Prop where
  | refused (session : Session W) {agenda : List Work} {call : CoreCall} {last : Session W}
      {reason : String} (shorter : agenda <:+ session.agenda)
      (calls : Calls { session with agenda } call (.error reason) last) : Ask session last
  | answered (session : Session W) {agenda : List Work} {call : CoreCall}
      {last : Session W} {bundle : Bundle} {context : DispatchContext}
      (fresh : context.skipSettlement = false)
      (shorter : agenda <:+ session.agenda) (plain : call.isSetUp = false)
      (calls : Calls { session with agenda } call (.ok bundle) last) :
      Ask session (last.accept bundle context)
  | setUp (session : Session W) {agenda : List Work} {account : Account}
      {last : Session W} {bundle : Bundle} (resumePaging : Bool)
      (next : session.agenda = .bootstrap resumePaging :: agenda)
      (lives : session.account = some account)
      (calls : Calls { session with agenda }
        (.initialSetup session.config.device account.inviteCode) (.ok bundle) last) :
      Ask session ((last.accept bundle {}).enterRestore account.restoring resumePaging)

/-- At most one call, and then changes without calls. -/
def Turn (first last : Session W) : Prop :=
  ∃ middle, (middle = first ∨ Ask first middle) ∧ Quiets middle last

namespace Turn

variable {first middle last : Session W}

theorem quiet (quiets : Quiets first last) : Turn first last :=
  ⟨first, Or.inl rfl, quiets⟩

theorem of_refused {agenda : List Work} {call : CoreCall} {error : SessionError}
    (shorter : agenda <:+ first.agenda) (taken : Quiets first { first with agenda })
    (result : { first with agenda }.runCall call = (middle, .error error))
    (rest : Quiets middle last) : Turn first last := by
  cases runCall_refused result with
  | inl same => exact quiet (taken.trans (same ▸ rest))
  | inr refused =>
      obtain ⟨reason, calls⟩ := refused
      exact ⟨middle, Or.inr (.refused first shorter calls), rest⟩

theorem callThenApply {session : Session W} {work : Work} {agenda : List Work}
    (next : session.agenda = work :: agenda) {call : CoreCall} (plain : call.isSetUp = false)
    {context : DispatchContext} (fresh : context.skipSettlement = false) :
    Turn session ({ session with agenda }.callThenApply call context) := by
  have shorter : agenda <:+ session.agenda := next ▸ List.suffix_cons work agenda
  unfold Session.callThenApply
  split
  · rename_i result
    exact of_refused shorter (.one (.take session next)) result (.report _ _)
  · rename_i result
    exact ⟨_, Or.inr (.answered session fresh shorter plain (runCall_answered result)),
      Relation.ReflTransGen.refl⟩

theorem bootstrap {session : Session W} {resumePaging : Bool} {agenda : List Work}
    (next : session.agenda = .bootstrap resumePaging :: agenda) :
    Turn session ({ session with agenda }.bootstrap resumePaging) := by
  have shorter : agenda <:+ session.agenda := next ▸ List.suffix_cons _ agenda
  have taken : Quiets session { session with agenda } := .one (.take session next)
  unfold Session.bootstrap
  split
  · exact quiet (taken.trans (Quiets.report _ _))
  · rename_i account lives
    split
    · rename_i result
      exact of_refused shorter taken result (.report _ _)
    · rename_i result
      exact ⟨_, Or.inr (.setUp session resumePaging next lives (runCall_answered result)),
        Relation.ReflTransGen.refl⟩

theorem execute (session : Session W) {call : CoreCall} (plain : call.isSetUp = false) :
    Turn session (reported (session.execute call)).1 := by
  unfold Session.execute
  split
  · rename_i result
    exact of_refused (List.suffix_refl _) Relation.ReflTransGen.refl result (.report _ _)
  · rename_i result
    exact ⟨_, Or.inr (.answered session rfl (List.suffix_refl _) plain
      (runCall_answered result)), Relation.ReflTransGen.refl⟩

theorem payInvoice (session : Session W) (invoice : String) :
    Turn session (reported (session.tryPayInvoice invoice)).1 := by
  unfold Session.tryPayInvoice
  split
  · exact quiet (.report session _)
  · rename_i hash _
    split
    · rename_i result
      exact of_refused (List.suffix_refl _) Relation.ReflTransGen.refl result (.report _ _)
    · rename_i called bundle time result
      -- tracking the round trip and accepting the bundle touch different fields
      have tracked := Quiets.one (.change rfl (.track
        (called.accept bundle (.started (roundTripTime bundle time))) hash
        (roundTripTime bundle time)))
      exact ⟨_, Or.inr (.answered session rfl (List.suffix_refl _) rfl
        (runCall_answered result)), tracked⟩

end Turn

namespace Tame

variable {first middle last : Session W}

theorem change (tame : first.Tame) {concern : Concern} (change : Change first concern last) :
    last.Tame := by
  have link {first last : Session W} (tame : first.Tame) (link : LinkOnly first last) :
      last.Tame :=
    tame.of_same (congrArg Session.agenda link.rest :)
  cases change with
  | complete tracked => exact tame.enqueue rfl
  | counted counts => exact tame.advanceRestore _
  | paged messages topic known => exact tame.advanceRestore _
  | @errand work isErrand =>
      refine tame.enqueue ?_
      cases work with
      | call asked => cases asked <;> cases isErrand <;> rfl
      | _ => rfl
  | release key context => exact tame.release key context
  | publish publish =>
      have sent : (first.sent publish).Tame := tame.of_same rfl
      exact link sent (.publish first publish)
  | subscribe topics => exact link tame (.subscribe first topics)
  | accept bundle context => exact tame.enqueue rfl
  | enterRestore restoring resumePaging => exact tame.enterRestore restoring resumePaging
  | cancelRestore => exact tame.cancelRestore
  | link only => exact link tame only
  | arrive topic payload => exact tame.enqueue rfl
  | _ => exact tame.of_same rfl

theorem quiet (tame : first.Tame) (quiet : Quiet first last) : last.Tame := by
  cases quiet with
  | change quiet change => exact tame.change change
  | absorb bundle context => exact tame.absorb bundle context
  | take next => exact tame.of_suffix (next ▸ List.suffix_cons _ _)
  | reopen owner goesOn => exact tame.adopt _ owner true
  | _ => exact tame.of_same rfl

omit [Surroundings W] in
theorem called (tame : first.Tame) {agenda : List Work} (shorter : agenda <:+ first.agenda)
    {call : CoreCall} {answer : Except String Bundle}
    (calls : Calls { first with agenda } call answer last) : last.Tame := by
  have agendaEq : last.agenda = agenda := (congrArg Session.agenda calls.rest :)
  exact tame.of_suffix (agendaEq ▸ shorter)

theorem ask (tame : first.Tame) (ask : Ask first last) : last.Tame := by
  cases ask with
  | refused shorter calls => exact tame.called shorter calls
  | answered fresh shorter plain calls =>
      exact (tame.called shorter calls).change (.accept _ _ _)
  | setUp resumePaging next lives calls =>
      have called := tame.called (next ▸ List.suffix_cons _ _) calls
      exact (called.change (.accept _ _ {})).enterRestore _ resumePaging

end Tame

theorem step_turn {session : Session W} (tame : session.Tame) : Turn session session.step := by
  unfold step
  split
  · rename_i work agenda next
    have plain := tame work (next ▸ List.mem_cons_self)
    cases work with
    | dispatch bundle context =>
        have taken : Quiets session { session with agenda } := .one (.take session next)
        exact .quiet (taken.trans (Quiets.apply _ bundle context))
    | call call => exact .callThenApply next plain rfl
    | inbound topic payload => exact .callThenApply next rfl rfl
    | bootstrap resumePaging => exact .bootstrap next
  · rename_i told
    exact .quiet (.one (.depart session told))
  · exact .quiet Relation.ReflTransGen.refl

/-- What a move adds to the journal. -/
def added (session : Session W) (next : Move W) : List Entry :=
  (session.move next).journal.drop session.journal.length

def Move.cancels : Move W → Bool
  | .perform .cancelRestore => true
  | _ => false

/-- The moves that begin an account other than by reconnecting. -/
def Move.begins : Move W → Bool
  | .perform (.createAccount ..) => true
  | .perform (.restoreAccount _) => true
  | .perform (.start ..) => true
  | _ => false

theorem move_mayBegin (session : Session W) {next : Move W} (begins : next.begins = true) :
    MayBegin session (session.move next) := by
  cases next with
  | perform operation =>
      cases operation with
      | createAccount displayName mixer inviteCode =>
          exact .reported (.of_mayOpen (.tryCreateAccount session displayName mixer inviteCode))
      | restoreAccount params => exact .reported (.of_mayOpen (.tryRestoreAccount session params))
      | start address mnemonic owner =>
          exact .reported (.of_mayOpen (.tryStart session { address, mnemonic } owner false))
      | _ => cases begins
  | _ => cases begins

theorem move_turn {session : Session W} (tame : session.Tame) {next : Move W}
    (plain : next.begins = false) (goesOn : next.cancels = false) :
    Turn session (session.move next) := by
  cases next with
  | perform operation =>
      cases operation with
      | addListener => exact .quiet (.link (.of_fields rfl rfl (Nat.le_refl _) .refl))
      | beginRestore mnemonic =>
          exact .quiet (.one (.change rfl (.supply session session.outside session.lastOpening
            (some mnemonic))))
      | createAccount displayName mixer inviteCode => cases plain
      | restoreAccount params => cases plain
      | start address mnemonic owner => cases plain
      | reconnect => exact .quiet (.reconnect session)
      | disconnect => exact .quiet (.one (.close session))
      | payInvoice invoice => exact .payInvoice session invoice
      | cancelRestore => cases goesOn
      | dispatch bundle context =>
          exact .quiet (.one (.change rfl (.accept session bundle context)))
      | _ => exact .execute session rfl
  | receive generation event =>
      exact .quiet (.changes (.receive session generation event) (by decide))
  | wake => exact .quiet (.changes (.wake session) (by decide))
  | step => exact step_turn tame
  | advance millis => exact .quiet (.one (.pass session millis))
  | surround outside =>
      exact .quiet (.one (.change rfl (.supply session outside session.lastOpening
        session.pendingRestore)))

theorem move_cases {session : Session W} (tame : session.Tame) (next : Move W) :
    Turn session (session.move next) ∨ MayBegin session (session.move next) ∨
      next = .perform .cancelRestore := by
  cases begins : next.begins with
  | true => exact Or.inr (Or.inl (move_mayBegin session begins))
  | false =>
      cases goesOn : next.cancels with
      | false => exact Or.inl (move_turn tame begins goesOn)
      | true =>
          refine Or.inr (Or.inr ?_)
          cases next with
          | perform operation =>
              cases operation with
              | cancelRestore => rfl
              | _ => cases goesOn
          | _ => cases goesOn

/-- Nothing that a turn is made of breaks the property. -/
structure Lasting (property : Session W → Prop) : Prop where
  quiet : ∀ {first last : Session W}, Quiet first last → property first → property last
  ask : ∀ {first last : Session W}, Ask first last → property first → property last

/-- Nothing that a move is made of breaks the property. -/
structure Invariant (property : Session W → Prop) : Prop extends Lasting property where
  adopt : ∀ (session : Session W) (account : Account) (owner : Owner),
    property session → property (session.adopt account owner false)
  cancelRestore : ∀ session : Session W, property session → property session.cancelRestore

section Kept

variable {property : Session W → Prop} {first last : Session W}

theorem Lasting.quiets (lasting : Lasting property) (quiets : Quiets first last)
    (start : property first) : property last := by
  induction quiets with
  | refl => exact start
  | tail _ quiet induction => exact lasting.quiet quiet induction

theorem Lasting.turn (lasting : Lasting property) (turn : Turn first last)
    (start : property first) : property last := by
  obtain ⟨middle, asked, rest⟩ := turn
  cases asked with
  | inl same => exact lasting.quiets rest (same ▸ start)
  | inr ask => exact lasting.quiets rest (lasting.ask ask start)

theorem Invariant.mayBegin (invariant : Invariant property) (mayBegin : MayBegin first last)
    (start : property first) : property last := by
  cases mayBegin with
  | inl quiets => exact invariant.quiets quiets start
  | inr begun =>
      obtain ⟨middle, account, owner, before, rest⟩ := begun
      have earlier := invariant.quiets before start
      exact invariant.quiets rest (invariant.adopt middle account owner earlier)

theorem Invariant.move (invariant : Invariant property) (tame : first.Tame)
    (next : Move W) (start : property first) : property (first.move next) := by
  rcases move_cases tame next with turn | mayBegin | rfl
  · exact invariant.turn turn start
  · exact invariant.mayBegin mayBegin start
  · exact invariant.cancelRestore first start

end Kept

theorem tame_invariant : Invariant (@Tame W) where
  quiet quiet tame := tame.quiet quiet
  ask ask tame := tame.ask ask
  adopt _ account owner tame := tame.adopt account owner false
  cancelRestore _ tame := tame.cancelRestore

theorem Tame.move {session : Session W} (tame : session.Tame) (next : Move W) :
    (session.move next).Tame :=
  tame_invariant.move tame next tame

theorem Reaches.tame {initial session : Session W} (reached : Reaches initial session)
    (tame : initial.Tame) : session.Tame := by
  induction reached with
  | here => exact tame
  | after next _ _ induction => exact induction.move next

theorem Invariant.reaches {property : Session W → Prop} (invariant : Invariant property)
    {initial session : Session W} (reached : Reaches initial session) (tame : initial.Tame)
    (start : property initial) : property session := by
  induction reached with
  | here => exact start
  | after next before _ induction => exact invariant.move (before.tame tame) next induction

omit [Surroundings W] in
theorem new_tame (config : Config) (outside : W) : (new config outside).Tame :=
  fun _ member => absurd member List.not_mem_nil

end Session

end Messenger

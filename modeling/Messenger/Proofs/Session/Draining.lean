import Mathlib.Control.Monad.Basic
import Messenger.Proofs.Session.Changes
import Messenger.Proofs.Session.Following
import Messenger.Proofs.Session.Malformed
import Messenger.Proofs.Session.Relapses

/-!
Whether an agenda is ever done. A piece of work uses something up: an answer of the core's
script, a bundle's turn to be applied, or a place on the agenda. One thing gives back what
it takes. A bundle that a settlement took up again is parked once more, for its asynchronous
payment; if it confirms a settlement itself, it may take up another such bundle, and that
one the first.
-/

namespace Messenger

def CoreCall.isInbound : CoreCall → Bool
  | .handleInbound .. => true
  | _ => false

def Work.isInbound : Work → Bool
  | .inbound .. => true
  | .call asked => asked.isInbound
  | _ => false

theorem Work.isInbound_of_isErrand {work : Work} (isErrand : work.isErrand = true) :
    work.isInbound = false := by
  cases work with
  | bootstrap resumePaging => rfl
  | call call =>
      cases call with
      | readMarkers => rfl
      | muteLevels => rfl
      | _ => cases isErrand
  | _ => cases isErrand

/-- Places on the agenda. What a piece of work puts there without an answer of the script
takes less than the piece itself. -/
def Work.places : Work → Nat
  | .dispatch .. => 1
  | .call _ => 2
  | .bootstrap _ => 4
  | .inbound .. => 0

/-- A script of answers, of which so many are left. A call uses one up, or gets the empty
bundle. Inbound payloads may have answers that are not used up. -/
structure Scripted {W : Type} [Surroundings W] (left : W → Nat) : Prop where
  serves : ∀ {first last : W}, Session.Serves first last → left last ≤ left first
  called : ∀ (outside : W) (context : CoreContext) (call : CoreCall),
    left (Surroundings.runCall outside context call).2 ≤ left outside
  answers : ∀ (outside : W) (context : CoreContext) {call : CoreCall},
    call.isInbound = false →
      left (Surroundings.runCall outside context call).2 < left outside ∨
        (Surroundings.runCall outside context call).1 = .ok {}

theorem Script.nextAnswer_spends (script : Script) (name : String) :
    (script.nextAnswer name).2.answers.length < script.answers.length ∨
      script.nextAnswer name = (.ok {}, script) := by
  unfold nextAnswer
  split
  · exact Or.inr rfl
  · rename_i answer found
    have member := List.mem_of_find?_eq_some found
    have positive := List.length_pos_of_mem member
    have fewer := List.length_eraseP_of_mem member (List.find?_some found)
    left
    dsimp only
    omega

/-- Nothing but a call takes an answer from the script of a bench. -/
theorem Bench.scripted : Scripted fun bench : Bench => bench.script.answers.length where
  serves := by
    intro first last serves
    cases serves <;> exact Nat.le_refl _
  called := by
    intro bench context call
    have asked : (bench.script.nextAnswer call.name).2.answers.length ≤
        bench.script.answers.length := by
      rcases bench.script.nextAnswer_spends call.name with less | same
      · exact Nat.le_of_lt less
      · exact Nat.le_of_eq (congrArg (·.2.answers.length) same)
    cases call with
    | handleInbound topic payload =>
        change (bench.script.run (.handleInbound topic payload)).2.answers.length ≤ _
        unfold Script.run
        dsimp only
        split <;> exact Nat.le_refl _
    | _ => exact asked
  answers := by
    intro bench context call fresh
    have asked := (bench.script.nextAnswer_spends call.name).imp_right (congrArg Prod.fst)
    cases call with
    | handleInbound topic payload => cases fresh
    | _ => exact asked

namespace Session

variable {W : Type}

def relapses (session : Session W) : Nat :=
  session.history.countP Happening.isRelapse

/-- An answer that is left counts for more than any bundle, and so does an inbound payload
on the agenda, since its answer need not be used up. -/
def budget (left : W → Nat) (session : Session W) : Nat :=
  6 * (left session.outside + session.agenda.countP Work.isInbound) + session.outbox.load

def chores (session : Session W) : Nat :=
  (session.agenda.map Work.places).sum + session.farewell.length

/-- No answer is scripted, and nothing inbound is put on the agenda. -/
structure Thrifty (left : W → Nat) (first last : Session W) : Prop where
  left : left last.outside ≤ left first.outside
  inbound : last.agenda.countP Work.isInbound = first.agenda.countP Work.isInbound

namespace Thrifty

variable {left : W → Nat} {first middle last : Session W}

theorem refl (session : Session W) : Thrifty left session session :=
  ⟨Nat.le_refl _, rfl⟩

theorem trans (start : Thrifty left first middle) (rest : Thrifty left middle last) :
    Thrifty left first last :=
  ⟨Nat.le_trans rest.left start.left, rest.inbound.trans start.inbound⟩

theorem of_same (outside : last.outside = first.outside)
    (agenda : last.agenda = first.agenda) :
    Thrifty left first last :=
  ⟨Nat.le_of_eq (congrArg left outside), congrArg _ agenda⟩

theorem enqueue (session : Session W) {work : Work} (other : work.isInbound = false) :
    Thrifty left session (session.enqueue work) :=
  ⟨Nat.le_refl _, by simp [Session.enqueue, other]⟩

theorem calls (actions : List RestoreAction) :
    ((RestoreAction.calls actions).map Work.call).countP Work.isInbound = 0 := by
  rw [List.countP_eq_zero]
  intro work member
  obtain ⟨call, called, rfl⟩ := List.mem_map.mp member
  obtain ⟨action, -, asks⟩ := List.mem_filterMap.mp called
  cases action <;> cases asks <;> nofun

theorem advanceRestore (session : Session W) (step : RestoreMachine × List RestoreAction) :
    Thrifty left session (session.advanceRestore step) := by
  rw [advanceRestore_eq]
  refine ⟨Nat.le_refl _, ?_⟩
  rw [List.countP_append, calls, Nat.add_zero]

theorem release (session : Session W) (key : SettlementKey) (context : DispatchContext) :
    Thrifty left session (session.release key context) := by
  unfold Session.release
  split
  · exact of_same rfl rfl
  · exact ⟨Nat.le_refl _, by simp [Session.enqueue, Work.isInbound]⟩

variable [Surroundings W]

theorem serves (scripted : Scripted left) {outside later : W}
    (serves : Relation.ReflTransGen Serves outside later) : left later ≤ left outside := by
  induction serves with
  | refl => exact Nat.le_refl _
  | tail _ next induction => exact Nat.le_trans (scripted.serves next) induction

theorem link (scripted : Scripted left) (link : LinkOnly first last) :
    Thrifty left first last := by
  have agenda : last.agenda = first.agenda := (congrArg Session.agenda link.rest :)
  exact ⟨serves scripted link.outside, congrArg _ agenda⟩

theorem publish (scripted : Scripted left) (session : Session W) (publish : Publish) :
    Thrifty left session (session.publish publish) := by
  have sent : Thrifty left session (session.sent publish) :=
    ⟨scripted.serves (.publish _ _), rfl⟩
  exact sent.trans (link scripted (.publish session publish))

theorem change (scripted : Scripted left) {concern : Concern}
    (ofRow : concern ∈ Row.all.flatMap Row.concerns) (change : Change first concern last) :
    Thrifty left first last := by
  cases change with
  | complete tracked =>
      exact ⟨Nat.le_refl _, by simp [Session.enqueue, Work.isInbound, CoreCall.isInbound]⟩
  | counted counts => exact advanceRestore first _
  | paged messages topic => exact advanceRestore first _
  | errand isErrand =>
      exact enqueue first (Work.isInbound_of_isErrand isErrand)
  | release key context => exact release first key context
  | publish publish => exact Thrifty.publish scripted first publish
  | subscribe topics => exact link scripted (.subscribe first topics)
  | ask call answer wall outside lives => exact absurd ofRow (by decide)
  | accept bundle context => exact absurd ofRow (by decide)
  | enterRestore restoring resumePaging => exact absurd ofRow (by decide)
  | cancelRestore => exact absurd ofRow (by decide)
  | supply outside lastOpening pendingRestore => exact absurd ofRow (by decide)
  | link link => exact absurd ofRow (by decide)
  | arrive topic payload => exact absurd ofRow (by decide)
  | _ => exact of_same rfl rfl

theorem apply (scripted : Scripted left) (session : Session W) (bundle : Bundle)
    (context : DispatchContext) : Thrifty left session (session.apply bundle context) := by
  cases live : session.hasSession with
  | true =>
      have noted : Thrifty left session (session.note (.applied bundle context)) :=
        of_same rfl rfl
      exact noted.trans
        ((Changes.apply live bundle context).lift (Thrifty left) refl trans (change scripted))
  | false =>
      rw [apply_closed live]
      exact of_same rfl rfl

theorem runCall (scripted : Scripted left) (session : Session W) (call : CoreCall) :
    Thrifty left session (session.runCall call).1 := by
  unfold Session.runCall
  split
  · exact refl session
  · have stamped : Thrifty left session session.uniqueTime.1 :=
      link scripted (.uniqueTime session)
    dsimp only
    split
    · exact ⟨Nat.le_trans (scripted.called _ _ _) stamped.left, rfl⟩
    · exact ⟨Nat.le_trans (scripted.called _ _ _) stamped.left, rfl⟩

end Thrifty

/-- No relapse, and at most so much more to do. -/
structure Spends (left : W → Nat) (cost places : Nat) (first last : Session W) : Prop where
  relapses : last.relapses = first.relapses
  budget : last.budget left ≤ first.budget left + cost
  chores : last.chores ≤ first.chores + places

namespace Spends

variable {left : W → Nat} {cost more places others : Nat} {first middle last : Session W}

theorem of_same (outside : last.outside = first.outside)
    (agenda : last.agenda = first.agenda) (farewell : last.farewell = first.farewell)
    (outbox : last.outbox = first.outbox) :
    Spends left 0 0 first last := by
  refine ⟨congrArg Outbox.relapses outbox, Nat.le_of_eq ?_, Nat.le_of_eq ?_⟩
  · rw [Session.budget, outside, agenda, outbox]
    rfl
  · rw [Session.chores, agenda, farewell]
    rfl

theorem trans (start : Spends left cost places first middle)
    (rest : Spends left more others middle last) :
    Spends left (cost + more) (places + others) first last := by
  have early := start.budget
  have late := rest.budget
  have before := start.chores
  have after := rest.chores
  exact ⟨rest.relapses.trans start.relapses, by omega, by omega⟩

theorem report (session : Session W) (error : SessionError) :
    Spends left 0 0 session (session.report error) :=
  of_same rfl rfl rfl (outbox_report session error)

theorem accept (session : Session W) (bundle : Bundle) (context : DispatchContext) :
    Spends left (Outbox.weight bundle context) 1 session
      (session.accept bundle context) := by
  have accepted := outbox_accept session bundle context
  constructor
  case relapses =>
    change (session.accept bundle context).outbox.relapses = session.outbox.relapses
    rw [accepted]
    exact Outbox.relapses_note session.outbox _
  case budget =>
    have inbound : (session.accept bundle context).agenda.countP Work.isInbound =
        session.agenda.countP Work.isInbound := by
      simp [Session.accept, Session.enqueue, note, Work.isInbound]
    rw [Session.budget, inbound, accepted, Session.budget, Outbox.load, Outbox.load]
    simp only [Outbox.accept, List.map_append, List.sum_append, List.map_singleton,
      List.sum_singleton]
    simp only [Session.accept, Session.enqueue, note, Outbox.note]
    omega
  case chores =>
    simp only [Session.chores, Session.accept, Session.enqueue, note, List.map_append,
      List.sum_append, List.map_singleton, List.sum_singleton, Work.places]
    omega

theorem places_calls (calls : List CoreCall) :
    ((calls.map Work.call).map Work.places).sum = 2 * calls.length := by
  induction calls with
  | nil => rfl
  | cons call rest induction =>
      rw [List.map_cons, List.map_cons, List.sum_cons, induction, Work.places,
        List.length_cons]
      omega

theorem length_calls_resume (machine : RestoreMachine) :
    (RestoreAction.calls machine.resume).length ≤ 1 := by
  unfold RestoreMachine.resume
  split
  · split <;> exact Nat.le_refl 1
  · exact Nat.le_refl 1
  · exact Nat.zero_le 1

/-- Entering a restore asks for one thing at most. -/
theorem calls_enterRestore (session : Session W) (restoring resumePaging : Bool) :
    ∃ calls : List CoreCall, calls.length ≤ 1 ∧
      (session.enterRestore restoring resumePaging).agenda =
        session.agenda ++ calls.map .call := by
  unfold Session.enterRestore
  split
  · split
    · exact ⟨_, length_calls_resume session.restore, by rw [followAll_eq]⟩
    · exact ⟨[], Nat.zero_le _, (List.append_nil _).symm⟩
  · split
    · exact ⟨[.fetchMessageCounts], Nat.le_refl 1, by rw [advanceRestore_eq]; rfl⟩
    · refine ⟨RestoreAction.calls
        (session.restore.beginSync session.owner.messageLastIndex).2, ?_,
        by rw [advanceRestore_eq]⟩
      cases session.owner.messageLastIndex <;> exact Nat.le_refl 1

theorem enterRestore (session : Session W) (restoring resumePaging : Bool) :
    Spends left 0 2 session (session.enterRestore restoring resumePaging) := by
  obtain ⟨calls, few, agenda⟩ := calls_enterRestore session restoring resumePaging
  obtain ⟨step, entered, -, -⟩ := session.enterRestore_eq restoring resumePaging
  have thrifty : Thrifty left session (session.enterRestore restoring resumePaging) :=
    entered ▸ .advanceRestore session step
  have outbox := outbox_enterRestore session restoring resumePaging
  have farewell : (session.enterRestore restoring resumePaging).farewell =
      session.farewell := by
    rw [entered, advanceRestore_eq]
  constructor
  case relapses => exact congrArg Outbox.relapses outbox
  case budget =>
    have fewer := thrifty.left
    rw [Session.budget, thrifty.inbound, outbox, Session.budget]
    omega
  case chores =>
    rw [Session.chores, agenda, farewell, List.map_append, List.sum_append, places_calls,
      Session.chores]
    omega

variable [Surroundings W]

theorem runCall (scripted : Scripted left) (session : Session W) (call : CoreCall) :
    Spends left 0 0 session (session.runCall call).1 := by
  have thrifty := Thrifty.runCall scripted session call
  have outbox := outbox_runCall session call
  have fewer := thrifty.left
  constructor
  case relapses => exact congrArg Outbox.relapses outbox
  case budget =>
    rw [Session.budget, thrifty.inbound, outbox, Session.budget]
    omega
  case chores =>
    have same : (session.runCall call).1.chores = session.chores := by
      unfold Session.runCall
      split
      · rfl
      · dsimp only
        split <;> rfl
    exact Nat.le_of_eq same

end Spends

variable {left : W → Nat} [Surroundings W]

/-- A call that is not inbound uses up an answer, or gets the empty bundle. -/
theorem runCall_answers (scripted : Scripted left) {session last : Session W}
    {call : CoreCall} (fresh : call.isInbound = false) {bundle : Bundle} {time : UInt64}
    (result : session.runCall call = (last, .ok (bundle, time))) :
    left last.outside < left session.outside ∨ bundle = {} := by
  unfold runCall at result
  split at result
  · cases result
  · rename_i account _
    have stamped : left session.uniqueTime.1.outside ≤ left session.outside :=
      (Thrifty.link scripted (.uniqueTime session)).left
    dsimp only at result
    split at result
    · rename_i answered
      cases result
      refine (scripted.answers _ _ fresh).imp
        (fun less => Nat.lt_of_lt_of_le less stamped) ?_
      exact fun empty => Except.ok.inj (answered.symm.trans empty)
    · cases result

/-- What a call leads to on the agenda: something that an answer paid for, or the empty
bundle. -/
theorem accept_answer (scripted : Scripted left) {session last : Session W}
    {call : CoreCall} (fresh : call.isInbound = false) {bundle : Bundle} {time : UInt64}
    (result : session.runCall call = (last, .ok (bundle, time))) :
    (last.accept bundle {}).budget left < session.budget left ∨
      Spends left 0 1 session (last.accept bundle {}) := by
  have called := Spends.runCall scripted session call
  have thrifty := Thrifty.runCall scripted session call
  have outbox := outbox_runCall session call
  rw [result] at called thrifty outbox
  have accepted : Spends left _ 1 last (last.accept bundle {}) := .accept last bundle {}
  rcases runCall_answers scripted fresh result with less | rfl
  · left
    have heavy := Outbox.weight_le bundle {}
    have added := accepted.budget
    have paid : last.budget left + 6 ≤ session.budget left := by
      rw [Session.budget, thrifty.inbound, outbox, Session.budget]
      omega
    omega
  · exact Or.inr (called.trans accepted)

/-- After a step that is no relapse there is less to do. -/
def Descends (left : W → Nat) (first last : Session W) : Prop :=
  last.budget left < first.budget left ∨
    last.budget left ≤ first.budget left ∧ last.chores < first.chores

omit [Surroundings W] in
theorem chores_pop {session : Session W} {work : Work} {agenda : List Work}
    (next : session.agenda = work :: agenda) :
    session.chores = work.places + { session with agenda }.chores := by
  rw [chores, next, chores]
  simp only [List.map_cons, List.sum_cons]
  omega

omit [Surroundings W] in
theorem budget_pop (left : W → Nat) {session : Session W} {work : Work}
    {agenda : List Work} (next : session.agenda = work :: agenda)
    (other : work.dispatch? = none) :
    session.budget left =
      6 * work.isInbound.toNat + { session with agenda }.budget left := by
  rw [budget, budget, outbox_pop next other, next]
  cases inbound : work.isInbound with
  | true =>
      rw [List.countP_cons_of_pos inbound]
      simp only [Bool.toNat_true]
      omega
  | false =>
      rw [List.countP_cons_of_neg (by simp [inbound])]
      simp only [Bool.toNat_false]
      omega

theorem callThenApply_descends (scripted : Scripted left) {session : Session W}
    {work : Work} {agenda : List Work} (next : session.agenda = work :: agenda)
    (other : work.dispatch? = none) {call : CoreCall} {context : DispatchContext}
    (paid : work.isInbound = true ∨
      call.isInbound = false ∧ context = {} ∧ work.places = 2) :
    ({ session with agenda }.callThenApply call context).relapses = session.relapses ∧
      Descends left session ({ session with agenda }.callThenApply call context) := by
  have relapses : { session with agenda }.relapses = session.relapses :=
    congrArg Outbox.relapses (outbox_pop next other)
  have budget := budget_pop left next other
  have chores := chores_pop next
  have called := Spends.runCall scripted { session with agenda } call
  unfold callThenApply
  split
  · rename_i refused error result
    rw [result] at called
    have told := called.trans (.report refused error)
    refine ⟨told.relapses.trans relapses, ?_⟩
    have spent := told.budget
    have placed := told.chores
    rcases paid with inbound | ⟨-, -, places⟩
    · left
      rw [inbound] at budget
      simp only [Bool.toNat_true] at budget
      omega
    · right
      omega
  · rename_i last bundle _ result
    rw [result] at called
    have accepted := called.trans (Spends.accept last bundle context)
    refine ⟨accepted.relapses.trans relapses, ?_⟩
    rcases paid with inbound | ⟨fresh, rfl, places⟩
    · left
      have heavy := Outbox.weight_le bundle context
      have spent := accepted.budget
      rw [inbound] at budget
      simp only [Bool.toNat_true] at budget
      omega
    · rcases accept_answer scripted fresh result with less | spends
      · left
        omega
      · right
        have spent := spends.budget
        have placed := spends.chores
        omega

theorem bootstrap_descends (scripted : Scripted left) {session : Session W}
    {resumePaging : Bool} {agenda : List Work}
    (next : session.agenda = .bootstrap resumePaging :: agenda) :
    ({ session with agenda }.bootstrap resumePaging).relapses = session.relapses ∧
      Descends left session ({ session with agenda }.bootstrap resumePaging) := by
  have relapses : { session with agenda }.relapses = session.relapses :=
    congrArg Outbox.relapses (outbox_pop next rfl)
  have budget := budget_pop left next rfl
  have chores := chores_pop next
  simp only [Work.isInbound, Bool.toNat_false] at budget
  simp only [Work.places] at chores
  have short {places : Nat} {last : Session W} (fits : places ≤ 3)
      (spends : Spends left 0 places { session with agenda } last) :
      last.relapses = session.relapses ∧ Descends left session last := by
    have spent := spends.budget
    have placed := spends.chores
    exact ⟨spends.relapses.trans relapses, Or.inr ⟨by omega, by omega⟩⟩
  unfold bootstrap
  split
  · exact short (Nat.zero_le 3) (.report _ .noSession)
  · rename_i account _
    have called := Spends.runCall scripted { session with agenda }
      (.initialSetup session.config.device account.inviteCode)
    split
    · rename_i refused error result
      rw [result] at called
      exact short (Nat.zero_le 3) (called.trans (.report refused error))
    · rename_i last bundle _ result
      rw [result] at called
      have entered : Spends left 0 2 (last.accept bundle {}) _ :=
        .enterRestore _ account.restoring resumePaging
      rcases accept_answer scripted rfl result with less | spends
      · have accepted := (called.trans (.accept last bundle {})).relapses
        have spent := entered.budget
        exact ⟨(entered.relapses.trans accepted).trans relapses, Or.inl (by omega)⟩
      · exact short (Nat.le_refl 3) (spends.trans entered)

/-- The empty bundle is applied and does nothing. -/
theorem apply_nothing (session : Session W) :
    Spends left 0 0 session (session.apply {} {}) := by
  have same : session.apply {} {} =
      if session.hasSession then session.note (.applied {} {})
      else session.report .noSession :=
    rfl
  rw [same]
  split
  · have noted := outbox_note session (.applied {} {})
    refine ⟨?_, Nat.le_of_eq ?_, Nat.le_refl _⟩
    · exact (congrArg Outbox.relapses noted).trans (Outbox.relapses_note session.outbox _)
    · rw [Session.budget, noted]
      rfl
  · exact .report session .noSession

theorem dispatch_descends (scripted : Scripted left) {session : Session W} {bundle : Bundle}
    {context : DispatchContext} {agenda : List Work}
    (next : session.agenda = .dispatch bundle context :: agenda) :
    session.relapses < ({ session with agenda }.apply bundle context).relapses ∨
      ({ session with agenda }.apply bundle context).relapses = session.relapses ∧
        Descends left session ({ session with agenda }.apply bundle context) := by
  have inbound : session.agenda.countP Work.isInbound = agenda.countP Work.isInbound := by
    rw [next]
    exact List.countP_cons_of_neg nofun
  have ready : session.outbox.ready =
      (bundle, context) :: agenda.filterMap Work.dispatch? := by
    rw [outbox, next]
    rfl
  by_cases empty : bundle = {} ∧ context = {}
  · obtain ⟨rfl, rfl⟩ := empty
    have applied : Spends left 0 0 _ _ := apply_nothing { session with agenda }
    have popped : { session with agenda }.budget left = session.budget left := by
      rw [budget, budget, inbound, Outbox.load, Outbox.load, ready, List.map_cons,
        List.sum_cons, Outbox.weight_nothing, Nat.zero_add]
      rfl
    have spent := applied.budget
    have placed := applied.chores
    have chores := chores_pop next
    simp only [Work.places] at chores
    exact Or.inr ⟨applied.relapses, Or.inr ⟨by omega, by omega⟩⟩
  · have thrifty := Thrifty.apply scripted { session with agenda } bundle context
    have fewer : left ({ session with agenda }.apply bundle context).outside ≤
        left session.outside := thrifty.left
    have applied := outbox_apply { session with agenda } bundle context
    refine (session.outbox.apply_descends ready empty).imp (fun relapsed => ?_) ?_
    · change _ < Outbox.relapses ({ session with agenda }.apply bundle context).outbox
      rw [applied]
      exact relapsed
    · rintro ⟨calm, less⟩
      refine ⟨(congrArg Outbox.relapses applied).trans calm, Or.inl ?_⟩
      have load : ({ session with agenda }.apply bundle context).outbox.load <
          session.outbox.load := by
        rw [applied]
        exact less
      rw [budget, budget, inbound, ← thrifty.inbound]
      omega

/-- A step is a relapse, or leaves less to do. -/
theorem step_descends (scripted : Scripted left) {session : Session W}
    (busy : session.isIdle = false) :
    session.relapses < session.step.relapses ∨
      session.step.relapses = session.relapses ∧ Descends left session session.step := by
  unfold step
  split
  · rename_i work agenda next
    cases work with
    | dispatch bundle context => exact dispatch_descends scripted next
    | call call =>
        refine Or.inr (callThenApply_descends scripted next rfl ?_)
        cases inbound : call.isInbound with
        | true => exact Or.inl inbound
        | false => exact Or.inr ⟨rfl, rfl, rfl⟩
    | inbound topic payload =>
        exact Or.inr (callThenApply_descends scripted next rfl (Or.inl rfl))
    | bootstrap resumePaging => exact Or.inr (bootstrap_descends scripted next)
  · rename_i event farewell done last
    have said : session.farewell.length = farewell.length + 1 := by
      rw [last, List.length_cons]
    have told : Spends left 0 0 { session with farewell }
        ({ session with farewell }.notify event) :=
      .of_same rfl rfl rfl (outbox_notify _ event)
    have chores : session.chores = { session with farewell }.chores + 1 := by
      rw [Session.chores, said]
      rfl
    have placed := told.chores
    exact Or.inr ⟨told.relapses, Or.inr ⟨told.budget, by omega⟩⟩
  · rename_i done last
    simp [isIdle, done, last] at busy

theorem relapses_drain_le (scripted : Scripted left) {session : Session W} {steps : Nat}
    (done : (drain steps session).isIdle = true) (others : Nat) :
    (drain others session).relapses ≤ (drain steps session).relapses := by
  induction steps generalizing session others with
  | zero =>
      have idle : session.isIdle = true := done
      exact Nat.le_of_eq (congrArg relapses (drain_of_isIdle idle others))
  | succ steps induction =>
      cases idle : session.isIdle with
      | true => exact Nat.le_of_eq (by rw [drain_of_isIdle idle, drain_of_isIdle idle])
      | false =>
          rw [drain_succ idle] at done ⊢
          cases others with
          | zero =>
              have grown : session.relapses ≤ session.step.relapses := by
                have descends := step_descends scripted idle
                omega
              exact Nat.le_trans grown (induction done 0)
          | succ others =>
              rw [drain_succ idle]
              exact induction done others

theorem drains_of_relapses_le (scripted : Scripted left) (bound : Nat) (session : Session W)
    (bounded : ∀ steps, (drain steps session).relapses ≤ bound) :
    ∃ steps, (drain steps session).isIdle = true := by
  cases idle : session.isIdle with
  | true => exact ⟨0, idle⟩
  | false =>
      have later := drain_succ idle
      have descends := step_descends scripted idle
      have below : session.step.relapses ≤ bound := by
        have first := bounded 1
        rwa [later] at first
      obtain ⟨steps, done⟩ := drains_of_relapses_le scripted bound session.step fun steps =>
        later steps ▸ bounded (steps + 1)
      exact ⟨steps + 1, later steps ▸ done⟩
termination_by (bound - session.relapses, session.budget left, session.chores)
decreasing_by
  rcases descends with relapsed | ⟨same, less | ⟨kept, fewer⟩⟩
  · exact .left _ _ (by omega)
  · rw [same]
    exact .right _ (.left _ _ less)
  · rw [same]
    refine .right _ ?_
    rcases Nat.lt_or_eq_of_le kept with less | equal
    · exact .left _ _ less
    · rw [equal]
      exact .right _ fewer

/-- A drain ends unless there is no end of relapses. -/
theorem drains_iff_relapses_bounded (scripted : Scripted left) (session : Session W) :
    (∃ steps, (drain steps session).isIdle = true) ↔
      ∃ bound, ∀ steps, (drain steps session).relapses ≤ bound := by
  constructor
  · intro ⟨steps, done⟩
    exact ⟨_, relapses_drain_le scripted done⟩
  · intro ⟨bound, bounded⟩
    exact drains_of_relapses_le scripted bound session bounded

def restless : Bundle where
  messages := [{ index := some "1", tag := some "t" }]
  asyncPay := some ⟨"pay", [2]⟩
  settledStatus := some "\x7b\"htlc_id\":\"1\",\"status\":\"COMPLETE\"\x7d"

/-- The core answers the initial setup with the bundle, and nothing else. -/
def answeringBench : Bench :=
  { Bench.new 7 with script := { answers := [("initial_setup", .ok restless)] } }

def answeringRun : Session Bench :=
  [.perform (.start "broker" twelveWords {}), .receive 1 .connected].foldl move
    (new .test answeringBench)

theorem relapses_bounded_answeringRun :
    ∃ bound, ∀ steps, (drain steps answeringRun).relapses ≤ bound :=
  (drains_iff_relapses_bounded Bench.scripted answeringRun).mp ⟨20, by decide +kernel⟩

/-- A session that a step brings back to where it was is never done. What it has told and
noted since does not matter. -/
theorem never_idle_of_recurs {bundle : Bundle} {session : Session W}
    (recurs : Twins (bundle.Copy []) session session.step) (busy : session.isIdle = false)
    (steps : Nat) : (drain steps session).isIdle = false := by
  induction steps generalizing session with
  | zero => exact busy
  | succ steps induction =>
      rw [drain_succ busy]
      obtain ⟨-, -, -, next⟩ :=
        step_apart (fun _ member => absurd member List.not_mem_nil) recurs
      exact induction next (recurs.isIdle.trans busy)

deriving instance DecidableEq for Script, Bench, Entry, Session

/-- The bundle arrives twice. -/
def restlessMoves : List (Move Bench) :=
  [.perform (.start "broker" twelveWords {}), .perform (.dispatch restless {}), .step,
    .perform (.dispatch restless {})]

def restlessRun : Session Bench :=
  restlessMoves.foldl move (new .test (.new 7))

theorem restlessRun_recurs :
    Twins (restless.Copy []) restlessRun.step restlessRun.step.step := by
  have same : restlessRun.step.step =
      { restlessRun.step with journal := restlessRun.step.step.journal } := by
    decide +kernel
  rw [same]
  exact .of_journal (Bundle.Copy.faithful restless []).same restlessRun.step _

theorem drains_forever :
    Reaches (new .test (.new 7)) restlessRun ∧
      ∀ steps, (drain steps restlessRun).isIdle = false := by
  refine ⟨Reaches.here.moves (by decide +kernel), ?_⟩
  intro steps
  cases steps with
  | zero => decide +kernel
  | succ steps =>
      rw [drain_succ (by decide +kernel)]
      exact never_idle_of_recurs restlessRun_recurs (by decide +kernel) steps

end Session

end Messenger

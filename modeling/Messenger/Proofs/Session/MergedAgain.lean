import Messenger.Proofs.Lookup
import Messenger.Proofs.Session.OwnerState
import Messenger.Proofs.Session.Sources

/-!
What carrying out the agenda does to the owner's user state: it merges the bundles that are
applied, in their order. A bundle that a confirmation releases is one of these again,
whatever was merged since it was applied first.
-/

namespace Messenger

/-- The entries that the bundle brings, if they can be read. -/
def Bundle.delta (bundle : Bundle) : UserState :=
  match bundle.stateDelta with
  | none => ∅
  | some delta =>
    match UserState.decodeDelta delta with
    | .ok decoded => decoded
    | .error _ => ∅

namespace UserState

theorem ext_get? {left right : UserState} (same : ∀ key, left.get? key = right.get? key) :
    left = right := by
  cases left
  cases right
  exact congrArg UserState.mk (KeyMap.ext_get? same)

theorem absorb_eq (state : UserState) (bundle : Bundle) :
    state.absorb bundle = (state.override bundle.delta).removeKeys bundle.deletions := by
  unfold absorb Bundle.delta
  cases bundle.stateDelta with
  | none => rfl
  | some delta =>
      dsimp only [applyDelta]
      cases decodeDelta delta <;> rfl

/-- What the bundle deletes is gone, and what else it brings wins. -/
theorem get?_absorb (state : UserState) (bundle : Bundle) (key : String) :
    (state.absorb bundle).get? key =
      if key ∈ bundle.deletions then none
      else (bundle.delta.get? key <|> state.get? key) := by
  rw [absorb_eq]
  unfold get? removeKeys override
  rw [KeyMap.get?_eraseAll, KeyMap.get?_insertAll]

/-- The state has all that the bundle would write. -/
def Holds (state : UserState) (bundle : Bundle) : Prop :=
  (∀ key ∈ bundle.deletions, state.get? key = none) ∧
    ∀ key value, bundle.delta.get? key = some value → key ∉ bundle.deletions →
      state.get? key = some value

theorem foldl_absorb_of_silent (state : UserState) {bundles : List Bundle}
    (silent : ∀ bundle ∈ bundles, bundle.stateDelta = none ∧ bundle.deletions = []) :
    bundles.foldl absorb state = state := by
  induction bundles with
  | nil => rfl
  | cons bundle rest induction =>
      have ⟨⟨noDelta, noDeletions⟩, others⟩ := List.forall_mem_cons.mp silent
      have same : state.absorb bundle = state := by
        rw [absorb, noDelta, noDeletions]
        rfl
      rw [List.foldl_cons, same, induction others]

theorem absorb_eq_self {state : UserState} {bundle : Bundle} :
    state.absorb bundle = state ↔ state.Holds bundle := by
  constructor
  · intro same
    constructor
    · intro key deleted
      rw [← same, get?_absorb, if_pos deleted]
    · intro key value brought kept
      rw [← same, get?_absorb, if_neg kept, brought]
      rfl
  · rintro ⟨deleted, brought⟩
    apply ext_get?
    intro key
    rw [get?_absorb]
    by_cases inside : key ∈ bundle.deletions
    · rw [if_pos inside, deleted key inside]
    · rw [if_neg inside]
      cases written : bundle.delta.get? key with
      | none => rfl
      | some value => exact (brought key value written inside).symm

end UserState

namespace Bundle

/-- A bundle that carries a confirmation and nothing else. -/
inductive ConfirmsOnly : Bundle → SettlementKey → DispatchContext → Prop where
  | settled {raw : String} {status : SettledStatus}
      (reads : SettledStatus.parse raw = .ok status) (complete : status.isComplete = true) :
      ConfirmsOnly { settledStatus := some raw } (.index status.htlcId) .settled
  | asyncPaid (tag : String) :
      ConfirmsOnly { asyncPayTag := some tag } (.tag tag) .asyncPaid

variable {confirming : Bundle} {key : SettlementKey} {context : DispatchContext}

theorem ConfirmsOnly.confirmations (only : confirming.ConfirmsOnly key context) :
    confirming.confirmations = [(key, context)] := by
  cases only with
  | settled reads complete => simp [Bundle.confirmations, settledIndex?, reads, complete]
  | asyncPaid tag => rfl

theorem ConfirmsOnly.publishesNothing (only : confirming.ConfirmsOnly key context) :
    confirming.publishesNothing = true := by
  cases only <;> rfl

theorem ConfirmsOnly.absorb (only : confirming.ConfirmsOnly key context)
    (state : UserState) : state.absorb confirming = state := by
  cases only <;> rfl

end Bundle

namespace Outbox

variable {outbox : Outbox}

theorem applied_note (outbox : Outbox) (bundle : Bundle) (context : DispatchContext) :
    (outbox.note (.applied bundle context)).applied = outbox.applied ++ [(bundle, context)] :=
  @applied_grown outbox _ [.applied bundle context] rfl (List.forall_mem_singleton.mpr rfl)

theorem ready_release_of_take {key : SettlementKey} {released : Bundle}
    (parked : (outbox.parked.take key).1 = some released) (context : DispatchContext) :
    (outbox.release key context).ready = outbox.ready ++ [(released, context)] := by
  unfold release
  cases taken : outbox.parked.take key with
  | mk oldest others =>
      rw [taken] at parked
      cases parked
      rfl

theorem applied_accept (outbox : Outbox) (bundle : Bundle) (context : DispatchContext) :
    (outbox.accept bundle context).applied = outbox.applied := by
  rw [@applied_grown outbox _ [.received bundle context outbox.live] rfl
    (List.forall_mem_singleton.mpr rfl)]
  exact List.append_nil _

end Outbox

namespace Session

variable {W : Type} {first middle last : Session W}

theorem Changes.plain [Surroundings W] {concerns : List Concern}
    (quiet : ∀ concern ∈ concerns, concern.isQuiet = true)
    (changes : Changes concerns first last) : Plain first last := by
  refine changes.lift Plain (fun _ => .of_same rfl rfl) .trans fun member change => ?_
  rcases change.minor_or_advance (quiet _ member) with minor | ⟨input, -, rfl⟩
  · exact .of_minor minor
  · exact .advanceRestore _ _

/-- Bundles are taken from the ready ones and applied, and others get ready behind them. -/
structure Applies (taken : List (Bundle × DispatchContext)) (first last : Session W) :
    Prop where
  live : last.hasSession = true
  applied : last.outbox.applied = first.outbox.applied ++ taken
  ready : ∃ more, taken ++ last.outbox.ready = first.outbox.ready ++ more
  userState : last.owner.userState =
    (taken.map Prod.fst).foldl UserState.absorb first.owner.userState

namespace Applies

variable {early late : List (Bundle × DispatchContext)}

theorem of_same (live : first.hasSession = true) (outbox : last.outbox = first.outbox)
    (userState : last.owner.userState = first.owner.userState) : Applies [] first last := by
  constructor
  case live => exact (congrArg Outbox.live outbox).trans live
  case applied => rw [outbox, List.append_nil]
  case ready => exact ⟨[], by rw [outbox, List.nil_append, List.append_nil]⟩
  case userState => exact userState

theorem trans (start : Applies early first middle) (rest : Applies late middle last) :
    Applies (early ++ late) first last := by
  obtain ⟨before, earlyReady⟩ := start.ready
  obtain ⟨after, lateReady⟩ := rest.ready
  constructor
  case live => exact rest.live
  case applied => rw [rest.applied, start.applied, List.append_assoc]
  case ready =>
    refine ⟨before ++ after, ?_⟩
    rw [List.append_assoc, lateReady, ← List.append_assoc, earlyReady, List.append_assoc]
  case userState => rw [rest.userState, start.userState, List.map_append, List.foldl_append]

theorem accept (live : first.hasSession = true) (bundle : Bundle)
    (context : DispatchContext) : Applies [] first (first.accept bundle context) := by
  constructor
  case live => exact live
  case applied => rw [outbox_accept, Outbox.applied_accept, List.append_nil]
  case ready => exact ⟨[(bundle, context)], by rw [outbox_accept]; rfl⟩
  case userState => rfl

variable [Surroundings W]

theorem runCall (live : first.hasSession = true) (call : CoreCall) :
    Applies [] first (first.runCall call).1 := by
  refine of_same live (outbox_runCall first call) ?_
  unfold Session.runCall
  split
  · rfl
  · dsimp only
    split <;> rfl

theorem callThenApply (live : first.hasSession = true) (call : CoreCall)
    (context : DispatchContext) : Applies [] first (first.callThenApply call context) := by
  have called := runCall live call
  unfold Session.callThenApply
  split
  · rename_i result
    rw [result] at called
    exact called.trans (of_same called.live (outbox_report _ _) rfl)
  · rename_i result
    rw [result] at called
    exact called.trans (accept called.live _ context)

theorem bootstrap (live : first.hasSession = true) (resumePaging : Bool) :
    Applies [] first (first.bootstrap resumePaging) := by
  unfold Session.bootstrap
  split
  · exact of_same live (outbox_report _ _) rfl
  · rename_i account _
    have called := runCall live (.initialSetup first.config.device account.inviteCode)
    split
    · rename_i result
      rw [result] at called
      exact called.trans (of_same called.live (outbox_report _ _) rfl)
    · rename_i bundle _ result
      rw [result] at called
      have accepted := called.trans (accept called.live bundle {})
      exact accepted.trans (of_same accepted.live (outbox_enterRestore _ _ _)
        (Plain.enterRestore _ _ _).userState)

theorem apply (live : first.hasSession = true) {bundle : Bundle} {context : DispatchContext}
    {rest : List Work} (next : first.agenda = .dispatch bundle context :: rest) :
    Applies [(bundle, context)] first ({ first with agenda := rest }.apply bundle context) := by
  let ready := rest.filterMap Work.dispatch?
  let noted := { first.outbox with ready }.note (.applied bundle context)
  have head : first.outbox.ready = (bundle, context) :: ready := by
    rw [outbox, next]
    rfl
  have outbox : ({ first with agenda := rest }.apply bundle context).outbox =
      (noted.confirm bundle).publishPhase bundle context := by
    rw [← step_eq_apply next]
    exact outbox_step_dispatch next live
  have behind : Outbox.Behind noted
      ({ first with agenda := rest }.apply bundle context).outbox := by
    rw [outbox]
    exact (Outbox.Behind.releaseAll bundle.confirmations_settled noted).trans
      (.publishPhase _ bundle context)
  constructor
  case live => exact behind.live.trans live
  case applied =>
    rw [behind.applied]
    exact Outbox.applied_note { first.outbox with ready } bundle context
  case ready =>
    obtain ⟨more, grown, -⟩ := behind.ready
    refine ⟨more, ?_⟩
    rw [grown, head]
    rfl
  case userState =>
    obtain ⟨callbacks, absorbed⟩ :=
      { first with agenda := rest }.absorb_eq bundle context
    have plain := (@Changes.applyAbsorbed W _ { first with agenda := rest } live bundle
      context).plain (by decide)
    rw [plain.userState, absorbed]
    rfl

theorem step (live : first.hasSession = true) : ∃ taken, Applies taken first first.step := by
  unfold Session.step
  split
  · rename_i work rest next
    have popped (quiet : work.dispatch? = none) :
        Applies [] first { first with agenda := rest } :=
      of_same live (outbox_pop next quiet) rfl
    cases work with
    | dispatch bundle context => exact ⟨_, apply live next⟩
    | call call =>
        exact ⟨[], (popped rfl).trans (callThenApply (popped rfl).live call {})⟩
    | inbound topic payload =>
        exact ⟨[], (popped rfl).trans (callThenApply (popped rfl).live _ _)⟩
    | bootstrap resumePaging =>
        exact ⟨[], (popped rfl).trans (bootstrap (popped rfl).live resumePaging)⟩
  · exact ⟨[], of_same live (outbox_notify _ _) rfl⟩
  · exact ⟨[], of_same live rfl rfl⟩

theorem drain (live : first.hasSession = true) (steps : Nat) :
    ∃ taken, Applies taken first (Session.drain steps first) := by
  induction steps generalizing first with
  | zero => exact ⟨[], of_same live rfl rfl⟩
  | succ steps induction =>
      unfold Session.drain
      split
      · exact ⟨[], of_same live rfl rfl⟩
      · obtain ⟨early, stepped⟩ := step live
        obtain ⟨late, drained⟩ := induction stepped.live
        exact ⟨early ++ late, stepped.trans drained⟩

end Applies

variable [Surroundings W]

/-- Applying a confirmation puts what it releases next. -/
theorem ready_confirmed {session : Session W} {confirming released : Bundle}
    {key : SettlementKey} {how context : DispatchContext} {rest : List Work}
    (live : session.hasSession = true) (only : confirming.ConfirmsOnly key how)
    (parked : (session.settlements.take key).1 = some released)
    (next : session.agenda = .dispatch confirming context :: rest) :
    session.step.outbox.ready = rest.filterMap Work.dispatch? ++ [(released, how)] := by
  rw [outbox_step_dispatch next live, Outbox.confirm, only.confirmations,
    Outbox.publishPhase, if_pos only.publishesNothing]
  exact Outbox.ready_release_of_take parked how

/-- A drain carries out the confirmation first, and next what it released. -/
theorem applies_released {session : Session W} {confirming released : Bundle}
    {key : SettlementKey} {how context : DispatchContext} {steps : Nat}
    (live : session.hasSession = true) (idle : session.isIdle = true)
    (only : confirming.ConfirmsOnly key how)
    (parked : (session.settlements.take key).1 = some released)
    (done : (drain steps (session.accept confirming context)).isIdle = true) :
    ∃ later, Applies ((confirming, context) :: (released, how) :: later) session
      (drain steps (session.accept confirming context)) := by
  have agenda : (session.accept confirming context).agenda = [.dispatch confirming context] := by
    rw [isIdle, Bool.and_eq_true, List.isEmpty_iff] at idle
    exact congrArg (· ++ _) idle.1
  have begun : (session.accept confirming context).isIdle = false := by
    rw [isIdle, agenda]
    rfl
  cases steps with
  | zero => exact absurd done (Bool.eq_false_iff.mp begun)
  | succ steps =>
      rw [drain, begun, if_neg Bool.false_ne_true] at done ⊢
      have accepted := Applies.accept live confirming context
      have confirmed : Applies [(confirming, context)] session
          (session.accept confirming context).step := by
        rw [step_eq_apply agenda]
        exact accepted.trans (Applies.apply accepted.live agenda)
      obtain ⟨taken, drained⟩ := Applies.drain confirmed.live steps
      obtain ⟨more, order⟩ := drained.ready
      rw [ready_of_isIdle done, List.append_nil,
        ready_confirmed accepted.live only parked agenda] at order
      have released : taken = (released, how) :: more := order
      exact ⟨more, released ▸ confirmed.trans drained⟩

/-- When a confirmation of nothing else releases a bundle, the bundle is applied next and
writes once more what it wrote when it was applied first. So the user state stays as it was,
where no later bundle writes either, if and only if it still has all that. -/
theorem release_merges_again {session : Session W} {confirming released : Bundle}
    {key : SettlementKey} {how context : DispatchContext} {steps : Nat}
    (live : session.hasSession = true) (idle : session.isIdle = true)
    (only : confirming.ConfirmsOnly key how)
    (parked : (session.settlements.take key).1 = some released)
    (done : (drain steps (session.accept confirming context)).isIdle = true) :
    let last := drain steps (session.accept confirming context)
    ∃ later, last.outbox.applied =
        session.outbox.applied ++ (confirming, context) :: (released, how) :: later ∧
      last.owner.userState = (later.map Prod.fst).foldl UserState.absorb
        (session.owner.userState.absorb released) ∧
      ((∀ entry ∈ later, entry.1.stateDelta = none ∧ entry.1.deletions = []) →
        (last.owner.userState = session.owner.userState ↔
          session.owner.userState.Holds released)) := by
  intro last
  obtain ⟨later, whole⟩ := applies_released live idle only parked done
  have userState : last.owner.userState = (later.map Prod.fst).foldl UserState.absorb
      (session.owner.userState.absorb released) := by
    rw [whole.userState]
    change (later.map Prod.fst).foldl UserState.absorb
      ((session.owner.userState.absorb confirming).absorb released) = _
    rw [only.absorb]
  refine ⟨later, whole.applied, userState, ?_⟩
  intro silent
  rw [userState, UserState.foldl_absorb_of_silent _ (List.forall_mem_map.mpr silent)]
  exact UserState.absorb_eq_self

def writesOne : Bundle where
  stateDelta := some [161, 97, 107, 65, 1]
  messages := [{ index := some "42" }]
  settlement := some ⟨"settle", [1]⟩

def writesTwo : Bundle where
  stateDelta := some [161, 97, 107, 65, 2]

def rewritingMoves : List (Move Bench) :=
  [.perform (.start "broker" twelveWords {}), .perform (.dispatch writesOne {}), .step,
    .perform (.dispatch writesTwo {}), .step]

/-- A bundle is parked, and what it wrote has been written over. -/
def rewrittenRun : Session Bench :=
  rewritingMoves.foldl move (new .test (.new 7))

theorem rewrittenRun_reached : Reaches (new .test (.new 7)) rewrittenRun :=
  Reaches.here.moves (by decide +kernel)

theorem settlesFortyTwo_confirmsOnly :
    settlesFortyTwo.ConfirmsOnly (.index "42") .settled := by
  have reads : SettledStatus.parse "\x7b\"htlc_id\":\"42\",\"status\":\"COMPLETE\"\x7d" =
      .ok ⟨"42", completeStatus⟩ := by decide +kernel
  exact .settled reads rfl

theorem release_merges_again_rewrittenRun :
    rewrittenRun.isIdle = true ∧
      (rewrittenRun.settlements.take (.index "42")).1 = some writesOne ∧
      ∃ later : List (Bundle × DispatchContext),
        (drain 2 (rewrittenRun.accept settlesFortyTwo {})).owner.userState =
          (later.map Prod.fst).foldl UserState.absorb
            (rewrittenRun.owner.userState.absorb writesOne) := by
  have idle : rewrittenRun.isIdle = true := by decide +kernel
  have parked : (rewrittenRun.settlements.take (.index "42")).1 = some writesOne := by
    decide +kernel
  have done : (drain 2 (rewrittenRun.accept settlesFortyTwo {})).isIdle = true := by
    decide +kernel
  obtain ⟨later, -, userState, -⟩ := release_merges_again (by decide +kernel) idle
    settlesFortyTwo_confirmsOnly parked done
  exact ⟨idle, parked, later, userState⟩

/-- The confirmation of a settlement takes the user state back to what the settled bundle
once wrote. -/
theorem rolled_back_by_release :
    Reaches (new .test (.new 7)) rewrittenRun ∧ rewrittenRun.isIdle = true ∧
      settlesFortyTwo.ConfirmsOnly (.index "42") .settled ∧
      (rewrittenRun.settlements.take (.index "42")).1 = some writesOne ∧
      (drain 2 (rewrittenRun.accept settlesFortyTwo {})).isIdle = true ∧
      rewrittenRun.owner.userState.get? "k" = some [2] ∧
      (drain 2 (rewrittenRun.accept settlesFortyTwo {})).owner.userState.get? "k" =
        some [1] := by
  refine ⟨rewrittenRun_reached, ?_, settlesFortyTwo_confirmsOnly, ?_, ?_, ?_, ?_⟩
  all_goals decide +kernel

end Session

end Messenger

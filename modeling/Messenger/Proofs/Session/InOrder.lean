import Messenger.Proofs.Session.History

/-!
The order of a queue that also takes back what was parked. Bundles that come in with nothing
to skip are applied one after another, each of them once, and what is not applied yet is
ready.
-/

namespace Messenger

section AfterLast

variable {α : Type} {isMark : α → Bool}

/-- What comes after the last mark. -/
def afterLast (isMark : α → Bool) (list : List α) : List α :=
  list.foldl (fun rest next => if isMark next then [] else rest ++ [next]) []

theorem afterLast_mark (list : List α) {mark : α} (marks : isMark mark = true) :
    afterLast isMark (list ++ [mark]) = [] := by
  rw [afterLast, List.foldl_append, List.foldl_cons, if_pos marks, List.foldl_nil]

theorem afterLast_append (list : List α) {more : List α}
    (unmarked : ∀ next ∈ more, isMark next = false) :
    afterLast isMark (list ++ more) = afterLast isMark list ++ more := by
  induction more generalizing list with
  | nil => rw [List.append_nil, List.append_nil]
  | cons next rest induction =>
      have ⟨first, others⟩ := List.forall_mem_cons.mp unmarked
      have one : afterLast isMark (list ++ [next]) = afterLast isMark list ++ [next] := by
        rw [afterLast, List.foldl_append, List.foldl_cons, if_neg (by simp [first])]
        rfl
      rw [List.append_cons, induction (list ++ [next]) others, one, ← List.append_cons]

end AfterLast

namespace Happening

def isOpening : Happening → Bool
  | .opened => true
  | _ => false

def received? : Happening → Option (Bundle × DispatchContext)
  | .received bundle context _ => some (bundle, context)
  | _ => none

def applied? : Happening → Option (Bundle × DispatchContext)
  | .applied bundle context => some (bundle, context)
  | _ => none

end Happening

/-- A bundle that is not taken up again after a confirmation. -/
def isFresh (entry : Bundle × DispatchContext) : Bool :=
  !entry.2.skipSettlement

namespace Outbox

def sinceOpened (outbox : Outbox) : List Happening :=
  afterLast Happening.isOpening outbox.history

def received (outbox : Outbox) : List (Bundle × DispatchContext) :=
  outbox.sinceOpened.filterMap Happening.received?

def applied (outbox : Outbox) : List (Bundle × DispatchContext) :=
  outbox.sinceOpened.filterMap Happening.applied?

/-- Since the account was opened, what came in fresh has been applied in that order or is
ready, in that order too. -/
def InOrder (outbox : Outbox) : Prop :=
  outbox.live = true →
    (outbox.applied ++ outbox.ready).filter isFresh = outbox.received.filter isFresh

variable {first last outbox : Outbox}

theorem applied_grown {more : List Happening} (history : last.history = first.history ++ more)
    (unopened : ∀ happening ∈ more, happening.isOpening = false) :
    last.applied = first.applied ++ more.filterMap Happening.applied? := by
  rw [applied, sinceOpened, history, afterLast_append _ unopened, List.filterMap_append]
  rfl

theorem received_grown {more : List Happening} (history : last.history = first.history ++ more)
    (unopened : ∀ happening ∈ more, happening.isOpening = false) :
    last.received = first.received ++ more.filterMap Happening.received? := by
  rw [received, sinceOpened, history, afterLast_append _ unopened, List.filterMap_append]
  rfl

/-- Attempts are made, and what is put behind the ready bundles is not fresh. -/
structure Behind (first last : Outbox) : Prop where
  live : last.live = first.live
  ready : ∃ more, last.ready = first.ready ++ more ∧ more.filter isFresh = []
  history : ∃ more, last.history = first.history ++ more ∧
    ∀ happening ∈ more, ∃ publish time, happening = .attempted publish time

namespace Behind

variable {middle : Outbox}

theorem of_same (live : last.live = first.live) (ready : last.ready = first.ready)
    (history : last.history = first.history) : Behind first last :=
  ⟨live, ⟨[], by rw [ready, List.append_nil], rfl⟩, [], by rw [history, List.append_nil],
    fun _ member => absurd member List.not_mem_nil⟩

theorem refl (outbox : Outbox) : Behind outbox outbox :=
  of_same rfl rfl rfl

theorem trans (start : Behind first middle) (rest : Behind middle last) :
    Behind first last := by
  obtain ⟨early, earlyEq, earlyStale⟩ := start.ready
  obtain ⟨late, lateEq, lateStale⟩ := rest.ready
  obtain ⟨before, beforeEq, beforeTried⟩ := start.history
  obtain ⟨after, afterEq, afterTried⟩ := rest.history
  refine ⟨rest.live.trans start.live, ⟨early ++ late, ?_, ?_⟩, before ++ after, ?_, ?_⟩
  · rw [lateEq, earlyEq, List.append_assoc]
  · rw [List.filter_append, earlyStale, lateStale, List.append_nil]
  · rw [afterEq, beforeEq, List.append_assoc]
  · intro happening member
    exact (List.mem_append.mp member).elim (beforeTried happening) (afterTried happening)

theorem attempt (outbox : Outbox) (publish : Publish) :
    Behind outbox (outbox.attempt publish) :=
  ⟨rfl, ⟨[], (List.append_nil _).symm, rfl⟩, [.attempted publish outbox.now], rfl,
    List.forall_mem_singleton.mpr ⟨publish, outbox.now, rfl⟩⟩

theorem attemptAll (publishes : List Publish) (outbox : Outbox) :
    Behind outbox (publishes.foldl Outbox.attempt outbox) := by
  induction publishes generalizing outbox with
  | nil => exact refl outbox
  | cons publish rest induction => exact (attempt outbox publish).trans (induction _)

theorem release (outbox : Outbox) (key : SettlementKey) {context : DispatchContext}
    (stale : context.skipSettlement = true) :
    Behind outbox (outbox.release key context) := by
  rcases outbox.release_cases key context with ⟨-, same⟩ | ⟨released, -, -, same⟩
  · rw [same]
    exact of_same rfl rfl rfl
  · rw [same]
    refine ⟨rfl, ⟨[(released, context)], rfl, ?_⟩, [], (List.append_nil _).symm,
      fun _ member => absurd member List.not_mem_nil⟩
    simp [isFresh, stale]

theorem releaseAll {confirmations : List (SettlementKey × DispatchContext)}
    (stale : ∀ confirmation ∈ confirmations, confirmation.2.skipSettlement = true)
    (outbox : Outbox) :
    Behind outbox (confirmations.foldl
      (fun outbox confirmation => outbox.release confirmation.1 confirmation.2) outbox) := by
  induction confirmations generalizing outbox with
  | nil => exact refl outbox
  | cons confirmation rest induction =>
      have ⟨now, later⟩ := List.forall_mem_cons.mp stale
      exact (release outbox confirmation.1 now).trans (induction later _)

theorem continuePublishing (outbox : Outbox) (bundle : Bundle) (context : DispatchContext) :
    Behind outbox (outbox.continuePublishing bundle context) := by
  unfold Outbox.continuePublishing
  split
  · split
    · exact (attempt outbox _).trans (of_same rfl rfl rfl)
    · exact attemptAll bundle.publishes outbox
  · exact refl outbox

theorem publishPhase (outbox : Outbox) (bundle : Bundle) (context : DispatchContext) :
    Behind outbox (outbox.publishPhase bundle context) := by
  unfold Outbox.publishPhase
  split
  · exact refl outbox
  · split
    · exact (attempt outbox _).trans (of_same rfl rfl rfl)
    · split
      · exact (attempt outbox _).trans (of_same rfl rfl rfl)
      · exact continuePublishing outbox bundle context

theorem applied (behind : Behind first last) : last.applied = first.applied := by
  obtain ⟨more, grown, tried⟩ := behind.history
  rw [applied_grown grown]
  · rw [List.filterMap_eq_nil_iff.mpr, List.append_nil]
    intro happening member
    obtain ⟨publish, time, rfl⟩ := tried happening member
    rfl
  · intro happening member
    obtain ⟨publish, time, rfl⟩ := tried happening member
    rfl

theorem received (behind : Behind first last) : last.received = first.received := by
  obtain ⟨more, grown, tried⟩ := behind.history
  rw [received_grown grown]
  · rw [List.filterMap_eq_nil_iff.mpr, List.append_nil]
    intro happening member
    obtain ⟨publish, time, rfl⟩ := tried happening member
    rfl
  · intro happening member
    obtain ⟨publish, time, rfl⟩ := tried happening member
    rfl

end Behind

theorem InOrder.behind (inOrder : first.InOrder) (behind : Behind first last) :
    last.InOrder := by
  intro live
  obtain ⟨more, ready, stale⟩ := behind.ready
  have before := inOrder (behind.live ▸ live)
  rw [behind.applied, behind.received, ready, ← before, ← List.append_assoc,
    List.filter_append, stale, List.append_nil]

theorem InOrder.apply (inOrder : outbox.InOrder) {bundle : Bundle}
    {context : DispatchContext} {ready : List (Bundle × DispatchContext)}
    (next : outbox.ready = (bundle, context) :: ready) :
    ({ outbox with ready }.apply bundle context).InOrder := by
  unfold Outbox.apply
  split
  · have noted : ({ outbox with ready }.note (.applied bundle context)).InOrder := by
      intro live
      have before := inOrder live
      have applied : ({ outbox with ready }.note (.applied bundle context)).applied =
          outbox.applied ++ [(bundle, context)] :=
        @applied_grown outbox _ [.applied bundle context] rfl
          (List.forall_mem_singleton.mpr rfl)
      have received : ({ outbox with ready }.note (.applied bundle context)).received =
          outbox.received ++ [] :=
        @received_grown outbox _ [.applied bundle context] rfl
          (List.forall_mem_singleton.mpr rfl)
      rw [applied, received, List.append_nil, ← before, next, List.append_assoc,
        List.singleton_append]
      rfl
    exact (noted.behind (.releaseAll bundle.confirmations_settled _)).behind
      (.publishPhase _ bundle context)
  · rename_i dead
    exact fun live => absurd live dead

theorem Step.inOrder (step : Step first last) (inOrder : first.InOrder) : last.InOrder := by
  cases step with
  | accept bundle context =>
      intro live
      have before := inOrder live
      have applied : (first.accept bundle context).applied = first.applied ++ [] :=
        @applied_grown first _ [.received bundle context first.live] rfl
          (List.forall_mem_singleton.mpr rfl)
      have received : (first.accept bundle context).received =
          first.received ++ [(bundle, context)] :=
        @received_grown first _ [.received bundle context first.live] rfl
          (List.forall_mem_singleton.mpr rfl)
      have ready : (first.accept bundle context).ready = first.ready ++ [(bundle, context)] :=
        rfl
      rw [applied, received, List.append_nil, ready, ← List.append_assoc, List.filter_append,
        before, ← List.filter_append]
  | apply next => exact inOrder.apply next
  | @wake waiting delayed next due =>
      have popped : { first with delayed }.InOrder := inOrder
      exact popped.behind (.continuePublishing _ waiting.bundle waiting.context)
  | opened done =>
      intro live
      have since : first.opened.sinceOpened = [] := afterLast_mark first.history rfl
      have ready : first.opened.ready = [] := done
      rw [applied, received, since, ready]
      rfl
  | closed done => exact fun live => absurd live Bool.false_ne_true
  | pass millis => exact inOrder

theorem Steps.inOrder (steps : Steps first last) (inOrder : first.InOrder) :
    last.InOrder := by
  induction steps with
  | refl => exact inOrder
  | tail _ step induction => exact step.inOrder induction

end Outbox

end Messenger

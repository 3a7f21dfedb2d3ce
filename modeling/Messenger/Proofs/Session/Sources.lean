import Messenger.Proofs.Session.History

/-!
Where the bundles come from that are applied. Each has come in as it is applied, once for
each time, or else it was parked before and is taken up again after a confirmation.
-/

namespace Messenger

/-- How a bundle is applied that a confirmation released. -/
def DispatchContext.isRelease (context : DispatchContext) : Bool :=
  context = .settled || context = .asyncPaid

def Happening.applicationOf? (bundle : Bundle) : Happening → Option DispatchContext
  | .applied other context => if other = bundle then some context else none
  | _ => none

/-- How the bundle was applied each time. -/
def Bundle.applications (bundle : Bundle) (history : List Happening) :
    List DispatchContext :=
  history.filterMap (Happening.applicationOf? bundle)

theorem Bundle.applications_concat (bundle : Bundle) (history : List Happening)
    (happening : Happening) :
    bundle.applications (history ++ [happening]) =
      bundle.applications history ++ (happening.applicationOf? bundle).toList := by
  rw [applications, List.filterMap_append]
  cases applied : happening.applicationOf? bundle <;> simp [applications, applied]

theorem Bundle.receptions_concat (bundle : Bundle) (history : List Happening)
    (happening : Happening) :
    bundle.receptions (history ++ [happening]) =
      bundle.receptions history ++ (happening.receptionOf? bundle).toList := by
  rw [receptions_append]
  cases received : happening.receptionOf? bundle <;> simp [receptions, received]

theorem Bundle.isRelease_of_confirmations {bundle : Bundle} :
    ∀ confirmation ∈ bundle.confirmations, confirmation.2.isRelease = true := by
  intro confirmation member
  rcases List.mem_append.mp member with byIndex | byTag
  · obtain ⟨index, -, rfl⟩ := Option.map_eq_some_iff.mp (Option.mem_toList.mp byIndex)
    rfl
  · obtain ⟨tag, -, rfl⟩ := Option.map_eq_some_iff.mp (Option.mem_toList.mp byTag)
    rfl

namespace Outbox

variable {first middle last : Outbox} {bundle : Bundle}

/-- Only bundles that are taken up again get ready, and nothing comes in or is applied. -/
structure TakesUp (first last : Outbox) : Prop where
  ready : ∃ more, last.ready = first.ready ++ more ∧ ∀ entry ∈ more, entry.2.isRelease = true
  receptions : ∀ bundle : Bundle,
    bundle.receptions last.history = bundle.receptions first.history
  applications : ∀ bundle : Bundle,
    bundle.applications last.history = bundle.applications first.history

namespace TakesUp

theorem of_same (ready : last.ready = first.ready) (history : last.history = first.history) :
    TakesUp first last :=
  ⟨⟨[], by rw [ready, List.append_nil], fun _ member => absurd member List.not_mem_nil⟩,
    fun _ => by rw [history], fun _ => by rw [history]⟩

theorem trans (start : TakesUp first middle) (rest : TakesUp middle last) :
    TakesUp first last := by
  obtain ⟨early, earlyEq, earlyReleased⟩ := start.ready
  obtain ⟨late, lateEq, lateReleased⟩ := rest.ready
  constructor
  case ready =>
    refine ⟨early ++ late, by rw [lateEq, earlyEq, List.append_assoc], ?_⟩
    exact List.forall_mem_append.mpr ⟨earlyReleased, lateReleased⟩
  case receptions =>
    intro bundle
    rw [rest.receptions, start.receptions]
  case applications =>
    intro bundle
    rw [rest.applications, start.applications]

theorem attempt (outbox : Outbox) (publish : Publish) :
    TakesUp outbox (outbox.attempt publish) := by
  constructor
  case ready =>
    exact ⟨[], (List.append_nil _).symm, fun _ member => absurd member List.not_mem_nil⟩
  case receptions =>
    intro bundle
    rw [Outbox.attempt, Outbox.note, Bundle.receptions_concat]
    exact List.append_nil _
  case applications =>
    intro bundle
    rw [Outbox.attempt, Outbox.note, Bundle.applications_concat]
    exact List.append_nil _

theorem attemptAll (publishes : List Publish) (outbox : Outbox) :
    TakesUp outbox (publishes.foldl Outbox.attempt outbox) := by
  induction publishes generalizing outbox with
  | nil => exact of_same rfl rfl
  | cons publish rest induction => exact (attempt outbox publish).trans (induction _)

theorem release (outbox : Outbox) (key : SettlementKey) {context : DispatchContext}
    (releases : context.isRelease = true) : TakesUp outbox (outbox.release key context) := by
  rcases outbox.release_cases key context with ⟨-, same⟩ | ⟨released, -, -, same⟩
  · rw [same]
    exact of_same rfl rfl
  · rw [same]
    exact ⟨⟨_, rfl, List.forall_mem_singleton.mpr releases⟩, fun _ => rfl, fun _ => rfl⟩

theorem confirm (outbox : Outbox) (bundle : Bundle) :
    TakesUp outbox (outbox.confirm bundle) := by
  have releases := bundle.isRelease_of_confirmations
  unfold Outbox.confirm
  generalize bundle.confirmations = confirmations at releases
  induction confirmations generalizing outbox with
  | nil => exact of_same rfl rfl
  | cons confirmation rest induction =>
      have ⟨own, others⟩ := List.forall_mem_cons.mp releases
      exact (release outbox confirmation.1 own).trans (induction _ others)

theorem continuePublishing (outbox : Outbox) (bundle : Bundle) (context : DispatchContext) :
    TakesUp outbox (outbox.continuePublishing bundle context) := by
  unfold Outbox.continuePublishing
  split
  · split
    · exact (attempt outbox _).trans (of_same rfl rfl)
    · exact attemptAll bundle.publishes outbox
  · exact of_same rfl rfl

theorem publishPhase (outbox : Outbox) (bundle : Bundle) (context : DispatchContext) :
    TakesUp outbox (outbox.publishPhase bundle context) := by
  unfold Outbox.publishPhase
  split
  · exact of_same rfl rfl
  · split
    · exact (attempt outbox _).trans (of_same rfl rfl)
    · split
      · exact (attempt outbox _).trans (of_same rfl rfl)
      · exact continuePublishing outbox bundle context

end TakesUp

/-- A bundle that is ready has come in like this or is taken up again. -/
def Sourced (outbox : Outbox) : Prop :=
  ∀ entry ∈ outbox.ready, (∃ live, (entry.2, live) ∈ entry.1.receptions outbox.history) ∨
    entry.2.isRelease = true

/-- Whether a ready bundle is this one and is not taken up again. -/
def isOriginal (bundle : Bundle) (entry : Bundle × DispatchContext) : Bool :=
  entry.1 = bundle && !entry.2.isRelease

/-- A bundle is applied, or ready, no more often than it came in, not counting when it is
taken up again. -/
def Counted (bundle : Bundle) (outbox : Outbox) : Prop :=
  (bundle.applications outbox.history).countP (!·.isRelease) +
    outbox.ready.countP (isOriginal bundle) ≤ (bundle.receptions outbox.history).length

theorem Sourced.takesUp (sourced : first.Sourced) (takesUp : TakesUp first last) :
    last.Sourced := by
  obtain ⟨more, grown, released⟩ := takesUp.ready
  intro entry member
  rw [grown] at member
  rcases List.mem_append.mp member with inside | later
  · rw [takesUp.receptions]
    exact sourced entry inside
  · exact Or.inr (released entry later)

theorem Counted.takesUp (counted : first.Counted bundle) (takesUp : TakesUp first last) :
    last.Counted bundle := by
  obtain ⟨more, grown, released⟩ := takesUp.ready
  have none : more.countP (isOriginal bundle) = 0 := by
    rw [List.countP_eq_zero]
    intro entry member
    simp [isOriginal, released entry member]
  unfold Counted
  rw [takesUp.applications, takesUp.receptions, grown, List.countP_append, none]
  exact counted

theorem Step.sourced (step : Step first last) (sourced : first.Sourced) : last.Sourced := by
  have kept {history : List Happening} (grown : first.history <+: history)
      {entry : Bundle × DispatchContext} (member : entry ∈ first.ready) :
      (∃ live, (entry.2, live) ∈ entry.1.receptions history) ∨ entry.2.isRelease = true := by
    rcases sourced entry member with ⟨live, received⟩ | released
    · exact Or.inl ⟨live, (grown.filterMap _).subset received⟩
    · exact Or.inr released
  cases step with
  | accept bundle context =>
      intro entry member
      rcases List.mem_append.mp member with before | own
      · exact kept (List.prefix_append _ _) before
      · obtain rfl := List.mem_singleton.mp own
        refine Or.inl ⟨first.live, ?_⟩
        change _ ∈ bundle.receptions (first.history ++ [.received bundle context first.live])
        simp [Bundle.receptions_concat, Happening.receptionOf?]
  | @apply bundle context ready next =>
      unfold Outbox.apply
      split
      · have noted : ({ first with ready }.note (.applied bundle context)).Sourced :=
          fun entry member => kept (List.prefix_append _ _) (next ▸ List.mem_cons_of_mem _ member)
        exact (noted.takesUp (.confirm _ bundle)).takesUp (.publishPhase _ bundle context)
      · exact fun entry member =>
          kept (List.prefix_refl _) (next ▸ List.mem_cons_of_mem _ member)
  | @wake waiting delayed next due =>
      have popped : { first with delayed }.Sourced := sourced
      exact popped.takesUp (.continuePublishing _ waiting.bundle waiting.context)
  | opened done => exact fun entry member => kept (List.prefix_append _ _) member
  | closed done => exact fun entry member => kept (List.prefix_append _ _) member
  | pass millis => exact sourced

theorem Steps.sourced (steps : Steps first last) (sourced : first.Sourced) : last.Sourced := by
  induction steps with
  | refl => exact sourced
  | tail _ step induction => exact step.sourced induction

theorem Counted.accept (counted : first.Counted bundle) (other : Bundle)
    (context : DispatchContext) : (first.accept other context).Counted bundle := by
  unfold Counted at counted
  change (bundle.applications (first.history ++ [.received other context first.live])).countP _ +
    (first.ready ++ [(other, context)]).countP _ ≤
      (bundle.receptions (first.history ++ [.received other context first.live])).length
  rw [Bundle.applications_concat, Bundle.receptions_concat, List.countP_append,
    List.countP_append, List.length_append]
  by_cases same : other = bundle
  · have ready : [(other, context)].countP (isOriginal bundle) ≤ 1 := List.countP_le_length
    simp only [Happening.applicationOf?, Happening.receptionOf?, if_pos same,
      Option.toList_none, Option.toList_some, List.countP_nil, List.length_singleton]
    omega
  · simpa [Happening.applicationOf?, Happening.receptionOf?, isOriginal, same] using counted

theorem Counted.apply (counted : first.Counted bundle) {other : Bundle}
    {context : DispatchContext} {ready : List (Bundle × DispatchContext)}
    (next : first.ready = (other, context) :: ready) :
    ({ first with ready }.apply other context).Counted bundle := by
  unfold Counted at counted
  rw [next, List.countP_cons] at counted
  unfold Outbox.apply
  split
  · have noted : ({ first with ready }.note (.applied other context)).Counted bundle := by
      change (bundle.applications (first.history ++ [.applied other context])).countP _ +
        ready.countP _ ≤ (bundle.receptions (first.history ++ [.applied other context])).length
      rw [Bundle.applications_concat, Bundle.receptions_concat, List.countP_append]
      by_cases same : other = bundle
      · subst same
        simp only [Happening.applicationOf?, Happening.receptionOf?, isOriginal, eq_self,
          if_true, decide_true, Bool.true_and, Option.toList_none, Option.toList_some,
          List.append_nil, List.countP_singleton] at counted ⊢
        omega
      · simpa [Happening.applicationOf?, Happening.receptionOf?, isOriginal, same]
          using counted
    exact (noted.takesUp (.confirm _ other)).takesUp (.publishPhase _ other context)
  · unfold Counted
    dsimp only
    omega

theorem Counted.noting (counted : first.Counted bundle) {happening : Happening}
    (ready : last.ready = first.ready) (history : last.history = first.history ++ [happening])
    (applied : happening.applicationOf? bundle = none)
    (received : happening.receptionOf? bundle = none) : last.Counted bundle := by
  unfold Counted
  rw [ready, history, Bundle.applications_concat, Bundle.receptions_concat, applied, received,
    Option.toList_none, Option.toList_none, List.append_nil, List.append_nil]
  exact counted

theorem Step.counted (step : Step first last) (counted : first.Counted bundle) :
    last.Counted bundle := by
  cases step with
  | accept other context => exact counted.accept other context
  | apply next => exact counted.apply next
  | @wake waiting delayed next due =>
      have popped : { first with delayed }.Counted bundle := counted
      exact popped.takesUp (.continuePublishing _ waiting.bundle waiting.context)
  | opened done => exact counted.noting rfl rfl rfl rfl
  | closed done => exact counted.noting rfl rfl rfl rfl
  | pass millis => exact counted

theorem Steps.counted (steps : Steps first last) (counted : first.Counted bundle) :
    last.Counted bundle := by
  induction steps with
  | refl => exact counted
  | tail _ step induction => exact step.counted induction

end Outbox

namespace Session

variable {W : Type} [Surroundings W] {session : Session W} {bundle : Bundle}
  {context : DispatchContext} {rest : List Work}

theorem step_eq_apply (next : session.agenda = .dispatch bundle context :: rest) :
    session.step = { session with agenda := rest }.apply bundle context := by
  unfold step
  rw [next]
  rfl

/-- A step that applies a bundle confirms what the bundle confirms, and then publishes. -/
theorem outbox_step_dispatch (next : session.agenda = .dispatch bundle context :: rest)
    (live : session.hasSession = true) :
    session.step.outbox =
      (({ session.outbox with ready := rest.filterMap Work.dispatch? }.note
        (.applied bundle context)).confirm bundle).publishPhase bundle context := by
  have applied := outbox_apply { session with agenda := rest } bundle context
  rw [step_eq_apply next, applied]
  exact if_pos live

theorem history_step_dispatch (next : session.agenda = .dispatch bundle context :: rest)
    (live : session.hasSession = true) :
    session.history ++ [.applied bundle context] <+: session.step.history := by
  let noted : Outbox := { session.outbox with ready := rest.filterMap Work.dispatch? }.note
    (.applied bundle context)
  have handled : Outbox.Handles bundle noted session.step.outbox := by
    rw [outbox_step_dispatch next live]
    exact (Outbox.Handles.confirm bundle noted).trans (.publishPhase _ context)
  exact handled.history

end Session

end Messenger

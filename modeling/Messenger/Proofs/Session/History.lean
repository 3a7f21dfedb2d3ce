import Mathlib.Tactic.Tauto
import Messenger.Proofs.Session.Moves

/-!
The history of an outbox only grows, and every bundle in an outbox has been received. Seen
from one bundle the history is made of its receptions and of the attempts on its topics.
-/

namespace Messenger

namespace Bundle

def outgoing (bundle : Bundle) : List Publish :=
  bundle.settlement.toList ++ bundle.register.toList ++ bundle.asyncPay.toList ++
    bundle.publishes

def topics (bundle : Bundle) : List String :=
  bundle.outgoing.map Publish.topic

def Confirms (confirming bundle : Bundle) : Prop :=
  ∃ confirmation ∈ confirming.confirmations, confirmation.1.names bundle = true

/-- What a confirmation releases has its settlement behind it. -/
theorem confirmations_settled (bundle : Bundle) :
    ∀ confirmation ∈ bundle.confirmations, confirmation.2.skipSettlement = true := by
  intro confirmation member
  cases List.mem_append.mp member with
  | inl byIndex =>
      obtain ⟨index, -, rfl⟩ := Option.map_eq_some_iff.mp (Option.mem_toList.mp byIndex)
      rfl
  | inr byTag =>
      obtain ⟨tag, -, rfl⟩ := Option.map_eq_some_iff.mp (Option.mem_toList.mp byTag)
      rfl

theorem topic_mem_topics {bundle : Bundle} {publish : Publish}
    (member : publish ∈ bundle.outgoing) : publish.topic ∈ bundle.topics :=
  List.mem_map_of_mem member

theorem settlement_mem_outgoing {bundle : Bundle} {publish : Publish}
    (some : bundle.settlement = some publish) : publish ∈ bundle.outgoing := by
  simp [outgoing, some]

theorem register_mem_outgoing {bundle : Bundle} {publish : Publish}
    (some : bundle.register = some publish) : publish ∈ bundle.outgoing := by
  simp [outgoing, some]

theorem asyncPay_mem_outgoing {bundle : Bundle} {publish : Publish}
    (some : bundle.asyncPay = some publish) : publish ∈ bundle.outgoing := by
  simp [outgoing, some]

theorem publishes_mem_outgoing {bundle : Bundle} {publish : Publish}
    (member : publish ∈ bundle.publishes) : publish ∈ bundle.outgoing := by
  simp [outgoing, member]

end Bundle

namespace Happening

def receptionOf? (bundle : Bundle) : Happening → Option (DispatchContext × Bool)
  | .received other context live => if other = bundle then some (context, live) else none
  | _ => none

def attemptFor? (bundle : Bundle) : Happening → Option Publish
  | .attempted publish _ => if publish.topic ∈ bundle.topics then some publish else none
  | _ => none

end Happening

namespace Bundle

/-- How the bundle was received each time, and whether an account was live. -/
def receptions (bundle : Bundle) (history : List Happening) :
    List (DispatchContext × Bool) :=
  history.filterMap (Happening.receptionOf? bundle)

def attempts (bundle : Bundle) (history : List Happening) : List Publish :=
  history.filterMap (Happening.attemptFor? bundle)

theorem receptions_append (bundle : Bundle) (history more : List Happening) :
    bundle.receptions (history ++ more) =
      bundle.receptions history ++ bundle.receptions more :=
  List.filterMap_append

theorem attempts_append (bundle : Bundle) (history more : List Happening) :
    bundle.attempts (history ++ more) = bundle.attempts history ++ bundle.attempts more :=
  List.filterMap_append

end Bundle

namespace Outbox

def bundles (outbox : Outbox) : List Bundle :=
  outbox.ready.map Prod.fst ++ outbox.parked.pending ++ outbox.delayed.map Waiting.bundle

/-- What handling a bundle does: the history goes on, and no other bundle comes in. -/
structure Handles (bundle : Bundle) (first last : Outbox) : Prop where
  history : first.history <+: last.history
  bundles : ∀ other ∈ last.bundles, other = bundle ∨ other ∈ first.bundles

namespace Handles

variable {bundle : Bundle} {first middle last : Outbox}

theorem refl (outbox : Outbox) : Handles bundle outbox outbox :=
  ⟨List.prefix_refl _, fun _ => Or.inr⟩

theorem trans (start : Handles bundle first middle) (rest : Handles bundle middle last) :
    Handles bundle first last := by
  refine ⟨start.history.trans rest.history, ?_⟩
  intro other member
  cases rest.bundles other member with
  | inl same => exact Or.inl same
  | inr inside => exact start.bundles other inside

theorem note (outbox : Outbox) (happening : Happening) :
    Handles bundle outbox (outbox.note happening) :=
  ⟨List.prefix_append _ _, fun _ => Or.inr⟩

theorem attempt (outbox : Outbox) (publish : Publish) :
    Handles bundle outbox (outbox.attempt publish) :=
  note outbox _

theorem attemptAll (publishes : List Publish) (outbox : Outbox) :
    Handles bundle outbox (publishes.foldl Outbox.attempt outbox) := by
  induction publishes generalizing outbox with
  | nil => exact refl outbox
  | cons publish rest induction =>
      exact (attempt outbox publish).trans (induction (outbox.attempt publish))

theorem accept (outbox : Outbox) (context : DispatchContext) :
    Handles bundle outbox (outbox.accept bundle context) := by
  refine ⟨List.prefix_append _ _, ?_⟩
  intro other member
  simp only [Outbox.bundles, Outbox.accept, Outbox.note, List.map_append, List.mem_append,
    List.map_cons, List.map_nil, List.mem_singleton] at member ⊢
  tauto

theorem park (outbox : Outbox) : Handles bundle outbox (outbox.park bundle) := by
  refine ⟨List.prefix_refl _, ?_⟩
  intro other member
  simp only [Outbox.bundles, Outbox.park, SettlementQueue.enqueue, List.mem_append,
    List.mem_singleton] at member ⊢
  tauto

theorem delay (outbox : Outbox) (context : DispatchContext) :
    Handles bundle outbox (outbox.delay bundle context) := by
  refine ⟨List.prefix_refl _, ?_⟩
  intro other member
  simp only [Outbox.bundles, Outbox.delay, List.map_append, List.mem_append,
    List.map_cons, List.map_nil, List.mem_singleton] at member ⊢
  tauto

theorem release (outbox : Outbox) (key : SettlementKey) (context : DispatchContext) :
    Handles bundle outbox (outbox.release key context) := by
  have remains {other : Bundle} (member : other ∈ (outbox.parked.take key).2.pending) :
      other ∈ outbox.parked.pending := (List.mem_filter.mp member).1
  rcases outbox.release_cases key context with ⟨-, same⟩ | ⟨released, waited, -, same⟩
  · rw [same]
    refine ⟨List.prefix_refl _, ?_⟩
    intro other member
    simp only [Outbox.bundles, List.mem_append] at member ⊢
    exact Or.inr (member.imp (Or.imp id remains) id)
  · rw [same]
    refine ⟨List.prefix_refl _, ?_⟩
    intro other member
    simp only [Outbox.bundles, List.map_append, List.mem_append, List.map_cons,
      List.map_nil, List.mem_singleton] at member ⊢
    rcases member with ((inside | rfl) | inside) | inside
    · exact Or.inr (Or.inl (Or.inl inside))
    · exact Or.inr (Or.inl (Or.inr waited))
    · exact Or.inr (Or.inl (Or.inr (remains inside)))
    · exact Or.inr (Or.inr inside)

theorem confirm (confirming : Bundle) (outbox : Outbox) :
    Handles bundle outbox (outbox.confirm confirming) := by
  unfold Outbox.confirm
  induction confirming.confirmations generalizing outbox with
  | nil => exact refl outbox
  | cons confirmation rest induction =>
      exact (release outbox confirmation.1 confirmation.2).trans (induction _)

theorem continuePublishing (outbox : Outbox) (context : DispatchContext) :
    Handles bundle outbox (outbox.continuePublishing bundle context) := by
  unfold Outbox.continuePublishing
  split
  · split
    · exact (attempt outbox _).trans (park _)
    · exact attemptAll bundle.publishes outbox
  · exact refl outbox

theorem publishPhase (outbox : Outbox) (context : DispatchContext) :
    Handles bundle outbox (outbox.publishPhase bundle context) := by
  unfold Outbox.publishPhase
  split
  · exact refl outbox
  · split
    · exact (attempt outbox _).trans (park _)
    · split
      · exact (attempt outbox _).trans (delay _ context)
      · exact continuePublishing outbox context

theorem apply (outbox : Outbox) (context : DispatchContext) :
    Handles bundle outbox (outbox.apply bundle context) := by
  unfold Outbox.apply
  split
  · exact ((note outbox _).trans (confirm bundle _)).trans (publishPhase _ context)
  · exact refl outbox

end Handles

def Known (outbox : Outbox) : Prop :=
  ∀ bundle ∈ outbox.bundles,
    ∃ context live, .received bundle context live ∈ outbox.history

theorem Known.of_handles {bundle : Bundle} {first last : Outbox} (known : first.Known)
    (received : ∃ context live, .received bundle context live ∈ last.history)
    (handles : Handles bundle first last) : last.Known := by
  intro other member
  cases handles.bundles other member with
  | inl same => exact same ▸ received
  | inr inside =>
      obtain ⟨context, live, noted⟩ := known other inside
      exact ⟨context, live, handles.history.subset noted⟩

theorem Known.of_subset {first last : Outbox} (known : first.Known)
    (history : first.history <+: last.history) (bundles : last.bundles ⊆ first.bundles) :
    last.Known := by
  intro bundle member
  obtain ⟨context, live, noted⟩ := known bundle (bundles member)
  exact ⟨context, live, history.subset noted⟩

variable {first last : Outbox}

theorem bundles_popReady {entry : Bundle × DispatchContext}
    {ready : List (Bundle × DispatchContext)} (next : first.ready = entry :: ready) :
    { first with ready }.bundles ⊆ first.bundles := by
  intro bundle member
  simp only [bundles, next, List.map_cons, List.mem_append, List.mem_cons] at member ⊢
  tauto

theorem bundles_popDelayed {waiting : Waiting} {delayed : List Waiting}
    (next : first.delayed = waiting :: delayed) :
    { first with delayed }.bundles ⊆ first.bundles := by
  intro bundle member
  simp only [bundles, next, List.map_cons, List.mem_append, List.mem_cons] at member ⊢
  tauto

theorem bundles_closed (outbox : Outbox) : outbox.closed.bundles ⊆ outbox.bundles := by
  intro bundle member
  have emptied : outbox.closed.parked.pending = [] := rfl
  simp only [bundles, emptied, List.mem_append, List.not_mem_nil, or_false] at member ⊢
  exact member.imp Or.inl id

theorem Step.history_prefix (step : Step first last) : first.history <+: last.history := by
  cases step with
  | accept bundle context => exact List.prefix_append _ _
  | @apply bundle context ready next =>
      exact (@Handles.apply bundle { first with ready } context).history
  | @wake waiting delayed next due =>
      exact (Handles.continuePublishing { first with delayed } waiting.context).history
  | opened done => exact List.prefix_append _ _
  | closed done => exact List.prefix_append _ _
  | pass millis => exact List.prefix_refl _

theorem Step.known (step : Step first last) (known : first.Known) : last.Known := by
  cases step with
  | accept bundle context =>
      refine known.of_handles ⟨context, first.live, ?_⟩ (.accept first context)
      exact List.mem_append_right _ List.mem_cons_self
  | @apply bundle context ready next =>
      have handles := @Handles.apply bundle { first with ready } context
      obtain ⟨origin, live, noted⟩ := known bundle (by simp [bundles, next])
      have rest : { first with ready }.Known :=
        known.of_subset (List.prefix_refl _) (bundles_popReady next)
      exact rest.of_handles ⟨origin, live, handles.history.subset noted⟩ handles
  | @wake waiting delayed next due =>
      have handles :=
        @Handles.continuePublishing waiting.bundle { first with delayed } waiting.context
      obtain ⟨origin, live, noted⟩ := known waiting.bundle (by simp [bundles, next])
      have rest : { first with delayed }.Known :=
        known.of_subset (List.prefix_refl _) (bundles_popDelayed next)
      exact rest.of_handles ⟨origin, live, handles.history.subset noted⟩ handles
  | opened done => exact known.of_subset (List.prefix_append _ _) (fun _ => id)
  | closed done => exact known.of_subset (List.prefix_append _ _) (bundles_closed first)
  | pass millis => exact known

theorem Steps.history_prefix (steps : Steps first last) :
    first.history <+: last.history := by
  induction steps with
  | refl => exact List.prefix_refl _
  | tail _ step induction => exact induction.trans step.history_prefix

theorem Steps.known (steps : Steps first last) (known : first.Known) : last.Known := by
  induction steps with
  | refl => exact known
  | tail _ step induction => exact step.known induction

end Outbox

end Messenger

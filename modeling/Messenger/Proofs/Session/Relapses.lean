import Mathlib.Algebra.GroupWithZero.Nat
import Messenger.Proofs.Session.Sources

/-!
What bundles still cost an outbox. A bundle that is applied may be parked, and may take up
two others that were parked. Counted by a weight, that is less than the bundle itself, but
for a relapse: a bundle that is parked again, for its asynchronous payment, and confirms a
settlement.
-/

namespace Messenger

/-- Applied after its settlement, the bundle is parked for its asynchronous payment. -/
def Bundle.parksAgain (bundle : Bundle) (context : DispatchContext) : Bool :=
  context.skipSettlement && !context.skipAsyncPay && bundle.asyncPay.isSome &&
    bundle.register.isNone

/-- A bundle is parked again, and has confirmed a settlement. -/
def Happening.isRelapse : Happening → Bool
  | .applied bundle context => bundle.parksAgain context && bundle.settledIndex?.isSome
  | _ => false

namespace Outbox

def relapses (outbox : Outbox) : Nat :=
  outbox.history.countP Happening.isRelapse

theorem relapses_note (outbox : Outbox) (happening : Happening) :
    (outbox.note happening).relapses = outbox.relapses + happening.isRelapse.toNat := by
  cases relapse : happening.isRelapse <;> simp [relapses, note, relapse]

/-- What applying a bundle is counted as, when a parked bundle counts for three. It is more
than what parking the bundle and taking up others then add, but for a relapse. The empty
bundle counts for nothing, as a call without a scripted answer gets it. -/
def weight (bundle : Bundle) (context : DispatchContext) : Nat :=
  if bundle = {} ∧ context = {} then 0
  else if context.skipSettlement = false then 5
  else if bundle.parksAgain context then 4
  else 2

def load (outbox : Outbox) : Nat :=
  (outbox.ready.map fun entry => weight entry.1 entry.2).sum + 3 * outbox.parked.size

theorem weight_nothing : weight {} {} = 0 :=
  if_pos ⟨rfl, rfl⟩

theorem weight_le (bundle : Bundle) (context : DispatchContext) :
    weight bundle context ≤ 5 := by
  unfold weight
  split
  · omega
  · split
    · omega
    · split <;> omega

theorem weight_settled_le (bundle : Bundle) : weight bundle .settled ≤ 4 := by
  unfold weight
  rw [if_neg (by rintro ⟨-, same⟩; cases same),
    if_neg (by simp [DispatchContext.settled])]
  split <;> omega

theorem weight_asyncPaid (bundle : Bundle) : weight bundle .asyncPaid = 2 := by
  unfold weight
  rw [if_neg (by rintro ⟨-, same⟩; cases same),
    if_neg (by simp [DispatchContext.asyncPaid]),
    if_neg (by simp [Bundle.parksAgain, DispatchContext.asyncPaid])]

/-- One part of an application adds no more than this to what is left to do. -/
structure Costs (cost : Nat) (first last : Outbox) : Prop where
  relapses : last.relapses = first.relapses
  load : last.load ≤ first.load + cost

namespace Costs

variable {cost more : Nat} {first middle last : Outbox}

theorem refl (outbox : Outbox) : Costs 0 outbox outbox :=
  ⟨rfl, Nat.le_refl _⟩

theorem trans (start : Costs cost first middle) (rest : Costs more middle last) :
    Costs (cost + more) first last := by
  refine ⟨rest.relapses.trans start.relapses, ?_⟩
  have early := start.load
  have late := rest.load
  omega

theorem attempt (outbox : Outbox) (publish : Publish) :
    Costs 0 outbox (outbox.attempt publish) :=
  ⟨relapses_note outbox _, Nat.le_refl _⟩

theorem attemptAll (publishes : List Publish) (outbox : Outbox) :
    Costs 0 outbox (publishes.foldl Outbox.attempt outbox) := by
  induction publishes generalizing outbox with
  | nil => exact refl outbox
  | cons publish rest induction => exact (attempt outbox publish).trans (induction _)

theorem park (outbox : Outbox) (bundle : Bundle) : Costs 3 outbox (outbox.park bundle) := by
  refine ⟨rfl, ?_⟩
  simp only [Outbox.load, Outbox.park, SettlementQueue.enqueue, SettlementQueue.size,
    List.length_append, List.length_singleton]
  omega

/-- A bundle that is taken up again is no longer parked. -/
theorem release (outbox : Outbox) (key : SettlementKey) {context : DispatchContext}
    (light : ∀ bundle, weight bundle context ≤ 3 + cost) :
    Costs cost outbox (outbox.release key context) := by
  refine ⟨by rw [Outbox.relapses, release_history, Outbox.relapses], ?_⟩
  rcases outbox.release_cases key context with ⟨-, same⟩ | ⟨released, parked, named, same⟩
  · have fewer : (outbox.parked.take key).2.size ≤ outbox.parked.size :=
      List.length_filter_le _ _
    rw [same, Outbox.load, Outbox.load]
    dsimp only
    omega
  · have fewer : (outbox.parked.take key).2.size < outbox.parked.size :=
      List.length_filter_lt_length_iff_exists.mpr ⟨released, parked, by simp [named]⟩
    have own := light released
    rw [same, Outbox.load, Outbox.load]
    simp only [List.map_append, List.sum_append, List.map_singleton, List.sum_singleton]
    omega

theorem confirm (outbox : Outbox) (bundle : Bundle) :
    Costs bundle.settledIndex?.isSome.toNat outbox (outbox.confirm bundle) := by
  have tag (outbox : Outbox) : Costs 0 outbox
      ((bundle.asyncPayTag.map fun tag =>
        (SettlementKey.tag tag, DispatchContext.asyncPaid)).toList.foldl
        (fun outbox confirmation => outbox.release confirmation.1 confirmation.2)
        outbox) := by
    cases bundle.asyncPayTag with
    | none => exact refl outbox
    | some tag => exact release outbox _ fun bundle => by rw [weight_asyncPaid]; omega
  unfold Outbox.confirm Bundle.confirmations
  rw [List.foldl_append]
  cases bundle.settledIndex? with
  | none => exact tag outbox
  | some index => exact (release outbox _ weight_settled_le).trans (tag _)

theorem continuePublishing (outbox : Outbox) (bundle : Bundle) (context : DispatchContext) :
    Costs (3 * (!context.skipAsyncPay && bundle.asyncPay.isSome).toNat) outbox
      (outbox.continuePublishing bundle context) := by
  have all : Costs 0 outbox (bundle.publishes.foldl Outbox.attempt outbox) :=
    attemptAll bundle.publishes outbox
  unfold Outbox.continuePublishing
  split
  · cases bundle.asyncPay with
    | none => simpa using all
    | some asyncPay =>
        cases context.skipAsyncPay with
        | false => exact (attempt outbox asyncPay).trans (park _ bundle)
        | true => exact all
  · exact ⟨rfl, Nat.le_add_right _ _⟩

theorem pastSettlement (outbox : Outbox) (bundle : Bundle) (context : DispatchContext) :
    Costs (3 * (!context.skipSettlement || bundle.parksAgain context).toNat) outbox
      (match bundle.register with
        | some register => (outbox.attempt register).delay bundle context
        | none => outbox.continuePublishing bundle context) := by
  cases registers : bundle.register with
  | some register =>
      have delayed := (attempt outbox register).load
      refine ⟨(attempt outbox register).relapses, ?_⟩
      exact Nat.le_trans delayed (Nat.le_add_right _ _)
  | none =>
      have goesOn := continuePublishing outbox bundle context
      refine ⟨goesOn.relapses, Nat.le_trans goesOn.load (Nat.add_le_add_left ?_ _)⟩
      unfold Bundle.parksAgain
      rw [registers]
      cases context.skipSettlement with
      | false =>
          have small := Bool.toNat_le (!context.skipAsyncPay && bundle.asyncPay.isSome)
          simpa using Nat.mul_le_mul_left 3 small
      | true => simp

theorem publishPhase (outbox : Outbox) (bundle : Bundle) (context : DispatchContext) :
    Costs (3 * (!context.skipSettlement || bundle.parksAgain context).toNat) outbox
      (outbox.publishPhase bundle context) := by
  have rest := pastSettlement outbox bundle context
  unfold Outbox.publishPhase
  split
  · exact ⟨rfl, Nat.le_add_right _ _⟩
  · cases bundle.settlement with
    | none => exact rest
    | some settlement =>
        cases skips : context.skipSettlement with
        | false => exact (attempt outbox settlement).trans (park _ bundle)
        | true => rwa [skips] at rest

end Costs

/-- But for a relapse, an application adds less than it is counted as. -/
theorem lt_weight {bundle : Bundle} {context : DispatchContext}
    (busy : ¬(bundle = {} ∧ context = {}))
    (calm : (Happening.applied bundle context).isRelapse = false) :
    bundle.settledIndex?.isSome.toNat +
      3 * (!context.skipSettlement || bundle.parksAgain context).toNat <
        weight bundle context := by
  have confirms := Bool.toNat_le bundle.settledIndex?.isSome
  rw [weight, if_neg busy]
  cases skips : context.skipSettlement with
  | false =>
      simp only [Bool.not_false, Bool.true_or, Bool.toNat_true, if_true]
      omega
  | true =>
      cases again : bundle.parksAgain context with
      | false =>
          simp only [Bool.not_true, Bool.or_false, Bool.toNat_false, reduceCtorEq, if_false]
          omega
      | true =>
          have none : bundle.settledIndex?.isSome = false := by
            simpa [Happening.isRelapse, again] using calm
          simp [none]

/-- Applying a bundle is a relapse, or leaves less to do. -/
theorem apply_descends (outbox : Outbox) {bundle : Bundle} {context : DispatchContext}
    {ready : List (Bundle × DispatchContext)}
    (first : outbox.ready = (bundle, context) :: ready)
    (busy : ¬(bundle = {} ∧ context = {})) :
    outbox.relapses < ({ outbox with ready }.apply bundle context).relapses ∨
      ({ outbox with ready }.apply bundle context).relapses = outbox.relapses ∧
        ({ outbox with ready }.apply bundle context).load < outbox.load := by
  have whole : outbox.load = weight bundle context + { outbox with ready }.load := by
    rw [Outbox.load, first, Outbox.load]
    simp only [List.map_cons, List.sum_cons]
    omega
  have counted : { outbox with ready }.relapses = outbox.relapses := rfl
  unfold Outbox.apply
  split
  · have noted := relapses_note { outbox with ready } (.applied bundle context)
    have spent := (Costs.confirm ({ outbox with ready }.note (.applied bundle context))
      bundle).trans (.publishPhase _ bundle context)
    have relapses := spent.relapses.trans noted
    have load := spent.load
    change _ ≤ { outbox with ready }.load + _ at load
    cases calm : (Happening.applied bundle context).isRelapse with
    | true =>
        left
        rw [relapses, calm, counted]
        exact Nat.lt_succ_self _
    | false =>
        right
        refine ⟨by rw [relapses, calm, counted]; rfl, ?_⟩
        have less := lt_weight busy calm
        omega
  · refine Or.inr ⟨rfl, ?_⟩
    have positive : 0 < weight bundle context := by
      rw [weight, if_neg busy]
      split
      · omega
      · split <;> omega
    omega

end Outbox

end Messenger

import Messenger.Bench.Basic
import Messenger.Proofs.Session.Beside

/-!
A bundle with a settlement publishes that first, and nothing else until another bundle
confirms it. The invariant of a run is where the bundle stands: each stage fixes where it
waits and what has been attempted on its topics.
-/

namespace Messenger

namespace Bundle

/-- What is attempted again each time a settlement is confirmed before the payment is. -/
def round (bundle : Bundle) : List Publish :=
  bundle.register.toList ++ bundle.asyncPay.toList

def rounds (bundle : Bundle) (count : Nat) : List Publish :=
  (List.replicate count bundle.round).flatten

theorem rounds_succ (bundle : Bundle) (count : Nat) :
    bundle.rounds (count + 1) = bundle.rounds count ++ bundle.round := by
  rw [rounds, List.replicate_succ', List.flatten_append, List.flatten_singleton, rounds]

def endings (bundle : Bundle) : List (List Publish) :=
  [[], bundle.register.toList, bundle.register.toList ++ bundle.publishes]

/-- The settlement goes out once, then rounds that end in the payment, then once what is
left, in its order. -/
def SettlesBy (bundle : Bundle) (settlement : Publish) (attempts : List Publish) : Prop :=
  ∃ count ending, attempts = settlement :: (bundle.rounds count ++ ending) ∧
    ending ∈ bundle.endings ∧ (bundle.asyncPay = none → count = 0)

/-- A bundle that confirms the key of one of its messages was applied after something was
attempted. -/
def ConfirmedIn (bundle : Bundle) (history : List Happening) : Prop :=
  ∃ before confirming context after,
    history = before ++ .applied confirming context :: after ∧
      bundle.attempts before ≠ [] ∧ confirming.Confirms bundle

/-- Every attempt but the first comes after a confirmation. -/
def HeldBackIn (bundle : Bundle) (history : List Happening) : Prop :=
  ∀ before publish time after, history = before ++ .attempted publish time :: after →
    publish.topic ∈ bundle.topics →
      bundle.attempts before = [] ∨ bundle.ConfirmedIn before

theorem ConfirmedIn.append {bundle : Bundle} {history : List Happening}
    (confirmed : bundle.ConfirmedIn history) (more : List Happening) :
    bundle.ConfirmedIn (history ++ more) := by
  obtain ⟨before, confirming, context, after, same, attempted, confirms⟩ := confirmed
  refine ⟨before, confirming, context, after ++ more, ?_, attempted, confirms⟩
  rw [same, List.append_assoc, List.cons_append]

theorem HeldBackIn.note {bundle : Bundle} {history : List Happening}
    (heldBack : bundle.HeldBackIn history) {happening : Happening}
    (allowed : happening.attemptFor? bundle = none ∨ bundle.attempts history = [] ∨
      bundle.ConfirmedIn history) : bundle.HeldBackIn (history ++ [happening]) := by
  intro before publish time after same owned
  rcases after.eq_nil_or_concat with rfl | ⟨init, last, rfl⟩
  · obtain ⟨rfl, only⟩ := List.append_inj' same rfl
    obtain rfl : happening = .attempted publish time := List.cons.inj only |>.1
    cases allowed with
    | inl unattempted =>
        rw [Happening.attemptFor?, if_pos owned] at unattempted
        cases unattempted
    | inr allowed => exact allowed
  · rw [List.concat_eq_append, ← List.cons_append, ← List.append_assoc] at same
    exact heldBack before publish time init (List.append_inj_left' same rfl) owned

theorem HeldBackIn.append {bundle : Bundle} {history : List Happening}
    (heldBack : bundle.HeldBackIn history) {more : List Happening}
    (unattempted : ∀ happening ∈ more, happening.attemptFor? bundle = none) :
    bundle.HeldBackIn (history ++ more) := by
  induction more generalizing history with
  | nil => rwa [List.append_nil]
  | cons happening rest induction =>
      have ⟨first, others⟩ := List.forall_mem_cons.mp unattempted
      have noted := induction (heldBack.note (Or.inl first)) others
      rwa [List.append_assoc, List.singleton_append] at noted

end Bundle

variable {bundle other : Bundle} {settlement : Publish} {origin context : DispatchContext}

structure Standing (bundle : Bundle) (receptions : List (DispatchContext × Bool))
    (place : Outbox.Place) (attempts : List Publish) (outbox : Outbox) : Prop where
  receptions : bundle.receptions outbox.history = receptions
  place : outbox.place bundle = place
  attempts : bundle.attempts outbox.history = attempts
  heldBack : bundle.HeldBackIn outbox.history

namespace Standing

variable {receptions : List (DispatchContext × Bool)} {place : Outbox.Place}
  {attempts : List Publish} {first last outbox : Outbox}

theorem waits (standing : Standing bundle receptions place attempts outbox) :
    Outbox.Waits bundle bundle.topics receptions place attempts outbox :=
  ⟨standing.receptions, standing.place, standing.attempts⟩

theorem of_waits (waits : Outbox.Waits bundle bundle.topics receptions place attempts outbox)
    (heldBack : bundle.HeldBackIn outbox.history) :
    Standing bundle receptions place attempts outbox :=
  ⟨waits.receptions, waits.place, waits.attempts, heldBack⟩

theorem apart (standing : Standing bundle receptions place attempts first)
    (apart : Outbox.Apart bundle first last) :
    Standing bundle receptions place attempts last := by
  refine of_waits (standing.waits.beside apart.beside) ?_
  obtain ⟨more, grown, unrelated⟩ := apart.history
  rw [grown]
  exact standing.heldBack.append fun happening member => (unrelated happening member).2

theorem attempt (standing : Standing bundle receptions place attempts outbox)
    {publish : Publish} (own : publish ∈ bundle.outgoing)
    (allowed : attempts = [] ∨ bundle.ConfirmedIn outbox.history) :
    Standing bundle receptions place (attempts ++ [publish]) (outbox.attempt publish) := by
  have owned : publish.topic ∈ bundle.topics := Bundle.topic_mem_topics own
  have attempted := standing.waits.attempt publish
  rw [Outbox.watched, List.filter_cons_of_pos (by simpa using owned), List.filter_nil]
    at attempted
  refine of_waits attempted (standing.heldBack.note (Or.inr ?_))
  rw [standing.attempts]
  exact allowed

theorem attemptAll {publishes : List Publish}
    (standing : Standing bundle receptions place attempts outbox)
    (own : ∀ publish ∈ publishes, publish ∈ bundle.outgoing)
    (confirmed : bundle.ConfirmedIn outbox.history) :
    Standing bundle receptions place (attempts ++ publishes)
      (publishes.foldl Outbox.attempt outbox) := by
  induction publishes generalizing outbox attempts with
  | nil => rwa [List.append_nil]
  | cons publish rest induction =>
      have ⟨member, others⟩ := List.forall_mem_cons.mp own
      have attempted := standing.attempt member (Or.inr confirmed)
      have all := induction attempted others (confirmed.append _)
      rwa [List.append_assoc, List.singleton_append] at all

theorem park (standing : Standing bundle receptions ⟨[], 0, []⟩ attempts outbox) :
    Standing bundle receptions ⟨[], 1, []⟩ attempts (outbox.park bundle) :=
  of_waits standing.waits.park standing.heldBack

theorem delay (standing : Standing bundle receptions ⟨[], 0, []⟩ attempts outbox)
    (context : DispatchContext) :
    Standing bundle receptions ⟨[], 0, [context]⟩ attempts
      (outbox.delay bundle context) :=
  of_waits (standing.waits.delay context) standing.heldBack

theorem popReady {ready : List (Bundle × DispatchContext)} {waits : List DispatchContext}
    (standing : Standing bundle receptions ⟨waits, 0, []⟩ attempts outbox)
    (next : outbox.ready = (bundle, context) :: ready) (alone : waits.length ≤ 1) :
    waits = [context] ∧
      Standing bundle receptions ⟨[], 0, []⟩ attempts { outbox with ready } := by
  obtain ⟨same, popped⟩ := standing.waits.popReady next alone
  exact ⟨same, of_waits popped standing.heldBack⟩

theorem popDelayed {waiting : Waiting} {delayed : List Waiting}
    {waits : List DispatchContext}
    (standing : Standing bundle receptions ⟨[], 0, waits⟩ attempts outbox)
    (next : outbox.delayed = waiting :: delayed) (same : waiting.bundle = bundle)
    (alone : waits.length ≤ 1) :
    waits = [waiting.context] ∧
      Standing bundle receptions ⟨[], 0, []⟩ attempts { outbox with delayed } := by
  obtain ⟨only, popped⟩ := standing.waits.popDelayed next same alone
  exact ⟨only, of_waits popped standing.heldBack⟩

theorem release (standing : Standing bundle receptions ⟨[], 1, []⟩ attempts outbox)
    {key : SettlementKey} (named : key.names bundle = true) (context : DispatchContext) :
    Standing bundle receptions ⟨[context], 0, []⟩ attempts (outbox.release key context) ∨
      Standing bundle receptions ⟨[], 0, []⟩ attempts (outbox.release key context) := by
  have kept : bundle.HeldBackIn (outbox.release key context).history :=
    (outbox.release_history key context).symm ▸ standing.heldBack
  exact (standing.waits.release named context).imp (of_waits · kept) (of_waits · kept)

theorem closed {ready delayed : List DispatchContext} {parked : Nat}
    (standing : Standing bundle receptions ⟨ready, parked, delayed⟩ attempts outbox) :
    Standing bundle receptions ⟨ready, 0, delayed⟩ attempts outbox.closed :=
  of_waits standing.waits.closed (standing.heldBack.note (Or.inl rfl))

end Standing

/-- The stages of a bundle with a settlement. Counted are the rounds that are over; past
the settlement the bundle is carried on only after a confirmation. -/
inductive Stage (bundle : Bundle) (settlement : Publish) (origin : DispatchContext)
    (outbox : Outbox) : Prop where
  | unseen (standing : Standing bundle [] ⟨[], 0, []⟩ [] outbox)
  | ahead (live : outbox.live = true)
      (standing : Standing bundle [(origin, true)] ⟨[origin], 0, []⟩ [] outbox)
  | parked (count : Nat) (unpaid : bundle.asyncPay = none → count = 0)
      (confirmed : count ≠ 0 → bundle.ConfirmedIn outbox.history)
      (standing : Standing bundle [(origin, true)] ⟨[], 1, []⟩
        (settlement :: bundle.rounds count) outbox)
  | released (count : Nat) (unpaid : bundle.asyncPay = none → count = 0)
      (context : DispatchContext) (settled : context.skipSettlement = true)
      (confirmed : bundle.ConfirmedIn outbox.history)
      (standing : Standing bundle [(origin, true)] ⟨[context], 0, []⟩
        (settlement :: bundle.rounds count) outbox)
  | delayed (count : Nat) (unpaid : bundle.asyncPay = none → count = 0)
      (context : DispatchContext) (confirmed : bundle.ConfirmedIn outbox.history)
      (standing : Standing bundle [(origin, true)] ⟨[], 0, [context]⟩
        (settlement :: (bundle.rounds count ++ bundle.register.toList)) outbox)
  | gone (count : Nat) (unpaid : bundle.asyncPay = none → count = 0)
      (ending : List Publish) (known : ending ∈ bundle.endings)
      (standing : Standing bundle [(origin, true)] ⟨[], 0, []⟩
        (settlement :: (bundle.rounds count ++ ending)) outbox)

namespace Stage

variable {first last outbox : Outbox} {count : Nat}

theorem apart (stage : Stage bundle settlement origin first)
    (apart : Outbox.Apart bundle first last) : Stage bundle settlement origin last := by
  have kept (confirmed : bundle.ConfirmedIn first.history) :
      bundle.ConfirmedIn last.history := by
    obtain ⟨more, grown, -⟩ := apart.history
    exact grown ▸ confirmed.append more
  cases stage with
  | unseen standing => exact .unseen (standing.apart apart)
  | ahead live standing => exact .ahead (apart.live live) (standing.apart apart)
  | parked count unpaid confirmed standing =>
      exact .parked count unpaid (kept ∘ confirmed) (standing.apart apart)
  | released count unpaid context settled confirmed standing =>
      exact .released count unpaid context settled (kept confirmed) (standing.apart apart)
  | delayed count unpaid context confirmed standing =>
      exact .delayed count unpaid context (kept confirmed) (standing.apart apart)
  | gone count unpaid ending known standing =>
      exact .gone count unpaid ending known (standing.apart apart)

theorem continuePublishing (context : DispatchContext)
    (unpaid : bundle.asyncPay = none → count = 0)
    (confirmed : bundle.ConfirmedIn outbox.history)
    (standing : Standing bundle [(origin, true)] ⟨[], 0, []⟩
      (settlement :: (bundle.rounds count ++ bundle.register.toList)) outbox) :
    Stage bundle settlement origin (outbox.continuePublishing bundle context) := by
  unfold Outbox.continuePublishing
  split
  · split
    · rename_i asyncPay _ pays _
      have paid := (standing.attempt (Bundle.asyncPay_mem_outgoing pays)
        (Or.inr confirmed)).park
      refine .parked (count + 1) (fun none => ?_) (fun _ => confirmed.append _) ?_
      · rw [pays] at none
        cases none
      · rw [bundle.rounds_succ, Bundle.round, pays]
        simpa using paid
    · have all := standing.attemptAll (fun _ => Bundle.publishes_mem_outgoing) confirmed
      refine .gone count unpaid (bundle.register.toList ++ bundle.publishes) ?_ ?_
      · simp [Bundle.endings]
      · simpa using all
  · exact .gone count unpaid bundle.register.toList (by simp [Bundle.endings]) standing

theorem publishPhase_settled (context : DispatchContext)
    (carries : bundle.settlement = some settlement) (settled : context.skipSettlement = true)
    (unpaid : bundle.asyncPay = none → count = 0)
    (confirmed : bundle.ConfirmedIn outbox.history)
    (standing : Standing bundle [(origin, true)] ⟨[], 0, []⟩
      (settlement :: bundle.rounds count) outbox) :
    Stage bundle settlement origin (outbox.publishPhase bundle context) := by
  have publishes : bundle.publishesNothing = false := by
    simp [Bundle.publishesNothing, carries]
  rw [Outbox.publishPhase, publishes, carries, settled]
  cases registers : bundle.register with
  | some register =>
      have registered := standing.attempt (Bundle.register_mem_outgoing registers)
        (Or.inr confirmed)
      refine .delayed count unpaid context (confirmed.append _) ?_
      rw [registers]
      simpa using registered.delay context
  | none =>
      refine continuePublishing context unpaid confirmed ?_
      rw [registers]
      simpa using standing

theorem publishPhase_first (carries : bundle.settlement = some settlement)
    (unsettled : origin.skipSettlement = false)
    (standing : Standing bundle [(origin, true)] ⟨[], 0, []⟩ [] outbox) :
    Stage bundle settlement origin (outbox.publishPhase bundle origin) := by
  have publishes : bundle.publishesNothing = false := by
    simp [Bundle.publishesNothing, carries]
  rw [Outbox.publishPhase, publishes, carries, unsettled]
  have settled := standing.attempt (Bundle.settlement_mem_outgoing carries) (Or.inl rfl)
  exact .parked 0 (fun _ => rfl) (fun none => absurd rfl none) settled.park

theorem release (stage : Stage bundle settlement origin outbox) {key : SettlementKey}
    (context : DispatchContext) (settled : context.skipSettlement = true)
    (confirmed : key.names bundle = true → bundle.attempts outbox.history ≠ [] →
      bundle.ConfirmedIn outbox.history) :
    Stage bundle settlement origin (outbox.release key context) := by
  cases named : key.names bundle with
  | false => exact stage.apart (.release outbox key context fun _ => named)
  | true =>
      have unparked {place : Outbox.Place} (same : outbox.place bundle = place)
          (none : place.parked = 0) :
          Outbox.Apart bundle outbox (outbox.release key context) := by
        have absent : (outbox.place bundle).parked = 0 := same ▸ none
        exact .release outbox key context fun parked =>
          absurd parked (List.count_eq_zero.mp absent)
      cases stage with
      | unseen standing => exact .unseen (standing.apart (unparked standing.place rfl))
      | ahead live standing =>
          exact (ahead live standing).apart (unparked standing.place rfl)
      | parked count unpaid _ standing =>
          have history : (outbox.release key context).history = outbox.history :=
            outbox.release_history key context
          have now : bundle.ConfirmedIn outbox.history := by
            apply confirmed named
            rw [standing.attempts]
            exact List.cons_ne_nil _ _
          cases standing.release named context with
          | inl free => exact .released count unpaid context settled (history ▸ now) free
          | inr dropped =>
              refine .gone count unpaid [] (by simp [Bundle.endings]) ?_
              rwa [List.append_nil]
      | released count unpaid freed skips confirmed standing =>
          exact (released count unpaid freed skips confirmed standing).apart
            (unparked standing.place rfl)
      | delayed count unpaid freed confirmed standing =>
          exact (delayed count unpaid freed confirmed standing).apart
            (unparked standing.place rfl)
      | gone count unpaid ending known standing =>
          exact (gone count unpaid ending known standing).apart
            (unparked standing.place rfl)

theorem releaseAll (stage : Stage bundle settlement origin outbox)
    {confirmations : List (SettlementKey × DispatchContext)}
    (settled : ∀ confirmation ∈ confirmations, confirmation.2.skipSettlement = true)
    (confirmed : ∀ confirmation ∈ confirmations, confirmation.1.names bundle = true →
      bundle.attempts outbox.history ≠ [] → bundle.ConfirmedIn outbox.history) :
    Stage bundle settlement origin (confirmations.foldl
      (fun outbox confirmation => outbox.release confirmation.1 confirmation.2) outbox) := by
  induction confirmations generalizing outbox with
  | nil => exact stage
  | cons confirmation rest induction =>
      have ⟨skips, othersSkip⟩ := List.forall_mem_cons.mp settled
      have ⟨first, others⟩ := List.forall_mem_cons.mp confirmed
      refine induction (stage.release confirmation.2 skips first) othersSkip ?_
      rw [outbox.release_history]
      exact others

theorem confirm (stage : Stage bundle settlement origin outbox) {confirming : Bundle}
    (confirmed : confirming.Confirms bundle → bundle.attempts outbox.history ≠ [] →
      bundle.ConfirmedIn outbox.history) :
    Stage bundle settlement origin (outbox.confirm confirming) := by
  apply stage.releaseAll confirming.confirmations_settled
  intro confirmation member named
  exact confirmed ⟨confirmation, member, named⟩

theorem confirm_foreign (stage : Stage bundle settlement origin outbox)
    (context : DispatchContext) :
    Stage bundle settlement origin
      ((outbox.note (.applied other context)).confirm other) := by
  have noted :=
    stage.apart (@Outbox.Apart.note bundle outbox (.applied other context) rfl rfl)
  apply noted.confirm
  intro confirms attempted
  refine ⟨outbox.history, other, context, [], rfl, ?_, confirms⟩
  intro none
  apply attempted
  rw [Outbox.note, bundle.attempts_append, none]
  rfl

theorem apply_noted {receptions : List (DispatchContext × Bool)} {attempts : List Publish}
    (standing : Standing bundle receptions ⟨[], 0, []⟩ attempts outbox)
    (context : DispatchContext) :
    Outbox.Apart bundle outbox
      ((outbox.note (.applied bundle context)).confirm bundle) :=
  .of_beside (standing.waits.noted context)

theorem apply_own (stage : Stage bundle settlement origin outbox)
    (carries : bundle.settlement = some settlement)
    (unsettled : origin.skipSettlement = false)
    {ready : List (Bundle × DispatchContext)}
    (next : outbox.ready = (bundle, context) :: ready) :
    Stage bundle settlement origin ({ outbox with ready }.apply bundle context) := by
  have waits {receptions : List (DispatchContext × Bool)} {parked : Nat}
      {delayed : List DispatchContext} {attempts : List Publish}
      (standing : Standing bundle receptions ⟨[], parked, delayed⟩ attempts outbox) :
      False := standing.waits.not_ready next
  cases stage with
  | unseen standing => exact (waits standing).elim
  | ahead live standing =>
      obtain ⟨same, popped⟩ := standing.popReady next (Nat.le_refl 1)
      obtain rfl := List.singleton_inj.mp same
      rw [Outbox.apply, if_pos live]
      exact publishPhase_first carries unsettled (popped.apart (apply_noted popped origin))
  | parked count unpaid confirmed standing => exact (waits standing).elim
  | released count unpaid freed settled confirmed standing =>
      obtain ⟨same, popped⟩ := standing.popReady next (Nat.le_refl 1)
      obtain rfl := List.singleton_inj.mp same
      unfold Outbox.apply
      split
      · have apart := apply_noted popped freed
        obtain ⟨more, grown, -⟩ := apart.history
        exact publishPhase_settled freed carries settled unpaid
          (grown ▸ confirmed.append more) (popped.apart apart)
      · refine .gone count unpaid [] (by simp [Bundle.endings]) ?_
        rwa [List.append_nil]
  | delayed count unpaid freed confirmed standing => exact (waits standing).elim
  | gone count unpaid ending known standing => exact (waits standing).elim

theorem wake_own (stage : Stage bundle settlement origin outbox) {waiting : Waiting}
    {delayed : List Waiting} (next : outbox.delayed = waiting :: delayed)
    (same : waiting.bundle = bundle) :
    Stage bundle settlement origin
      ({ outbox with delayed }.continuePublishing bundle waiting.context) := by
  have waits {receptions : List (DispatchContext × Bool)} {parked : Nat}
      {ready : List DispatchContext} {attempts : List Publish}
      (standing : Standing bundle receptions ⟨ready, parked, []⟩ attempts outbox) :
      False := standing.waits.not_delayed next same
  cases stage with
  | unseen standing => exact (waits standing).elim
  | ahead live standing => exact (waits standing).elim
  | parked count unpaid confirmed standing => exact (waits standing).elim
  | released count unpaid freed settled confirmed standing => exact (waits standing).elim
  | delayed count unpaid freed confirmed standing =>
      obtain ⟨-, popped⟩ := standing.popDelayed next same (Nat.le_refl 1)
      exact continuePublishing waiting.context unpaid confirmed popped
  | gone count unpaid ending known standing => exact (waits standing).elim

theorem closed (stage : Stage bundle settlement origin outbox) (done : outbox.ready = []) :
    Stage bundle settlement origin outbox.closed := by
  have unready {receptions : List (DispatchContext × Bool)} {freed : DispatchContext}
      {attempts : List Publish}
      (standing : Standing bundle receptions ⟨[freed], 0, []⟩ attempts outbox) :
      False := standing.waits.not_done done
  cases stage with
  | unseen standing => exact .unseen standing.closed
  | ahead live standing => exact (unready standing).elim
  | parked count unpaid confirmed standing =>
      refine .gone count unpaid [] (by simp [Bundle.endings]) ?_
      rw [List.append_nil]
      exact standing.closed
  | released count unpaid freed settled confirmed standing => exact (unready standing).elim
  | delayed count unpaid freed confirmed standing =>
      exact .delayed count unpaid freed (confirmed.append _) standing.closed
  | gone count unpaid ending known standing =>
      exact .gone count unpaid ending known standing.closed

theorem accept_own (stage : Stage bundle settlement origin outbox)
    (brief : bundle.receptions (outbox.accept bundle context).history <+:
      [(origin, true)]) :
    Stage bundle settlement origin (outbox.accept bundle context) := by
  have again {place : Outbox.Place} {attempts : List Publish}
      (standing : Standing bundle [(origin, true)] place attempts outbox) : False :=
    standing.waits.not_accept_again brief
  cases stage with
  | unseen standing =>
      obtain ⟨live, accepted⟩ := standing.waits.accept_first brief
      exact .ahead live (.of_waits accepted (standing.heldBack.note (Or.inl rfl)))
  | ahead live standing => exact (again standing).elim
  | parked count unpaid confirmed standing => exact (again standing).elim
  | released count unpaid freed settled confirmed standing => exact (again standing).elim
  | delayed count unpaid freed confirmed standing => exact (again standing).elim
  | gone count unpaid ending known standing => exact (again standing).elim

theorem follows (carries : bundle.settlement = some settlement)
    (unsettled : origin.skipSettlement = false) :
    Outbox.Follows bundle bundle.topics [(origin, true)]
      (Stage bundle settlement origin) where
  beside stage beside := stage.apart (.of_beside beside)
  accept stage brief := stage.accept_own brief
  apply stage next := stage.apply_own carries unsettled next
  confirm context stage _ := stage.confirm_foreign context
  wake stage next same := stage.wake_own next same
  closed stage done := stage.closed done

theorem steps (steps : Outbox.Steps first last)
    (stage : Stage bundle settlement origin first) (known : first.Known)
    (carries : bundle.settlement = some settlement)
    (unsettled : origin.skipSettlement = false)
    (brief : bundle.receptions last.history <+: [(origin, true)])
    (alone : ∀ other context live, .received other context live ∈ last.history →
      other ≠ bundle → other.Foreign bundle) :
    Stage bundle settlement origin last :=
  (follows carries unsettled).steps steps stage known brief
    fun other context live noted different =>
      (alone other context live noted different).topics

theorem heldBack (stage : Stage bundle settlement origin outbox) :
    bundle.HeldBackIn outbox.history := by
  cases stage with
  | unseen standing => exact standing.heldBack
  | ahead _ standing => exact standing.heldBack
  | parked _ _ _ standing => exact standing.heldBack
  | released _ _ _ _ _ standing => exact standing.heldBack
  | delayed _ _ _ _ standing => exact standing.heldBack
  | gone _ _ _ _ standing => exact standing.heldBack

theorem settlesBy (stage : Stage bundle settlement origin outbox)
    (received : bundle.receptions outbox.history ≠ []) :
    bundle.SettlesBy settlement (bundle.attempts outbox.history) ∨
      Standing bundle [(origin, true)] ⟨[origin], 0, []⟩ [] outbox := by
  have paused {place : Outbox.Place} {count : Nat}
      (unpaid : bundle.asyncPay = none → count = 0)
      (standing : Standing bundle [(origin, true)] place
        (settlement :: bundle.rounds count) outbox) :
      bundle.SettlesBy settlement (bundle.attempts outbox.history) := by
    refine ⟨count, [], ?_, by simp [Bundle.endings], unpaid⟩
    rw [standing.attempts, List.append_nil]
  cases stage with
  | unseen standing => exact absurd standing.receptions received
  | ahead live standing => exact Or.inr standing
  | parked count unpaid confirmed standing => exact Or.inl (paused unpaid standing)
  | released count unpaid freed settled confirmed standing =>
      exact Or.inl (paused unpaid standing)
  | delayed count unpaid freed confirmed standing =>
      exact Or.inl ⟨count, bundle.register.toList, standing.attempts,
        by simp [Bundle.endings], unpaid⟩
  | gone count unpaid ending known standing =>
      exact Or.inl ⟨count, ending, standing.attempts, known, unpaid⟩

end Stage

theorem Session.dispatch_mem_agenda {W : Type} {session : Session W}
    {delayed : List DispatchContext} {parked : Nat}
    (place : session.outbox.place bundle = ⟨[origin], parked, delayed⟩) :
    .dispatch bundle origin ∈ session.agenda := by
  have listed := congrArg Outbox.Place.ready place
  have waits : origin ∈ (session.outbox.place bundle).ready :=
    listed ▸ List.mem_singleton_self origin
  obtain ⟨⟨other, context⟩, ready, same⟩ := List.mem_filterMap.mp waits
  obtain ⟨work, member, dispatches⟩ := List.mem_filterMap.mp ready
  simp only [Option.ite_none_right_eq_some, Option.some.injEq] at same
  obtain ⟨rfl, rfl⟩ := same
  cases work with
  | dispatch other context =>
      cases Option.some.inj dispatches
      exact member
  | _ => cases dispatches

namespace Session

variable {W : Type} [Surroundings W]

/-- A bundle with a settlement that a run receives once, while an account is live, settles
first. Unless it is still on the agenda, its settlement was attempted once; whatever else
of it was attempted came after a confirmation, and in its order. -/
theorem settles_first {config : Config} {outside : W} {session : Session W}
    {bundle : Bundle} {settlement : Publish} {origin : DispatchContext}
    (reached : Reaches (new config outside) session)
    (carries : bundle.settlement = some settlement)
    (unsettled : origin.skipSettlement = false)
    (once : bundle.receptions session.history = [(origin, true)])
    (alone : ∀ other context live, .received other context live ∈ session.history →
      other ≠ bundle → ∀ topic ∈ other.topics, topic ∉ bundle.topics) :
    (bundle.SettlesBy settlement (bundle.attempts session.history) ∨
      .dispatch bundle origin ∈ session.agenda ∧ bundle.attempts session.history = []) ∧
    bundle.HeldBackIn session.history := by
  have start : Stage bundle settlement origin (new config outside).outbox := by
    refine .unseen ⟨rfl, rfl, rfl, ?_⟩
    intro before publish time after same
    exact absurd same.symm (List.append_ne_nil_of_right_ne_nil _ (List.cons_ne_nil _ _))
  have known : (new config outside).outbox.Known := by
    intro bundle member
    cases member
  have stage := Stage.steps reached.steps start known carries unsettled
    (once ▸ List.prefix_refl _)
    fun other context live noted different =>
      ⟨different, alone other context live noted different⟩
  refine ⟨?_, stage.heldBack⟩
  have received : bundle.receptions session.outbox.history ≠ [] :=
    once ▸ List.cons_ne_nil _ _
  cases stage.settlesBy received with
  | inl settles => exact Or.inl settles
  | inr ahead => exact Or.inr ⟨dispatch_mem_agenda ahead.place, ahead.attempts⟩

def fourPublishes : Bundle where
  messages := [{ index := some "42" }]
  settlement := some ⟨"settle", [1]⟩
  register := some ⟨"register", [2]⟩
  publishes := [⟨"first", [3]⟩, ⟨"second", [4]⟩]

def settlesFortyTwo : Bundle where
  settledStatus := some "\x7b\"htlc_id\":\"42\",\"status\":\"COMPLETE\"\x7d"

def twelveWords : Mnemonic :=
  ⟨"legal winner thank year wave sausage worth useful legal winner thank yellow"⟩

def settlingMoves : List (Move Bench) :=
  [.perform (.start "broker" twelveWords {}), .perform (.dispatch fourPublishes {}), .step,
    .perform (.dispatch settlesFortyTwo {}), .step, .step, .advance 250, .wake]

def settledRun : Session Bench :=
  settlingMoves.foldl move (new .test (.new 7))

theorem history_settledRun :
    settledRun.history =
      [.opened, .received fourPublishes {} true, .applied fourPublishes {},
        .attempted ⟨"settle", [1]⟩ 0, .received settlesFortyTwo {} true,
        .applied settlesFortyTwo {}, .applied fourPublishes .settled,
        .attempted ⟨"register", [2]⟩ 0, .attempted ⟨"first", [3]⟩ 250,
        .attempted ⟨"second", [4]⟩ 250] := by
  decide +kernel

theorem settles_first_settledRun :
    (fourPublishes.SettlesBy ⟨"settle", [1]⟩ (fourPublishes.attempts settledRun.history) ∨
      .dispatch fourPublishes {} ∈ settledRun.agenda ∧
        fourPublishes.attempts settledRun.history = []) ∧
    fourPublishes.HeldBackIn settledRun.history := by
  have reached : Reaches (new .test (.new 7)) settledRun :=
    Reaches.here.moves (by decide +kernel)
  refine @settles_first Bench _ _ _ _ _ _ {} reached rfl rfl ?_ ?_
  · rw [history_settledRun]
    decide
  · rw [history_settledRun]
    intro other context live received different
    simp only [List.mem_cons, List.not_mem_nil, Happening.received.injEq, reduceCtorEq,
      false_or, or_false] at received
    rcases received with ⟨same, -⟩ | ⟨same, -⟩
    · exact absurd same different
    · subst same
      decide

end Session

end Messenger

import Messenger.Proofs.Session.Settlement

/-!
How often a bundle's asynchronous payment goes out. The tag of the payment lets the rest
of the bundle out and ends it. A settlement that is confirmed while the payment is pending
begins the bundle's publishing again, and with it the payment.
-/

namespace Messenger

namespace Bundle

/-- What goes out before the first round. -/
def preface (bundle : Bundle) (origin : DispatchContext) : List Publish :=
  if origin.skipSettlement then [] else bundle.settlement.toList

def isSettledBy (bundle confirming : Bundle) : Bool :=
  confirming != bundle && confirming.settledIndex?.any bundle.carriesIndex

end Bundle

def Happening.settles (bundle : Bundle) : Happening → Bool
  | .applied confirming _ => bundle.isSettledBy confirming
  | _ => false

namespace Bundle

open Outbox (attemptsOn watched Waits Beside)

/-- Every round but the first has its own confirmation of the settlement, from after the
first round. -/
def WarrantedIn (bundle : Bundle) (topics : List String) (origin : DispatchContext)
    (count : Nat) (history : List Happening) : Prop :=
  count ≤ 1 ∨ ∃ before after, history = before ++ after ∧
    attemptsOn topics before =
      watched topics (bundle.preface origin ++ bundle.rounds 1) ∧
    count ≤ 1 + after.countP (Happening.settles bundle)

/-- Nothing went out yet, or the preface, warranted rounds with one payment each, and at
most once what is left. -/
def PaysBy (bundle : Bundle) (topics : List String) (origin : DispatchContext)
    (history : List Happening) : Prop :=
  attemptsOn topics history = [] ∨
    ∃ count ending,
      attemptsOn topics history =
        watched topics (bundle.preface origin ++ bundle.rounds count ++ ending) ∧
      ending ∈ bundle.endings ∧ bundle.WarrantedIn topics origin count history

variable {bundle : Bundle} {topics : List String} {origin : DispatchContext} {count : Nat}
  {history : List Happening}

theorem WarrantedIn.append (warranted : bundle.WarrantedIn topics origin count history)
    (more : List Happening) :
    bundle.WarrantedIn topics origin count (history ++ more) := by
  cases warranted with
  | inl once => exact Or.inl once
  | inr again =>
      obtain ⟨before, after, rfl, paid, bound⟩ := again
      refine Or.inr ⟨before, after ++ more, List.append_assoc _ _ _, paid, ?_⟩
      rw [List.countP_append]
      omega

/-- A confirmation of the settlement warrants one more round. -/
theorem WarrantedIn.settled (warranted : bundle.WarrantedIn topics origin count history)
    (attempts : attemptsOn topics history =
      watched topics (bundle.preface origin ++ bundle.rounds count))
    {confirming : Bundle} (settles : bundle.isSettledBy confirming = true)
    (context : DispatchContext) :
    bundle.WarrantedIn topics origin (count + 1)
      (history ++ [.applied confirming context]) := by
  have counted : [Happening.applied confirming context].countP
      (Happening.settles bundle) = 1 := by
    simp [Happening.settles, settles]
  rcases count with _ | _ | more
  · exact Or.inl (Nat.le_refl 1)
  · exact Or.inr ⟨history, _, rfl, attempts, by omega⟩
  · obtain ⟨before, after, rfl, paid, bound⟩ := warranted.resolve_left (by omega)
    refine Or.inr ⟨before, after ++ [.applied confirming context],
      List.append_assoc _ _ _, paid, ?_⟩
    rw [List.countP_append, counted]
    omega

theorem confirmations_asyncPaid {confirming : Bundle} :
    ∀ confirmation ∈ confirming.confirmations, confirmation.1.names bundle = true →
      confirmation.2.skipAsyncPay = true ∨
        confirming.settledIndex?.any bundle.carriesIndex = true := by
  intro confirmation member names
  cases List.mem_append.mp member with
  | inl byIndex =>
      obtain ⟨index, settled, rfl⟩ := Option.map_eq_some_iff.mp (Option.mem_toList.mp byIndex)
      refine Or.inr ?_
      rw [settled]
      exact names
  | inr byTag =>
      obtain ⟨tag, -, rfl⟩ := Option.map_eq_some_iff.mp (Option.mem_toList.mp byTag)
      exact Or.inl rfl

end Bundle

open Outbox (attemptsOn watched watched_append Waits Beside)

/-- The stages of a bundle with an asynchronous payment. Counted are the rounds that are
over; a round that is still to come is warranted as well. -/
inductive PayStage (bundle : Bundle) (topics : List String) (origin : DispatchContext)
    (live : Bool) (outbox : Outbox) : Prop where
  | unseen (waits : Waits bundle topics [] ⟨[], 0, []⟩ [] outbox)
  | ahead (waits : Waits bundle topics [(origin, live)] ⟨[origin], 0, []⟩ [] outbox)
  | parked (count : Nat) (warranted : bundle.WarrantedIn topics origin count outbox.history)
      (waits : Waits bundle topics [(origin, live)] ⟨[], 1, []⟩
        (watched topics (bundle.preface origin ++ bundle.rounds count)) outbox)
  | released (count : Nat) (warranted : bundle.WarrantedIn topics origin count outbox.history)
      (context : DispatchContext) (settled : context.skipSettlement = true)
      (next : context.skipAsyncPay = false →
        bundle.WarrantedIn topics origin (count + 1) outbox.history)
      (waits : Waits bundle topics [(origin, live)] ⟨[context], 0, []⟩
        (watched topics (bundle.preface origin ++ bundle.rounds count)) outbox)
  | delayed (count : Nat) (warranted : bundle.WarrantedIn topics origin count outbox.history)
      (context : DispatchContext)
      (next : context.skipAsyncPay = false →
        bundle.WarrantedIn topics origin (count + 1) outbox.history)
      (waits : Waits bundle topics [(origin, live)] ⟨[], 0, [context]⟩
        (watched topics
          (bundle.preface origin ++ bundle.rounds count ++ bundle.register.toList)) outbox)
  | gone (count : Nat) (warranted : bundle.WarrantedIn topics origin count outbox.history)
      (ending : List Publish) (known : ending ∈ bundle.endings)
      (waits : Waits bundle topics [(origin, live)] ⟨[], 0, []⟩
        (watched topics (bundle.preface origin ++ bundle.rounds count ++ ending)) outbox)
  /-- It came to be applied while no account was live. -/
  | dropped (waits : Waits bundle topics [(origin, live)] ⟨[], 0, []⟩ [] outbox)

namespace PayStage

variable {bundle other : Bundle} {topics : List String} {origin context : DispatchContext}
  {live : Bool} {first last outbox : Outbox} {count : Nat}

theorem beside (stage : PayStage bundle topics origin live first)
    (beside : Beside bundle topics first last) : PayStage bundle topics origin live last := by
  have kept {count : Nat} (warranted : bundle.WarrantedIn topics origin count first.history) :
      bundle.WarrantedIn topics origin count last.history := by
    obtain ⟨more, grown, -⟩ := beside.history
    exact grown ▸ warranted.append more
  cases stage with
  | unseen waits => exact .unseen (waits.beside beside)
  | ahead waits => exact .ahead (waits.beside beside)
  | parked count warranted waits => exact .parked count (kept warranted) (waits.beside beside)
  | released count warranted context settled next waits =>
      exact .released count (kept warranted) context settled (kept ∘ next)
        (waits.beside beside)
  | delayed count warranted context next waits =>
      exact .delayed count (kept warranted) context (kept ∘ next) (waits.beside beside)
  | gone count warranted ending known waits =>
      exact .gone count (kept warranted) ending known (waits.beside beside)
  | dropped waits => exact .dropped (waits.beside beside)

theorem continuePublishing {pay : Publish} (pays : bundle.asyncPay = some pay)
    (context : DispatchContext)
    (warranted : bundle.WarrantedIn topics origin count outbox.history)
    (next : context.skipAsyncPay = false →
      bundle.WarrantedIn topics origin (count + 1) outbox.history)
    (waits : Waits bundle topics [(origin, live)] ⟨[], 0, []⟩
      (watched topics
        (bundle.preface origin ++ bundle.rounds count ++ bundle.register.toList)) outbox) :
    PayStage bundle topics origin live (outbox.continuePublishing bundle context) := by
  unfold Outbox.continuePublishing
  split
  · rw [pays]
    cases skips : context.skipAsyncPay with
    | false =>
        have paid := (waits.attempt pay).park
        refine .parked (count + 1) ((next skips).append _) ?_
        rw [← watched_append] at paid
        rw [bundle.rounds_succ, Bundle.round, pays]
        simpa using paid
    | true =>
        have all := waits.attemptAll bundle.publishes
        have history := (Outbox.Handles.attemptAll bundle.publishes outbox :
          Outbox.Handles bundle outbox _).history
        obtain ⟨more, grown⟩ := history
        refine .gone count (grown ▸ warranted.append more)
          (bundle.register.toList ++ bundle.publishes) (by simp [Bundle.endings]) ?_
        rw [← watched_append] at all
        simpa using all
  · exact .gone count warranted bundle.register.toList (by simp [Bundle.endings]) waits

/-- Past the settlement: the register publish, then the rest. -/
theorem carryOn {pay : Publish} (pays : bundle.asyncPay = some pay)
    (context : DispatchContext)
    (warranted : bundle.WarrantedIn topics origin count outbox.history)
    (next : context.skipAsyncPay = false →
      bundle.WarrantedIn topics origin (count + 1) outbox.history)
    (waits : Waits bundle topics [(origin, live)] ⟨[], 0, []⟩
      (watched topics (bundle.preface origin ++ bundle.rounds count)) outbox) :
    PayStage bundle topics origin live
      (match bundle.register with
      | some register => (outbox.attempt register).delay bundle context
      | none => outbox.continuePublishing bundle context) := by
  cases registers : bundle.register with
  | some register =>
      have registered := (waits.attempt register).delay context
      refine .delayed count (warranted.append _) context
        (fun skips => (next skips).append _) ?_
      rw [← watched_append] at registered
      rw [registers]
      exact registered
  | none =>
      refine continuePublishing pays context warranted next ?_
      rw [registers]
      simpa using waits

theorem publishPhase_released {pay : Publish} (pays : bundle.asyncPay = some pay)
    (settled : context.skipSettlement = true)
    (warranted : bundle.WarrantedIn topics origin count outbox.history)
    (next : context.skipAsyncPay = false →
      bundle.WarrantedIn topics origin (count + 1) outbox.history)
    (waits : Waits bundle topics [(origin, live)] ⟨[], 0, []⟩
      (watched topics (bundle.preface origin ++ bundle.rounds count)) outbox) :
    PayStage bundle topics origin live (outbox.publishPhase bundle context) := by
  have publishes : bundle.publishesNothing = false := by
    simp [Bundle.publishesNothing, pays]
  rw [Outbox.publishPhase, publishes, settled]
  have onward := carryOn pays context warranted next waits
  cases bundle.settlement with
  | none => exact onward
  | some settlement => exact onward

theorem publishPhase_first {pay : Publish} (pays : bundle.asyncPay = some pay)
    (waits : Waits bundle topics [(origin, live)] ⟨[], 0, []⟩ [] outbox) :
    PayStage bundle topics origin live (outbox.publishPhase bundle origin) := by
  have publishes : bundle.publishesNothing = false := by
    simp [Bundle.publishesNothing, pays]
  have none {count : Nat} (few : count ≤ 1) {history : List Happening} :
      bundle.WarrantedIn topics origin count history := Or.inl few
  have onward (bare : bundle.preface origin = []) :=
    @carryOn bundle topics origin live outbox 0 pay pays origin (none (Nat.zero_le 1))
      (fun _ => none (Nat.le_refl 1)) (by rw [bare]; exact waits)
  rw [Outbox.publishPhase, publishes]
  cases settles : bundle.settlement with
  | none => exact onward (by simp [Bundle.preface, settles])
  | some settlement =>
      cases skips : origin.skipSettlement with
      | false =>
          have settled := (waits.attempt settlement).park
          refine .parked 0 (none (Nat.zero_le 1)) ?_
          rw [Bundle.preface, skips, settles]
          exact settled
      | true => exact onward (by simp [Bundle.preface, skips])

/-- Of the confirmations one releases the parked bundle; a payment that may follow is
warranted by then. -/
theorem releaseAll (warranted : bundle.WarrantedIn topics origin count outbox.history)
    (waits : Waits bundle topics [(origin, live)] ⟨[], 1, []⟩
      (watched topics (bundle.preface origin ++ bundle.rounds count)) outbox)
    {confirmations : List (SettlementKey × DispatchContext)}
    (settled : ∀ confirmation ∈ confirmations, confirmation.2.skipSettlement = true)
    (next : ∀ confirmation ∈ confirmations, confirmation.1.names bundle = true →
      confirmation.2.skipAsyncPay = false →
        bundle.WarrantedIn topics origin (count + 1) outbox.history) :
    PayStage bundle topics origin live (confirmations.foldl
      (fun outbox confirmation => outbox.release confirmation.1 confirmation.2)
      outbox) := by
  induction confirmations generalizing outbox with
  | nil => exact .parked count warranted waits
  | cons confirmation rest induction =>
      obtain ⟨key, context⟩ := confirmation
      have ⟨skips, othersSkip⟩ := List.forall_mem_cons.mp settled
      have ⟨now, later⟩ := List.forall_mem_cons.mp next
      have history := outbox.release_history key context
      rw [List.foldl_cons]
      cases named : key.names bundle with
      | false =>
          have unmoved := waits.beside (.release outbox key context fun _ => named)
          exact induction (history ▸ warranted) unmoved othersSkip (history ▸ later)
      | true =>
          cases waits.release named context with
          | inl free =>
              have stage : PayStage bundle topics origin live
                  (outbox.release key context) :=
                .released count (history ▸ warranted) context skips
                  (history ▸ now named) free
              exact stage.beside (.releaseAll rest _ (congrArg Outbox.Place.parked free.place))
          | inr dropped =>
              have stage : PayStage bundle topics origin live
                  (outbox.release key context) := by
                refine .gone count (history ▸ warranted) [] (by simp [Bundle.endings]) ?_
                rwa [List.append_nil]
              exact stage.beside
                (.releaseAll rest _ (congrArg Outbox.Place.parked dropped.place))

theorem confirm_foreign (stage : PayStage bundle topics origin live outbox)
    (context : DispatchContext) (different : other ≠ bundle) :
    PayStage bundle topics origin live
      ((outbox.note (.applied other context)).confirm other) := by
  have noted : Beside bundle topics outbox (outbox.note (.applied other context)) :=
    .note outbox rfl rfl
  have unmoved {place : Outbox.Place} (same : outbox.place bundle = place)
      (unparked : place.parked = 0) :
      PayStage bundle topics origin live
        ((outbox.note (.applied other context)).confirm other) := by
    refine stage.beside (noted.trans (.confirm other _ ?_))
    rw [noted.place, same, unparked]
  cases stage with
  | unseen waits => exact unmoved waits.place rfl
  | ahead waits => exact unmoved waits.place rfl
  | parked count warranted waits =>
      refine releaseAll (warranted.append _) (waits.beside noted) other.confirmations_settled ?_
      intro confirmation member names unpaid
      have settles : other.settledIndex?.any bundle.carriesIndex = true :=
        (Bundle.confirmations_asyncPaid confirmation member names).resolve_left (by simp [unpaid])
      exact warranted.settled waits.attempts
        (by simp [Bundle.isSettledBy, different, settles]) context
  | released count warranted freed settled next waits => exact unmoved waits.place rfl
  | delayed count warranted freed next waits => exact unmoved waits.place rfl
  | gone count warranted ending known waits => exact unmoved waits.place rfl
  | dropped waits => exact unmoved waits.place rfl

theorem apply_own {pay : Publish} (pays : bundle.asyncPay = some pay)
    (stage : PayStage bundle topics origin live outbox)
    {ready : List (Bundle × DispatchContext)}
    (next : outbox.ready = (bundle, context) :: ready) :
    PayStage bundle topics origin live ({ outbox with ready }.apply bundle context) := by
  cases stage with
  | unseen waits => exact (waits.not_ready next).elim
  | ahead waits =>
      obtain ⟨same, popped⟩ := waits.popReady next (Nat.le_refl 1)
      obtain rfl := List.singleton_inj.mp same
      unfold Outbox.apply
      split
      · exact publishPhase_first pays (popped.beside (popped.noted origin))
      · exact .dropped popped
  | parked count warranted waits => exact (waits.not_ready next).elim
  | released count warranted freed settled again waits =>
      obtain ⟨same, popped⟩ := waits.popReady next (Nat.le_refl 1)
      obtain rfl := List.singleton_inj.mp same
      unfold Outbox.apply
      split
      · have noted := popped.noted freed
        obtain ⟨more, grown, -⟩ := noted.history
        exact publishPhase_released pays settled (grown ▸ warranted.append more)
          (fun skips => grown ▸ (again skips).append more) (popped.beside noted)
      · refine .gone count warranted [] (by simp [Bundle.endings]) ?_
        rwa [List.append_nil]
  | delayed count warranted freed again waits => exact (waits.not_ready next).elim
  | gone count warranted ending known waits => exact (waits.not_ready next).elim
  | dropped waits => exact (waits.not_ready next).elim

theorem wake_own {pay : Publish} (pays : bundle.asyncPay = some pay)
    (stage : PayStage bundle topics origin live outbox) {waiting : Waiting}
    {delayed : List Waiting} (next : outbox.delayed = waiting :: delayed)
    (same : waiting.bundle = bundle) :
    PayStage bundle topics origin live
      ({ outbox with delayed }.continuePublishing bundle waiting.context) := by
  cases stage with
  | unseen waits => exact (waits.not_delayed next same).elim
  | ahead waits => exact (waits.not_delayed next same).elim
  | parked count warranted waits => exact (waits.not_delayed next same).elim
  | released count warranted freed settled again waits =>
      exact (waits.not_delayed next same).elim
  | delayed count warranted freed again waits =>
      obtain ⟨only, popped⟩ := waits.popDelayed next same (Nat.le_refl 1)
      obtain rfl := List.singleton_inj.mp only
      exact continuePublishing pays waiting.context warranted again popped
  | gone count warranted ending known waits => exact (waits.not_delayed next same).elim
  | dropped waits => exact (waits.not_delayed next same).elim

theorem closed (stage : PayStage bundle topics origin live outbox)
    (done : outbox.ready = []) : PayStage bundle topics origin live outbox.closed := by
  cases stage with
  | unseen waits => exact .unseen waits.closed
  | ahead waits => exact (waits.not_done done).elim
  | parked count warranted waits =>
      refine .gone count (warranted.append _) [] (by simp [Bundle.endings]) ?_
      rw [List.append_nil]
      exact waits.closed
  | released count warranted freed settled again waits => exact (waits.not_done done).elim
  | delayed count warranted freed again waits =>
      exact .delayed count (warranted.append _) freed (fun skips => (again skips).append _)
        waits.closed
  | gone count warranted ending known waits =>
      exact .gone count (warranted.append _) ending known waits.closed
  | dropped waits => exact .dropped waits.closed

theorem accept_own (stage : PayStage bundle topics origin live outbox)
    (brief : bundle.receptions (outbox.accept bundle context).history <+:
      [(origin, live)]) :
    PayStage bundle topics origin live (outbox.accept bundle context) := by
  cases stage with
  | unseen waits => exact .ahead (waits.accept_first brief).2
  | ahead waits => exact (waits.not_accept_again brief).elim
  | parked count warranted waits => exact (waits.not_accept_again brief).elim
  | released count warranted freed settled next waits =>
      exact (waits.not_accept_again brief).elim
  | delayed count warranted freed next waits => exact (waits.not_accept_again brief).elim
  | gone count warranted ending known waits => exact (waits.not_accept_again brief).elim
  | dropped waits => exact (waits.not_accept_again brief).elim

theorem follows {pay : Publish} (pays : bundle.asyncPay = some pay) :
    Outbox.Follows bundle topics [(origin, live)] (PayStage bundle topics origin live) where
  beside stage beside := stage.beside beside
  accept stage brief := stage.accept_own brief
  apply stage next := stage.apply_own pays next
  confirm context stage different := stage.confirm_foreign context different
  wake stage next same := stage.wake_own pays next same
  closed stage done := stage.closed done

theorem paysBy (stage : PayStage bundle topics origin live outbox) :
    bundle.PaysBy topics origin outbox.history := by
  have paused {place : Outbox.Place} {count : Nat}
      (warranted : bundle.WarrantedIn topics origin count outbox.history)
      (waits : Waits bundle topics [(origin, live)] place
        (watched topics (bundle.preface origin ++ bundle.rounds count)) outbox) :
      bundle.PaysBy topics origin outbox.history := by
    refine Or.inr ⟨count, [], ?_, by simp [Bundle.endings], warranted⟩
    rw [List.append_nil]
    exact waits.attempts
  cases stage with
  | unseen waits => exact Or.inl waits.attempts
  | ahead waits => exact Or.inl waits.attempts
  | parked count warranted waits => exact paused warranted waits
  | released count warranted freed settled next waits => exact paused warranted waits
  | delayed count warranted freed next waits =>
      exact Or.inr ⟨count, bundle.register.toList, waits.attempts, by simp [Bundle.endings],
        warranted⟩
  | gone count warranted ending known waits =>
      exact Or.inr ⟨count, ending, waits.attempts, known, warranted⟩
  | dropped waits => exact Or.inl waits.attempts

end PayStage

namespace Session

variable {W : Type} [Surroundings W]

/-- The payment of a bundle that a run receives once goes out again only for a settlement
of the bundle that is confirmed again, however often the tag of the payment comes. -/
theorem pays_again_only_if_settled_again {config : Config} {outside : W}
    {session : Session W} {bundle : Bundle} {pay : Publish} {origin : DispatchContext}
    {live : Bool} (reached : Reaches (new config outside) session)
    (pays : bundle.asyncPay = some pay)
    (once : bundle.receptions session.history = [(origin, live)])
    (alone : ∀ other context live, .received other context live ∈ session.history →
      other ≠ bundle → pay.topic ∉ other.topics) :
    bundle.PaysBy [pay.topic] origin session.history := by
  have start : PayStage bundle [pay.topic] origin live (new config outside).outbox :=
    .unseen ⟨rfl, rfl, rfl⟩
  have known : (new config outside).outbox.Known := by
    intro bundle member
    cases member
  have silent (other : Bundle) (context : DispatchContext) (live : Bool)
      (noted : .received other context live ∈ session.history) (different : other ≠ bundle) :
      ∀ topic ∈ other.topics, topic ∉ [pay.topic] := by
    intro topic member watched
    rw [List.mem_singleton] at watched
    exact alone other context live noted different (watched ▸ member)
  have brief : bundle.receptions session.outbox.history <+: [(origin, live)] :=
    once ▸ List.prefix_refl _
  have stage := (PayStage.follows pays).steps reached.steps start known brief silent
  exact stage.paysBy

def paysOnTag : Bundle where
  messages := [{ index := some "42", tag := some "t" }]
  settlement := some ⟨"settle", [1]⟩
  asyncPay := some ⟨"pay", [2]⟩

/-- The core answers a sent message with a bundle that pays, and a payload with the news
that its settlement is complete. -/
def payingBench : Bench :=
  { Bench.new 7 with
    script := {
      answers := [("send", .ok paysOnTag)]
      inbound := [([1], settlesFortyTwo)] } }

def greeting : OutgoingMessage where
  recipient := "02bob"
  kind := .message
  content := "hi"

/-- The news arrives twice, as delivery is at least once. -/
def payingMoves : List (Move Bench) :=
  [.perform (.start "broker" twelveWords {}), .perform (.send greeting), .step,
    .receive 1 (.message "02me/0/res/stream" [1]), .step, .step, .step,
    .receive 1 (.message "02me/0/res/stream" [1]), .step, .step, .step]

def payingRun : Session Bench :=
  payingMoves.foldl move (new .test payingBench)

theorem payingRun_reached : Reaches (new .test payingBench) payingRun :=
  Reaches.here.moves (by decide +kernel)

theorem history_payingRun :
    payingRun.history =
      [.opened, .received paysOnTag {} true, .applied paysOnTag {},
        .attempted ⟨"settle", [1]⟩ 0,
        .received settlesFortyTwo (.inbound "02me/0/res/stream") true,
        .applied settlesFortyTwo (.inbound "02me/0/res/stream"),
        .applied paysOnTag .settled, .attempted ⟨"pay", [2]⟩ 0,
        .received settlesFortyTwo (.inbound "02me/0/res/stream") true,
        .applied settlesFortyTwo (.inbound "02me/0/res/stream"),
        .applied paysOnTag .settled, .attempted ⟨"pay", [2]⟩ 0] := by
  decide +kernel

theorem foreign_payingRun (other : Bundle) (context : DispatchContext) (live : Bool)
    (received : .received other context live ∈ payingRun.history)
    (different : other ≠ paysOnTag) : "pay" ∉ other.topics := by
  rw [history_payingRun] at received
  simp only [List.mem_cons, List.not_mem_nil, Happening.received.injEq, reduceCtorEq,
    false_or, or_false] at received
  rcases received with ⟨same, -⟩ | ⟨rfl, -⟩ | ⟨rfl, -⟩
  · exact absurd same different
  · decide
  · decide

theorem pays_again_payingRun :
    paysOnTag.PaysBy ["pay"] {} payingRun.history := by
  refine @pays_again_only_if_settled_again Bench _ .test payingBench payingRun paysOnTag
    ⟨"pay", [2]⟩ {} true payingRun_reached rfl ?_ foreign_payingRun
  rw [history_payingRun]
  decide

/-- The core returned the bundle once, no other bundle uses the topic of its payment, and
yet the payment was attempted twice. -/
theorem paid_twice :
    Reaches (new .test payingBench) payingRun ∧
      paysOnTag.receptions payingRun.history = [({}, true)] ∧
      (∀ other context live, .received other context live ∈ payingRun.history →
        other ≠ paysOnTag → "pay" ∉ other.topics) ∧
      attemptsOn ["pay"] payingRun.history = [⟨"pay", [2]⟩, ⟨"pay", [2]⟩] := by
  refine ⟨payingRun_reached, ?_, foreign_payingRun, ?_⟩
  · rw [history_payingRun]
    decide
  · rw [history_payingRun]
    decide

end Session

end Messenger

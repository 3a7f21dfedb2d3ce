import Messenger.Proofs.Session.History

/-!
Where one bundle waits in an outbox, and what is attempted on some topics. Bundles that do
not publish on these topics leave both as they are, so that what a run makes of the bundle
is known from the steps that have the bundle in hand or confirm it.
-/

namespace Messenger

structure Bundle.Foreign (other bundle : Bundle) : Prop where
  different : other ≠ bundle
  topics : ∀ topic ∈ other.topics, topic ∉ bundle.topics

def Happening.attemptOn? (topics : List String) : Happening → Option Publish
  | .attempted publish _ => if publish.topic ∈ topics then some publish else none
  | _ => none

namespace Outbox

def attemptsOn (topics : List String) (history : List Happening) : List Publish :=
  history.filterMap (Happening.attemptOn? topics)

theorem attemptsOn_append (topics : List String) (history more : List Happening) :
    attemptsOn topics (history ++ more) =
      attemptsOn topics history ++ attemptsOn topics more :=
  List.filterMap_append

/-- The publishes that are on the topics. -/
def watched (topics : List String) (publishes : List Publish) : List Publish :=
  publishes.filter (·.topic ∈ topics)

theorem watched_append (topics : List String) (publishes more : List Publish) :
    watched topics (publishes ++ more) = watched topics publishes ++ watched topics more :=
  List.filter_append _ _

/-- Where a bundle waits in an outbox: with which contexts it is ready or delayed, and how
often it is parked. -/
structure Place where
  ready : List DispatchContext
  parked : Nat
  delayed : List DispatchContext

def place (outbox : Outbox) (bundle : Bundle) : Place where
  ready := outbox.ready.filterMap fun entry => if entry.1 = bundle then some entry.2 else none
  parked := outbox.parked.pending.count bundle
  delayed := outbox.delayed.filterMap fun waiting =>
    if waiting.bundle = bundle then some waiting.context else none

/-- A change that the bundle has no part in and that attempts nothing on the topics. -/
structure Beside (bundle : Bundle) (topics : List String) (first last : Outbox) : Prop where
  place : last.place bundle = first.place bundle
  live : first.live = true → last.live = true
  history : ∃ more, last.history = first.history ++ more ∧
    ∀ happening ∈ more, happening.receptionOf? bundle = none ∧
      happening.attemptOn? topics = none

namespace Beside

variable {bundle other : Bundle} {topics : List String} {first middle last : Outbox}

theorem refl (outbox : Outbox) : Beside bundle topics outbox outbox :=
  ⟨rfl, id, [], (List.append_nil _).symm, fun _ member => absurd member List.not_mem_nil⟩

theorem trans (start : Beside bundle topics first middle)
    (rest : Beside bundle topics middle last) : Beside bundle topics first last := by
  obtain ⟨early, earlyEq, earlyApart⟩ := start.history
  obtain ⟨late, lateEq, lateApart⟩ := rest.history
  refine ⟨rest.place.trans start.place, rest.live ∘ start.live, early ++ late, ?_, ?_⟩
  · rw [lateEq, earlyEq, List.append_assoc]
  · intro happening member
    exact (List.mem_append.mp member).elim (earlyApart happening) (lateApart happening)

theorem of_place (place : last.place bundle = first.place bundle)
    (live : first.live = true → last.live = true) (history : last.history = first.history) :
    Beside bundle topics first last :=
  ⟨place, live, [], by rw [history, List.append_nil],
    fun _ member => absurd member List.not_mem_nil⟩

theorem note (outbox : Outbox) {happening : Happening}
    (unreceived : happening.receptionOf? bundle = none)
    (unattempted : happening.attemptOn? topics = none) :
    Beside bundle topics outbox (outbox.note happening) := by
  refine ⟨rfl, id, [happening], rfl, ?_⟩
  intro only member
  exact List.mem_singleton.mp member ▸ ⟨unreceived, unattempted⟩

theorem attempt (outbox : Outbox) {publish : Publish} (silent : publish.topic ∉ topics) :
    Beside bundle topics outbox (outbox.attempt publish) :=
  note outbox rfl (if_neg silent)

theorem attemptAll {publishes : List Publish}
    (silent : ∀ publish ∈ publishes, publish.topic ∉ topics) (outbox : Outbox) :
    Beside bundle topics outbox (publishes.foldl Outbox.attempt outbox) := by
  induction publishes generalizing outbox with
  | nil => exact refl outbox
  | cons publish rest induction =>
      have ⟨first, others⟩ := List.forall_mem_cons.mp silent
      exact (attempt outbox first).trans (induction others _)

theorem accept (outbox : Outbox) (context : DispatchContext) (different : other ≠ bundle) :
    Beside bundle topics outbox (outbox.accept other context) := by
  have noted : Beside bundle topics outbox
      (outbox.note (.received other context outbox.live)) :=
    note outbox (if_neg different) rfl
  refine noted.trans (of_place ?_ id rfl)
  simp [Outbox.accept, Outbox.place, Outbox.note, different]

theorem park (outbox : Outbox) (different : other ≠ bundle) :
    Beside bundle topics outbox (outbox.park other) := by
  refine of_place ?_ id rfl
  simp [Outbox.park, Outbox.place, SettlementQueue.enqueue, different]

theorem delay (outbox : Outbox) (context : DispatchContext) (different : other ≠ bundle) :
    Beside bundle topics outbox (outbox.delay other context) := by
  refine of_place ?_ id rfl
  simp [Outbox.delay, Outbox.place, different]

theorem continuePublishing (outbox : Outbox) (context : DispatchContext)
    (different : other ≠ bundle) (silent : ∀ topic ∈ other.topics, topic ∉ topics) :
    Beside bundle topics outbox (outbox.continuePublishing other context) := by
  unfold Outbox.continuePublishing
  split
  · split
    · rename_i asyncPay _ pays _
      have topic := Bundle.topic_mem_topics (Bundle.asyncPay_mem_outgoing pays)
      exact (attempt outbox (silent _ topic)).trans (park _ different)
    · refine attemptAll (fun publish member => silent _ ?_) outbox
      exact Bundle.topic_mem_topics (Bundle.publishes_mem_outgoing member)
  · exact refl outbox

theorem publishPhase (outbox : Outbox) (context : DispatchContext)
    (different : other ≠ bundle) (silent : ∀ topic ∈ other.topics, topic ∉ topics) :
    Beside bundle topics outbox (outbox.publishPhase other context) := by
  unfold Outbox.publishPhase
  split
  · exact refl outbox
  · split
    · rename_i settlement _ settles _
      have topic := Bundle.topic_mem_topics (Bundle.settlement_mem_outgoing settles)
      exact (attempt outbox (silent _ topic)).trans (park _ different)
    · split
      · rename_i register registers
        have topic := Bundle.topic_mem_topics (Bundle.register_mem_outgoing registers)
        exact (attempt outbox (silent _ topic)).trans (delay _ context different)
      · exact continuePublishing outbox context different silent

/-- A key moves a bundle only if the bundle is parked and the key names it. -/
theorem release (outbox : Outbox) (key : SettlementKey) (context : DispatchContext)
    (unmoved : bundle ∈ outbox.parked.pending → key.names bundle = false) :
    Beside bundle topics outbox (outbox.release key context) := by
  have kept : (outbox.parked.take key).2.pending.count bundle =
      outbox.parked.pending.count bundle := by
    by_cases parked : bundle ∈ outbox.parked.pending
    · exact List.count_filter (by simp [unmoved parked])
    · rw [List.count_eq_zero.mpr parked]
      exact List.count_eq_zero.mpr fun member => parked (List.mem_filter.mp member).1
  rcases outbox.release_cases key context with ⟨-, same⟩ | ⟨released, waited, named, same⟩
  · rw [same]
    exact of_place (by simp [Outbox.place, kept]) id rfl
  · have different : released ≠ bundle := by
      rintro rfl
      rw [unmoved waited] at named
      cases named
    rw [same]
    exact of_place (by simp [Outbox.place, kept, different]) id rfl

theorem releaseAll (confirmations : List (SettlementKey × DispatchContext))
    (outbox : Outbox) (unparked : (outbox.place bundle).parked = 0) :
    Beside bundle topics outbox (confirmations.foldl
      (fun outbox confirmation => outbox.release confirmation.1 confirmation.2)
      outbox) := by
  induction confirmations generalizing outbox with
  | nil => exact refl outbox
  | cons confirmation rest induction =>
      have released : Beside bundle topics outbox _ :=
        release outbox confirmation.1 confirmation.2
          fun parked => absurd parked (List.count_eq_zero.mp unparked)
      exact released.trans (induction _ (released.place ▸ unparked))

theorem confirm (confirming : Bundle) (outbox : Outbox)
    (unparked : (outbox.place bundle).parked = 0) :
    Beside bundle topics outbox (outbox.confirm confirming) :=
  releaseAll confirming.confirmations outbox unparked

theorem popReady (outbox : Outbox) {context : DispatchContext}
    {ready : List (Bundle × DispatchContext)} (next : outbox.ready = (other, context) :: ready)
    (different : other ≠ bundle) : Beside bundle topics outbox { outbox with ready } :=
  of_place (by simp [Outbox.place, next, different]) id rfl

theorem popDelayed (outbox : Outbox) {waiting : Waiting} {delayed : List Waiting}
    (next : outbox.delayed = waiting :: delayed) (different : waiting.bundle ≠ bundle) :
    Beside bundle topics outbox { outbox with delayed } :=
  of_place (by simp [Outbox.place, next, different]) id rfl

end Beside

/-- A change that the bundle has no part in. -/
structure Apart (bundle : Bundle) (first last : Outbox) : Prop where
  place : last.place bundle = first.place bundle
  live : first.live = true → last.live = true
  history : ∃ more, last.history = first.history ++ more ∧
    ∀ happening ∈ more, happening.receptionOf? bundle = none ∧
      happening.attemptFor? bundle = none

namespace Apart

variable {bundle : Bundle} {first last : Outbox}

theorem of_beside (beside : Beside bundle bundle.topics first last) :
    Apart bundle first last :=
  ⟨beside.place, beside.live, beside.history⟩

theorem beside (apart : Apart bundle first last) :
    Beside bundle bundle.topics first last :=
  ⟨apart.place, apart.live, apart.history⟩

theorem note (outbox : Outbox) {happening : Happening}
    (unreceived : happening.receptionOf? bundle = none)
    (unattempted : happening.attemptFor? bundle = none) :
    Apart bundle outbox (outbox.note happening) :=
  of_beside (.note outbox unreceived unattempted)

theorem release (outbox : Outbox) (key : SettlementKey) (context : DispatchContext)
    (unmoved : bundle ∈ outbox.parked.pending → key.names bundle = false) :
    Apart bundle outbox (outbox.release key context) :=
  of_beside (.release outbox key context unmoved)

end Apart

theorem receptions_accept (outbox : Outbox) (bundle : Bundle) (context : DispatchContext) :
    bundle.receptions (outbox.accept bundle context).history =
      bundle.receptions outbox.history ++ [(context, outbox.live)] := by
  refine (bundle.receptions_append _ _).trans ?_
  simp [Bundle.receptions, Happening.receptionOf?]

/-- How a bundle was received, where it waits, and what was attempted on the topics. -/
structure Waits (bundle : Bundle) (topics : List String)
    (receptions : List (DispatchContext × Bool)) (place : Place) (attempts : List Publish)
    (outbox : Outbox) : Prop where
  receptions : bundle.receptions outbox.history = receptions
  place : outbox.place bundle = place
  attempts : attemptsOn topics outbox.history = attempts

namespace Waits

variable {bundle : Bundle} {topics : List String} {context : DispatchContext}
  {receptions : List (DispatchContext × Bool)} {place : Place} {attempts : List Publish}
  {first last outbox : Outbox}

theorem beside (waits : Waits bundle topics receptions place attempts first)
    (beside : Beside bundle topics first last) :
    Waits bundle topics receptions place attempts last := by
  obtain ⟨more, grown, unrelated⟩ := beside.history
  have unreceived : bundle.receptions more = [] :=
    List.filterMap_eq_nil_iff.mpr fun happening member => (unrelated happening member).1
  have unattempted : attemptsOn topics more = [] :=
    List.filterMap_eq_nil_iff.mpr fun happening member => (unrelated happening member).2
  constructor
  case receptions =>
    rw [grown, bundle.receptions_append, unreceived, List.append_nil, waits.receptions]
  case place => rw [beside.place, waits.place]
  case attempts => rw [grown, attemptsOn_append, unattempted, List.append_nil, waits.attempts]

theorem attempt (waits : Waits bundle topics receptions place attempts outbox)
    (publish : Publish) :
    Waits bundle topics receptions place
      (attempts ++ watched topics [publish]) (outbox.attempt publish) := by
  have noted : attemptsOn topics [.attempted publish outbox.now] =
      watched topics [publish] := by
    by_cases owned : publish.topic ∈ topics <;>
      simp [attemptsOn, Happening.attemptOn?, watched, owned]
  constructor
  case receptions =>
    rw [← waits.receptions]
    exact (bundle.receptions_append _ _).trans (List.append_nil _)
  case place => exact waits.place
  case attempts =>
    rw [← waits.attempts, ← noted]
    exact attemptsOn_append _ _ _

theorem attemptAll (waits : Waits bundle topics receptions place attempts outbox)
    (publishes : List Publish) :
    Waits bundle topics receptions place
      (attempts ++ watched topics publishes)
      (publishes.foldl Outbox.attempt outbox) := by
  induction publishes generalizing outbox attempts with
  | nil => exact (List.append_nil attempts).symm ▸ waits
  | cons publish rest induction =>
      have all := induction (waits.attempt publish)
      rwa [List.append_assoc, ← watched_append, List.singleton_append] at all

theorem park (waits : Waits bundle topics receptions ⟨[], 0, []⟩ attempts outbox) :
    Waits bundle topics receptions ⟨[], 1, []⟩ attempts (outbox.park bundle) := by
  obtain ⟨ready, parked, delayed⟩ := Place.mk.inj waits.place
  refine ⟨waits.receptions, ?_, waits.attempts⟩
  simp [Outbox.place, Outbox.park, SettlementQueue.enqueue, List.count_append,
    ready, parked, delayed]

theorem delay (waits : Waits bundle topics receptions ⟨[], 0, []⟩ attempts outbox)
    (context : DispatchContext) :
    Waits bundle topics receptions ⟨[], 0, [context]⟩ attempts
      (outbox.delay bundle context) := by
  obtain ⟨ready, parked, delayed⟩ := Place.mk.inj waits.place
  refine ⟨waits.receptions, ?_, waits.attempts⟩
  simp [Outbox.place, Outbox.delay, ready, parked, delayed]

theorem accept (waits : Waits bundle topics receptions ⟨[], 0, []⟩ attempts outbox)
    (context : DispatchContext) :
    Waits bundle topics (receptions ++ [(context, outbox.live)]) ⟨[context], 0, []⟩ attempts
      (outbox.accept bundle context) := by
  obtain ⟨ready, parked, delayed⟩ := Place.mk.inj waits.place
  constructor
  case receptions => rw [receptions_accept, waits.receptions]
  case place => simp [Outbox.place, Outbox.accept, Outbox.note, ready, parked, delayed]
  case attempts =>
    rw [← waits.attempts]
    exact (attemptsOn_append _ _ _).trans (List.append_nil _)

theorem accept_first {origin : DispatchContext} {live : Bool}
    (waits : Waits bundle topics [] ⟨[], 0, []⟩ attempts outbox)
    (brief : bundle.receptions (outbox.accept bundle context).history <+: [(origin, live)]) :
    outbox.live = live ∧
      Waits bundle topics [(origin, live)] ⟨[origin], 0, []⟩ attempts
        (outbox.accept bundle context) := by
  rw [receptions_accept, waits.receptions, List.nil_append] at brief
  obtain ⟨rfl, rfl⟩ : context = origin ∧ outbox.live = live := by simpa using brief
  exact ⟨rfl, waits.accept context⟩

theorem not_accept_again {origin : DispatchContext} {live : Bool}
    (waits : Waits bundle topics [(origin, live)] place attempts outbox)
    (brief : bundle.receptions (outbox.accept bundle context).history <+: [(origin, live)]) :
    False := by
  have bounded := brief.length_le
  rw [receptions_accept, waits.receptions, List.length_append, List.length_singleton]
    at bounded
  exact absurd bounded (by simp)

theorem popReady {ready : List (Bundle × DispatchContext)} {waiting : List DispatchContext}
    (waits : Waits bundle topics receptions ⟨waiting, 0, []⟩ attempts outbox)
    (next : outbox.ready = (bundle, context) :: ready) (alone : waiting.length ≤ 1) :
    waiting = [context] ∧
      Waits bundle topics receptions ⟨[], 0, []⟩ attempts { outbox with ready } := by
  obtain ⟨counted, parked, delayed⟩ := Place.mk.inj waits.place
  simp only [next, List.filterMap_cons, if_true] at counted
  subst waiting
  have rest : ready.filterMap (fun entry =>
      if entry.1 = bundle then some entry.2 else none) = [] := by
    apply List.eq_nil_of_length_eq_zero
    rw [List.length_cons] at alone
    omega
  refine ⟨by rw [rest], waits.receptions, ?_, waits.attempts⟩
  simp [Outbox.place, rest, parked, delayed]

theorem popDelayed {waiting : Waiting} {delayed : List Waiting}
    {contexts : List DispatchContext}
    (waits : Waits bundle topics receptions ⟨[], 0, contexts⟩ attempts outbox)
    (next : outbox.delayed = waiting :: delayed) (same : waiting.bundle = bundle)
    (alone : contexts.length ≤ 1) :
    contexts = [waiting.context] ∧
      Waits bundle topics receptions ⟨[], 0, []⟩ attempts { outbox with delayed } := by
  obtain ⟨ready, parked, counted⟩ := Place.mk.inj waits.place
  simp only [next, List.filterMap_cons, same, if_true] at counted
  subst contexts
  have rest : delayed.filterMap (fun waiting =>
      if waiting.bundle = bundle then some waiting.context else none) = [] := by
    apply List.eq_nil_of_length_eq_zero
    rw [List.length_cons] at alone
    omega
  refine ⟨by rw [rest], waits.receptions, ?_, waits.attempts⟩
  simp [Outbox.place, rest, ready, parked]

/-- A key that names the bundle releases it, or drops it for an older one. -/
theorem release (waits : Waits bundle topics receptions ⟨[], 1, []⟩ attempts outbox)
    {key : SettlementKey} (named : key.names bundle = true) (context : DispatchContext) :
    Waits bundle topics receptions ⟨[context], 0, []⟩ attempts
        (outbox.release key context) ∨
      Waits bundle topics receptions ⟨[], 0, []⟩ attempts (outbox.release key context) := by
  obtain ⟨ready, parked, delayed⟩ := Place.mk.inj waits.place
  have removed : (outbox.parked.take key).2.pending.count bundle = 0 := by
    apply List.count_eq_zero.mpr
    intro member
    simp [SettlementQueue.take, named] at member
  rcases outbox.release_cases key context with ⟨none, -⟩ | ⟨released, -, -, same⟩
  · have waiting : bundle ∈ outbox.parked.pending :=
      List.count_pos_iff.mp (parked ▸ Nat.one_pos)
    exact absurd named (by simp [none bundle waiting])
  · rw [same]
    by_cases own : released = bundle
    · refine Or.inl ⟨waits.receptions, ?_, waits.attempts⟩
      simp [Outbox.place, removed, ready, delayed, own]
    · refine Or.inr ⟨waits.receptions, ?_, waits.attempts⟩
      simp [Outbox.place, removed, ready, delayed, own]

theorem closed {ready delayed : List DispatchContext} {parked : Nat}
    (waits : Waits bundle topics receptions ⟨ready, parked, delayed⟩ attempts outbox) :
    Waits bundle topics receptions ⟨ready, 0, delayed⟩ attempts outbox.closed := by
  have closing : Beside bundle topics outbox (outbox.note .closed) :=
    .note outbox rfl rfl
  have noted := waits.beside closing
  obtain ⟨readyEq, -, delayedEq⟩ := Place.mk.inj waits.place
  refine ⟨noted.receptions, ?_, noted.attempts⟩
  rw [← readyEq, ← delayedEq]
  rfl

/-- In hand the bundle is nowhere, so it cannot confirm itself. -/
theorem noted (waits : Waits bundle topics receptions ⟨[], 0, []⟩ attempts outbox)
    (context : DispatchContext) :
    Beside bundle topics outbox
      ((outbox.note (.applied bundle context)).confirm bundle) := by
  have noted : Beside bundle topics outbox (outbox.note (.applied bundle context)) :=
    .note outbox rfl rfl
  refine noted.trans (.confirm bundle _ ?_)
  rw [noted.place, waits.place]

theorem not_ready {ready : List (Bundle × DispatchContext)} {parked : Nat}
    {delayed : List DispatchContext}
    (waits : Waits bundle topics receptions ⟨[], parked, delayed⟩ attempts outbox)
    (next : outbox.ready = (bundle, context) :: ready) : False := by
  have listed := congrArg Place.ready waits.place
  simp [Outbox.place, next] at listed

theorem not_delayed {waiting : Waiting} {delayed : List Waiting} {parked : Nat}
    {ready : List DispatchContext}
    (waits : Waits bundle topics receptions ⟨ready, parked, []⟩ attempts outbox)
    (next : outbox.delayed = waiting :: delayed) (same : waiting.bundle = bundle) :
    False := by
  have listed := congrArg Place.delayed waits.place
  simp [Outbox.place, next, same] at listed

theorem not_done {parked : Nat} {delayed : List DispatchContext}
    (waits : Waits bundle topics receptions ⟨[context], parked, delayed⟩ attempts outbox)
    (done : outbox.ready = []) : False := by
  have listed := congrArg Place.ready waits.place
  simp [Outbox.place, done] at listed

end Waits

/-- Stages that every kind of step keeps to, as long as the bundle is received only so. -/
structure Follows (bundle : Bundle) (topics : List String)
    (receptions : List (DispatchContext × Bool)) (stage : Outbox → Prop) : Prop where
  beside : ∀ {first last : Outbox}, stage first → Beside bundle topics first last →
    stage last
  accept : ∀ {outbox : Outbox} {context : DispatchContext}, stage outbox →
    bundle.receptions (outbox.accept bundle context).history <+: receptions →
      stage (outbox.accept bundle context)
  apply : ∀ {outbox : Outbox} {context : DispatchContext}
    {ready : List (Bundle × DispatchContext)}, stage outbox →
    outbox.ready = (bundle, context) :: ready →
      stage ({ outbox with ready }.apply bundle context)
  confirm : ∀ {outbox : Outbox} {other : Bundle} (context : DispatchContext), stage outbox →
    other ≠ bundle → stage ((outbox.note (.applied other context)).confirm other)
  wake : ∀ {outbox : Outbox} {waiting : Waiting} {delayed : List Waiting}, stage outbox →
    outbox.delayed = waiting :: delayed → waiting.bundle = bundle →
      stage ({ outbox with delayed }.continuePublishing bundle waiting.context)
  closed : ∀ {outbox : Outbox}, stage outbox → outbox.ready = [] → stage outbox.closed

namespace Follows

variable {bundle : Bundle} {topics : List String}
  {receptions : List (DispatchContext × Bool)} {stage : Outbox → Prop}
  {first last : Outbox}

theorem step (follows : Follows bundle topics receptions stage) (start : stage first)
    (step : Step first last) (known : first.Known)
    (brief : bundle.receptions last.history <+: receptions)
    (alone : ∀ other context live, .received other context live ∈ first.history →
      other ≠ bundle → ∀ topic ∈ other.topics, topic ∉ topics) : stage last := by
  cases step with
  | accept other context =>
      by_cases same : other = bundle
      · subst same
        exact follows.accept start brief
      · exact follows.beside start (.accept first context same)
  | @apply other context ready next =>
      by_cases same : other = bundle
      · subst same
        exact follows.apply start next
      · obtain ⟨_, _, noted⟩ := known other (by simp [Outbox.bundles, next])
        have silent := alone other _ _ noted same
        have popped := follows.beside start (.popReady first next same)
        unfold Outbox.apply
        split
        · exact follows.beside (follows.confirm context popped same)
            (.publishPhase _ context same silent)
        · exact popped
  | @wake waiting delayed next due =>
      by_cases same : waiting.bundle = bundle
      · rw [same]
        exact follows.wake start next same
      · obtain ⟨_, _, noted⟩ := known waiting.bundle (by simp [Outbox.bundles, next])
        have popped := follows.beside start (.popDelayed first next same)
        exact follows.beside popped (.continuePublishing _ waiting.context same
          (alone waiting.bundle _ _ noted same))
  | opened done =>
      have noted : Beside bundle topics first (first.note .opened) := .note first rfl rfl
      exact follows.beside start (noted.trans (.of_place rfl (fun _ => rfl) rfl))
  | closed done => exact follows.closed start done
  | pass millis => exact follows.beside start (.of_place rfl id rfl)

theorem steps (follows : Follows bundle topics receptions stage) (steps : Steps first last)
    (start : stage first) (known : first.Known)
    (brief : bundle.receptions last.history <+: receptions)
    (alone : ∀ other context live, .received other context live ∈ last.history →
      other ≠ bundle → ∀ topic ∈ other.topics, topic ∉ topics) : stage last := by
  induction steps with
  | refl => exact start
  | @tail middle last early next induction =>
      have earlier := next.history_prefix
      have before := induction ((earlier.filterMap _).trans brief)
        fun other context live noted => alone other context live (earlier.subset noted)
      exact follows.step before next (Steps.known early known) brief
        fun other context live noted => alone other context live (earlier.subset noted)

end Follows

end Outbox

end Messenger

import Messenger.Proofs.Session.Silence

/-!
What a disconnect leaves behind. It drops what is parked, and nothing is ready then; but the
rest of a bundle that waits for the register delay goes on waiting, and goes out if an account
is live when the delay is over.
-/

namespace Messenger

/-- What is left to publish once the delay is over. -/
def Waiting.rest (waiting : Waiting) : List Publish :=
  match waiting.bundle.asyncPay, waiting.context.skipAsyncPay with
  | some asyncPay, false => [asyncPay]
  | _, _ => waiting.bundle.publishes

namespace Entry

def publish? : Entry → Option Publish
  | .published publish _ _ => some publish
  | _ => none

def woken? : Entry → Option Waiting
  | .woken waiting => some waiting
  | _ => none

/-- The bundle that is applied or published from here on. -/
def takenUp? : Entry → Option Bundle
  | .applied bundle _ => some bundle
  | .woken waiting => some waiting.bundle
  | _ => none

theorem takenUp?_of_ofLink {entry : Entry} (ofLink : entry.ofLink = true) :
    entry.takenUp? = none := by
  cases entry with
  | applied bundle context => cases ofLink
  | woken waiting => cases ofLink
  | _ => rfl

theorem woken?_of_takenUp? {entry : Entry} (other : entry.takenUp? = none) :
    entry.woken? = none := by
  cases entry with
  | woken waiting => cases other
  | _ => rfl

end Entry

/-- What was published after the bundle was taken up and before another one was. -/
def publishesOf (bundle : Bundle) : (inHand : Bool) → List Entry → List Publish
  | _, [] => []
  | inHand, entry :: rest =>
    match entry.takenUp? with
    | some other => publishesOf bundle (other = bundle) rest
    | none =>
      (if inHand then entry.publish?.toList else []) ++ publishesOf bundle inHand rest

/-- The continuations that fell due while an account was live. -/
def wokenLive : (live : Bool) → List Entry → List Waiting
  | _, [] => []
  | live, entry :: rest =>
    (if live then entry.woken?.toList else []) ++ wokenLive (liveAfter live [entry]) rest

theorem publishesOf_append (bundle : Bundle) (inHand : Bool) (early late : List Entry) :
    ∃ still, publishesOf bundle inHand (early ++ late) =
      publishesOf bundle inHand early ++ publishesOf bundle still late := by
  induction early generalizing inHand with
  | nil => exact ⟨inHand, rfl⟩
  | cons entry rest induction =>
      rw [List.cons_append, publishesOf, publishesOf]
      cases entry.takenUp? with
      | some other => exact induction _
      | none =>
          obtain ⟨still, same⟩ := induction inHand
          exact ⟨still, by rw [same, List.append_assoc]⟩

theorem wokenLive_append (live : Bool) (early late : List Entry) :
    wokenLive live (early ++ late) =
      wokenLive live early ++ wokenLive (liveAfter live early) late := by
  induction early generalizing live with
  | nil => rfl
  | cons entry rest induction =>
      rw [List.cons_append, wokenLive, wokenLive, induction, List.append_assoc]
      rfl

/-- As long as no other bundle is taken up, the one in hand is what publishes. -/
theorem publishesOf_of_same (bundle : Bundle) (inHand : Bool) {entries : List Entry}
    (same : ∀ entry ∈ entries, entry.takenUp? = none) :
    publishesOf bundle inHand entries =
      if inHand then entries.filterMap Entry.publish? else [] := by
  induction entries with
  | nil => cases inHand <;> rfl
  | cons entry rest induction =>
      have ⟨first, others⟩ := List.forall_mem_cons.mp same
      rw [publishesOf, first, induction others, List.filterMap_cons]
      cases inHand with
      | false => rfl
      | true => cases entry.publish? <;> rfl

theorem publishesOf_takenUp (bundle : Bundle) (inHand : Bool) {entry : Entry} {other : Bundle}
    {rest : List Entry} (takenUp : entry.takenUp? = some other)
    (same : ∀ entry ∈ rest, entry.takenUp? = none) :
    publishesOf bundle inHand (entry :: rest) =
      if other = bundle then rest.filterMap Entry.publish? else [] := by
  rw [publishesOf, takenUp]
  simpa using publishesOf_of_same bundle (other = bundle) same

theorem wokenLive_of_unwoken (live : Bool) {entries : List Entry}
    (unwoken : ∀ entry ∈ entries, entry.woken? = none) : wokenLive live entries = [] := by
  induction entries generalizing live with
  | nil => rfl
  | cons entry rest induction =>
      have ⟨first, others⟩ := List.forall_mem_cons.mp unwoken
      rw [wokenLive, first, induction _ others]
      cases live <;> rfl

theorem wokenLive_woken (live : Bool) (waiting : Waiting) {rest : List Entry}
    (unwoken : ∀ entry ∈ rest, entry.woken? = none) :
    wokenLive live (.woken waiting :: rest) = if live then [waiting] else [] := by
  rw [wokenLive, wokenLive_of_unwoken _ unwoken, List.append_nil]
  rfl

namespace Happening

/-- Neither an application nor an attempt to publish. -/
def isIntake : Happening → Bool
  | .applied _ _ => false
  | .attempted _ _ => false
  | _ => true

def publish? : Happening → Option Publish
  | .attempted publish _ => some publish
  | _ => none

end Happening

theorem filterMap_publish? (entries : List Entry) :
    entries.filterMap Entry.publish? =
      (entries.filterMap Entry.happening?).filterMap Happening.publish? := by
  have same : Entry.publish? = fun entry => entry.happening?.bind Happening.publish? := by
    funext entry
    cases entry <;> rfl
  rw [List.filterMap_filterMap, same]

namespace Outbox

/-- The bundle is neither ready nor parked, and no more of it is delayed than was pending. -/
structure Without (bundle : Bundle) (pending : List Waiting) (outbox : Outbox) : Prop where
  ready : ∀ entry ∈ outbox.ready, entry.1 ≠ bundle
  parked : bundle ∉ outbox.parked.pending
  delayed : ∀ waiting ∈ outbox.delayed, waiting.bundle = bundle → waiting ∈ pending

namespace Without

variable {bundle other : Bundle} {pending : List Waiting} {outbox : Outbox}

theorem note (without : outbox.Without bundle pending) (happening : Happening) :
    (outbox.note happening).Without bundle pending :=
  ⟨without.ready, without.parked, without.delayed⟩

theorem attemptAll (without : outbox.Without bundle pending) (publishes : List Publish) :
    (publishes.foldl attempt outbox).Without bundle pending := by
  induction publishes generalizing outbox with
  | nil => exact without
  | cons publish rest induction => exact induction (without.note _)

theorem park (without : outbox.Without bundle pending) (apart : other ≠ bundle) :
    (outbox.park other).Without bundle pending := by
  refine ⟨without.ready, fun member => ?_, without.delayed⟩
  cases List.mem_append.mp member with
  | inl before => exact without.parked before
  | inr now => exact apart (List.mem_singleton.mp now).symm

theorem delay (without : outbox.Without bundle pending) (apart : other ≠ bundle)
    (context : DispatchContext) : (outbox.delay other context).Without bundle pending := by
  refine ⟨without.ready, without.parked, fun waiting member own => ?_⟩
  cases List.mem_append.mp member with
  | inl before => exact without.delayed waiting before own
  | inr now =>
      rw [List.mem_singleton.mp now] at own
      exact absurd own apart

theorem release (without : outbox.Without bundle pending) (key : SettlementKey)
    (context : DispatchContext) : (outbox.release key context).Without bundle pending := by
  have parked : bundle ∉ (outbox.parked.take key).2.pending :=
    fun member => without.parked (List.mem_filter.mp member).1
  rcases outbox.release_cases key context with ⟨-, same⟩ | ⟨released, waited, -, same⟩
  · rw [same]
    exact ⟨without.ready, parked, without.delayed⟩
  · rw [same]
    refine ⟨fun entry member => ?_, parked, without.delayed⟩
    cases List.mem_append.mp member with
    | inl before => exact without.ready entry before
    | inr now =>
        rw [List.mem_singleton.mp now]
        exact fun own => without.parked (own ▸ waited)

theorem confirm (without : outbox.Without bundle pending) (confirming : Bundle) :
    (outbox.confirm confirming).Without bundle pending := by
  unfold Outbox.confirm
  induction confirming.confirmations generalizing outbox with
  | nil => exact without
  | cons confirmation rest induction => exact induction (without.release _ _)

theorem continuePublishing (without : outbox.Without bundle pending) (apart : other ≠ bundle)
    (context : DispatchContext) :
    (outbox.continuePublishing other context).Without bundle pending := by
  unfold Outbox.continuePublishing
  split
  · split
    · exact (without.note _).park apart
    · exact without.attemptAll _
  · exact without

theorem publishPhase (without : outbox.Without bundle pending) (apart : other ≠ bundle)
    (context : DispatchContext) :
    (outbox.publishPhase other context).Without bundle pending := by
  unfold Outbox.publishPhase
  split
  · exact without
  · split
    · exact (without.note _).park apart
    · split
      · exact (without.note _).delay apart context
      · exact without.continuePublishing apart context

theorem apply (without : outbox.Without bundle pending) (apart : other ≠ bundle)
    (context : DispatchContext) : (outbox.apply other context).Without bundle pending := by
  unfold Outbox.apply
  split
  · exact ((without.note _).confirm other).publishPhase apart context
  · exact without

theorem popReady {entry : Bundle × DispatchContext} {ready : List (Bundle × DispatchContext)}
    (without : outbox.Without bundle pending) (next : outbox.ready = entry :: ready) :
    entry.1 ≠ bundle ∧ { outbox with ready }.Without bundle pending := by
  have ⟨first, others⟩ := List.forall_mem_cons.mp (next ▸ without.ready)
  exact ⟨first, others, without.parked, without.delayed⟩

theorem popDelayed {waiting : Waiting} {delayed : List Waiting}
    (without : outbox.Without bundle pending) (next : outbox.delayed = waiting :: delayed) :
    (waiting.bundle = bundle → waiting ∈ pending) ∧
      { outbox with delayed }.Without bundle pending := by
  have ⟨first, others⟩ := List.forall_mem_cons.mp (next ▸ without.delayed)
  exact ⟨first, without.ready, without.parked, others⟩

end Without

/-- Whatever comes in is received first. -/
theorem Intake.without {first last : Outbox} (intake : Intake first last) (bundle : Bundle)
    (pending : List Waiting) :
    ∃ more, last.history = first.history ++ more ∧
      (∀ happening ∈ more, happening.isIntake = true) ∧
      ((∀ context live, .received bundle context live ∉ more) →
        first.Without bundle pending → last.Without bundle pending) := by
  cases intake with
  | accept other context =>
      refine ⟨[_], rfl, List.forall_mem_singleton.mpr rfl, fun unreceived without => ?_⟩
      have apart : other ≠ bundle :=
        fun own => unreceived context first.live (own ▸ List.mem_singleton_self _)
      refine ⟨fun entry member => ?_, without.parked, without.delayed⟩
      cases List.mem_append.mp member with
      | inl before => exact without.ready entry before
      | inr now => exact List.mem_singleton.mp now ▸ apart
  | opened done =>
      exact ⟨[_], rfl, List.forall_mem_singleton.mpr rfl, fun _ without =>
        ⟨without.ready, without.parked, without.delayed⟩⟩
  | closed done =>
      exact ⟨[_], rfl, List.forall_mem_singleton.mpr rfl, fun _ without =>
        ⟨without.ready, List.not_mem_nil, without.delayed⟩⟩
  | pass millis =>
      exact ⟨[], (List.append_nil _).symm, List.forall_mem_nil _, fun _ without =>
        ⟨without.ready, without.parked, without.delayed⟩⟩

theorem Intakes.without {first last : Outbox} (intakes : Intakes first last) (bundle : Bundle)
    (pending : List Waiting) :
    ∃ more, last.history = first.history ++ more ∧
      (∀ happening ∈ more, happening.isIntake = true) ∧
      ((∀ context live, .received bundle context live ∉ more) →
        first.Without bundle pending → last.Without bundle pending) := by
  induction intakes with
  | refl => exact ⟨[], (List.append_nil _).symm, List.forall_mem_nil _, fun _ without => without⟩
  | tail _ intake induction =>
      obtain ⟨early, before, taken, kept⟩ := induction
      obtain ⟨late, after, takenNext, keptNext⟩ := intake.without bundle pending
      refine ⟨early ++ late, ?_, List.forall_mem_append.mpr ⟨taken, takenNext⟩, ?_⟩
      · rw [after, before, List.append_assoc]
      · intro unreceived without
        refine keptNext ?_ (kept ?_ without)
        · exact fun context live member =>
            unreceived context live (List.mem_append_right _ member)
        · exact fun context live member =>
            unreceived context live (List.mem_append_left _ member)

theorem history_attemptAll (publishes : List Publish) (outbox : Outbox) :
    (publishes.foldl attempt outbox).history =
      outbox.history ++ publishes.map (.attempted · outbox.now) := by
  induction publishes generalizing outbox with
  | nil => exact (List.append_nil _).symm
  | cons publish rest induction =>
      rw [List.foldl_cons, induction, List.map_cons, List.append_cons]
      rfl

/-- What is left of a bundle goes out, if an account is live. -/
theorem history_continuePublishing {outbox : Outbox} (live : outbox.live = true)
    (waiting : Waiting) :
    (outbox.continuePublishing waiting.bundle waiting.context).history =
      outbox.history ++ waiting.rest.map (.attempted · outbox.now) := by
  have all := history_attemptAll waiting.bundle.publishes outbox
  unfold continuePublishing Waiting.rest
  rw [if_pos live]
  cases waiting.bundle.asyncPay with
  | none => exact all
  | some asyncPay =>
      cases waiting.context.skipAsyncPay with
      | false => rfl
      | true => exact all

end Outbox

namespace Session

variable {W : Type}

theorem noted_of_history {first last : Session W} {more : List Entry}
    {happenings : List Happening} (journal : last.journal = first.journal ++ more)
    (history : last.history = first.history ++ happenings) :
    more.filterMap Entry.happening? = happenings := by
  rw [Session.history, journal, List.filterMap_append] at history
  exact List.append_cancel_left history

/-- Of what is taken in nothing is taken up or published. -/
theorem plain_of_intakes {first last : Session W} {more : List Entry}
    (intakes : first.outbox.Intakes last.outbox) (journal : last.journal = first.journal ++ more)
    (unwoken : ∀ entry ∈ more, entry.woken?.isNone = true) :
    ∀ entry ∈ more, entry.takenUp? = none ∧ entry.publish? = none := by
  obtain ⟨happenings, history, taken, -⟩ := intakes.without {} []
  have noted := noted_of_history journal history
  intro entry member
  have intake (happening : Happening) (happens : entry.happening? = some happening) :
      happening.isIntake = true :=
    taken happening (noted ▸ List.mem_filterMap.mpr ⟨entry, member, happens⟩)
  cases entry with
  | applied other context => cases intake _ rfl
  | published publish time outcome => cases intake _ rfl
  | woken waiting => cases unwoken _ member
  | _ => exact ⟨rfl, rfl⟩

/-- Since the start nothing of the bundle went out, and only what waited then still can. -/
structure Dormant (bundle : Bundle) (start : Session W) (added : List Entry)
    (session : Session W) : Prop where
  without : session.outbox.Without bundle start.waiting
  unpublished : publishesOf bundle false added = []
  idle : ∀ waiting ∈ wokenLive false added, waiting.bundle = bundle → waiting.rest = []

/-- Something of the bundle went out that waited at the start. -/
def GoesOut (bundle : Bundle) (start : Session W) (added : List Entry) : Prop :=
  publishesOf bundle false added ≠ [] ∧
    ∃ waiting ∈ start.waiting, waiting.bundle = bundle ∧
      waiting ∈ wokenLive false added ∧ waiting.rest ≠ []

theorem GoesOut.append {bundle : Bundle} {start : Session W} {added : List Entry}
    (goesOut : GoesOut bundle start added) (more : List Entry) :
    GoesOut bundle start (added ++ more) := by
  obtain ⟨published, waiting, waited, own, woken, rest⟩ := goesOut
  obtain ⟨still, same⟩ := publishesOf_append bundle false added more
  refine ⟨?_, waiting, waited, own, ?_, rest⟩
  · rw [same]
    exact List.append_ne_nil_of_left_ne_nil published _
  · rw [wokenLive_append]
    exact List.mem_append_left _ woken

section Step

variable {bundle : Bundle} {start session last : Session W} {added more : List Entry}

theorem Dormant.extend (dormant : Dormant bundle start added session)
    (without : last.outbox.Without bundle start.waiting)
    (unpublished : ∀ inHand, publishesOf bundle inHand more = [])
    (idle : ∀ waiting ∈ wokenLive (liveAfter false added) more, waiting.bundle = bundle →
      waiting.rest = []) : Dormant bundle start (added ++ more) last := by
  obtain ⟨still, same⟩ := publishesOf_append bundle false added more
  constructor
  case without => exact without
  case unpublished => rw [same, dormant.unpublished, unpublished, List.append_nil]
  case idle =>
    rw [wokenLive_append]
    intro waiting member
    exact (List.mem_append.mp member).elim (dormant.idle waiting) (idle waiting)

/-- Of what is taken in nothing is published, and no continuation falls due. -/
theorem Dormant.taking (dormant : Dormant bundle start added session)
    (intakes : session.outbox.Intakes last.outbox)
    (journal : last.journal = session.journal ++ more)
    (unwoken : ∀ entry ∈ more, entry.woken?.isNone = true)
    (unreceived : ∀ context live, .received bundle context live ∉ more) :
    Dormant bundle start (added ++ more) last := by
  obtain ⟨happenings, history, -, kept⟩ := intakes.without bundle start.waiting
  have noted := noted_of_history journal history
  have plain := plain_of_intakes intakes journal unwoken
  refine dormant.extend (kept (fun context live member => ?_) dormant.without) ?_ ?_
  · obtain ⟨entry, inside, happens⟩ := List.mem_filterMap.mp (noted ▸ member)
    cases entry with
    | received other origin live =>
        cases happens
        exact unreceived _ _ inside
    | _ => cases happens
  · intro inHand
    have none : more.filterMap Entry.publish? = [] :=
      List.filterMap_eq_nil_iff.mpr fun entry member => (plain entry member).2
    rw [publishesOf_of_same bundle inHand fun entry member => (plain entry member).1, none]
    exact ite_self _
  · rw [wokenLive_of_unwoken _ fun entry member =>
      Entry.woken?_of_takenUp? (plain entry member).1]
    exact List.forall_mem_nil _

end Step

variable [Surroundings W]

/-- No row of a bundle takes a bundle up. -/
theorem Change.journal {first last : Session W} {concern : Concern}
    (ofRow : concern ∈ Row.all.flatMap Row.concerns) (change : Change first concern last) :
    Adds (·.takenUp?.isNone) first.journal last.journal := by
  have advanced (step : RestoreMachine × List RestoreAction) :
      Adds (·.takenUp?.isNone) first.journal (first.advanceRestore step).journal := by
    rw [advanceRestore_eq]
    refine ⟨_, rfl, fun entry member => ?_⟩
    obtain ⟨callback, -, rfl⟩ := List.mem_map.mp member
    rfl
  have linked {session last : Session W} (link : LinkOnly session last) :
      Adds (·.takenUp?.isNone) session.journal last.journal :=
    link.journal.imp fun _ ofLink => Option.isNone_iff_eq_none.mpr (Entry.takenUp?_of_ofLink ofLink)
  cases change with
  | notify news => exact .one rfl rfl
  | shown delivers => exact .one rfl rfl
  | setUserState userState => exact .one rfl rfl
  | counted counts => exact advanced _
  | paged messages topic known => exact advanced _
  | rehost host => exact .one rfl rfl
  | release key context =>
      unfold Session.release
      split
      · exact .of_eq rfl
      · exact .of_eq rfl
  | publish publish =>
      have sent : Adds (·.takenUp?.isNone) first.journal (first.sent publish).journal :=
        .one rfl rfl
      exact sent.trans (linked (.publish first publish))
  | subscribe topics => exact linked (.subscribe first topics)
  | link link => exact linked link
  | accept bundle context => exact absurd ofRow (by decide)
  | ask call answer wall outside lives => exact absurd ofRow (by decide)
  | enterRestore restoring resumePaging => exact absurd ofRow (by decide)
  | cancelRestore => exact absurd ofRow (by decide)
  | promise => exact absurd ofRow (by decide)
  | wake next => exact absurd ofRow (by decide)
  | _ => exact .of_eq rfl

theorem Changes.journal {concerns : List Concern} {first last : Session W}
    (ofRows : concerns ⊆ Row.all.flatMap Row.concerns) (changes : Changes concerns first last) :
    Adds (·.takenUp?.isNone) first.journal last.journal :=
  changes.lift (fun first last => Adds (·.takenUp?.isNone) first.journal last.journal)
    (fun _ => .of_eq rfl) Adds.trans fun member change => change.journal (ofRows member)

/-- Continuations fall due in wake-ups only. -/
theorem Passages.journal {first last : Session W} (passages : Passages first last) :
    Adds (·.woken?.isNone) first.journal last.journal := by
  have unwoken {entry : Entry} (current : entry.isCurrent = true) :
      entry.woken?.isNone = true := by
    cases entry with
    | woken waiting => cases current
    | _ => rfl
  induction passages with
  | refl => exact .of_eq rfl
  | tail _ passage induction =>
      refine induction.trans ?_
      cases passage with
      | proceed proceeds =>
          obtain ⟨more, proceedsBy⟩ := proceeds
          exact ⟨more, proceedsBy.journal, fun entry member =>
            unwoken (proceedsBy.current entry member)⟩
      | close =>
          exact ⟨_, disconnect_journal _, by simp [Entry.woken?]⟩
      | enter account owner resume =>
          rename_i session _
          obtain ⟨more, grown, current, -⟩ :=
            connect_once (session.adopt account owner resume)
          have adopted : Adds (·.woken?.isNone) session.journal
              (session.adopt account owner resume).journal := .one rfl rfl
          exact adopted.trans
            ⟨more, grown, fun entry member => unwoken (current entry member)⟩

theorem applied_journal {session : Session W} (live : session.hasSession = true)
    (bundle : Bundle) (context : DispatchContext) :
    ∃ rest, (session.apply bundle context).journal =
        session.journal ++ .applied bundle context :: rest ∧
      ∀ entry ∈ rest, entry.takenUp? = none := by
  obtain ⟨rest, grown, same⟩ :=
    (Changes.apply live bundle context).journal (List.Subset.refl _)
  exact ⟨rest, grown.trans (List.append_assoc ..),
    fun entry member => Option.isNone_iff_eq_none.mp (same entry member)⟩

/-- What is published while a bundle is applied is none of another bundle. -/
theorem apply_journal (session : Session W) (bundle : Bundle) (context : DispatchContext) :
    ∃ more, (session.apply bundle context).journal = session.journal ++ more ∧
      (∀ entry ∈ more, entry.woken? = none) ∧
      ∀ other, bundle ≠ other → ∀ inHand, publishesOf other inHand more = [] := by
  cases live : session.hasSession with
  | true =>
      obtain ⟨rest, grown, same⟩ := applied_journal live bundle context
      refine ⟨_, grown, ?_, fun other apart inHand => ?_⟩
      · exact List.forall_mem_cons.mpr
          ⟨rfl, fun entry member => Entry.woken?_of_takenUp? (same entry member)⟩
      · rw [publishesOf_takenUp other inHand rfl same, if_neg apart]
  | false =>
      rw [apply_closed live]
      refine ⟨[_], rfl, List.forall_mem_singleton.mpr rfl, fun other _ inHand => ?_⟩
      cases inHand <;> rfl

theorem continuePublishing_of_done (session : Session W) (waiting : Waiting)
    (done : session.hasSession = false ∨ waiting.rest = []) :
    session.continuePublishing waiting.bundle waiting.context = session := by
  by_cases live : session.hasSession = true
  · have none := done.resolve_left (by simp [live])
    have all (none : waiting.bundle.publishes = []) :
        waiting.bundle.publishes.foldl publish session = session := by
      rw [none, List.foldl_nil]
    unfold Waiting.rest at none
    unfold continuePublishing
    rw [if_pos live]
    revert none
    cases waiting.bundle.asyncPay with
    | none => exact all
    | some asyncPay =>
        cases waiting.context.skipAsyncPay with
        | false => exact nofun
        | true => exact all
  · exact if_neg live

theorem history_continuePublishing (session : Session W) (live : session.hasSession = true)
    (waiting : Waiting) :
    (session.continuePublishing waiting.bundle waiting.context).history =
      session.history ++ waiting.rest.map (.attempted · session.now) := by
  have attempted := @Outbox.history_continuePublishing session.outbox live waiting
  rw [← outbox_continuePublishing] at attempted
  exact attempted

/-- When a continuation falls due, all that is left of its bundle is published, if an account
is live, and nothing otherwise. -/
theorem resumed_journal (session : Session W) (first : Waiting) :
    ∃ rest, ((session.note (.woken first)).continuePublishing first.bundle
        first.context).journal = session.journal ++ .woken first :: rest ∧
      (∀ entry ∈ rest, entry.takenUp? = none) ∧
      rest.filterMap Entry.publish? = if session.hasSession then first.rest else [] := by
  obtain ⟨rest, grown, same⟩ := (Changes.continuePublishing (session.note (.woken first))
    first.bundle first.context).journal (by decide)
  refine ⟨rest, grown.trans (List.append_assoc ..),
    fun entry member => Option.isNone_iff_eq_none.mp (same entry member), ?_⟩
  cases live : session.hasSession with
  | true =>
      have published :=
        noted_of_history grown (history_continuePublishing (session.note (.woken first)) live first)
      rw [filterMap_publish?, published, List.filterMap_map]
      exact List.filterMap_some
  | false =>
      rw [continuePublishing_of_done (session.note (.woken first)) first (Or.inl live)] at grown
      rw [List.self_eq_append_right.mp grown]
      rfl

/-- What a move does about bundles: it takes some in, or one is applied, or one goes on. -/
inductive Handled (session : Session W) : Session W → Prop where
  | taking {last : Session W} (intakes : session.outbox.Intakes last.outbox)
      (journal : Adds (·.woken?.isNone) session.journal last.journal) : Handled session last
  | applying {bundle : Bundle} {context : DispatchContext} {agenda : List Work}
      (next : session.agenda = .dispatch bundle context :: agenda) :
      Handled session ({ session with agenda }.apply bundle context)
  | resuming {first : Waiting} {waiting : List Waiting}
      (next : session.waiting = first :: waiting) :
      Handled session
        (({ session with waiting }.note (.woken first)).continuePublishing first.bundle
          first.context)

theorem move_handled (session : Session W) {next : Move W}
    (permitted : session.permits next = true) : Handled session (session.move next) := by
  have passed (other : next.isWake = false) := (move_passages session other).journal
  cases next with
  | perform operation =>
      exact .taking (perform_intakes session operation (ready_of_isIdle permitted)) (passed rfl)
  | receive generation event =>
      refine .taking ?_ (passed rfl)
      exact outbox_receive session generation event ▸ Relation.ReflTransGen.refl
  | wake =>
      rcases session.wake_cases with same | ⟨first, waiting, waits, -, woken⟩
      · rw [move, same]
        exact .taking Relation.ReflTransGen.refl (.of_eq rfl)
      · rw [move, woken]
        exact .resuming waits
  | step =>
      rcases worked : session.agenda with _ | ⟨work, agenda⟩
      · exact .taking (step_intakes session (by simp [worked])) (passed rfl)
      · cases work with
        | dispatch bundle context =>
            rw [move, step, worked]
            exact .applying worked
        | _ =>
            exact .taking (step_intakes session (by simp [worked, Work.dispatch?])) (passed rfl)
  | advance millis => exact .taking (.one (.pass session.outbox millis)) (passed rfl)
  | surround outside => exact .taking Relation.ReflTransGen.refl (passed rfl)

section Step

variable {bundle : Bundle} {start session last : Session W} {added : List Entry}

/-- What is applied is another bundle. -/
theorem Dormant.applying (dormant : Dormant bundle start added session) {other : Bundle}
    {context : DispatchContext} {agenda : List Work}
    (next : session.agenda = .dispatch other context :: agenda) :
    ∃ more, ({ session with agenda }.apply other context).journal = session.journal ++ more ∧
      Dormant bundle start (added ++ more) ({ session with agenda }.apply other context) := by
  have ready : session.outbox.ready = (other, context) :: agenda.filterMap Work.dispatch? := by
    rw [outbox, next]
    rfl
  obtain ⟨apart, popped⟩ := dormant.without.popReady ready
  have without : Outbox.Without bundle start.waiting
      ({ session with agenda }.apply other context).outbox := by
    rw [outbox_apply]
    exact popped.apply apart context
  obtain ⟨more, grown, unwoken, apartOf⟩ := apply_journal { session with agenda } other context
  refine ⟨more, grown, dormant.extend without (apartOf bundle apart) ?_⟩
  rw [wokenLive_of_unwoken _ unwoken]
  exact List.forall_mem_nil _

/-- What waited at the start is all of the bundle that can go on. -/
theorem Dormant.resuming (dormant : Dormant bundle start added session) {first : Waiting}
    {waiting : List Waiting} (live : liveAfter false added = session.hasSession)
    (next : session.waiting = first :: waiting) :
    ∃ more,
      (({ session with waiting }.note (.woken first)).continuePublishing first.bundle
        first.context).journal = session.journal ++ more ∧
      (Dormant bundle start (added ++ more)
          (({ session with waiting }.note (.woken first)).continuePublishing first.bundle
            first.context) ∨
        GoesOut bundle start (added ++ more)) := by
  obtain ⟨pending, popped⟩ := dormant.without.popDelayed next
  have woken : ({ session with waiting }.note (.woken first)).outbox =
      { session.outbox with delayed := waiting } :=
    outbox_note_quiet _ rfl
  obtain ⟨rest, grown, same, out⟩ := resumed_journal { session with waiting } first
  have published : rest.filterMap Entry.publish? =
      if session.hasSession then first.rest else [] := out
  have unwoken : ∀ entry ∈ rest, entry.woken? = none :=
    fun entry member => Entry.woken?_of_takenUp? (same entry member)
  refine ⟨.woken first :: rest, grown, ?_⟩
  by_cases done : first.bundle = bundle → session.hasSession = false ∨ first.rest = []
  · refine Or.inl (dormant.extend ?_ (fun inHand => ?_) ?_)
    · by_cases own : first.bundle = bundle
      · have idle : ({ session with waiting }.note (.woken first)).continuePublishing
            first.bundle first.context = { session with waiting }.note (.woken first) :=
          continuePublishing_of_done _ first (done own)
        rw [idle, woken]
        exact popped
      · rw [outbox_continuePublishing, woken]
        exact popped.continuePublishing own first.context
    · rw [publishesOf_takenUp bundle inHand rfl same, published]
      split
      · rename_i own
        split
        · rename_i accountLive
          exact (done own).resolve_left (by simp [accountLive])
        · rfl
      · rfl
    · rw [wokenLive_woken _ first unwoken, live]
      split
      · rename_i accountLive
        exact List.forall_mem_singleton.mpr fun own =>
          (done own).resolve_left (by simp [accountLive])
      · exact List.forall_mem_nil _
  · obtain ⟨own, goesOn⟩ := Classical.not_imp.mp done
    obtain ⟨accountLive, remains⟩ := not_or.mp goesOn
    rw [Bool.not_eq_false] at accountLive
    obtain ⟨still, split⟩ := publishesOf_append bundle false added (.woken first :: rest)
    refine Or.inr ⟨?_, first, pending own, own, ?_, remains⟩
    · rw [split, publishesOf_takenUp bundle still rfl same, if_pos own, published]
      exact List.append_ne_nil_of_right_ne_nil _ (if_pos accountLive ▸ remains)
    · rw [wokenLive_append, wokenLive_woken _ first unwoken, live, accountLive]
      exact List.mem_append_right _ List.mem_cons_self

theorem Dormant.handled (dormant : Dormant bundle start added session)
    (live : liveAfter false added = session.hasSession) (handled : Handled session last) :
    ∃ more, last.journal = session.journal ++ more ∧
      ((∀ context live, .received bundle context live ∉ more) →
        Dormant bundle start (added ++ more) last ∨ GoesOut bundle start (added ++ more)) := by
  cases handled with
  | taking intakes journal =>
      obtain ⟨more, grown, unwoken⟩ := journal
      exact ⟨more, grown, fun unreceived =>
        Or.inl (dormant.taking intakes grown unwoken unreceived)⟩
  | applying next =>
      obtain ⟨more, grown, still⟩ := dormant.applying next
      exact ⟨more, grown, fun _ => Or.inl still⟩
  | resuming next =>
      obtain ⟨more, grown, either⟩ := dormant.resuming live next
      exact ⟨more, grown, fun _ => either⟩

theorem Handled.journal (handled : Handled session last) :
    ∃ more, last.journal = session.journal ++ more := by
  cases handled with
  | taking _ journal =>
      obtain ⟨more, grown, -⟩ := journal
      exact ⟨more, grown⟩
  | @applying bundle context agenda next =>
      obtain ⟨more, grown, -⟩ := apply_journal { session with agenda } bundle context
      exact ⟨more, grown⟩
  | @resuming first waiting next =>
      obtain ⟨rest, grown, -⟩ := resumed_journal { session with waiting } first
      exact ⟨.woken first :: rest, grown⟩

/-- Either nothing of the bundle went out since the start, or something that waited then did;
unless the bundle came in again. -/
def Outcome (bundle : Bundle) (start session : Session W) : Prop :=
  ∃ added, session.journal = start.journal ++ added ∧
    ((∀ context live, .received bundle context live ∉ added) →
      Dormant bundle start added session ∨ GoesOut bundle start added)

theorem Outcome.handled (outcome : Outcome bundle start session) (started : start.Hushed)
    (closed : start.hasSession = false) (hushed : session.Hushed)
    (handled : Handled session last) : Outcome bundle start last := by
  obtain ⟨added, grown, either⟩ := outcome
  obtain ⟨more, goesOn⟩ := handled.journal
  have live : liveAfter false added = session.hasSession := by
    rw [hushed.live, grown, liveAfter_append, ← started.live, closed]
  refine ⟨added ++ more, ?_, fun unreceived => ?_⟩
  · rw [goesOn, grown, List.append_assoc]
  · have before := either fun context live member =>
      unreceived context live (List.mem_append_left _ member)
    rcases before with dormant | goesOut
    · obtain ⟨same, goesOnToo, still⟩ := dormant.handled live handled
      obtain rfl := List.append_cancel_left (goesOnToo.symm.trans goesOn)
      exact still fun context live member =>
        unreceived context live (List.mem_append_right _ member)
    · exact Or.inr (goesOut.append more)

theorem Outcome.reaches (outcome : Outcome bundle start session) (started : start.Hushed)
    (closed : start.hasSession = false) (hushed : session.Hushed)
    (reached : Reaches session last) : Outcome bundle start last := by
  induction reached with
  | here => exact outcome
  | after next before permitted induction =>
      exact induction.handled started closed (hushed_enduring.reaches hushed before)
        (move_handled _ permitted)

end Step

/-- The operations that disconnect: besides the caller's own, a reconnect that finds the
connection down and knows how to open it. -/
def disconnects (session : Session W) : Operation → Bool
  | .disconnect => true
  | .reconnect => !session.connected && session.lastOpening.isSome
  | _ => false

theorem handled_of_disconnects {session : Session W} {operation : Operation}
    (idle : session.isIdle = true) (disconnects : session.disconnects operation = true) :
    Handled session.disconnect (session.perform operation).1 := by
  cases operation with
  | disconnect => exact .taking Relation.ReflTransGen.refl (.of_eq rfl)
  | reconnect =>
      obtain ⟨down, known⟩ := Bool.and_eq_true_iff.mp disconnects
      obtain ⟨params, kept⟩ := Option.isSome_iff_exists.mp known
      have reopens : session.perform .reconnect =
          reported (session.disconnect.tryStart params session.owner true) := by
        rw [perform, reconnect, if_neg (by simpa using down), kept]
      have ready : session.disconnect.outbox.ready = [] :=
        outbox_disconnect session ▸ ready_of_isIdle idle
      rw [reopens]
      refine .taking ?_ (Passages.reported (.of_mayOpen (.tryStart _ _ _ _))).journal
      rw [outbox_reported]
      exact (MayOpen.tryStart session.disconnect params session.owner true).outbox.intakes ready
  | _ => cases disconnects

/-- After a disconnect nothing of an earlier bundle is published, and the bundle is not parked
again, if and only if none of its continuations that waited at the disconnect and have
something left falls due while an account is live. -/
theorem cancelled_iff_none_woken_live {config : Config} {outside : W}
    {session last : Session W} {bundle : Bundle} {operation : Operation}
    (reached : Reaches (new config outside) session) (idle : session.isIdle = true)
    (disconnects : session.disconnects operation = true)
    (goesOn : Reaches (session.perform operation).1 last)
    (unreceived : ∀ context live,
      .received bundle context live ∉ last.since session.disconnect) :
    (publishesOf bundle false (last.since session.disconnect) = [] ∧
      bundle ∉ last.settlements.pending) ↔
    ∀ waiting ∈ session.waiting, waiting.bundle = bundle →
      waiting ∈ wokenLive false (last.since session.disconnect) → waiting.rest = [] := by
  have hushed := hushed_enduring.reaches (hushed_new config outside) reached
  have without : session.disconnect.outbox.Without bundle session.disconnect.waiting := by
    have ready : session.outbox.closed.ready = [] := ready_of_isIdle idle
    rw [outbox_disconnect]
    refine ⟨?_, List.not_mem_nil, fun waiting member _ => member⟩
    rw [ready]
    exact List.forall_mem_nil _
  have closed : Outcome bundle session.disconnect session.disconnect :=
    ⟨[], (List.append_nil _).symm, fun _ => Or.inl ⟨without, rfl, List.forall_mem_nil _⟩⟩
  have performed := closed.handled hushed.close rfl hushed.close
    (handled_of_disconnects idle disconnects)
  obtain ⟨added, grown, either⟩ := performed.reaches hushed.close rfl
    (hushed_enduring.move hushed (.perform operation)) goesOn
  rw [since, grown, List.drop_left] at unreceived ⊢
  rcases either unreceived with dormant | ⟨published, waiting, waits, own, woken, some⟩
  · exact iff_of_true ⟨dormant.unpublished, dormant.without.parked⟩
      fun waiting _ own woken => dormant.idle waiting woken own
  · exact iff_of_false (fun silent => published silent.1)
      fun none => some (none waiting waits own woken)

/-! The caller connects again, once the delay is over or before it is. -/

theorem registeredRun_reached : Reaches (new .test (.new 7)) registeredRun :=
  Reaches.here.moves (by decide +kernel)

theorem unreceived_of_history {entries : List Entry} {happenings : List Happening}
    {bundle : Bundle} (history : entries.filterMap Entry.happening? = happenings)
    (none : ∀ context live, .received bundle context live ∉ happenings) :
    ∀ context live, .received bundle context live ∉ entries :=
  fun context live member =>
    none context live (history ▸ List.mem_filterMap.mpr ⟨_, member, rfl⟩)

def startedLate : Session Bench :=
  [Move.advance 250, .wake, .perform (.start "broker" twelveWords {})].foldl move
    registeredRun.disconnect

theorem cancelled_startedLate :
    registeredRun.waiting.map (·.bundle) = [registersFirst] ∧
      publishesOf registersFirst false (startedLate.since registeredRun.disconnect) = [] ∧
        registersFirst ∉ startedLate.settlements.pending := by
  have goesOn : Reaches registeredRun.disconnect startedLate :=
    Reaches.here.moves (by decide +kernel)
  have history : (startedLate.since registeredRun.disconnect).filterMap Entry.happening? =
      [.opened] := by decide +kernel
  have unreceived : ∀ context live, .received registersFirst context live ∉
      startedLate.since registeredRun.disconnect :=
    unreceived_of_history history (by simp)
  have woken : wokenLive false (startedLate.since registeredRun.disconnect) = [] := by
    decide +kernel
  have disconnects : registeredRun.disconnects .disconnect = true := rfl
  refine ⟨by decide +kernel, (cancelled_iff_none_woken_live registeredRun_reached
    (by decide +kernel) disconnects goesOn unreceived).mpr fun waiting _ _ live => ?_⟩
  rw [woken] at live
  cases live

def startedSoon : Session Bench :=
  [Move.perform (.start "broker" twelveWords {}), .advance 250, .wake].foldl move
    registeredRun.disconnect

theorem published_after_disconnect :
    Reaches (new .test (.new 7)) registeredRun ∧ registeredRun.isIdle = true ∧
      Reaches registeredRun.disconnect startedSoon ∧
      (∀ context live, .received registersFirst context live ∉
        startedSoon.since registeredRun.disconnect) ∧
      publishesOf registersFirst false (startedSoon.since registeredRun.disconnect) =
        [⟨"after", [2]⟩] := by
  have history : (startedSoon.since registeredRun.disconnect).filterMap Entry.happening? =
      [.opened, .attempted ⟨"after", [2]⟩ 250] := by decide +kernel
  exact ⟨registeredRun_reached, by decide +kernel, Reaches.here.moves (by decide +kernel),
    unreceived_of_history history (by simp), by decide +kernel⟩

end Session

end Messenger

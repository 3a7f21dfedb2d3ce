import Messenger.Proofs.Session.Resumed
import Messenger.Proofs.Session.Sources

/-!
A bundle that registers. Its register publish goes out when the bundle is applied; what else
it publishes waits for the register delay, and goes out when its continuation falls due, if an
account is live by then. Whatever a session does in between, continuations fall due in the
order in which they began to wait.
-/

namespace Messenger

/-- The continuation still has to pay, so it ends with the bundle parked. -/
def Waiting.parks (waiting : Waiting) : Bool :=
  waiting.bundle.asyncPay.isSome && !waiting.context.skipAsyncPay

/-- The continuations that wait, the time, and how long a new one is to wait. -/
structure Pace where
  now : Nat
  pause : Nat
  delayed : List Waiting

namespace Pace

def delay (pace : Pace) (bundle : Bundle) (context : DispatchContext) : Pace :=
  { pace with
    delayed := pace.delayed ++ [{ due := pace.now + pace.pause, bundle, context }] }

/-- What waits is in the order in which it falls due, and a new continuation comes last. -/
structure Punctual (pace : Pace) : Prop where
  ordered : pace.delayed.Pairwise (·.due ≤ ·.due)
  bounded : ∀ waiting ∈ pace.delayed, waiting.due ≤ pace.now + pace.pause

theorem Punctual.delay {pace : Pace} (punctual : pace.Punctual) (bundle : Bundle)
    (context : DispatchContext) : (pace.delay bundle context).Punctual := by
  constructor
  case ordered =>
    refine List.pairwise_append.mpr ⟨punctual.ordered, List.pairwise_singleton _ _, ?_⟩
    intro earlier member last alone
    rw [List.mem_singleton.mp alone]
    exact punctual.bounded earlier member
  case bounded =>
    refine List.forall_mem_append.mpr ⟨punctual.bounded, ?_⟩
    exact List.forall_mem_singleton.mpr (Nat.le_refl _)

end Pace

namespace Outbox

def pace (outbox : Outbox) : Pace where
  now := outbox.now
  pause := outbox.pause
  delayed := outbox.delayed

theorem pace_release (outbox : Outbox) (key : SettlementKey) (context : DispatchContext) :
    (outbox.release key context).pace = outbox.pace := by
  unfold release
  split <;> rfl

theorem pace_confirm (outbox : Outbox) (bundle : Bundle) :
    (outbox.confirm bundle).pace = outbox.pace := by
  unfold confirm
  induction bundle.confirmations generalizing outbox with
  | nil => rfl
  | cons confirmation rest induction => rw [List.foldl_cons, induction, pace_release]

theorem pace_attemptAll (publishes : List Publish) (outbox : Outbox) :
    (publishes.foldl attempt outbox).pace = outbox.pace := by
  induction publishes generalizing outbox with
  | nil => rfl
  | cons publish rest induction =>
      rw [List.foldl_cons, induction]
      rfl

theorem pace_continuePublishing (outbox : Outbox) (bundle : Bundle)
    (context : DispatchContext) :
    (outbox.continuePublishing bundle context).pace = outbox.pace := by
  unfold continuePublishing
  split
  · split
    · rfl
    · exact pace_attemptAll bundle.publishes outbox
  · rfl

theorem pace_publishPhase (outbox : Outbox) (bundle : Bundle) (context : DispatchContext) :
    (outbox.publishPhase bundle context).pace = outbox.pace ∨
      (outbox.publishPhase bundle context).pace = outbox.pace.delay bundle context := by
  unfold publishPhase
  split
  · exact Or.inl rfl
  · split
    · exact Or.inl rfl
    · split
      · exact Or.inr rfl
      · exact Or.inl (pace_continuePublishing outbox bundle context)

/-- A bundle that is applied begins to wait, or nothing does. -/
theorem pace_apply (outbox : Outbox) (bundle : Bundle) (context : DispatchContext) :
    (outbox.apply bundle context).pace = outbox.pace ∨
      (outbox.apply bundle context).pace = outbox.pace.delay bundle context := by
  unfold apply
  split
  · have confirmed := pace_confirm (outbox.note (.applied bundle context)) bundle
    rw [← show (outbox.note (.applied bundle context)).pace = outbox.pace from rfl, ← confirmed]
    exact pace_publishPhase _ bundle context
  · exact Or.inl rfl

theorem Intakes.delayed {first last : Outbox} (intakes : Intakes first last) :
    last.delayed = first.delayed := by
  induction intakes with
  | refl => rfl
  | tail _ intake induction =>
      rw [← induction]
      cases intake <;> rfl

theorem Step.punctual {first last : Outbox} (step : Step first last)
    (punctual : first.pace.Punctual) : last.pace.Punctual := by
  cases step with
  | accept bundle context => exact punctual
  | @apply bundle context ready next =>
      rcases pace_apply { first with ready } bundle context with same | delayed
      · exact same ▸ punctual
      · have delays := punctual.delay bundle context
        exact delayed ▸ delays
  | @wake waiting delayed next due =>
      rw [pace_continuePublishing]
      have waits : first.pace.delayed = waiting :: delayed := next
      have ordered := waits ▸ punctual.ordered
      have bounded := waits ▸ punctual.bounded
      exact ⟨(List.pairwise_cons.mp ordered).2, (List.forall_mem_cons.mp bounded).2⟩
  | opened done => exact punctual
  | closed done => exact punctual
  | pass millis =>
      refine ⟨punctual.ordered, fun waiting member => ?_⟩
      exact Nat.le_trans (punctual.bounded waiting member)
        (Nat.add_le_add_right (Nat.le_add_right first.now millis) first.pause)

theorem Steps.punctual {first last : Outbox} (steps : Steps first last)
    (punctual : first.pace.Punctual) : last.pace.Punctual := by
  induction steps with
  | refl => exact punctual
  | tail _ step induction => exact step.punctual induction

theorem release_parked (outbox : Outbox) (key : SettlementKey) (context : DispatchContext) :
    (outbox.release key context).parked.pending.Sublist outbox.parked.pending := by
  rcases outbox.release_cases key context with ⟨-, same⟩ | ⟨released, -, -, same⟩
  · exact same ▸ List.filter_sublist
  · exact same ▸ List.filter_sublist

theorem confirm_parked (outbox : Outbox) (bundle : Bundle) :
    (outbox.confirm bundle).parked.pending.Sublist outbox.parked.pending := by
  unfold confirm
  induction bundle.confirmations generalizing outbox with
  | nil => exact List.Sublist.refl _
  | cons confirmation rest induction =>
      exact (induction _).trans (outbox.release_parked confirmation.1 confirmation.2)

theorem confirm_history (outbox : Outbox) (bundle : Bundle) :
    (outbox.confirm bundle).history = outbox.history := by
  unfold confirm
  induction bundle.confirmations generalizing outbox with
  | nil => rfl
  | cons confirmation rest induction => rw [List.foldl_cons, induction, release_history]

/-- When a continuation falls due, its bundle is parked at most once. -/
theorem continuePublishing_parked (outbox : Outbox) (waiting : Waiting) :
    (outbox.continuePublishing waiting.bundle waiting.context).parked.pending =
      outbox.parked.pending ++
        if outbox.live && waiting.parks then [waiting.bundle] else [] := by
  have all (publishes : List Publish) (outbox : Outbox) :
      (publishes.foldl attempt outbox).parked = outbox.parked := by
    induction publishes generalizing outbox with
    | nil => rfl
    | cons publish rest induction => exact induction _
  unfold continuePublishing Waiting.parks
  cases outbox.live with
  | false => exact (List.append_nil _).symm
  | true =>
      rw [if_pos rfl, Bool.true_and]
      cases waiting.bundle.asyncPay with
      | none => simp [all]
      | some asyncPay =>
          cases waiting.context.skipAsyncPay with
          | false => rfl
          | true => simp [all]

/-- Unless it stops at a settlement, a bundle registers and the rest of it waits. -/
theorem publishPhase_registers (outbox : Outbox) {bundle : Bundle} {context : DispatchContext}
    {register : Publish} (registers : bundle.register = some register)
    (unsettled : bundle.settlement = none ∨ context.skipSettlement = true) :
    outbox.publishPhase bundle context = (outbox.attempt register).delay bundle context := by
  unfold publishPhase
  rw [if_neg (by simp [Bundle.publishesNothing, registers]), registers]
  cases unsettled with
  | inl none => rw [none]
  | inr skipped =>
      rw [skipped]
      cases bundle.settlement <;> rfl

end Outbox

/-- A publish that was attempted, with its time. -/
def Entry.publishAt? : Entry → Option (Publish × Nat)
  | .published publish time _ => some (publish, time)
  | _ => none

theorem Entry.publishAt?_of_publish? {entry : Entry} (unpublished : entry.publish? = none) :
    entry.publishAt? = none := by
  cases entry with
  | published publish time outcome => cases unpublished
  | _ => rfl

def Happening.publishAt? : Happening → Option (Publish × Nat)
  | .attempted publish time => some (publish, time)
  | _ => none

theorem filterMap_publishAt? (entries : List Entry) :
    entries.filterMap Entry.publishAt? =
      (entries.filterMap Entry.happening?).filterMap Happening.publishAt? := by
  have same : Entry.publishAt? = fun entry => entry.happening?.bind Happening.publishAt? := by
    funext entry
    cases entry <;> rfl
  rw [List.filterMap_filterMap, same]

/-- What was attempted before another bundle was taken up. -/
def attemptsInHand : List Entry → List (Publish × Nat)
  | [] => []
  | entry :: rest =>
    match entry.takenUp? with
    | some _ => []
    | none => entry.publishAt?.toList ++ attemptsInHand rest

/-- How many continuations fell due. -/
def wokenCount (entries : List Entry) : Nat :=
  (entries.filterMap Entry.woken?).length

/-- What was noted since a continuation fell due that had so many before it. -/
def sinceWoken : (ahead : Nat) → List Entry → Option (List Entry)
  | _, [] => none
  | ahead, entry :: rest =>
    match entry.woken? with
    | none => sinceWoken ahead rest
    | some _ => if ahead = 0 then some rest else sinceWoken (ahead - 1) rest

/-- What a dispatch attempted whose continuation had so many before it: while the bundle was
applied, and when the continuation fell due. -/
def attemptsOf (ahead : Nat) (entries : List Entry) : List (Publish × Nat) :=
  attemptsInHand entries ++ (sinceWoken ahead entries).elim [] attemptsInHand

theorem attemptsInHand_of_same {entries : List Entry}
    (same : ∀ entry ∈ entries, entry.takenUp? = none) :
    attemptsInHand entries = entries.filterMap Entry.publishAt? := by
  induction entries with
  | nil => rfl
  | cons entry rest induction =>
      have ⟨first, others⟩ := List.forall_mem_cons.mp same
      rw [attemptsInHand, first, induction others, List.filterMap_cons]
      cases entry.publishAt? <;> rfl

theorem attemptsInHand_append (early : List Entry) {late : List Entry}
    (silent : attemptsInHand late = []) :
    attemptsInHand (early ++ late) = attemptsInHand early := by
  induction early with
  | nil => exact silent
  | cons entry rest induction =>
      rw [List.cons_append, attemptsInHand, attemptsInHand]
      cases entry.takenUp? with
      | some other => rfl
      | none => rw [induction]

theorem wokenCount_append (early late : List Entry) :
    wokenCount (early ++ late) = wokenCount early + wokenCount late := by
  rw [wokenCount, List.filterMap_append, List.length_append]
  rfl

theorem wokenCount_of_unwoken {entries : List Entry}
    (unwoken : ∀ entry ∈ entries, entry.woken? = none) : wokenCount entries = 0 :=
  List.length_eq_zero_iff.mpr (List.filterMap_eq_nil_iff.mpr unwoken)

theorem sinceWoken_append {ahead : Nat} {early : List Entry} (before : wokenCount early ≤ ahead)
    (late : List Entry) :
    sinceWoken ahead (early ++ late) = sinceWoken (ahead - wokenCount early) late := by
  induction early generalizing ahead with
  | nil => rfl
  | cons entry rest induction =>
      rw [List.cons_append, sinceWoken]
      cases woken : entry.woken? with
      | none =>
          have same : wokenCount (entry :: rest) = wokenCount rest := by simp [wokenCount, woken]
          rw [same] at before ⊢
          exact induction before
      | some waiting =>
          have more : wokenCount (entry :: rest) = wokenCount rest + 1 := by
            simp [wokenCount, woken]
          have left : wokenCount rest ≤ ahead - 1 := by omega
          have place : ahead - wokenCount (entry :: rest) = ahead - 1 - wokenCount rest := by omega
          rw [place]
          exact (if_neg (by omega)).trans (induction left)

theorem sinceWoken_of_count_le {ahead : Nat} {entries : List Entry}
    (before : wokenCount entries ≤ ahead) : sinceWoken ahead entries = none := by
  have all := sinceWoken_append before []
  rwa [List.append_nil] at all

theorem sinceWoken_append_some {ahead : Nat} {early after : List Entry}
    (woken : sinceWoken ahead early = some after) (late : List Entry) :
    sinceWoken ahead (early ++ late) = some (after ++ late) := by
  induction early generalizing ahead with
  | nil => cases woken
  | cons entry rest induction =>
      rw [List.cons_append]
      unfold sinceWoken at woken ⊢
      cases wakes : entry.woken? with
      | none =>
          rw [wakes] at woken
          exact induction woken
      | some waiting =>
          rw [wakes] at woken
          dsimp only at woken ⊢
          split at woken
          · rename_i first
            rw [if_pos first, Option.some.inj woken]
          · rename_i later
            rw [if_neg later]
            exact induction woken

theorem attemptsOf_append {ahead : Nat} {entries : List Entry}
    (woken : (sinceWoken ahead entries).isSome = true) {more : List Entry}
    (silent : attemptsInHand more = []) :
    attemptsOf ahead (entries ++ more) = attemptsOf ahead entries := by
  obtain ⟨after, since⟩ := Option.isSome_iff_exists.mp woken
  rw [attemptsOf, attemptsOf, sinceWoken_append_some since, since, attemptsInHand_append _ silent]
  exact congrArg _ (attemptsInHand_append after silent)

namespace Session

variable {W : Type}

/-- Nothing is published but of bundles that are taken up, and no continuation falls due. -/
structure Passes (more : List Entry) (first last : Session W) : Prop where
  journal : last.journal = first.journal ++ more
  silent : attemptsInHand more = []
  unwoken : ∀ entry ∈ more, entry.woken? = none
  waiting : first.waiting <+: last.waiting

/-- Of a bundle that registered only the register publish went out, and the rest waits. -/
structure StillWaits (waiting : Waiting) (ahead : Nat) (register : Publish × Nat)
    (added : List Entry) (session : Session W) : Prop where
  queued : ∃ before after, session.waiting = before ++ waiting :: after ∧
    before.length + wokenCount added = ahead
  attempts : attemptsInHand added = [register]

namespace StillWaits

variable {waiting : Waiting} {ahead : Nat} {register : Publish × Nat} {added more : List Entry}
  {session last : Session W}

theorem unwoken (waits : StillWaits waiting ahead register added session) :
    sinceWoken ahead added = none := by
  obtain ⟨before, after, -, place⟩ := waits.queued
  exact sinceWoken_of_count_le (by omega)

theorem passes (waits : StillWaits waiting ahead register added session)
    (passes : Passes more session last) :
    StillWaits waiting ahead register (added ++ more) last := by
  obtain ⟨before, after, queued, place⟩ := waits.queued
  obtain ⟨newer, grown⟩ := passes.waiting
  constructor
  case queued =>
    refine ⟨before, after ++ newer, ?_, ?_⟩
    · rw [← grown, queued, List.append_assoc, List.cons_append]
    · rw [wokenCount_append, wokenCount_of_unwoken passes.unwoken]
      exact place
  case attempts => rw [attemptsInHand_append _ passes.silent, waits.attempts]

end StillWaits

variable [Surroundings W]

/-- The continuation is the first that waits, and its time has come. -/
structure FallsDue (waiting : Waiting) (start waking : Session W) : Prop where
  reached : Reaches start waking
  idle : waking.isIdle = true
  first : waking.waiting.head? = some waiting
  due : waiting.due ≤ waking.now

/-- The continuation fell due. If an account was live, the rest of the bundle went out. -/
def WentOn (waiting : Waiting) (ahead : Nat) (register : Publish × Nat) (start : Session W)
    (added : List Entry) (last : Session W) : Prop :=
  ∃ waking, FallsDue waiting start waking ∧ Reaches waking.wake last ∧
    (sinceWoken ahead added).isSome = true ∧
    attemptsOf ahead added = register ::
      if waking.hasSession then waiting.rest.map (·, waking.now) else []

theorem apply_silent (session : Session W) (bundle : Bundle) (context : DispatchContext) :
    ∃ more, (session.apply bundle context).journal = session.journal ++ more ∧
      attemptsInHand more = [] := by
  by_cases live : session.hasSession = true
  · obtain ⟨rest, grown, -⟩ := applied_journal live bundle context
    exact ⟨_, grown, rfl⟩
  · rw [apply, if_neg live]
    exact ⟨_, rfl, rfl⟩

theorem waiting_apply (session : Session W) (bundle : Bundle) (context : DispatchContext) :
    session.waiting <+: (session.apply bundle context).waiting := by
  have paced := session.outbox.pace_apply bundle context
  rw [← outbox_apply] at paced
  rcases paced with same | delays
  · have still : (session.apply bundle context).waiting = session.waiting :=
      congrArg Pace.delayed same
    exact still ▸ List.prefix_refl _
  · have grown : (session.apply bundle context).waiting = session.waiting ++ [_] :=
      congrArg Pace.delayed delays
    exact grown ▸ List.prefix_append _ _

theorem Handled.passes {session last : Session W} (handled : Handled session last)
    (still : Adds (·.woken?.isNone) session.journal last.journal) :
    ∃ more, Passes more session last := by
  obtain ⟨more, grown, unwoken⟩ := still
  have quiet : ∀ entry ∈ more, entry.woken? = none :=
    fun entry member => Option.isNone_iff_eq_none.mp (unwoken entry member)
  cases handled with
  | taking intakes journal =>
      have plain := plain_of_intakes intakes grown unwoken
      refine ⟨more, grown, ?_, quiet, ?_⟩
      · rw [attemptsInHand_of_same fun entry member => (plain entry member).1]
        exact List.filterMap_eq_nil_iff.mpr fun entry member =>
          Entry.publishAt?_of_publish? (plain entry member).2
      · have same : last.waiting = session.waiting := intakes.delayed
        exact same ▸ List.prefix_refl _
  | @applying bundle context agenda next =>
      obtain ⟨noted, applied, silent⟩ := apply_silent { session with agenda } bundle context
      have same : noted = more := List.append_cancel_left (applied.symm.trans grown)
      exact ⟨more, grown, same ▸ silent, quiet, waiting_apply { session with agenda } _ _⟩
  | @resuming first waiting next =>
      obtain ⟨rest, resumed, -⟩ := resumed_journal { session with waiting } first
      have same : .woken first :: rest = more := List.append_cancel_left (resumed.symm.trans grown)
      exact nomatch quiet (.woken first) (same ▸ List.mem_cons_self)

/-- What a continuation attempts when it falls due, and at what time. -/
theorem resumed_attempts (session : Session W) (first : Waiting) :
    ∃ rest, ((session.note (.woken first)).continuePublishing first.bundle
        first.context).journal = session.journal ++ .woken first :: rest ∧
      wokenCount rest = 0 ∧
      attemptsInHand rest =
        if session.hasSession then first.rest.map (·, session.now) else [] := by
  obtain ⟨rest, grown, same, -⟩ := resumed_journal session first
  have unwoken : wokenCount rest = 0 := wokenCount_of_unwoken fun entry member =>
    Entry.woken?_of_takenUp? (same entry member)
  refine ⟨rest, grown, unwoken, ?_⟩
  rw [attemptsInHand_of_same same]
  rw [List.append_cons] at grown
  cases live : session.hasSession with
  | true =>
      have attempted := noted_of_history grown
        (history_continuePublishing (session.note (.woken first)) live first)
      rw [filterMap_publishAt?, attempted, List.filterMap_map]
      exact congrFun List.filterMap_eq_map _
  | false =>
      rw [continuePublishing_of_done (session.note (.woken first)) first (Or.inl live)] at grown
      rw [List.self_eq_append_right.mp grown]
      rfl

theorem resumed_parked (session : Session W) (first : Waiting) :
    ((session.note (.woken first)).continuePublishing first.bundle
        first.context).settlements.pending = session.settlements.pending ++
      if session.hasSession && first.parks then [first.bundle] else [] := by
  have resumed := outbox_continuePublishing (session.note (.woken first)) first.bundle
    first.context
  rw [outbox_note_quiet session rfl] at resumed
  exact (congrArg (·.parked.pending) resumed).trans (Outbox.continuePublishing_parked _ first)

theorem move_silent (session : Session W) {next : Move W}
    (permitted : session.permits next = true) :
    ∃ more, (session.move next).journal = session.journal ++ more ∧
      attemptsInHand more = [] := by
  by_cases wakes : next.isWake = true
  · cases next with
    | wake =>
        rcases session.wake_cases with same | ⟨first, waiting, -, -, woken⟩
        · rw [move, same]
          exact ⟨[], (List.append_nil _).symm, rfl⟩
        · obtain ⟨rest, grown, -⟩ := resumed_attempts { session with waiting } first
          rw [move, woken]
          exact ⟨_, grown, rfl⟩
    | _ => cases wakes
  · obtain ⟨more, passes⟩ := (move_handled session permitted).passes
      (move_passages session (Bool.eq_false_iff.mpr wakes)).journal
    exact ⟨more, passes.journal, passes.silent⟩

section Run

variable {waiting : Waiting} {ahead : Nat} {register : Publish × Nat} {added : List Entry}
  {start session : Session W} {next : Move W}

theorem WentOn.move (wentOn : WentOn waiting ahead register start added session)
    (permitted : session.permits next = true) :
    ∃ more, (session.move next).journal = session.journal ++ more ∧
      WentOn waiting ahead register start (added ++ more) (session.move next) := by
  obtain ⟨waking, fallsDue, goesOn, woken, attempts⟩ := wentOn
  obtain ⟨more, grown, silent⟩ := move_silent session permitted
  obtain ⟨after, since⟩ := Option.isSome_iff_exists.mp woken
  refine ⟨more, grown, waking, fallsDue, goesOn.after next permitted, ?_, ?_⟩
  · rw [sinceWoken_append_some since]
    rfl
  · rw [attemptsOf_append woken silent, attempts]

/-- A wake-up leaves the rest waiting, with one continuation less ahead of it, or it is the
one that the rest waits for. -/
theorem StillWaits.wake (waits : StillWaits waiting ahead register added session)
    (reached : Reaches start session) (idle : session.isIdle = true) :
    ∃ more, session.wake.journal = session.journal ++ more ∧
      (StillWaits waiting ahead register (added ++ more) session.wake ∨
        WentOn waiting ahead register start (added ++ more) session.wake) := by
  rcases session.wake_cases with same | ⟨first, behind, queue, due, woken⟩
  · refine ⟨[], ?_, Or.inl ?_⟩
    · rw [same, List.append_nil]
    · rwa [same, List.append_nil]
  · obtain ⟨rest, grown, unwoken, attempts⟩ :=
      resumed_attempts { session with waiting := behind } first
    rw [← woken] at grown
    refine ⟨.woken first :: rest, grown, ?_⟩
    obtain ⟨before, after, queued, place⟩ := waits.queued
    have inHand : attemptsInHand (added ++ .woken first :: rest) = [register] := by
      rw [attemptsInHand_append added rfl, waits.attempts]
    cases before with
    | nil =>
        obtain ⟨rfl, -⟩ := List.cons_eq_cons.mp (queue.symm.trans queued)
        have since : sinceWoken ahead (added ++ .woken first :: rest) = some rest := by
          rw [List.length_nil, Nat.zero_add] at place
          rw [sinceWoken_append (Nat.le_of_eq place), place, Nat.sub_self]
          rfl
        refine Or.inr ⟨session, ⟨reached, idle, ?_, due⟩, .here, ?_, ?_⟩
        · rw [queue]
          rfl
        · rw [since]
          rfl
        · rw [attemptsOf, inHand, since]
          exact congrArg (register :: ·) attempts
    | cons earlier before =>
        obtain ⟨rfl, left⟩ := List.cons_eq_cons.mp (queue.symm.trans queued)
        have kept : session.wake.waiting = behind := by
          rw [woken]
          have paced := Outbox.pace_continuePublishing
            ({ session with waiting := behind }.note (.woken first)).outbox first.bundle
            first.context
          rw [← outbox_continuePublishing] at paced
          exact congrArg Pace.delayed paced
        refine Or.inl ⟨⟨before, after, kept.trans left, ?_⟩, inHand⟩
        have one : wokenCount (.woken first :: rest) = 1 := congrArg (· + 1) unwoken
        rw [wokenCount_append, one]
        rw [List.length_cons] at place
        omega

theorem StillWaits.move (waits : StillWaits waiting ahead register added session)
    (reached : Reaches start session) (permitted : session.permits next = true) :
    ∃ more, (session.move next).journal = session.journal ++ more ∧
      (StillWaits waiting ahead register (added ++ more) (session.move next) ∨
        WentOn waiting ahead register start (added ++ more) (session.move next)) := by
  by_cases wakes : next.isWake = true
  · cases next with
    | wake => exact waits.wake reached permitted
    | _ => cases wakes
  · obtain ⟨more, passes⟩ := (move_handled session permitted).passes
      (move_passages session (Bool.eq_false_iff.mpr wakes)).journal
    exact ⟨more, passes.journal, Or.inl (waits.passes passes)⟩

/-- Whatever is done to the session, the rest of the bundle waits until it goes out. -/
theorem waits_or_wentOn {journal : List Entry} {last : Session W}
    (grown : start.journal = journal ++ added)
    (waits : StillWaits waiting ahead register added start) (goesOn : Reaches start last) :
    ∃ added, last.journal = journal ++ added ∧
      (StillWaits waiting ahead register added last ∨
        WentOn waiting ahead register start added last) := by
  induction goesOn with
  | here => exact ⟨added, grown, Or.inl waits⟩
  | after next before permitted induction =>
      obtain ⟨added, grew, waits | wentOn⟩ := induction
      · obtain ⟨more, moved, outcome⟩ := waits.move before permitted
        exact ⟨added ++ more, by rw [moved, grew, List.append_assoc], outcome⟩
      · obtain ⟨more, moved, outcome⟩ := wentOn.move permitted
        exact ⟨added ++ more, by rw [moved, grew, List.append_assoc], Or.inr outcome⟩

end Run

theorem step_registers {session : Session W} {bundle : Bundle} {context : DispatchContext}
    {agenda : List Work} {register : Publish}
    (next : session.agenda = .dispatch bundle context :: agenda)
    (live : session.hasSession = true) (registers : bundle.register = some register)
    (unsettled : bundle.settlement = none ∨ context.skipSettlement = true) :
    session.step.settlements.pending.Sublist session.settlements.pending ∧
      ∃ added, session.step.journal = session.journal ++ .applied bundle context :: added ∧
        StillWaits ⟨session.now + sleepTime session.config.registerDelay, bundle, context⟩
          session.waiting.length (register, session.now) added session.step := by
  have stepped := outbox_step_dispatch next live
  rw [Outbox.publishPhase_registers _ registers unsettled] at stepped
  let noted : Outbox := { session.outbox with ready := agenda.filterMap Work.dispatch? }.note
    (.applied bundle context)
  have paced : (noted.confirm bundle).pace = session.outbox.pace := noted.pace_confirm bundle
  have history : session.step.history = session.history ++
      [.applied bundle context, .attempted register session.now] := by
    have attempted := congrArg Outbox.history stepped
    have now : (noted.confirm bundle).now = session.now := congrArg Pace.now paced
    refine attempted.trans ?_
    change (noted.confirm bundle).history ++ [.attempted register (noted.confirm bundle).now] = _
    rw [now, Outbox.confirm_history]
    exact List.append_assoc _ _ _
  have waits : session.step.waiting = session.waiting ++
      [⟨session.now + sleepTime session.config.registerDelay, bundle, context⟩] :=
    (congrArg Outbox.delayed stepped).trans (congrArg (fun pace : Pace =>
      pace.delayed ++ [⟨pace.now + pace.pause, bundle, context⟩]) paced)
  have parked : session.step.settlements.pending.Sublist session.settlements.pending := by
    have fewer := noted.confirm_parked bundle
    exact (congrArg (·.parked.pending) stepped) ▸ fewer
  have lives : ({ session with agenda } : Session W).hasSession = true := live
  obtain ⟨added, grown, same⟩ := applied_journal lives bundle context
  rw [← step_eq_apply next] at grown
  refine ⟨parked, added, grown, ⟨session.waiting, [], waits, ?_⟩, ?_⟩
  · rw [wokenCount_of_unwoken fun entry member => Entry.woken?_of_takenUp? (same entry member)]
    rfl
  · have happened := noted_of_history grown history
    rw [attemptsInHand_of_same same, filterMap_publishAt?]
    exact congrArg (List.filterMap Happening.publishAt?) (List.cons_eq_cons.mp happened).2

theorem FallsDue.parked {waiting : Waiting} {start waking : Session W}
    (fallsDue : FallsDue waiting start waking) :
    waking.wake.settlements.pending = waking.settlements.pending ++
      if waking.hasSession && waiting.parks then [waiting.bundle] else [] := by
  obtain ⟨behind, queue⟩ := List.head?_eq_some_iff.mp fallsDue.first
  have woken : waking.wake = ({ waking with waiting := behind }.note
      (.woken waiting)).continuePublishing waiting.bundle waiting.context := by
    unfold Session.wake
    rw [queue]
    exact if_pos fallsDue.due
  rw [woken]
  exact resumed_parked { waking with waiting := behind } waiting

/-- What waits cannot be due with nothing due before it. -/
theorem exists_due {config : Config} {outside : W} {session : Session W} {waiting : Waiting}
    (reached : Reaches (new config outside) session) (waits : waiting ∈ session.waiting)
    (due : waiting.due ≤ session.now) :
    ∃ first ∈ session.waiting.head?, first.due ≤ session.now := by
  have punctual : session.outbox.pace.Punctual :=
    reached.steps.punctual ⟨List.Pairwise.nil, List.forall_mem_nil _⟩
  have ordered : session.waiting.Pairwise (·.due ≤ ·.due) := punctual.ordered
  cases queue : session.waiting with
  | nil =>
      rw [queue] at waits
      cases waits
  | cons first behind =>
      rw [queue] at waits ordered
      refine ⟨first, rfl, ?_⟩
      cases List.mem_cons.mp waits with
      | inl same => exact same ▸ due
      | inr later => exact Nat.le_trans ((List.pairwise_cons.mp ordered).1 waiting later) due

/-- When a bundle is applied that registers, and does not stop at a settlement, its register
publish is attempted at once. Whatever is done to the session then, all else that the bundle
publishes waits for as long as the session is told to, but no longer than anything sleeps, and
no longer than it takes until nothing is due. When it falls due, nothing is attempted unless an
account is live; otherwise the asynchronous payment is, and the bundle is parked once, or each
of the other publishes is, in their order. -/
theorem registers_before_the_rest {config : Config} {outside : W} {session last : Session W}
    {bundle : Bundle} {context : DispatchContext} {agenda : List Work} {register : Publish}
    (reached : Reaches (new config outside) session)
    (next : session.agenda = .dispatch bundle context :: agenda)
    (live : session.hasSession = true) (registers : bundle.register = some register)
    (unsettled : bundle.settlement = none ∨ context.skipSettlement = true)
    (goesOn : Reaches session.step last) :
    let pause := min session.config.registerDelay longestSleep
    let waiting : Waiting := { due := session.now + pause, bundle, context }
    let ahead := session.waiting.length
    session.step.settlements.pending.Sublist session.settlements.pending ∧
      ∃ added, last.journal = session.journal ++ .applied bundle context :: added ∧
        ((sinceWoken ahead added = none ∧ attemptsOf ahead added = [(register, session.now)] ∧
          waiting ∈ last.waiting ∧
          (waiting.due ≤ last.now → ∃ first ∈ last.waiting.head?, first.due ≤ last.now)) ∨
        ∃ waking, FallsDue waiting session.step waking ∧ Reaches waking.wake last ∧
          attemptsOf ahead added = (register, session.now) ::
            (if waking.hasSession then waiting.rest.map (·, waking.now) else []) ∧
          waking.wake.settlements.pending = waking.settlements.pending ++
            if waking.hasSession && waiting.parks then [bundle] else []) := by
  intro pause waiting ahead
  obtain ⟨parked, noted, grown, waits⟩ := step_registers next live registers unsettled
  rw [List.append_cons] at grown
  obtain ⟨added, grew, either⟩ := waits_or_wentOn grown waits goesOn
  rw [← List.append_cons] at grew
  refine ⟨parked, added, grew, ?_⟩
  rcases either with waits | ⟨waking, fallsDue, woken, -, attempts⟩
  · have unwoken := waits.unwoken
    obtain ⟨before, after, queued, -⟩ := waits.queued
    have inside : waiting ∈ last.waiting := queued ▸ List.mem_append_right _ List.mem_cons_self
    have whole : Reaches (new config outside) last := (reached.after .step rfl).trans goesOn
    refine Or.inl ⟨unwoken, ?_, inside, exists_due whole inside⟩
    rw [attemptsOf, unwoken, waits.attempts]
    rfl
  · exact Or.inr ⟨waking, fallsDue, woken, attempts, fallsDue.parked⟩

/-! Another bundle registers before, and the caller connects again during the delay. -/

def paysAfterwards : Bundle where
  messages := [{ tag := some "pay-tag" }]
  register := some ⟨"register", [3]⟩
  asyncPay := some ⟨"pay", [4]⟩
  publishes := [⟨"never", [5]⟩]

/-- The second bundle is next to be applied. -/
def payingNext : Session Bench :=
  [Move.advance 100, .perform (.dispatch paysAfterwards {})].foldl move registeredRun

def paidLaterMoves : List (Move Bench) :=
  [.advance 150, .wake, .perform .reconnect, .receive 3 .connected, .advance 100, .step, .step,
    .step, .step, .wake]

def paidLater : Session Bench :=
  paidLaterMoves.foldl move payingNext.step

theorem registers_before_the_rest_paidLater :
    Reaches payingNext.step paidLater ∧
      attemptsOf 1 ((paidLater.since payingNext).drop 1) =
        [(⟨"register", [3]⟩, 100), (⟨"pay", [4]⟩, 350)] ∧
      ∃ waking, FallsDue ⟨350, paysAfterwards, {}⟩ payingNext.step waking ∧
        Reaches waking.wake paidLater ∧ waking.now = 350 ∧
        waking.wake.settlements.pending = waking.settlements.pending ++ [paysAfterwards] := by
  have reached : Reaches (new .test (.new 7)) payingNext :=
    registeredRun_reached.moves (by decide +kernel)
  have agenda : payingNext.agenda = [.dispatch paysAfterwards {}] := by decide +kernel
  have live : payingNext.hasSession = true := by decide +kernel
  have goesOn : Reaches payingNext.step paidLater := Reaches.here.moves (by decide +kernel)
  obtain ⟨-, added, grown, outcome⟩ :=
    registers_before_the_rest reached agenda live rfl (Or.inl rfl) goesOn
  have since : (paidLater.since payingNext).drop 1 = added := by
    rw [Session.since, grown, List.drop_left]
    rfl
  have attempts : attemptsOf 1 ((paidLater.since payingNext).drop 1) =
      [(⟨"register", [3]⟩, 100), (⟨"pay", [4]⟩, 350)] := by decide +kernel
  refine ⟨goesOn, attempts, ?_⟩
  rw [since] at attempts
  have place : payingNext.waiting.length = 1 := by decide +kernel
  rw [place] at outcome
  rcases outcome with ⟨-, alone, -⟩ | ⟨waking, fallsDue, woken, both, parked⟩
  · rw [attempts] at alone
    cases alone
  · rw [attempts] at both
    cases lives : waking.hasSession with
    | false =>
        rw [lives] at both
        cases both
    | true =>
        rw [lives] at both parked
        have paid : [((⟨"pay", [4]⟩ : Publish), 350)] = [(⟨"pay", [4]⟩, waking.now)] :=
          (List.cons_eq_cons.mp both).2
        have time : waking.now = 350 := (by simpa using paid : 350 = waking.now).symm
        exact ⟨waking, fallsDue, woken, time, parked⟩

/-! A delay that is longer than anything sleeps. -/

def patient : Config :=
  { Config.test with registerDelay := 1000000000000 }

def registeringNext : Session Bench :=
  (registeringMoves.take 2).foldl move (new patient (.new 7))

def sleptThrough : Session Bench :=
  [Move.advance longestSleep, .wake].foldl move registeringNext.step

/-- The rest of the bundle is attempted before the register delay is over. -/
theorem rest_before_register_delay :
    Reaches (new patient (.new 7)) registeringNext ∧
      registeringNext.agenda = [.dispatch registersFirst {}] ∧
      registeringNext.hasSession = true ∧ registersFirst.settlement = none ∧
      Reaches registeringNext.step sleptThrough ∧
      attemptsOf registeringNext.waiting.length ((sleptThrough.since registeringNext).drop 1) =
        [(⟨"register", [1]⟩, 0), (⟨"after", [2]⟩, 946080000000)] ∧
      946080000000 < 0 + patient.registerDelay :=
  ⟨Reaches.here.moves (by decide +kernel), by decide +kernel, by decide +kernel, rfl,
    Reaches.here.moves (by decide +kernel), by decide +kernel, by decide⟩

end Session

end Messenger

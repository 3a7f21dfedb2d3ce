import Messenger.Proofs.Session.Ledger
import Messenger.Proofs.Session.RoundTrips
import Messenger.Proofs.Session.Turns

/-!
How often a round trip is confirmed. Each time that the bundle which announces it is
applied, it is tracked again, and each time that it is tracked, it is confirmed once at
most. So nothing but the bundle's being taken up again after a confirmation lets the core
hear of the round trip twice.
-/

namespace Messenger

/-- The bundle that came in, if its round trip has this time. -/
def Happening.userOf? (time : UInt64) : Happening → Option Bundle
  | .received bundle context _ =>
    if bundle.announced? = some time ∨ context.startedPing = some time then some bundle
    else none
  | _ => none

/-- The bundle announces the time, and nothing else that came in uses it. -/
structure Bundle.Owns (bundle : Bundle) (time : UInt64) (history : List Happening) : Prop where
  announces : bundle.announced? = some time
  alone : ∀ user ∈ history.filterMap (Happening.userOf? time), user = bundle

namespace Bundle

variable {bundle other : Bundle} {time : UInt64} {history more : List Happening}

theorem Owns.of_prefix (owns : bundle.Owns time more) (grown : history <+: more) :
    bundle.Owns time history :=
  ⟨owns.announces, fun user uses => owns.alone user ((grown.filterMap _).subset uses)⟩

theorem Owns.eq_of_received (owns : bundle.Owns time history) {context : DispatchContext}
    {live : Bool} (received : .received other context live ∈ history)
    (uses : other.announced? = some time ∨ context.startedPing = some time) :
    other = bundle :=
  owns.alone other (List.mem_filterMap.mpr ⟨_, received, if_pos uses⟩)

theorem applications_le_of_prefix (bundle : Bundle) (grown : history <+: more) :
    (bundle.applications history).length ≤ (bundle.applications more).length :=
  (grown.filterMap _).length_le

/-- Apart from when it is taken up again, a bundle is applied no more often than it came
in. -/
theorem applications_le_of_counted {outbox : Outbox} (counted : outbox.Counted bundle) :
    (bundle.applications outbox.history).length ≤
      (bundle.receptions outbox.history).length +
        (bundle.applications outbox.history).countP (·.isRelease) := by
  have split : (bundle.applications outbox.history).length =
      (bundle.applications outbox.history).countP (·.isRelease) +
        (bundle.applications outbox.history).countP (!·.isRelease) := by
    simpa using (bundle.applications outbox.history).length_eq_countP_add_countP
      DispatchContext.isRelease
  unfold Outbox.Counted at counted
  omega

end Bundle

namespace Session

variable {W : Type} {bundle : Bundle} {time : UInt64}

/-- The round trip is confirmed, or may yet be, no more often than its bundle was applied. -/
def Accounted (bundle : Bundle) (time : UInt64) (session : Session W) : Prop :=
  session.ledger.pledged time ≤ (bundle.applications session.history).length

/-- An invoice was paid with the bundle, which may have its round trip tracked already and
comes next. -/
structure Paid (bundle : Bundle) (time : UInt64) (session : Session W) : Prop where
  next : ∃ context rest, session.agenda = .dispatch bundle context :: rest
  live : session.hasSession = true
  confirmed : session.ledger.confirmed time ≤ (bundle.applications session.history).length

theorem Accounted.of_le {first last : Session W} (accounted : first.Accounted bundle time)
    (pledged : last.ledger.pledged time ≤ first.ledger.pledged time)
    (grown : first.history <+: last.history) : last.Accounted bundle time :=
  (pledged.trans accounted).trans (bundle.applications_le_of_prefix grown)

theorem Accounted.of_same {first last : Session W} (accounted : first.Accounted bundle time)
    (ledger : last.ledger = first.ledger) (grown : first.history <+: last.history) :
    last.Accounted bundle time :=
  accounted.of_le (Nat.le_of_eq (congrArg (Ledger.pledged · time) ledger)) grown

variable [Surroundings W]

/-- What a payment leaves that the core answered while nothing was on the agenda. -/
structure Answered (hash : String) (begun : UInt64) (answer : Bundle)
    (first last : Session W) : Prop where
  live : first.hasSession = true
  agenda : last.agenda = [.dispatch answer (.started begun)]
  outbox : last.outbox = first.outbox.accept answer (.started begun)
  ledger : last.ledger = { first.ledger with tracked := first.liveness.record hash begun }

theorem answered_payInvoice {session called : Session W} (idle : session.isIdle = true)
    {invoice hash : String} {answer : Bundle} {stamp : UInt64}
    (known : Surroundings.paymentHash session.outside invoice = .ok hash)
    (result : session.runCall (.payInvoice invoice) = (called, .ok (answer, stamp))) :
    Answered hash (answer.announced?.getD stamp) answer session
      (session.perform (.payInvoice invoice)).1 := by
  have calls := runCall_answered result
  have unmoved := outbox_runCall session (.payInvoice invoice)
  have unconfirming : (CoreCall.payInvoice invoice).confirmed? = none := rfl
  have unasked := session.ledger_runCall_quiet unconfirming
  rw [result] at unmoved unasked
  change Answered hash _ answer session (reported (session.tryPayInvoice invoice)).1
  rw [tryPayInvoice_begins known result]
  constructor
  case live =>
    obtain ⟨account, _, _, lives, -⟩ := calls.entries
    rw [hasSession, lives]
    rfl
  case agenda =>
    rw [isIdle, Bool.and_eq_true, List.isEmpty_iff] at idle
    have agenda : called.agenda = [] := (congrArg Session.agenda calls.rest :).trans idle.1
    exact congrArg (· ++ _) agenda
  case outbox =>
    rw [← unmoved]
    exact outbox_accept _ answer _
  case ledger =>
    have liveness : called.liveness = session.liveness := congrArg Ledger.tracked unasked
    rw [← unasked, ← liveness]
    exact ledger_accept _ answer _

omit [Surroundings W] in
theorem Accounted.answered {first last : Session W} (accounted : first.Accounted bundle time)
    {hash : String} {begun : UInt64} {answer : Bundle}
    (answered : Answered hash begun answer first last)
    (owns : bundle.Owns time last.history) :
    last.Accounted bundle time ∨ last.Paid bundle time := by
  have history : last.history =
      first.history ++ [.received answer (.started begun) first.hasSession] :=
    congrArg Outbox.history answered.outbox
  have grown : first.history <+: last.history := history ▸ List.prefix_append _ _
  by_cases same : begun = time
  · have received : .received answer (.started begun) first.hasSession ∈ last.history :=
      history ▸ List.mem_append_right _ List.mem_cons_self
    have own : answer = bundle := owns.eq_of_received received (Or.inr (congrArg some same))
    right
    constructor
    case next => exact ⟨.started begun, [], own ▸ answered.agenda⟩
    case live =>
      have live : last.hasSession = first.hasSession := congrArg Outbox.live answered.outbox
      exact live.trans answered.live
    case confirmed =>
      have within := (first.ledger.confirmed_le_pledged time).trans accounted
      rw [answered.ledger]
      exact within.trans (bundle.applications_le_of_prefix grown)
  · left
    refine accounted.of_le ?_ grown
    rw [answered.ledger]
    exact Ledger.pledged_le_of_tracks (Liveness.tracks_record same)

theorem Accounted.payInvoice {session : Session W} (accounted : session.Accounted bundle time)
    (idle : session.isIdle = true) {invoice : String}
    (owns : bundle.Owns time (session.perform (.payInvoice invoice)).1.history) :
    (session.perform (.payInvoice invoice)).1.Accounted bundle time ∨
      (session.perform (.payInvoice invoice)).1.Paid bundle time := by
  have grown : session.history <+: (session.perform (.payInvoice invoice)).1.history :=
    Outbox.Steps.history_prefix (perform_steps session _ (ready_of_isIdle idle))
  have performed : (session.perform (.payInvoice invoice)).1 =
      (reported (session.tryPayInvoice invoice)).1 := rfl
  cases known : Surroundings.paymentHash session.outside invoice with
  | error reason =>
      have refused : (session.tryPayInvoice invoice).1 = session := by
        simp only [tryPayInvoice, known]
      refine Or.inl (accounted.of_same ?_ grown)
      rw [performed, ledger_reported, refused]
  | ok hash =>
      rcases result : session.runCall (.payInvoice invoice) with
        ⟨called, error | ⟨answer, stamp⟩⟩
      · have refused : (session.tryPayInvoice invoice).1 = called := by
          simp only [tryPayInvoice, known, result]
        have unconfirming : (CoreCall.payInvoice invoice).confirmed? = none := rfl
        have unasked := session.ledger_runCall_quiet unconfirming
        rw [result] at unasked
        refine Or.inl (accounted.of_same ?_ grown)
        rw [performed, ledger_reported, refused, unasked]
      · exact accounted.answered (answered_payInvoice idle known result) owns

/-- A bundle that is applied may have its round trip confirmed once more. -/
theorem accounted_of_applied {session : Session W} {context : DispatchContext}
    {rest : List Work} (next : session.agenda = .dispatch bundle context :: rest)
    (live : session.hasSession = true)
    (confirmed : session.ledger.confirmed time ≤
      (bundle.applications session.history).length) :
    session.step.Accounted bundle time := by
  have popped := ledger_pop next rfl
  have lives : { session with agenda := rest }.hasSession = true := live
  have pledged : session.step.ledger.pledged time ≤ session.ledger.confirmed time + 1 := by
    rw [step_eq_apply next, ← popped]
    exact (pledged_apply lives bundle context time).1
  have noted := bundle.applications_le_of_prefix (history_step_dispatch next live)
  rw [Bundle.applications_concat, Happening.applicationOf?, if_pos rfl, List.length_append]
    at noted
  exact pledged.trans ((Nat.add_le_add_right confirmed 1).trans noted)

theorem Paid.step {session : Session W} (paid : session.Paid bundle time) :
    session.step.Accounted bundle time := by
  obtain ⟨context, rest, next⟩ := paid.next
  exact accounted_of_applied next paid.live paid.confirmed

theorem Accounted.step {session : Session W} (accounted : session.Accounted bundle time)
    (known : session.outbox.Known) (owns : bundle.Owns time session.history) :
    session.step.Accounted bundle time := by
  have grown : session.history <+: session.step.history :=
    Outbox.Steps.history_prefix (step_steps session)
  by_cases dispatched : ∃ other context rest, session.agenda = .dispatch other context :: rest
  · obtain ⟨other, context, rest, next⟩ := dispatched
    have popped := ledger_pop next rfl
    cases live : session.hasSession with
    | false =>
        have closed : { session with agenda := rest }.hasSession = false := live
        refine accounted.of_same ?_ grown
        rw [step_eq_apply next, ledger_apply_closed closed, popped]
    | true =>
        by_cases same : other = bundle
        · subst same
          exact accounted_of_applied next live
            ((Ledger.confirmed_le_pledged _ _).trans accounted)
        · have lives : { session with agenda := rest }.hasSession = true := live
          have ready : other ∈ session.outbox.bundles := by
            simp [Outbox.bundles, outbox, next, Work.dispatch?]
          obtain ⟨came, lived, received⟩ := known other ready
          have silent : other.announced? ≠ some time :=
            fun announces => same (owns.eq_of_received received (Or.inl announces))
          refine accounted.of_le ?_ grown
          rw [step_eq_apply next, ← popped]
          exact (pledged_apply lives other context time).2 silent
  · have undispatched : ∀ other context rest, session.agenda ≠ .dispatch other context :: rest :=
      fun other context rest next => dispatched ⟨other, context, rest, next⟩
    exact accounted.of_le (pledged_step session undispatched time) grown

theorem Accounted.move {session : Session W} (accounted : session.Accounted bundle time)
    (known : session.outbox.Known) {next : Move W} (permitted : session.permits next = true)
    (owns : bundle.Owns time (session.move next).history) :
    (session.move next).Accounted bundle time ∨ (session.move next).Paid bundle time := by
  have grown : session.history <+: (session.move next).history :=
    Outbox.Steps.history_prefix (move_steps session next permitted)
  cases next with
  | perform operation =>
      by_cases pays : ∃ invoice, operation = .payInvoice invoice
      · obtain ⟨invoice, rfl⟩ := pays
        exact accounted.payInvoice permitted owns
      · have unpaid : ∀ invoice, operation ≠ .payInvoice invoice :=
          fun invoice same => pays ⟨invoice, same⟩
        exact Or.inl (accounted.of_le (pledged_perform session unpaid time) grown)
  | receive generation event =>
      exact Or.inl (accounted.of_same (ledger_of_changes (by decide) (.receive session generation event)) grown)
  | wake => exact Or.inl (accounted.of_same (ledger_of_changes (by decide) (.wake session)) grown)
  | step => exact Or.inl (accounted.step known (owns.of_prefix grown))
  | advance millis => exact Or.inl accounted
  | surround outside => exact Or.inl accounted

theorem Paid.move {session : Session W} (paid : session.Paid bundle time) {next : Move W}
    (permitted : session.permits next = true) :
    (session.move next).Accounted bundle time ∨ (session.move next).Paid bundle time := by
  have busy : session.isIdle = false := by
    obtain ⟨context, rest, agenda⟩ := paid.next
    rw [isIdle, agenda]
    rfl
  cases next with
  | perform operation => exact absurd permitted (Bool.eq_false_iff.mp busy)
  | receive generation event => exact absurd permitted (Bool.eq_false_iff.mp busy)
  | wake => exact absurd permitted (Bool.eq_false_iff.mp busy)
  | step => exact Or.inl paid.step
  | advance millis => exact Or.inr ⟨paid.next, paid.live, paid.confirmed⟩
  | surround outside => exact Or.inr ⟨paid.next, paid.live, paid.confirmed⟩

theorem Reaches.accounted {initial session : Session W} (reached : Reaches initial session)
    (known : initial.outbox.Known) (start : initial.Accounted bundle time)
    (owns : bundle.Owns time session.history) :
    session.Accounted bundle time ∨ session.Paid bundle time := by
  induction reached with
  | here => exact Or.inl start
  | @after session next before permitted induction =>
      have grown : session.history <+: (session.move next).history :=
        Outbox.Steps.history_prefix (move_steps session next permitted)
      rcases induction (owns.of_prefix grown) with accounted | paid
      · exact accounted.move (before.steps.known known) permitted owns
      · exact paid.move permitted

/-- The round trip of a bundle is confirmed at most once for each time that the bundle came
in, and once more for each time that it was taken up again. -/
theorem confirmed_le_receptions {config : Config} {outside : W} {session : Session W}
    (reached : Reaches (new config outside) session)
    (owns : bundle.Owns time session.history) :
    session.ledger.confirmed time ≤
      (bundle.receptions session.history).length +
        (bundle.applications session.history).countP (·.isRelease) := by
  have known : (new config outside).outbox.Known :=
    fun _ member => absurd member List.not_mem_nil
  have counted : (new config outside).outbox.Counted bundle := Nat.le_refl _
  refine Nat.le_trans ?_ (Bundle.applications_le_of_counted (reached.steps.counted counted))
  rcases reached.accounted known (Nat.zero_le _) owns with accounted | paid
  · exact (Ledger.confirmed_le_pledged _ _).trans accounted
  · exact paid.confirmed

def announcesFive : Bundle where
  messages := [{ index := some "42" }]
  ping := some "hash:5"
  settlement := some ⟨"settle", [1]⟩

def confirmsFive : Bundle where
  messages := [{ index := some "7", paymentHash := some "hash" }]

def announcedBench : Bench :=
  { Bench.new 7 with
    script := {
      inbound := [([1], announcesFive), ([2], confirmsFive), ([3], settlesFortyTwo)] } }

/-- A payload comes in, and what the core answers is applied. -/
def hears (payload : UInt8) : List (Move Bench) :=
  [.receive 1 (.message "02me/0/res/stream" [payload]), .step, .step]

/-- The round trip is confirmed, its bundle is settled and taken up again, and then the
message that confirms the round trip comes in once more. -/
def announcedMoves : List (Move Bench) :=
  .perform (.start "broker" twelveWords {}) :: hears 1 ++ hears 2 ++ [.step, .step] ++
    hears 3 ++ [.step] ++ hears 2 ++ [.step]

def announcedRun : Session Bench :=
  announcedMoves.foldl move (new .test announcedBench)

theorem announcedRun_reached : Reaches (new .test announcedBench) announcedRun :=
  Reaches.here.moves (by decide +kernel)

theorem announcesFive_owns : announcesFive.Owns 5 announcedRun.history :=
  ⟨by decide +kernel, by decide +kernel⟩

theorem confirmed_le_receptions_announcedRun :
    announcesFive.Owns 5 announcedRun.history ∧
      announcedRun.ledger.confirmed 5 ≤
        (announcesFive.receptions announcedRun.history).length +
          (announcesFive.applications announcedRun.history).countP (·.isRelease) :=
  ⟨announcesFive_owns, confirmed_le_receptions announcedRun_reached announcesFive_owns⟩

/-- A bundle that came in once has the core hear of its round trip twice. -/
theorem confirmed_twice :
    Reaches (new .test announcedBench) announcedRun ∧
      announcesFive.Owns 5 announcedRun.history ∧
      announcesFive.receptions announcedRun.history = [(.inbound "02me/0/res/stream", true)] ∧
      announcedRun.ledger.made = [5, 5] :=
  ⟨announcedRun_reached, announcesFive_owns, by decide +kernel, by decide +kernel⟩

end Session

end Messenger

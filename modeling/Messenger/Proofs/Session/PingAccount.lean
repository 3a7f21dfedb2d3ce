import Mathlib.Data.List.Nodup
import Messenger.Proofs.Session.Ledger
import Messenger.Proofs.Session.RoundTrips

/-!
The round trips that one application of a bundle tracks and ends. It tracks its own, under the
hash of its ping and the tags of its messages; then its messages end others one after another,
and so may its error. Each end takes every key of that round trip, so none is ended twice.
-/

namespace Messenger

namespace Liveness

def purgeAll (liveness : Liveness) (times : List UInt64) : Liveness :=
  times.foldl purge liveness

@[simp] theorem purgeAll_nil (liveness : Liveness) : liveness.purgeAll [] = liveness := rfl

@[simp] theorem purgeAll_cons (liveness : Liveness) (time : UInt64) (times : List UInt64) :
    liveness.purgeAll (time :: times) = (liveness.purge time).purgeAll times := rfl

theorem purgeAll_append (liveness : Liveness) (early late : List UInt64) :
    liveness.purgeAll (early ++ late) = (liveness.purgeAll early).purgeAll late :=
  List.foldl_append

theorem timestamp?_purgeAll (liveness : Liveness) (times : List UInt64) (key : String) :
    (liveness.purgeAll times).timestamp? key = (liveness.timestamp? key).filter (· ∉ times) := by
  induction times generalizing liveness with
  | nil =>
      rw [purgeAll_nil]
      cases liveness.timestamp? key <;> rfl
  | cons time rest induction =>
      rw [purgeAll_cons, induction, timestamp?_purge, Option.filter_filter]
      congr 1
      funext other
      rw [Bool.eq_iff_iff]
      simp

theorem timestamp?_recordAll (liveness : Liveness) (keys : List String) (timestamp : UInt64)
    (other : String) :
    (liveness.recordAll keys timestamp).timestamp? other =
      if other ∈ keys ∧ other ≠ "" then some timestamp else liveness.timestamp? other := by
  induction keys generalizing liveness with
  | nil => simp [recordAll]
  | cons key rest induction =>
      rw [recordAll, List.foldl_cons, ← recordAll, induction, timestamp?_record]
      by_cases named : other = "" <;> by_cases same : other = key <;>
        by_cases inside : other ∈ rest <;> simp_all

end Liveness

theorem nodup_confirmedTimes (started : Option UInt64) (liveness : Liveness)
    (messages : List Message) : (confirmedTimes started liveness messages).Nodup := by
  induction messages generalizing liveness with
  | nil => exact .nil
  | cons message rest induction =>
      unfold confirmedTimes
      split
      · exact induction liveness
      · split
        · exact induction liveness
        · refine List.nodup_cons.mpr ⟨fun again => ?_, induction _⟩
          obtain ⟨-, other, -, tracked⟩ := mem_confirmedTimes.mp again
          exact (Liveness.bind_timestamp?_purge.mp tracked).2 rfl

/-- Whatever is ended was still tracked when the turn came to a message that bears its hash. -/
theorem exists_message_of_confirmedTimes {started : Option UInt64} {liveness : Liveness}
    {messages : List Message} {before after : List UInt64} {time : UInt64}
    (split : confirmedTimes started liveness messages = before ++ time :: after) :
    ∃ early message late, messages = early ++ message :: late ∧
      confirmedTimes started liveness early = before ∧
      message.hash?.bind (liveness.purgeAll before).timestamp? = some time := by
  induction messages generalizing liveness before with
  | nil => simp [confirmedTimes] at split
  | cons message rest induction =>
      unfold confirmedTimes at split
      split at split
      · rename_i untracked
        obtain ⟨early, found, late, rfl, same, tracked⟩ := induction split
        refine ⟨message :: early, found, late, rfl, ?_, tracked⟩
        rw [confirmedTimes, untracked]
        exact same
      · rename_i own tracksOwn
        split at split
        · rename_i begun
          obtain ⟨early, found, late, rfl, same, tracked⟩ := induction split
          refine ⟨message :: early, found, late, rfl, ?_, tracked⟩
          rw [confirmedTimes, tracksOwn]
          exact (if_pos begun).trans same
        · rename_i foreign
          cases before with
          | nil =>
              obtain rfl : own = time := (List.cons.inj split).1
              exact ⟨[], message, rest, rfl, rfl, tracksOwn⟩
          | cons first before =>
              obtain ⟨rfl, others⟩ := List.cons.inj split
              obtain ⟨early, found, late, rfl, same, tracked⟩ := induction others
              refine ⟨message :: early, found, late, rfl, ?_, tracked⟩
              rw [confirmedTimes, tracksOwn]
              exact (if_neg foreign).trans (congrArg _ same)

namespace Bundle

/-- The timestamp that a key gets from the bundle's own ping: as its hash, or as the tag of one
of the messages. -/
def tracks? (bundle : Bundle) (key : String) : Option UInt64 :=
  bundle.ping.bind fun raw =>
    match Ping.parse raw with
    | .ok ping =>
      if key ≠ "" ∧ (key = ping.paymentHash ∨ key ∈ bundle.messageTags) then some ping.timestamp
      else none
    | .error _ => none

/-- The round trip of a key that the bundle's error names. -/
def failedTimes (bundle : Bundle) (liveness : Liveness) : List UInt64 :=
  ((bundle.error.bind liveness.keyMentionedIn?).bind liveness.timestamp?).toList

theorem exists_error_of_failedTimes {bundle : Bundle} {liveness : Liveness} {time : UInt64}
    (failed : time ∈ bundle.failedTimes liveness) :
    ∃ error key, bundle.error = some error ∧ liveness.keyMentionedIn? error = some key ∧
      liveness.timestamp? key = some time := by
  obtain ⟨key, mentioned, found⟩ := Option.bind_eq_some_iff.mp (Option.mem_toList.mp failed)
  obtain ⟨error, reported, names⟩ := Option.bind_eq_some_iff.mp mentioned
  exact ⟨error, key, reported, names, found⟩

end Bundle

namespace Ledger

/-- Round trips end one after another, and a confirmation of each is due. -/
def endAll (ledger : Ledger) (times : List UInt64) : Ledger :=
  { ledger with tracked := ledger.tracked.purgeAll times, due := ledger.due ++ times }

@[simp] theorem endAll_nil (ledger : Ledger) : ledger.endAll [] = ledger := by
  simp [endAll]

theorem complete_eq (ledger : Ledger) (key : String) :
    ledger.complete key = ledger.endAll (ledger.tracked.timestamp? key).toList := by
  unfold complete Liveness.complete
  cases ledger.tracked.timestamp? key with
  | none => exact ledger.endAll_nil.symm
  | some time => rfl

end Ledger

namespace Session

variable {W : Type}

theorem timestamp?_recordPing (session : Session W) (bundle : Bundle) (key : String) :
    (session.recordPing bundle).1.liveness.timestamp? key =
      (bundle.tracks? key <|> session.liveness.timestamp? key) := by
  unfold recordPing Bundle.tracks?
  cases bundle.ping with
  | none => rfl
  | some raw =>
      rw [Option.map_some, Option.bind_some]
      cases Ping.parse raw with
      | error fault => rfl
      | ok ping =>
          dsimp only
          rw [Liveness.timestamp?_recordAll, Liveness.timestamp?_record]
          by_cases named : key = "" <;> by_cases own : key = ping.paymentHash <;>
            by_cases tagged : key ∈ bundle.messageTags <;> simp_all

theorem due_recordPing (session : Session W) (bundle : Bundle) :
    (session.recordPing bundle).1.ledger.due = session.ledger.due := by
  obtain ⟨tracked, same, -⟩ := session.ledger_recordPing bundle
  rw [same]

/-- The messages of a bundle end round trips, each that is tracked when its turn comes. -/
theorem ledger_confirmations (started : Option UInt64) (messages : List Message)
    (session : Session W) :
    (messages.foldl (completePing started) session).ledger =
      session.ledger.endAll (confirmedTimes started session.liveness messages) := by
  induction messages generalizing session with
  | nil => exact session.ledger.endAll_nil.symm
  | cons message rest induction =>
      rw [List.foldl_cons]
      unfold confirmedTimes
      rw [induction]
      cases hash : message.hash? with
      | none => simp [completePing, hash]
      | some key =>
          cases tracked : session.liveness.timestamp? key with
          | none => simp [completePing, hash, tracked]
          | some time =>
              by_cases begun : some time = started
              · subst begun
                simp [completePing, hash, tracked]
              · simp [completePing, completeKey, Liveness.complete, enqueue, hash, tracked,
                  begun, Ledger.endAll, ledger, Work.confirmed?, CoreCall.confirmed?]

theorem ledger_onError (session : Session W) (error : String) :
    (session.onError error).ledger = session.ledger.endAll
      ((session.liveness.keyMentionedIn? error).bind session.liveness.timestamp?).toList := by
  unfold onError
  cases session.liveness.keyMentionedIn? error with
  | none =>
      rw [ledger_report]
      exact session.ledger.endAll_nil.symm
  | some key =>
      rw [ledger_completeKey, Ledger.complete_eq]
      rfl

variable [Surroundings W]

theorem ledger_errorRow (session : Session W) (bundle : Bundle) (context : DispatchContext) :
    (session.applyRow bundle context .error).ledger =
      session.ledger.endAll (bundle.failedTimes session.liveness) := by
  unfold applyRow Bundle.failedTimes
  cases bundle.error with
  | none => exact session.ledger.endAll_nil.symm
  | some error => exact ledger_onError session error

/-- What the rows of a bundle put on the agenda goes behind what is there. -/
theorem Change.agenda {first last : Session W} {concern : Concern}
    (ofRow : concern ∈ Row.all.flatMap Row.concerns) (change : Change first concern last) :
    first.agenda <+: last.agenda := by
  have same {session last : Session W} (link : LinkOnly session last) :
      session.agenda <+: last.agenda := by
    have kept : last.agenda = session.agenda := (congrArg Session.agenda link.rest :)
    exact kept ▸ List.prefix_refl _
  have advanced (session : Session W) (step : RestoreMachine × List RestoreAction) :
      session.agenda <+: (session.advanceRestore step).agenda := by
    rw [advanceRestore_eq]
    exact List.prefix_append _ _
  cases change with
  | complete tracked => exact List.prefix_append _ _
  | counted counts => exact advanced _ _
  | paged messages topic known => exact advanced _ _
  | errand isErrand => exact List.prefix_append _ _
  | release key context =>
      unfold Session.release
      split
      · exact List.prefix_refl _
      · exact List.prefix_append _ _
  | publish publish =>
      have after := same (.publish first publish)
      exact after
  | subscribe topics => exact same (.subscribe first topics)
  | accept bundle context => exact List.prefix_append _ _
  | enterRestore restoring resumePaging => exact absurd ofRow (by decide)
  | cancelRestore => exact absurd ofRow (by decide)
  | link link => exact same link
  | arrive topic payload => exact List.prefix_append _ _
  | _ => exact List.prefix_refl _

theorem agenda_apply {session : Session W} (live : session.hasSession = true) (bundle : Bundle)
    (context : DispatchContext) :
    session.agenda <+: (session.apply bundle context).agenda := by
  have grown := (Changes.apply live bundle context).lift
    (fun first last => first.agenda <+: last.agenda) (fun _ => List.prefix_refl _)
    List.IsPrefix.trans Change.agenda
  exact grown

/-- The session when it has looked at the messages up to here for round trips that they end. -/
def atMessage (session : Session W) (bundle : Bundle) (context : DispatchContext)
    (early : List Message) : Session W :=
  early.foldl (completePing (bundle.roundTrip? context))
    (session.beforeConfirmations bundle context)

/-- The session when it comes to the error that the bundle reports. -/
def atError (session : Session W) (bundle : Bundle) (context : DispatchContext) : Session W :=
  (session.atMessage bundle context bundle.messages).applyRows bundle context
    (Row.fromNews.takeWhile (· ≠ .error))

theorem apply_eq_atError {session : Session W} (live : session.hasSession = true)
    (bundle : Bundle) (context : DispatchContext) :
    session.apply bundle context =
      ((session.atError bundle context).applyRow bundle context .error).applyRows bundle context
        (Row.fromNews.drop 10) := by
  rw [apply_eq_applyRows live]
  rfl

/-- Before its messages end anything, a bundle has tracked its own round trip. -/
theorem ledger_beforeConfirmations (session : Session W) (bundle : Bundle)
    (context : DispatchContext) :
    (session.beforeConfirmations bundle context).ledger.due = session.ledger.due ∧
      ∀ key, (session.beforeConfirmations bundle context).liveness.timestamp? key =
        (bundle.tracks? key <|> session.liveness.timestamp? key) := by
  have rows : Row.upToMessages = [.stateDelta, .deletions] ++ .ping :: [.balance, .messages] := rfl
  rw [beforeConfirmations, rows, applyRows_append, applyRows_cons]
  have early := ledger_of_changes (by decide)
    (.applyRows (session.note (.applied bundle context)) bundle context [.stateDelta, .deletions])
  rw [ledger_note session rfl] at early
  generalize (session.note (.applied bundle context)).applyRows bundle context
    [.stateDelta, .deletions] = start at early ⊢
  have late := ledger_of_changes (by decide)
    (.applyRows (start.applyRow bundle context .ping) bundle context [.balance, .messages])
  constructor
  · rw [late, ← early]
    exact start.due_recordPing bundle
  · intro key
    have tracked : start.liveness = session.liveness := congrArg Ledger.tracked early
    have kept := congrArg (fun ledger => ledger.tracked.timestamp? key) late
    rw [← tracked, ← start.timestamp?_recordPing bundle key]
    exact kept

/-- As far as the messages are looked at, the round trips that they end are gone, and a
confirmation of each is due. -/
theorem ledger_atMessage (session : Session W) (bundle : Bundle) (context : DispatchContext)
    (early : List Message) :
    (session.atMessage bundle context early).ledger =
      (session.beforeConfirmations bundle context).ledger.endAll
        (confirmedTimes (bundle.roundTrip? context)
          (session.beforeConfirmations bundle context).liveness early) :=
  ledger_confirmations _ early _

theorem ledger_atError (session : Session W) (bundle : Bundle) (context : DispatchContext) :
    (session.atError bundle context).ledger =
      (session.atMessage bundle context bundle.messages).ledger :=
  ledger_of_changes (by decide) (.applyRows _ bundle context _)

theorem ledger_apply {session : Session W} (live : session.hasSession = true) (bundle : Bundle)
    (context : DispatchContext) :
    (session.apply bundle context).ledger = (session.atError bundle context).ledger.endAll
      (bundle.failedTimes (session.atError bundle context).liveness) := by
  rw [apply_eq_atError live, ledger_of_changes (by decide) (.applyRows _ bundle context _),
    ledger_errorRow]

/-- What applying a bundle does to round trips: messages end some of them, and the error may
end one more. -/
structure EndsRoundTrips (session : Session W) (bundle : Bundle) (context : DispatchContext)
    (byMessages byError : List UInt64) : Prop where
  queued : ∃ more, (session.apply bundle context).agenda = session.agenda ++ more ∧
    more.filterMap Work.confirmed? = byMessages ++ byError
  distinct : (byMessages ++ byError).Nodup
  /-- The hash of a message was a key of the round trip when it was ended. -/
  trackedAtMessage : ∀ before time after, byMessages = before ++ time :: after →
    ∃ early message late key, bundle.messages = early ++ message :: late ∧
      message.hash? = some key ∧
      (session.atMessage bundle context early).liveness.timestamp? key = some time ∧
      (session.atMessage bundle context early).ledger.due = session.ledger.due ++ before
  trackedAtError : ∀ time ∈ byError, ∃ error key, bundle.error = some error ∧
    (session.atError bundle context).liveness.keyMentionedIn? error = some key ∧
    (session.atError bundle context).liveness.timestamp? key = some time ∧
    (session.atError bundle context).ledger.due = session.ledger.due ++ byMessages
  atMostOne : byError.length ≤ 1
  foreign : ∀ time ∈ byMessages, some time ≠ bundle.roundTrip? context
  left : ∀ key, (session.apply bundle context).liveness.timestamp? key =
    (bundle.tracks? key <|> session.liveness.timestamp? key).filter
      (· ∉ byMessages ++ byError)

/-- The confirmations that applying a bundle asks for are of different round trips, each
tracked until then and none that the bundle began, if messages end them; and what is tracked
afterwards is what was tracked before or by the bundle, without the round trips that ended. -/
theorem apply_endsRoundTrips {session : Session W} (live : session.hasSession = true)
    (bundle : Bundle) (context : DispatchContext) :
    ∃ byMessages byError, session.EndsRoundTrips bundle context byMessages byError := by
  obtain ⟨due, begun⟩ := session.ledger_beforeConfirmations bundle context
  have atMessage := session.ledger_atMessage bundle context
  have atError := (session.ledger_atError bundle context).trans (atMessage bundle.messages)
  have applied := ledger_apply live bundle context
  set before := session.beforeConfirmations bundle context
  set byMessages := confirmedTimes (bundle.roundTrip? context) before.liveness bundle.messages
  set byError := bundle.failedTimes (session.atError bundle context).liveness
  have tracked : (session.atError bundle context).liveness = before.liveness.purgeAll byMessages :=
    congrArg Ledger.tracked atError
  have dueAtError : (session.atError bundle context).ledger.due =
      session.ledger.due ++ byMessages :=
    (congrArg Ledger.due atError).trans (congrArg (· ++ byMessages) due)
  refine ⟨byMessages, byError, ?_⟩
  constructor
  case queued =>
    obtain ⟨more, grown⟩ := agenda_apply live bundle context
    refine ⟨more, grown.symm, ?_⟩
    have dueAfter : (session.apply bundle context).ledger.due =
        session.ledger.due ++ (byMessages ++ byError) := by
      rw [applied, Ledger.endAll, dueAtError, List.append_assoc]
    rw [ledger, ← grown, List.filterMap_append] at dueAfter
    exact List.append_cancel_left dueAfter
  case distinct =>
    refine List.nodup_append.mpr
      ⟨nodup_confirmedTimes _ _ _, Option.toList_nodup _, ?_⟩
    rintro time ended _ again rfl
    obtain ⟨-, key, -, -, found⟩ := Bundle.exists_error_of_failedTimes again
    rw [tracked, Liveness.timestamp?_purgeAll, Option.filter_eq_some_iff] at found
    exact of_decide_eq_true found.2 ended
  case trackedAtMessage =>
    intro ended time others split
    obtain ⟨early, message, late, messages, same, found⟩ :=
      exists_message_of_confirmedTimes split
    obtain ⟨key, hash, found⟩ := Option.bind_eq_some_iff.mp found
    have looked := atMessage early
    rw [same] at looked
    refine ⟨early, message, late, key, messages, hash, ?_, ?_⟩
    · exact (congrArg (fun ledger => ledger.tracked.timestamp? key) looked).trans found
    · exact (congrArg Ledger.due looked).trans (congrArg (· ++ ended) due)
  case trackedAtError =>
    intro time ended
    obtain ⟨error, key, reported, names, found⟩ := Bundle.exists_error_of_failedTimes ended
    exact ⟨error, key, reported, names, found, dueAtError⟩
  case atMostOne => exact Option.length_toList_le
  case foreign => exact fun time ended => (mem_confirmedTimes.mp ended).1
  case left =>
    intro key
    have after : (session.apply bundle context).liveness =
        before.liveness.purgeAll (byMessages ++ byError) := by
      rw [Liveness.purgeAll_append, ← tracked]
      exact congrArg Ledger.tracked applied
    rw [after, Liveness.timestamp?_purgeAll, begun]

/-! A tag shares its round trip with a hash, a message bears the bundle's own hash, and the
error names a third round trip. -/

def tracksThree : List (Move Bench) :=
  [.perform (.start "broker" twelveWords {}),
    .perform (.dispatch { ping := some "a:5", messages := [{ tag := some "t" }] } {}), .step,
    .perform (.dispatch { ping := some "b:6" } {}), .step,
    .perform (.dispatch { ping := some "c:7" } {}), .step]

def trackingRun : Session Bench :=
  tracksThree.foldl move (new .test (.new 7))

def endsThree : Bundle where
  ping := some "d:8"
  messages := [{ paymentHash := some "a" }, { paymentHash := some "t" },
    { paymentHash := some "d" }, { paymentHash := some "b" }]
  error := some "no route for c"

theorem apply_endsRoundTrips_trackingRun :
    trackingRun.hasSession = true ∧ ∃ byMessages byError,
      trackingRun.EndsRoundTrips endsThree {} byMessages byError ∧
        byMessages ++ byError = [5, 6, 7] := by
  have live : trackingRun.hasSession = true := by decide +kernel
  have agenda : (trackingRun.apply endsThree {}).agenda =
      trackingRun.agenda ++ [5, 6, 7].map fun time => .call (.pingDone time) := by
    decide +kernel
  obtain ⟨byMessages, byError, ends⟩ := apply_endsRoundTrips live endsThree {}
  obtain ⟨more, grown, ended⟩ := ends.queued
  refine ⟨live, byMessages, byError, ends, ?_⟩
  rw [← ended, List.append_cancel_left (grown.symm.trans agenda)]
  rfl

end Session

end Messenger

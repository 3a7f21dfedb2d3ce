import Messenger.Proofs.Lookup
import Messenger.Proofs.Session.Activities
import Messenger.Proofs.Session.Following

/-!
The ledger of a session is what decides which round trips it confirms: the ones that are
tracked, the confirmations that are due on the agenda, and those that were made. Few
functions write to it: tracking a ping, completing a key, and closing the account.
-/

namespace Messenger

def CoreCall.confirmed? : CoreCall → Option UInt64
  | .pingDone timestamp => some timestamp
  | _ => none

def Work.confirmed? : Work → Option UInt64
  | .call asked => asked.confirmed?
  | _ => none

theorem Work.confirmed?_of_isErrand {work : Work} (isErrand : work.isErrand = true) :
    work.confirmed? = none := by
  cases work with
  | call call =>
      cases call with
      | pingDone timestamp => cases isErrand
      | _ => rfl
  | _ => rfl

def Entry.confirmed? : Entry → Option UInt64
  | .called _ asked _ => asked.confirmed?
  | _ => none

theorem Entry.confirmed?_of_ofLink {entry : Entry} (ofLink : entry.ofLink = true) :
    entry.confirmed? = none := by
  cases entry with
  | called context call answer => cases ofLink
  | _ => rfl

namespace Liveness

def tracks (liveness : Liveness) (timestamp : UInt64) : Bool :=
  liveness.entries.entries.any fun entry => entry.2 == timestamp

theorem tracks_iff {liveness : Liveness} {timestamp : UInt64} :
    liveness.tracks timestamp = true ↔ ∃ key, liveness.timestamp? key = some timestamp := by
  simp only [tracks, List.any_eq_true, beq_iff_eq, timestamp?, KeyMap.get?_eq_some,
    Prod.exists, exists_eq_right]

/-- Purging ends one round trip and no other. -/
theorem tracks_purge (liveness : Liveness) (ended timestamp : UInt64) :
    (liveness.purge ended).tracks timestamp =
      (timestamp != ended && liveness.tracks timestamp) := by
  rw [Bool.eq_iff_iff, Bool.and_eq_true, tracks_iff, tracks_iff, bne_iff_ne]
  constructor
  · rintro ⟨key, tracked⟩
    rw [timestamp?_purge, Option.filter_eq_some_iff] at tracked
    exact ⟨bne_iff_ne.mp tracked.2, key, tracked.1⟩
  · rintro ⟨other, key, tracked⟩
    refine ⟨key, ?_⟩
    rw [timestamp?_purge, Option.filter_eq_some_iff]
    exact ⟨tracked, bne_iff_ne.mpr other⟩

theorem tracks_record {liveness : Liveness} {key : String} {begun timestamp : UInt64}
    (other : begun ≠ timestamp)
    (tracked : (liveness.record key begun).tracks timestamp = true) :
    liveness.tracks timestamp = true := by
  obtain ⟨name, found⟩ := tracks_iff.mp tracked
  rw [timestamp?_record] at found
  split at found
  · exact absurd (Option.some.inj found) other
  · exact tracks_iff.mpr ⟨name, found⟩

theorem tracks_recordAll {liveness : Liveness} {keys : List String}
    {begun timestamp : UInt64} (other : begun ≠ timestamp)
    (tracked : (liveness.recordAll keys begun).tracks timestamp = true) :
    liveness.tracks timestamp = true := by
  induction keys generalizing liveness with
  | nil => exact tracked
  | cons key rest induction => exact tracks_record other (induction tracked)

end Liveness

structure Ledger where
  tracked : Liveness
  /-- Confirmations on the agenda. -/
  due : List UInt64
  /-- Confirmations that the core was asked for. -/
  made : List UInt64

namespace Ledger

def complete (ledger : Ledger) (key : String) : Ledger :=
  match ledger.tracked.complete key with
  | (none, _) => ledger
  | (some timestamp, tracked) =>
    { ledger with tracked, due := ledger.due ++ [timestamp] }

def confirmed (ledger : Ledger) (timestamp : UInt64) : Nat :=
  ledger.made.count timestamp + ledger.due.count timestamp

/-- The confirmations of a round trip, with the one that can still come of it. -/
def pledged (ledger : Ledger) (timestamp : UInt64) : Nat :=
  ledger.confirmed timestamp + (ledger.tracked.tracks timestamp).toNat

theorem confirmed_le_pledged (ledger : Ledger) (timestamp : UInt64) :
    ledger.confirmed timestamp ≤ ledger.pledged timestamp :=
  Nat.le_add_right _ _

/-- Completing a round trip only takes up what was pledged. -/
theorem pledged_complete (ledger : Ledger) (key : String) (timestamp : UInt64) :
    (ledger.complete key).pledged timestamp = ledger.pledged timestamp := by
  unfold complete Liveness.complete
  cases found : ledger.tracked.timestamp? key with
  | none => rfl
  | some ended =>
      simp only [pledged, confirmed, List.count_append, List.count_singleton,
        Liveness.tracks_purge]
      by_cases same : timestamp = ended
      · have tracked : ledger.tracked.tracks ended = true :=
          Liveness.tracks_iff.mpr ⟨key, found⟩
        subst same
        simp only [tracked, beq_self_eq_true, if_true, bne_self_eq_false, Bool.false_and,
          Bool.toNat_false, Bool.toNat_true, Nat.add_assoc, Nat.add_zero]
      · have apart : (ended == timestamp) = false := beq_false_of_ne (Ne.symm same)
        have differs : (timestamp != ended) = true := bne_iff_ne.mpr same
        rw [apart, differs, Bool.true_and, if_neg Bool.false_ne_true, Nat.add_zero]

/-- Tracking pledges at most one confirmation, and none that is pledged already. -/
theorem pledged_track (ledger : Ledger) (tracked : Liveness) (timestamp : UInt64) :
    { ledger with tracked }.pledged timestamp ≤ ledger.confirmed timestamp + 1 :=
  Nat.add_le_add_left (Bool.toNat_le _) _

theorem pledged_le_of_tracks {ledger : Ledger} {tracked : Liveness} {timestamp : UInt64}
    (kept : tracked.tracks timestamp = true → ledger.tracked.tracks timestamp = true) :
    { ledger with tracked }.pledged timestamp ≤ ledger.pledged timestamp :=
  Nat.add_le_add_left (Bool.toNat_le_toNat kept) _

/-- Asking the core turns a confirmation that is due into one that was made. -/
theorem pledged_asked (ledger : Ledger) (asked : List UInt64) (timestamp : UInt64) :
    { ledger with made := ledger.made ++ asked }.pledged timestamp =
      { ledger with due := asked ++ ledger.due }.pledged timestamp := by
  simp only [pledged, confirmed, List.count_append, Nat.add_assoc]

theorem pledged_le_due (ledger : Ledger) (asked : List UInt64) (timestamp : UInt64) :
    ledger.pledged timestamp ≤ { ledger with due := asked ++ ledger.due }.pledged timestamp := by
  simp only [pledged, confirmed, List.count_append]
  omega

end Ledger

namespace Session

variable {W : Type}

def ledger (session : Session W) : Ledger where
  tracked := session.liveness
  due := session.agenda.filterMap Work.confirmed?
  made := session.journal.filterMap Entry.confirmed?

theorem ledger_note {entry : Entry} (session : Session W) (quiet : entry.confirmed? = none) :
    (session.note entry).ledger = session.ledger := by
  simp [ledger, note, quiet]

theorem ledger_tell (session : Session W) (callback : Callback) :
    (session.tell callback).ledger = session.ledger :=
  ledger_note { session with listeners := session.listeners.map (· ++ [callback]) } rfl

theorem ledger_report (session : Session W) (error : SessionError) :
    (session.report error).ledger = session.ledger :=
  ledger_tell session _

theorem ledger_enqueue {work : Work} (session : Session W) (quiet : work.confirmed? = none) :
    (session.enqueue work).ledger = session.ledger := by
  simp [ledger, enqueue, quiet]

theorem ledger_pop {session : Session W} {work : Work} {rest : List Work}
    (next : session.agenda = work :: rest) (quiet : work.confirmed? = none) :
    { session with agenda := rest }.ledger = session.ledger := by
  simp [ledger, next, quiet]

theorem ledger_accept (session : Session W) (bundle : Bundle) (context : DispatchContext) :
    (session.accept bundle context).ledger = session.ledger := by
  rw [accept, ledger_enqueue _ rfl, ledger_note _ rfl]

/-- The restore machine asks for no confirmation. -/
theorem ledger_advanceRestore (session : Session W)
    (step : RestoreMachine × List RestoreAction) :
    (session.advanceRestore step).ledger = session.ledger := by
  have due : ((RestoreAction.calls step.2).map Work.call).filterMap Work.confirmed? = [] := by
    refine List.filterMap_eq_nil_iff.mpr fun work member => ?_
    obtain ⟨call, called, rfl⟩ := List.mem_map.mp member
    obtain ⟨action, -, asks⟩ := List.mem_filterMap.mp called
    cases action <;> cases asks <;> rfl
  have made : ((RestoreAction.told step.2).map Entry.told).filterMap Entry.confirmed? = [] := by
    refine List.filterMap_eq_nil_iff.mpr fun entry member => ?_
    obtain ⟨callback, -, rfl⟩ := List.mem_map.mp member
    rfl
  rw [advanceRestore_eq]
  simp only [ledger, List.filterMap_append, due, made, List.append_nil]

theorem ledger_enterRestore (session : Session W) (restoring resumePaging : Bool) :
    (session.enterRestore restoring resumePaging).ledger = session.ledger := by
  obtain ⟨step, entered, -, -⟩ := session.enterRestore_eq restoring resumePaging
  rw [entered, ledger_advanceRestore]

theorem ledger_cancelRestore (session : Session W) :
    session.cancelRestore.ledger = session.ledger := by
  unfold cancelRestore
  split
  · rfl
  · exact ledger_advanceRestore _ _

theorem ledger_release (session : Session W) (key : SettlementKey)
    (context : DispatchContext) : (session.release key context).ledger = session.ledger := by
  unfold release
  split
  · rfl
  · exact ledger_enqueue _ rfl

theorem ledger_complete {session : Session W} {key : String} {timestamp : UInt64}
    {liveness : Liveness} (tracked : session.liveness.complete key = (some timestamp, liveness)) :
    ({ session with liveness }.enqueue (.call (.pingDone timestamp))).ledger =
      session.ledger.complete key := by
  have same : session.ledger.tracked.complete key = (some timestamp, liveness) := tracked
  rw [Ledger.complete, same]
  simp [ledger, enqueue, Work.confirmed?, CoreCall.confirmed?]

theorem ledger_completeKey (session : Session W) (key : String) :
    (session.completeKey key).ledger = session.ledger.complete key := by
  unfold completeKey
  split
  · rename_i untracked
    have same : session.ledger.tracked.complete key = (none, _) := untracked
    rw [Ledger.complete, same]
  · rename_i tracked
    exact ledger_complete tracked

theorem ledger_asked (session : Session W) (account : Account) (call : CoreCall)
    (answer : Except String Bundle) (wall : UInt64) (outside : W) :
    (session.asked account call answer wall outside).ledger =
      { session.ledger with made := session.ledger.made ++ call.confirmed?.toList } := by
  have noted : [Entry.stamped wall (session.clock.next wall),
      .called (session.contextAt account (session.clock.next wall)) call answer].filterMap
        Entry.confirmed? = call.confirmed?.toList := by
    rw [List.filterMap_cons_none rfl]
    cases confirms : call.confirmed? with
    | none => exact List.filterMap_cons_none confirms
    | some timestamp => exact List.filterMap_cons_some confirms
  simp [ledger, asked, drawn, note, noted]

/-- Only the timestamp that a bundle announces gets tracked. -/
theorem ledger_recordPing (session : Session W) (bundle : Bundle) :
    ∃ tracked, (session.recordPing bundle).1.ledger = { session.ledger with tracked } ∧
      ∀ timestamp, bundle.announced? ≠ some timestamp → tracked.tracks timestamp = true →
        session.liveness.tracks timestamp = true := by
  unfold recordPing Bundle.announced?
  cases bundle.ping with
  | none => exact ⟨session.liveness, rfl, fun _ _ tracked => tracked⟩
  | some raw =>
      rw [Option.map_some, Option.bind_some]
      cases Ping.parse raw with
      | error fault => exact ⟨session.liveness, ledger_report session _, fun _ _ tracked => tracked⟩
      | ok ping =>
          refine ⟨_, rfl, fun timestamp other tracked => ?_⟩
          have apart : ping.timestamp ≠ timestamp := fun same => other (congrArg some same)
          exact Liveness.tracks_record apart (Liveness.tracks_recordAll apart tracked)

variable [Surroundings W] {concern : Concern} {concerns : List Concern} {first last : Session W}

theorem ledger_link (link : LinkOnly first last) : last.ledger = first.ledger := by
  obtain ⟨more, grown, ofLink⟩ := link.journal
  have liveness : last.liveness = first.liveness := (congrArg Session.liveness link.rest :)
  have agenda : last.agenda = first.agenda := (congrArg Session.agenda link.rest :)
  have unasked : more.filterMap Entry.confirmed? = [] :=
    List.filterMap_eq_nil_iff.mpr fun entry member =>
      Entry.confirmed?_of_ofLink (ofLink entry member)
  rw [ledger, liveness, agenda, grown, List.filterMap_append, unasked, List.append_nil]
  rfl

theorem ledger_of_change (other : concern ∉ [.tracking, .confirming, .calling])
    (change : Change first concern last) : last.ledger = first.ledger := by
  cases change with
  | notify news => exact ledger_tell first _
  | shown delivers => exact ledger_tell first _
  | setUserState userState => exact ledger_tell _ _
  | track key timestamp => exact absurd (by decide) other
  | complete tracked => exact absurd (by decide) other
  | counted counts => exact ledger_advanceRestore first _
  | paged messages topic known => exact ledger_advanceRestore first _
  | errand isErrand => exact ledger_enqueue first (Work.confirmed?_of_isErrand isErrand)
  | rehost host => exact ledger_tell _ _
  | release key context => exact ledger_release first key context
  | publish publish =>
      have sent : (first.sent publish).ledger = first.ledger := ledger_note _ rfl
      exact (ledger_link (.publish first publish)).trans sent
  | subscribe topics => exact ledger_link (.subscribe first topics)
  | ask call answer wall outside lives => exact absurd (by decide) other
  | accept bundle context => exact ledger_accept first bundle context
  | enterRestore restoring resumePaging => exact ledger_enterRestore first restoring resumePaging
  | cancelRestore => exact ledger_cancelRestore first
  | link link => exact ledger_link link
  | arrive topic payload => exact ledger_enqueue first rfl
  | wake next => exact ledger_note _ rfl
  | _ => rfl

theorem ledger_of_changes (others : ∀ concern ∈ concerns,
      concern ∉ [.tracking, .confirming, .calling])
    (changes : Changes concerns first last) : last.ledger = first.ledger :=
  changes.keep ledger fun member => ledger_of_change (others _ member)

theorem ledger_reported (result : Session W × Except SessionError Unit) :
    (reported result).1.ledger = result.1.ledger :=
  ledger_of_changes (by decide) (.reported result)

theorem pledged_of_change (other : concern ∉ [.tracking, .calling])
    (change : Change first concern last) (timestamp : UInt64) :
    last.ledger.pledged timestamp = first.ledger.pledged timestamp := by
  by_cases confirms : concern = .confirming
  · subst confirms
    cases change with
    | complete tracked => rw [ledger_complete tracked, Ledger.pledged_complete]
  · rw [ledger_of_change _ change]
    simpa [confirms] using other

theorem pledged_of_changes (others : ∀ concern ∈ concerns, concern ∉ [.tracking, .calling])
    (changes : Changes concerns first last) (timestamp : UInt64) :
    last.ledger.pledged timestamp = first.ledger.pledged timestamp :=
  changes.keep (fun session => session.ledger.pledged timestamp) fun member change =>
    pledged_of_change (others _ member) change timestamp

theorem ledger_openAccount (session : Session W) (account : Account) (owner : Owner)
    (resume : Bool) :
    (session.openAccount account owner resume).1.ledger = session.ledger := by
  rw [ledger_link (openAccount_link session account owner resume)]
  exact ledger_note _ rfl

theorem ledger_of_mayOpen {resume : Bool} (mayOpen : MayOpen resume first last) :
    last.ledger = first.ledger := by
  obtain ⟨middle, changes, rfl | ⟨account, owner, rfl⟩⟩ := mayOpen
  · exact ledger_of_changes (by decide) changes
  · exact (ledger_openAccount _ _ _ _).trans (ledger_of_changes (by decide) changes)

theorem ledger_disconnect (session : Session W) :
    session.disconnect.ledger = { session.ledger with tracked := ∅ } := by
  unfold disconnect
  rw [notify, ledger_tell]
  simp [ledger, note, Entry.confirmed?]

theorem ledger_apply_closed {session : Session W} (closed : session.hasSession = false)
    (bundle : Bundle) (context : DispatchContext) :
    (session.apply bundle context).ledger = session.ledger := by
  rw [apply_closed closed, ledger_report]

/-- Applying a bundle pledges a confirmation only of the round trip that it announces, and
only if none is pledged. -/
theorem pledged_apply {session : Session W} (live : session.hasSession = true)
    (bundle : Bundle) (context : DispatchContext) (timestamp : UInt64) :
    (session.apply bundle context).ledger.pledged timestamp ≤
        session.ledger.confirmed timestamp + 1 ∧
      (bundle.announced? ≠ some timestamp →
        (session.apply bundle context).ledger.pledged timestamp ≤
          session.ledger.pledged timestamp) := by
  have rows : Row.all = [.stateDelta, .deletions] ++ .ping :: Row.all.drop 3 := rfl
  rw [apply_eq_applyRows live, rows, applyRows_append, applyRows_cons,
    pledged_of_changes (by decide) (.applyRows _ bundle context (Row.all.drop 3)) timestamp]
  generalize begun : (session.note (.applied bundle context)).applyRows bundle context
    [.stateDelta, .deletions] = start
  have same : start.ledger = session.ledger := by
    rw [← begun, ledger_of_changes (by decide) (.applyRows _ bundle context _)]
    exact ledger_note session rfl
  obtain ⟨tracked, pinged, kept⟩ := start.ledger_recordPing bundle
  have after : (start.applyRow bundle context .ping).ledger = { session.ledger with tracked } := by
    rw [← same]
    exact pinged
  rw [after]
  refine ⟨Ledger.pledged_track _ tracked timestamp, fun other => ?_⟩
  have liveness : start.liveness = session.liveness := congrArg Ledger.tracked same
  rw [liveness] at kept
  exact Ledger.pledged_le_of_tracks (kept timestamp other)

/-- A call that is made is a confirmation or not; one that is refused leaves no mark. -/
theorem ledger_runCall (session : Session W) (call : CoreCall) :
    (session.runCall call).1.ledger = session.ledger ∨
      (session.runCall call).1.ledger =
        { session.ledger with made := session.ledger.made ++ call.confirmed?.toList } := by
  generalize ran : session.runCall call = result
  obtain ⟨last, outcome⟩ := result
  rcases runCall_cases ran with ⟨-, rfl, -⟩ | ⟨account, answer, wall, outside, -, rfl, -⟩
  · exact Or.inl rfl
  · exact Or.inr (ledger_asked session account call answer wall outside)

theorem ledger_runCall_quiet (session : Session W) {call : CoreCall}
    (quiet : call.confirmed? = none) :
    (session.runCall call).1.ledger = session.ledger := by
  rcases session.ledger_runCall call with same | made
  · exact same
  · rw [made, quiet, Option.toList_none, List.append_nil]

theorem ledger_callThenApply (session : Session W) (call : CoreCall)
    (context : DispatchContext) :
    (session.callThenApply call context).ledger = (session.runCall call).1.ledger := by
  unfold callThenApply
  split
  · rename_i result
    rw [result, ledger_report]
  · rename_i result
    rw [result, ledger_accept]

theorem ledger_bootstrap (session : Session W) (resumePaging : Bool) :
    (session.bootstrap resumePaging).ledger = session.ledger := by
  unfold bootstrap
  split
  · exact ledger_report session _
  · rename_i account _
    have quiet : (CoreCall.initialSetup session.config.device account.inviteCode).confirmed? =
        none := rfl
    have called := session.ledger_runCall_quiet quiet
    split
    · rename_i result
      rw [result] at called
      rw [ledger_report, called]
    · rename_i result
      rw [result] at called
      rw [ledger_enterRestore, ledger_accept, called]

theorem ledger_execute (session : Session W) {call : CoreCall}
    (quiet : call.confirmed? = none) :
    (session.execute call).1.ledger = session.ledger := by
  have called := session.ledger_runCall_quiet quiet
  unfold execute
  split
  · rename_i result
    rw [result] at called
    exact called
  · rename_i result
    rw [result] at called
    rw [ledger_accept, called]

/-- A reconnect forgets what is tracked, unless the connection is live. -/
theorem ledger_reconnect (session : Session W) :
    session.reconnect.1.ledger = session.ledger ∨
      session.reconnect.1.ledger = { session.ledger with tracked := ∅ } := by
  rcases session.reconnect_cases with changes | ⟨params, -, reopens⟩
  · exact Or.inl (ledger_of_changes (by decide) changes)
  · right
    rw [reopens, ledger_reported, ledger_of_mayOpen (.tryStart _ _ _ _), ledger_disconnect]

/-- Of the operations only paying an invoice pledges a confirmation. -/
theorem pledged_perform (session : Session W) {operation : Operation}
    (unpaid : ∀ invoice, operation ≠ .payInvoice invoice) (timestamp : UInt64) :
    (session.perform operation).1.ledger.pledged timestamp ≤
      session.ledger.pledged timestamp := by
  have forgets (ledger : Ledger) :
      { ledger with tracked := ∅ }.pledged timestamp ≤ ledger.pledged timestamp :=
    Ledger.pledged_le_of_tracks fun inside => absurd inside Bool.false_ne_true
  have same {last : Session W} (kept : last.ledger = session.ledger) :
      last.ledger.pledged timestamp ≤ session.ledger.pledged timestamp :=
    Nat.le_of_eq (congrArg (Ledger.pledged · timestamp) kept)
  have executes {call : CoreCall} (quiet : call.confirmed? = none) :
      (reported (session.execute call)).1.ledger = session.ledger := by
    rw [ledger_reported, ledger_execute session quiet]
  cases operation with
  | addListener => exact Nat.le_refl _
  | beginRestore mnemonic => exact Nat.le_refl _
  | createAccount displayName mixer inviteCode =>
      exact same ((ledger_reported _).trans (ledger_of_mayOpen (.tryCreateAccount _ _ _ _)))
  | restoreAccount params =>
      exact same ((ledger_reported _).trans (ledger_of_mayOpen (.tryRestoreAccount _ _)))
  | start address mnemonic owner =>
      exact same ((ledger_reported _).trans (ledger_of_mayOpen (.tryStart _ _ _ _)))
  | reconnect =>
      rcases session.ledger_reconnect with kept | forgotten
      · exact same kept
      · exact forgotten ▸ forgets session.ledger
  | disconnect => exact session.ledger_disconnect ▸ forgets session.ledger
  | payInvoice invoice => exact absurd rfl (unpaid invoice)
  | cancelRestore => exact same (ledger_cancelRestore session)
  | dispatch bundle context => exact same (ledger_accept session bundle context)
  | _ => exact same (executes rfl)

/-- A piece of work other than a bundle pledges nothing. -/
theorem pledged_step (session : Session W)
    (undispatched : ∀ bundle context rest, session.agenda ≠ .dispatch bundle context :: rest)
    (timestamp : UInt64) :
    session.step.ledger.pledged timestamp ≤ session.ledger.pledged timestamp := by
  unfold step
  split
  · rename_i work rest next
    have same {last : Session W} (kept : last.ledger = { session with agenda := rest }.ledger)
        (quiet : work.confirmed? = none) :
        last.ledger.pledged timestamp ≤ session.ledger.pledged timestamp :=
      Nat.le_of_eq (congrArg (Ledger.pledged · timestamp) (kept.trans (ledger_pop next quiet)))
    cases work with
    | dispatch bundle context => exact absurd next (undispatched bundle context rest)
    | call call =>
        have due : session.ledger = { { session with agenda := rest }.ledger with
            due := call.confirmed?.toList ++ { session with agenda := rest }.ledger.due } := by
          cases confirms : call.confirmed? <;>
            simp [ledger, next, Work.confirmed?, confirms]
        rw [due, carryOut, ledger_callThenApply]
        rcases ledger_runCall { session with agenda := rest } call with refused | made
        · rw [refused]
          exact Ledger.pledged_le_due _ _ timestamp
        · rw [made]
          exact Nat.le_of_eq (Ledger.pledged_asked _ _ timestamp)
    | inbound topic payload =>
        exact same ((ledger_callThenApply _ _ _).trans (ledger_runCall_quiet _ rfl)) rfl
    | bootstrap resumePaging => exact same (ledger_bootstrap _ resumePaging) rfl
  · exact Nat.le_of_eq (congrArg (Ledger.pledged · timestamp) (ledger_tell _ _))
  · exact Nat.le_refl _

end Session

end Messenger

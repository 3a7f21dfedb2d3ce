import Messenger.Proofs.Session.Coherent

/-!
How a session goes on between two openings. Whatever happens to it, it closes, or begins
with an account, or proceeds with what it has. While it proceeds it connects at most once,
and only after a failure of the link that it has told of; and without an account it asks
neither the core nor the link for anything.
-/

namespace Messenger

/-- What is done for a live account only. -/
def Concern.needsAccount : Concern → Bool
  | .messages => true
  | .userState => true
  | .tracking => true
  | .confirming => true
  | .broker => true
  | .settling => true
  | .parking => true
  | .publishing => true
  | .subscribing => true
  | _ => false

/-- What goes on between openings, and connects only after a failure that was told of. -/
def Concern.isOngoing : Concern → Bool
  | .linking => false
  | .waking => false
  | _ => true

namespace Entry

/-- What is noted while neither an account comes or goes nor a continuation falls due. -/
def isCurrent : Entry → Bool
  | .opened _ _ => false
  | .woken _ => false
  | .disconnected => false
  | _ => true

/-- A call of the core, or a request to the link. -/
def isRequest : Entry → Bool
  | .called _ _ _ => true
  | .attempted _ _ => true
  | .published _ _ _ => true
  | .subscribed _ _ => true
  | _ => false

def isLinkFailure : Entry → Bool
  | .told (.event (.error error)) => error.errorClass = .transport
  | _ => false

/-- Neither an attempt to connect nor the end of a stretch. -/
def isSteady (entry : Entry) : Bool :=
  entry.isCurrent && entry.attempt?.isNone

theorem isRequest_of_attempt {entry : Entry} (attempts : entry.attempt?.isSome = true) :
    entry.isRequest = true := by
  cases entry with
  | attempted generation options => rfl
  | _ => cases attempts

theorem isSteady_told {callbacks : List Callback} :
    ∀ entry ∈ callbacks.map Entry.told, entry.isSteady = true := by
  intro entry member
  obtain ⟨callback, -, rfl⟩ := List.mem_map.mp member
  rfl

theorem isRequest_told {callbacks : List Callback} :
    ∀ entry ∈ callbacks.map Entry.told, entry.isRequest = false := by
  intro entry member
  obtain ⟨callback, -, rfl⟩ := List.mem_map.mp member
  rfl

end Entry

def connects (entries : List Entry) : Nat :=
  entries.countP (·.attempt?.isSome)

theorem connects_append (early late : List Entry) :
    connects (early ++ late) = connects early + connects late :=
  List.countP_append

theorem connects_of_isSteady {entries : List Entry}
    (steady : ∀ entry ∈ entries, entry.isSteady = true) : connects entries = 0 := by
  refine List.countP_eq_zero.mpr fun entry member attempts => ?_
  have ⟨_, unattempted⟩ := (Bool.and_eq_true _ _).mp (steady entry member)
  rw [Option.isNone_iff_eq_none.mp unattempted] at attempts
  cases attempts

theorem connects_pos {entries : List Entry} {attempt : Entry} (member : attempt ∈ entries)
    (attempts : attempt.attempt?.isSome = true) : 0 < connects entries :=
  List.countP_pos_iff.mpr ⟨attempt, member, attempts⟩

/-- No attempt comes before the first failure. -/
def heralded : List Entry → Bool
  | [] => true
  | entry :: rest => entry.isLinkFailure || entry.attempt?.isNone && heralded rest

theorem heralded_of_isSteady {entries : List Entry}
    (steady : ∀ entry ∈ entries, entry.isSteady = true) : heralded entries = true := by
  induction entries with
  | nil => rfl
  | cons entry rest induction =>
      have ⟨first, others⟩ := List.forall_mem_cons.mp steady
      have ⟨_, unattempted⟩ := (Bool.and_eq_true _ _).mp first
      simp [heralded, unattempted, induction others]

theorem heralded_append {early late : List Entry} (first : heralded early = true)
    (rest : early.any Entry.isLinkFailure = true ∨ heralded late = true) :
    heralded (early ++ late) = true := by
  induction early with
  | nil => exact rest.resolve_left (by simp)
  | cons entry others induction =>
      rw [List.cons_append, heralded]
      cases fails : entry.isLinkFailure with
      | true => rfl
      | false =>
          rw [heralded, fails, Bool.false_or, Bool.and_eq_true] at first
          rw [List.any_cons, fails, Bool.false_or] at rest
          rw [Bool.false_or, first.1, induction first.2 rest, Bool.and_self]

theorem failed_of_heralded {early late : List Entry} {attempt : Entry}
    (heralds : heralded (early ++ attempt :: late) = true)
    (attempts : attempt.attempt?.isSome = true) : early.any Entry.isLinkFailure = true := by
  induction early with
  | nil =>
      obtain ⟨options, asked⟩ := Option.isSome_iff_exists.mp attempts
      cases attempt <;> simp_all [heralded, Entry.isLinkFailure, Entry.attempt?]
  | cons entry others induction =>
      rw [List.any_cons]
      cases fails : entry.isLinkFailure with
      | true => rfl
      | false =>
          rw [List.cons_append, heralded, fails, Bool.false_or, Bool.and_eq_true] at heralds
          exact induction heralds.2

namespace Session

variable {W : Type}

/-- How often the session may still reconnect by itself. -/
def allowance (session : Session W) : Nat :=
  if session.reconnectSpent then 0 else 1

/-- Going on, with these entries, without opening or closing. -/
structure ProceedsBy (more : List Entry) (first last : Session W) : Prop where
  journal : last.journal = first.journal ++ more
  current : ∀ entry ∈ more, entry.isCurrent = true
  live : last.hasSession = first.hasSession
  allowance : connects more + last.allowance ≤ first.allowance
  heralded : heralded more = true
  silent : first.hasSession = false → last.owner = first.owner ∧
    last.liveness = first.liveness ∧ last.settlements = first.settlements ∧
      ∀ entry ∈ more, entry.isRequest = false

def Proceeds (first last : Session W) : Prop :=
  ∃ more, ProceedsBy more first last

theorem ProceedsBy.trans {early late : List Entry} {first middle last : Session W}
    (start : ProceedsBy early first middle) (rest : ProceedsBy late middle last) :
    ProceedsBy (early ++ late) first last where
  journal := by rw [rest.journal, start.journal, List.append_assoc]
  current entry member :=
    (List.mem_append.mp member).elim (start.current entry) (rest.current entry)
  live := rest.live.trans start.live
  allowance := by
    have before := start.allowance
    have after := rest.allowance
    rw [connects_append]
    omega
  heralded := heralded_append start.heralded (Or.inr rest.heralded)
  silent closed := by
    obtain ⟨owner, liveness, settlements, asked⟩ := start.silent closed
    obtain ⟨ownerAfter, livenessAfter, settlementsAfter, askedAfter⟩ :=
      rest.silent (start.live.trans closed)
    refine ⟨ownerAfter.trans owner, livenessAfter.trans liveness,
      settlementsAfter.trans settlements, fun entry member => ?_⟩
    exact (List.mem_append.mp member).elim (asked entry) (askedAfter entry)

/-- What does not connect uses nothing up. -/
theorem ProceedsBy.of_steady {more : List Entry} {first last : Session W}
    (journal : last.journal = first.journal ++ more)
    (steady : ∀ entry ∈ more, entry.isSteady = true)
    (live : last.hasSession = first.hasSession)
    (spent : last.reconnectSpent = first.reconnectSpent)
    (silent : first.hasSession = false → last.owner = first.owner ∧
      last.liveness = first.liveness ∧ last.settlements = first.settlements ∧
        ∀ entry ∈ more, entry.isRequest = false) : ProceedsBy more first last where
  journal := journal
  current entry member := ((Bool.and_eq_true _ _).mp (steady entry member)).1
  live := live
  allowance := by
    rw [connects_of_isSteady steady, Session.allowance, Session.allowance, spent]
    exact Nat.le_of_eq (Nat.zero_add _)
  heralded := heralded_of_isSteady steady
  silent := silent

theorem ProceedsBy.of_told {first last : Session W} (callbacks : List Callback)
    (journal : last.journal = first.journal ++ callbacks.map .told)
    (live : last.hasSession = first.hasSession) (owner : last.owner = first.owner)
    (liveness : last.liveness = first.liveness)
    (settlements : last.settlements = first.settlements)
    (spent : last.reconnectSpent = first.reconnectSpent) :
    ProceedsBy (callbacks.map .told) first last :=
  .of_steady journal Entry.isSteady_told live spent
    fun _ => ⟨owner, liveness, settlements, Entry.isRequest_told⟩

namespace Proceeds

variable {first middle last : Session W}

theorem trans (start : Proceeds first middle) (rest : Proceeds middle last) :
    Proceeds first last := by
  obtain ⟨early, before⟩ := start
  obtain ⟨late, after⟩ := rest
  exact ⟨early ++ late, before.trans after⟩

theorem of_told (callbacks : List Callback)
    (journal : last.journal = first.journal ++ callbacks.map .told)
    (live : last.hasSession = first.hasSession) (owner : last.owner = first.owner)
    (liveness : last.liveness = first.liveness)
    (settlements : last.settlements = first.settlements)
    (spent : last.reconnectSpent = first.reconnectSpent) : Proceeds first last :=
  ⟨_, .of_told callbacks journal live owner liveness settlements spent⟩

theorem of_same (journal : last.journal = first.journal)
    (live : last.hasSession = first.hasSession) (owner : last.owner = first.owner)
    (liveness : last.liveness = first.liveness)
    (settlements : last.settlements = first.settlements)
    (spent : last.reconnectSpent = first.reconnectSpent) : Proceeds first last :=
  of_told [] (journal.trans (List.append_nil _).symm) live owner liveness settlements spent

theorem refl (session : Session W) : Proceeds session session :=
  of_same rfl rfl rfl rfl rfl rfl

/-- With an account, whatever does not connect is a way to proceed. -/
theorem of_live (before : first.hasSession = true) (after : last.hasSession = true)
    (spent : last.reconnectSpent = first.reconnectSpent)
    (journal : Adds Entry.isSteady first.journal last.journal) : Proceeds first last := by
  obtain ⟨more, grown, steady⟩ := journal
  exact ⟨more, .of_steady grown steady (after.trans before.symm) spent
    fun closed => absurd (before.symm.trans closed) (by decide)⟩

theorem tell (session : Session W) (callback : Callback) :
    Proceeds session (session.tell callback) :=
  of_told [callback] rfl rfl rfl rfl rfl rfl

theorem report (session : Session W) (error : SessionError) :
    Proceeds session (session.report error) :=
  tell session _

theorem enqueue (session : Session W) (work : Work) :
    Proceeds session (session.enqueue work) :=
  of_same rfl rfl rfl rfl rfl rfl

theorem accept (session : Session W) (bundle : Bundle) (context : DispatchContext) :
    Proceeds session (session.accept bundle context) := by
  have noted : ProceedsBy [.received bundle context session.hasSession] session
      (session.note (.received bundle context session.hasSession)) :=
    .of_steady rfl (List.forall_mem_singleton.mpr rfl) rfl rfl
      fun _ => ⟨rfl, rfl, rfl, List.forall_mem_singleton.mpr rfl⟩
  exact trans ⟨_, noted⟩ (enqueue _ _)

theorem advanceRestore (session : Session W) (step : RestoreMachine × List RestoreAction) :
    Proceeds session (session.advanceRestore step) := by
  rw [advanceRestore_eq]
  exact of_told (RestoreAction.told step.2) rfl (isSome_accountAfter session step.2) rfl rfl
    rfl rfl

theorem enterRestore (session : Session W) (restoring resumePaging : Bool) :
    Proceeds session (session.enterRestore restoring resumePaging) := by
  obtain ⟨step, entered, -⟩ := enterRestore_eq session restoring resumePaging
  rw [entered]
  exact advanceRestore session step

theorem cancelRestore (session : Session W) : Proceeds session session.cancelRestore := by
  unfold Session.cancelRestore
  split
  · exact refl session
  · have ended : Proceeds session session.endRestore :=
      of_same rfl Option.isSome_map rfl rfl rfl rfl
    exact ended.trans (advanceRestore _ _)

theorem onConnected (session : Session W) : Proceeds session session.onConnected := by
  have told : Proceeds session
      ({ session with connected := true }.notify (.connection .connected)) :=
    of_told [.event (.connection .connected)] rfl rfl rfl rfl rfl rfl
  unfold Session.onConnected
  dsimp only
  split
  · exact told
  · have marked : Proceeds
        ({ session with connected := true }.notify (.connection .connected))
        { { session with connected := true }.notify (.connection .connected) with
          bootstrapped := true } :=
      of_same rfl rfl rfl rfl rfl rfl
    exact told.trans (marked.trans (enqueue _ (.bootstrap true)))

end Proceeds

section Surrounded

variable [Surroundings W] {first middle last : Session W}

theorem attempt_journal (session : Session W) (endpoint : Endpoint)
    (username password : String) :
    ∃ options, (session.attempt endpoint username password).1.journal = session.journal ++
      [.told (.event (.connection .connecting)),
        .attempted (session.generation + 1) options] :=
  ⟨_, List.append_assoc _ [_] [_]⟩

/-- Connecting makes one attempt at most, and leaves the automatic reconnect alone. -/
theorem connect_once (session : Session W) :
    ∃ more, session.connect.1.journal = session.journal ++ more ∧
      (∀ entry ∈ more, entry.isCurrent = true) ∧ connects more ≤ 1 ∧
        session.connect.1.hasSession = session.hasSession ∧
          session.connect.1.reconnectSpent = session.reconnectSpent := by
  unfold connect
  split
  · exact ⟨[], (List.append_nil _).symm, List.forall_mem_nil _, Nat.zero_le 1, rfl, rfl⟩
  · rename_i account _
    split
    · exact ⟨[], (List.append_nil _).symm, List.forall_mem_nil _, Nat.zero_le 1, rfl, rfl⟩
    · dsimp only
      split
      · refine ⟨[_, _], List.append_assoc .., ?_, Nat.zero_le 1, rfl, rfl⟩
        simp [Entry.isCurrent]
      · rename_i endpoint _ _ username password _
        obtain ⟨options, grown⟩ := attempt_journal
          (session.uniqueTime.1.note (.keysAsked account.seed session.uniqueTime.2)) endpoint
          username password
        refine ⟨_, grown.trans ((List.append_assoc ..).trans (List.append_assoc ..)), ?_, ?_,
          rfl, rfl⟩
        · simp [Entry.isCurrent]
        · simp [connects, Entry.attempt?]

/-- A failure of the link that was told of is all that a reconnect needs. -/
theorem ProceedsBy.reconnectOnce {early : List Entry}
    (start : ProceedsBy early first middle)
    (failed : early.any Entry.isLinkFailure = true) : Proceeds first middle.reconnectOnce := by
  unfold Session.reconnectOnce
  split
  · exact ⟨early, start⟩
  · rename_i able
    obtain ⟨live, unspent⟩ : middle.hasSession = true ∧ middle.reconnectSpent = false := by
      simpa using able
    obtain ⟨late, grown, current, once, lives, spent⟩ :=
      connect_once { middle with reconnectSpent := true, bootstrapped := false }
    have reconnects : ProceedsBy (early ++ late) first
        { middle with reconnectSpent := true, bootstrapped := false }.connect.1 := by
      constructor
      case journal => rw [grown, start.journal, List.append_assoc]
      case current =>
        exact fun entry member =>
          (List.mem_append.mp member).elim (start.current entry) (current entry)
      case live => exact lives.trans start.live
      case allowance =>
        have before := start.allowance
        have one : middle.allowance = 1 := by simp [Session.allowance, unspent]
        have none : Session.allowance
            { middle with reconnectSpent := true, bootstrapped := false }.connect.1 = 0 := by
          simp [Session.allowance, spent]
        rw [none, connects_append]
        omega
      case heralded => exact heralded_append start.heralded (Or.inl failed)
      case silent => exact fun closed => absurd (start.live.symm.trans live) (by simp [closed])
    split
    · rename_i result
      rw [result] at reconnects
      exact ⟨_, reconnects⟩
    · rename_i result
      rw [result] at reconnects
      exact Proceeds.trans ⟨_, reconnects⟩ (.report _ _)

namespace Proceeds

theorem linkFailed (session : Session W) {error : SessionError}
    (transport : error.errorClass = .transport) :
    Proceeds session (session.linkFailed error) := by
  have told : ProceedsBy [.told (.event (.error error))] session (session.report error) :=
    .of_told [.event (.error error)] rfl rfl rfl rfl rfl rfl
  exact told.reconnectOnce (by simp [Entry.isLinkFailure, transport])

theorem connectionFailed (session : Session W) (reason : String) :
    Proceeds session (session.connectionFailed reason) := by
  have told : ProceedsBy
      [.told (.event (.error (.connect reason))), .told (.event (.connection .disconnected))]
      session (({ session with connected := false }.report (.connect reason)).notify
        (.connection .disconnected)) :=
    .of_told [.event (.error (.connect reason)), .event (.connection .disconnected)]
      (List.append_assoc _ [_] [_]) rfl rfl rfl rfl rfl
  exact told.reconnectOnce rfl

theorem connectionLost (session : Session W) (reason : String) :
    Proceeds session (session.connectionLost reason) := by
  have told : Proceeds session
      ({ session with connected := false }.notify (.connection .disconnected)) :=
    of_told [.event (.connection .disconnected)] rfl rfl rfl rfl rfl rfl
  exact told.trans (linkFailed _ rfl)

theorem receive (session : Session W) (generation : Nat) (event : LinkEvent) :
    Proceeds session (session.receive generation event) := by
  unfold Session.receive
  split
  · cases event with
    | connected => exact onConnected session
    | connectionFailed reason => exact connectionFailed session reason
    | connectionLost reason => exact connectionLost session reason
    | message topic payload => exact enqueue session _
  · exact refl session

theorem publish (session : Session W) (live : session.hasSession = true)
    (publish : Publish) : Proceeds session (session.publish publish) := by
  have noted (outcome : Except LinkError Unit) : Proceeds session
      ({ session with outside := (Surroundings.publish session.outside publish).2 }.note
        (.published publish session.now outcome)) :=
    of_live live live rfl (.one rfl rfl)
  unfold Session.publish
  dsimp only
  split
  · exact noted _
  · rename_i error _
    exact (noted _).trans (linkFailed _ (by cases error <;> rfl))

theorem subscribe (session : Session W) (live : session.hasSession = true)
    (topics : List String) : Proceeds session (session.subscribe topics) := by
  have noted (outcome : Except LinkError Unit) : Proceeds session
      ({ session with outside := (Surroundings.subscribe session.outside topics).2 }.note
        (.subscribed topics outcome)) :=
    of_live live live rfl (.one rfl rfl)
  unfold Session.subscribe
  dsimp only
  split
  · exact noted _
  · rename_i error _
    exact (noted _).trans (linkFailed _ (by cases error <;> rfl))

theorem change {concern : Concern}
    (live : concern.needsAccount = true → first.hasSession = true)
    (ongoing : concern.isOngoing = true) (change : Change first concern last) :
    Proceeds first last := by
  cases change with
  | notify news => exact tell first _
  | shown delivers => exact tell first _
  | raiseIndex higher => exact of_live (live rfl) (live rfl) rfl (.of_eq rfl)
  | setUserState userState => exact of_live (live rfl) (live rfl) rfl (.one rfl rfl)
  | track key timestamp => exact of_live (live rfl) (live rfl) rfl (.of_eq rfl)
  | complete tracked => exact of_live (live rfl) (live rfl) rfl (.of_eq rfl)
  | counted counts => exact advanceRestore first _
  | paged messages topic known => exact advanceRestore first _
  | rehost host =>
      exact of_live (live rfl) (Option.isSome_map.trans (live rfl)) rfl (.one rfl rfl)
  | release key context =>
      unfold Session.release
      split
      · exact of_live (live rfl) (live rfl) rfl (.of_eq rfl)
      · exact of_live (live rfl) (live rfl) rfl (.of_eq rfl)
  | park bundle => exact of_live (live rfl) (live rfl) rfl (.of_eq rfl)
  | delay bundle context => exact of_live (live rfl) (live rfl) rfl (.of_eq rfl)
  | publish publish => exact Proceeds.publish first (live rfl) publish
  | subscribe topics => exact Proceeds.subscribe first (live rfl) topics
  | ask call answer wall outside lives =>
      have live : first.hasSession = true := congrArg Option.isSome lives
      exact of_live live live rfl ((Adds.one rfl rfl).trans (.one rfl rfl))
  | accept bundle context => exact accept first bundle context
  | enterRestore restoring resumePaging => exact enterRestore first restoring resumePaging
  | cancelRestore => exact cancelRestore first
  | link link => cases ongoing
  | wake next => cases ongoing
  | _ => exact of_same rfl rfl rfl rfl rfl rfl

theorem changes {concerns : List Concern}
    (live : first.hasSession = true ∨ ∀ concern ∈ concerns, concern.needsAccount = false)
    (ongoing : ∀ concern ∈ concerns, concern.isOngoing = true)
    (changes : Changes concerns first last) : Proceeds first last := by
  induction changes with
  | refl => exact refl first
  | tail _ change induction =>
      obtain ⟨concern, member, change⟩ := change
      obtain ⟨more, before⟩ := induction
      refine Proceeds.trans ⟨more, before⟩ (Proceeds.change (fun needs => ?_)
        (ongoing concern member) change)
      cases live with
      | inl live => exact before.live.trans live
      | inr free => exact absurd (needs.symm.trans (free concern member)) (by decide)

theorem continuePublishing (session : Session W) (bundle : Bundle)
    (context : DispatchContext) :
    Proceeds session (session.continuePublishing bundle context) := by
  cases live : session.hasSession with
  | true => exact changes (Or.inl live) (by decide) (.continuePublishing session bundle context)
  | false =>
      rw [Session.continuePublishing, if_neg (by simp [live])]
      exact refl session

theorem apply (session : Session W) (bundle : Bundle) (context : DispatchContext) :
    Proceeds session (session.apply bundle context) := by
  cases live : session.hasSession with
  | true =>
      have noted : Proceeds session (session.note (.applied bundle context)) :=
        of_live live live rfl (.one rfl rfl)
      exact noted.trans (changes (Or.inl live) (by decide) (.apply live bundle context))
  | false =>
      rw [apply_closed live]
      exact report session _

theorem tryPayInvoice (session : Session W) (invoice : String) :
    Proceeds session (session.tryPayInvoice invoice).1 := by
  have called {outcome : Except SessionError (Bundle × UInt64)} {last : Session W}
      (ran : session.runCall (.payInvoice invoice) = (last, outcome)) : Proceeds session last :=
    changes (Or.inr (by decide)) (by decide) (.of_runCall ran)
  unfold Session.tryPayInvoice
  split
  · exact refl session
  · rename_i hash _
    split
    · rename_i ran
      exact called ran
    · rename_i paid bundle time ran
      have tracked := Proceeds.change (fun _ => live_of_answered ran) rfl
        (.track paid hash (roundTripTime bundle time))
      exact ((called ran).trans tracked).trans (accept _ _ _)

theorem step (session : Session W) : Proceeds session session.step := by
  unfold Session.step
  split
  · rename_i work agenda _
    have taken : Proceeds session { session with agenda } :=
      of_same rfl rfl rfl rfl rfl rfl
    cases work with
    | dispatch bundle context => exact taken.trans (apply _ bundle context)
    | call call =>
        exact taken.trans (changes (Or.inr (by decide)) (by decide) (.callThenApply _ call {}))
    | inbound topic payload =>
        exact taken.trans (changes (Or.inr (by decide)) (by decide) (.callThenApply _ _ _))
    | bootstrap resumePaging =>
        exact taken.trans (changes (Or.inr (by decide)) (by decide) (.bootstrap _ resumePaging))
  · rename_i event _ _ _
    exact of_told [.event event] rfl rfl rfl rfl rfl rfl
  · exact refl session

end Proceeds

/-- What happens to a session. -/
inductive Passage : Session W → Session W → Prop where
  | proceed {first last : Session W} (proceeds : Proceeds first last) : Passage first last
  | close (session : Session W) : Passage session session.disconnect
  | enter (session : Session W) (account : Account) (owner : Owner) (resume : Bool) :
      Passage session (session.adopt account owner resume).connect.1

abbrev Passages : Session W → Session W → Prop :=
  Relation.ReflTransGen Passage

namespace Passages

theorem proceed (proceeds : Proceeds first last) : Passages first last :=
  Relation.ReflTransGen.single (.proceed proceeds)

theorem reported {result : Session W × Except SessionError Unit}
    (passages : Passages first result.1) : Passages first (Session.reported result).1 :=
  passages.trans (proceed (.changes (Or.inr (by decide)) (by decide) (.reported result)))

theorem openAccount (session : Session W) (account : Account) (owner : Owner)
    (resume : Bool) : Passages session (session.openAccount account owner resume).1 := by
  unfold Session.openAccount
  extract_lets fresh adopted
  have entered : Passages session adopted.connect.1 :=
    Relation.ReflTransGen.single (.enter session account owner resume)
  split
  · rename_i result
    rw [result] at entered
    exact entered
  · rename_i result
    rw [result] at entered
    exact entered.tail (.proceed (.connectionFailed _ _))
  · rename_i result
    rw [result] at entered
    exact entered

theorem of_mayOpen {resume : Bool} (mayOpen : MayOpen resume first last) :
    Passages first last := by
  obtain ⟨middle, changes, rfl | ⟨account, owner, rfl⟩⟩ := mayOpen
  · exact proceed (.changes (Or.inr (by decide)) (by decide) changes)
  · exact (proceed (.changes (Or.inr (by decide)) (by decide) changes)).trans
      (openAccount _ _ _ _)

theorem reconnect (session : Session W) : Passages session session.reconnect.1 := by
  rcases session.reconnect_cases with changes | ⟨params, -, reopens⟩
  · exact proceed (.changes (Or.inr (by decide)) (by decide) changes)
  · have closed : Passages session session.disconnect :=
      Relation.ReflTransGen.single (.close session)
    rw [reopens]
    exact reported (closed.trans (of_mayOpen (.tryStart _ _ _ _)))

theorem perform (session : Session W) (operation : Operation) :
    Passages session (session.perform operation).1 := by
  cases operation with
  | addListener => exact proceed (.of_same rfl rfl rfl rfl rfl rfl)
  | beginRestore mnemonic => exact proceed (.of_same rfl rfl rfl rfl rfl rfl)
  | createAccount displayName mixer inviteCode =>
      exact reported (of_mayOpen (.tryCreateAccount session displayName mixer inviteCode))
  | restoreAccount params => exact reported (of_mayOpen (.tryRestoreAccount session params))
  | start address mnemonic owner =>
      exact reported (of_mayOpen (.tryStart session _ owner false))
  | reconnect => exact reconnect session
  | disconnect => exact Relation.ReflTransGen.single (.close session)
  | payInvoice invoice => exact reported (proceed (.tryPayInvoice session invoice))
  | cancelRestore => exact proceed (.cancelRestore session)
  | dispatch bundle context => exact proceed (.accept session bundle context)
  | _ =>
      exact reported (proceed (.changes (Or.inr (by decide)) (by decide) (.execute session _)))

end Passages

def Move.isWake : Move W → Bool
  | .wake => true
  | _ => false

theorem move_passages (session : Session W) {next : Move W} (other : next.isWake = false) :
    Passages session (session.move next) := by
  cases next with
  | perform operation => exact .perform session operation
  | receive generation event => exact .proceed (.receive session generation event)
  | wake => cases other
  | step => exact .proceed (.step session)
  | advance millis => exact .proceed (.of_same rfl rfl rfl rfl rfl rfl)
  | surround outside => exact .proceed (.of_same rfl rfl rfl rfl rfl rfl)

/-- What no passage breaks, and no continuation that falls due. -/
structure Enduring (property : Session W → Prop) : Prop where
  passage : ∀ {first last : Session W}, property first → Passage first last → property last
  woken : ∀ {session : Session W} (first : Waiting) (waiting : List Waiting),
    property session → property ({ session with waiting }.note (.woken first))

namespace Enduring

variable {property : Session W → Prop}

theorem passages (enduring : Enduring property) (holds : property first)
    (passages : Passages first last) : property last := by
  induction passages with
  | refl => exact holds
  | tail _ passage induction => exact enduring.passage induction passage

theorem move (enduring : Enduring property) {session : Session W} (holds : property session)
    (next : Move W) : property (session.move next) := by
  cases wakes : next.isWake with
  | false => exact enduring.passages holds (move_passages session wakes)
  | true =>
      cases next with
      | wake =>
          rcases session.wake_cases with same | ⟨first, waiting, -, -, woken⟩
          · rw [Session.move, same]
            exact holds
          · have due := enduring.woken first waiting holds
            rw [Session.move, woken]
            exact enduring.passage due (.proceed (.continuePublishing _ _ _))
      | _ => cases wakes

theorem moves (enduring : Enduring property) {session : Session W} (holds : property session)
    (moves : List (Move W)) : property (moves.foldl Session.move session) := by
  induction moves generalizing session with
  | nil => exact holds
  | cons next rest induction => exact induction (enduring.move holds next)

theorem reaches (enduring : Enduring property) {initial session : Session W}
    (holds : property initial) (reached : Reaches initial session) : property session := by
  induction reached with
  | here => exact holds
  | after next _ _ induction => exact enduring.move induction next

end Enduring

end Surrounded

end Session

end Messenger

import Messenger.Proofs.Session.Proceeding
import Messenger.Proofs.Session.RestoreKept

/-!
What a session does without an account: it tells its listeners, and that is all. The core
and the link are asked only for a live account, and what an account left behind is gone and
stays so until the next one is opened.
-/

namespace Messenger

def liveAfter (live : Bool) (entries : List Entry) : Bool :=
  entries.foldl (fun live entry => entry.isOpening || live && !entry.isDisconnect) live

theorem liveAfter_append (live : Bool) (early late : List Entry) :
    liveAfter live (early ++ late) = liveAfter (liveAfter live early) late :=
  List.foldl_append

theorem liveAfter_of_isCurrent (live : Bool) {entries : List Entry}
    (current : ∀ entry ∈ entries, entry.isCurrent = true) : liveAfter live entries = live := by
  induction entries with
  | nil => rfl
  | cons entry rest induction =>
      have ⟨first, others⟩ := List.forall_mem_cons.mp current
      have same : (entry.isOpening || live && !entry.isDisconnect) = live := by
        cases entry with
        | opened account owner => cases first
        | disconnected => cases first
        | _ => exact Bool.and_true live
      rw [liveAfter, List.foldl_cons, same]
      exact induction others

theorem liveAfter_of_unopened {entries : List Entry}
    (unopened : ∀ entry ∈ entries, entry.isOpening = false) :
    liveAfter false entries = false := by
  induction entries with
  | nil => rfl
  | cons entry rest induction =>
      have ⟨first, others⟩ := List.forall_mem_cons.mp unopened
      rw [liveAfter, List.foldl_cons, first]
      exact induction others

theorem liveAfter_disconnected (before : List Entry) {stretch : List Entry}
    (unopened : ∀ entry ∈ stretch, entry.isOpening = false) :
    liveAfter false (before ++ .disconnected :: stretch) = false := by
  rw [List.append_cons, liveAfter_append, liveAfter_append]
  have closed : liveAfter (liveAfter false before) [.disconnected] = false :=
    Bool.and_false _
  rw [closed, liveAfter_of_unopened unopened]

/-- Ahead of each marked entry it holds of all that was noted before. -/
def Ahead (marks : Entry → Bool) (holds : List Entry → Prop) (journal : List Entry) : Prop :=
  ∀ early entry late, journal = early ++ entry :: late → marks entry = true → holds early

namespace Ahead

variable {marks : Entry → Bool} {holds : List Entry → Prop} {journal more : List Entry}

theorem nil : Ahead marks holds [] :=
  fun _ _ _ split => absurd split.symm (by simp)

theorem append (ahead : Ahead marks holds journal)
    (new : ∀ early entry late, more = early ++ entry :: late → marks entry = true →
      holds (journal ++ early)) : Ahead marks holds (journal ++ more) := by
  intro early entry late split marked
  rcases List.append_eq_append_iff.mp split with ⟨middle, rfl, rest⟩ | ⟨middle, old, rest⟩
  · exact new middle entry late rest marked
  · cases middle with
    | nil =>
        rw [List.append_nil] at old
        have fresh := new [] entry late rest.symm marked
        rwa [List.append_nil, old] at fresh
    | cons next others =>
        obtain ⟨rfl, -⟩ := List.cons_eq_cons.mp rest
        exact ahead early entry others old marked

theorem append_unmarked (ahead : Ahead marks holds journal)
    (unmarked : ∀ entry ∈ more, marks entry = false) : Ahead marks holds (journal ++ more) := by
  refine ahead.append fun early entry late split marked => ?_
  have plain := unmarked entry (split ▸ List.mem_append_cons_self)
  exact absurd (plain.symm.trans marked) (by decide)

theorem append_one (ahead : Ahead marks holds journal) {entry : Entry}
    (now : marks entry = true → holds journal) : Ahead marks holds (journal ++ [entry]) := by
  refine ahead.append fun early other late split marked => ?_
  obtain ⟨rfl, same⟩ : early = [] ∧ _ := by
    cases early with
    | nil => exact ⟨rfl, split⟩
    | cons first rest => simp at split
  obtain rfl : entry = other := (List.cons_eq_cons.mp same).1
  rw [List.append_nil]
  exact now marked

end Ahead

namespace Session

variable {W : Type}

/-- A live account is one that was opened and not closed, nothing is asked for without one,
and nothing is tracked or parked without one. -/
structure Hushed (session : Session W) : Prop where
  live : session.hasSession = liveAfter false session.journal
  asked : Ahead Entry.isRequest (liveAfter false · = true) session.journal
  empty : session.hasSession = false → session.liveness = ∅ ∧ session.settlements = ∅

theorem hushed_new (config : Config) (outside : W) : (new config outside).Hushed :=
  ⟨rfl, .nil, fun _ => ⟨rfl, rfl⟩⟩

theorem Hushed.silent {session : Session W} (hushed : session.Hushed)
    {before stretch after : List Entry}
    (split : session.journal = before ++ .disconnected :: (stretch ++ after))
    (unopened : ∀ entry ∈ stretch, entry.isOpening = false) :
    ∀ entry ∈ stretch, entry.isRequest = false := by
  intro entry member
  obtain ⟨early, late, rfl⟩ := List.append_of_mem member
  have closed := liveAfter_disconnected before
    fun entry member => unopened entry (List.mem_append_left _ member)
  refine Bool.eq_false_iff.mpr fun asks => ?_
  have live := hushed.asked (before ++ .disconnected :: early) entry (late ++ after)
    (by rw [split]; simp) asks
  exact absurd (closed.symm.trans live) (by decide)

/-- As long as no account is opened again, the session stays as it is here. -/
def StaysClosed (first session : Session W) : Prop :=
  ∃ more, session.journal = first.journal ++ more ∧
    ((∀ entry ∈ more, entry.isOpening = false) →
      session.hasSession = false ∧ session.owner = first.owner ∧
        session.liveness = ∅ ∧ session.settlements = ∅)

theorem Hushed.staysClosed {session : Session W} (hushed : session.Hushed)
    (closed : session.hasSession = false) : StaysClosed session session :=
  ⟨[], (List.append_nil _).symm, fun _ => ⟨closed, rfl, hushed.empty closed⟩⟩

theorem Hushed.proceed {first last : Session W} (hushed : first.Hushed)
    (proceeds : Proceeds first last) : last.Hushed := by
  obtain ⟨more, proceedsBy⟩ := proceeds
  have unchanged : liveAfter false first.journal = first.hasSession := hushed.live.symm
  constructor
  case live =>
    rw [proceedsBy.live, proceedsBy.journal, liveAfter_append,
      liveAfter_of_isCurrent _ proceedsBy.current, unchanged]
  case asked =>
    rw [proceedsBy.journal]
    cases live : first.hasSession with
    | false =>
        obtain ⟨-, -, -, unasked⟩ := proceedsBy.silent live
        exact hushed.asked.append_unmarked unasked
    | true =>
        refine hushed.asked.append fun early entry late split _ => ?_
        have current : ∀ entry ∈ early, entry.isCurrent = true :=
          fun entry member => proceedsBy.current entry (split ▸ List.mem_append_left _ member)
        rw [liveAfter_append, liveAfter_of_isCurrent _ current, unchanged, live]
  case empty =>
    intro closed
    have closedBefore := proceedsBy.live.symm.trans closed
    obtain ⟨-, liveness, settlements, -⟩ := proceedsBy.silent closedBefore
    rw [liveness, settlements]
    exact hushed.empty closedBefore

variable [Surroundings W]

theorem Hushed.close {session : Session W} (hushed : session.Hushed) :
    session.disconnect.Hushed := by
  constructor
  case live =>
    rw [disconnect_journal]
    exact (liveAfter_disconnected session.journal (List.forall_mem_singleton.mpr rfl)).symm
  case asked =>
    rw [disconnect_journal]
    exact hushed.asked.append_unmarked (by simp [Entry.isRequest])
  case empty => exact fun _ => ⟨rfl, rfl⟩

theorem Hushed.enter {session : Session W} (hushed : session.Hushed) (account : Account)
    (owner : Owner) (resume : Bool) : (session.adopt account owner resume).connect.1.Hushed := by
  obtain ⟨more, grown, current, -, lives, -⟩ :=
    connect_once (session.adopt account owner resume)
  have adopted : (session.adopt account owner resume).journal =
      session.journal ++ [.opened account owner] := rfl
  have opened (early : List Entry) (current : ∀ entry ∈ early, entry.isCurrent = true) :
      liveAfter false (session.journal ++ [.opened account owner] ++ early) = true := by
    rw [liveAfter_append, liveAfter_append, liveAfter_of_isCurrent _ current]
    rfl
  have live : (session.adopt account owner resume).connect.1.hasSession = true := lives
  rw [adopted] at grown
  constructor
  case live => rw [live, grown, opened more current]
  case asked =>
    rw [grown]
    have noted : Ahead Entry.isRequest (liveAfter false · = true)
        (session.journal ++ [.opened account owner]) :=
      hushed.asked.append_unmarked (List.forall_mem_singleton.mpr rfl)
    refine noted.append fun early entry late split _ => opened early fun entry member => ?_
    exact current entry (split ▸ List.mem_append_left _ member)
  case empty => exact fun closed => absurd (live.symm.trans closed) (by decide)

theorem hushed_enduring : Enduring (@Hushed W) where
  passage hushed passage := by
    cases passage with
    | proceed proceeds => exact hushed.proceed proceeds
    | close => exact hushed.close
    | enter account owner resume => exact hushed.enter account owner resume
  woken first waiting hushed := by
    constructor
    case live =>
      rw [note, liveAfter_append]
      exact hushed.live.trans (Bool.and_true _).symm
    case asked => exact hushed.asked.append_unmarked (List.forall_mem_singleton.mpr rfl)
    case empty => exact hushed.empty

namespace StaysClosed

variable {start session : Session W}

omit [Surroundings W] in
theorem proceed {last : Session W} (closed : StaysClosed start session)
    (proceeds : Proceeds session last) : StaysClosed start last := by
  obtain ⟨before, grown, kept⟩ := closed
  obtain ⟨more, proceedsBy⟩ := proceeds
  refine ⟨before ++ more, ?_, fun unopened => ?_⟩
  · rw [proceedsBy.journal, grown, List.append_assoc]
  · obtain ⟨closed, owner, liveness, settlements⟩ :=
      kept fun entry member => unopened entry (List.mem_append_left _ member)
    obtain ⟨sameOwner, sameLiveness, sameSettlements, -⟩ := proceedsBy.silent closed
    exact ⟨proceedsBy.live.trans closed, sameOwner.trans owner,
      sameLiveness.trans liveness, sameSettlements.trans settlements⟩

theorem close (closed : StaysClosed start session) :
    StaysClosed start session.disconnect := by
  obtain ⟨before, grown, kept⟩ := closed
  have journal := session.disconnect_journal
  rw [grown, List.append_assoc] at journal
  refine ⟨_, journal, fun unopened => ?_⟩
  obtain ⟨-, owner, -, -⟩ :=
    kept fun entry member => unopened entry (List.mem_append_left _ member)
  exact ⟨rfl, owner, rfl, rfl⟩

theorem enter (closed : StaysClosed start session) (account : Account) (owner : Owner)
    (resume : Bool) : StaysClosed start (session.adopt account owner resume).connect.1 := by
  obtain ⟨before, grown, -⟩ := closed
  obtain ⟨more, opened, -⟩ := connect_once (session.adopt account owner resume)
  have adopted : (session.adopt account owner resume).journal =
      session.journal ++ [.opened account owner] := rfl
  rw [adopted, grown, List.append_assoc, List.append_assoc] at opened
  refine ⟨_, opened, fun unopened => ?_⟩
  cases unopened (.opened account owner) (by simp)

end StaysClosed

theorem staysClosed_enduring (start : Session W) : Enduring (StaysClosed start) where
  passage closed passage := by
    cases passage with
    | proceed proceeds => exact closed.proceed proceeds
    | close => exact closed.close
    | enter account owner resume => exact closed.enter account owner resume
  woken first waiting closed := by
    obtain ⟨before, grown, kept⟩ := closed
    refine ⟨before ++ [.woken first], ?_, fun unopened => ?_⟩
    · rw [note, grown, List.append_assoc]
    · exact kept fun entry member => unopened entry (List.mem_append_left _ member)

/-- Between a disconnect and the next opening neither the core nor the link is asked for
anything, and the owner, what is tracked and what is parked stay as they are. -/
theorem silent_once_disconnected (config : Config) (outside : W)
    (earlier later : List (Move W)) {first last : Session W}
    (begins : first = earlier.foldl move (new config outside))
    (ends : last = later.foldl move first) :
    (∀ before stretch after, last.journal = before ++ .disconnected :: (stretch ++ after) →
      (∀ entry ∈ stretch, entry.isOpening = false) →
      ∀ entry ∈ stretch, entry.isRequest = false) ∧
    ∀ before early, first.journal = before ++ .disconnected :: early →
      (∀ entry ∈ early, entry.isOpening = false) →
      first.journal <+: last.journal ∧
        ((∀ entry ∈ last.since first, entry.isOpening = false) →
          last.owner = first.owner ∧ last.liveness = first.liveness ∧
            last.settlements = first.settlements) := by
  have start : first.Hushed := begins ▸ hushed_enduring.moves (hushed_new config outside) earlier
  have hushed : last.Hushed := ends ▸ hushed_enduring.moves start later
  constructor
  · exact fun before stretch after split unopened => hushed.silent split unopened
  · intro before early split unopened
    have closed : first.hasSession = false := by
      rw [start.live, split, liveAfter_disconnected before unopened]
    obtain ⟨late, grown, kept⟩ :=
      (staysClosed_enduring first).moves (start.staysClosed closed) later
    rw [← ends] at grown kept
    refine ⟨⟨late, grown.symm⟩, fun unopened => ?_⟩
    rw [since, grown, List.drop_left] at unopened
    obtain ⟨-, owner, liveness, settlements⟩ := kept unopened
    obtain ⟨noLiveness, noSettlements⟩ := start.empty closed
    exact ⟨owner, liveness.trans noLiveness.symm, settlements.trans noSettlements.symm⟩

/-! A disconnect while the rest of a bundle waits for the register delay. -/

def registersFirst : Bundle where
  messages := [{ tag := some "t" }]
  register := some ⟨"register", [1]⟩
  publishes := [⟨"after", [2]⟩]

def registeringMoves : List (Move Bench) :=
  [.perform (.start "broker" twelveWords {}), .perform (.dispatch registersFirst {}), .step]

def registeredRun : Session Bench :=
  registeringMoves.foldl move (new .test (.new 7))

def departingMoves : List (Move Bench) :=
  registeringMoves ++ [.perform .disconnect]

/-- A bundle, a call, an event of the attempt before the disconnect, and the delay. -/
def absentMoves : List (Move Bench) :=
  [.perform (.dispatch fourPublishes {}), .step, .perform (.markRead "peer" 7),
    .receive 1 .connected, .advance 250, .wake]

def departedRun : Session Bench :=
  departingMoves.foldl move (new .test (.new 7))

def absentRun : Session Bench :=
  absentMoves.foldl move departedRun

theorem split_at {marks : Entry → Bool} {journal : List Entry} {place : Nat}
    (found : journal[place]?.any marks = true) :
    ∃ entry, marks entry = true ∧
      journal = journal.take place ++ entry :: journal.drop (place + 1) := by
  obtain ⟨entry, noted, marked⟩ := (Option.any_eq_true _ _).mp found
  obtain ⟨within, same⟩ := List.getElem?_eq_some_iff.mp noted
  refine ⟨entry, marked, ?_⟩
  rw [← same, List.getElem_cons_drop, List.take_append_drop]

theorem split_at_disconnected {journal : List Entry} {place : Nat}
    (closes : journal[place]?.any Entry.isDisconnect = true) :
    journal = journal.take place ++ .disconnected :: journal.drop (place + 1) := by
  obtain ⟨entry, disconnects, split⟩ := split_at closes
  cases entry with
  | disconnected => exact split
  | _ => cases disconnects

theorem unopened_of_all {entries : List Entry} (none : entries.all (!·.isOpening) = true) :
    ∀ entry ∈ entries, entry.isOpening = false := by
  simpa using none

theorem silent_absentRun :
    (∀ entry ∈ absentRun.journal.drop 10, entry.isRequest = false) ∧
      absentRun.owner = departedRun.owner ∧ absentRun.liveness = departedRun.liveness ∧
        absentRun.settlements = departedRun.settlements := by
  have closes : absentRun.journal[9]?.any Entry.isDisconnect = true := by decide +kernel
  have departs : departedRun.journal[9]?.any Entry.isDisconnect = true := by decide +kernel
  obtain ⟨silent, kept⟩ := @silent_once_disconnected Bench _ .test (.new 7) departingMoves
    absentMoves departedRun absentRun rfl rfl
  constructor
  · refine silent (absentRun.journal.take 9) _ [] ?_ (unopened_of_all (by decide +kernel))
    rw [List.append_nil]
    exact split_at_disconnected closes
  · refine (kept _ _ (split_at_disconnected departs) ?_).2 ?_
    · exact unopened_of_all (by decide +kernel)
    · exact unopened_of_all (by decide +kernel)

end Session

end Messenger

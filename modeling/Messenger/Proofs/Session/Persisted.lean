import Messenger.Proofs.Session.Deeds
import Messenger.Proofs.Session.OwnerState
import Messenger.Proofs.Session.Silence
import Messenger.Proofs.Stored.RoundTrip

/-!
The stored form of the owner's user state that was told last. At any time it is read back as
the live state, and as the state that the core is called with next.
-/

namespace Messenger

namespace UserState

theorem fromStored_self (state : UserState) : fromStored state.toStored = .ok state := by
  have trimmed : Text.trim state.toStored.toList = Base64.encode state.storedBytes := by
    have solid : ∀ c ∈ Base64.encode state.storedBytes, Text.isBlank c = false :=
      fun _ member => Base64.encode_not_blank member
    have alone := Text.trim_surrounded (List.forall_mem_nil _) (List.forall_mem_nil _) solid
    rw [toStored_toList]
    rwa [List.nil_append, List.append_nil] at alone
  have written : Base64.encode state.storedBytes ≠ [] :=
    mt Base64.encode_eq_nil.mp state.storedBytes_ne_nil
  have values :
      decodeEntries (KeyMap.ofList (storedMembers state.entries.entries)).entries =
        .ok state.entries.entries := by
    rw [KeyMap.entries_ofList (storedMembers_ordered state.entries),
      decodeEntries_storedMembers]
  rw [fromStored_eq trimmed written (Base64.decode_encode _) (read_storedBytes state)
    values, KeyMap.ofList_entries]

end UserState

namespace Entry

def stored? : Entry → Option String
  | .told callback => callback.stored?
  | _ => none

/-- The core is called with these bytes for the owner's user state. -/
def hands (userState : Bytes) : Entry → Bool
  | .called context _ _ => context.userState = userState
  | _ => false

/-- What is noted of anything but the owner's user state. -/
def sparesState : Entry → Bool
  | .opened _ _ => false
  | .told callback => callback.stored?.isNone
  | _ => true

theorem of_sparesState {entry : Entry} (spares : entry.sparesState = true) :
    entry.isOpening = false ∧ entry.openingState? = none ∧ entry.stored? = none := by
  cases entry with
  | opened account owner => cases spares
  | told callback => exact ⟨rfl, rfl, Option.isNone_iff_eq_none.mp spares⟩
  | _ => exact ⟨rfl, rfl, rfl⟩

theorem not_hands {entry : Entry} (uncalled : entry.isCall = false) (userState : Bytes) :
    entry.hands userState = false := by
  cases entry with
  | called context call answer => cases uncalled
  | _ => rfl

theorem sparesState_of_isSlight {entry : Entry} (slight : entry.isSlight = true) :
    entry.sparesState = true ∧ entry.isCall = false := by
  cases entry with
  | opened account owner => cases slight
  | called context call answer => cases slight
  | told callback => exact ⟨slight, rfl⟩
  | _ => exact ⟨rfl, rfl⟩

end Entry

/-- The stored form that was told last since the account was opened. -/
def lastStored? (journal : List Entry) : Option String :=
  ((afterLast Entry.isOpening journal).filterMap Entry.stored?).getLast?

/-- The state that the account was opened with. -/
def openedState (journal : List Entry) : UserState :=
  (journal.filterMap Entry.openingState?).getLastD ∅

/-- Who has listened knows the state: it is what the stored form told last is read as, or
the one at the opening if none was told since. -/
structure Recovers (journal : List Entry) (state : UserState) : Prop where
  told : ∀ stored, lastStored? journal = some stored →
    UserState.fromStored stored = .ok state
  untold : lastStored? journal = none → state = openedState journal

namespace Recovers

variable {journal more : List Entry} {state : UserState}

theorem append (recovers : Recovers journal state)
    (spares : ∀ entry ∈ more, entry.sparesState = true) :
    Recovers (journal ++ more) state := by
  have plain (entry : Entry) (member : entry ∈ more) := Entry.of_sparesState (spares entry member)
  have sameStored : lastStored? (journal ++ more) = lastStored? journal := by
    rw [lastStored?, afterLast_append journal fun entry member => (plain entry member).1,
      filterMap_grown _ fun entry member => (plain entry member).2.2]
    rfl
  have sameOpened : openedState (journal ++ more) = openedState journal := by
    rw [openedState, filterMap_grown journal fun entry member => (plain entry member).2.1]
    rfl
  exact ⟨sameStored ▸ recovers.told, sameStored ▸ sameOpened ▸ recovers.untold⟩

theorem tell (journal : List Entry) (state : UserState) :
    Recovers (journal ++ [.told (.event (.userStateChanged state.toStored))]) state := by
  have last : lastStored? (journal ++ [.told (.event (.userStateChanged state.toStored))]) =
      some state.toStored := by
    rw [lastStored?, afterLast_append journal (List.forall_mem_singleton.mpr rfl),
      List.filterMap_append]
    exact List.getLast?_concat
  constructor
  case told =>
    intro stored told
    obtain rfl : state.toStored = stored := Option.some.inj (last.symm.trans told)
    exact state.fromStored_self
  case untold => exact fun none => nomatch last.symm.trans none

theorem opening (journal : List Entry) (account : Account) (owner : Owner) :
    Recovers (journal ++ [.opened account owner]) owner.userState := by
  have none : lastStored? (journal ++ [.opened account owner]) = none := by
    rw [lastStored?, afterLast_mark journal rfl]
    rfl
  constructor
  case told => exact fun stored told => nomatch none.symm.trans told
  case untold =>
    rw [openedState, List.filterMap_append]
    exact fun _ => List.getLastD_concat.symm

end Recovers

namespace Session

variable {W : Type}

/-- Who has listened knows the live state, and knew the one of every call when it was made. -/
structure Persists (session : Session W) : Prop where
  live : Recovers session.journal session.owner.userState
  calls : ∀ userState, Ahead (Entry.hands userState)
    (fun earlier => ∃ state, Recovers earlier state ∧ userState = state.toCoreBytes)
    session.journal
  farewell : ∀ event ∈ session.farewell, (Callback.event event).stored? = none

theorem persists_new (config : Config) (outside : W) : (new config outside).Persists where
  live := ⟨nofun, fun _ => rfl⟩
  calls _ := .nil
  farewell := nofun

namespace Persists

variable {first last : Session W} {more : List Entry}

theorem grows (persists : first.Persists)
    (userState : last.owner.userState = first.owner.userState)
    (farewell : ∀ event ∈ last.farewell, (Callback.event event).stored? = none)
    (journal : last.journal = first.journal ++ more)
    (spares : ∀ entry ∈ more, entry.sparesState = true ∧ entry.isCall = false) :
    last.Persists where
  live := by
    rw [journal, userState]
    exact persists.live.append fun entry member => (spares entry member).1
  calls bytes := by
    rw [journal]
    exact (persists.calls bytes).append_unmarked fun entry member =>
      Entry.not_hands (spares entry member).2 bytes
  farewell := farewell

theorem slight (persists : first.Persists) (slight : Slight first last) : last.Persists := by
  obtain ⟨more, journal, isSlight⟩ := slight.journal
  exact persists.grows slight.userState (slight.farewell ▸ persists.farewell) journal
    fun entry member => Entry.sparesState_of_isSlight (isSlight entry member)

theorem advanceRestore (persists : first.Persists)
    (step : RestoreMachine × List RestoreAction) : (first.advanceRestore step).Persists := by
  rw [advanceRestore_eq]
  exact persists.grows rfl persists.farewell rfl fun entry member =>
    Entry.sparesState_of_isSlight (RestoreAction.slight_of_told entry member)

theorem drawn (persists : first.Persists) (wall : UInt64) (outside : W) :
    (first.drawn wall outside).Persists :=
  persists.grows rfl persists.farewell rfl (List.forall_mem_singleton.mpr ⟨rfl, rfl⟩)

/-- A call is handed the live state. -/
theorem asked (persists : first.Persists) (account : Account) (call : CoreCall)
    (answer : Except String Bundle) (wall : UInt64) (outside : W) :
    (first.asked account call answer wall outside).Persists := by
  have drawn := persists.drawn wall outside
  constructor
  case live => exact drawn.live.append (List.forall_mem_singleton.mpr rfl)
  case calls =>
    intro bytes
    refine (drawn.calls bytes).append_one fun hands => ?_
    exact ⟨_, drawn.live, (of_decide_eq_true hands).symm⟩
  case farewell => exact persists.farewell

theorem cancelRestore (persists : first.Persists) : first.cancelRestore.Persists := by
  have ended : first.endRestore.Persists := ⟨persists.live, persists.calls, persists.farewell⟩
  unfold Session.cancelRestore
  split
  · exact persists
  · exact ended.advanceRestore _

theorem setUserState (persists : first.Persists) (userState : UserState) :
    (first.setUserState userState).Persists where
  live := .tell first.journal userState
  calls bytes := (persists.calls bytes).append_unmarked (List.forall_mem_singleton.mpr rfl)
  farewell := persists.farewell

theorem adopt (persists : first.Persists) (account : Account) (owner : Owner)
    (resume : Bool) : (first.adopt account owner resume).Persists where
  live := .opening first.journal account owner
  calls bytes := (persists.calls bytes).append_unmarked (List.forall_mem_singleton.mpr rfl)
  farewell := persists.farewell

variable [Surroundings W]

theorem steady (conduct : Conduct) : Steady conduct (@Persists W) := by
  intro first last deed persists
  cases deed with
  | slight slight => exact persists.slight slight
  | promise =>
      exact ⟨persists.live, persists.calls, List.forall_mem_append.mpr
        ⟨persists.farewell, List.forall_mem_singleton.mpr rfl⟩⟩
  | @depart event farewell next =>
      have ⟨unstored, others⟩ := List.forall_mem_cons.mp (next ▸ persists.farewell)
      have gone : ({ first with farewell } : Session W).Persists :=
        ⟨persists.live, persists.calls, others⟩
      exact gone.slight (.notify _ unstored)
  | take next vain => exact ⟨persists.live, persists.calls, persists.farewell⟩
  | @ask agenda account call answer wall outside origin lives plain =>
      have taken : ({ first with agenda } : Session W).Persists :=
        ⟨persists.live, persists.calls, persists.farewell⟩
      exact taken.asked account call answer wall outside
  | @setUp account device inviteCode bundle wall outside resumePaging lives =>
      -- the bundle is only put on the agenda, so the state does not change here
      have settled : (first.setUpFor account device inviteCode bundle wall outside).Persists :=
        (persists.asked _ _ _ wall outside).slight (.accept _ _ _)
      obtain ⟨step, entered, -, -⟩ := enterRestore_eq _ account.restoring resumePaging
      exact entered ▸ settled.advanceRestore step
  | keys seed wall outside =>
      exact (persists.drawn wall outside).grows rfl persists.farewell rfl
        (List.forall_mem_singleton.mpr ⟨rfl, rfl⟩)
  | attempt generation ready derived =>
      exact persists.grows rfl persists.farewell rfl
        (List.forall_mem_singleton.mpr ⟨rfl, rfl⟩)
  | setUserState userState => exact persists.setUserState userState
  | answer answers => exact persists.advanceRestore _
  | cancel => exact persists.cancelRestore
  | adopt owner resume unasked => exact persists.adopt _ owner resume
  | close done =>
      exact persists.grows rfl persists.farewell first.disconnect_journal (by decide)

end Persists

/-- Whatever is done to a session, the stored form that was told last since the account was
opened is read back as the live state, which until then is the one it was opened with. Every
call of the core was handed the state that was read back so when it was made. -/
theorem told_state_is_live [Surroundings W] (config : Config) (outside : W)
    (moves : List (Move W)) :
    let session := moves.foldl move (new config outside)
    Recovers session.journal session.owner.userState ∧
      ∀ earlier context call answer later,
        session.journal = earlier ++ .called context call answer :: later →
          ∃ state, Recovers earlier state ∧ context.userState = state.toCoreBytes := by
  intro session
  have persists : session.Persists :=
    (Persists.steady {}).moves (new_tame config outside) (persists_new config outside) moves
  refine ⟨persists.live, fun earlier context call answer later split => ?_⟩
  exact persists.calls context.userState earlier _ later split (decide_eq_true rfl)

end Session

end Messenger

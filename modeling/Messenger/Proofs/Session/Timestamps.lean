import Messenger.Proofs.Session.Deeds
import Messenger.Proofs.Session.Silence

/-!
The times that the core sees. Each is drawn from the session's one clock right before it is
used, by a call or for the keys of a connection attempt, so the core sees them in the order
in which the clock issued them. As long as there is room above the wall readings, they rise.
-/

namespace Messenger

namespace UniqueClock

/-- What the clock issues at the readings, one after another. -/
def times (clock : UniqueClock) : List UInt64 → List UInt64
  | [] => []
  | wall :: rest => clock.next wall :: (clock.tick wall).times rest

def after (clock : UniqueClock) (walls : List UInt64) : UniqueClock :=
  walls.foldl tick clock

theorem wall_le_next (clock : UniqueClock) (wall : UInt64) : wall ≤ clock.next wall :=
  Std.left_le_max

theorem times_append (clock : UniqueClock) (walls more : List UInt64) :
    clock.times (walls ++ more) = clock.times walls ++ (clock.after walls).times more := by
  induction walls generalizing clock with
  | nil => rfl
  | cons wall rest induction => exact congrArg _ (induction (clock.tick wall))

theorem after_concat (clock : UniqueClock) (walls : List UInt64) (wall : UInt64) :
    clock.after (walls ++ [wall]) = (clock.after walls).tick wall :=
  List.foldl_append

theorem toNat_next (clock : UniqueClock) (wall : UInt64) :
    (clock.next wall).toNat = max wall.toNat (Word.next clock.last).toNat := by
  rw [next, Word.max_eq]
  split
  · rename_i le
    rw [Nat.max_eq_right (UInt64.le_iff_toNat_le.mp le)]
  · rename_i above
    exact (Nat.max_eq_left (UInt64.le_iff_toNat_le.mp (Word.le_of_not_le above))).symm

theorem length_times (clock : UniqueClock) (walls : List UInt64) :
    (clock.times walls).length = walls.length := by
  induction walls generalizing clock with
  | nil => rfl
  | cons wall rest induction => exact congrArg Nat.succ (induction (clock.tick wall))

/-- With room for all that it is to issue, a clock issues what rises above its last. -/
theorem times_rise {clock : UniqueClock} {walls : List UInt64}
    (room : clock.last.toNat + walls.length ≤ Word.largest.toNat)
    (roomAbove : ∀ wall ∈ walls, wall.toNat + walls.length ≤ Word.largest.toNat) :
    (clock.times walls).Pairwise (· < ·) ∧ ∀ time ∈ clock.times walls, clock.last < time := by
  induction walls generalizing clock with
  | nil => exact ⟨List.Pairwise.nil, List.forall_mem_nil _⟩
  | cons wall rest induction =>
      have ⟨above, aboveRest⟩ := List.forall_mem_cons.mp roomAbove
      rw [List.length_cons] at room above
      have issued := clock.toNat_next wall
      rw [Word.toNat_next] at issued
      -- the last time is below the largest word, so that one more is a larger one
      have risen : clock.last < clock.next wall := by
        rw [UInt64.lt_iff_toNat_lt]
        omega
      have ⟨rise, later⟩ := @induction (clock.tick wall)
        (by change (clock.next wall).toNat + _ ≤ _; omega)
        fun other member => Nat.le_of_succ_le (aboveRest other member)
      refine ⟨List.pairwise_cons.mpr ⟨later, rise⟩, List.forall_mem_cons.mpr ⟨risen, ?_⟩⟩
      exact fun time member => UInt64.lt_trans risen (later time member)

/-- There is room from the start if there is any above the readings. -/
theorem room_of_above {walls : List UInt64}
    (roomAbove : ∀ wall ∈ walls, wall.toNat + walls.length ≤ Word.largest.toNat) :
    new.last.toNat + walls.length ≤ Word.largest.toNat := by
  cases walls with
  | nil => exact Nat.zero_le _
  | cons wall rest =>
      have above := roomAbove wall List.mem_cons_self
      change 0 + _ ≤ _
      omega

end UniqueClock

namespace Entry

/-- The reading that a timestamp was issued at. -/
def wall? : Entry → Option UInt64
  | .stamped wall _ => some wall
  | _ => none

/-- The time that the core sees, in a call or when it is asked for the keys of a connection. -/
def coreTime? : Entry → Option UInt64
  | .called context _ _ => some context.uniqueTime
  | .keysAsked _ time => some time
  | _ => none

theorem untimed_of_isSlight {entry : Entry} (slight : entry.isSlight = true) :
    entry.wall? = none ∧ entry.coreTime? = none ∧ entry.attempt? = none := by
  cases entry with
  | stamped wall time => cases slight
  | called context call answer => cases slight
  | keysAsked seed time => cases slight
  | attempted generation options => cases slight
  | _ => exact ⟨rfl, rfl, rfl⟩

theorem of_coreTime {entry : Entry} {time : UInt64} (sees : entry.coreTime? = some time) :
    entry.wall? = none ∧ entry.attempt? = none := by
  cases entry with
  | called context call answer => exact ⟨rfl, rfl⟩
  | keysAsked seed time => exact ⟨rfl, rfl⟩
  | _ => cases sees

end Entry

/-- The wall readings at which timestamps were issued. -/
def walls (journal : List Entry) : List UInt64 :=
  journal.filterMap Entry.wall?

def coreTimes (journal : List Entry) : List UInt64 :=
  journal.filterMap Entry.coreTime?

namespace Session

variable {W : Type}

/-- What the core sees was issued by one clock, and issued just then. -/
structure Timed [Surroundings W] (session : Session W) : Prop where
  clock : session.clock = UniqueClock.new.after (walls session.journal)
  issued : coreTimes session.journal = UniqueClock.new.times (walls session.journal)
  drawn : ∀ time, Ahead (fun entry => entry.coreTime? = some time)
    (fun earlier => ∃ before wall, earlier = before ++ [.stamped wall time] ∧ wall ≤ time)
    session.journal
  attempts : ∀ options, Ahead (fun entry => entry.attempt? = some options)
    (fun earlier => ∃ before seed network time,
      earlier = before ++ [.keysAsked seed time, .told (.event (.connection .connecting))] ∧
        Derived W seed network time options)
    session.journal

namespace Timed

variable [Surroundings W] {first last : Session W} {more : List Entry}

theorem grows (timed : first.Timed) (clock : last.clock = first.clock)
    (journal : last.journal = first.journal ++ more)
    (untimed : ∀ entry ∈ more,
      entry.wall? = none ∧ entry.coreTime? = none ∧ entry.attempt? = none) :
    last.Timed := by
  have sameWalls : walls last.journal = walls first.journal :=
    journal ▸ filterMap_grown _ fun entry member => (untimed entry member).1
  have sameTimes : coreTimes last.journal = coreTimes first.journal :=
    journal ▸ filterMap_grown _ fun entry member => (untimed entry member).2.1
  constructor
  case clock => rw [clock, sameWalls, timed.clock]
  case issued => rw [sameTimes, sameWalls, timed.issued]
  case drawn =>
    intro time
    rw [journal]
    exact (timed.drawn time).append_unmarked fun entry member => by
      simp [(untimed entry member).2.1]
  case attempts =>
    intro options
    rw [journal]
    exact (timed.attempts options).append_unmarked fun entry member => by
      simp [(untimed entry member).2.2]

theorem of_same (timed : first.Timed) (clock : last.clock = first.clock)
    (journal : last.journal = first.journal) : last.Timed :=
  timed.grows clock (journal.trans (List.append_nil _).symm) (List.forall_mem_nil _)

theorem slight (timed : first.Timed) (slight : Slight first last) : last.Timed := by
  obtain ⟨more, journal, isSlight⟩ := slight.journal
  exact timed.grows slight.clock journal fun entry member =>
    Entry.untimed_of_isSlight (isSlight entry member)

theorem advanceRestore (timed : first.Timed) (step : RestoreMachine × List RestoreAction) :
    (first.advanceRestore step).Timed := by
  rw [advanceRestore_eq]
  exact timed.grows rfl rfl fun entry member =>
    Entry.untimed_of_isSlight (RestoreAction.slight_of_told entry member)

theorem cancelRestore (timed : first.Timed) : first.cancelRestore.Timed := by
  have ended : first.endRestore.Timed := timed.of_same rfl rfl
  unfold Session.cancelRestore
  split
  · exact timed
  · exact ended.advanceRestore _

/-- A time is drawn, and the core sees it at once. -/
theorem spend (timed : first.Timed) (wall : UInt64) (outside : W) {entry : Entry}
    (sees : entry.coreTime? = some (first.clock.next wall)) :
    ((first.drawn wall outside).note entry).Timed := by
  have ⟨unstamped, unattempted⟩ := Entry.of_coreTime sees
  let stamp := Entry.stamped wall (first.clock.next wall)
  have journal : ((first.drawn wall outside).note entry).journal =
      first.journal ++ [stamp] ++ [entry] := rfl
  have walled : walls ((first.drawn wall outside).note entry).journal =
      walls first.journal ++ [wall] := by
    rw [walls, journal, filterMap_grown _ (List.forall_mem_singleton.mpr unstamped),
      List.filterMap_append]
    rfl
  have seen : coreTimes ((first.drawn wall outside).note entry).journal =
      coreTimes first.journal ++ [first.clock.next wall] := by
    rw [coreTimes, journal, List.filterMap_append, List.filterMap_cons_some sees,
      filterMap_grown first.journal (List.forall_mem_singleton.mpr rfl)]
    rfl
  constructor
  case clock =>
    rw [walled, UniqueClock.after_concat, ← timed.clock]
    rfl
  case issued =>
    rw [seen, walled, UniqueClock.times_append, ← timed.clock, timed.issued]
    rfl
  case drawn =>
    -- the stamp itself is seen by nobody; the entry after it is the one that uses it
    intro time
    have stamped := (timed.drawn time).append_unmarked
      (List.forall_mem_singleton.mpr (rfl : decide (stamp.coreTime? = some time) = false))
    refine stamped.append_one fun spent => ?_
    obtain rfl : first.clock.next wall = time :=
      Option.some.inj (sees.symm.trans (of_decide_eq_true spent))
    exact ⟨first.journal, wall, rfl, first.clock.wall_le_next wall⟩
  case attempts =>
    intro options
    have stamped := (timed.attempts options).append_unmarked
      (List.forall_mem_singleton.mpr (rfl : decide (stamp.attempt? = some options) = false))
    exact stamped.append_unmarked
      (List.forall_mem_singleton.mpr (by simp [unattempted]))

/-- An attempt follows on the question for its keys. -/
theorem attempt (timed : first.Timed) {before : List Entry} {seed : String}
    {network : Network} {time : UInt64} {options : ConnectOptions} (generation : Nat)
    (ready : first.journal =
      before ++ [.keysAsked seed time, .told (.event (.connection .connecting))])
    (derived : Derived W seed network time options) :
    (first.note (.attempted generation options)).Timed where
  clock := by
    rw [note, walls, filterMap_grown _ (List.forall_mem_singleton.mpr rfl)]
    exact timed.clock
  issued := by
    rw [note, walls, coreTimes, filterMap_grown _ (List.forall_mem_singleton.mpr rfl),
      filterMap_grown _ (List.forall_mem_singleton.mpr rfl)]
    exact timed.issued
  drawn time := (timed.drawn time).append_unmarked (List.forall_mem_singleton.mpr rfl)
  attempts other := (timed.attempts other).append_one fun same => by
    obtain rfl : options = other := Option.some.inj (of_decide_eq_true same)
    exact ⟨before, seed, network, time, ready, derived⟩

theorem steady (conduct : Conduct) : Steady conduct (@Timed W _) := by
  intro first last deed timed
  cases deed with
  | slight slight => exact timed.slight slight
  | promise => exact timed.of_same rfl rfl
  | @depart event farewell next =>
      exact timed.grows rfl rfl (List.forall_mem_singleton.mpr ⟨rfl, rfl, rfl⟩)
  | take next vain => exact timed.of_same rfl rfl
  | @ask agenda account call answer wall outside origin lives plain =>
      have taken : ({ first with agenda } : Session W).Timed := timed.of_same rfl rfl
      exact taken.spend wall outside rfl
  | @setUp account device inviteCode bundle wall outside resumePaging lives =>
      have asked : (first.asked account (.initialSetup device inviteCode) (.ok bundle) wall
          outside).Timed := timed.spend wall outside rfl
      have settled : (first.setUpFor account device inviteCode bundle wall outside).Timed :=
        asked.slight (.accept _ _ _)
      obtain ⟨step, entered, -, -⟩ := enterRestore_eq _ account.restoring resumePaging
      exact entered ▸ settled.advanceRestore step
  | keys seed wall outside => exact timed.spend wall outside rfl
  | attempt generation ready derived => exact timed.attempt generation ready derived
  | setUserState userState =>
      exact timed.grows rfl rfl (List.forall_mem_singleton.mpr ⟨rfl, rfl, rfl⟩)
  | answer answers => exact timed.advanceRestore _
  | cancel => exact timed.cancelRestore
  | adopt owner resume unasked =>
      exact timed.grows rfl rfl (List.forall_mem_singleton.mpr ⟨rfl, rfl, rfl⟩)
  | close done => exact timed.grows rfl first.disconnect_journal (by decide)

end Timed

variable [Surroundings W]

theorem timed_new (config : Config) (outside : W) : (new config outside).Timed where
  clock := rfl
  issued := rfl
  drawn _ := .nil
  attempts _ := .nil

/-- Whatever is done to a session and whatever the wall clock shows, as long as no reading
comes as close to the largest word as there are timestamps: the times that the core sees
rise, every timestamp that was issued is one of them, each was issued right before it was
used, at a reading that is not above it, and an attempt's keys were both asked for with the
one time that was seen last. -/
theorem core_times_rise (config : Config) (outside : W) (moves : List (Move W))
    (room : ∀ wall ∈ walls (moves.foldl move (new config outside)).journal,
      wall.toNat + (walls (moves.foldl move (new config outside)).journal).length ≤
        Word.largest.toNat) :
    let journal := (moves.foldl move (new config outside)).journal
    (coreTimes journal).Pairwise (· < ·) ∧
      (coreTimes journal).length = (walls journal).length ∧
      (∀ earlier entry later time, journal = earlier ++ entry :: later →
        entry.coreTime? = some time →
          ∃ before wall, earlier = before ++ [.stamped wall time] ∧ wall ≤ time) ∧
      ∀ earlier generation options later,
        journal = earlier ++ .attempted generation options :: later →
          ∃ before seed network time,
            earlier =
              before ++ [.keysAsked seed time, .told (.event (.connection .connecting))] ∧
            Derived W seed network time options := by
  intro journal
  have timed : (moves.foldl move (new config outside)).Timed :=
    (Timed.steady {}).moves (new_tame config outside) (timed_new config outside) moves
  refine ⟨?_, ?_, ?_, ?_⟩
  · rw [timed.issued]
    exact (UniqueClock.times_rise (UniqueClock.room_of_above room) room).1
  · rw [timed.issued, UniqueClock.length_times]
  · exact fun earlier entry later time split sees =>
      timed.drawn time earlier entry later split (decide_eq_true sees)
  · exact fun earlier generation options later split =>
      timed.attempts options earlier _ later split (decide_eq_true rfl)

/-- The connection of a restore is lost and comes back. -/
def frozenMoves : List (Move Bench) :=
  [.perform (.beginRestore twelveWords), .perform (.restoreAccount fromBroker)] ++ lostMoves

def frozenRun : Session Bench :=
  frozenMoves.foldl move (new .test (.new 7))

/-- The wall clock stands still. -/
theorem core_times_rise_frozenRun :
    walls frozenRun.journal = List.replicate 4 1700000000000 ∧
      (coreTimes frozenRun.journal).Pairwise (· < ·) ∧
      (coreTimes frozenRun.journal).length = (walls frozenRun.journal).length ∧
      (∀ earlier entry later time, frozenRun.journal = earlier ++ entry :: later →
        entry.coreTime? = some time →
          ∃ before wall, earlier = before ++ [.stamped wall time] ∧ wall ≤ time) ∧
      ∀ earlier generation options later,
        frozenRun.journal = earlier ++ .attempted generation options :: later →
          ∃ before seed network time,
            earlier =
              before ++ [.keysAsked seed time, .told (.event (.connection .connecting))] ∧
            Derived Bench seed network time options := by
  have stands : walls frozenRun.journal = List.replicate 4 1700000000000 := by decide +kernel
  refine ⟨stands, core_times_rise .test (Bench.new 7) frozenMoves ?_⟩
  change ∀ wall ∈ walls frozenRun.journal,
    wall.toNat + (walls frozenRun.journal).length ≤ Word.largest.toNat
  rw [stands]
  intro wall member
  rw [List.eq_of_mem_replicate member]
  decide

end Session

end Messenger

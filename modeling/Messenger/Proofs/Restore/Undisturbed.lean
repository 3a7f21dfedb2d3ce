import Messenger.Proofs.Restore.Ascent
import Messenger.Proofs.Restore.Sync

/-!
An incremental sync that nothing disturbs. Without live traffic the highest index seen is
the highest that a page brought, so each page begins where the one before it ended: the
sync brings what lies above the last index known, from the lowest up, and one empty page.
-/

namespace Messenger

namespace Sync

open RestoreMachine (catchUp)

variable {archive : Archive} {last : UInt64} {size : UInt32} {walk : Walk}

structure Climbing (archive : Archive) (last : UInt64) (size : UInt32) (walk : Walk)
    (first : UInt64) : Prop where
  phase : walk.machine.phase = .notRestoring
  pageSize : walk.machine.messagesPageSize = size
  asked : walk.asked = [.fetchMessages first size false]
  told : walk.told = walk.starts.map (.fetchMessages · size false)
  fetched : walk.starts.length = walk.pages.length + 1
  highest : walk.machine.highestIndex = (last :: walk.pages.flatten).max?
  way : archive.Ascending (archive.above last) size walk.pages first

/-- What a sync has done once it has finished: it told of its fetches and of nothing else
before its end, and every page but the last brought what was next. -/
structure CaughtUp (archive : Archive) (last : UInt64) (size : UInt32) (walk : Walk) :
    Prop where
  asked : walk.asked = .syncFinished :: catchUp
  told : walk.told =
    walk.starts.map (.fetchMessages · size false) ++ .syncFinished :: catchUp
  fetched : walk.starts.length = (archive.above last).pageCount size + 1
  pages : walk.pages.length = (archive.above last).pageCount size + 1
  exact : walk.pages.flatten.Perm (archive.above last).indices
  ordered : walk.pages.Pairwise fun page later =>
    ∀ index ∈ page, ∀ other ∈ later, index < other
  highest : walk.machine.highestIndex = (last :: (archive.above last).indices).max?

theorem climbing_begin (bounded : ∀ index ∈ archive.indices, index < Word.largest)
    (contactsSize : UInt32) :
    Climbing archive last size
      (.start ((RestoreMachine.new contactsSize size).beginSync (some last)))
      (Word.next last) where
  phase := rfl
  pageSize := rfl
  asked := rfl
  told := rfl
  fetched := rfl
  highest := by
    simp [Walk.start, RestoreMachine.beginSync, RestoreMachine.observe,
      RestoreMachine.new, Word.max_eq]
  way := .begin (Archive.since_next bounded last)

theorem Climbing.reached {first : UInt64} (way : Climbing archive last size walk first) :
    ∃ highest, walk.machine.highestIndex = some highest ∧
      highest ∈ last :: walk.pages.flatten ∧
        ∀ index ∈ last :: walk.pages.flatten, index ≤ highest := by
  obtain ⟨highest, seen⟩ : ∃ highest, walk.machine.highestIndex = some highest := by
    rw [way.highest, List.max?_cons]
    exact ⟨_, rfl⟩
  exact ⟨highest, seen, List.max?_eq_some_iff.mp (way.highest.symm.trans seen)⟩

theorem Climbing.turn {first : UInt64} {messages : List Message} {topic : String}
    (positive : 0 < size.toNat) (bounded : ∀ index ∈ archive.indices, index < Word.largest)
    (way : Climbing archive last size walk first) (batch : Topic.isBatch topic = true)
    (holds : Message.Holds messages (archive.upward first size))
    {top : UInt64} (highest : Message.highestIndex? messages = some top) :
    Climbing archive last size (walk.read messages topic) (Word.next top) := by
  obtain ⟨inside, greatest⟩ := Message.highestIndex?_eq_some.mp highest
  have perm := holds.indexValues_perm
  have onPage : top ∈ archive.upward first size := perm.mem_iff.mp inside
  have kept := Archive.mem_upward onPage
  have above : last < top := by
    have left : top ∈ (archive.since first).indices := Archive.mem_since.mpr kept
    exact (Archive.mem_above.mp
      (way.way.split.mem_iff.mp (List.mem_append_right _ left))).2
  have topmost : (last :: (walk.pages ++ [Message.indexValues messages]).flatten).max? =
      some top := by
    refine List.max?_eq_some_iff.mpr ⟨by simp [inside], fun index member => ?_⟩
    rw [List.flatten_concat, List.mem_cons, List.mem_append] at member
    rcases member with rfl | earlier | now
    · exact UInt64.le_of_lt above
    · exact UInt64.le_trans (UInt64.le_of_lt (way.way.passed index earlier)) kept.2
    · exact greatest index now
  obtain ⟨reached, seen, earlier, -⟩ := way.reached
  have rises : max reached top = top := by
    rw [Word.max_eq, if_pos]
    apply (List.max?_eq_some_iff.mp topmost).2
    rw [List.flatten_concat, ← List.cons_append]
    exact List.mem_append_left _ earlier
  have step := RestoreMachine.onBatch_syncing way.phase way.pageSize batch seen highest
  rw [rises] at step
  have told : (walk.read messages topic).told =
      walk.told ++ [.fetchMessages (Word.next top) size false] := by
    simp [Walk.read, Walk.go, step]
  have starts : (walk.read messages topic).starts = walk.starts ++ [Word.next top] := by
    simp [Walk.starts, told, RestoreAction.forwardStart?]
  have pages : (walk.read messages topic).pages =
      walk.pages ++ [Message.indexValues messages] := rfl
  constructor
  case phase => simpa [Walk.read, Walk.go, step] using way.phase
  case pageSize => simpa [Walk.read, Walk.go, step] using way.pageSize
  case asked => simp [Walk.read, Walk.go, step]
  case told => simp [told, starts, way.told]
  case fetched => simp [starts, pages, way.fetched]
  case highest =>
    rw [pages, topmost]
    simp [Walk.read, Walk.go, step]
  case way =>
    exact way.way.turn positive perm inside greatest (bounded top kept.1)

theorem Climbing.finish {first : UInt64} {messages : List Message} {topic : String}
    (positive : 0 < size.toNat) (way : Climbing archive last size walk first)
    (batch : Topic.isBatch topic = true)
    (holds : Message.Holds messages (archive.upward first size))
    (none : Message.highestIndex? messages = none) :
    CaughtUp archive last size (walk.read messages topic) := by
  have blank := Message.highestIndex?_eq_none.mp none
  have step := RestoreMachine.onBatch_synced way.phase batch none
  have left : (archive.since first).indices = [] := by
    have perm := holds.indexValues_perm
    rw [blank] at perm
    exact (List.take_eq_nil_iff.mp perm.nil_eq.symm).resolve_left (by omega)
  have all := way.way.split
  rw [left, List.append_nil] at all
  have counted := way.way.counted
  rw [Archive.pageCount_nil positive left, Nat.add_zero] at counted
  have told : (walk.read messages topic).told =
      walk.told ++ .syncFinished :: catchUp := by
    simp [Walk.read, Walk.go, step]
  have starts : (walk.read messages topic).starts = walk.starts := by
    simp [Walk.starts, told, RestoreAction.forwardStart?, catchUp]
  have pages : (walk.read messages topic).pages = walk.pages ++ [[]] := by
    simp [Walk.read, Walk.go, blank]
  constructor
  case asked => simp [Walk.read, Walk.go, step]
  case told => rw [told, starts, way.told]
  case fetched => rw [starts, way.fetched, counted]
  case pages => rw [pages, List.length_append, counted, List.length_singleton]
  case exact => simpa [pages] using all
  case ordered => simpa [pages, List.pairwise_append] using way.way.ordered
  case highest =>
    have same : (walk.read messages topic).machine = walk.machine := by
      simp [Walk.read, Walk.go, step]
    obtain ⟨highest, seen, inside, greatest⟩ := way.reached
    have members := (all.cons last).mem_iff (a := highest)
    rw [same, seen]
    refine (List.max?_eq_some_iff.mpr ⟨members.mp inside, fun index member => ?_⟩).symm
    exact greatest index ((all.cons last).mem_iff.mpr member)

theorem hear_nothing (walk : Walk) {messages : List Message} {topic : String}
    (live : Topic.isBatch topic = false) (blank : Message.indexValues messages = []) :
    walk.hear messages topic = walk := by
  rw [walk.hear_eq messages live, blank, Message.highestIndex?_eq_none.mpr blank,
    List.append_nil]
  rfl

theorem climbing_or_caughtUp (positive : 0 < size)
    (bounded : ∀ index ∈ archive.indices, index < Word.largest)
    (sync : Sync archive last size walk) (undisturbed : walk.live = []) :
    (∃ first, Climbing archive last size walk first) ∨ CaughtUp archive last size walk := by
  have pages : 0 < size.toNat := UInt32.lt_iff_toNat_lt.mp positive
  induction sync with
  | begin contactsSize => exact Or.inl ⟨_, climbing_begin bounded contactsSize⟩
  | @live walk messages topic _ live _ induction =>
      obtain ⟨before, blank⟩ := List.append_eq_nil_iff.mp undisturbed
      rw [hear_nothing walk live blank]
      exact induction before
  | @page walk start limit messages topic _ asked batch holds induction =>
      rcases induction undisturbed with ⟨first, way⟩ | caught
      · rw [way.asked] at asked
        obtain ⟨rfl, rfl⟩ : start = first ∧ limit = size := by simpa using asked
        cases highest : Message.highestIndex? messages with
        | none => exact Or.inr (way.finish pages batch holds highest)
        | some top => exact Or.inl ⟨_, way.turn pages bounded batch holds highest⟩
      · rw [caught.asked] at asked
        simp [catchUp] at asked

theorem Climbing.short {first : UInt64} (way : Climbing archive last size walk first) :
    walk.pages.length ≤ (archive.above last).pageCount size := by
  have counted := way.way.counted
  omega

/-- Without live traffic a sync goes on fetching until the pages have brought all that is
kept above the last index known; the page after them is empty and ends it. -/
theorem caughtUp_after_all_pages (positive : 0 < size)
    (bounded : ∀ index ∈ archive.indices, index < Word.largest)
    (sync : Sync archive last size walk) (undisturbed : walk.live = []) :
    walk.pages.length ≤ (archive.above last).pageCount size + 1 ∧
      (walk.pages.length ≤ (archive.above last).pageCount size →
        .syncFinished ∉ walk.told ∧
          ∃ first, walk.asked = [.fetchMessages first size false]) ∧
      (walk.pages.length = (archive.above last).pageCount size + 1 →
        CaughtUp archive last size walk ∧
          ((∀ page ∈ walk.pages, page.Pairwise (· < ·)) →
            walk.pages.flatten = (archive.above last).indices)) := by
  rcases climbing_or_caughtUp positive bounded sync undisturbed with ⟨first, way⟩ | caught
  · have short := way.short
    refine ⟨by omega, fun _ => ⟨?_, first, way.asked⟩, fun all => by omega⟩
    rw [way.told]
    simp
  · have pages := caught.pages
    refine ⟨by omega, fun short => by omega, fun _ => ⟨caught, fun sorted => ?_⟩⟩
    have ascending := List.pairwise_flatten.mpr ⟨sorted, caught.ordered⟩
    exact caught.exact.eq_of_pairwise
      (fun _ _ _ _ less more => absurd (UInt64.lt_trans less more) (UInt64.lt_irrefl _))
      ascending (archive.above last).ascending

/-! Four messages above the last one known, on pages of three. -/

def sixKept : Archive where
  indices := [3, 7, 8, 40, 41, 900]
  ascending := by decide

theorem sixKept_bounded : ∀ index ∈ sixKept.indices, index < Word.largest := by
  intro index kept
  simp only [sixKept, List.mem_cons, List.not_mem_nil, or_false] at kept
  rcases kept with rfl | rfl | rfl | rfl | rfl | rfl <;> decide

def caughtUpWalk : Walk :=
  let walk := Walk.start ((RestoreMachine.new 100 3).beginSync (some 7))
  let walk := walk.read ([8, 40, 41].map Message.numbered) "x/batch"
  (walk.read [Message.numbered 900] "x/batch").read [] "x/batch"

theorem sync_caughtUpWalk : Sync sixKept 7 3 caughtUpWalk := by
  have begun : Sync sixKept 7 3 _ := .begin 100
  have first := @Sync.page _ _ _ _ 8 3 _ "x/batch" begun (by decide) (by decide)
    (Message.holds_numbered [8, 40, 41])
  have second := @Sync.page _ _ _ _ 42 3 _ "x/batch" first (by decide) (by decide)
    (Message.holds_numbered [900])
  exact @Sync.page _ _ _ _ 901 3 _ "x/batch" second (by decide) (by decide)
    (Message.holds_numbered [])

theorem caughtUp_sixKept :
    (0 : UInt32) < 3 ∧ caughtUpWalk.live = [] ∧ caughtUpWalk.starts = [8, 42, 901] ∧
      CaughtUp sixKept 7 3 caughtUpWalk ∧ caughtUpWalk.pages.flatten = [8, 40, 41, 900] := by
  obtain ⟨-, -, all⟩ := caughtUp_after_all_pages (by decide) sixKept_bounded
    sync_caughtUpWalk rfl
  obtain ⟨caught, sorted⟩ := all (by decide)
  exact ⟨by decide, rfl, by decide, caught, sorted (by decide)⟩

end Sync

end Messenger

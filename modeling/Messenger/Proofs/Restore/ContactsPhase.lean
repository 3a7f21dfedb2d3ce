import Messenger.Proofs.Restore.Ascent

/-!
The way up through the contacts of a restore. It is measured by the highest index of a
contact record, and zero also stands for no contacts at all. So the way leaves nothing out
but for a single record, the one under index zero, which is never asked for.
-/

namespace Messenger

structure Counts.Recorded (counts : Counts) (archive : Archive) : Prop where
  total : counts.firstForEachScid.map UInt64.toNat = some archive.size
  highest : counts.firstForEachScidHighestIndex = archive.highest?

/-- A restore until its contacts are complete. Every fetch of contacts is answered by the
page that it asks for, or the answer is lost and asked for again. -/
inductive Recording (counts : Counts) (archive : Archive) (size : UInt32) : Walk → Prop
  | begin {machine : RestoreMachine} : machine.contactsPageSize = size →
      Recording counts archive size (.start machine.beginRestore)
  | counts {walk : Walk} : Recording counts archive size walk →
      Recording counts archive size (walk.go (walk.machine.onCounts counts))
  | lost {walk : Walk} : Recording counts archive size walk →
      Recording counts archive size (walk.go (walk.machine, walk.machine.resume))
  | live {walk : Walk} {messages : List Message} {topic : String} :
      Recording counts archive size walk → Topic.isBatch topic = false →
      Recording counts archive size (walk.hear messages topic)
  | page {walk : Walk} {first : UInt64} {limit : UInt32} {messages : List Message}
      {topic : String} :
      Recording counts archive size walk → .fetchContacts first limit ∈ walk.asked →
      Topic.isBatch topic = true →
      Message.Holds messages (archive.upward first limit) →
      Recording counts archive size (walk.read messages topic)

namespace Archive

variable {archive : Archive} {highest : UInt64}

theorem le_highest (top : archive.highest? = some highest) {index : UInt64}
    (kept : index ∈ archive.indices) : index ≤ highest := by
  have inside : index ∈ archive.descent highest := by
    rw [descent_highest top]
    exact List.mem_reverse.mpr kept
  exact (mem_descent.mp inside).2

/-- Only a record under index zero is not above zero. -/
theorem highest_eq_zero_iff (top : archive.highest? = some highest) :
    highest = 0 ↔ archive.indices = [0] := by
  constructor
  · rintro rfl
    obtain ⟨before, split⟩ := List.getLast?_eq_some_iff.mp top
    have ordered := archive.ascending
    rw [split, List.pairwise_append] at ordered
    have none : before = [] := List.eq_nil_iff_forall_not_mem.mpr fun index member =>
      UInt64.not_lt_zero (ordered.2.2 index member 0 (List.mem_singleton_self 0))
    rw [split, none, List.nil_append]
  · intro single
    rw [highest?, single] at top
    exact (Option.some.inj top).symm

end Archive

namespace Recording

open RestoreMachine

variable {counts : Counts} {archive : Archive} {size : UInt32} {walk : Walk}

structure Awaiting (size : UInt32) (walk : Walk) : Prop where
  phase : walk.machine.phase = .restoringContacts
  awaits : walk.machine.awaitingCounts = true
  pageSize : walk.machine.contactsPageSize = size
  reached : walk.machine.contactsCursor = 0
  asked : ∀ first limit, .fetchContacts first limit ∉ walk.asked
  pages : walk.pages = []

structure Climbing (archive : Archive) (size : UInt32) (walk : Walk) (highest first : UInt64) :
    Prop where
  phase : walk.machine.phase = .restoringContacts
  counted : walk.machine.awaitingCounts = false
  pageSize : walk.machine.contactsPageSize = size
  total : walk.machine.progress.contactsTotal = highest
  reached : walk.machine.contactsCursor = first
  below : first ≤ highest
  apart : archive.indices ≠ [0]
  asked : ∀ index limit, .fetchContacts index limit ∈ walk.asked ↔
    index = first ∧ limit = size
  way : archive.Ascending archive size walk.pages first

structure Left (archive : Archive) (walk : Walk) : Prop where
  phase : walk.machine.phase ≠ .restoringContacts
  asked : ∀ first limit, .fetchContacts first limit ∉ walk.asked
  exact : walk.pages.flatten.Perm archive.indices ↔ archive.indices ≠ [0]

theorem Left.complete {machine : RestoreMachine} (pages : List (List UInt64))
    (exact : pages.flatten.Perm archive.indices ↔ archive.indices ≠ [0]) :
    Left archive { walk.go machine.completeContacts with pages } := by
  obtain ⟨phase, some, silent⟩ := machine.completeContacts_leaves
  have asked : (walk.go machine.completeContacts).asked = machine.completeContacts.2 :=
    if_neg some
  exact ⟨phase, fun first limit => asked ▸ silent first limit, exact⟩

theorem contactsTotal_eq (recorded : counts.Recorded archive) {highest : UInt64}
    (top : archive.highest? = some highest) : counts.contactsTotal = highest := by
  simp [Counts.contactsTotal, recorded.highest, top]

theorem Awaiting.onCounts (recorded : counts.Recorded archive) {highest : UInt64}
    (top : archive.highest? = some highest) (way : Awaiting size walk) :
    Climbing archive size (walk.go (walk.machine.onCounts counts)) highest 0 ∨
      Left archive (walk.go (walk.machine.onCounts counts)) := by
  have total := contactsTotal_eq recorded top
  unfold RestoreMachine.onCounts
  rw [if_pos ⟨way.phase, way.awaits⟩]
  dsimp only
  split
  · rename_i zero
    have single := (Archive.highest_eq_zero_iff top).mp (total.symm.trans zero)
    refine Or.inr (Left.complete walk.pages ?_)
    simp [way.pages, single]
  · rename_i some
    refine Or.inl ?_
    constructor
    case phase => exact way.phase
    case counted => rfl
    case pageSize => exact way.pageSize
    case total => exact total
    case reached => exact way.reached
    case below => exact UInt64.zero_le
    case apart =>
      exact fun single => some (total.trans ((Archive.highest_eq_zero_iff top).mpr single))
    case asked => simp [Walk.go, fetchContactsAt, way.pageSize]
    case way =>
      show archive.Ascending archive size walk.pages 0
      rw [way.pages]
      exact .begin archive.since_zero

theorem Climbing.turn (positive : 0 < size.toNat) {highest first top : UInt64}
    (way : Climbing archive size walk highest first) {messages : List Message}
    {topic : String} (batch : Topic.isBatch topic = true)
    (holds : Message.Holds messages (archive.upward first size))
    (brought : Message.highestIndex? messages = some top) (less : top < highest) :
    Climbing archive size (walk.read messages topic) highest (Word.next top) := by
  obtain ⟨inside, greatest⟩ := Message.highestIndex?_eq_some.mp brought
  have unreached : ¬walk.machine.progress.contactsTotal ≤ top :=
    UInt64.not_le.mpr (way.total ▸ less)
  obtain ⟨asks, emitted, same⟩ :=
    onContactsPage_below unreached (Word.ofCount messages.length)
  rw [← brought, ← onBatch_restoringContacts way.phase way.counted messages batch]
    at asks same
  have below := UInt64.lt_of_lt_of_le less (Word.le_largest highest)
  constructor
  case phase => simpa [Walk.read, Walk.go, same, recording] using way.phase
  case counted => simpa [Walk.read, Walk.go, same, recording] using way.counted
  case pageSize => simpa [Walk.read, Walk.go, same, recording] using way.pageSize
  case total => simpa [Walk.read, Walk.go, same, recording] using way.total
  case reached => simp [Walk.read, Walk.go, same]
  case below => exact (Word.next_le_iff below).mpr less
  case apart => exact way.apart
  case asked =>
    intro index limit
    refine (Walk.mem_asked_go asks (by simp)).trans ?_
    simp [fetchContactsAt, way.pageSize]
  case way => exact way.way.turn positive holds.indexValues_perm inside greatest below

/-- With the highest record on a page nothing is left for another. -/
theorem Climbing.arrive {highest first top : UInt64} (last : archive.highest? = some highest)
    (way : Climbing archive size walk highest first) {messages : List Message}
    {topic : String} (batch : Topic.isBatch topic = true)
    (holds : Message.Holds messages (archive.upward first size))
    (brought : Message.highestIndex? messages = some top) (reached : highest ≤ top) :
    Left archive (walk.read messages topic) := by
  have perm := holds.indexValues_perm
  have onPage : top ∈ archive.upward first size :=
    perm.mem_iff.mp (Message.highestIndex?_eq_some.mp brought).1
  have none : (archive.since first).indices.drop size.toNat = [] := by
    refine List.eq_nil_iff_forall_not_mem.mpr fun index left => ?_
    have kept := (Archive.mem_since.mp (List.mem_of_mem_drop left)).1
    have above := UInt64.lt_of_le_of_lt reached (Archive.lt_of_page onPage left)
    exact UInt64.not_le.mpr above (Archive.le_highest last kept)
  have all := way.way.split_page perm
  rw [none, List.append_nil] at all
  have step := onBatch_restoringContacts way.phase way.counted messages batch
  rw [brought, onContactsPage_reaching (way.total ▸ reached)] at step
  rw [Walk.read, step]
  exact Left.complete _ (iff_of_true all way.apart)

theorem Climbing.onPage (positive : 0 < size.toNat) {highest first : UInt64}
    (last : archive.highest? = some highest)
    (way : Climbing archive size walk highest first) {messages : List Message}
    {topic : String} (batch : Topic.isBatch topic = true)
    (holds : Message.Holds messages (archive.upward first size)) :
    (∃ next, Climbing archive size (walk.read messages topic) highest next) ∨
      Left archive (walk.read messages topic) := by
  cases brought : Message.highestIndex? messages with
  | none =>
      have blank := holds.indexValues_perm
      rw [Message.highestIndex?_eq_none.mp brought] at blank
      have passed := Archive.upward_eq_nil positive blank.nil_eq.symm
        (List.mem_of_getLast? last)
      exact absurd way.below (UInt64.not_le.mpr passed)
  | some top =>
      by_cases reached : highest ≤ top
      · exact Or.inr (way.arrive last batch holds brought reached)
      · exact Or.inl ⟨_, way.turn positive batch holds brought (UInt64.not_le.mp reached)⟩

theorem Awaiting.hear (way : Awaiting size walk) (messages : List Message) {topic : String}
    (live : Topic.isBatch topic = false) : Awaiting size (walk.hear messages topic) := by
  obtain ⟨_, heard⟩ := walk.exists_hear_eq messages live
  rw [heard]
  exact ⟨way.phase, way.awaits, way.pageSize, way.reached, way.asked, way.pages⟩

theorem Climbing.hear {highest first : UInt64}
    (way : Climbing archive size walk highest first) (messages : List Message)
    {topic : String} (live : Topic.isBatch topic = false) :
    Climbing archive size (walk.hear messages topic) highest first := by
  obtain ⟨_, heard⟩ := walk.exists_hear_eq messages live
  rw [heard]
  exact ⟨way.phase, way.counted, way.pageSize, way.total, way.reached, way.below, way.apart,
    way.asked, way.way⟩

theorem Left.hear (left : Left archive walk) (messages : List Message) {topic : String}
    (live : Topic.isBatch topic = false) : Left archive (walk.hear messages topic) := by
  obtain ⟨_, heard⟩ := walk.exists_hear_eq messages live
  rw [heard]
  exact ⟨left.phase, left.asked, left.exact⟩

theorem Awaiting.lost (way : Awaiting size walk) :
    Awaiting size (walk.go (walk.machine, walk.machine.resume)) := by
  have again : walk.machine.resume = [.fetchCounts] := by
    simp [resume, way.phase, way.awaits]
  exact ⟨way.phase, way.awaits, way.pageSize, way.reached, by simp [Walk.go, again],
    way.pages⟩

theorem Climbing.lost {highest first : UInt64}
    (way : Climbing archive size walk highest first) :
    Climbing archive size (walk.go (walk.machine, walk.machine.resume)) highest first := by
  have again : walk.machine.resume = [.fetchContacts first size] := by
    simp [resume, way.phase, way.counted, fetchContactsAt, way.reached, way.pageSize]
  exact ⟨way.phase, way.counted, way.pageSize, way.total, way.reached, way.below, way.apart,
    by simp [Walk.go, again], way.way⟩

theorem Left.lost (left : Left archive walk) :
    Left archive (walk.go (walk.machine, walk.machine.resume)) := by
  refine ⟨left.phase, fun first limit => ?_, left.exact⟩
  cases phase : walk.machine.phase with
  | restoringContacts => exact absurd phase left.phase
  | restoringMessages => simp [Walk.go, resume, phase, fetchBackward]
  | _ => simpa [Walk.go, resume, phase] using left.asked first limit

theorem Climbing.onCounts {highest first : UInt64}
    (way : Climbing archive size walk highest first) :
    walk.go (walk.machine.onCounts counts) = walk :=
  Walk.go_onCounts_late (by simp [way.counted]) counts

theorem Left.onCounts (left : Left archive walk) :
    walk.go (walk.machine.onCounts counts) = walk :=
  Walk.go_onCounts_late (fun waits => left.phase waits.1) counts

theorem cases_of_recording (positive : 0 < size) {highest : UInt64}
    (top : archive.highest? = some highest) (recorded : counts.Recorded archive)
    (run : Recording counts archive size walk) :
    Awaiting size walk ∨ (∃ first, Climbing archive size walk highest first) ∨
      Left archive walk := by
  have pages : 0 < size.toNat := UInt32.lt_iff_toNat_lt.mp positive
  induction run with
  | begin pageSize =>
      exact Or.inl ⟨rfl, rfl, pageSize, rfl, by simp [Walk.start, beginRestore], rfl⟩
  | counts _ induction =>
      rcases induction with way | ⟨first, way⟩ | left
      · exact Or.inr ((way.onCounts recorded top).imp_left fun way => ⟨0, way⟩)
      · rw [way.onCounts]
        exact Or.inr (Or.inl ⟨first, way⟩)
      · rw [left.onCounts]
        exact Or.inr (Or.inr left)
  | lost _ induction =>
      rcases induction with way | ⟨first, way⟩ | left
      · exact Or.inl way.lost
      · exact Or.inr (Or.inl ⟨first, way.lost⟩)
      · exact Or.inr (Or.inr left.lost)
  | live _ live induction =>
      rcases induction with way | ⟨first, way⟩ | left
      · exact Or.inl (way.hear _ live)
      · exact Or.inr (Or.inl ⟨first, way.hear _ live⟩)
      · exact Or.inr (Or.inr (left.hear _ live))
  | @page walk index limit messages topic _ asked batch holds induction =>
      rcases induction with way | ⟨first, way⟩ | left
      · exact absurd asked (way.asked index limit)
      · obtain ⟨rfl, rfl⟩ := (way.asked index limit).mp asked
        exact Or.inr (way.onPage pages top batch holds)
      · exact absurd asked (left.asked index limit)

/-- The contacts are left with every record on one page, unless index zero is the only one;
until then there is a fetch that still waits for one of the pages. -/
theorem left_with_all_iff (nonempty : archive.indices ≠ []) (positive : 0 < size)
    (recorded : counts.Recorded archive) (run : Recording counts archive size walk) :
    (walk.machine.phase ≠ .restoringContacts →
      (walk.pages.flatten.Perm archive.indices ↔ archive.indices ≠ [0])) ∧
    (walk.machine.phase = .restoringContacts → walk.machine.awaitingCounts = false →
      walk.pages.length < archive.pageCount size ∧
        ∃ first, .fetchContacts first size ∈ walk.asked) := by
  obtain ⟨highest, top⟩ : ∃ highest, archive.highest? = some highest :=
    ⟨_, List.getLast?_eq_some_getLast nonempty⟩
  rcases cases_of_recording positive top recorded run with way | ⟨first, way⟩ | left
  · refine ⟨fun left => absurd way.phase left, fun _ counted => ?_⟩
    exact absurd (way.awaits.symm.trans counted) (by decide)
  · refine ⟨fun left => absurd way.phase left, fun _ _ => ⟨?_, first, ?_⟩⟩
    · have kept : highest ∈ (archive.since first).indices :=
        Archive.mem_since.mpr ⟨List.mem_of_getLast? top, way.below⟩
      have more := Archive.pageCount_pos (UInt32.lt_iff_toNat_lt.mp positive)
        (List.ne_nil_of_mem kept)
      have counted := way.way.counted
      omega
    · exact (way.asked first size).mpr ⟨rfl, rfl⟩
  · exact ⟨fun _ => left.exact, fun phase => absurd phase left.phase⟩

/-! Three records up to the largest index, on pages of two. -/

def threeRecords : Archive where
  indices := [0, 60, Word.largest]
  ascending := by decide

def threeRecordsCounts : Counts where
  total := some 9
  okKey := none
  firstForEachScid := some 3
  totalHighestIndex := some Word.largest
  okKeyHighestIndex := none
  firstForEachScidHighestIndex := some Word.largest

def threeRecordsWalk : Walk :=
  let walk := Walk.start (RestoreMachine.new 2 100).beginRestore
  let walk := walk.go (walk.machine.onCounts threeRecordsCounts)
  let walk := walk.hear [Message.numbered 12] "x/stream"
  let walk := walk.go (walk.machine, walk.machine.resume)
  let walk := walk.read [Message.numbered 60, Message.numbered 0] "x/batch"
  walk.read [Message.numbered Word.largest] "x/batch"

theorem recording_threeRecordsWalk :
    Recording threeRecordsCounts threeRecords 2 threeRecordsWalk := by
  have begun : Recording threeRecordsCounts threeRecords 2 _ :=
    .begin (show (RestoreMachine.new 2 100).contactsPageSize = 2 from rfl)
  have heard := @live _ _ _ _ [Message.numbered 12] "x/stream" begun.counts (by decide)
  have first := @page _ _ _ _ 0 2 _ "x/batch" heard.lost (by decide) (by decide)
    ((Message.holds_numbered [60, 0]).trans (by decide))
  exact @page _ _ _ _ 61 2 _ "x/batch" first (by decide) (by decide)
    (Message.holds_numbered [Word.largest])

theorem left_with_threeRecords :
    threeRecords.indices ≠ [] ∧ (0 : UInt32) < 2 ∧
      threeRecordsCounts.Recorded threeRecords ∧
      threeRecordsWalk.machine.phase ≠ .restoringContacts ∧
      (threeRecordsWalk.pages.flatten.Perm threeRecords.indices ↔
        threeRecords.indices ≠ [0]) := by
  have recorded : threeRecordsCounts.Recorded threeRecords := ⟨by decide, by decide⟩
  have left : threeRecordsWalk.machine.phase ≠ .restoringContacts := by decide
  exact ⟨by decide, by decide, recorded, left,
    (left_with_all_iff (by decide) (by decide) recorded recording_threeRecordsWalk).1 left⟩

/-! A single record under index zero. -/

def firstRecord : Archive where
  indices := [0]
  ascending := by decide

def firstRecordCounts : Counts where
  total := some 3
  okKey := none
  firstForEachScid := some 1
  totalHighestIndex := some 2
  okKeyHighestIndex := none
  firstForEachScidHighestIndex := some 0

def firstRecordWalk : Walk :=
  let walk := Walk.start (RestoreMachine.new 100 100).beginRestore
  walk.go (walk.machine.onCounts firstRecordCounts)

/-- The counts alone leave the contacts, and the record is on no page. -/
theorem left_without_firstRecord :
    firstRecordCounts.Recorded firstRecord ∧
      Recording firstRecordCounts firstRecord 100 firstRecordWalk ∧
      firstRecordWalk.machine.phase ≠ .restoringContacts ∧
      firstRecordWalk.pages = [] ∧ ¬firstRecordWalk.pages.flatten.Perm firstRecord.indices := by
  have begun : Recording firstRecordCounts firstRecord 100 _ :=
    .begin (show (RestoreMachine.new 100 100).contactsPageSize = 100 from rfl)
  exact ⟨⟨by decide, by decide⟩, begun.counts, by decide, rfl, by decide⟩

end Recording

end Messenger

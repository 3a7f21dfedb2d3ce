import Mathlib.Algebra.Group.Nat.Defs
import Mathlib.Data.List.Perm.Subperm
import Mathlib.Tactic.Choose
import Messenger.Proofs.Restore.MessagesPhase

/-!
A restore whose pages may come again. The way down counts deliveries and goes on from the
page that came last, so it ends with as many deliveries as there are pages; it has seen
every index just when none of these deliveries repeated another.
-/

namespace Messenger

/-- A restore from its beginning, as `Restoring`, but a fetch may be answered at any time
after it was made, and more than once: so a page comes again. -/
inductive Redelivering (counts : Counts) (archive : Archive) (size : UInt32) : Walk → Prop
  | begin {machine : RestoreMachine} : machine.messagesPageSize = size →
      Redelivering counts archive size (.start machine.beginRestore)
  | counts {walk : Walk} : Redelivering counts archive size walk →
      Redelivering counts archive size (walk.go (walk.machine.onCounts counts))
  | lost {walk : Walk} : Redelivering counts archive size walk →
      Redelivering counts archive size (walk.go (walk.machine, walk.machine.resume))
  | live {walk : Walk} {messages : List Message} {topic : String} :
      Redelivering counts archive size walk → Topic.isBatch topic = false →
      Redelivering counts archive size (walk.hear messages topic)
  | contacts {walk : Walk} {messages : List Message} {topic : String} :
      Redelivering counts archive size walk → walk.machine.phase = .restoringContacts →
      Topic.isBatch topic = true →
      Redelivering counts archive size (walk.go (walk.machine.onBatch messages topic))
  | page {walk : Walk} {last : UInt64} {limit : UInt32} {messages : List Message}
      {topic : String} :
      Redelivering counts archive size walk → .fetchMessages last limit true ∈ walk.told →
      Topic.isBatch topic = true →
      Message.Holds messages (archive.downward last limit) →
      Redelivering counts archive size (walk.read messages topic)

namespace Archive

variable {archive : Archive} {size : UInt32}

def beyond (archive : Archive) (size : UInt32) (place : Nat) : List UInt64 :=
  archive.indices.reverse.drop (place * size.toNat)

def page (archive : Archive) (size : UInt32) (place : Nat) : List UInt64 :=
  (archive.beyond size place).take size.toNat

theorem length_beyond (archive : Archive) (size : UInt32) (place : Nat) :
    (archive.beyond size place).length = archive.size - place * size.toNat := by
  simp [beyond, Archive.size]

theorem drop_beyond (archive : Archive) (size : UInt32) (place : Nat) :
    (archive.beyond size place).drop size.toNat = archive.beyond size (place + 1) := by
  rw [beyond, List.drop_drop, beyond, Nat.succ_mul]

theorem mem_page (positive : 0 < size.toNat) {place : Nat} {index : UInt64} :
    index ∈ archive.page size place ↔
      ∃ position, position / size.toNat = place ∧
        archive.indices.reverse[position]? = some index := by
  have within (offset : Nat) (short : offset < size.toNat) :
      (place * size.toNat + offset) / size.toNat = place := by
    rw [Nat.mul_comm, Nat.mul_add_div positive, Nat.div_eq_of_lt short, Nat.add_zero]
  rw [page, List.mem_iff_getElem?]
  constructor
  · rintro ⟨offset, found⟩
    have short : offset < size.toNat := by
      by_contra long
      rw [List.getElem?_take_eq_none (Nat.not_lt.mp long)] at found
      cases found
    rw [List.getElem?_take_of_lt short, beyond, List.getElem?_drop] at found
    exact ⟨place * size.toNat + offset, within offset short, found⟩
  · rintro ⟨position, rfl, found⟩
    refine ⟨position % size.toNat, ?_⟩
    rw [List.getElem?_take_of_lt (Nat.mod_lt _ positive), beyond, List.getElem?_drop,
      Nat.div_add_mod']
    exact found

theorem exists_page (positive : 0 < size.toNat) {index : UInt64}
    (kept : index ∈ archive.indices) :
    ∃ place < archive.pageCount size, index ∈ archive.page size place := by
  obtain ⟨position, found⟩ := List.mem_iff_getElem?.mp (List.mem_reverse.mpr kept)
  refine ⟨position / size.toNat, ?_, (mem_page positive).mpr ⟨position, rfl, found⟩⟩
  have inside : position < archive.size := by
    simpa [Archive.size] using (List.getElem?_eq_some_iff.mp found).1
  rw [pageCount, Nat.div_lt_iff_lt_mul positive]
  have more := Nat.lt_div_mul_add positive (a := archive.size + size.toNat - 1)
  omega

theorem mem_indices_of_mem_page {index : UInt64} {place : Nat}
    (member : index ∈ archive.page size place) : index ∈ archive.indices :=
  List.mem_reverse.mp (List.mem_of_mem_drop (List.mem_of_mem_take member))

theorem page_unique (positive : 0 < size.toNat) {index : UInt64} {place other : Nat}
    (here : index ∈ archive.page size place) (there : index ∈ archive.page size other) :
    place = other := by
  obtain ⟨position, rfl, found⟩ := (mem_page positive).mp here
  obtain ⟨again, rfl, foundAgain⟩ := (mem_page positive).mp there
  have distinct : archive.indices.reverse.Nodup :=
    (List.pairwise_reverse.mpr archive.ascending).imp fun less => Ne.symm (UInt64.ne_of_lt less)
  have inside := (List.getElem?_eq_some_iff.mp found).1
  rw [(List.getElem?_inj inside distinct).mp (found.trans foundAgain.symm)]

theorem page_ne_nil (positive : 0 < size.toNat) {place : Nat}
    (inside : place * size.toNat < archive.size) : archive.page size place ≠ [] := by
  apply List.length_pos_iff.mp
  rw [page, List.length_take, length_beyond]
  omega

theorem lt_size_of_lt_pageCount (positive : 0 < size.toNat) {place : Nat}
    (inside : place < archive.pageCount size) : place * size.toNat < archive.size := by
  have enough := (Nat.le_div_iff_mul_le positive).mp (Nat.succ_le_of_lt inside)
  rw [Nat.succ_mul] at enough
  omega

theorem beyond_zero (archive : Archive) (size : UInt32) :
    archive.beyond size 0 = archive.indices.reverse := by
  simp [beyond]

theorem nodup_iff_all_below {places : List Nat} {bound : Nat}
    (length : places.length = bound) (below : ∀ place ∈ places, place < bound) :
    places.Nodup ↔ ∀ place < bound, place ∈ places := by
  constructor
  · intro distinct place inside
    have packed : places.Subperm (List.range bound) :=
      distinct.subperm fun place member => List.mem_range.mpr (below place member)
    have perm := packed.perm_of_length_le (by simp [length])
    exact perm.mem_iff.mpr (List.mem_range.mpr inside)
  · intro all
    have packed : (List.range bound).Subperm places :=
      List.nodup_range.subperm fun place member => all place (List.mem_range.mp member)
    have perm := packed.perm_of_length_le (by simp [length])
    exact perm.nodup_iff.mp List.nodup_range

/-- As many deliveries as there are pages show every index just when each page came once. -/
theorem sees_all_iff_no_page_again (positive : 0 < size.toNat) {pages : List (List UInt64)}
    (length : pages.length = archive.pageCount size)
    (placed : ∀ page ∈ pages,
      ∃ place < archive.pageCount size, page.Perm (archive.page size place)) :
    (∀ index ∈ archive.indices, index ∈ pages.flatten) ↔
      pages.Pairwise fun page later => ¬page.Perm later := by
  choose! place below perm using placed
  have same {page later : List UInt64} (here : page ∈ pages) (there : later ∈ pages) :
      place page ≠ place later ↔ ¬page.Perm later := by
    refine not_congr ⟨fun same => ?_, fun alike => ?_⟩
    · exact (perm page here).trans (same ▸ (perm later there).symm)
    · obtain ⟨index, member⟩ := List.exists_mem_of_ne_nil _
        (page_ne_nil positive (lt_size_of_lt_pageCount positive (below page here)))
      have moved := ((perm page here).symm.trans alike).trans (perm later there)
      exact page_unique positive member (moved.mem_iff.mp member)
  have places : (∀ index ∈ archive.indices, index ∈ pages.flatten) ↔
      ∀ other < archive.pageCount size, other ∈ pages.map place := by
    constructor
    · intro seen other inside
      obtain ⟨index, member⟩ := List.exists_mem_of_ne_nil _
        (page_ne_nil positive (lt_size_of_lt_pageCount positive inside))
      obtain ⟨page, here, shown⟩ :=
        List.mem_flatten.mp (seen index (mem_indices_of_mem_page member))
      have onPage := (perm page here).mem_iff.mp shown
      exact List.mem_map.mpr ⟨page, here, page_unique positive onPage member⟩
    · intro all index kept
      obtain ⟨other, inside, member⟩ := exists_page positive kept
      obtain ⟨page, here, rfl⟩ := List.mem_map.mp (all other inside)
      exact List.mem_flatten.mpr ⟨page, here, (perm page here).mem_iff.mpr member⟩
  rw [places, ← nodup_iff_all_below (by simpa using length) (by simpa using below),
    List.Nodup, List.pairwise_map]
  exact List.Pairwise.iff_of_mem same

end Archive

namespace Walk

/-- What was ever told was told before, or is what the walk now waits for. -/
theorem mem_told_go {walk : Walk} {step : RestoreMachine × List RestoreAction}
    {action : RestoreAction} (member : action ∈ (walk.go step).told) :
    action ∈ walk.told ∨ action ∈ (walk.go step).asked := by
  refine (List.mem_append.mp member).imp_right fun now => ?_
  have some : step.2 ≠ [] := List.ne_nil_of_mem now
  simpa [go, some] using now

end Walk

namespace Redelivering

open RestoreMachine

variable {counts : Counts} {archive : Archive} {size : UInt32} {walk : Walk}

/-- On the way down after `delivered` pages: a fetch starts where one of the pages starts,
and no further down than the deliveries can have led. -/
def Placed (archive : Archive) (size : UInt32) (delivered : Nat) (last : UInt64) : Prop :=
  ∃ place ≤ delivered, archive.descent last = archive.beyond size place

theorem Placed.mono {delivered later : Nat} {last : UInt64}
    (placed : Placed archive size delivered last) (le : delivered ≤ later) :
    Placed archive size later last := by
  obtain ⟨place, bound, starts⟩ := placed
  exact ⟨place, Nat.le_trans bound le, starts⟩

structure Delivering (archive : Archive) (size : UInt32) (walk : Walk) : Prop where
  phase : walk.machine.phase = .restoringMessages
  pageSize : walk.machine.messagesPageSize = size
  total : walk.machine.progress.messagesTotal.toNat = archive.size
  restored : walk.machine.progress.messagesRestored.toNat = walk.pages.length * size.toNat
  short : walk.pages.length * size.toNat < archive.size
  reached : Placed archive size walk.pages.length walk.machine.messagesCursor
  fetches : ∀ last limit, .fetchMessages last limit true ∈ walk.told →
    limit = size ∧ Placed archive size walk.pages.length last
  unfinished : .finished ∉ walk.told
  pages : ∀ page ∈ walk.pages,
    ∃ place < walk.pages.length, page.Perm (archive.page size place)

structure Delivered (archive : Archive) (size : UInt32) (walk : Walk) : Prop where
  phase : walk.machine.phase = .finished
  finished : walk.told.count .finished = 1
  enough : archive.pageCount size ≤ walk.pages.length
  pages : ∀ page ∈ walk.pages.take (archive.pageCount size),
    ∃ place < archive.pageCount size, page.Perm (archive.page size place)

def Silent (walk : Walk) : Prop :=
  ∀ last limit, .fetchMessages last limit true ∉ walk.told

theorem delivering_of_descending {step : RestoreMachine × List RestoreAction}
    {cursor : UInt64} (silent : Silent walk) (first : walk.pages = [])
    (way : Restoring.Descending archive size (walk.go step) cursor) :
    Delivering archive size (walk.go step) := by
  have pages : (walk.go step).pages = [] := first
  have whole : archive.descent cursor = archive.beyond size 0 := by
    rw [Archive.beyond_zero]
    have kept : (archive.descent cursor).Sublist archive.indices.reverse :=
      List.filter_sublist
    apply kept.eq_of_length
    have perm := way.split
    rw [pages, List.flatten_nil, List.nil_append] at perm
    rw [perm.length_eq, List.length_reverse]
  have placed : Placed archive size (walk.go step).pages.length cursor :=
    ⟨0, Nat.zero_le _, whole⟩
  constructor
  case phase => exact way.phase
  case pageSize => exact way.pageSize
  case total => exact way.total
  case restored => simpa [pages] using way.restored
  case short =>
    have some : 0 < (archive.descent cursor).length := List.length_pos_iff.mpr way.left
    rw [pages, List.length_nil, Nat.zero_mul, way.size_eq]
    omega
  case reached => rwa [way.reached]
  case fetches =>
    intro last limit told
    have asked := (Walk.mem_told_go told).resolve_left (silent last limit)
    obtain ⟨rfl, rfl⟩ := (way.asked last limit).mp asked
    exact ⟨rfl, placed⟩
  case unfinished => exact way.unfinished
  case pages => simp [pages]

theorem silent_go {step : RestoreMachine × List RestoreAction} (silent : Silent walk)
    (way : Restoring.Approaching counts size (walk.go step)) : Silent (walk.go step) := by
  intro last limit told
  cases Walk.mem_told_go told with
  | inl before => exact silent last limit before
  | inr asked => exact way.asked last limit asked

/-- The deliveries count up to a full page each, but for the last of them. -/
theorem Delivering.counting_toNat (way : Delivering archive size walk)
    (messages : List Message) :
    (Restoring.counting walk.machine messages).progress.messagesRestored.toNat =
      min (walk.pages.length * size.toNat + messages.length) (2 ^ 64 - 1) := by
  have bound := walk.machine.progress.messagesRestored.toNat_lt
  show (Word.saturatingAdd _ _).toNat = _
  rw [Word.toNat_saturatingAdd, Word.toNat_ofCount, Word.toNat_largest, way.restored]
  omega

theorem Delivering.turn (positive : 0 < size.toNat) (way : Delivering archive size walk)
    {last : UInt64} {messages : List Message} {topic : String}
    (placed : Placed archive size walk.pages.length last)
    (batch : Topic.isBatch topic = true)
    (holds : Message.Holds messages (archive.downward last size))
    (more : (walk.pages.length + 1) * size.toNat < archive.size) :
    Delivering archive size (walk.read messages topic) := by
  obtain ⟨place, bound, starts⟩ := placed
  have behind : (place + 1) * size.toNat ≤ (walk.pages.length + 1) * size.toNat :=
    Nat.mul_le_mul_right size.toNat (Nat.succ_le_succ bound)
  have room : size.toNat ≤ (archive.beyond size place).length := by
    rw [Nat.add_one_mul place] at behind
    rw [Archive.length_beyond]
    omega
  have page : archive.downward last size = archive.page size place := by
    rw [Archive.downward, starts, Archive.page]
  have pageFull : messages.length = size.toNat := by
    rw [holds.length_eq, page, Archive.page, List.length_take_of_le room]
  have nonempty : archive.downward last size ≠ [] := by
    apply List.length_pos_iff.mp
    rwa [← holds.length_eq, pageFull]
  obtain ⟨lowest, least, inside, below⟩ := Restoring.lowest_of_holds holds nonempty
  have left : (archive.descent last).drop size.toNat ≠ [] := by
    rw [starts, Archive.drop_beyond]
    apply List.length_pos_iff.mp
    rw [Archive.length_beyond]
    omega
  obtain ⟨apart, rest⟩ := Archive.descent_below inside below left
  rw [starts, Archive.drop_beyond] at rest
  have counted := way.counting_toNat messages
  have bounded := walk.machine.progress.messagesTotal.toNat_lt
  rw [pageFull, ← Nat.add_one_mul, Nat.min_eq_left (by rw [way.total] at bounded; omega)]
    at counted
  have unfinished : ¬(walk.machine.progress.messagesTotal ≤
      (Restoring.counting walk.machine messages).progress.messagesRestored ∨
        lowest = 0) := by
    rintro (done | zero)
    · rw [UInt64.le_iff_toNat_le, counted, way.total] at done
      exact absurd more (Nat.not_lt.mpr done)
    · exact apart zero
  obtain ⟨asks, emitted, same⟩ :=
    Restoring.onBatch_descending way.phase batch least unfinished
  have next : Placed archive size (walk.pages.length + 1) (lowest - 1) :=
    ⟨place + 1, Nat.succ_le_succ bound, rest⟩
  have pages : (walk.read messages topic).pages.length = walk.pages.length + 1 := by
    simp [Walk.read]
  constructor
  case phase => simpa [Walk.read, Walk.go, same] using way.phase
  case pageSize => simpa [Walk.read, Walk.go, same] using way.pageSize
  case total => simpa [Walk.read, Walk.go, same] using way.total
  case restored =>
    rw [pages]
    simpa [Walk.read, Walk.go, same] using counted
  case short => rwa [pages]
  case reached =>
    rw [pages]
    simpa [Walk.read, Walk.go, same] using next
  case fetches =>
    intro other limit told
    rw [pages]
    cases List.mem_append.mp told with
    | inl before =>
        obtain ⟨rfl, placed⟩ := way.fetches other limit before
        exact ⟨rfl, placed.mono (Nat.le_succ _)⟩
    | inr now =>
        have asked := (asks.mem_iff (by simp)).mp now
        obtain ⟨rfl, rfl⟩ : other = lowest - 1 ∧ limit = size := by
          simpa [fetchBackward, way.pageSize] using asked
        exact ⟨rfl, next⟩
  case unfinished =>
    exact Walk.finished_not_mem_go asks (by simp [fetchBackward]) way.unfinished
  case pages =>
    intro shown member
    rw [pages]
    cases List.mem_append.mp member with
    | inl before =>
        obtain ⟨other, below, perm⟩ := way.pages shown before
        exact ⟨other, Nat.lt_succ_of_lt below, perm⟩
    | inr now =>
        rw [List.mem_singleton.mp now]
        exact ⟨place, Nat.lt_succ_of_le bound, page ▸ holds.indexValues_perm⟩

theorem Delivering.arrive (positive : 0 < size.toNat) (way : Delivering archive size walk)
    {last : UInt64} {messages : List Message} {topic : String}
    (placed : Placed archive size walk.pages.length last)
    (batch : Topic.isBatch topic = true)
    (holds : Message.Holds messages (archive.downward last size))
    (enough : archive.size ≤ (walk.pages.length + 1) * size.toNat) :
    Delivered archive size (walk.read messages topic) := by
  obtain ⟨place, bound, starts⟩ := placed
  have behind : place * size.toNat ≤ walk.pages.length * size.toNat :=
    Nat.mul_le_mul_right size.toNat bound
  have page : archive.downward last size = archive.page size place := by
    rw [Archive.downward, starts, Archive.page]
  have nonempty : archive.downward last size ≠ [] := by
    rw [page]
    exact Archive.page_ne_nil positive (Nat.lt_of_le_of_lt behind way.short)
  obtain ⟨lowest, least, -, -⟩ := Restoring.lowest_of_holds holds nonempty
  have finished : walk.machine.progress.messagesTotal ≤
      (Restoring.counting walk.machine messages).progress.messagesRestored := by
    have bounded := walk.machine.progress.messagesTotal.toNat_lt
    have length : messages.length = min size.toNat (archive.size - place * size.toNat) := by
      rw [holds.length_eq, page, Archive.page, List.length_take, Archive.length_beyond]
    rw [UInt64.le_iff_toNat_le, way.counting_toNat, way.total]
    rw [way.total] at bounded
    rw [Nat.succ_mul] at enough
    omega
  have step := Restoring.onBatch_restoringMessages way.phase batch least
  rw [if_pos (Or.inl finished)] at step
  have count : archive.pageCount size = walk.pages.length + 1 :=
    Archive.pageCount_eq way.short enough
  have pages : (walk.read messages topic).pages =
      walk.pages ++ [Message.indexValues messages] := rfl
  constructor
  case phase => simp [Walk.read, Walk.go, step, finish]
  case finished =>
    have before : walk.told.count .finished = 0 := List.count_eq_zero.mpr way.unfinished
    simp [Walk.read, Walk.go, step, finish, catchUp, before]
  case enough => simp [count, pages]
  case pages =>
    intro shown member
    rw [count]
    cases List.mem_append.mp (List.mem_of_mem_take member) with
    | inl before =>
        obtain ⟨other, below, perm⟩ := way.pages shown before
        exact ⟨other, Nat.lt_succ_of_lt below, perm⟩
    | inr now =>
        rw [List.mem_singleton.mp now]
        exact ⟨place, Nat.lt_succ_of_le bound, page ▸ holds.indexValues_perm⟩

theorem Delivered.again (done : Delivered archive size walk) (messages : List Message)
    {topic : String} (batch : Topic.isBatch topic = true) :
    Delivered archive size (walk.read messages topic) := by
  have step := onBatch_late (Or.inl done.phase) messages batch
  have same : walk.read messages topic =
      { walk with pages := walk.pages ++ [Message.indexValues messages] } := by
    rw [Walk.read, step, Walk.go_nothing]
  rw [same]
  refine ⟨done.phase, done.finished, ?_, ?_⟩
  · simpa using Nat.le_succ_of_le done.enough
  · simpa only [List.take_append_of_le_length done.enough] using done.pages

theorem Silent.hear (silent : Silent walk) (messages : List Message) {topic : String}
    (live : Topic.isBatch topic = false) : Silent (walk.hear messages topic) := by
  rw [walk.hear_eq messages live]
  exact silent

theorem Delivering.hear (way : Delivering archive size walk) (messages : List Message)
    {topic : String} (live : Topic.isBatch topic = false) :
    Delivering archive size (walk.hear messages topic) := by
  obtain ⟨_, heard⟩ := walk.exists_hear_eq messages live
  rw [heard]
  exact ⟨way.phase, way.pageSize, way.total, way.restored, way.short, way.reached, way.fetches,
    way.unfinished, way.pages⟩

theorem Delivered.hear (done : Delivered archive size walk) (messages : List Message)
    {topic : String} (live : Topic.isBatch topic = false) :
    Delivered archive size (walk.hear messages topic) := by
  obtain ⟨_, heard⟩ := walk.exists_hear_eq messages live
  rw [heard]
  exact ⟨done.phase, done.finished, done.enough, done.pages⟩

theorem Delivering.lost (way : Delivering archive size walk) :
    Delivering archive size (walk.go (walk.machine, walk.machine.resume)) := by
  have again : walk.machine.resume =
      [.fetchMessages walk.machine.messagesCursor size true] := by
    simp [resume, way.phase, fetchBackward, way.pageSize]
  refine ⟨way.phase, way.pageSize, way.total, way.restored, way.short, way.reached,
    ?_, ?_, way.pages⟩
  · intro last limit told
    rw [again] at told
    cases List.mem_append.mp told with
    | inl before => exact way.fetches last limit before
    | inr now =>
        cases List.mem_singleton.mp now
        exact ⟨rfl, way.reached⟩
  · simpa [Walk.go, again] using way.unfinished

theorem Delivered.lost (done : Delivered archive size walk) :
    Delivered archive size (walk.go (walk.machine, walk.machine.resume)) := by
  have silent : walk.machine.resume = [] := by simp [resume, done.phase]
  rw [silent, Walk.go_nothing]
  exact done

theorem cases_of_redelivering (nonempty : archive.indices ≠ []) (positive : 0 < size)
    (truthful : counts.Truthful archive) (run : Redelivering counts archive size walk) :
    (Restoring.Approaching counts size walk ∧ Silent walk) ∨
      Delivering archive size walk ∨ Delivered archive size walk := by
  have pages : 0 < size.toNat := UInt32.lt_iff_toNat_lt.mp positive
  -- A step out of the contacts goes on with them or makes the first fetch.
  have onward {walk : Walk} {step : RestoreMachine × List RestoreAction}
      (way : Restoring.Approaching counts size walk) (silent : Silent walk)
      (next : Restoring.Approaching counts size (walk.go step) ∨
        ∃ cursor, Restoring.Descending archive size (walk.go step) cursor) :
      (Restoring.Approaching counts size (walk.go step) ∧ Silent (walk.go step)) ∨
        Delivering archive size (walk.go step) ∨ Delivered archive size (walk.go step) := by
    rcases next with near | ⟨cursor, down⟩
    · exact Or.inl ⟨near, silent_go silent near⟩
    · exact Or.inr (Or.inl (delivering_of_descending silent way.pages down))
  induction run with
  | begin pageSize =>
      refine Or.inl ⟨⟨rfl, pageSize, rfl, ?_, ?_, ?_, rfl⟩, ?_⟩
      · intro counted
        exact absurd counted (by simp [Walk.start, beginRestore])
      · simp [Walk.start, beginRestore]
      · simp [Walk.start, beginRestore]
      · simp [Silent, Walk.start, beginRestore]
  | counts _ induction =>
      rcases induction with ⟨way, silent⟩ | way | done
      · exact onward way silent (way.onCounts nonempty truthful)
      · rw [Walk.go_onCounts_late (by simp [way.phase])]
        exact Or.inr (Or.inl way)
      · rw [Walk.go_onCounts_late (by simp [done.phase])]
        exact Or.inr (Or.inr done)
  | lost _ induction =>
      rcases induction with ⟨way, silent⟩ | way | done
      · exact Or.inl ⟨way.lost, silent_go silent way.lost⟩
      · exact Or.inr (Or.inl way.lost)
      · exact Or.inr (Or.inr done.lost)
  | live _ live induction =>
      rcases induction with ⟨way, silent⟩ | way | done
      · exact Or.inl ⟨way.hear _ live, silent.hear _ live⟩
      · exact Or.inr (Or.inl (way.hear _ live))
      · exact Or.inr (Or.inr (done.hear _ live))
  | contacts _ phase batch induction =>
      rcases induction with ⟨way, silent⟩ | way | done
      · exact onward way silent (way.onBatch nonempty truthful batch)
      · exact absurd (phase.symm.trans way.phase) (by decide)
      · exact absurd (phase.symm.trans done.phase) (by decide)
  | @page walk last limit messages topic _ told batch holds induction =>
      rcases induction with ⟨-, silent⟩ | way | done
      · exact absurd told (silent last limit)
      · obtain ⟨rfl, placed⟩ := way.fetches last limit told
        by_cases more : (walk.pages.length + 1) * limit.toNat < archive.size
        · exact Or.inr (Or.inl (way.turn pages placed batch holds more))
        · exact Or.inr (Or.inr (way.arrive pages placed batch holds (Nat.not_lt.mp more)))
      · exact Or.inr (Or.inr (done.again messages batch))

theorem finishes_iff_enough_pages (nonempty : archive.indices ≠ []) (positive : 0 < size)
    (truthful : counts.Truthful archive) (run : Redelivering counts archive size walk) :
    walk.told.count .finished =
      if archive.pageCount size ≤ walk.pages.length then 1 else 0 := by
  have pages : 0 < size.toNat := UInt32.lt_iff_toNat_lt.mp positive
  have kept : 0 < archive.size := List.length_pos_iff.mpr nonempty
  rcases cases_of_redelivering nonempty positive truthful run with
    ⟨way, -⟩ | way | done
  · have short : ¬archive.pageCount size ≤ walk.pages.length := by
      rw [way.pages]
      exact Nat.not_le.mpr (Nat.div_pos (by omega) pages)
    rw [if_neg short]
    exact List.count_eq_zero.mpr way.unfinished
  · have short : ¬archive.pageCount size ≤ walk.pages.length := by
      refine Nat.not_le.mpr (Nat.lt_of_succ_le ((Nat.le_div_iff_mul_le pages).mpr ?_))
      have left := way.short
      rw [Nat.succ_mul]
      omega
    rw [if_neg short]
    exact List.count_eq_zero.mpr way.unfinished
  · rw [if_pos done.enough]
    exact done.finished

/-- A restore finishes, once, with the last of as many deliveries as there are pages. By
then it has seen every index if and only if none of these deliveries repeated another. -/
theorem finished_sees_all_iff_no_page_again (positive : 0 < size)
    (truthful : counts.Truthful archive) (run : Redelivering counts archive size walk) :
    (archive.indices ≠ [] → walk.told.count .finished =
        if archive.pageCount size ≤ walk.pages.length then 1 else 0) ∧
      (archive.pageCount size ≤ walk.pages.length →
        ((∀ index ∈ archive.indices,
            index ∈ (walk.pages.take (archive.pageCount size)).flatten) ↔
          (walk.pages.take (archive.pageCount size)).Pairwise
            fun page later => ¬page.Perm later)) := by
  have pages : 0 < size.toNat := UInt32.lt_iff_toNat_lt.mp positive
  refine ⟨fun nonempty => finishes_iff_enough_pages nonempty positive truthful run, ?_⟩
  intro enough
  apply Archive.sees_all_iff_no_page_again pages (List.length_take_of_le enough)
  by_cases nonempty : archive.indices = []
  · have none : archive.pageCount size = 0 := by
      rw [Archive.pageCount, Archive.size, nonempty, List.length_nil]
      exact Nat.div_eq_of_lt (by omega)
    simp [none]
  · have finished := finishes_iff_enough_pages nonempty positive truthful run
    rw [if_pos enough] at finished
    have told : .finished ∈ walk.told := List.count_pos_iff.mp (by omega)
    rcases cases_of_redelivering nonempty positive truthful run with
      ⟨way, -⟩ | way | done
    · exact absurd told way.unfinished
    · exact absurd told way.unfinished
    · exact done.pages

/-! Four messages on pages of two. One delivery of each page, then the first once more. -/

def four : Archive where
  indices := [1, 2, 3, 4]
  ascending := by decide

def fourCounts : Counts where
  total := some 4
  okKey := none
  firstForEachScid := none
  totalHighestIndex := some 4
  okKeyHighestIndex := none
  firstForEachScidHighestIndex := none

theorem truthful_four : fourCounts.Truthful four :=
  ⟨by decide, by decide⟩

def upperPage : Walk :=
  let walk := Walk.start (RestoreMachine.new 100 2).beginRestore
  let walk := walk.go (walk.machine.onCounts fourCounts)
  walk.read [Message.numbered 4, Message.numbered 3] "x/batch"

theorem redelivering_upperPage : Redelivering fourCounts four 2 upperPage := by
  have begun : Redelivering fourCounts four 2 _ :=
    .begin (show (RestoreMachine.new 100 2).messagesPageSize = 2 from rfl)
  exact @page _ _ _ _ 4 2 _ "x/batch" begun.counts (by decide) (by decide)
    (Message.holds_numbered [4, 3])

def bothPages : Walk :=
  let walk := upperPage.read [Message.numbered 2, Message.numbered 1] "x/batch"
  walk.read [Message.numbered 4, Message.numbered 3] "x/batch"

theorem redelivering_bothPages : Redelivering fourCounts four 2 bothPages := by
  have lower := @page _ _ _ _ 2 2 _ "x/batch" redelivering_upperPage (by decide) (by decide)
    (Message.holds_numbered [2, 1])
  exact @page _ _ _ _ 4 2 _ "x/batch" lower (by decide) (by decide)
    (Message.holds_numbered [4, 3])

theorem finished_bothPages :
    (0 : UInt32) < 2 ∧ fourCounts.Truthful four ∧
      Redelivering fourCounts four 2 bothPages ∧ bothPages.told.count .finished = 1 ∧
        ∀ index ∈ four.indices, index ∈ (bothPages.pages.take 2).flatten := by
  obtain ⟨finished, sees⟩ :=
    finished_sees_all_iff_no_page_again (by decide) truthful_four redelivering_bothPages
  refine ⟨by decide, truthful_four, redelivering_bothPages, finished (by decide), ?_⟩
  exact (sees (by decide)).mpr (by decide)

/-! The first page comes twice, and the second never. -/

def upperPageTwice : Walk :=
  upperPage.read [Message.numbered 4, Message.numbered 3] "x/batch"

theorem finished_with_unseen :
    fourCounts.Truthful four ∧ Redelivering fourCounts four 2 upperPageTwice ∧
      .finished ∈ upperPageTwice.told ∧
        1 ∈ four.indices ∧ 1 ∉ upperPageTwice.pages.flatten := by
  have again := @page _ _ _ _ 4 2 _ "x/batch" redelivering_upperPage (by decide) (by decide)
    (Message.holds_numbered [4, 3])
  exact ⟨truthful_four, again, by decide, by decide, by decide⟩

end Redelivering

end Messenger

import Messenger.Proofs.Restore.Walk

/-!
An incremental sync with live traffic in between. Pages and live batches move one highest
index, and the next fetch starts above it; so a live batch can carry the walk past indices
that no page has brought. Those are all that a sync can miss.
-/

namespace Messenger

def RestoreAction.forwardStart? : RestoreAction → Option UInt64
  | .fetchMessages first _ false => some first
  | _ => none

namespace Walk

def starts (walk : Walk) : List UInt64 :=
  walk.told.filterMap RestoreAction.forwardStart?

/-- The walk went past an index: it lies above all that a page brought, and below the
start of the fetch that followed the page. -/
def PassedOver (walk : Walk) (index : UInt64) : Prop :=
  ∃ turn ∈ walk.pages.zip walk.starts.tail,
    (∀ other ∈ turn.1, other < index) ∧ index < turn.2

instance (walk : Walk) (index : UInt64) : Decidable (walk.PassedOver index) :=
  inferInstanceAs (Decidable (∃ turn ∈ walk.pages.zip walk.starts.tail,
    (∀ other ∈ turn.1, other < index) ∧ index < turn.2))

end Walk

/-- A sync of a new machine from the last index known. Every forward fetch is answered by
the page that it asks for, and live batches bring indices that the server keeps. -/
inductive Sync (archive : Archive) (last : UInt64) (size : UInt32) : Walk → Prop
  | begin (contactsSize : UInt32) :
      Sync archive last size
        (.start ((RestoreMachine.new contactsSize size).beginSync (some last)))
  | live {walk : Walk} {messages : List Message} {topic : String} :
      Sync archive last size walk → Topic.isBatch topic = false →
      (∀ index ∈ Message.indexValues messages, index ∈ archive.indices) →
      Sync archive last size (walk.hear messages topic)
  | page {walk : Walk} {first : UInt64} {limit : UInt32} {messages : List Message}
      {topic : String} :
      Sync archive last size walk → .fetchMessages first limit false ∈ walk.asked →
      Topic.isBatch topic = true →
      Message.Holds messages (archive.upward first limit) →
      Sync archive last size (walk.read messages topic)

namespace Sync

variable {archive : Archive} {last : UInt64} {size : UInt32} {walk : Walk}

/-! Below some bound, every index above the last one known is either on a page or was passed
over, and none is both. -/

structure Accounts (archive : Archive) (last : UInt64) (walk : Walk)
    (below : UInt64 → Prop) : Prop where
  complete : ∀ index ∈ archive.indices, last < index → below index →
    index ∈ walk.pages.flatten ∨ walk.PassedOver index
  separate : ∀ index ∈ archive.indices, walk.PassedOver index →
    last < index ∧ index ∉ walk.pages.flatten
  bounded : ∀ index ∈ archive.indices,
    index ∈ walk.pages.flatten ∨ walk.PassedOver index → below index

structure Waits (archive : Archive) (last : UInt64) (size : UInt32) (walk : Walk)
    (first : UInt64) : Prop where
  phase : walk.machine.phase = .notRestoring
  pageSize : walk.machine.messagesPageSize = size
  asked : walk.asked = [.fetchMessages first size false]
  unfinished : .syncFinished ∉ walk.told
  aligned : walk.starts.length = walk.pages.length + 1
  /-- All below the fetch lies below the highest index, which only rises. -/
  highest : ∃ highest, walk.machine.highestIndex = some highest ∧
    ∀ index ∈ archive.indices, index < first → index ≤ highest
  ahead : ∀ index ∈ archive.indices, first ≤ index → last < index
  accounts : Accounts archive last walk (· < first)

structure Done (archive : Archive) (last : UInt64) (walk : Walk) : Prop where
  asked : ∀ first limit, .fetchMessages first limit false ∉ walk.asked
  accounts : Accounts archive last walk fun _ => True

/-! A turn is a page and the fetch that follows it. -/

theorem passedOver_hear (walk : Walk) (messages : List Message) {topic : String}
    (live : Topic.isBatch topic = false) (index : UInt64) :
    (walk.hear messages topic).PassedOver index ↔ walk.PassedOver index := by
  rw [walk.hear_eq messages live]
  exact Iff.rfl

theorem Accounts.hear {below : UInt64 → Prop}
    (accounts : Accounts archive last walk below) (messages : List Message)
    {topic : String} (live : Topic.isBatch topic = false) :
    Accounts archive last (walk.hear messages topic) below := by
  have pages : (walk.hear messages topic).pages = walk.pages := rfl
  constructor
  · intro index kept above inside
    rw [pages, passedOver_hear walk messages live]
    exact accounts.complete index kept above inside
  · intro index kept passed
    rw [passedOver_hear walk messages live] at passed
    exact accounts.separate index kept passed
  · intro index kept met
    rw [pages, passedOver_hear walk messages live] at met
    exact accounts.bounded index kept met

theorem passedOver_turn {after : Walk} {page : List UInt64} {next : UInt64}
    (aligned : walk.starts.length = walk.pages.length + 1)
    (pages : after.pages = walk.pages ++ [page])
    (starts : after.starts = walk.starts ++ [next]) (index : UInt64) :
    after.PassedOver index ↔
      walk.PassedOver index ∨ (∀ other ∈ page, other < index) ∧ index < next := by
  obtain ⟨start, rest, split⟩ := List.exists_cons_of_length_pos
    (show 0 < walk.starts.length by omega)
  have same : walk.pages.length = rest.length := by
    rw [split, List.length_cons] at aligned
    omega
  unfold Walk.PassedOver
  rw [pages, starts, split, List.cons_append, List.tail_cons, List.tail_cons,
    List.zip_append same]
  simp [or_and_right, exists_or]

theorem passedOver_end {after : Walk} {page : List UInt64}
    (aligned : walk.starts.length = walk.pages.length + 1)
    (pages : after.pages = walk.pages ++ [page])
    (starts : after.starts = walk.starts) (index : UInt64) :
    after.PassedOver index ↔ walk.PassedOver index := by
  obtain ⟨start, rest, split⟩ := List.exists_cons_of_length_pos
    (show 0 < walk.starts.length by omega)
  have same : walk.pages.length = rest.length := by
    rw [split, List.length_cons] at aligned
    omega
  unfold Walk.PassedOver
  rw [pages, starts, split, List.tail_cons]
  have cut : (walk.pages ++ [page]).zip (rest ++ []) = walk.pages.zip rest := by
    rw [List.zip_append same]
    simp
  rw [← cut, List.append_nil]

/-- The page from `first` on keeps the accounts up to the next fetch: up to its highest
index the page leaves nothing out, and from there on all is passed over. -/
theorem Accounts.turn {after : Walk} {page : List UInt64} {first next top : UInt64}
    (accounts : Accounts archive last walk (· < first))
    (pages : after.pages = walk.pages ++ [page])
    (passed : ∀ index, after.PassedOver index ↔
      walk.PassedOver index ∨ (∀ other ∈ page, other < index) ∧ index < next)
    (onPage : ∀ {index}, index ∈ page ↔ index ∈ archive.upward first size)
    (topOn : top ∈ page) (topAbove : ∀ index ∈ page, index ≤ top)
    (ahead : ∀ index ∈ archive.indices, first ≤ index → last < index)
    (rises : ∀ index ∈ archive.indices, index < first → index < next)
    (topBelow : ∀ index ∈ archive.indices, index ≤ top → index < next) :
    Accounts archive last after (· < next) := by
  have topKept := Archive.mem_upward (onPage.mp topOn)
  constructor
  case complete =>
    intro index kept above less
    rw [passed, pages, List.flatten_concat, List.mem_append]
    by_cases before : index < first
    · exact (accounts.complete index kept above before).imp Or.inl Or.inl
    · by_cases within : index ≤ top
      · exact Or.inl (Or.inr (onPage.mpr (Archive.mem_upward_of_le (onPage.mp topOn) kept
          (UInt64.not_lt.mp before) within)))
      · refine Or.inr (Or.inr ⟨fun other member => ?_, less⟩)
        exact UInt64.lt_of_le_of_lt (topAbove other member) (UInt64.not_le.mp within)
  case separate =>
    intro index kept met
    rw [pages, List.flatten_concat, List.mem_append, not_or]
    cases (passed index).mp met with
    | inl earlier =>
        have apart := accounts.separate index kept earlier
        have before := accounts.bounded index kept (Or.inr earlier)
        refine ⟨apart.1, apart.2, fun member => ?_⟩
        exact UInt64.not_le.mpr before (Archive.mem_upward (onPage.mp member)).2
    | inr beyond =>
        have above := UInt64.le_trans topKept.2 (UInt64.le_of_lt (beyond.1 top topOn))
        refine ⟨ahead index kept above, fun member => ?_, fun member => ?_⟩
        · exact UInt64.not_le.mpr (accounts.bounded index kept (Or.inl member)) above
        · exact UInt64.lt_irrefl index (beyond.1 index member)
  case bounded =>
    intro index kept met
    rw [passed, pages, List.flatten_concat, List.mem_append] at met
    rcases met with (paged | member) | (earlier | ⟨-, less⟩)
    · exact rises index kept (accounts.bounded index kept (Or.inl paged))
    · exact topBelow index kept (topAbove index member)
    · exact rises index kept (accounts.bounded index kept (Or.inr earlier))
    · exact less

theorem waits_begin (bounded : ∀ index ∈ archive.indices, index < Word.largest)
    (contactsSize : UInt32) :
    Waits archive last size
      (.start ((RestoreMachine.new contactsSize size).beginSync (some last)))
      (Word.next last) where
  phase := rfl
  pageSize := rfl
  asked := rfl
  unfinished := by
    simp [Walk.start, RestoreMachine.beginSync, RestoreMachine.fetchForward]
  aligned := rfl
  highest := by
    refine ⟨last, ?_, fun index kept below => ?_⟩
    · simp [Walk.start, RestoreMachine.beginSync, RestoreMachine.observe,
        RestoreMachine.new, Word.max_eq]
    · exact (Word.lt_next_iff (bounded index kept)).mp below
  ahead := by
    intro index kept above
    refine UInt64.not_le.mp fun below => ?_
    exact UInt64.not_le.mpr ((Word.lt_next_iff (bounded index kept)).mpr below) above
  accounts := by
    constructor
    · intro index kept above below
      exact absurd ((Word.lt_next_iff (bounded index kept)).mp below)
        (UInt64.not_le.mpr above)
    · rintro index kept ⟨turn, member, -⟩
      simp [Walk.start] at member
    · rintro index kept (paged | ⟨turn, member, -⟩)
      · simp [Walk.start] at paged
      · simp [Walk.start] at member

theorem Waits.hear {first : UInt64} (waits : Waits archive last size walk first)
    (messages : List Message) {topic : String} (live : Topic.isBatch topic = false) :
    Waits archive last size (walk.hear messages topic) first := by
  have accounts := waits.accounts.hear messages live
  have aligned := waits.aligned
  obtain ⟨highest, same, reached⟩ := waits.highest
  rw [walk.hear_eq messages live] at accounts ⊢
  revert accounts
  cases Message.highestIndex? messages with
  | none =>
      intro accounts
      exact ⟨waits.phase, waits.pageSize, waits.asked, waits.unfinished, aligned,
        waits.highest, waits.ahead, accounts⟩
  | some index =>
      intro accounts
      refine ⟨waits.phase, waits.pageSize, waits.asked, waits.unfinished, aligned,
        ⟨max highest index, ?_, ?_⟩, waits.ahead, accounts⟩
      · simp [RestoreMachine.observe, same]
      · intro other kept below
        exact UInt64.le_trans (reached other kept below) Std.left_le_max

theorem Waits.turn {first : UInt64} {messages : List Message} {topic : String}
    (bounded : ∀ index ∈ archive.indices, index < Word.largest)
    (waits : Waits archive last size walk first) (batch : Topic.isBatch topic = true)
    (holds : Message.Holds messages (archive.upward first size))
    {top : UInt64} (highest : Message.highestIndex? messages = some top) :
    ∃ next, Waits archive last size (walk.read messages topic) next := by
  obtain ⟨reached, same, below⟩ := waits.highest
  obtain ⟨topOn, topAbove⟩ := Message.highestIndex?_eq_some.mp highest
  have onPage : ∀ {index}, index ∈ Message.indexValues messages ↔
      index ∈ archive.upward first size := holds.indexValues_perm.mem_iff
  have topKept := Archive.mem_upward (onPage.mp topOn)
  let seen := max reached top
  have step : walk.machine.onBatch messages topic =
      ({ walk.machine with highestIndex := some seen },
        [.fetchMessages (Word.next seen) size false]) :=
    RestoreMachine.onBatch_syncing waits.phase waits.pageSize batch same highest
  have pages : (walk.read messages topic).pages =
      walk.pages ++ [Message.indexValues messages] := rfl
  have told : (walk.read messages topic).told =
      walk.told ++ [.fetchMessages (Word.next seen) size false] := by
    simp [Walk.read, Walk.go, step]
  have starts : (walk.read messages topic).starts = walk.starts ++ [Word.next seen] := by
    simp [Walk.starts, told, RestoreAction.forwardStart?]
  have passed := passedOver_turn waits.aligned pages starts
  have next : ∀ index ∈ archive.indices, index < Word.next seen ↔ index ≤ seen :=
    fun index kept => Word.lt_next_iff (bounded index kept)
  have topSeen : top ≤ seen := Std.right_le_max
  have rises : ∀ index ∈ archive.indices, index < first → index < Word.next seen :=
    fun index kept less =>
      (next index kept).mpr (UInt64.le_trans (below index kept less) Std.left_le_max)
  refine ⟨Word.next seen, ?_⟩
  constructor
  case phase => simpa [Walk.read, Walk.go, step] using waits.phase
  case pageSize => simpa [Walk.read, Walk.go, step] using waits.pageSize
  case asked => simp [Walk.read, Walk.go, step]
  case unfinished => simpa [told] using waits.unfinished
  case aligned => simp [starts, pages, waits.aligned]
  case highest =>
    exact ⟨seen, by simp [Walk.read, Walk.go, step],
      fun index kept less => (next index kept).mp less⟩
  case ahead =>
    intro index kept above
    refine waits.ahead index kept (UInt64.le_trans topKept.2 ?_)
    have beyond : seen < index := UInt64.not_le.mp fun within =>
      UInt64.not_le.mpr ((next index kept).mpr within) above
    exact UInt64.le_trans topSeen (UInt64.le_of_lt beyond)
  case accounts =>
    exact waits.accounts.turn pages passed onPage topOn topAbove waits.ahead rises
      fun index kept within => (next index kept).mpr (UInt64.le_trans within topSeen)

theorem Waits.finish {first : UInt64} {messages : List Message} {topic : String}
    (positive : 0 < size.toNat) (waits : Waits archive last size walk first)
    (batch : Topic.isBatch topic = true)
    (holds : Message.Holds messages (archive.upward first size))
    (none : Message.highestIndex? messages = none) :
    Done archive last (walk.read messages topic) := by
  have blank := Message.highestIndex?_eq_none.mp none
  have empty : archive.upward first size = [] := by
    have perm := holds.indexValues_perm
    rw [blank] at perm
    exact perm.nil_eq.symm
  have step := RestoreMachine.onBatch_synced waits.phase batch none
  have pages : (walk.read messages topic).pages = walk.pages ++ [[]] := by
    simp [Walk.read, Walk.go, blank]
  have told : (walk.read messages topic).told =
      walk.told ++ .syncFinished :: RestoreMachine.catchUp := by
    simp [Walk.read, Walk.go, step]
  have starts : (walk.read messages topic).starts = walk.starts := by
    simp [Walk.starts, told, RestoreAction.forwardStart?, RestoreMachine.catchUp]
  have passed := passedOver_end waits.aligned pages starts
  have paged : (walk.read messages topic).pages.flatten = walk.pages.flatten := by
    simp [pages]
  constructor
  · intro first limit
    simp [Walk.read, Walk.go, step, RestoreMachine.catchUp]
  · constructor
    · intro index kept above _
      rw [passed, paged]
      exact waits.accounts.complete index kept above
        (Archive.upward_eq_nil positive empty kept)
    · intro index kept met
      rw [passed] at met
      rw [paged]
      exact waits.accounts.separate index kept met
    · intros
      trivial

theorem Done.hear (done : Done archive last walk) (messages : List Message)
    {topic : String} (live : Topic.isBatch topic = false) :
    Done archive last (walk.hear messages topic) where
  asked := by
    rw [walk.hear_eq messages live]
    exact done.asked
  accounts := done.accounts.hear messages live

/-- At every moment a sync waits for one page, or it has finished. -/
theorem waits_or_done (positive : 0 < size)
    (bounded : ∀ index ∈ archive.indices, index < Word.largest)
    (sync : Sync archive last size walk) :
    (∃ first, Waits archive last size walk first) ∨ Done archive last walk := by
  induction sync with
  | begin contactsSize =>
      exact Or.inl ⟨_, waits_begin bounded contactsSize⟩
  | live _ live _ induction =>
      rcases induction with ⟨first, waits⟩ | done
      · exact Or.inl ⟨first, waits.hear _ live⟩
      · exact Or.inr (done.hear _ live)
  | @page walk first limit messages topic _ asked batch holds induction =>
      rcases induction with ⟨start, waits⟩ | done
      · rw [waits.asked] at asked
        obtain ⟨rfl, rfl⟩ : first = start ∧ limit = size := by simpa using asked
        cases highest : Message.highestIndex? messages with
        | none =>
            exact Or.inr (waits.finish (UInt32.lt_iff_toNat_lt.mp positive) batch holds
              highest)
        | some top => exact Or.inl (waits.turn bounded batch holds highest)
      · exact absurd asked (done.asked first limit)

/-- A finished sync has shown every index above the last one known exactly if every index
that it passed over came in a live batch. -/
theorem seen_iff_passedOver_live (positive : 0 < size)
    (bounded : ∀ index ∈ archive.indices, index < Word.largest)
    (sync : Sync archive last size walk) (finished : .syncFinished ∈ walk.told) :
    (∀ index ∈ archive.indices, last < index → index ∈ walk.seen) ↔
      ∀ index ∈ archive.indices, walk.PassedOver index → index ∈ walk.live := by
  obtain ⟨first, waits⟩ | done := waits_or_done positive bounded sync
  · exact absurd finished waits.unfinished
  · constructor
    · intro complete index kept passed
      have apart := done.accounts.separate index kept passed
      exact (List.mem_append.mp (complete index kept apart.1)).resolve_left apart.2
    · intro covered index kept above
      refine List.mem_append.mpr ?_
      exact (done.accounts.complete index kept above trivial).imp_right
        (covered index kept)

/-! The server keeps three messages and a page holds one. A live batch comes before the first
page does. -/

def threeKept : Archive where
  indices := [1, 2, 3]
  ascending := by decide

theorem threeKept_bounded : ∀ index ∈ threeKept.indices, index < Word.largest := by
  intro index kept
  simp only [threeKept, List.mem_cons, List.not_mem_nil, or_false] at kept
  rcases kept with rfl | rfl | rfl <;> decide

def overtaken (brought : List UInt64) : Walk :=
  let walk := Walk.start ((RestoreMachine.new 100 1).beginSync (some 0))
  let walk := walk.hear (brought.map Message.numbered) "x/stream"
  (walk.read [Message.numbered 1] "x/batch").read [] "x/batch"

theorem sync_overtaken {brought : List UInt64}
    (kept : ∀ index ∈ brought, index ∈ threeKept.indices)
    (top : brought.max? = some 3) : Sync threeKept 0 1 (overtaken brought) := by
  have heard : Message.highestIndex? (brought.map Message.numbered) = some 3 := by
    simpa [Message.highestIndex?] using top
  have live : Topic.isBatch "x/stream" = false := by decide
  have begun : Sync threeKept 0 1 _ := .begin 100
  have passed := @Sync.live _ _ _ _ (brought.map Message.numbered) _ begun live
    (by simpa using kept)
  have first := @Sync.page _ _ _ _ 1 1 _ "x/batch" passed
    (by rw [Walk.hear_eq _ _ live]; exact List.mem_cons_self) (by decide)
    (Message.holds_numbered [1])
  refine @Sync.page _ _ _ _ 4 1 [] _ first ?_ (by decide) (Message.holds_numbered [])
  rw [Walk.hear_eq _ _ live, heard]
  exact List.mem_cons_self

/-- With the index in between brought live as well, nothing is missing. -/
theorem seen_iff_overtaken :
    (∀ index ∈ threeKept.indices, 0 < index → index ∈ (overtaken [2, 3]).seen) ↔
      ∀ index ∈ threeKept.indices, (overtaken [2, 3]).PassedOver index →
        index ∈ (overtaken [2, 3]).live :=
  seen_iff_passedOver_live (by decide) threeKept_bounded
    (sync_overtaken (by simp [threeKept]) (by decide)) (by decide)

/-- Without it, the sync finishes and never shows it. -/
theorem overtaken_unseen :
    Sync threeKept 0 1 (overtaken [3]) ∧ .syncFinished ∈ (overtaken [3]).told ∧
      2 ∈ threeKept.indices ∧ (0 : UInt64) < 2 ∧ 2 ∉ (overtaken [3]).seen :=
  ⟨sync_overtaken (by simp [threeKept]) (by decide), by decide, by decide, by decide,
    by decide⟩

end Sync

end Messenger

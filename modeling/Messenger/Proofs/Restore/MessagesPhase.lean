import Messenger.Proofs.Restore.Walk

/-!
The way down through the messages of a restore. With truthful counts it takes as many
pages as it must, and they bring every index once, however the restore got there, whatever
answers were lost and whatever came live.
-/

namespace Messenger

structure Counts.Truthful (counts : Counts) (archive : Archive) : Prop where
  total : counts.total.map UInt64.toNat = some archive.size
  highest : counts.totalHighestIndex = archive.highest?

/-- A restore from its beginning. Contact pages may hold anything; every fetch of messages
is answered by the page that it asks for, or the answer is lost and asked for again. -/
inductive Restoring (counts : Counts) (archive : Archive) (size : UInt32) : Walk → Prop
  | begin {machine : RestoreMachine} : machine.messagesPageSize = size →
      Restoring counts archive size (.start machine.beginRestore)
  | counts {walk : Walk} : Restoring counts archive size walk →
      Restoring counts archive size (walk.go (walk.machine.onCounts counts))
  | lost {walk : Walk} : Restoring counts archive size walk →
      Restoring counts archive size (walk.go (walk.machine, walk.machine.resume))
  | live {walk : Walk} {messages : List Message} {topic : String} :
      Restoring counts archive size walk → Topic.isBatch topic = false →
      Restoring counts archive size (walk.hear messages topic)
  | contacts {walk : Walk} {messages : List Message} {topic : String} :
      Restoring counts archive size walk → walk.machine.phase = .restoringContacts →
      Topic.isBatch topic = true →
      Restoring counts archive size (walk.go (walk.machine.onBatch messages topic))
  | page {walk : Walk} {last : UInt64} {limit : UInt32} {messages : List Message}
      {topic : String} :
      Restoring counts archive size walk → .fetchMessages last limit true ∈ walk.asked →
      Topic.isBatch topic = true →
      Message.Holds messages (archive.downward last limit) →
      Restoring counts archive size (walk.read messages topic)

namespace Archive

variable {archive : Archive}

theorem filter_eq_drop {run : List UInt64} {count : Nat} {keeps : UInt64 → Prop}
    [DecidablePred keeps] (none : ∀ index ∈ run.take count, ¬keeps index)
    (all : ∀ index ∈ run.drop count, keeps index) :
    run.filter (keeps ·) = run.drop count := by
  calc
    run.filter (keeps ·) =
        (run.take count).filter (keeps ·) ++ (run.drop count).filter (keeps ·) := by
      rw [← List.filter_append, List.take_append_drop]
    _ = run.drop count := by
      have before : (run.take count).filter (keeps ·) = [] :=
        List.filter_eq_nil_iff.mpr fun index member kept =>
          none index member (of_decide_eq_true kept)
      have after : (run.drop count).filter (keeps ·) = run.drop count :=
        List.filter_eq_self.mpr fun index member => decide_eq_true (all index member)
      rw [before, after, List.nil_append]

theorem descent_below {last lowest : UInt64} {count : Nat}
    (inside : lowest ∈ (archive.descent last).take count)
    (least : ∀ index ∈ (archive.descent last).take count, lowest ≤ index)
    (left : (archive.descent last).drop count ≠ []) :
    lowest ≠ 0 ∧ archive.descent (lowest - 1) = (archive.descent last).drop count := by
  have ordered := archive.descent_descending last
  rw [← List.take_append_drop count (archive.descent last)] at ordered
  have below : ∀ index ∈ (archive.descent last).drop count, index < lowest :=
    fun index member => (List.pairwise_append.mp ordered).2.2 lowest inside index member
  obtain ⟨next, nextLeft⟩ := List.exists_mem_of_ne_nil _ left
  have positive : lowest ≠ 0 := by
    rintro rfl
    exact UInt64.not_lt_zero (below next nextLeft)
  have before : ∀ index : UInt64, index ≤ lowest - 1 ↔ index < lowest :=
    fun _ => Word.le_pred_iff positive
  refine ⟨positive, ?_⟩
  have lowestIn := (mem_descent.mp (List.mem_of_mem_take inside)).2
  calc
    archive.descent (lowest - 1) =
        (archive.descent last).filter (· ≤ lowest - 1) := by
      unfold descent
      rw [List.filter_filter]
      refine List.filter_congr fun index _ => ?_
      have through : index ≤ lowest - 1 → index ≤ last := fun bound =>
        UInt64.le_trans (UInt64.le_of_lt ((before index).mp bound)) lowestIn
      simpa using through
    _ = (archive.descent last).drop count := by
      refine filter_eq_drop (fun index member bound => ?_) fun index member => ?_
      · exact UInt64.not_le.mpr ((before index).mp bound) (least index member)
      · exact (before index).mpr (below index member)

def pageCount (archive : Archive) (limit : UInt32) : Nat :=
  (archive.size + limit.toNat - 1) / limit.toNat

theorem pageCount_pos {limit : UInt32} (positive : 0 < limit.toNat)
    (some : archive.indices ≠ []) : 0 < archive.pageCount limit := by
  have kept : 0 < archive.size := List.length_pos_iff.mpr some
  exact Nat.div_pos (by omega) positive

theorem pageCount_eq {limit : UInt32} {full : Nat}
    (short : full * limit.toNat < archive.size)
    (enough : archive.size ≤ (full + 1) * limit.toNat) :
    archive.pageCount limit = full + 1 := by
  have positive : 0 < limit.toNat := by
    cases Nat.eq_zero_or_pos limit.toNat with
    | inl zero =>
        rw [zero] at enough short
        omega
    | inr positive => exact positive
  unfold pageCount
  rw [Nat.div_eq_iff positive]
  rw [Nat.add_mul] at enough ⊢
  omega

end Archive

namespace Restoring

open RestoreMachine

variable {counts : Counts} {archive : Archive} {size : UInt32} {walk : Walk}

structure Approaching (counts : Counts) (size : UInt32) (walk : Walk) : Prop where
  phase : walk.machine.phase = .restoringContacts
  pageSize : walk.machine.messagesPageSize = size
  restored : walk.machine.progress.messagesRestored = 0
  counted : walk.machine.awaitingCounts = false →
    walk.machine.progress.messagesTotal = counts.messagesTotal ∧
      walk.machine.newestIndex = counts.newestIndex ∧
        walk.machine.messagesCursor = counts.newestIndex
  asked : ∀ last limit, .fetchMessages last limit true ∉ walk.asked
  unfinished : .finished ∉ walk.told
  pages : walk.pages = []

/-- On the way down: the full pages so far and what lies at or below the cursor are all
that the server keeps. -/
structure Descending (archive : Archive) (size : UInt32) (walk : Walk)
    (cursor : UInt64) : Prop where
  phase : walk.machine.phase = .restoringMessages
  pageSize : walk.machine.messagesPageSize = size
  total : walk.machine.progress.messagesTotal.toNat = archive.size
  reached : walk.machine.messagesCursor = cursor
  restored : walk.machine.progress.messagesRestored.toNat = walk.pages.flatten.length
  full : walk.pages.flatten.length = walk.pages.length * size.toNat
  asked : ∀ last limit, .fetchMessages last limit true ∈ walk.asked ↔
    last = cursor ∧ limit = size
  unfinished : .finished ∉ walk.told
  split : (walk.pages.flatten ++ archive.descent cursor).Perm archive.indices
  left : archive.descent cursor ≠ []

structure Arrived (archive : Archive) (size : UInt32) (walk : Walk) : Prop where
  phase : walk.machine.phase = .finished
  asked : ∀ last limit, .fetchMessages last limit true ∉ walk.asked
  finished : walk.told.count .finished = 1
  pages : walk.pages.length = archive.pageCount size
  exact : walk.pages.flatten.Perm archive.indices

theorem Descending.size_eq {cursor : UInt64} (way : Descending archive size walk cursor) :
    archive.size = walk.pages.length * size.toNat + (archive.descent cursor).length := by
  have lengths := way.split.length_eq
  rw [List.length_append, way.full] at lengths
  exact lengths.symm

theorem messagesTotal_toNat (truthful : counts.Truthful archive) :
    counts.messagesTotal.toNat = archive.size := by
  have total := truthful.total
  unfold Counts.messagesTotal
  cases same : counts.total with
  | none => simp [same] at total
  | some word => simpa [same] using total

theorem newestIndex_eq (truthful : counts.Truthful archive) {highest : UInt64}
    (top : archive.highest? = some highest) : counts.newestIndex = highest := by
  simp [Counts.newestIndex, truthful.highest, top]

theorem Approaching.descend (nonempty : archive.indices ≠ [])
    (truthful : counts.Truthful archive) {machine : RestoreMachine}
    (pageSize : machine.messagesPageSize = size)
    (restored : machine.progress.messagesRestored = 0)
    (total : machine.progress.messagesTotal = counts.messagesTotal)
    (newest : machine.newestIndex = counts.newestIndex)
    (cursor : machine.messagesCursor = counts.newestIndex)
    (unfinished : .finished ∉ walk.told) (pages : walk.pages = []) :
    Descending archive size (walk.go machine.completeContacts) counts.newestIndex := by
  have kept : 0 < archive.size := List.length_pos_iff.mpr nonempty
  have counted := messagesTotal_toNat truthful
  have left : machine.progress.messagesTotal ≠ 0 := by
    intro zero
    rw [← total, zero] at counted
    exact absurd counted (Nat.ne_of_lt kept)
  obtain ⟨top, highest⟩ : ∃ top, archive.highest? = some top :=
    ⟨_, List.getLast?_eq_some_getLast nonempty⟩
  have start := newestIndex_eq truthful highest
  have whole : archive.descent counts.newestIndex = archive.indices.reverse := by
    rw [start]
    exact Archive.descent_highest highest
  obtain ⟨contactsRestored, contactsHighestIndex, emitted, same⟩ :=
    completeContacts_machine machine left
  have asks := completeContacts_asksFor machine left
  constructor
  case phase => simp [Walk.go, same]
  case pageSize => simpa [Walk.go, same] using pageSize
  case total => simpa [Walk.go, same, total] using counted
  case reached => simpa [Walk.go, same] using cursor
  case restored => simp [Walk.go, same, restored, pages]
  case full => simp [Walk.go, pages]
  case asked =>
    intro last limit
    rw [Walk.mem_asked_go asks (by simp)]
    simp [fetchBackward, newest, pageSize]
  case unfinished =>
    exact Walk.finished_not_mem_go asks (by simp [fetchBackward]) unfinished
  case split => simp [Walk.go, pages, whole, List.reverse_perm]
  case left => simpa [whole] using nonempty

theorem Approaching.onCounts (nonempty : archive.indices ≠ [])
    (truthful : counts.Truthful archive) (way : Approaching counts size walk) :
    Approaching counts size (walk.go (walk.machine.onCounts counts)) ∨
      ∃ cursor,
        Descending archive size (walk.go (walk.machine.onCounts counts)) cursor := by
  by_cases awaits : walk.machine.awaitingCounts = true
  · let machine : RestoreMachine := { walk.machine with
      awaitingCounts := false
      progress := { walk.machine.progress with
        contactsTotal := counts.contactsTotal
        messagesTotal := counts.messagesTotal }
      newestIndex := counts.newestIndex
      messagesCursor := counts.newestIndex }
    have step : walk.machine.onCounts counts =
        if counts.contactsTotal = 0 then machine.completeContacts
        else (machine, [machine.fetchContactsAt 0]) := by
      simp [RestoreMachine.onCounts, way.phase, awaits, machine]
    rw [step]
    split
    · exact Or.inr ⟨_, Approaching.descend nonempty truthful way.pageSize way.restored rfl
        rfl rfl way.unfinished way.pages⟩
    · refine Or.inl ⟨way.phase, way.pageSize, way.restored, fun _ => ⟨rfl, rfl, rfl⟩,
        ?_, ?_, way.pages⟩
      · simp [Walk.go, fetchContactsAt]
      · simpa [Walk.go, fetchContactsAt] using way.unfinished
  · rw [Walk.go_onCounts_late fun waits => awaits waits.2]
    exact Or.inl way

theorem Approaching.onBatch (nonempty : archive.indices ≠ [])
    (truthful : counts.Truthful archive) (way : Approaching counts size walk)
    {messages : List Message} {topic : String} (batch : Topic.isBatch topic = true) :
    Approaching counts size (walk.go (walk.machine.onBatch messages topic)) ∨
      ∃ cursor, Descending archive size (walk.go (walk.machine.onBatch messages topic))
        cursor := by
  cases awaits : walk.machine.awaitingCounts with
  | true =>
      have step : walk.machine.onBatch messages topic = (walk.machine, []) := by
        simp [RestoreMachine.onBatch, batch, way.phase, awaits]
      rw [step, Walk.go_nothing]
      exact Or.inl way
  | false =>
      obtain ⟨total, newest, cursor⟩ := way.counted awaits
      rw [onBatch_restoringContacts way.phase awaits messages batch]
      cases Message.highestIndex? messages with
      | none =>
          exact Or.inr ⟨_, Approaching.descend nonempty truthful way.pageSize way.restored
            total newest cursor way.unfinished way.pages⟩
      | some highest =>
          by_cases reached : walk.machine.progress.contactsTotal ≤ highest
          · rw [onContactsPage_reaching reached]
            exact Or.inr ⟨_, Approaching.descend nonempty truthful way.pageSize way.restored
              total newest cursor way.unfinished way.pages⟩
          · obtain ⟨asks, emitted, same⟩ :=
              onContactsPage_below reached (Word.ofCount messages.length)
            refine Or.inl ?_
            constructor
            case phase => simpa [Walk.go, same, recording] using way.phase
            case pageSize => simpa [Walk.go, same, recording] using way.pageSize
            case restored => simpa [Walk.go, same, recording] using way.restored
            case counted =>
              simpa [Walk.go, same, recording] using fun _ => ⟨total, newest, cursor⟩
            case asked =>
              intro last limit
              rw [Walk.mem_asked_go asks (by simp)]
              simp [fetchContactsAt]
            case unfinished =>
              exact Walk.finished_not_mem_go asks (by simp [fetchContactsAt]) way.unfinished
            case pages => exact way.pages

def counting (machine : RestoreMachine) (messages : List Message) : RestoreMachine :=
  { machine with
    progress := { machine.progress with
      messagesRestored := Word.saturatingAdd machine.progress.messagesRestored
        (Word.ofCount messages.length) } }

@[simp] theorem counting_phase (machine : RestoreMachine) (messages : List Message) :
    (counting machine messages).phase = machine.phase := rfl

@[simp] theorem counting_pageSize (machine : RestoreMachine) (messages : List Message) :
    (counting machine messages).messagesPageSize = machine.messagesPageSize := rfl

@[simp] theorem counting_total (machine : RestoreMachine) (messages : List Message) :
    (counting machine messages).progress.messagesTotal =
      machine.progress.messagesTotal := rfl

theorem onBatch_restoringMessages {machine : RestoreMachine}
    (phase : machine.phase = .restoringMessages) {messages : List Message} {topic : String}
    {lowest : UInt64} (batch : Topic.isBatch topic = true)
    (least : Message.lowestIndex? messages = some lowest) :
    machine.onBatch messages topic =
      if machine.progress.messagesTotal ≤ (counting machine messages).progress.messagesRestored ∨
          lowest = 0
      then (counting machine messages).finish
      else
        { counting machine messages with messagesCursor := lowest - 1 }.continueWith
          (machine.fetchBackward (lowest - 1)) := by
  have entry : machine.onBatch messages topic =
      machine.onMessagesPage (Word.ofCount messages.length) (some lowest) := by
    simp [RestoreMachine.onBatch, batch, phase, least]
  rw [entry]
  rfl

theorem onBatch_descending {machine : RestoreMachine}
    (phase : machine.phase = .restoringMessages) {messages : List Message} {topic : String}
    {lowest : UInt64} (batch : Topic.isBatch topic = true)
    (least : Message.lowestIndex? messages = some lowest)
    (unfinished : ¬(machine.progress.messagesTotal ≤
      (counting machine messages).progress.messagesRestored ∨ lowest = 0)) :
    AsksFor (machine.onBatch messages topic).2 (machine.fetchBackward (lowest - 1)) ∧
      ∃ emitted, (machine.onBatch messages topic).1 =
        { counting machine messages with messagesCursor := lowest - 1, emitted } := by
  rw [onBatch_restoringMessages phase batch least, if_neg unfinished]
  exact ⟨continueWith_asksFor _ _, continueWith_machine _ _⟩

theorem lowest_of_holds {messages : List Message} {indices : List UInt64}
    (holds : Message.Holds messages indices) (nonempty : indices ≠ []) :
    ∃ lowest, Message.lowestIndex? messages = some lowest ∧ lowest ∈ indices ∧
      ∀ index ∈ indices, lowest ≤ index := by
  have same : ∀ {index}, index ∈ Message.indexValues messages ↔ index ∈ indices :=
    holds.indexValues_perm.mem_iff
  cases least : Message.lowestIndex? messages with
  | none =>
      have blank := holds.indexValues_perm
      rw [Message.lowestIndex?_eq_none.mp least] at blank
      exact absurd blank.nil_eq.symm nonempty
  | some lowest =>
      obtain ⟨member, below⟩ := Message.lowestIndex?_eq_some.mp least
      exact ⟨lowest, rfl, same.mp member, fun index inside => below index (same.mpr inside)⟩

theorem Descending.counting_toNat {cursor : UInt64}
    (way : Descending archive size walk cursor) {messages : List Message}
    (holds : Message.Holds messages (archive.downward cursor size)) :
    (counting walk.machine messages).progress.messagesRestored.toNat =
      walk.pages.flatten.length + (archive.downward cursor size).length := by
  have within : (archive.downward cursor size).length ≤ (archive.descent cursor).length :=
    List.length_take_le' _ _
  have total := way.split.length_eq
  have bound := walk.machine.progress.messagesTotal.toNat_lt
  have count : (Word.ofCount messages.length).toNat =
      (archive.downward cursor size).length := by
    rw [Word.toNat_ofCount, Word.toNat_largest, holds.length_eq]
    rw [way.total, Archive.size, ← total, List.length_append] at bound
    omega
  show (Word.saturatingAdd _ _).toNat = _
  rw [Word.toNat_saturatingAdd, Word.toNat_largest, way.restored, count]
  rw [way.total, Archive.size, ← total, List.length_append] at bound
  omega

theorem Descending.downward_ne_nil {cursor : UInt64} (positive : 0 < size.toNat)
    (way : Descending archive size walk cursor) : archive.downward cursor size ≠ [] := by
  intro empty
  exact way.left ((List.take_eq_nil_iff.mp empty).resolve_left (by omega))

/-- A page that leaves something is full, and the next one starts right below it. -/
theorem Descending.turn {cursor : UInt64} (positive : 0 < size.toNat)
    (way : Descending archive size walk cursor) {messages : List Message} {topic : String}
    (batch : Topic.isBatch topic = true)
    (holds : Message.Holds messages (archive.downward cursor size))
    (more : size.toNat < (archive.descent cursor).length) :
    ∃ next, Descending archive size (walk.read messages topic) next := by
  obtain ⟨lowest, least, inside, below⟩ := lowest_of_holds holds (way.downward_ne_nil positive)
  have left : (archive.descent cursor).drop size.toNat ≠ [] := by
    intro empty
    have short := List.drop_eq_nil_iff.mp empty
    omega
  obtain ⟨apart, rest⟩ := Archive.descent_below inside below left
  have pageFull : (archive.downward cursor size).length = size.toNat :=
    List.length_take_of_le (Nat.le_of_lt more)
  have counted := way.counting_toNat holds
  have unfinished : ¬(walk.machine.progress.messagesTotal ≤
      (counting walk.machine messages).progress.messagesRestored ∨ lowest = 0) := by
    rintro (done | zero)
    · rw [UInt64.le_iff_toNat_le, counted, way.total, way.size_eq, way.full,
        pageFull] at done
      omega
    · exact apart zero
  obtain ⟨asks, emitted, same⟩ := onBatch_descending way.phase batch least unfinished
  have perm := holds.indexValues_perm
  have pages : (walk.read messages topic).pages.flatten =
      walk.pages.flatten ++ Message.indexValues messages := by
    simp [Walk.read, Walk.go]
  refine ⟨lowest - 1, ?_⟩
  constructor
  case phase => simpa [Walk.read, Walk.go, same] using way.phase
  case pageSize => simpa [Walk.read, Walk.go, same] using way.pageSize
  case total => simpa [Walk.read, Walk.go, same] using way.total
  case reached => simp [Walk.read, Walk.go, same]
  case restored =>
    rw [pages, List.length_append, perm.length_eq]
    simpa [Walk.read, Walk.go, same] using counted
  case full =>
    rw [pages, List.length_append, perm.length_eq, pageFull, way.full]
    simp [Walk.read, Walk.go, Nat.succ_mul]
  case asked =>
    intro last limit
    refine (Walk.mem_asked_go asks (by simp)).trans ?_
    simp [fetchBackward, way.pageSize]
  case unfinished =>
    exact Walk.finished_not_mem_go asks (by simp [fetchBackward]) way.unfinished
  case split =>
    rw [pages, rest, List.append_assoc]
    refine List.Perm.trans (List.Perm.append_left _ (perm.append_right _)) ?_
    rw [Archive.downward, List.take_append_drop]
    exact way.split
  case left => rwa [rest]

theorem Descending.arrive {cursor : UInt64} (positive : 0 < size.toNat)
    (way : Descending archive size walk cursor) {messages : List Message} {topic : String}
    (batch : Topic.isBatch topic = true)
    (holds : Message.Holds messages (archive.downward cursor size))
    (last : (archive.descent cursor).length ≤ size.toNat) :
    Arrived archive size (walk.read messages topic) := by
  obtain ⟨lowest, least, -, -⟩ := lowest_of_holds holds (way.downward_ne_nil positive)
  have whole : archive.downward cursor size = archive.descent cursor :=
    List.take_of_length_le last
  have finished : walk.machine.progress.messagesTotal ≤
      (counting walk.machine messages).progress.messagesRestored := by
    apply UInt64.le_iff_toNat_le.mpr
    apply Nat.le_of_eq
    rw [way.counting_toNat holds, way.total, way.size_eq, way.full, whole]
  have step := onBatch_restoringMessages way.phase batch least
  rw [if_pos (Or.inl finished)] at step
  have some : 0 < (archive.descent cursor).length := List.length_pos_iff.mpr way.left
  constructor
  case phase => simp [Walk.read, Walk.go, step, finish]
  case asked => simp [Walk.read, Walk.go, step, finish, catchUp]
  case finished =>
    have before : walk.told.count .finished = 0 := List.count_eq_zero.mpr way.unfinished
    simp [Walk.read, Walk.go, step, finish, catchUp, before]
  case pages =>
    have pages : archive.pageCount size = walk.pages.length + 1 := by
      apply Archive.pageCount_eq
      · rw [way.size_eq]
        omega
      · rw [way.size_eq, Nat.succ_mul]
        omega
    simp [Walk.read, Walk.go, pages]
  case exact =>
    have perm := holds.indexValues_perm
    rw [whole] at perm
    have pages : (walk.read messages topic).pages.flatten =
        walk.pages.flatten ++ Message.indexValues messages := by
      simp [Walk.read, Walk.go]
    rw [pages]
    exact (perm.append_left _).trans way.split

theorem Approaching.hear (way : Approaching counts size walk) (messages : List Message)
    {topic : String} (live : Topic.isBatch topic = false) :
    Approaching counts size (walk.hear messages topic) := by
  obtain ⟨_, heard⟩ := walk.exists_hear_eq messages live
  rw [heard]
  exact ⟨way.phase, way.pageSize, way.restored, way.counted, way.asked, way.unfinished,
    way.pages⟩

theorem Descending.hear {cursor : UInt64} (way : Descending archive size walk cursor)
    (messages : List Message) {topic : String} (live : Topic.isBatch topic = false) :
    Descending archive size (walk.hear messages topic) cursor := by
  obtain ⟨_, heard⟩ := walk.exists_hear_eq messages live
  rw [heard]
  exact ⟨way.phase, way.pageSize, way.total, way.reached, way.restored, way.full, way.asked,
    way.unfinished, way.split, way.left⟩

theorem Arrived.hear (done : Arrived archive size walk) (messages : List Message)
    {topic : String} (live : Topic.isBatch topic = false) :
    Arrived archive size (walk.hear messages topic) := by
  obtain ⟨_, heard⟩ := walk.exists_hear_eq messages live
  rw [heard]
  exact ⟨done.phase, done.asked, done.finished, done.pages, done.exact⟩

theorem Approaching.lost (way : Approaching counts size walk) :
    Approaching counts size (walk.go (walk.machine, walk.machine.resume)) := by
  refine ⟨way.phase, way.pageSize, way.restored, way.counted, ?_, ?_, way.pages⟩
  · intro last limit
    cases awaits : walk.machine.awaitingCounts <;>
      simp [Walk.go, resume, way.phase, awaits, fetchContactsAt]
  · have unfinished := way.unfinished
    cases awaits : walk.machine.awaitingCounts <;>
      simp [Walk.go, resume, way.phase, awaits, fetchContactsAt, unfinished]

theorem Descending.lost {cursor : UInt64} (way : Descending archive size walk cursor) :
    Descending archive size (walk.go (walk.machine, walk.machine.resume)) cursor := by
  have again : walk.machine.resume = [.fetchMessages cursor size true] := by
    simp [resume, way.phase, fetchBackward, way.reached, way.pageSize]
  refine ⟨way.phase, way.pageSize, way.total, way.reached, way.restored, way.full,
    ?_, ?_, way.split, way.left⟩
  · simp [Walk.go, again]
  · simpa [Walk.go, again] using way.unfinished

theorem Arrived.lost (done : Arrived archive size walk) :
    Arrived archive size (walk.go (walk.machine, walk.machine.resume)) := by
  have silent : walk.machine.resume = [] := by simp [resume, done.phase]
  rw [silent, Walk.go_nothing]
  exact done

theorem cases_of_restoring (nonempty : archive.indices ≠ []) (positive : 0 < size)
    (truthful : counts.Truthful archive) (run : Restoring counts archive size walk) :
    Approaching counts size walk ∨
      (∃ cursor, Descending archive size walk cursor) ∨ Arrived archive size walk := by
  have pages : 0 < size.toNat := UInt32.lt_iff_toNat_lt.mp positive
  induction run with
  | begin pageSize =>
      refine Or.inl ⟨rfl, pageSize, rfl, ?_, ?_, ?_, rfl⟩
      · intro counted
        exact absurd counted (by simp [Walk.start, beginRestore])
      · simp [Walk.start, beginRestore]
      · simp [Walk.start, beginRestore]
  | counts _ induction =>
      rcases induction with way | ⟨cursor, way⟩ | done
      · exact (way.onCounts nonempty truthful).imp_right Or.inl
      · rw [Walk.go_onCounts_late (by simp [way.phase])]
        exact Or.inr (Or.inl ⟨cursor, way⟩)
      · rw [Walk.go_onCounts_late (by simp [done.phase])]
        exact Or.inr (Or.inr done)
  | lost _ induction =>
      rcases induction with way | ⟨cursor, way⟩ | done
      · exact Or.inl way.lost
      · exact Or.inr (Or.inl ⟨cursor, way.lost⟩)
      · exact Or.inr (Or.inr done.lost)
  | live _ live induction =>
      rcases induction with way | ⟨cursor, way⟩ | done
      · exact Or.inl (way.hear _ live)
      · exact Or.inr (Or.inl ⟨cursor, way.hear _ live⟩)
      · exact Or.inr (Or.inr (done.hear _ live))
  | contacts _ phase batch induction =>
      rcases induction with way | ⟨cursor, way⟩ | done
      · exact (way.onBatch nonempty truthful batch).imp_right Or.inl
      · exact absurd (phase.symm.trans way.phase) (by decide)
      · exact absurd (phase.symm.trans done.phase) (by decide)
  | @page walk last limit messages topic _ asked batch holds induction =>
      rcases induction with way | ⟨cursor, way⟩ | done
      · exact absurd asked (way.asked last limit)
      · obtain ⟨rfl, rfl⟩ := (way.asked last limit).mp asked
        by_cases more : limit.toNat < (archive.descent last).length
        · exact Or.inr (Or.inl (way.turn pages batch holds more))
        · exact Or.inr (Or.inr (way.arrive pages batch holds (Nat.not_lt.mp more)))
      · exact absurd asked (done.asked last limit)

/-- Before the last of the pages that hold all messages a restore goes on fetching; with
it, and only then, the restore finishes, once, and every index came on one page. -/
theorem finished_iff_all_pages (nonempty : archive.indices ≠ []) (positive : 0 < size)
    (truthful : counts.Truthful archive) (run : Restoring counts archive size walk) :
    walk.pages.length ≤ archive.pageCount size ∧
      (walk.machine.phase = .restoringMessages →
        walk.pages.length < archive.pageCount size ∧
          ∃ last, .fetchMessages last size true ∈ walk.asked) ∧
      walk.told.count .finished =
        (if walk.pages.length = archive.pageCount size then 1 else 0) ∧
      (walk.pages.length = archive.pageCount size →
        walk.pages.flatten.Perm archive.indices) := by
  have pages : 0 < size.toNat := UInt32.lt_iff_toNat_lt.mp positive
  rcases cases_of_restoring nonempty positive truthful run with
    way | ⟨cursor, way⟩ | done
  · have short : walk.pages.length < archive.pageCount size := by
      rw [way.pages]
      exact Archive.pageCount_pos pages nonempty
    refine ⟨Nat.le_of_lt short, ?_, ?_, fun all => absurd all (Nat.ne_of_lt short)⟩
    · intro phase
      exact absurd (phase.symm.trans way.phase) (by decide)
    · rw [if_neg (Nat.ne_of_lt short)]
      exact List.count_eq_zero.mpr way.unfinished
  · have some : 0 < (archive.descent cursor).length := List.length_pos_iff.mpr way.left
    have short : walk.pages.length < archive.pageCount size := by
      refine Nat.lt_of_succ_le ((Nat.le_div_iff_mul_le pages).mpr ?_)
      rw [way.size_eq, Nat.succ_mul]
      omega
    refine ⟨Nat.le_of_lt short, ?_, ?_, fun all => absurd all (Nat.ne_of_lt short)⟩
    · intro _
      exact ⟨short, cursor, (way.asked cursor size).mpr ⟨rfl, rfl⟩⟩
    · rw [if_neg (Nat.ne_of_lt short)]
      exact List.count_eq_zero.mpr way.unfinished
  · refine ⟨Nat.le_of_eq done.pages, ?_, ?_, fun _ => done.exact⟩
    · intro phase
      exact absurd (phase.symm.trans done.phase) (by decide)
    · rw [if_pos done.pages]
      exact done.finished

/-! Three messages far apart, the lowest under index 0, on pages of two. -/

def farApart : Archive where
  indices := [0, 5, 9]
  ascending := by decide

def farApartCounts : Counts where
  total := some 3
  okKey := none
  firstForEachScid := none
  totalHighestIndex := some 9
  okKeyHighestIndex := none
  firstForEachScidHighestIndex := none

def farApartWalk : Walk :=
  let walk := Walk.start (RestoreMachine.new 100 2).beginRestore
  let walk := walk.go (walk.machine.onCounts farApartCounts)
  let walk := walk.hear [Message.numbered 12] "x/stream"
  let walk := walk.go (walk.machine, walk.machine.resume)
  let walk := walk.read [Message.numbered 9, Message.numbered 5] "x/batch"
  walk.read [Message.numbered 0] "x/batch"

theorem restoring_farApartWalk : Restoring farApartCounts farApart 2 farApartWalk := by
  have begun : Restoring farApartCounts farApart 2 _ :=
    .begin (show (RestoreMachine.new 100 2).messagesPageSize = 2 from rfl)
  have heard := @live _ _ _ _ [Message.numbered 12] "x/stream" begun.counts (by decide)
  have first := @page _ _ _ _ 9 2 _ "x/batch" heard.lost (by decide) (by decide)
    (Message.holds_numbered [9, 5])
  exact @page _ _ _ _ 4 2 _ "x/batch" first (by decide) (by decide)
    (Message.holds_numbered [0])

theorem finished_farApartWalk :
    farApart.indices ≠ [] ∧ (0 : UInt32) < 2 ∧ farApartCounts.Truthful farApart ∧
      farApartWalk.told.count .finished = 1 ∧
      farApartWalk.pages.flatten.Perm farApart.indices := by
  have truthful : farApartCounts.Truthful farApart := ⟨by decide, by decide⟩
  obtain ⟨-, -, finished, all⟩ := finished_iff_all_pages (by decide) (by decide) truthful
    restoring_farApartWalk
  exact ⟨by decide, by decide, truthful, finished, all (by decide)⟩

end Restoring

end Messenger

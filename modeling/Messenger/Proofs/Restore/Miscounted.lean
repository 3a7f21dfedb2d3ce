import Messenger.Proofs.Restore.MessagesPhase

/-!
A restore whose counts may be wrong. Its cursors alone bound it: a page of contacts ends the
contacts or moves their cursor up, not beyond the total, and a page of messages ends the
restore or moves its cursor down from the newest index.
-/

namespace Messenger

namespace RestoreAction

def contactsStart? : RestoreAction → Option UInt64
  | .fetchContacts first _ => some first
  | _ => none

def backwardStart? : RestoreAction → Option UInt64
  | .fetchMessages last _ true => some last
  | _ => none

/-- No index lies before the start of a fetch. -/
def Admits (indices : List UInt64) (action : RestoreAction) : Prop :=
  (∀ first ∈ action.contactsStart?, ∀ index ∈ indices, first ≤ index) ∧
    ∀ last ∈ action.backwardStart?, ∀ index ∈ indices, index ≤ last

instance (indices : List UInt64) (action : RestoreAction) :
    Decidable (action.Admits indices) :=
  decidable_of_iff ((action.contactsStart?.all fun first => indices.all (first ≤ ·)) = true ∧
      (action.backwardStart?.all fun last => indices.all (· ≤ last)) = true) <| by
    simp [Admits, Option.all_eq_true]

end RestoreAction

namespace Walk

def contactsStarts (walk : Walk) : List UInt64 :=
  walk.told.filterMap RestoreAction.contactsStart?

def backwardStarts (walk : Walk) : List UInt64 :=
  walk.told.filterMap RestoreAction.backwardStart?

theorem filterMap_told_go {walk : Walk} {step : RestoreMachine × List RestoreAction}
    {fetch : RestoreAction} {start? : RestoreAction → Option UInt64}
    (asks : RestoreMachine.AsksFor step.2 fetch)
    (silent : ∀ percent, start? (.progress percent) = none) :
    (walk.go step).told.filterMap start? =
      walk.told.filterMap start? ++ (start? fetch).toList := by
  obtain ⟨reports, told, progress⟩ := asks
  have none : reports.filterMap start? = [] := by
    refine List.filterMap_eq_nil_iff.mpr fun action member => ?_
    obtain ⟨percent, rfl⟩ := progress action member
    exact silent percent
  have last : [fetch].filterMap start? = (start? fetch).toList := by
    cases same : start? fetch <;> simp [same]
  have after : (walk.go step).told = walk.told ++ (reports ++ [fetch]) := by rw [go, told]
  rw [after, List.filterMap_append, List.filterMap_append, none, List.nil_append, last]

end Walk

/-- Further pages, which may hold anything that the fetch admits that waits for them. -/
inductive Paging (walk : Walk) : Walk → Prop
  | start : Paging walk walk
  | live {later : Walk} {messages : List Message} {topic : String} :
      Paging walk later → Topic.isBatch topic = false →
      Paging walk (later.hear messages topic)
  | page {later : Walk} {messages : List Message} {topic : String} :
      Paging walk later → Topic.isBatch topic = true →
      (∀ action ∈ later.asked, action.Admits (Message.indexValues messages)) →
      Paging walk (later.read messages topic)

namespace Paging

open RestoreMachine
open Restoring (counting onBatch_descending onBatch_restoringMessages)

variable {counts : Counts} {walk : Walk}

def counted (machine : RestoreMachine) (counts : Counts) : Walk :=
  (Walk.start machine.beginRestore).go (machine.beginRestore.1.onCounts counts)

structure Upward (counts : Counts) (walk : Walk) (first : UInt64) : Prop where
  phase : walk.machine.phase = .restoringContacts
  counted : walk.machine.awaitingCounts = false
  total : walk.machine.progress.contactsTotal = counts.contactsTotal
  newest : walk.machine.newestIndex = counts.newestIndex
  asked : ∃ limit, .fetchContacts first limit ∈ walk.asked
  within : first ≤ counts.contactsTotal
  climbed : walk.pages.length ≤ first.toNat
  rising : walk.contactsStarts.Pairwise (· < ·)
  reached : ∀ start ∈ walk.contactsStarts, start ≤ first
  silent : walk.backwardStarts = []

structure Downward (counts : Counts) (walk : Walk) (last : UInt64) : Prop where
  phase : walk.machine.phase = .restoringMessages
  asked : ∃ limit, .fetchMessages last limit true ∈ walk.asked
  within : last ≤ counts.newestIndex
  rising : walk.contactsStarts.Pairwise (· < ·)
  falling : walk.backwardStarts.Pairwise (· > ·)
  reached : ∀ start ∈ walk.backwardStarts, last ≤ start

structure Over (walk : Walk) : Prop where
  phase : walk.machine.phase = .finished
  rising : walk.contactsStarts.Pairwise (· < ·)
  falling : walk.backwardStarts.Pairwise (· > ·)

theorem over_finish (machine : RestoreMachine) (pages : List (List UInt64))
    (rising : walk.contactsStarts.Pairwise (· < ·))
    (falling : walk.backwardStarts.Pairwise (· > ·)) :
    Over { walk.go machine.finish with pages } := by
  have told : (walk.go machine.finish).told =
      walk.told ++ .progress 100 :: .finished :: catchUp := rfl
  have contactsStarts : (walk.go machine.finish).contactsStarts = walk.contactsStarts := by
    rw [Walk.contactsStarts, told, List.filterMap_append]
    exact List.append_nil _
  have backwardStarts : (walk.go machine.finish).backwardStarts = walk.backwardStarts := by
    rw [Walk.backwardStarts, told, List.filterMap_append]
    exact List.append_nil _
  exact ⟨rfl, contactsStarts.symm ▸ rising, backwardStarts.symm ▸ falling⟩

theorem leave {machine : RestoreMachine} (newest : machine.newestIndex = counts.newestIndex)
    (pages : List (List UInt64)) (rising : walk.contactsStarts.Pairwise (· < ·))
    (silent : walk.backwardStarts = []) :
    Downward counts { walk.go machine.completeContacts with pages } counts.newestIndex ∨
      Over { walk.go machine.completeContacts with pages } := by
  by_cases none : machine.progress.messagesTotal = 0
  · obtain ⟨last, same⟩ := completeContacts_finish machine none
    rw [same]
    exact Or.inr (over_finish last pages rising (by simp [silent]))
  · obtain ⟨_, _, _, same⟩ := completeContacts_machine machine none
    have asks := completeContacts_asksFor machine none
    rw [newest] at asks
    have contactsStarts : (walk.go machine.completeContacts).contactsStarts =
        walk.contactsStarts :=
      (Walk.filterMap_told_go asks fun _ => rfl).trans (List.append_nil _)
    have backwardStarts : (walk.go machine.completeContacts).backwardStarts =
        [counts.newestIndex] := by
      refine (Walk.filterMap_told_go asks fun _ => rfl).trans ?_
      rw [show walk.told.filterMap _ = [] from silent]
      rfl
    refine Or.inl ?_
    constructor
    case phase => simp [Walk.go, same]
    case asked => exact ⟨_, (Walk.mem_asked_go asks (by simp)).mpr rfl⟩
    case within => exact UInt64.le_refl _
    case rising => exact contactsStarts.symm ▸ rising
    case falling => exact backwardStarts.symm ▸ List.pairwise_singleton _ _
    case reached =>
      intro start member
      have inside : start ∈ [counts.newestIndex] := backwardStarts ▸ member
      exact UInt64.le_of_eq (List.mem_singleton.mp inside).symm

theorem upward_or_left (machine : RestoreMachine) (counts : Counts) :
    Upward counts (counted machine counts) 0 ∨
      Downward counts (counted machine counts) counts.newestIndex ∨
        Over (counted machine counts) := by
  let asking : RestoreMachine := { machine.beginRestore.1 with
    awaitingCounts := false
    progress := { machine.beginRestore.1.progress with
      contactsTotal := counts.contactsTotal
      messagesTotal := counts.messagesTotal }
    newestIndex := counts.newestIndex
    messagesCursor := counts.newestIndex }
  have step : machine.beginRestore.1.onCounts counts =
      if counts.contactsTotal = 0 then asking.completeContacts
      else (asking, [asking.fetchContactsAt 0]) := rfl
  rw [counted, step]
  split
  · exact Or.inr (leave rfl [] .nil rfl)
  · refine Or.inl ⟨rfl, rfl, rfl, rfl, ⟨_, List.mem_singleton_self _⟩, UInt64.zero_le,
      Nat.zero_le _, ?_, ?_, rfl⟩
    · exact List.pairwise_singleton _ _
    · exact List.forall_mem_singleton.mpr (UInt64.le_refl _)

/-- The next fetch of contacts starts above the page, and not above the total. -/
theorem Upward.climb {first top : UInt64} (way : Upward counts walk first)
    {messages : List Message} {topic : String} (batch : Topic.isBatch topic = true)
    (admitted : ∀ action ∈ walk.asked, action.Admits (Message.indexValues messages))
    (highest : Message.highestIndex? messages = some top)
    (unreached : ¬walk.machine.progress.contactsTotal ≤ top) :
    Upward counts (walk.read messages topic) (Word.next top) := by
  obtain ⟨asks, emitted, same⟩ :=
    onContactsPage_below unreached (Word.ofCount messages.length)
  rw [← highest, ← onBatch_restoringContacts way.phase way.counted messages batch]
    at asks same
  obtain ⟨limit, asked⟩ := way.asked
  have inside := (Message.highestIndex?_eq_some.mp highest).1
  have above : first ≤ top := (admitted _ asked).1 first rfl top inside
  have less : top < counts.contactsTotal := way.total ▸ UInt64.not_le.mp unreached
  have below := UInt64.lt_of_lt_of_le less (Word.le_largest _)
  have onward : first < Word.next top :=
    UInt64.lt_of_le_of_lt above ((Word.next_le_iff below).mp (UInt64.le_refl _))
  have contactsStarts : (walk.read messages topic).contactsStarts =
      walk.contactsStarts ++ [Word.next top] :=
    Walk.filterMap_told_go asks fun _ => rfl
  have backwardStarts : (walk.read messages topic).backwardStarts = walk.backwardStarts :=
    (Walk.filterMap_told_go asks fun _ => rfl).trans (List.append_nil _)
  have before (start : UInt64) (member : start ∈ walk.contactsStarts) :
      start < Word.next top :=
    UInt64.lt_of_le_of_lt (way.reached start member) onward
  constructor
  case phase => simpa [Walk.read, Walk.go, same, recording] using way.phase
  case counted => simpa [Walk.read, Walk.go, same, recording] using way.counted
  case total => simpa [Walk.read, Walk.go, same, recording] using way.total
  case newest => simpa [Walk.read, Walk.go, same, recording] using way.newest
  case asked => exact ⟨_, (Walk.mem_asked_go asks (by simp)).mpr rfl⟩
  case within => exact (Word.next_le_iff below).mpr less
  case climbed =>
    have climbed := way.climbed
    have further := UInt64.lt_iff_toNat_lt.mp onward
    simp only [Walk.read, List.length_append, List.length_singleton, Walk.go]
    omega
  case rising =>
    rw [contactsStarts, List.pairwise_append]
    exact ⟨way.rising, List.pairwise_singleton _ _, fun start member =>
      List.forall_mem_singleton.mpr (before start member)⟩
  case reached =>
    rw [contactsStarts, List.forall_mem_append, List.forall_mem_singleton]
    exact ⟨fun start member => UInt64.le_of_lt (before start member), UInt64.le_refl _⟩
  case silent => exact backwardStarts.trans way.silent

theorem Upward.onPage {first : UInt64} (way : Upward counts walk first)
    {messages : List Message} {topic : String} (batch : Topic.isBatch topic = true)
    (admitted : ∀ action ∈ walk.asked, action.Admits (Message.indexValues messages)) :
    (∃ next, Upward counts (walk.read messages topic) next) ∨
      Downward counts (walk.read messages topic) counts.newestIndex ∨
        Over (walk.read messages topic) := by
  have step := onBatch_restoringContacts way.phase way.counted messages batch
  have left (machine : RestoreMachine) (newest : machine.newestIndex = counts.newestIndex)
      (complete : walk.machine.onBatch messages topic = machine.completeContacts) :
      Downward counts (walk.read messages topic) counts.newestIndex ∨
        Over (walk.read messages topic) := by
    rw [Walk.read, complete]
    exact leave newest _ way.rising way.silent
  cases highest : Message.highestIndex? messages with
  | none =>
      rw [highest] at step
      exact Or.inr (left walk.machine way.newest step)
  | some top =>
      by_cases reached : walk.machine.progress.contactsTotal ≤ top
      · rw [highest, onContactsPage_reaching reached] at step
        exact Or.inr (left (walk.machine.recording _ top) way.newest step)
      · exact Or.inl ⟨_, way.climb batch admitted highest reached⟩

/-- The next fetch of messages starts below the page. -/
theorem Downward.sink {last bottom : UInt64} (way : Downward counts walk last)
    {messages : List Message} {topic : String} (batch : Topic.isBatch topic = true)
    (admitted : ∀ action ∈ walk.asked, action.Admits (Message.indexValues messages))
    (lowest : Message.lowestIndex? messages = some bottom)
    (unfinished : ¬(walk.machine.progress.messagesTotal ≤
      (counting walk.machine messages).progress.messagesRestored ∨ bottom = 0)) :
    bottom - 1 < last ∧ Downward counts (walk.read messages topic) (bottom - 1) := by
  obtain ⟨asks, emitted, same⟩ := onBatch_descending way.phase batch lowest unfinished
  obtain ⟨limit, asked⟩ := way.asked
  have inside := (Message.lowestIndex?_eq_some.mp lowest).1
  have under : bottom ≤ last := (admitted _ asked).2 last rfl bottom inside
  have nonzero : bottom ≠ 0 := fun zero => unfinished (Or.inr zero)
  have onward : bottom - 1 < last :=
    UInt64.lt_of_lt_of_le ((Word.le_pred_iff nonzero).mp (UInt64.le_refl _)) under
  have contactsStarts : (walk.read messages topic).contactsStarts = walk.contactsStarts :=
    (Walk.filterMap_told_go asks fun _ => rfl).trans (List.append_nil _)
  have backwardStarts : (walk.read messages topic).backwardStarts =
      walk.backwardStarts ++ [bottom - 1] :=
    Walk.filterMap_told_go asks fun _ => rfl
  have before (start : UInt64) (member : start ∈ walk.backwardStarts) : bottom - 1 < start :=
    UInt64.lt_of_lt_of_le onward (way.reached start member)
  refine ⟨onward, ?_⟩
  constructor
  case phase => simpa [Walk.read, Walk.go, same] using way.phase
  case asked => exact ⟨_, (Walk.mem_asked_go asks (by simp)).mpr rfl⟩
  case within => exact UInt64.le_trans (UInt64.le_of_lt onward) way.within
  case rising => exact contactsStarts.symm ▸ way.rising
  case falling =>
    rw [backwardStarts, List.pairwise_append]
    exact ⟨way.falling, List.pairwise_singleton _ _, fun start member =>
      List.forall_mem_singleton.mpr (before start member)⟩
  case reached =>
    rw [backwardStarts, List.forall_mem_append, List.forall_mem_singleton]
    exact ⟨fun start member => UInt64.le_of_lt (before start member), UInt64.le_refl _⟩

theorem Downward.onPage {last : UInt64} (way : Downward counts walk last)
    {messages : List Message} {topic : String} (batch : Topic.isBatch topic = true)
    (admitted : ∀ action ∈ walk.asked, action.Admits (Message.indexValues messages)) :
    (∃ next < last, Downward counts (walk.read messages topic) next) ∨
      Over (walk.read messages topic) := by
  have finished (machine : RestoreMachine)
      (finish : walk.machine.onBatch messages topic = machine.finish) :
      Over (walk.read messages topic) := by
    rw [Walk.read, finish]
    exact over_finish machine _ way.rising way.falling
  cases lowest : Message.lowestIndex? messages with
  | none =>
      refine Or.inr (finished walk.machine ?_)
      simp [onBatch, batch, way.phase, lowest, onMessagesPage]
  | some bottom =>
      by_cases done : walk.machine.progress.messagesTotal ≤
          (counting walk.machine messages).progress.messagesRestored ∨ bottom = 0
      · have step := onBatch_restoringMessages way.phase batch lowest
        rw [if_pos done] at step
        exact Or.inr (finished _ step)
      · exact Or.inl ⟨_, way.sink batch admitted lowest done⟩

theorem Over.onPage (ended : Over walk) {messages : List Message} {topic : String}
    (batch : Topic.isBatch topic = true) : Over (walk.read messages topic) := by
  rw [Walk.read, onBatch_late (Or.inl ended.phase) messages batch, Walk.go_nothing]
  exact ⟨ended.phase, ended.rising, ended.falling⟩

theorem Upward.hear {first : UInt64} (way : Upward counts walk first)
    (messages : List Message) {topic : String} (live : Topic.isBatch topic = false) :
    Upward counts (walk.hear messages topic) first := by
  obtain ⟨_, heard⟩ := walk.exists_hear_eq messages live
  rw [heard]
  exact ⟨way.phase, way.counted, way.total, way.newest, way.asked, way.within, way.climbed,
    way.rising, way.reached, way.silent⟩

theorem Downward.hear {last : UInt64} (way : Downward counts walk last)
    (messages : List Message) {topic : String} (live : Topic.isBatch topic = false) :
    Downward counts (walk.hear messages topic) last := by
  obtain ⟨_, heard⟩ := walk.exists_hear_eq messages live
  rw [heard]
  exact ⟨way.phase, way.asked, way.within, way.rising, way.falling, way.reached⟩

theorem Over.hear (ended : Over walk) (messages : List Message) {topic : String}
    (live : Topic.isBatch topic = false) : Over (walk.hear messages topic) := by
  obtain ⟨_, heard⟩ := walk.exists_hear_eq messages live
  rw [heard]
  exact ⟨ended.phase, ended.rising, ended.falling⟩

theorem Over.run {later : Walk} (ended : Over walk) (run : Paging walk later) :
    Over later := by
  induction run with
  | start => exact ended
  | live _ live induction => exact induction.hear _ live
  | page _ batch _ induction => exact induction.onPage batch

/-- Each further page takes the cursor down by one at least. -/
theorem Downward.run {last : UInt64} {later : Walk} (way : Downward counts walk last)
    (run : Paging walk later) :
    (∃ next, Downward counts later next ∧
      next.toNat + later.pages.length ≤ last.toNat + walk.pages.length) ∨ Over later := by
  induction run with
  | start => exact Or.inl ⟨last, way, Nat.le_refl _⟩
  | live _ live induction =>
      rcases induction with ⟨next, way, sunk⟩ | ended
      · exact Or.inl ⟨next, way.hear _ live, sunk⟩
      · exact Or.inr (ended.hear _ live)
  | @page later messages topic _ batch admitted induction =>
      rcases induction with ⟨next, way, sunk⟩ | ended
      · refine (way.onPage batch admitted).imp_left fun ⟨following, less, way⟩ => ?_
        have pages : (later.read messages topic).pages.length = later.pages.length + 1 := by
          simp [Walk.read, Walk.go]
        have lower := UInt64.lt_iff_toNat_lt.mp less
        exact ⟨following, way, by omega⟩
      · exact Or.inr (ended.onPage batch)

theorem cases_of_paging {machine : RestoreMachine}
    (run : Paging (counted machine counts) walk) :
    (∃ first, Upward counts walk first) ∨ (∃ last, Downward counts walk last) ∨
      Over walk := by
  induction run with
  | start =>
      exact (upward_or_left machine counts).imp (fun way => ⟨_, way⟩)
        fun left => left.imp_left fun way => ⟨_, way⟩
  | live _ live induction =>
      rcases induction with ⟨first, way⟩ | ⟨last, way⟩ | ended
      · exact Or.inl ⟨first, way.hear _ live⟩
      · exact Or.inr (Or.inl ⟨last, way.hear _ live⟩)
      · exact Or.inr (Or.inr (ended.hear _ live))
  | page _ batch admitted induction =>
      rcases induction with ⟨first, way⟩ | ⟨last, way⟩ | ended
      · exact (way.onPage batch admitted).imp_right fun left =>
          left.imp_left fun way => ⟨_, way⟩
      · exact Or.inr ((way.onPage batch admitted).imp_left fun ⟨next, _, way⟩ => ⟨next, way⟩)
      · exact Or.inr (Or.inr (ended.onPage batch))

/-- Whatever was counted, the contacts are left after one page more than their total at the
latest, and the restore ends after one further page more than the newest index. The fetches
of contacts start higher and higher, those of messages lower and lower. -/
theorem ends_however_counted {machine : RestoreMachine}
    (run : Paging (counted machine counts) walk) :
    (counts.contactsTotal.toNat + 1 ≤ walk.pages.length →
      walk.machine.phase = .restoringMessages ∨ walk.machine.phase = .finished) ∧
    (walk.machine.phase = .restoringMessages ∨ walk.machine.phase = .finished →
      ∀ later, Paging walk later →
        walk.pages.length + (counts.newestIndex.toNat + 1) ≤ later.pages.length →
          later.machine.phase = .finished) ∧
    walk.contactsStarts.Pairwise (· < ·) ∧ walk.backwardStarts.Pairwise (· > ·) := by
  rcases cases_of_paging run with ⟨first, way⟩ | ⟨last, way⟩ | ended
  · refine ⟨fun enough => ?_, fun left => ?_, way.rising, way.silent ▸ .nil⟩
    · have within := UInt64.le_iff_toNat_le.mp way.within
      have climbed := way.climbed
      omega
    · rw [way.phase] at left
      rcases left with other | other <;> cases other
  · refine ⟨fun _ => Or.inl way.phase, fun _ later further enough => ?_, way.rising,
      way.falling⟩
    rcases way.run further with ⟨next, -, sunk⟩ | ended
    · have within := UInt64.le_iff_toNat_le.mp way.within
      omega
    · exact ended.phase
  · exact ⟨fun _ => Or.inr ended.phase, fun _ later further _ => (ended.run further).phase,
      ended.rising, ended.falling⟩

/-! Counts that tell of contacts and messages up to index two, and of so many messages that
the pages never bring them all. One index a page takes as many pages as there can be. -/

def falseCounts : Counts where
  total := some Word.largest
  okKey := none
  firstForEachScid := some 2
  totalHighestIndex := some 2
  okKeyHighestIndex := none
  firstForEachScidHighestIndex := none

def single (walk : Walk) (index : UInt64) : Walk :=
  walk.read [Message.numbered index] "x/batch"

theorem paging_single {later : Walk} (run : Paging walk later) {index : UInt64}
    (admitted : ∀ action ∈ later.asked, action.Admits [index]) :
    Paging walk (single later index) :=
  .page run (by decide) (by simpa [Message.indexValues] using admitted)

def slowContacts : Walk :=
  single (single (single (counted (RestoreMachine.new 1 1) falseCounts) 0) 1) 2

def slowMessages : Walk :=
  single (single (single slowContacts 2) 1) 0

theorem paging_slowContacts :
    Paging (counted (RestoreMachine.new 1 1) falseCounts) slowContacts :=
  paging_single (paging_single (paging_single .start (by decide)) (by decide)) (by decide)

theorem ends_slowMessages :
    falseCounts.contactsTotal.toNat + 1 = slowContacts.pages.length ∧
      (slowContacts.machine.phase = .restoringMessages ∨
        slowContacts.machine.phase = .finished) ∧
      slowContacts.pages.length + (falseCounts.newestIndex.toNat + 1) =
        slowMessages.pages.length ∧
      slowMessages.machine.phase = .finished := by
  have enough : falseCounts.contactsTotal.toNat + 1 = slowContacts.pages.length := by decide
  have further : slowContacts.pages.length + (falseCounts.newestIndex.toNat + 1) =
      slowMessages.pages.length := by decide
  obtain ⟨leaves, ends, -⟩ := ends_however_counted paging_slowContacts
  have left := leaves (Nat.le_of_eq enough)
  refine ⟨enough, left, further, ends left slowMessages ?_ (Nat.le_of_eq further)⟩
  exact paging_single (paging_single (paging_single .start (by decide)) (by decide))
    (by decide)

end Paging

end Messenger

import Messenger.Restore.Machine

/-!
A restore machine and the server that it walks. The server keeps messages under indices
and answers a fetch with a page; live batches arrive in between.
-/

namespace Messenger

namespace Message

theorem highestIndex?_eq_some {messages : List Message} {highest : UInt64} :
    highestIndex? messages = some highest ↔
      highest ∈ indexValues messages ∧
        ∀ index ∈ indexValues messages, index ≤ highest :=
  List.max?_eq_some_iff

theorem lowestIndex?_eq_some {messages : List Message} {lowest : UInt64} :
    lowestIndex? messages = some lowest ↔
      lowest ∈ indexValues messages ∧
        ∀ index ∈ indexValues messages, lowest ≤ index :=
  List.min?_eq_some_iff

theorem highestIndex?_eq_none {messages : List Message} :
    highestIndex? messages = none ↔ indexValues messages = [] :=
  List.max?_eq_none_iff

theorem lowestIndex?_eq_none {messages : List Message} :
    lowestIndex? messages = none ↔ indexValues messages = [] :=
  List.min?_eq_none_iff

def Holds (messages : List Message) (indices : List UInt64) : Prop :=
  (messages.map indexValue?).Perm (indices.map some)

theorem Holds.indexValues_perm {messages : List Message} {indices : List UInt64}
    (holds : Holds messages indices) : (indexValues messages).Perm indices := by
  have kept := holds.filterMap id
  simpa [indexValues, List.filterMap_map] using kept

theorem Holds.length_eq {messages : List Message} {indices : List UInt64}
    (holds : Holds messages indices) : messages.length = indices.length := by
  simpa using List.Perm.length_eq holds

def numbered (index : UInt64) : Message where
  index := some (Decimal.write index.toNat)

@[simp] theorem indexValue?_numbered (index : UInt64) :
    (numbered index).indexValue? = some index :=
  Decimal.read64?_write index

theorem indexValue?_comp_numbered : indexValue? ∘ numbered = some :=
  funext indexValue?_numbered

theorem holds_numbered (indices : List UInt64) :
    Holds (indices.map numbered) indices := by
  rw [Holds, List.map_map, indexValue?_comp_numbered]

@[simp] theorem indexValues_numbered (indices : List UInt64) :
    indexValues (indices.map numbered) = indices := by
  rw [indexValues, List.filterMap_map, indexValue?_comp_numbered, List.filterMap_some]

end Message

/-- The indices under which a server keeps messages. -/
structure Archive where
  indices : List UInt64
  ascending : indices.Pairwise (· < ·)
  deriving DecidableEq

namespace Archive

def size (archive : Archive) : Nat :=
  archive.indices.length

def highest? (archive : Archive) : Option UInt64 :=
  archive.indices.getLast?

/-- The lowest indices that are not below `first`, as many as a page holds. -/
def upward (archive : Archive) (first : UInt64) (limit : UInt32) : List UInt64 :=
  (archive.indices.filter (first ≤ ·)).take limit.toNat

def descent (archive : Archive) (last : UInt64) : List UInt64 :=
  archive.indices.reverse.filter (· ≤ last)

/-- The highest indices that are not above `last`, as many as a page holds. -/
def downward (archive : Archive) (last : UInt64) (limit : UInt32) : List UInt64 :=
  (archive.descent last).take limit.toNat

variable {archive : Archive}

theorem mem_upward {first index : UInt64} {limit : UInt32}
    (member : index ∈ archive.upward first limit) :
    index ∈ archive.indices ∧ first ≤ index := by
  have inside := List.mem_of_mem_take member
  simpa using inside

/-- A page has no gaps: whatever lies between its start and one of its indices is on it. -/
theorem mem_upward_of_le {first index other : UInt64} {limit : UInt32}
    (member : index ∈ archive.upward first limit) (kept : other ∈ archive.indices)
    (above : first ≤ other) (below : other ≤ index) :
    other ∈ archive.upward first limit := by
  let run := archive.indices.filter (first ≤ ·)
  have inRun : other ∈ run.take limit.toNat ++ run.drop limit.toNat := by
    rw [List.take_append_drop]
    simpa [run] using ⟨kept, above⟩
  cases List.mem_append.mp inRun with
  | inl inside => exact inside
  | inr outside =>
      have ordered : (run.take limit.toNat ++ run.drop limit.toNat).Pairwise (· < ·) := by
        rw [List.take_append_drop]
        exact archive.ascending.filter _
      have less := (List.pairwise_append.mp ordered).2.2 index member other outside
      exact absurd below (UInt64.not_le.mpr less)

theorem upward_eq_nil {first : UInt64} {limit : UInt32} (positive : 0 < limit.toNat)
    (empty : archive.upward first limit = []) {index : UInt64}
    (kept : index ∈ archive.indices) : index < first := by
  have exhausted : archive.indices.filter (first ≤ ·) = [] :=
    (List.take_eq_nil_iff.mp empty).resolve_left (by omega)
  have below := List.filter_eq_nil_iff.mp exhausted index kept
  exact UInt64.not_le.mp (by simpa using below)

theorem descent_descending (archive : Archive) (last : UInt64) :
    (archive.descent last).Pairwise (· > ·) :=
  (List.pairwise_reverse.mpr archive.ascending).filter _

theorem mem_descent {last index : UInt64} :
    index ∈ archive.descent last ↔ index ∈ archive.indices ∧ index ≤ last := by
  simp [descent]

theorem descent_highest {highest : UInt64} (top : archive.highest? = some highest) :
    archive.descent highest = archive.indices.reverse := by
  refine List.filter_eq_self.mpr fun index member => ?_
  obtain ⟨before, split⟩ := List.getLast?_eq_some_iff.mp top
  have ordered := archive.ascending
  rw [split] at ordered
  have kept : index ∈ before ++ [highest] := split ▸ List.mem_reverse.mp member
  cases List.mem_append.mp kept with
  | inl earlier =>
      have less := (List.pairwise_append.mp ordered).2.2 index earlier highest (by simp)
      exact decide_eq_true (UInt64.le_of_lt less)
  | inr last =>
      have same : index = highest := by simpa using last
      exact decide_eq_true (UInt64.le_of_eq same)

end Archive

namespace RestoreMachine

theorem onBatch_live (machine : RestoreMachine) (messages : List Message)
    {topic : String} (live : Topic.isBatch topic = false) :
    machine.onBatch messages topic =
      ((Message.highestIndex? messages).elim machine machine.observe, []) := by
  unfold onBatch
  rw [live]
  cases Message.highestIndex? messages <;> rfl

/-- Actions that report at most progress before they fetch. -/
def AsksFor (actions : List RestoreAction) (fetch : RestoreAction) : Prop :=
  ∃ reports, actions = reports ++ [fetch] ∧
    ∀ action ∈ reports, ∃ percent, action = .progress percent

theorem AsksFor.ne_nil {actions : List RestoreAction} {fetch : RestoreAction}
    (asks : AsksFor actions fetch) : actions ≠ [] := by
  obtain ⟨reports, rfl, -⟩ := asks
  simp

theorem AsksFor.mem_iff {actions : List RestoreAction} {fetch action : RestoreAction}
    (asks : AsksFor actions fetch) (silent : ∀ percent, action ≠ .progress percent) :
    action ∈ actions ↔ action = fetch := by
  obtain ⟨reports, rfl, progress⟩ := asks
  constructor
  · intro member
    cases List.mem_append.mp member with
    | inl report =>
        obtain ⟨percent, same⟩ := progress action report
        exact absurd same (silent percent)
    | inr last => exact List.mem_singleton.mp last
  · rintro rfl
    simp

theorem emitProgress_cases (machine : RestoreMachine) :
    machine.emitProgress = (machine, []) ∨
      ∃ percent, machine.emitProgress =
        ({ machine with emitted := percent }, [.progress percent]) := by
  unfold emitProgress
  by_cases moved : machine.emitted < min machine.percentage 99
  · exact Or.inr ⟨_, if_pos moved⟩
  · exact Or.inl (if_neg moved)

theorem continueWith_asksFor (machine : RestoreMachine) (fetch : RestoreAction) :
    AsksFor (machine.continueWith fetch).2 fetch := by
  have reports : (machine.continueWith fetch).2 = machine.emitProgress.2 ++ [fetch] := rfl
  refine ⟨machine.emitProgress.2, reports, fun action member => ?_⟩
  rcases machine.emitProgress_cases with same | ⟨percent, same⟩
  · simp [same] at member
  · rw [same] at member
    exact ⟨percent, List.mem_singleton.mp member⟩

theorem continueWith_machine (machine : RestoreMachine) (fetch : RestoreAction) :
    ∃ emitted, (machine.continueWith fetch).1 = { machine with emitted } := by
  have after : (machine.continueWith fetch).1 = machine.emitProgress.1 := rfl
  rcases machine.emitProgress_cases with same | ⟨percent, same⟩
  · exact ⟨machine.emitted, by rw [after, same]⟩
  · exact ⟨percent, by rw [after, same]⟩

theorem completeContacts_finish (machine : RestoreMachine)
    (none : machine.progress.messagesTotal = 0) :
    ∃ last : RestoreMachine, machine.completeContacts = last.finish :=
  ⟨_, if_pos none⟩

theorem completeContacts_machine (machine : RestoreMachine)
    (left : machine.progress.messagesTotal ≠ 0) :
    ∃ contactsRestored contactsHighestIndex emitted,
      machine.completeContacts.1 = { machine with
        phase := .restoringMessages
        progress := { machine.progress with contactsRestored, contactsHighestIndex }
        emitted } := by
  unfold completeContacts
  simp only [if_neg left]
  split
  · exact ⟨_, _, _, rfl⟩
  · exact ⟨_, _, machine.emitted, rfl⟩

theorem completeContacts_asksFor (machine : RestoreMachine)
    (left : machine.progress.messagesTotal ≠ 0) :
    AsksFor machine.completeContacts.2 (machine.fetchBackward machine.newestIndex) := by
  unfold completeContacts
  simp only [if_neg left]
  split
  · exact ⟨[.progress _], rfl, fun action member => ⟨_, List.mem_singleton.mp member⟩⟩
  · exact ⟨[], rfl, by simp⟩

theorem completeContacts_leaves (machine : RestoreMachine) :
    machine.completeContacts.1.phase ≠ .restoringContacts ∧
      machine.completeContacts.2 ≠ [] ∧
      ∀ first limit, .fetchContacts first limit ∉ machine.completeContacts.2 := by
  by_cases left : machine.progress.messagesTotal = 0
  · obtain ⟨last, same⟩ := completeContacts_finish machine left
    simp [same, finish, catchUp]
  · obtain ⟨_, _, _, moved⟩ := completeContacts_machine machine left
    have asks := completeContacts_asksFor machine left
    refine ⟨by simp [moved], asks.ne_nil, fun first limit => ?_⟩
    rw [asks.mem_iff (by simp)]
    simp [fetchBackward]

theorem onCounts_late {machine : RestoreMachine}
    (late : ¬(machine.phase = .restoringContacts ∧ machine.awaitingCounts = true))
    (counts : Counts) : machine.onCounts counts = (machine, []) :=
  if_neg late

theorem onBatch_late {machine : RestoreMachine}
    (late : machine.phase = .finished ∨ machine.phase = .cancelled)
    (messages : List Message) {topic : String} (batch : Topic.isBatch topic = true) :
    machine.onBatch messages topic = (machine, []) := by
  rcases late with phase | phase <;> simp [onBatch, batch, phase]

theorem onBatch_syncing {machine : RestoreMachine} {limit : UInt32}
    (phase : machine.phase = .notRestoring) (pageSize : machine.messagesPageSize = limit)
    {messages : List Message} {topic : String} (batch : Topic.isBatch topic = true)
    {reached top : UInt64} (seen : machine.highestIndex = some reached)
    (highest : Message.highestIndex? messages = some top) :
    machine.onBatch messages topic =
      ({ machine with highestIndex := some (max reached top) },
        [.fetchMessages (Word.next (max reached top)) limit false]) := by
  subst pageSize
  simp [onBatch, batch, phase, highest, onSyncPage, observe, fetchForward, seen]

theorem onBatch_synced {machine : RestoreMachine} (phase : machine.phase = .notRestoring)
    {messages : List Message} {topic : String} (batch : Topic.isBatch topic = true)
    (none : Message.highestIndex? messages = none) :
    machine.onBatch messages topic = (machine, .syncFinished :: catchUp) := by
  simp [onBatch, batch, phase, none, onSyncPage]

/-- A page of contacts counted in, up to its highest index. -/
def recording (machine : RestoreMachine) (count highest : UInt64) : RestoreMachine :=
  { machine with
    progress := { machine.progress with
      contactsRestored := Word.saturatingAdd machine.progress.contactsRestored count
      contactsHighestIndex := max machine.progress.contactsHighestIndex highest } }

theorem onBatch_restoringContacts {machine : RestoreMachine}
    (phase : machine.phase = .restoringContacts) (counted : machine.awaitingCounts = false)
    (messages : List Message) {topic : String} (batch : Topic.isBatch topic = true) :
    machine.onBatch messages topic =
      machine.onContactsPage (Word.ofCount messages.length)
        (Message.highestIndex? messages) := by
  simp [onBatch, batch, phase, counted]

theorem onContactsPage_reaching {machine : RestoreMachine} {highest : UInt64}
    (reached : machine.progress.contactsTotal ≤ highest) (count : UInt64) :
    machine.onContactsPage count (some highest) =
      (machine.recording count highest).completeContacts :=
  if_pos reached

theorem onContactsPage_below {machine : RestoreMachine} {highest : UInt64}
    (below : ¬machine.progress.contactsTotal ≤ highest) (count : UInt64) :
    AsksFor (machine.onContactsPage count (some highest)).2
        (machine.fetchContactsAt (Word.next highest)) ∧
      ∃ emitted, (machine.onContactsPage count (some highest)).1 =
        { machine.recording count highest with
          contactsCursor := Word.next highest, emitted } := by
  have step : machine.onContactsPage count (some highest) =
      { machine.recording count highest with
        contactsCursor := Word.next highest }.continueWith
          (machine.fetchContactsAt (Word.next highest)) :=
    if_neg below
  rw [step]
  exact ⟨continueWith_asksFor _ _, continueWith_machine _ _⟩

end RestoreMachine

structure Walk where
  machine : RestoreMachine
  /-- The last actions that there were; here stands what the machine waits for. -/
  asked : List RestoreAction
  told : List RestoreAction
  pages : List (List UInt64)
  live : List UInt64

namespace Walk

def start (step : RestoreMachine × List RestoreAction) : Walk where
  machine := step.1
  asked := step.2
  told := step.2
  pages := []
  live := []

def go (walk : Walk) (step : RestoreMachine × List RestoreAction) : Walk :=
  { walk with
    machine := step.1
    asked := if step.2 = [] then walk.asked else step.2
    told := walk.told ++ step.2 }

@[simp] theorem go_nothing (walk : Walk) : walk.go (walk.machine, []) = walk := by
  simp [go]

theorem go_onCounts_late {walk : Walk}
    (late : ¬(walk.machine.phase = .restoringContacts ∧ walk.machine.awaitingCounts = true))
    (counts : Counts) : walk.go (walk.machine.onCounts counts) = walk := by
  rw [RestoreMachine.onCounts_late late, go_nothing]

theorem mem_asked_go {step : RestoreMachine × List RestoreAction}
    {fetch action : RestoreAction} {walk : Walk} (asks : RestoreMachine.AsksFor step.2 fetch)
    (silent : ∀ percent, action ≠ .progress percent) :
    action ∈ (walk.go step).asked ↔ action = fetch := by
  have asked : (walk.go step).asked = step.2 := if_neg asks.ne_nil
  rw [asked]
  exact asks.mem_iff silent

theorem finished_not_mem_go {step : RestoreMachine × List RestoreAction}
    {fetch : RestoreAction} {walk : Walk} (asks : RestoreMachine.AsksFor step.2 fetch)
    (fetches : RestoreAction.finished ≠ fetch) (unfinished : .finished ∉ walk.told) :
    .finished ∉ (walk.go step).told := by
  intro member
  cases List.mem_append.mp member with
  | inl earlier => exact unfinished earlier
  | inr now => exact fetches ((asks.mem_iff (by simp)).mp now)

def hear (walk : Walk) (messages : List Message) (topic : String) : Walk :=
  { walk.go (walk.machine.onBatch messages topic) with
    live := walk.live ++ Message.indexValues messages }

def read (walk : Walk) (messages : List Message) (topic : String) : Walk :=
  { walk.go (walk.machine.onBatch messages topic) with
    pages := walk.pages ++ [Message.indexValues messages] }

def seen (walk : Walk) : List UInt64 :=
  walk.pages.flatten ++ walk.live

theorem hear_eq (walk : Walk) (messages : List Message) {topic : String}
    (live : Topic.isBatch topic = false) :
    walk.hear messages topic = { walk with
      machine := (Message.highestIndex? messages).elim walk.machine walk.machine.observe
      live := walk.live ++ Message.indexValues messages } := by
  simp [hear, go, RestoreMachine.onBatch_live _ _ live]

theorem exists_hear_eq (walk : Walk) (messages : List Message) {topic : String}
    (live : Topic.isBatch topic = false) :
    ∃ highestIndex, walk.hear messages topic = { walk with
      machine := { walk.machine with highestIndex }
      live := walk.live ++ Message.indexValues messages } := by
  rw [walk.hear_eq messages live]
  cases Message.highestIndex? messages with
  | none => exact ⟨walk.machine.highestIndex, rfl⟩
  | some _ => exact ⟨_, rfl⟩

end Walk

end Messenger

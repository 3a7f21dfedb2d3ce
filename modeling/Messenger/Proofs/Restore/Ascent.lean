import Messenger.Proofs.Restore.MessagesPhase

/-!
The way up through what a server keeps. A page holds the lowest of what is left, and what
it leaves begins right above it; so the pages and what is left make up the whole.
-/

namespace Messenger

namespace Archive

variable {archive whole rest : Archive} {size : UInt32}

def since (archive : Archive) (first : UInt64) : Archive where
  indices := archive.indices.filter (first ≤ ·)
  ascending := archive.ascending.filter _

def above (archive : Archive) (last : UInt64) : Archive where
  indices := archive.indices.filter (last < ·)
  ascending := archive.ascending.filter _

theorem mem_since {first index : UInt64} :
    index ∈ (archive.since first).indices ↔ index ∈ archive.indices ∧ first ≤ index := by
  simp [since]

theorem mem_above {last index : UInt64} :
    index ∈ (archive.above last).indices ↔ index ∈ archive.indices ∧ last < index := by
  simp [above]

theorem since_zero (archive : Archive) : (archive.since 0).indices = archive.indices :=
  List.filter_eq_self.mpr fun _ _ => decide_eq_true UInt64.zero_le

theorem since_next (bounded : ∀ index ∈ archive.indices, index < Word.largest)
    (last : UInt64) :
    (archive.since (Word.next last)).indices = (archive.above last).indices := by
  refine List.filter_congr fun index kept => ?_
  have next := @Word.lt_next_iff last index (bounded index kept)
  rw [decide_eq_decide, ← UInt64.not_lt, next, UInt64.not_le]

theorem lt_of_page {first top index : UInt64} (inside : top ∈ archive.upward first size)
    (left : index ∈ (archive.since first).indices.drop size.toNat) : top < index := by
  have ordered := (archive.since first).ascending
  rw [← List.take_append_drop size.toNat (archive.since first).indices] at ordered
  exact (List.pairwise_append.mp ordered).2.2 top inside index left

/-- What a page leaves begins right above it. -/
theorem since_next_of_page {first top : UInt64} (below : top < Word.largest)
    (inside : top ∈ archive.upward first size)
    (greatest : ∀ index ∈ archive.upward first size, index ≤ top) :
    (archive.since (Word.next top)).indices =
      (archive.since first).indices.drop size.toNat := by
  let run := (archive.since first).indices
  have next (index : UInt64) : Word.next top ≤ index ↔ top < index := Word.next_le_iff below
  have through (index : UInt64) : Word.next top ≤ index → first ≤ index := fun bound =>
    UInt64.le_trans (mem_upward inside).2 (UInt64.le_of_lt ((next index).mp bound))
  calc
    (archive.since (Word.next top)).indices = run.filter (Word.next top ≤ ·) := by
      simp only [run, since, List.filter_filter]
      refine List.filter_congr fun index _ => ?_
      simpa using through index
    _ = run.drop size.toNat := by
      refine filter_eq_drop (fun index member bound => ?_) fun index member => ?_
      · exact UInt64.not_le.mpr ((next index).mp bound) (greatest index member)
      · exact (next index).mpr (lt_of_page inside member)

theorem pageCount_nil (positive : 0 < size.toNat) (none : archive.indices = []) :
    archive.pageCount size = 0 := by
  rw [pageCount, Archive.size, none, List.length_nil, Nat.zero_add]
  exact Nat.div_eq_of_lt (Nat.sub_one_lt_of_lt positive)

theorem pageCount_rest (positive : 0 < size.toNat) (some : archive.indices ≠ [])
    (left : rest.indices = archive.indices.drop size.toNat) :
    archive.pageCount size = rest.pageCount size + 1 := by
  have kept : 0 < archive.size := List.length_pos_iff.mpr some
  have short : rest.size = archive.size - size.toNat := by
    rw [Archive.size, left, List.length_drop]
    rfl
  have turned : archive.size + size.toNat - 1 = archive.size - 1 + size.toNat := by omega
  rw [pageCount, turned, Nat.add_div_right _ positive, pageCount]
  cases Nat.le_total size.toNat archive.size with
  | inl full =>
      have filled : rest.size + size.toNat = archive.size := by omega
      rw [filled]
  | inr last =>
      have before : archive.size - 1 < size.toNat := by omega
      have after : rest.size + size.toNat - 1 < size.toNat := by omega
      rw [Nat.div_eq_of_lt before, Nat.div_eq_of_lt after]

/-- On the way up through the `whole`: the pages so far, each above those before it, and
what is kept from `first` on. -/
structure Ascending (archive whole : Archive) (size : UInt32) (pages : List (List UInt64))
    (first : UInt64) : Prop where
  split : (pages.flatten ++ (archive.since first).indices).Perm whole.indices
  ordered : pages.Pairwise fun page later => ∀ index ∈ page, ∀ other ∈ later, index < other
  passed : ∀ index ∈ pages.flatten, index < first
  counted : pages.length + (archive.since first).pageCount size = whole.pageCount size

variable {pages : List (List UInt64)} {page : List UInt64} {first top : UInt64}

theorem Ascending.begin (same : (archive.since first).indices = whole.indices) :
    Ascending archive whole size [] first where
  split := .of_eq same
  ordered := .nil
  passed := nofun
  counted := by
    rw [pageCount, pageCount, Archive.size, Archive.size, same]
    exact Nat.zero_add _

theorem Ascending.split_page (way : Ascending archive whole size pages first)
    (holds : page.Perm (archive.upward first size)) :
    ((pages ++ [page]).flatten ++ (archive.since first).indices.drop size.toNat).Perm
      whole.indices := by
  have whole := way.split
  rw [← List.take_append_drop size.toNat (archive.since first).indices] at whole
  rw [List.flatten_concat, List.append_assoc]
  exact (List.Perm.append_left _ (holds.append_right _)).trans whole

theorem Ascending.turn (positive : 0 < size.toNat)
    (way : Ascending archive whole size pages first)
    (holds : page.Perm (archive.upward first size)) (inside : top ∈ page)
    (greatest : ∀ index ∈ page, index ≤ top) (below : top < Word.largest) :
    Ascending archive whole size (pages ++ [page]) (Word.next top) := by
  have onPage : top ∈ archive.upward first size := holds.mem_iff.mp inside
  have rest := since_next_of_page below onPage fun index member =>
    greatest index (holds.mem_iff.mpr member)
  have above (index : UInt64) (member : index ∈ page) : first ≤ index :=
    (mem_upward (holds.mem_iff.mp member)).2
  have next (index : UInt64) (le : index ≤ top) : index < Word.next top :=
    UInt64.lt_of_le_of_lt le ((Word.next_le_iff below).mp (UInt64.le_refl _))
  constructor
  case split =>
    rw [rest]
    exact way.split_page holds
  case ordered =>
    refine List.pairwise_append.mpr ⟨way.ordered, List.pairwise_singleton _ _, ?_⟩
    intro earlier member later last index before other after
    rw [List.mem_singleton.mp last] at after
    exact UInt64.lt_of_lt_of_le (way.passed index (List.mem_flatten_of_mem member before))
      (above other after)
  case passed =>
    intro index member
    rw [List.flatten_concat, List.mem_append] at member
    cases member with
    | inl earlier =>
        have before := UInt64.lt_of_lt_of_le (way.passed index earlier) (above top inside)
        exact next index (UInt64.le_of_lt before)
    | inr now => exact next index (greatest index now)
  case counted =>
    have some : (archive.since first).indices ≠ [] :=
      List.ne_nil_of_mem (List.mem_of_mem_take onPage)
    rw [← way.counted, pageCount_rest positive some rest, List.length_append]
    simp only [List.length_singleton]
    omega

end Archive

end Messenger

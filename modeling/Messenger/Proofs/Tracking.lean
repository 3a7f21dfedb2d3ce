import Mathlib.Data.List.Induction
import Messenger.Proofs.Lookup

/-!
What is tracked of round trips, told by the requests alone. A key stands in the round trip that
it was last recorded for until this is ended, by the completion of a key in it or together with
all others. Nothing else takes a key out, and no round trip is completed twice.
-/

namespace Messenger

/-- What can be asked of a tracker of round trips. -/
inductive TrackingRequest where
  | record (key : String) (timestamp : UInt64)
  | complete (key : String)
  | clear
  deriving DecidableEq

namespace Liveness

def handle (liveness : Liveness) : TrackingRequest → Option UInt64 × Liveness
  | .record key timestamp => (none, liveness.record key timestamp)
  | .complete key => liveness.complete key
  | .clear => (none, ∅)

def after (requests : List TrackingRequest) : Liveness :=
  requests.foldl (fun liveness request => (liveness.handle request).2) ∅

/-- What a request got, when those before it had been handled. -/
def answer? (requests : List TrackingRequest) (time : Nat) : Option UInt64 :=
  requests[time]?.bind fun request => ((after (requests.take time)).handle request).1

variable {requests : List TrackingRequest} {key : String} {timestamp : UInt64} {time : Nat}

theorem after_append_one (requests : List TrackingRequest) (request : TrackingRequest) :
    after (requests ++ [request]) = ((after requests).handle request).2 :=
  List.foldl_append

theorem after_take_succ {request : TrackingRequest} (asked : requests[time]? = some request) :
    after (requests.take (time + 1)) = ((after (requests.take time)).handle request).2 := by
  rw [List.take_add_one, asked, Option.toList_some, after_append_one]

theorem answer?_eq {request : TrackingRequest} (asked : requests[time]? = some request) :
    answer? requests time = ((after (requests.take time)).handle request).1 := by
  rw [answer?, asked, Option.bind_some]

theorem complete_fst (liveness : Liveness) (key : String) :
    (liveness.complete key).1 = liveness.timestamp? key := by
  unfold complete
  cases liveness.timestamp? key <;> rfl

theorem complete_of_none {liveness : Liveness} (untracked : liveness.timestamp? key = none) :
    liveness.complete key = (none, liveness) := by
  rw [complete, untracked]

theorem timestamp?_complete {liveness : Liveness} {ended : String} :
    (liveness.complete ended).2.timestamp? key = some timestamp ↔
      liveness.timestamp? key = some timestamp ∧ liveness.timestamp? ended ≠ some timestamp := by
  unfold complete
  cases liveness.timestamp? ended with
  | none => simp
  | some own =>
      rw [timestamp?_purge, Option.filter_eq_some_iff, bne_iff_ne, ne_comm]
      simp

/-- A request ends that a key stands in the round trip of a timestamp: the key is recorded anew,
a key of that round trip is completed, or everything is cleared. -/
def Ends (liveness : Liveness) (key : String) (timestamp : UInt64) : TrackingRequest → Prop
  | .record other _ => other = key
  | .complete other => liveness.timestamp? other = some timestamp
  | .clear => True

theorem timestamp?_handle {liveness : Liveness} (named : key ≠ "")
    (request : TrackingRequest) :
    (liveness.handle request).2.timestamp? key = some timestamp ↔
      request = .record key timestamp ∨
        liveness.timestamp? key = some timestamp ∧ ¬liveness.Ends key timestamp request := by
  cases request with
  | record other own =>
      rw [handle, timestamp?_record, Ends]
      by_cases same : other = key
      · simp [same, named]
      · simp [same, Ne.symm same]
  | complete other =>
      rw [handle, timestamp?_complete, Ends]
      simp
  | clear => exact iff_of_false nofun (by simp [Ends])

theorem timestamp?_handle_empty {liveness : Liveness}
    (untracked : liveness.timestamp? "" = none) (request : TrackingRequest) :
    (liveness.handle request).2.timestamp? "" = none := by
  cases request with
  | record key timestamp =>
      rw [handle, timestamp?_record, untracked]
      exact if_neg fun both => both.2 both.1.symm
  | complete key =>
      refine Option.eq_none_iff_forall_ne_some.mpr fun timestamp tracked => ?_
      rw [handle, timestamp?_complete, untracked] at tracked
      cases tracked.1
  | clear => rfl

theorem timestamp?_after_empty (requests : List TrackingRequest) :
    (after requests).timestamp? "" = none := by
  induction requests using List.reverseRecOn with
  | nil => rfl
  | append_singleton requests last induction =>
      rw [after_append_one]
      exact timestamp?_handle_empty induction last

theorem timestamp?_after_take_succ (named : key ≠ "") :
    (after (requests.take (time + 1))).timestamp? key = some timestamp ↔
      requests[time]? = some (.record key timestamp) ∨
        (after (requests.take time)).timestamp? key = some timestamp ∧
          ∀ request, requests[time]? = some request →
            ¬(after (requests.take time)).Ends key timestamp request := by
  cases asked : requests[time]? with
  | none =>
      rw [List.take_add_one, asked]
      simp
  | some request =>
      rw [after_take_succ asked, timestamp?_handle named]
      simp

/-- A key was recorded for a round trip at some time, and until a later moment nothing has
ended it. -/
structure Stands (requests : List TrackingRequest) (key : String) (timestamp : UInt64)
    (time moment : Nat) : Prop where
  early : time < moment
  recorded : requests[time]? = some (.record key timestamp)
  lasting : ∀ later request, time < later → later < moment →
    requests[later]? = some request → ¬(after (requests.take later)).Ends key timestamp request

theorem exists_stands_succ {moment : Nat} :
    (∃ time, Stands requests key timestamp time (moment + 1)) ↔
      requests[moment]? = some (.record key timestamp) ∨
        (∃ time, Stands requests key timestamp time moment) ∧
          ∀ request, requests[moment]? = some request →
            ¬(after (requests.take moment)).Ends key timestamp request := by
  constructor
  · rintro ⟨time, early, recorded, lasting⟩
    rcases Nat.lt_succ_iff_lt_or_eq.mp early with before | rfl
    · refine Or.inr ⟨⟨time, before, recorded, fun later request since within => ?_⟩, ?_⟩
      · exact lasting later request since (Nat.lt_succ_of_lt within)
      · exact fun request => lasting moment request before (Nat.lt_succ_self moment)
    · exact Or.inl recorded
  · rintro (recorded | ⟨⟨time, early, recorded, lasting⟩, now⟩)
    · refine ⟨moment, Nat.lt_succ_self moment, recorded, fun later _ since within => ?_⟩
      exact absurd (Nat.le_of_lt_succ within) (Nat.not_le.mpr since)
    · refine ⟨time, Nat.lt_succ_of_lt early, recorded, fun later request since within => ?_⟩
      rcases Nat.lt_succ_iff_lt_or_eq.mp within with before | rfl
      · exact lasting later request since before
      · exact now request

theorem timestamp?_after_take_iff (requests : List TrackingRequest) (moment : Nat) :
    (after (requests.take moment)).timestamp? key = some timestamp ↔
      key ≠ "" ∧ ∃ time, Stands requests key timestamp time moment := by
  by_cases named : key = ""
  · rw [named, timestamp?_after_empty]
    simp
  rw [and_iff_right named]
  induction moment with
  | zero =>
      refine iff_of_false nofun ?_
      rintro ⟨time, stands⟩
      exact Nat.not_lt_zero time stands.early
  | succ moment induction =>
      rw [timestamp?_after_take_succ named, exists_stands_succ, induction]

/-- What was completed together is not completed again before it is recorded again. -/
theorem timestamp?_after_complete {first second : Nat} {other : String} (order : first < second)
    (completed : requests[first]? = some (.complete key))
    (own : (after (requests.take first)).timestamp? key = some timestamp)
    (shared : (after (requests.take first)).timestamp? other = some timestamp)
    (unrecorded : ∀ between, first < between → between < second →
      ∀ again, requests[between]? ≠ some (.record other again)) :
    (after (requests.take second)).timestamp? other = none := by
  refine Option.eq_none_iff_forall_ne_some.mpr fun last tracked => ?_
  obtain ⟨named, time, early, recorded, lasting⟩ :=
    (timestamp?_after_take_iff requests second).mp tracked
  rcases Nat.lt_trichotomy time first with before | rfl | since
  · -- then it stood in the round trip that was completed
    have stood : Stands requests other last time first :=
      ⟨before, recorded, fun later request since within =>
        lasting later request since (Nat.lt_trans within order)⟩
    have same := (timestamp?_after_take_iff requests first).mpr ⟨named, time, stood⟩
    rw [shared] at same
    cases same
    exact lasting first _ before order completed own
  · rw [completed] at recorded
    cases recorded
  · exact unrecorded time since early last recorded

theorem timestamp?_handle_eq_none_iff {liveness : Liveness}
    (tracked : liveness.timestamp? key = some timestamp) (request : TrackingRequest) :
    (liveness.handle request).2.timestamp? key = none ↔
      request = .clear ∨
        ∃ other, request = .complete other ∧ liveness.timestamp? other = some timestamp := by
  cases request with
  | record other own =>
      rw [handle, timestamp?_record, tracked]
      split <;> simp
  | complete other =>
      by_cases shared : liveness.timestamp? other = some timestamp
      · refine iff_of_true ?_ (Or.inr ⟨other, rfl, shared⟩)
        refine Option.eq_none_iff_forall_ne_some.mpr fun last left => ?_
        obtain ⟨same, apart⟩ := timestamp?_complete.mp left
        rw [tracked] at same
        exact apart (same ▸ shared)
      · have kept := timestamp?_complete.mpr ⟨tracked, shared⟩
        refine iff_of_false ?_ (by simp [shared])
        rw [handle, kept]
        exact nofun
  | clear => exact iff_of_true rfl (Or.inl rfl)

/-- A tracker follows from the list of what it was asked. -/
structure FollowsFrom (requests : List TrackingRequest) : Prop where
  tracked : ∀ moment key timestamp,
    (after (requests.take moment)).timestamp? key = some timestamp ↔
      key ≠ "" ∧ ∃ time, Stands requests key timestamp time moment
  answered : ∀ time key, requests[time]? = some (.complete key) →
    answer? requests time = (after (requests.take time)).timestamp? key
  once : ∀ first second key other timestamp, first < second →
    requests[first]? = some (.complete key) →
    (after (requests.take first)).timestamp? key = some timestamp →
    (after (requests.take first)).timestamp? other = some timestamp →
    (∀ between, first < between → between < second →
      ∀ again, requests[between]? ≠ some (.record other again)) →
    requests[second]? = some (.complete other) →
      answer? requests second = none ∧
        after (requests.take (second + 1)) = after (requests.take second)
  removed : ∀ time key timestamp,
    (after (requests.take time)).timestamp? key = some timestamp →
      ((after (requests.take (time + 1))).timestamp? key = none ↔
        requests[time]? = some .clear ∨
          ∃ other, requests[time]? = some (.complete other) ∧
            (after (requests.take time)).timestamp? other = some timestamp)

/-- Whatever a tracker is asked, a key is tracked as long as its last record stands, completing
a key tells what was tracked, and only the round trip that is completed is forgotten. -/
theorem tracked_by_history (requests : List TrackingRequest) : FollowsFrom requests := by
  constructor
  case tracked => exact fun moment key timestamp => timestamp?_after_take_iff requests moment
  case answered =>
    intro time key asked
    rw [answer?_eq asked, handle, complete_fst]
  case once =>
    intro first second key other timestamp order completed own shared unrecorded asked
    have untracked := timestamp?_after_complete order completed own shared unrecorded
    rw [answer?_eq asked, after_take_succ asked, handle, complete_of_none untracked]
    exact ⟨rfl, rfl⟩
  case removed =>
    intro time key timestamp tracked
    cases asked : requests[time]? with
    | none =>
        rw [List.take_add_one, asked, Option.toList_none, List.append_nil, tracked]
        simp
    | some request =>
        rw [after_take_succ asked, timestamp?_handle_eq_none_iff tracked]
        simp

/-- A key that was moved to another round trip is not completed with its former one. -/
example : after [.record "hash" 5, .record "tag" 5, .record "hash" 7, .complete "tag"] =
    (∅ : Liveness).record "hash" 7 := rfl

end Liveness

end Messenger

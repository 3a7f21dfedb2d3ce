import Mathlib.Data.List.Induction
import Messenger.Settlement

/-!
What becomes of parked bundles. Equal bundles cannot be told apart in a queue, so each gets the
number of the request that parked it; beside the queue an account is kept of the numbered
bundles, sorted by what became of them, and without the numbers it agrees with the queue.
-/

namespace Messenger

/-- What can be asked of a queue of parked bundles. -/
inductive ParkingRequest where
  | enqueue (bundle : Bundle)
  | take (key : SettlementKey)
  | clear
  deriving DecidableEq

namespace SettlementQueue

def handle (queue : SettlementQueue) : ParkingRequest → Option Bundle × SettlementQueue
  | .enqueue bundle => (none, queue.enqueue bundle)
  | .take key => queue.take key
  | .clear => (none, ∅)

def after (requests : List ParkingRequest) : SettlementQueue :=
  requests.foldl (fun queue request => (queue.handle request).2) ∅

/-- What a request got, when those before it had been handled. -/
def answer? (requests : List ParkingRequest) (time : Nat) : Option Bundle :=
  requests[time]?.bind fun request => ((after (requests.take time)).handle request).1

theorem after_append_one (requests : List ParkingRequest) (request : ParkingRequest) :
    after (requests ++ [request]) = ((after requests).handle request).2 :=
  List.foldl_append

/-- Only takes are answered. -/
theorem answer?_eq_some_iff {requests : List ParkingRequest} {time : Nat} {bundle : Bundle} :
    answer? requests time = some bundle ↔
      ∃ key, requests[time]? = some (.take key) ∧
        ((after (requests.take time)).take key).1 = some bundle := by
  rw [answer?, Option.bind_eq_some_iff]
  constructor
  · rintro ⟨request, asked, answer⟩
    cases request with
    | take key => exact ⟨key, asked, answer⟩
    | _ => cases answer
  · rintro ⟨key, asked, taken⟩
    exact ⟨.take key, asked, taken⟩

/-- A key is answered if and only if something that is parked carries it. -/
theorem isSome_take_iff (queue : SettlementQueue) (key : SettlementKey) :
    (queue.take key).1.isSome = true ↔
      ∃ bundle ∈ queue.pending, key.names bundle = true :=
  List.find?_isSome

theorem names_of_mem_take {queue : SettlementQueue} {key : SettlementKey} {bundle : Bundle}
    (left : bundle ∈ (queue.take key).2.pending) : key.names bundle = false := by
  simpa using (List.mem_filter.mp left).2

end SettlementQueue

/-- A parked bundle, with the number of the request that parked it. -/
structure Ticket where
  number : Nat
  bundle : Bundle
  deriving DecidableEq

/-- The bundles that were parked, the earliest first. -/
def tickets (requests : List ParkingRequest) : List Ticket :=
  requests.zipIdx.filterMap fun
    | (.enqueue bundle, number) => some { number, bundle }
    | _ => none

theorem tickets_append_one (requests : List ParkingRequest) (request : ParkingRequest) :
    tickets (requests ++ [request]) = tickets requests ++
      match request with
      | .enqueue bundle => [{ number := requests.length, bundle }]
      | _ => [] := by
  rw [tickets, List.zipIdx_append, List.filterMap_append, ← tickets, Nat.zero_add]
  cases request <;> rfl

theorem number_lt_of_mem_tickets {requests : List ParkingRequest} {ticket : Ticket}
    (issued : ticket ∈ tickets requests) : ticket.number < requests.length := by
  obtain ⟨⟨request, number⟩, member, same⟩ := List.mem_filterMap.mp issued
  cases request with
  | enqueue bundle =>
      cases same
      exact List.snd_lt_of_mem_zipIdx member
  | take key => cases same
  | clear => cases same

/-- Whoever was taken out of the queue is listed with the number of the request that did it. -/
structure Parking where
  pending : List Ticket := []
  returned : List (Nat × Ticket) := []
  dropped : List (Nat × Ticket) := []
  cleared : List (Nat × Ticket) := []

namespace Parking

def everyone (parking : Parking) : List Ticket :=
  parking.pending ++ parking.returned.map Prod.snd ++ parking.dropped.map Prod.snd ++
    parking.cleared.map Prod.snd

def named (parking : Parking) (key : SettlementKey) : List Ticket :=
  parking.pending.filter fun ticket => key.names ticket.bundle

/-- The oldest bundle with the key comes back. -/
def returnedBy (parking : Parking) : ParkingRequest → List Ticket
  | .take key => (parking.named key).head?.toList
  | _ => []

/-- The others with the key are dropped. -/
def droppedBy (parking : Parking) : ParkingRequest → List Ticket
  | .take key => (parking.named key).tail
  | _ => []

def clearedBy (parking : Parking) : ParkingRequest → List Ticket
  | .clear => parking.pending
  | _ => []

def handle (parking : Parking) (time : Nat) (request : ParkingRequest) : Parking where
  pending :=
    match request with
    | .enqueue bundle => parking.pending ++ [{ number := time, bundle }]
    | .take key => parking.pending.filter fun ticket => !key.names ticket.bundle
    | .clear => []
  returned := parking.returned ++ (parking.returnedBy request).map (time, ·)
  dropped := parking.dropped ++ (parking.droppedBy request).map (time, ·)
  cleared := parking.cleared ++ (parking.clearedBy request).map (time, ·)

def after (requests : List ParkingRequest) : Parking :=
  requests.zipIdx.foldl (fun parking request => parking.handle request.2 request.1) {}

theorem after_append_one (requests : List ParkingRequest) (request : ParkingRequest) :
    after (requests ++ [request]) = (after requests).handle requests.length request := by
  rw [after, List.zipIdx_append, List.foldl_append, ← after, Nat.zero_add]
  rfl

variable {parking : Parking} {queue : SettlementQueue}

theorem named_split (parking : Parking) (key : SettlementKey) :
    (parking.named key).head?.toList ++ (parking.named key).tail = parking.named key := by
  cases parking.named key <;> rfl

/-- Whoever waited is returned, dropped or goes on waiting. -/
theorem take_split (parking : Parking) (key : SettlementKey) :
    ((parking.named key).head?.toList ++ (parking.named key).tail ++
      parking.pending.filter fun ticket => !key.names ticket.bundle).Perm parking.pending := by
  rw [named_split]
  exact List.filter_append_perm (fun ticket : Ticket => key.names ticket.bundle) parking.pending

/-- Nobody is lost, and nobody is listed twice. -/
theorem everyone_handle (parking : Parking) (time : Nat) (request : ParkingRequest) :
    (parking.handle time request).everyone.Perm (parking.everyone ++
      match request with
      | .enqueue bundle => [{ number := time, bundle }]
      | _ => []) := by
  refine List.perm_iff_count.mpr fun ticket => ?_
  simp only [handle, everyone, List.map_append, List.map_map, Function.comp_def, List.map_id',
    List.count_append]
  cases request with
  | enqueue bundle =>
      simp only [returnedBy, droppedBy, clearedBy, List.count_append, List.count_nil]
      omega
  | take key =>
      have split := (parking.take_split key).count_eq ticket
      simp only [returnedBy, droppedBy, clearedBy, List.count_append, List.count_nil]
        at split ⊢
      omega
  | clear =>
      simp only [returnedBy, droppedBy, clearedBy, List.count_nil]
      omega

/-- The account and the queue agree about who waits. -/
theorem pending_handle (same : parking.pending.map (·.bundle) = queue.pending) (time : Nat)
    (request : ParkingRequest) :
    (parking.handle time request).pending.map (·.bundle) =
      (queue.handle request).2.pending := by
  cases request with
  | enqueue bundle => simp [handle, SettlementQueue.handle, SettlementQueue.enqueue, same]
  | take key =>
      rw [SettlementQueue.handle, SettlementQueue.take, ← same, List.filter_map]
      rfl
  | clear => rfl

/-- They agree about whom a key brings back. -/
theorem named_head (same : parking.pending.map (·.bundle) = queue.pending)
    (key : SettlementKey) :
    (queue.take key).1 = (parking.named key).head?.map (·.bundle) := by
  rw [SettlementQueue.take, ← same, List.find?_map, named, List.head?_filter]
  rfl

/-- Whoever left the queue did so by one request, out of what waited then. -/
theorem mem_after_iff (left : Parking → List (Nat × Ticket))
    (leaving : Parking → ParkingRequest → List Ticket) (nobody : left {} = [])
    (handled : ∀ parking time request, left (handle parking time request) =
      left parking ++ (leaving parking request).map (time, ·))
    (requests : List ParkingRequest) (time : Nat) (ticket : Ticket) :
    (time, ticket) ∈ left (after requests) ↔
      ∃ request, requests[time]? = some request ∧
        ticket ∈ leaving (after (requests.take time)) request := by
  induction requests using List.reverseRecOn with
  | nil => simp [after, nobody]
  | append_singleton requests last induction =>
      have other (different : requests.length ≠ time) :
          (time, ticket) ∉ (leaving (after requests) last).map (requests.length, ·) := by
        intro member
        obtain ⟨_, -, same⟩ := List.mem_map.mp member
        exact different (congrArg Prod.fst same)
      rw [after_append_one, handled, List.mem_append, induction]
      rcases Nat.lt_trichotomy time requests.length with early | now | late
      · rw [List.getElem?_append_left early, List.take_append_of_le_length (Nat.le_of_lt early)]
        simp [other (Nat.ne_of_gt early)]
      · subst now
        simp [List.take_left']
      · have before : requests[time]? = none := List.getElem?_eq_none (Nat.le_of_lt late)
        have now : (requests ++ [last])[time]? = none :=
          List.getElem?_eq_none (List.length_append ▸ late)
        simp [before, now, other (Nat.ne_of_lt late)]

theorem mem_returned_iff (requests : List ParkingRequest) (time : Nat) (ticket : Ticket) :
    (time, ticket) ∈ (after requests).returned ↔
      ∃ key, requests[time]? = some (.take key) ∧
        ((after (requests.take time)).named key).head? = some ticket := by
  rw [mem_after_iff returned returnedBy rfl fun _ _ _ => rfl]
  constructor
  · rintro ⟨request, asked, member⟩
    cases request with
    | take key => exact ⟨key, asked, Option.mem_toList.mp member⟩
    | _ => cases member
  · rintro ⟨key, asked, head⟩
    exact ⟨.take key, asked, Option.mem_toList.mpr head⟩

theorem mem_dropped_iff (requests : List ParkingRequest) (time : Nat) (ticket : Ticket) :
    (time, ticket) ∈ (after requests).dropped ↔
      ∃ key, requests[time]? = some (.take key) ∧
        ticket ∈ ((after (requests.take time)).named key).tail := by
  rw [mem_after_iff dropped droppedBy rfl fun _ _ _ => rfl]
  constructor
  · rintro ⟨request, asked, member⟩
    cases request with
    | take key => exact ⟨key, asked, member⟩
    | _ => cases member
  · rintro ⟨key, asked, member⟩
    exact ⟨.take key, asked, member⟩

theorem mem_cleared_iff (requests : List ParkingRequest) (time : Nat) (ticket : Ticket) :
    (time, ticket) ∈ (after requests).cleared ↔
      requests[time]? = some .clear ∧ ticket ∈ (after (requests.take time)).pending := by
  rw [mem_after_iff cleared clearedBy rfl fun _ _ _ => rfl]
  constructor
  · rintro ⟨request, asked, member⟩
    cases request with
    | clear => exact ⟨asked, member⟩
    | _ => cases member
  · rintro ⟨asked, member⟩
    exact ⟨.clear, asked, member⟩

theorem everyone_after (requests : List ParkingRequest) :
    (after requests).everyone.Perm (tickets requests) := by
  induction requests using List.reverseRecOn with
  | nil => exact .nil
  | append_singleton requests last induction =>
      rw [after_append_one, tickets_append_one]
      exact (everyone_handle _ _ last).trans (induction.append_right _)

theorem pending_after (requests : List ParkingRequest) :
    (after requests).pending.map (·.bundle) = (SettlementQueue.after requests).pending := by
  induction requests using List.reverseRecOn with
  | nil => rfl
  | append_singleton requests last induction =>
      rw [after_append_one, SettlementQueue.after_append_one]
      exact pending_handle induction _ last

theorem pending_sublist_tickets (requests : List ParkingRequest) :
    (after requests).pending.Sublist (tickets requests) := by
  induction requests using List.reverseRecOn with
  | nil => exact .slnil
  | append_singleton requests last induction =>
      rw [after_append_one, tickets_append_one]
      cases last with
      | enqueue bundle => exact induction.append (.refl _)
      | take key =>
          exact List.filter_sublist.trans (induction.trans (List.sublist_append_left _ _))
      | clear => exact List.nil_sublist _

theorem tickets_rising (requests : List ParkingRequest) :
    (tickets requests).Pairwise (·.number < ·.number) := by
  induction requests using List.reverseRecOn with
  | nil => exact .nil
  | append_singleton requests last induction =>
      rw [tickets_append_one]
      cases last with
      | enqueue bundle =>
          refine List.pairwise_append.mpr ⟨induction, List.pairwise_singleton _ _, ?_⟩
          intro ticket issued other last
          exact List.mem_singleton.mp last ▸ number_lt_of_mem_tickets issued
      | take key => exact (List.append_nil (tickets requests)).symm ▸ induction
      | clear => exact (List.append_nil (tickets requests)).symm ▸ induction

theorem pending_rising (requests : List ParkingRequest) :
    (after requests).pending.Pairwise (·.number < ·.number) :=
  (tickets_rising requests).sublist (pending_sublist_tickets requests)

/-- The oldest bundle with a key is the first of those that carry it. -/
theorem head_le_of_mem_named {requests : List ParkingRequest} {key : SettlementKey}
    {first other : Ticket} (head : ((after requests).named key).head? = some first)
    (carries : other ∈ (after requests).named key) : first.number ≤ other.number := by
  obtain ⟨rest, split⟩ := List.head?_eq_some_iff.mp head
  have rising : (first :: rest).Pairwise (·.number < ·.number) :=
    split ▸ (pending_rising requests).filter _
  rw [split] at carries
  cases List.mem_cons.mp carries with
  | inl same => exact Nat.le_of_eq (congrArg Ticket.number same.symm)
  | inr later => exact Nat.le_of_lt (List.rel_of_pairwise_cons rising later)

/-- Whoever is dropped carries the key of an older one that is returned. -/
theorem exists_head_of_mem_tail {requests : List ParkingRequest} {key : SettlementKey}
    {ticket : Ticket} (dropped : ticket ∈ ((after requests).named key).tail) :
    ∃ first, ((after requests).named key).head? = some first ∧ first.number < ticket.number := by
  have rising : ((after requests).named key).Pairwise (·.number < ·.number) :=
    (pending_rising requests).filter _
  cases split : (after requests).named key with
  | nil =>
      rw [split] at dropped
      cases dropped
  | cons first rest =>
      rw [split] at dropped rising
      exact ⟨first, rfl, List.rel_of_pairwise_cons rising dropped⟩

end Parking

namespace SettlementQueue

/-- What a queue was asked is accounted for: each bundle that was parked is pending, returned,
dropped or cleared. -/
structure Conserved (requests : List ParkingRequest) (parking : Parking) : Prop where
  /-- Nobody is in two classes, or twice in one. -/
  once : parking.everyone.Nodup
  everyone : ∀ ticket, ticket ∈ parking.everyone ↔ ticket ∈ tickets requests
  pending : (after requests).pending = parking.pending.map (·.bundle)
  ordered : parking.pending.Pairwise (·.number < ·.number)
  returned : ∀ time bundle, answer? requests time = some bundle ↔
    ∃ ticket, (time, ticket) ∈ parking.returned ∧ ticket.bundle = bundle
  earliest : ∀ time ticket, (time, ticket) ∈ parking.returned →
    ∃ key, requests[time]? = some (.take key) ∧
      ticket ∈ (Parking.after (requests.take time)).named key ∧
      ∀ other ∈ (Parking.after (requests.take time)).named key, ticket.number ≤ other.number
  dropped : ∀ time ticket, (time, ticket) ∈ parking.dropped →
    ∃ key older, requests[time]? = some (.take key) ∧ (time, older) ∈ parking.returned ∧
      ticket ∈ (Parking.after (requests.take time)).named key ∧
      older ∈ (Parking.after (requests.take time)).named key ∧ older.number < ticket.number
  cleared : ∀ time ticket, (time, ticket) ∈ parking.cleared →
    requests[time]? = some .clear ∧ ticket ∈ (Parking.after (requests.take time)).pending
  answered : ∀ time key, requests[time]? = some (.take key) →
    ((answer? requests time).isSome = true ↔
      ∃ bundle ∈ (after (requests.take time)).pending, key.names bundle = true)
  exhausted : ∀ time key, requests[time]? = some (.take key) →
    ∀ bundle ∈ (after (requests.take (time + 1))).pending, key.names bundle = false

/-- Whatever a queue is asked, no bundle is lost, handed back twice or moved before another. -/
theorem conserved (requests : List ParkingRequest) :
    Conserved requests (Parking.after requests) := by
  have everyone := Parking.everyone_after requests
  constructor
  case once =>
    exact everyone.nodup_iff.mpr ((Parking.tickets_rising requests).imp
      fun below same => Nat.ne_of_lt below (congrArg Ticket.number same))
  case everyone => exact fun ticket => everyone.mem_iff
  case pending => exact (Parking.pending_after requests).symm
  case ordered => exact Parking.pending_rising requests
  case returned =>
    intro time bundle
    rw [answer?_eq_some_iff]
    constructor
    · rintro ⟨key, asked, taken⟩
      rw [Parking.named_head (Parking.pending_after _), Option.map_eq_some_iff] at taken
      obtain ⟨ticket, head, same⟩ := taken
      exact ⟨ticket, (Parking.mem_returned_iff ..).mpr ⟨key, asked, head⟩, same⟩
    · rintro ⟨ticket, member, rfl⟩
      obtain ⟨key, asked, head⟩ := (Parking.mem_returned_iff ..).mp member
      refine ⟨key, asked, ?_⟩
      rw [Parking.named_head (Parking.pending_after _), head, Option.map_some]
  case earliest =>
    intro time ticket member
    obtain ⟨key, asked, head⟩ := (Parking.mem_returned_iff ..).mp member
    exact ⟨key, asked, List.mem_of_mem_head? head,
      fun other => Parking.head_le_of_mem_named head⟩
  case dropped =>
    intro time ticket member
    obtain ⟨key, asked, dropped⟩ := (Parking.mem_dropped_iff ..).mp member
    obtain ⟨older, head, below⟩ := Parking.exists_head_of_mem_tail dropped
    exact ⟨key, older, asked, (Parking.mem_returned_iff ..).mpr ⟨key, asked, head⟩,
      List.mem_of_mem_tail dropped, List.mem_of_mem_head? head, below⟩
  case cleared => exact fun time ticket => (Parking.mem_cleared_iff ..).mp
  case answered =>
    intro time key asked
    rw [answer?, asked, Option.bind_some]
    exact isSome_take_iff _ key
  case exhausted =>
    intro time key asked bundle left
    rw [List.take_add_one, asked, Option.toList_some, after_append_one] at left
    exact names_of_mem_take left

/-- Of two bundles with one index the older comes back, and the other is dropped. -/
example : Parking.after [.enqueue { messages := [{ index := some "9", tag := some "a" }] },
    .enqueue { messages := [{ index := some "9" }] }, .take (.index "9"), .take (.tag "a")] =
      { returned := [(2, ⟨0, { messages := [{ index := some "9", tag := some "a" }] }⟩)]
        dropped := [(2, ⟨1, { messages := [{ index := some "9" }] }⟩)] } := rfl

end SettlementQueue

end Messenger

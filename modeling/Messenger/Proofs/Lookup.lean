import Mathlib.Data.List.Sort
import Messenger.Liveness

/-!
Looking keys up. A map is given by what it answers, and every way to change one changes its
answers in a known way. Round trips are tracked in such a map: recording a key puts it into
one round trip, and purging ends one and no other.
-/

namespace Messenger

namespace KeyMap

variable {α : Type}

theorem lookup_eq_some {entries : List (String × α)}
    (ordered : entries.Pairwise fun first second => first.1 < second.1) {key : String}
    {value : α} : entries.lookup key = some value ↔ (key, value) ∈ entries := by
  induction entries with
  | nil => simp
  | cons first rest induction =>
      obtain ⟨name, own⟩ := first
      have ⟨below, others⟩ := List.pairwise_cons.mp ordered
      rw [lookup_entry]
      split
      · rename_i same
        subst same
        constructor
        · intro found
          cases found
          exact List.mem_cons_self
        · intro member
          rcases List.mem_cons.mp member with same | inside
          · rw [(Prod.mk.inj same).2]
          · exact absurd (below _ inside) (String.lt_irrefl _)
      · rename_i different
        rw [induction others, List.mem_cons]
        exact (or_iff_right fun same => different (Prod.mk.inj same).1).symm

theorem get?_eq_some {map : KeyMap α} {key : String} {value : α} :
    map.get? key = some value ↔ (key, value) ∈ map.entries :=
  lookup_eq_some map.ordered

/-- Maps that answer alike are the same. -/
theorem ext_get? {left right : KeyMap α} (same : ∀ key, left.get? key = right.get? key) :
    left = right := by
  have members : ∀ entry, entry ∈ left.entries ↔ entry ∈ right.entries := by
    rintro ⟨key, value⟩
    rw [← get?_eq_some, ← get?_eq_some, same]
  have antisymmetric : Std.Antisymm fun first second : String × α => first.1 < second.1 :=
    ⟨fun _ _ below above => absurd above (String.lt_asymm below)⟩
  have irreflexive : Std.Irrefl fun first second : String × α => first.1 < second.1 :=
    ⟨fun _ => String.lt_irrefl _⟩
  exact ext (left.ordered.eq_of_mem_iff right.ordered members)

theorem get?_filter (map : KeyMap α) (keep : String → α → Bool) (key : String) :
    (map.filter keep).get? key = (map.get? key).filter (keep key) := by
  apply Option.ext
  intro value
  rw [get?_eq_some, Option.filter_eq_some_iff, get?_eq_some]
  exact List.mem_filter

theorem get?_erase (map : KeyMap α) (key other : String) :
    (map.erase key).get? other = if other = key then none else map.get? other := by
  rw [erase, get?_filter]
  by_cases same : other = key <;> cases map.get? other <;> simp [same]

theorem get?_eraseAll (map : KeyMap α) (keys : List String) (key : String) :
    (map.eraseAll keys).get? key = if key ∈ keys then none else map.get? key := by
  induction keys generalizing map with
  | nil => simp
  | cons first rest induction =>
      rw [eraseAll_cons, induction, get?_erase]
      by_cases own : key = first <;> by_cases inside : key ∈ rest <;> simp [own, inside]

theorem get?_insertAll_entries (map : KeyMap α) {entries : List (String × α)}
    (ordered : entries.Pairwise fun first second => first.1 < second.1) (key : String) :
    (map.insertAll entries).get? key = (entries.lookup key <|> map.get? key) := by
  induction entries generalizing map with
  | nil => rfl
  | cons first rest induction =>
      obtain ⟨name, value⟩ := first
      have ⟨below, others⟩ := List.pairwise_cons.mp ordered
      rw [insertAll_cons, induction _ others, get?_insert, lookup_entry]
      by_cases same : key = name
      · -- a key stands once, so the rest does not overwrite it
        have once : rest.lookup key = none := by
          refine Option.eq_none_iff_forall_ne_some.mpr fun later found => ?_
          have member := (lookup_eq_some others).mp found
          exact String.lt_irrefl _ (same ▸ below _ member)
        rw [once, if_pos same, if_pos same]
        rfl
      · rw [if_neg same, if_neg same]

/-- Entries of the other map win. -/
theorem get?_insertAll (map other : KeyMap α) (key : String) :
    (map.insertAll other.entries).get? key = (other.get? key <|> map.get? key) :=
  map.get?_insertAll_entries other.ordered key

end KeyMap

namespace Liveness

theorem timestamp?_record (liveness : Liveness) (key other : String) (timestamp : UInt64) :
    (liveness.record key timestamp).timestamp? other =
      if other = key ∧ key ≠ "" then some timestamp else liveness.timestamp? other := by
  unfold record timestamp?
  by_cases empty : key = ""
  · simp [empty]
  · rw [if_neg empty]
    simp [KeyMap.get?_insert, empty]

theorem timestamp?_purge (liveness : Liveness) (timestamp : UInt64) (key : String) :
    (liveness.purge timestamp).timestamp? key =
      (liveness.timestamp? key).filter (· != timestamp) :=
  KeyMap.get?_filter _ _ _

theorem bind_timestamp?_purge {liveness : Liveness} {key : Option String}
    {ended timestamp : UInt64} :
    key.bind (liveness.purge ended).timestamp? = some timestamp ↔
      key.bind liveness.timestamp? = some timestamp ∧ timestamp ≠ ended := by
  cases key with
  | none => simp
  | some key => simp [timestamp?_purge]

end Liveness

end Messenger

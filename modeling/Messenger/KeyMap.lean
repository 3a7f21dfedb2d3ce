/-!
Finite maps whose keys are texts. Entries are kept in the order of their keys, each
key once, so two maps with the same entries are equal.
-/

namespace Messenger

structure KeyMap (α : Type) where
  entries : List (String × α)
  ordered : entries.Pairwise fun first second => first.1 < second.1

namespace KeyMap

variable {α : Type}

def empty : KeyMap α :=
  ⟨[], .nil⟩

instance : EmptyCollection (KeyMap α) := ⟨empty⟩

instance : Inhabited (KeyMap α) := ⟨empty⟩

@[ext] theorem ext {left right : KeyMap α} (same : left.entries = right.entries) :
    left = right := by
  cases left
  cases right
  simp_all

instance [DecidableEq α] : DecidableEq (KeyMap α) := fun left right =>
  decidable_of_iff (left.entries = right.entries)
    ⟨ext, fun same => same ▸ rfl⟩

instance [Repr α] : Repr (KeyMap α) := ⟨fun map prec => reprPrec map.entries prec⟩

def get? (map : KeyMap α) (key : String) : Option α :=
  map.entries.lookup key

def size (map : KeyMap α) : Nat :=
  map.entries.length

def isEmpty (map : KeyMap α) : Bool :=
  map.entries.isEmpty

def keys (map : KeyMap α) : List String :=
  map.entries.map Prod.fst

def insertEntry (key : String) (value : α) : List (String × α) → List (String × α)
  | [] => [(key, value)]
  | entry :: rest =>
    if key < entry.1 then (key, value) :: entry :: rest
    else if key = entry.1 then (key, value) :: rest
    else entry :: insertEntry key value rest

theorem mem_insertEntry {key : String} {value : α} {entry : String × α}
    {entries : List (String × α)} (member : entry ∈ insertEntry key value entries) :
    entry = (key, value) ∨ entry ∈ entries := by
  induction entries with
  | nil => simp_all [insertEntry]
  | cons first rest induction =>
    unfold insertEntry at member
    split at member
    · simpa using member
    · split at member
      · rcases List.mem_cons.mp member with same | inside
        · exact Or.inl same
        · exact Or.inr (List.mem_cons_of_mem _ inside)
      · rcases List.mem_cons.mp member with same | inside
        · exact Or.inr (same ▸ List.mem_cons_self)
        · exact (induction inside).imp id (List.mem_cons_of_mem _)

theorem lt_of_not_lt_of_ne {left right : String} (notLess : ¬left < right)
    (different : left ≠ right) : right < left := by
  cases String.le_total left right with
  | inl below =>
      exact absurd (String.le_antisymm below (String.not_lt.mp notLess)) different
  | inr above =>
      exact String.not_le.mp fun below => different (String.le_antisymm below above)

theorem insertEntry_ordered (key : String) (value : α) {entries : List (String × α)}
    (ordered : entries.Pairwise fun first second => first.1 < second.1) :
    (insertEntry key value entries).Pairwise fun first second => first.1 < second.1 := by
  induction entries with
  | nil => simp [insertEntry]
  | cons first rest induction =>
    have ⟨first_lt, rest_ordered⟩ := List.pairwise_cons.mp ordered
    unfold insertEntry
    split
    · rename_i less
      refine List.pairwise_cons.mpr ⟨fun entry member => ?_, ordered⟩
      cases List.mem_cons.mp member with
      | inl same => exact same ▸ less
      | inr inside => exact String.lt_trans less (first_lt entry inside)
    · split
      · rename_i same
        exact List.pairwise_cons.mpr
          ⟨fun entry inside => same ▸ first_lt entry inside, rest_ordered⟩
      · rename_i notLess different
        refine List.pairwise_cons.mpr ⟨fun entry member => ?_, induction rest_ordered⟩
        cases mem_insertEntry member with
        | inl same => exact same ▸ lt_of_not_lt_of_ne notLess different
        | inr inside => exact first_lt entry inside

def insert (map : KeyMap α) (key : String) (value : α) : KeyMap α :=
  ⟨insertEntry key value map.entries, insertEntry_ordered key value map.ordered⟩

def filter (map : KeyMap α) (keep : String → α → Bool) : KeyMap α :=
  ⟨map.entries.filter fun entry => keep entry.1 entry.2, map.ordered.filter _⟩

def erase (map : KeyMap α) (key : String) : KeyMap α :=
  map.filter fun other _ => other != key

/-- Entries put in one after another; the last value given for a key stays. -/
def insertAll (map : KeyMap α) (entries : List (String × α)) : KeyMap α :=
  entries.foldl (fun map entry => map.insert entry.1 entry.2) map

def ofList (entries : List (String × α)) : KeyMap α :=
  insertAll ∅ entries

def eraseAll (map : KeyMap α) (keys : List String) : KeyMap α :=
  keys.foldl erase map

@[simp] theorem get?_empty (key : String) : (∅ : KeyMap α).get? key = none := rfl

@[simp] theorem insertAll_nil (map : KeyMap α) : map.insertAll [] = map := rfl

@[simp] theorem insertAll_cons (map : KeyMap α) (entry : String × α)
    (entries : List (String × α)) :
    map.insertAll (entry :: entries) =
      (map.insert entry.1 entry.2).insertAll entries := rfl

@[simp] theorem eraseAll_nil (map : KeyMap α) : map.eraseAll [] = map := rfl

@[simp] theorem eraseAll_cons (map : KeyMap α) (key : String) (keys : List String) :
    map.eraseAll (key :: keys) = (map.erase key).eraseAll keys := rfl

theorem lookup_entry (key name : String) (value : α) (rest : List (String × α)) :
    ((name, value) :: rest).lookup key =
      if key = name then some value else rest.lookup key := by
  rw [List.lookup_cons]
  by_cases same : key = name
  · simp [same]
  · rw [beq_false_of_ne same, if_neg same]

theorem lookup_insertEntry (key other : String) (value : α)
    (entries : List (String × α)) :
    (insertEntry key value entries).lookup other =
      if other = key then some value else entries.lookup other := by
  induction entries with
  | nil => exact lookup_entry other key value []
  | cons first rest induction =>
    obtain ⟨name, old⟩ := first
    unfold insertEntry
    split
    · rw [lookup_entry]
    · split
      · rename_i same
        simp only at same
        rw [lookup_entry, lookup_entry, ← same]
        split <;> rfl
      · rename_i different
        simp only at different
        rw [lookup_entry, lookup_entry, induction]
        by_cases same : other = name
        · subst same
          simp [Ne.symm different]
        · rw [if_neg same, if_neg same]

theorem get?_insert (map : KeyMap α) (key other : String) (value : α) :
    (map.insert key value).get? other =
      if other = key then some value else map.get? other :=
  lookup_insertEntry key other value map.entries

theorem insertEntry_last {key : String} {value : α} {entries : List (String × α)}
    (after : ∀ entry ∈ entries, entry.1 < key) :
    insertEntry key value entries = entries ++ [(key, value)] := by
  induction entries with
  | nil => rfl
  | cons first rest induction =>
      have below : first.1 < key := after first List.mem_cons_self
      have notAbove : ¬key < first.1 := String.lt_asymm below
      have different : key ≠ first.1 := by
        intro same
        exact String.lt_irrefl key (same ▸ below)
      rw [insertEntry, if_neg notAbove, if_neg different,
        induction fun entry member => after entry (List.mem_cons_of_mem _ member)]
      rfl

/-- Entries put in by rising keys stay in that order. -/
theorem entries_insertAll (map : KeyMap α) (entries : List (String × α))
    (rising : (map.entries ++ entries).Pairwise fun first second => first.1 < second.1) :
    (map.insertAll entries).entries = map.entries ++ entries := by
  induction entries generalizing map with
  | nil => simp
  | cons entry rest induction =>
      have after : ∀ other ∈ map.entries, other.1 < entry.1 := by
        intro other member
        exact (List.pairwise_append.mp rising).2.2 other member entry List.mem_cons_self
      have inserted : (map.insert entry.1 entry.2).entries = map.entries ++ [entry] :=
        insertEntry_last after
      rw [insertAll_cons, induction, inserted, List.append_assoc]
      · rfl
      · rw [inserted, List.append_assoc]
        exact rising

theorem entries_ofList {entries : List (String × α)}
    (rising : entries.Pairwise fun first second => first.1 < second.1) :
    (ofList entries).entries = entries :=
  entries_insertAll ∅ entries rising

@[simp] theorem ofList_entries (map : KeyMap α) : ofList map.entries = map :=
  ext (entries_ofList map.ordered)

end KeyMap

end Messenger

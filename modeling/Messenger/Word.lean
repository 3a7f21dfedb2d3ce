/-!
Counters, indices and times are 64-bit words. Adding to one stops at the largest
word; it never wraps.
-/

namespace Messenger

namespace Word

def largest : UInt64 := 18446744073709551615

def saturatingAdd (left right : UInt64) : UInt64 :=
  if left.toNat + right.toNat ≤ largest.toNat then left + right else largest

/-- The next word, or the largest again. -/
def next (word : UInt64) : UInt64 :=
  saturatingAdd word 1

def ofCount (count : Nat) : UInt64 :=
  UInt64.ofNat (min count largest.toNat)

theorem toNat_largest : largest.toNat = 18446744073709551615 := rfl

theorem le_largest (word : UInt64) : word ≤ largest :=
  UInt64.le_iff_toNat_le.mpr (Nat.le_of_lt_succ word.toNat_lt)

theorem toNat_ofCount (count : Nat) :
    (ofCount count).toNat = min count largest.toNat := by
  rw [ofCount, UInt64.toNat_ofNat', toNat_largest]
  omega

theorem toNat_saturatingAdd (left right : UInt64) :
    (saturatingAdd left right).toNat = min (left.toNat + right.toNat) largest.toNat := by
  unfold saturatingAdd
  split
  · rename_i fits
    rw [UInt64.toNat_add]
    rw [toNat_largest] at fits ⊢
    omega
  · omega

theorem toNat_next (word : UInt64) :
    (next word).toNat = min (word.toNat + 1) largest.toNat :=
  toNat_saturatingAdd word 1

/-- The words below the next one are those up to this one, the largest word apart. -/
theorem lt_next_iff {word other : UInt64} (below : other < largest) :
    other < next word ↔ other ≤ word := by
  have bound : other.toNat < largest.toNat := UInt64.lt_iff_toNat_lt.mp below
  rw [UInt64.lt_iff_toNat_lt, UInt64.le_iff_toNat_le, toNat_next]
  omega

theorem next_le_iff {word other : UInt64} (below : word < largest) :
    next word ≤ other ↔ word < other := by
  have bound : word.toNat < largest.toNat := UInt64.lt_iff_toNat_lt.mp below
  rw [UInt64.le_iff_toNat_le, UInt64.lt_iff_toNat_lt, toNat_next, Nat.min_eq_left bound]
  exact Nat.succ_le_iff

theorem le_pred_iff {word other : UInt64} (positive : word ≠ 0) :
    other ≤ word - 1 ↔ other < word := by
  have apart : word.toNat ≠ 0 := fun zero => positive (UInt64.toNat_inj.mp zero)
  have covered : (1 : UInt64) ≤ word := by
    rw [UInt64.le_iff_toNat_le]
    exact Nat.one_le_iff_ne_zero.mpr apart
  rw [UInt64.le_iff_toNat_le, UInt64.lt_iff_toNat_lt, UInt64.toNat_sub_of_le _ _ covered]
  exact Nat.le_sub_one_iff_lt (Nat.pos_of_ne_zero apart)

theorem max_eq (left right : UInt64) :
    max left right = if left ≤ right then right else left := rfl

theorem min_eq (left right : UInt64) :
    min left right = if left ≤ right then left else right := rfl

theorem toNat_min (left right : UInt64) :
    (min left right).toNat = min left.toNat right.toNat := by
  rw [min_eq]
  split
  · rename_i below
    exact (Nat.min_eq_left (UInt64.le_iff_toNat_le.mp below)).symm
  · rename_i above
    rw [UInt64.le_iff_toNat_le] at above
    omega

theorem le_of_not_le {left right : UInt64} (above : ¬left ≤ right) : right ≤ left :=
  (UInt64.le_total left right).resolve_left above

instance lawfulOrderMax : Std.LawfulOrderMax UInt64 :=
  .of_max_le_iff
    (fun left right other => by
      rw [max_eq]
      split
      · exact ⟨fun bound => ⟨UInt64.le_trans ‹_› bound, bound⟩, And.right⟩
      · refine ⟨fun bound => ⟨bound, ?_⟩, And.left⟩
        exact UInt64.le_trans (le_of_not_le ‹_›) bound)
    fun left right => by
      rw [max_eq]
      split
      · exact Or.inr rfl
      · exact Or.inl rfl

instance lawfulOrderMin : Std.LawfulOrderMin UInt64 :=
  .of_le_min_iff
    (fun left right other => by
      rw [min_eq]
      split
      · exact ⟨fun bound => ⟨bound, UInt64.le_trans bound ‹_›⟩, And.left⟩
      · refine ⟨fun bound => ⟨?_, bound⟩, And.right⟩
        exact UInt64.le_trans bound (le_of_not_le ‹_›))
    fun left right => by
      rw [min_eq]
      split
      · exact Or.inl rfl
      · exact Or.inr rfl

end Word

end Messenger

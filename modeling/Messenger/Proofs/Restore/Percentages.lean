import Messenger.Restore.Progress
import Messenger.Word

/-!
The percentages of a restore as numbers. A share is what is done of a weight, rounded down; it
rises with what is done and falls with what there is to do, and in words of fixed widths it
comes out the same.
-/

namespace Messenger

namespace RestoreProgress

variable {progress next : RestoreProgress}

theorem share_le (restored total : UInt64) (weight : UInt8) :
    (min restored total).toNat * weight.toNat / total.toNat ≤ weight.toNat := by
  apply Nat.div_le_of_le_mul
  apply Nat.mul_le_mul_right
  exact UInt64.le_iff_toNat_le.mp Std.min_le_right

theorem toNat_weighted (restored total : UInt64) (weight : UInt8) :
    (weighted restored total weight).toNat =
      if total = 0 then weight.toNat
      else (min restored total).toNat * weight.toNat / total.toNat := by
  have small : (min restored total).toNat * weight.toNat / total.toNat < UInt8.size :=
    Nat.lt_of_le_of_lt (share_le restored total weight) weight.toNat_lt
  unfold weighted
  split
  · rfl
  · dsimp only
    rw [if_pos small, UInt8.toNat_ofNat_of_lt' small]

theorem weighted_le (restored total : UInt64) (weight : UInt8) :
    weighted restored total weight ≤ weight := by
  rw [UInt8.le_iff_toNat_le, toNat_weighted]
  split
  · exact Nat.le_refl _
  · exact share_le restored total weight

/-- More that is done of no more work is no smaller a share. -/
theorem weighted_mono {restored further total fewer : UInt64} (more : restored ≤ further)
    (less : fewer ≤ total) (weight : UInt8) :
    weighted restored total weight ≤ weighted further fewer weight := by
  rw [UInt64.le_iff_toNat_le] at more less
  by_cases complete : fewer ≤ further
  · have whole : weighted further fewer weight = weight := by
      rw [← UInt8.toNat_inj, toNat_weighted]
      split
      · rfl
      · rename_i some
        have positive : 0 < fewer.toNat :=
          Nat.pos_of_ne_zero fun zero => some (UInt64.toNat_inj.mp zero)
        rw [Word.toNat_min, Nat.min_eq_right (UInt64.le_iff_toNat_le.mp complete),
          Nat.mul_div_cancel_left _ positive]
    rw [whole]
    exact weighted_le restored total weight
  · rw [UInt64.le_iff_toNat_le, Nat.not_le] at complete
    have positive : 0 < fewer.toNat := Nat.zero_lt_of_lt complete
    have some : fewer ≠ 0 := by
      rintro rfl
      exact Nat.lt_irrefl _ positive
    have left : total ≠ 0 := by
      rintro rfl
      exact Nat.lt_irrefl _ (Nat.lt_of_lt_of_le positive less)
    rw [UInt8.le_iff_toNat_le, toNat_weighted, toNat_weighted, if_neg some, if_neg left,
      Word.toNat_min, Word.toNat_min]
    refine Nat.div_le_div (Nat.mul_le_mul_right _ ?_) less (Nat.ne_of_gt positive)
    omega

def wide {width : Nat} (word : BitVec width) : BitVec 128 :=
  word.setWidth 128

def wideShare (restored total : UInt64) (weight : UInt8) : BitVec 128 :=
  wide (min restored total).toBitVec * wide weight.toBitVec / wide total.toBitVec

/-- Words of 128 bits hold what is computed for a share, and one of eight bits the share: none
of it is cut off, and no other value has to stand in. -/
structure FitsWords (restored total : UInt64) (weight : UInt8) : Prop where
  product : (wide (min restored total).toBitVec).umulOverflow (wide weight.toBitVec) = false
  quotient : (wideShare restored total weight).toNat =
    (min restored total).toNat * weight.toNat / total.toNat
  share : (wideShare restored total weight).toNat < UInt8.size
  share_eq : total ≠ 0 → (weighted restored total weight).toNat =
    (wideShare restored total weight).toNat

theorem toNat_wide {width : Nat} (fits : width ≤ 128) (word : BitVec width) :
    (wide word).toNat = word.toNat :=
  BitVec.toNat_setWidth_of_le fits

theorem product_fits (restored total : UInt64) (weight : UInt8) :
    (wide (min restored total).toBitVec).umulOverflow (wide weight.toBitVec) = false := by
  rw [BitVec.umulOverflow, toNat_wide (by decide), toNat_wide (by decide)]
  have least := (min restored total).toNat_lt
  have small := weight.toNat_lt
  have bound : (min restored total).toNat * weight.toNat < 2 ^ 64 * 2 ^ 8 :=
    Nat.mul_lt_mul'' least small
  refine decide_eq_false ?_
  show ¬2 ^ 128 ≤ (min restored total).toNat * weight.toNat
  omega

theorem toNat_wideShare (restored total : UInt64) (weight : UInt8) :
    (wideShare restored total weight).toNat =
      (min restored total).toNat * weight.toNat / total.toNat := by
  have product := BitVec.toNat_mul_of_not_umulOverflow
    (Bool.not_eq_true _ ▸ product_fits restored total weight)
  rw [wideShare, BitVec.toNat_udiv, product, toNat_wide (by decide), toNat_wide (by decide),
    toNat_wide (by decide)]
  rfl

theorem fitsWords (restored total : UInt64) (weight : UInt8) :
    FitsWords restored total weight where
  product := product_fits restored total weight
  quotient := toNat_wideShare restored total weight
  share := by
    rw [toNat_wideShare]
    exact Nat.lt_of_le_of_lt (share_le restored total weight) weight.toNat_lt
  share_eq := fun some => by rw [toNat_wideShare, toNat_weighted, if_neg some]

theorem toNat_contactsPercentage (progress : RestoreProgress) :
    progress.contactsPercentage.toNat =
      if progress.contactsTotal = 0 then 4
      else 4 * min progress.contactsHighestIndex.toNat progress.contactsTotal.toNat /
        progress.contactsTotal.toNat := by
  rw [contactsPercentage, toNat_weighted, Word.toNat_min, Nat.mul_comm]
  rfl

theorem contactsPercentage_le (progress : RestoreProgress) :
    progress.contactsPercentage ≤ contactsWeight :=
  weighted_le _ _ _

theorem contactsPercentage_mono (total : next.contactsTotal ≤ progress.contactsTotal)
    (further : progress.contactsHighestIndex ≤ next.contactsHighestIndex) :
    progress.contactsPercentage ≤ next.contactsPercentage :=
  weighted_mono further total contactsWeight

/-- The share of the messages and the whole of the contacts' are at most all. -/
theorem messagesShare_le (progress : RestoreProgress) :
    contactsWeight.toNat + (weighted progress.messagesRestored progress.messagesTotal
      messagesWeight).toNat ≤ 100 :=
  Nat.add_le_add_left (UInt8.le_iff_toNat_le.mp (weighted_le _ _ _)) 4

/-- All messages are restored, or their share is added to the whole of the contacts'. -/
theorem toNat_messagesPercentage (progress : RestoreProgress) :
    progress.messagesPercentage.toNat =
      if progress.messagesTotal ≤ progress.messagesRestored then 100
      else 4 + (weighted progress.messagesRestored progress.messagesTotal
        messagesWeight).toNat := by
  have share := progress.messagesShare_le
  unfold messagesPercentage
  split
  · rfl
  · rw [UInt8.toNat_add, Nat.mod_eq_of_lt (Nat.lt_of_le_of_lt share (by decide))]
    rfl

theorem toNat_messagesPercentage_of_lt
    (left : progress.messagesRestored < progress.messagesTotal) :
    progress.messagesPercentage.toNat =
      4 + 96 * progress.messagesRestored.toNat / progress.messagesTotal.toNat := by
  have some : progress.messagesTotal ≠ 0 := by
    intro none
    exact UInt64.not_lt_zero (none ▸ left)
  rw [toNat_messagesPercentage, if_neg (UInt64.not_le.mpr left), toNat_weighted, if_neg some,
    Word.min_eq, if_pos (UInt64.le_of_lt left), Nat.mul_comm]
  rfl

/-- The last percent belongs to the last message. -/
theorem messagesPercentage_lt (left : progress.messagesRestored < progress.messagesTotal) :
    progress.messagesPercentage < 100 := by
  rw [UInt8.lt_iff_toNat_lt, toNat_messagesPercentage_of_lt left]
  have share : 96 * progress.messagesRestored.toNat / progress.messagesTotal.toNat < 96 := by
    apply Nat.div_lt_of_lt_mul
    rw [Nat.mul_comm]
    exact Nat.mul_lt_mul_of_pos_right (UInt64.lt_iff_toNat_lt.mp left) (by decide)
  show _ < 100
  omega

theorem messagesPercentage_eq_iff :
    progress.messagesPercentage = 100 ↔ progress.messagesTotal ≤ progress.messagesRestored := by
  constructor
  · intro whole
    refine UInt64.not_lt.mp fun left => ?_
    exact UInt8.ne_of_lt (messagesPercentage_lt left) whole
  · exact fun complete => if_pos complete

theorem messagesPercentage_start (restored : progress.messagesRestored = 0)
    (some : progress.messagesTotal ≠ 0) : progress.messagesPercentage = contactsWeight := by
  have left : progress.messagesRestored < progress.messagesTotal := by
    rw [restored]
    exact UInt64.pos_iff_ne_zero.mpr some
  rw [← UInt8.toNat_inj, toNat_messagesPercentage_of_lt left, restored]
  show 4 + 0 / progress.messagesTotal.toNat = 4
  rw [Nat.zero_div]

theorem contactsWeight_le_messagesPercentage (progress : RestoreProgress) :
    contactsWeight ≤ progress.messagesPercentage := by
  rw [UInt8.le_iff_toNat_le, toNat_messagesPercentage]
  show 4 ≤ _
  split <;> omega

theorem messagesPercentage_le (progress : RestoreProgress) :
    progress.messagesPercentage ≤ 100 := by
  rw [UInt8.le_iff_toNat_le, toNat_messagesPercentage]
  split
  · exact Nat.le_refl _
  · exact progress.messagesShare_le

theorem messagesPercentage_mono (total : next.messagesTotal ≤ progress.messagesTotal)
    (more : progress.messagesRestored ≤ next.messagesRestored) :
    progress.messagesPercentage ≤ next.messagesPercentage := by
  by_cases complete : next.messagesTotal ≤ next.messagesRestored
  · rw [messagesPercentage_eq_iff.mpr complete]
    exact progress.messagesPercentage_le
  · have left : ¬progress.messagesTotal ≤ progress.messagesRestored := fun bound =>
      complete (UInt64.le_trans total (UInt64.le_trans bound more))
    rw [UInt8.le_iff_toNat_le, toNat_messagesPercentage, toNat_messagesPercentage,
      if_neg left, if_neg complete]
    exact Nat.add_le_add_left (UInt8.le_iff_toNat_le.mp (weighted_mono more total _)) 4

theorem sum_fits (progress : RestoreProgress) :
    contactsWeight.toBitVec.uaddOverflow
      (weighted progress.messagesRestored progress.messagesTotal messagesWeight).toBitVec =
        false := by
  refine decide_eq_false (Nat.not_le.mpr ?_)
  exact Nat.lt_of_le_of_lt progress.messagesShare_le (by decide)

/-- The percentages as they are meant, and that words are wide enough to compute them. -/
structure Exact (progress : RestoreProgress) : Prop where
  contacts : progress.contactsPercentage.toNat =
    if progress.contactsTotal = 0 then 4
    else 4 * min progress.contactsHighestIndex.toNat progress.contactsTotal.toNat /
      progress.contactsTotal.toNat
  messages_between : 4 ≤ progress.messagesPercentage ∧ progress.messagesPercentage ≤ 100
  messages_whole : progress.messagesPercentage = 100 ↔
    progress.messagesTotal ≤ progress.messagesRestored
  messages_part : progress.messagesRestored < progress.messagesTotal →
    progress.messagesPercentage.toNat =
      4 + 96 * progress.messagesRestored.toNat / progress.messagesTotal.toNat
  contacts_fits : FitsWords progress.contactsHighestIndex progress.contactsTotal contactsWeight
  messages_fits : FitsWords progress.messagesRestored progress.messagesTotal messagesWeight
  sum_fits : contactsWeight.toBitVec.uaddOverflow
    (weighted progress.messagesRestored progress.messagesTotal messagesWeight).toBitVec = false

/-- The percentages are exact for all counters, rise with what is restored and fall with what
there is to restore. -/
theorem percentages_exact (progress : RestoreProgress) :
    progress.Exact ∧
      ∀ next : RestoreProgress,
        (progress.contactsHighestIndex ≤ next.contactsHighestIndex →
          next.contactsTotal ≤ progress.contactsTotal →
            progress.contactsPercentage ≤ next.contactsPercentage) ∧
        (progress.messagesRestored ≤ next.messagesRestored →
          next.messagesTotal ≤ progress.messagesTotal →
            progress.messagesPercentage ≤ next.messagesPercentage) := by
  refine ⟨?_, fun next => ⟨fun further total => contactsPercentage_mono total further,
    fun more total => messagesPercentage_mono total more⟩⟩
  exact {
    contacts := progress.toNat_contactsPercentage
    messages_between :=
      ⟨progress.contactsWeight_le_messagesPercentage, progress.messagesPercentage_le⟩
    messages_whole := messagesPercentage_eq_iff
    messages_part := toNat_messagesPercentage_of_lt
    contacts_fits := fitsWords _ _ _
    messages_fits := fitsWords _ _ _
    sum_fits := progress.sum_fits }

/-- All but the last of as many as there can be, so that the products exceed 64 bits. -/
def nearlyAll : RestoreProgress where
  contactsHighestIndex := 18446744073709551614
  contactsTotal := 18446744073709551615
  messagesRestored := 18446744073709551614
  messagesTotal := 18446744073709551615

theorem percentages_nearlyAll :
    nearlyAll.messagesRestored < nearlyAll.messagesTotal ∧
      18446744073709551616 ≤
        4 * min nearlyAll.contactsHighestIndex.toNat nearlyAll.contactsTotal.toNat ∧
      nearlyAll.contactsPercentage.toNat = 3 ∧
      nearlyAll.messagesPercentage.toNat = 99 ∧
      nearlyAll.contactsPercentage ≤
        { nearlyAll with contactsHighestIndex := 18446744073709551615 }.contactsPercentage ∧
      nearlyAll.messagesPercentage ≤
        { nearlyAll with messagesTotal := 18446744073709551614 }.messagesPercentage := by
  have left : nearlyAll.messagesRestored < nearlyAll.messagesTotal := by decide
  obtain ⟨meant, monotone⟩ := percentages_exact nearlyAll
  refine ⟨left, by decide, ?_, ?_, ?_, ?_⟩
  · rw [meant.contacts]
    decide
  · rw [meant.messages_part left]
    decide
  · exact (monotone _).1 (by decide) (UInt64.le_refl _)
  · exact (monotone _).2 (UInt64.le_refl _) (by decide)

end RestoreProgress

end Messenger

import UblkAzblob.Foundation.PowerLoss
import Mathlib.Algebra.BigOperators.Group.Finset.Basic
import Mathlib.Algebra.Order.BigOperators.Group.Finset

namespace Storage

/-- A write allocates its range of a sparse file, and a punch or a shorter length gives bytes back. -/
def FileOp.allocate (op : FileOp) (allocated : Nat → Bool) : Nat → Bool :=
  match op with
  | .write offset bytes => fun x => decide (offset ≤ x ∧ x < offset + bytes.length) || allocated x
  | .punch offset len => fun x => !decide (offset ≤ x ∧ x < offset + len) && allocated x
  | .setLen len => fun x => decide (x < len) && allocated x
  | .sync => allocated

/-- A region is vacant when none of its bytes is allocated. -/
def vacant (allocated : Nat → Bool) (offset len : Nat) : Bool :=
  (List.range len).all fun index => !allocated (offset + index)

theorem vacant_iff (allocated : Nat → Bool) (offset len : Nat) :
    vacant allocated offset len = true ↔ ∀ x, offset ≤ x → x < offset + len → allocated x = false := by
  simp only [vacant, List.all_eq_true, List.mem_range, Bool.not_eq_true']
  constructor
  · intro free x low high
    simpa [Nat.add_sub_cancel' low] using free (x - offset) (by omega)
  · intro free index inside
    exact free _ (by omega) (by omega)

/-- The punched region is vacant. -/
theorem vacant_punch (allocated : Nat → Bool) (offset len : Nat) :
    vacant ((FileOp.punch offset len).allocate allocated) offset len = true := by
  rw [vacant_iff]
  intro x low high
  simp [FileOp.allocate, low, high]

/-- A region that a non-empty write lies in is not vacant. -/
theorem vacant_write {offset len start : Nat} {bytes : List UInt8} (allocated : Nat → Bool)
    (some : bytes ≠ []) (low : offset ≤ start) (high : start + bytes.length ≤ offset + len) :
    vacant ((FileOp.write start bytes).allocate allocated) offset len = false := by
  have positive := List.length_pos_iff.mpr some
  rw [← Bool.not_eq_true, vacant_iff]
  intro free
  have own := free start low (by omega)
  simp only [FileOp.allocate, Bool.or_eq_false_iff, decide_eq_false_iff_not] at own
  omega

/-- A region that a write or a punch does not touch is as vacant as before. -/
theorem vacant_untouched {op : FileOp} {offset len : Nat} (allocated : Nat → Bool)
    (untouched : ∀ x, offset ≤ x → x < offset + len → op.touches x = false) :
    vacant (op.allocate allocated) offset len = vacant allocated offset len := by
  rw [Bool.eq_iff_iff, vacant_iff, vacant_iff]
  have same : ∀ x, offset ≤ x → x < offset + len → op.allocate allocated x = allocated x := by
    intro x low high
    have outside := untouched x low high
    cases op with
    | write start bytes =>
        simp only [FileOp.touches] at outside
        simp only [FileOp.allocate, outside, Bool.false_or]
    | punch start count =>
        simp only [FileOp.touches] at outside
        simp only [FileOp.allocate, outside, Bool.not_false, Bool.true_and]
    | setLen count => cases outside
    | sync => rfl
  constructor
  · intro free x low high
    rw [← same x low high]
    exact free x low high
  · intro free x low high
    rw [same x low high]
    exact free x low high

/-- The sum over the items that satisfy a test. -/
def sumWhere (count : Nat) (test : Nat → Bool) (weight : Nat → Nat) : Nat :=
  ∑ item ∈ Finset.range count, if test item then weight item else 0

/-- Two tests that differ at most on one item differ by its weight. -/
theorem sumWhere_change {count item : Nat} {test changed : Nat → Bool} (weight : Nat → Nat)
    (inside : item < count) (others : ∀ other, other < count → other ≠ item → changed other = test other) :
    sumWhere count changed weight + (if test item then weight item else 0) =
      sumWhere count test weight + if changed item then weight item else 0 := by
  have member := Finset.mem_range.mpr inside
  have rest : ∑ other ∈ (Finset.range count).erase item, (if changed other then weight other else 0) =
      ∑ other ∈ (Finset.range count).erase item, if test other then weight other else 0 := by
    apply Finset.sum_congr rfl
    intro other elsewhere
    obtain ⟨different, within⟩ := Finset.mem_erase.mp elsewhere
    rw [others other (Finset.mem_range.mp within) different]
  rw [sumWhere, sumWhere, ← Finset.sum_erase_add _ _ member, ← Finset.sum_erase_add _ _ member, rest]
  omega

/-- No test selects more than everything. -/
theorem sumWhere_le (count : Nat) (test : Nat → Bool) (weight : Nat → Nat) :
    sumWhere count test weight ≤ ∑ item ∈ Finset.range count, weight item := by
  apply Finset.sum_le_sum
  intro item _
  split
  · exact Nat.le_refl _
  · exact Nat.zero_le _

end Storage

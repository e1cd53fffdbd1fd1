import Mathlib.Algebra.GroupWithZero.Nat
import Mathlib.Data.List.Basic
import Mathlib.Tactic.Common

namespace Storage

/-- A byte store maps every offset to its byte. -/
abbrev Store := Nat → UInt8

/-- A missing position of a byte list reads as zero. -/
def byteAt (bytes : List UInt8) (index : Nat) : UInt8 := bytes.getD index 0

/-- The slice copies a range of the store. -/
def slice (store : Store) (offset len : Nat) : List UInt8 :=
  (List.range len).map fun index => store (offset + index)

/-- The splice overwrites a range of the store. -/
def splice (store : Store) (offset : Nat) (bytes : List UInt8) : Store := fun x =>
  if offset ≤ x ∧ x < offset + bytes.length then byteAt bytes (x - offset) else store x

/-- The zero fill clears a range of the store. -/
def zeroed (store : Store) (offset len : Nat) : Store := fun x =>
  if offset ≤ x ∧ x < offset + len then 0 else store x

/-- The mixture takes each marked sector from the new store. -/
def torn (keep : Nat → Bool) (old new : Store) : Store := fun x =>
  if keep (x / 512) then new x else old x

/-- Two stores agree on a half-open range. -/
def AgreeOn (low high : Nat) (first second : Store) : Prop :=
  ∀ x, low ≤ x → x < high → first x = second x

/-- The patch overwrites a range of a byte list in place. -/
def overwrite (bytes : List UInt8) (offset : Nat) (patch : List UInt8) : List UInt8 :=
  bytes.take offset ++ patch ++ bytes.drop (offset + patch.length)

@[simp] theorem length_slice (store : Store) (offset len : Nat) :
    (slice store offset len).length = len := by
  simp [slice]

theorem byteAt_slice (store : Store) (offset len index : Nat) :
    byteAt (slice store offset len) index = if index < len then store (offset + index) else 0 := by
  by_cases inside : index < len
  · simp [byteAt, slice, inside]
  · simp [byteAt, slice, inside]

@[simp] theorem byteAt_replicate (len index : Nat) :
    byteAt (List.replicate len 0) index = 0 := by
  by_cases inside : index < len <;> simp [byteAt, inside]

theorem byteAt_overwrite (bytes : List UInt8) (offset : Nat) (patch : List UInt8) (index : Nat)
    (fits : offset + patch.length ≤ bytes.length) :
    byteAt (overwrite bytes offset patch) index =
      if offset ≤ index ∧ index < offset + patch.length then byteAt patch (index - offset)
      else byteAt bytes index := by
  have taken : (bytes.take offset).length = offset := by
    rw [List.length_take]
    omega
  simp only [byteAt, overwrite, List.getD_eq_getElem?_getD]
  by_cases before : index < offset
  · rw [List.append_assoc, List.getElem?_append_left (by omega), List.getElem?_take_of_lt before]
    simp [show ¬ offset ≤ index by omega]
  · by_cases within : index < offset + patch.length
    · rw [List.getElem?_append_left (by simp only [List.length_append]; omega),
        List.getElem?_append_right (by omega), taken]
      simp [show offset ≤ index by omega, within]
    · rw [List.getElem?_append_right (by simp only [List.length_append]; omega), List.getElem?_drop]
      have position : offset + patch.length +
          (index - (bytes.take offset ++ patch).length) = index := by
        simp only [List.length_append, taken]
        omega
      rw [position]
      simp [within]

@[simp] theorem length_overwrite (bytes : List UInt8) (offset : Nat) (patch : List UInt8)
    (fits : offset + patch.length ≤ bytes.length) :
    (overwrite bytes offset patch).length = bytes.length := by
  simp only [overwrite, List.length_append, List.length_take, List.length_drop]
  omega

/-- A byte list is determined by its length and its bytes. -/
theorem bytes_ext {first second : List UInt8} (sameLength : first.length = second.length)
    (sameBytes : ∀ index, index < first.length → byteAt first index = byteAt second index) :
    first = second := by
  apply List.ext_getElem sameLength
  intro index inFirst inSecond
  have same := sameBytes index inFirst
  simpa [byteAt, inFirst, inSecond] using same

/-- A slice depends only on the bytes of its range. -/
theorem slice_congr {first second : Store} {offset len : Nat}
    (agree : AgreeOn offset (offset + len) first second) :
    slice first offset len = slice second offset len := by
  apply bytes_ext (by simp)
  intro index inside
  rw [length_slice] at inside
  simp only [byteAt_slice, if_pos inside]
  exact agree _ (by omega) (by omega)

/-- Two adjacent slices form the slice of the joined range. -/
theorem slice_append (store : Store) (offset first second : Nat) :
    slice store offset first ++ slice store (offset + first) second =
      slice store offset (first + second) := by
  simp only [slice, List.range_add, List.map_append, List.map_map]
  congr 1
  apply List.map_congr_left
  intro index _
  simp [Nat.add_assoc]

theorem splice_inside {store : Store} {offset : Nat} {bytes : List UInt8} {x : Nat}
    (low : offset ≤ x) (high : x < offset + bytes.length) :
    splice store offset bytes x = byteAt bytes (x - offset) := by
  simp [splice, low, high]

theorem splice_outside {store : Store} {offset : Nat} {bytes : List UInt8} {x : Nat}
    (outside : x < offset ∨ offset + bytes.length ≤ x) :
    splice store offset bytes x = store x := by
  rw [splice, if_neg]
  omega

/-- Writing zeros is a zero fill. -/
theorem splice_replicate (store : Store) (offset len : Nat) :
    splice store offset (List.replicate len 0) = zeroed store offset len := by
  funext x
  simp [splice, zeroed]

/-- An all-zero payload fills its range with zeros. -/
theorem splice_all_zero (store : Store) (offset : Nat) (bytes : List UInt8)
    (zero : ∀ byte ∈ bytes, byte = 0) :
    splice store offset bytes = zeroed store offset bytes.length := by
  rw [List.eq_replicate_of_mem zero, splice_replicate, List.length_replicate]

theorem AgreeOn.symm {low high : Nat} {first second : Store}
    (agree : AgreeOn low high first second) : AgreeOn low high second first :=
  fun x above below => (agree x above below).symm

theorem AgreeOn.trans {low high : Nat} {first second third : Store}
    (left : AgreeOn low high first second) (right : AgreeOn low high second third) :
    AgreeOn low high first third :=
  fun x above below => (left x above below).trans (right x above below)

theorem AgreeOn.mono {low high low' high' : Nat} {first second : Store}
    (agree : AgreeOn low high first second) (lower : low ≤ low') (upper : high' ≤ high) :
    AgreeOn low' high' first second :=
  fun x above below => agree x (by omega) (by omega)

/-- A splice of the slice of another store copies that store. -/
theorem splice_slice (store source : Store) (offset len x : Nat) :
    splice store offset (slice source offset len) x =
      if offset ≤ x ∧ x < offset + len then source x else store x := by
  simp only [splice, length_slice]
  split
  · rename_i inside
    rw [byteAt_slice, if_pos (by omega), show offset + (x - offset) = x by omega]
  · rfl

@[simp] theorem splice_nil (store : Store) (offset : Nat) : splice store offset [] = store := by
  funext x
  exact splice_outside (by simp only [List.length_nil]; omega)

/-- Two adjacent splices form the splice of the joined bytes. -/
theorem splice_append (store : Store) (offset : Nat) (first second : List UInt8) :
    splice (splice store offset first) (offset + first.length) second =
      splice store offset (first ++ second) := by
  funext x
  simp only [splice, List.length_append, byteAt, List.getD_eq_getElem?_getD]
  by_cases later : offset + first.length ≤ x
  · by_cases inside : x < offset + first.length + second.length
    · rw [if_pos (by omega), if_pos (by omega), List.getElem?_append_right (by omega)]
      congr 2
      omega
    · rw [if_neg (by omega), if_neg (by omega), if_neg (by omega)]
  · rw [if_neg (by omega)]
    by_cases inside : offset ≤ x
    · rw [if_pos (by omega), if_pos (by omega), List.getElem?_append_left (by omega)]
    · rw [if_neg (by omega), if_neg (by omega)]

/-- A splice keeps an agreement. -/
theorem splice_congr {low high : Nat} {first second : Store} (agree : AgreeOn low high first second)
    (offset : Nat) (bytes : List UInt8) :
    AgreeOn low high (splice first offset bytes) (splice second offset bytes) := by
  intro x above below
  simp only [splice, agree x above below]

end Storage

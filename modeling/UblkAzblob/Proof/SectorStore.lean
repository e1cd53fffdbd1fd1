import UblkAzblob.Construction.Buffered
import UblkAzblob.Foundation.Bytes

namespace UblkAzblob
open Storage

/-- A sector store answers from one byte array; a failed or dropped write may leave each sector of
its range old or new. -/
class SectorStore (Inner : Type) [BlobBackend Inner] where
  valid : Inner → Prop
  content : Inner → Store
  size : Inner → Nat
  aligned : ∀ inner, valid inner → size inner % 512 = 0 ∧ size inner < 2 ^ 64
  size_keeps : ∀ inner, valid inner → valid (BlobBackend.size inner).2 ∧
    content (BlobBackend.size inner).2 = content inner ∧ size (BlobBackend.size inner).2 = size inner
  size_exact : ∀ inner answer, valid inner → (BlobBackend.size inner).1 = .ok answer →
    answer = size inner
  read_keeps : ∀ inner offset len, valid inner → valid (BlobBackend.read offset len inner).2 ∧
    content (BlobBackend.read offset len inner).2 = content inner ∧
    size (BlobBackend.read offset len inner).2 = size inner
  read_exact : ∀ inner offset len bytes, valid inner → offset % 512 = 0 → len % 512 = 0 →
    offset + len ≤ size inner → (BlobBackend.read offset len inner).1 = .ok bytes →
    bytes = slice (content inner) offset len
  write_keeps : ∀ inner offset bytes, valid inner → offset % 512 = 0 → bytes.length % 512 = 0 →
    offset + bytes.length ≤ size inner → valid (BlobBackend.write offset bytes inner).2 ∧
    size (BlobBackend.write offset bytes inner).2 = size inner
  write_ok : ∀ inner offset bytes, valid inner → offset % 512 = 0 → bytes.length % 512 = 0 →
    offset + bytes.length ≤ size inner → (BlobBackend.write offset bytes inner).1 = .ok () →
    content (BlobBackend.write offset bytes inner).2 = splice (content inner) offset bytes
  write_torn : ∀ inner offset bytes, valid inner → offset % 512 = 0 → bytes.length % 512 = 0 →
    offset + bytes.length ≤ size inner →
    ∃ keep, content (BlobBackend.write offset bytes inner).2 =
      torn keep (content inner) (splice (content inner) offset bytes)
  abandon_torn : ∀ inner progress offset bytes, valid inner → offset % 512 = 0 →
    bytes.length % 512 = 0 → offset + bytes.length ≤ size inner →
    valid (BlobBackend.abandonWrite progress offset bytes inner) ∧
    size (BlobBackend.abandonWrite progress offset bytes inner) = size inner ∧
    ∃ keep, content (BlobBackend.abandonWrite progress offset bytes inner) =
      torn keep (content inner) (splice (content inner) offset bytes)
  flush_keeps : ∀ inner, valid inner → valid (BlobBackend.flush inner).2 ∧
    content (BlobBackend.flush inner).2 = content inner ∧ size (BlobBackend.flush inner).2 = size inner

/-- A torn write leaves every byte outside its range alone. -/
theorem torn_outside {keep : Nat → Bool} {store : Store} {offset : Nat} {bytes : List UInt8} {x : Nat}
    (outside : x < offset ∨ offset + bytes.length ≤ x) :
    torn keep store (splice store offset bytes) x = store x := by
  simp only [torn, splice_outside outside, ite_self]

theorem torn_all (old new : Store) : torn (fun _ => true) old new = new := by
  funext x
  simp [torn]

theorem torn_none (old new : Store) : torn (fun _ => false) old new = old := by
  funext x
  simp [torn]

/-- A write of leading sectors is a torn write. -/
theorem splice_take_torn (store : Store) {offset count : Nat} (data : List UInt8)
    (sectors : count = 0 ∨ (offset % 512 = 0 ∧ count % 512 = 0)) (bound : count ≤ data.length) :
    ∃ keep, splice store offset (data.take count) = torn keep store (splice store offset data) := by
  rcases sectors with rfl | ⟨offsetAligned, countAligned⟩
  · exact ⟨fun _ => false, by rw [torn_none, List.take_zero, splice_nil]⟩
  · refine ⟨fun sector => decide (sector < (offset + count) / 512), ?_⟩
    have length : (data.take count).length = count := by rw [List.length_take]; omega
    funext x
    have below : x / 512 < (offset + count) / 512 ↔ x < offset + count := by omega
    simp only [torn, decide_eq_true_eq, below, splice, length]
    by_cases early : x < offset + count
    · rw [if_pos early]
      by_cases inside : offset ≤ x
      · rw [if_pos ⟨inside, early⟩, if_pos ⟨inside, by omega⟩]
        simp only [byteAt, List.getD_eq_getElem?_getD,
          List.getElem?_take_of_lt (show x - offset < count by omega)]
      · rw [if_neg (by omega), if_neg (by omega)]
    · rw [if_neg early, if_neg (by omega)]

/-- The sector copies 512 bytes of the store. -/
def sector (store : Store) (index : Nat) : List UInt8 := slice store (512 * index) 512

/-- Every sector of the device satisfies the predicate. -/
def SectorsIn (device : Nat) (allowed : Nat → List UInt8 → Prop) (store : Store) : Prop :=
  ∀ index, 512 * index < device → allowed index (sector store index)

/-- Every sector of a written range satisfies the predicate. -/
def PayloadIn (allowed : Nat → List UInt8 → Prop) (offset : Nat) (payload : List UInt8) : Prop :=
  ∀ index, offset ≤ 512 * index → 512 * index + 512 ≤ offset + payload.length →
    allowed index ((payload.drop (512 * index - offset)).take 512)

section Sectors

variable {device : Nat} {allowed : Nat → List UInt8 → Prop} {store other : Store}

theorem SectorsIn.congr (sectors : SectorsIn device allowed store) (aligned : device % 512 = 0)
    (agree : AgreeOn 0 device other store) : SectorsIn device allowed other := by
  intro index inside
  rw [sector, slice_congr (agree.mono (Nat.zero_le _) (by omega))]
  exact sectors index inside

/-- A mixture of two allowed stores is allowed. -/
theorem SectorsIn.torn {keep : Nat → Bool} (old : SectorsIn device allowed store)
    (new : SectorsIn device allowed other) : SectorsIn device allowed (torn keep store other) := by
  intro index inside
  have uniform (x : Nat) (low : 512 * index ≤ x) (high : x < 512 * index + 512) : x / 512 = index := by
    omega
  by_cases kept : keep index
  · have same : sector (Storage.torn keep store other) index = sector other index := by
      apply slice_congr
      intro x low high
      simp only [Storage.torn, uniform x low high, kept, if_true]
    rw [same]
    exact new index inside
  · have same : sector (Storage.torn keep store other) index = sector store index := by
      apply slice_congr
      intro x low high
      simp only [Storage.torn, uniform x low high, kept, if_false, Bool.false_eq_true]
    rw [same]
    exact old index inside

/-- An allowed payload keeps an allowed store allowed. -/
theorem SectorsIn.splice {offset : Nat} {payload : List UInt8} (sectors : SectorsIn device allowed store)
    (whole : payload = [] ∨ (offset % 512 = 0 ∧ payload.length % 512 = 0))
    (allowedPayload : PayloadIn allowed offset payload) :
    SectorsIn device allowed (splice store offset payload) := by
  rcases whole with rfl | ⟨offsetAligned, lenAligned⟩
  · rw [splice_nil]
    exact sectors
  intro index inside
  by_cases covered : offset ≤ 512 * index ∧ 512 * index + 512 ≤ offset + payload.length
  · have same : sector (Storage.splice store offset payload) index =
        (payload.drop (512 * index - offset)).take 512 := by
      apply bytes_ext
      · simp only [sector, length_slice, List.length_take, List.length_drop]
        omega
      · intro position small
        rw [sector, length_slice] at small
        rw [sector, byteAt_slice, if_pos small, splice_inside (by omega) (by omega)]
        simp only [byteAt, List.getD_eq_getElem?_getD, List.getElem?_take_of_lt small,
          List.getElem?_drop]
        congr 2
        omega
    rw [same]
    exact allowedPayload index covered.1 covered.2
  · have same : sector (Storage.splice store offset payload) index = sector store index := by
      apply slice_congr
      intro x low high
      exact splice_outside (by omega)
    rw [same]
    exact sectors index inside

/-- The bytes of an allowed store are an allowed payload. -/
theorem SectorsIn.slice {offset len : Nat} (sectors : SectorsIn device allowed store)
    (inside : offset + len ≤ device) : PayloadIn allowed offset (slice store offset len) := by
  intro index low high
  rw [length_slice] at high
  have same : ((Storage.slice store offset len).drop (512 * index - offset)).take 512 =
      sector store index := by
    apply bytes_ext
    · simp only [sector, length_slice, List.length_take, List.length_drop]
      omega
    · intro position small
      have small : position < 512 := by simp only [List.length_take] at small; omega
      rw [sector, byteAt_slice, if_pos small]
      simp only [byteAt, List.getD_eq_getElem?_getD, List.getElem?_take_of_lt small,
        List.getElem?_drop]
      rw [← List.getD_eq_getElem?_getD, ← byteAt, byteAt_slice, if_pos (by omega)]
      congr 1
      omega
  rw [same]
  exact sectors index (by omega)

theorem PayloadIn.append {offset : Nat} {first second : List UInt8}
    (joined : PayloadIn allowed offset (first ++ second)) :
    PayloadIn allowed offset first ∧ PayloadIn allowed (offset + first.length) second := by
  constructor
  · intro index low high
    have covered := joined index low (by rw [List.length_append]; omega)
    rw [List.drop_append_of_le_length (by omega), List.take_append_of_le_length
      (by rw [List.length_drop]; omega)] at covered
    exact covered
  · intro index low high
    have covered := joined index (by omega) (by rw [List.length_append]; omega)
    rw [List.drop_append, List.drop_eq_nil_of_le (by omega), List.nil_append,
      show 512 * index - offset - first.length = 512 * index - (offset + first.length) by omega] at covered
    exact covered

end Sectors

/-- The reference array after a write: changed on success, changed in any of its sectors on failure. -/
def Lands (outcome : Except Error (List UInt8)) (offset : Nat) (data : List UInt8)
    (old new : Store) : Prop :=
  match outcome with
  | .ok _ => new = splice old offset data
  | .error _ => ∃ keep, new = torn keep old (splice old offset data)

/-- Only writes and clears change the reference array. -/
def Evolves (request : BlobRequest) (outcome : Except Error (List UInt8)) (old new : Store) : Prop :=
  match request with
  | .write offset data => Lands outcome offset data old new
  | .clear offset len => Lands outcome offset (List.replicate len 0) old new
  | .read _ _ => new = old
  | .flush => new = old

end UblkAzblob

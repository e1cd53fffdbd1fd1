import UblkAzblob.Construction.FileCacheOpen

namespace UblkAzblob
open Storage

theorem shifted_toBitVec : ∀ bit : Fin 8,
    (1 <<< UInt8.ofNat bit : UInt8).toBitVec = BitVec.twoPow 8 bit := by
  decide

/-- The mask test reads one bit of the byte. -/
theorem byteBit_eq (byte : UInt8) (bit : Nat) (small : bit < 8) :
    byteBit byte bit = byte.toBitVec.getLsbD bit := by
  have shifted := shifted_toBitVec ⟨bit, small⟩
  have masked : (byte &&& (1 <<< UInt8.ofNat bit)).toBitVec =
      if byte.toBitVec.getLsbD bit then BitVec.twoPow 8 bit else 0#8 := by
    rw [UInt8.toBitVec_and, shifted, BitVec.and_twoPow]
  have nonzero : BitVec.twoPow 8 bit ≠ 0#8 := by
    intro equal
    have test := congrArg (fun bits : BitVec 8 => bits.getLsbD bit) equal
    simp [small] at test
  unfold byteBit
  cases present : byte.toBitVec.getLsbD bit
  · simp only [present, Bool.false_eq_true, if_false] at masked
    have zero : byte &&& (1 <<< UInt8.ofNat bit) = 0 := UInt8.toBitVec_inj.mp masked
    simp [zero]
  · simp only [present, if_true] at masked
    have different : byte &&& (1 <<< UInt8.ofNat bit) ≠ 0 := by
      intro zero
      rw [zero] at masked
      exact nonzero masked.symm
    simp [different]

theorem byteBit_setByteBit (byte : UInt8) (bit query : Nat) (value : Bool) (small : bit < 8)
    (smallQuery : query < 8) :
    byteBit (setByteBit byte bit value) query = if query = bit then value else byteBit byte query := by
  have shifted := shifted_toBitVec ⟨bit, small⟩
  rw [byteBit_eq _ _ smallQuery, byteBit_eq _ _ smallQuery, setByteBit]
  by_cases same : query = bit
  · subst same
    cases value
    · rw [if_neg Bool.false_ne_true, UInt8.toBitVec_and, UInt8.toBitVec_not, shifted]
      simp [small]
    · rw [if_pos rfl, UInt8.toBitVec_or, shifted]
      simp [small]
  · cases value
    · rw [if_neg Bool.false_ne_true, UInt8.toBitVec_and, UInt8.toBitVec_not, shifted]
      simp [same, smallQuery]
    · rw [if_pos rfl, UInt8.toBitVec_or, shifted]
      simp [BitVec.getLsbD_twoPow, same, Ne.symm same]

theorem byteAt_modify (bytes : List UInt8) (index query : Nat) (update : UInt8 → UInt8)
    (inside : index < bytes.length) :
    byteAt (bytes.modify index update) query =
      if query = index then update (byteAt bytes index) else byteAt bytes query := by
  simp only [byteAt, List.getD_eq_getElem?_getD, List.getElem?_modify]
  by_cases same : query = index
  · subst same
    simp [inside]
  · simp [same, Ne.symm same]

@[simp] theorem length_bitSet (bitmap : List UInt8) (idx : Nat) (value : Bool) :
    (bitSet bitmap idx value).length = bitmap.length := by
  simp [bitSet]

/-- Setting one bit changes no other bit. -/
theorem bitGet_bitSet (bitmap : List UInt8) (idx query : Nat) (value : Bool)
    (inside : idx / 8 < bitmap.length) :
    bitGet (bitSet bitmap idx value) query = if query = idx then value else bitGet bitmap query := by
  have small := Nat.mod_lt idx (show 0 < 8 by decide)
  have smallQuery := Nat.mod_lt query (show 0 < 8 by decide)
  rw [bitGet, bitGet, bitSet, byteAt_modify _ _ _ _ inside]
  by_cases sameByte : query / 8 = idx / 8
  · rw [if_pos sameByte, byteBit_setByteBit _ _ _ _ small smallQuery, sameByte]
    by_cases same : query = idx
    · simp [same]
    · rw [if_neg same, if_neg (by omega)]
  · rw [if_neg sameByte, if_neg (by rintro rfl; exact sameByte rfl)]

/-- Setting a bit, inside the bitmap or not, leaves every other bit in place. -/
theorem bitGet_bitSet_other (bitmap : List UInt8) {idx query : Nat} (value : Bool) (other : query ≠ idx) :
    bitGet (bitSet bitmap idx value) query = bitGet bitmap query := by
  by_cases inside : idx / 8 < bitmap.length
  · rw [bitGet_bitSet _ _ _ _ inside, if_neg other]
  · rw [bitSet, List.modify_eq_self (by omega)]

/-- Setting a bit changes no other byte. -/
theorem byteAt_bitSet_other (bitmap : List UInt8) (idx index : Nat) (value : Bool)
    (inside : idx / 8 < bitmap.length) (other : index ≠ idx / 8) :
    byteAt (bitSet bitmap idx value) index = byteAt bitmap index := by
  rw [bitSet, byteAt_modify _ _ _ _ inside, if_neg other]

theorem bitGet_slice (store : Nat → UInt8) (offset len page : Nat) (bound : page / 8 < len) :
    bitGet (slice store offset len) page = byteBit (store (offset + page / 8)) (page % 8) := by
  rw [bitGet, byteAt_slice, if_pos bound]

@[simp] theorem bitGet_blank (numPages page : Nat) :
    bitGet (FileCacheBackend.blankBitmap numPages) page = false := by
  rw [bitGet, FileCacheBackend.blankBitmap, byteAt_replicate,
    byteBit_eq _ _ (Nat.mod_lt _ (by decide))]
  simp

theorem toLeBytes_succ (count value : Nat) :
    toLeBytes (count + 1) value = UInt8.ofNat value :: toLeBytes count (value / 256) := by
  simp only [toLeBytes, List.range_succ_eq_map, List.map_cons, List.map_map, Nat.pow_zero, Nat.div_one]
  congr 1
  apply List.map_congr_left
  intro index _
  simp only [Function.comp_apply, Nat.pow_succ, Nat.div_div_eq_div_mul, Nat.mul_comm]

/-- Decoding returns the encoded value up to the width of the field. -/
theorem fromLeBytes_toLeBytes (count value : Nat) :
    fromLeBytes (toLeBytes count value) = value % 256 ^ count := by
  induction count generalizing value with
  | zero => simp [toLeBytes, fromLeBytes, Nat.mod_one]
  | succ count ih =>
      have tail := ih (value / 256)
      rw [toLeBytes_succ]
      simp only [fromLeBytes, List.foldr_cons, UInt8.toNat_ofNat'] at tail ⊢
      rw [tail, show 256 ^ (count + 1) = 256 * 256 ^ count from Nat.pow_succ', Nat.mod_mul]

/-- A part of the header can be read through the whole header. -/
theorem slice_of_prefix {bytes : Store} {whole : List UInt8} (total offset len : Nat)
    (prefixed : slice bytes 0 total = whole) (fits : offset + len ≤ total) :
    slice bytes offset len = (whole.drop offset).take len := by
  rw [← prefixed]
  apply bytes_ext
  · simp only [length_slice, List.length_take, List.length_drop]
    omega
  · intro index inside
    rw [length_slice] at inside
    have position : offset + index < total := by omega
    simp [byteAt, slice, inside, position, List.getElem?_drop]

/-- A file that starts with the header of a geometry matches that geometry. -/
theorem headerMatches_header {pageSize devSize numPages : Nat} {metadata : File}
    (intact : slice metadata.bytes 0 headerSize = header pageSize devSize numPages)
    (smallPage : pageSize < 2 ^ 64) (smallDevice : devSize < 2 ^ 64) :
    FileCacheBackend.headerMatches pageSize devSize metadata = true := by
  have first := slice_of_prefix 64 0 8 intact (by decide)
  have second := slice_of_prefix 64 8 4 intact (by decide)
  have third := slice_of_prefix 64 16 8 intact (by decide)
  have fourth := slice_of_prefix 64 24 8 intact (by decide)
  have versionField : ((header pageSize devSize numPages).drop 8).take 4 = toLeBytes 4 version := rfl
  have pageField : ((header pageSize devSize numPages).drop 16).take 8 = toLeBytes 8 pageSize := rfl
  have deviceField : ((header pageSize devSize numPages).drop 24).take 8 = toLeBytes 8 devSize := rfl
  rw [versionField] at second
  rw [pageField] at third
  rw [deviceField] at fourth
  have magicField : ((header pageSize devSize numPages).drop 0).take 8 = magic := rfl
  rw [magicField] at first
  simp only [FileCacheBackend.headerMatches, first, second, third, fourth, fromLeBytes_toLeBytes]
  simp only [show (256 : Nat) ^ 8 = 2 ^ 64 by decide, Nat.mod_eq_of_lt smallPage,
    Nat.mod_eq_of_lt smallDevice]
  decide

end UblkAzblob

import UblkAzblob.Proof.FileCacheTidy

namespace UblkAzblob
open Storage

/-- The metadata file records the bits of every page after an intact header. -/
structure Records (geometry : Geometry) (present dirty : Nat → Bool) (metadata : File) : Prop where
  len : metadata.len = headerSize + 2 * geometry.bitmapLen
  intact : slice metadata.bytes 0 headerSize =
    header geometry.pageSize geometry.devSize geometry.numPages
  present : ∀ page, page < geometry.numPages →
    byteBit (metadata.bytes (headerSize + page / 8)) (page % 8) = present page
  dirty : ∀ page, page < geometry.numPages →
    byteBit (metadata.bytes (headerSize + geometry.bitmapLen + page / 8)) (page % 8) = dirty page

section Records

variable {geometry : Geometry} {present dirty bits : Nat → Bool} {metadata : File} {page : Nat}
variable {byte : UInt8}

theorem Mirrors.records {presentMap dirtyMap : List UInt8}
    (mirrors : Mirrors geometry presentMap dirtyMap metadata) :
    Records geometry (bitGet presentMap) (bitGet dirtyMap) metadata where
  len := mirrors.len
  intact := mirrors.intact
  present page inside := by rw [mirrors.presentBytes _ (geometry.byte_lt_bitmapLen inside)]; rfl
  dirty page inside := by rw [mirrors.dirtyBytes _ (geometry.byte_lt_bitmapLen inside)]; rfl

/-- Writing one byte of the bitmaps keeps the length and the header. -/
theorem write_byte_intact (byte : UInt8) {index : Nat} (len : metadata.len = headerSize + 2 * geometry.bitmapLen)
    (inside : index < 2 * geometry.bitmapLen) :
    ((FileOp.write (headerSize + index) [byte]).apply metadata).len =
        headerSize + 2 * geometry.bitmapLen ∧
      slice ((FileOp.write (headerSize + index) [byte]).apply metadata).bytes 0 headerSize =
        slice metadata.bytes 0 headerSize := by
  constructor
  · simp only [FileOp.apply, List.length_singleton, len]
    omega
  · apply slice_congr
    intro x _ below
    exact splice_outside (.inl (by omega))

theorem write_byte_at (index x : Nat) :
    ((FileOp.write index [byte]).apply metadata).bytes x = if x = index then byte else metadata.bytes x := by
  simp only [FileOp.apply, splice, List.length_singleton]
  by_cases own : x = index
  · rw [if_pos (by omega), if_pos own, own, Nat.sub_self]
    rfl
  · rw [if_neg (by omega), if_neg own]

/-- A present byte that encodes new bits records them. -/
theorem Records.writePresent (records : Records geometry present dirty metadata)
    (inside : page < geometry.numPages) (encodes : Encodes byte bits page)
    (others : ∀ other, other / 8 ≠ page / 8 → bits other = present other) :
    Records geometry bits dirty ((FileOp.write (headerSize + page / 8) [byte]).apply metadata) := by
  have bound := geometry.byte_lt_bitmapLen inside
  obtain ⟨len, intact⟩ := write_byte_intact byte records.len (show page / 8 < _ by omega)
  refine ⟨len, intact.trans records.intact, ?_, ?_⟩
  · intro other otherInside
    rw [write_byte_at]
    by_cases same : other / 8 = page / 8
    · rw [if_pos (by omega)]
      exact encodes other same
    · rw [if_neg (by omega), records.present other otherInside, others other same]
  · intro other otherInside
    have := geometry.byte_lt_bitmapLen otherInside
    rw [write_byte_at, if_neg (by omega), records.dirty other otherInside]

theorem Records.writeDirty (records : Records geometry present dirty metadata)
    (inside : page < geometry.numPages) (encodes : Encodes byte bits page)
    (others : ∀ other, other / 8 ≠ page / 8 → bits other = dirty other) :
    Records geometry present bits
      ((FileOp.write (headerSize + geometry.bitmapLen + page / 8) [byte]).apply metadata) := by
  have bound := geometry.byte_lt_bitmapLen inside
  rw [Nat.add_assoc]
  obtain ⟨len, intact⟩ := write_byte_intact byte records.len
    (show geometry.bitmapLen + page / 8 < _ by omega)
  refine ⟨len, intact.trans records.intact, ?_, ?_⟩
  · intro other otherInside
    have := geometry.byte_lt_bitmapLen otherInside
    rw [write_byte_at, if_neg (by omega), records.present other otherInside]
  · intro other otherInside
    rw [write_byte_at]
    by_cases same : other / 8 = page / 8
    · rw [if_pos (by omega)]
      exact encodes other same
    · rw [if_neg (by omega), records.dirty other otherInside, others other same]

/-- Changing the bit of one page leaves the bits of every other byte alone. -/
theorem update_other_byte (bits : Nat → Bool) (page : Nat) (value : Bool) (other : Nat)
    (different : other / 8 ≠ page / 8) : Function.update bits page value other = bits other :=
  Function.update_of_ne (by rintro rfl; exact different rfl) _ _

end Records

section Depicts

variable {Inner : Type} [BlobBackend Inner] [FlatStore Inner]

/-- The files and the blob hold what the view says. -/
structure Depicts (geometry : Geometry) (view : View) (disk : Disk Inner) : Prop where
  data : disk.data.bytes = view.data
  inner : FlatStore.content disk.inner = view.inner
  size : FlatStore.size disk.inner = geometry.devSize
  records : Records geometry view.present view.dirty disk.metadata

variable {geometry : Geometry} {view before after : View} {disk : Disk Inner} {calls : List (Call Inner)}

theorem Sound.depicts {cache : FileCacheBackend} {world : World Inner}
    (sound : Sound cache geometry world) : Depicts geometry world.view world.disk :=
  ⟨rfl, rfl, sound.innerSize, sound.mirror.records⟩

/-- The data file takes over the bytes of a load. -/
theorem stored_bytes {page : Nat} {bytes : List UInt8} {op : FileOp} (file : File)
    (stores : op = .write (page * geometry.pageSize) bytes ∨
      (op = .punch (page * geometry.pageSize) bytes.length ∧ ∀ byte ∈ bytes, byte = 0)) :
    (op.apply file).bytes = splice file.bytes (page * geometry.pageSize) bytes := by
  rcases stores with rfl | ⟨rfl, zero⟩
  · rfl
  · simp only [FileOp.apply]
    rw [splice_all_zero _ _ _ zero]

theorem Upkeep.depicts (step : Upkeep geometry before calls after)
    (depicts : Depicts geometry before disk) : Depicts geometry after (replay calls disk) := by
  cases step with
  | fetch page moved same sized => exact ⟨depicts.data, same, sized, depicts.records⟩
  | load page bytes op byte inside absent fresh stores bits =>
      refine ⟨?_, depicts.inner, depicts.size,
        depicts.records.writePresent inside bits (update_other_byte _ _ _)⟩
      change (op.apply disk.data).bytes = _
      rw [stored_bytes disk.data stores, depicts.data]
      rfl
  | evict page byte inside clean bits =>
      refine ⟨?_, depicts.inner, depicts.size,
        depicts.records.writePresent inside bits (update_other_byte _ _ _)⟩
      change zeroed disk.data.bytes _ _ = _
      rw [depicts.data]
      rfl

theorem Dirties.depicts {page pageOffset : Nat} {payload : List UInt8}
    (step : Dirties geometry page pageOffset payload before calls after)
    (depicts : Depicts geometry before disk) : Depicts geometry after (replay calls disk) := by
  obtain ⟨presentByte, dirtyByte, inside, ready, fits, presentBits, dirtyBits⟩ := step
  refine ⟨?_, depicts.inner, depicts.size, (depicts.records.writePresent inside presentBits
    (update_other_byte _ _ _)).writeDirty inside dirtyBits (update_other_byte _ _ _)⟩
  change splice disk.data.bytes _ _ = _
  rw [depicts.data]
  rfl

theorem Cleans.depicts {page : Nat} (step : Cleans geometry page before calls after)
    (depicts : Depicts geometry before disk) : Depicts geometry after (replay calls disk) := by
  obtain ⟨presentByte, dirtyByte, inside, same, presentBits, dirtyBits⟩ := step
  exact ⟨depicts.data, depicts.inner, depicts.size, (depicts.records.writePresent inside presentBits
    fun _ _ => rfl).writeDirty inside dirtyBits (update_other_byte _ _ _)⟩

theorem Pushes.depicts (step : Pushes geometry before calls after)
    (depicts : Depicts geometry before disk) : Depicts geometry after (replay calls disk) := by
  cases step with
  | upload _ page moved inside dirty landed sized => exact ⟨depicts.data, rfl, sized, depicts.records⟩
  | cleans step => exact step.depicts depicts
  | token contents => exact ⟨depicts.data, depicts.inner, depicts.size, depicts.records⟩
  | query _ site moved same sized => exact ⟨depicts.data, same, sized, depicts.records⟩

theorem Chore.depicts (step : Chore geometry before calls after)
    (depicts : Depicts geometry before disk) : Depicts geometry after (replay calls disk) := by
  cases step with
  | settle step =>
      cases step with
      | upkeep step => exact step.depicts depicts
      | pushes step => exact step.depicts depicts
  | dirties step => exact step.depicts depicts

/-- After a trail of steps the files show the view it leads to. -/
theorem trail_depicts (trail : Trail (Chore geometry) before calls after)
    (coherent : before.Coherent geometry) (depicts : Depicts geometry before disk) :
    after.Coherent geometry ∧ Depicts geometry after (replay calls disk) := by
  induction trail generalizing disk with
  | refl view => exact ⟨coherent, depicts⟩
  | step head tail ih =>
      rw [replay_append]
      exact ih (head.coherent coherent) (head.depicts depicts)

end Depicts
end UblkAzblob

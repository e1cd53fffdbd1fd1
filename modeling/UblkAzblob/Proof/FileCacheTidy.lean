import UblkAzblob.Proof.PageProtocol

namespace UblkAzblob
open Storage

/-- The metadata file repeats the two bitmaps after an intact header. -/
structure Mirrors (geometry : Geometry) (present dirty : List UInt8) (metadata : File) : Prop where
  len : metadata.len = headerSize + 2 * geometry.bitmapLen
  intact : slice metadata.bytes 0 headerSize =
    header geometry.pageSize geometry.devSize geometry.numPages
  presentBytes : ∀ index, index < geometry.bitmapLen →
    metadata.bytes (headerSize + index) = byteAt present index
  dirtyBytes : ∀ index, index < geometry.bitmapLen →
    metadata.bytes (headerSize + geometry.bitmapLen + index) = byteAt dirty index

/-- Writing the changed present byte restores the mirror. -/
theorem Mirrors.writePresent {geometry : Geometry} {present dirty changed : List UInt8}
    {metadata : File} (mirrors : Mirrors geometry present dirty metadata) (index : Nat)
    (inside : index < geometry.bitmapLen)
    (others : ∀ other, other ≠ index → byteAt changed other = byteAt present other) :
    Mirrors geometry changed dirty
      ((FileOp.write (headerSize + index) [byteAt changed index]).apply metadata) := by
  constructor
  · simp only [FileOp.apply, List.length_singleton, mirrors.len]
    omega
  · rw [← mirrors.intact]
    apply slice_congr
    intro x _ below
    exact splice_outside (.inl (by omega))
  · intro other bound
    simp only [FileOp.apply]
    by_cases own : other = index
    · rw [splice_inside (by omega) (by simp only [List.length_singleton]; omega)]
      simp [own, byteAt]
    · rw [splice_outside (by simp only [List.length_singleton]; omega),
        mirrors.presentBytes other bound, others other own]
  · intro other bound
    simp only [FileOp.apply]
    rw [splice_outside (by simp only [List.length_singleton]; omega), mirrors.dirtyBytes other bound]

/-- Writing the changed dirty byte restores the mirror. -/
theorem Mirrors.writeDirty {geometry : Geometry} {present dirty changed : List UInt8}
    {metadata : File} (mirrors : Mirrors geometry present dirty metadata) (index : Nat)
    (inside : index < geometry.bitmapLen)
    (others : ∀ other, other ≠ index → byteAt changed other = byteAt dirty other) :
    Mirrors geometry present changed
      ((FileOp.write (headerSize + geometry.bitmapLen + index) [byteAt changed index]).apply
        metadata) := by
  constructor
  · simp only [FileOp.apply, List.length_singleton, mirrors.len]
    omega
  · rw [← mirrors.intact]
    apply slice_congr
    intro x _ below
    exact splice_outside (.inl (by omega))
  · intro other bound
    simp only [FileOp.apply]
    rw [splice_outside (by simp only [List.length_singleton]; omega),
      mirrors.presentBytes other bound]
  · intro other bound
    simp only [FileOp.apply]
    by_cases own : other = index
    · rw [splice_inside (by omega) (by simp only [List.length_singleton]; omega)]
      simp [own, byteAt]
    · rw [splice_outside (by simp only [List.length_singleton]; omega),
        mirrors.dirtyBytes other bound, others other own]

variable {Inner : Type}

/-- Only clean pages of the device can be evicted. -/
def EvictableClean (cache : FileCacheBackend) (geometry : Geometry) (world : World Inner)
    (page : Nat) : Prop :=
  cache.budget.isSome → world.state.lru.Evictable page →
    page < geometry.numPages ∧ bitGet world.state.dirty page = false

/-- A quiet change touches only recency, accounting, the budget file and the clock. -/
structure Quiet (before after : World Inner) : Prop where
  disk : after.disk = before.disk
  calls : after.calls = before.calls
  devSize : after.state.devSize = before.state.devSize
  numPages : after.state.numPages = before.state.numPages
  present : after.state.present = before.state.present
  dirty : after.state.dirty = before.state.dirty
  dirtyGen : after.state.dirtyGen = before.state.dirtyGen

theorem Quiet.trans {first middle last : World Inner} (head : Quiet first middle)
    (tail : Quiet middle last) : Quiet first last where
  disk := tail.disk.trans head.disk
  calls := tail.calls.trans head.calls
  devSize := tail.devSize.trans head.devSize
  numPages := tail.numPages.trans head.numPages
  present := tail.present.trans head.present
  dirty := tail.dirty.trans head.dirty
  dirtyGen := tail.dirtyGen.trans head.dirtyGen

@[simp] theorem replay_nil (disk : Disk Inner) : replay [] disk = disk := rfl

@[simp] theorem replay_cons (call : Call Inner) (rest : List (Call Inner)) (disk : Disk Inner) :
    replay (call :: rest) disk = replay rest (call.effect.apply disk) := rfl

theorem replay_append (first second : List (Call Inner)) (disk : Disk Inner) :
    replay (first ++ second) disk = replay second (replay first disk) :=
  List.foldl_append

/-- The calls issued between two worlds are the changes of the files and of the blob. -/
structure Issues (before : World Inner) (calls : List (Call Inner)) (after : World Inner) : Prop where
  logged : after.calls = before.calls ++ calls
  disk : after.disk = replay calls before.disk

theorem Issues.refl (world : World Inner) : Issues world [] world := ⟨by simp, rfl⟩

theorem Issues.trans {first middle last : World Inner} {calls rest : List (Call Inner)}
    (head : Issues first calls middle) (tail : Issues middle rest last) :
    Issues first (calls ++ rest) last where
  logged := by rw [tail.logged, head.logged, List.append_assoc]
  disk := by rw [tail.disk, head.disk, replay_append]

theorem issue_issues (world : World Inner) (site : Site) (effect : Effect Inner) :
    Issues world [⟨site, effect⟩] (world.issue site effect) := ⟨rfl, rfl⟩

section Bookkeeping

variable (world : World Inner)

theorem touch_quiet (page : Nat) (clean : Bool) : Quiet world (world.touch page clean) :=
  ⟨rfl, rfl, rfl, rfl, rfl, rfl, rfl⟩

theorem ask_quiet (answers : Nat → Bool) : Quiet world (world.ask answers).2 :=
  ⟨rfl, rfl, rfl, rfl, rfl, rfl, rfl⟩

theorem withLocked_quiet {Value : Type} (host : Host) (update : List Entry → Value × List Entry) :
    Quiet world (world.withLocked host update).2 :=
  ⟨rfl, rfl, rfl, rfl, rfl, rfl, rfl⟩

/-- An access keeps the eviction order clean when the page is classified correctly. -/
theorem touch_evictableClean {cache : FileCacheBackend} {geometry : Geometry}
    (valid : world.state.lru.Valid) {page : Nat} (clean : Bool) (inside : page < geometry.numPages)
    (classified : clean = true → bitGet world.state.dirty page = false)
    (others : ∀ other, other ≠ page → EvictableClean cache geometry world other) (other : Nat) :
    EvictableClean cache geometry (world.touch page clean) other := by
  intro budgeted evictable
  have known := (Lru.touch_evictable _ valid page clean other).mp evictable
  by_cases own : other = page
  · subst own
    rw [if_pos rfl] at known
    exact ⟨inside, classified known⟩
  · rw [if_neg own] at known
    exact others other own budgeted known

end Bookkeeping

theorem encodes_byteAt (bitmap : List UInt8) (page : Nat) :
    Encodes (byteAt bitmap (page / 8)) (bitGet bitmap) page := by
  intro other sameByte
  rw [bitGet, sameByte]

theorem bitGet_bitSet_update (bitmap : List UInt8) (page : Nat) (value : Bool)
    (inside : page / 8 < bitmap.length) :
    bitGet (bitSet bitmap page value) = Function.update (bitGet bitmap) page value := by
  funext other
  rw [bitGet_bitSet _ _ _ _ inside, Function.update_apply]

section Views

variable [BlobBackend Inner] [FlatStore Inner]

/-- The view of a running cache. -/
def World.view (world : World Inner) : View where
  data := world.disk.data.bytes
  inner := FlatStore.content world.disk.inner
  present := bitGet world.state.present
  dirty := bitGet world.state.dirty
  generation := fun page => world.generation page

/-- The bookkeeping of a running cache fits its geometry and its metadata file. -/
structure Sound (cache : FileCacheBackend) (geometry : Geometry) (world : World Inner) : Prop where
  pageSize : cache.pageSize = geometry.pageSize
  devSize : world.state.devSize = geometry.devSize
  numPages : world.state.numPages = geometry.numPages
  presentLen : world.state.present.length = geometry.bitmapLen
  dirtyLen : world.state.dirty.length = geometry.bitmapLen
  generations : world.state.dirtyGen.length = geometry.numPages
  dataLen : world.disk.data.len = geometry.devSize
  innerSize : FlatStore.size world.disk.inner = geometry.devSize
  presentInside : ∀ page, bitGet world.state.present page = true → page < geometry.numPages
  dirtyInside : ∀ page, bitGet world.state.dirty page = true → page < geometry.numPages
  lru : world.state.lru.Valid
  mirror : Mirrors geometry world.state.present world.state.dirty world.disk.metadata

/-- A tidy cache keeps dirty pages resident and out of the eviction order. -/
structure Tidy (cache : FileCacheBackend) (geometry : Geometry) (world : World Inner) : Prop
    extends Sound cache geometry world where
  evictable : ∀ page, EvictableClean cache geometry world page
  resident : ∀ page, bitGet world.state.dirty page = true → bitGet world.state.present page = true

/-- The calls between two worlds form a trail of page steps. -/
def Traces (step : View → List (Call Inner) → View → Prop) (before after : World Inner) : Prop :=
  ∃ calls, Issues before calls after ∧ Trail step before.view calls after.view

theorem Traces.refl (step : View → List (Call Inner) → View → Prop) (world : World Inner) :
    Traces step world world := ⟨[], .refl world, .refl _⟩

theorem Traces.trans {step : View → List (Call Inner) → View → Prop} {first middle last : World Inner}
    (head : Traces step first middle) (tail : Traces step middle last) : Traces step first last := by
  obtain ⟨calls, issued, trail⟩ := head
  obtain ⟨rest, later, continued⟩ := tail
  exact ⟨calls ++ rest, issued.trans later, trail.trans continued⟩

section Quiet

variable {before after : World Inner}

theorem Quiet.view (quiet : Quiet before after) : after.view = before.view := by
  simp only [World.view, World.generation, quiet.disk, quiet.present, quiet.dirty, quiet.dirtyGen]

theorem Quiet.traces (step : View → List (Call Inner) → View → Prop) (quiet : Quiet before after) :
    Traces step before after :=
  ⟨[], ⟨by simp [quiet.calls], quiet.disk⟩, by rw [quiet.view]; exact .refl _⟩

theorem Quiet.sound {cache : FileCacheBackend} {geometry : Geometry} (quiet : Quiet before after)
    (sound : Sound cache geometry before) (lru : after.state.lru.Valid) :
    Sound cache geometry after where
  pageSize := sound.pageSize
  devSize := by rw [quiet.devSize, sound.devSize]
  numPages := by rw [quiet.numPages, sound.numPages]
  presentLen := by rw [quiet.present, sound.presentLen]
  dirtyLen := by rw [quiet.dirty, sound.dirtyLen]
  generations := by rw [quiet.dirtyGen, sound.generations]
  dataLen := by rw [quiet.disk, sound.dataLen]
  innerSize := by rw [quiet.disk, sound.innerSize]
  presentInside := by rw [quiet.present]; exact sound.presentInside
  dirtyInside := by rw [quiet.dirty]; exact sound.dirtyInside
  lru := lru
  mirror := by rw [quiet.present, quiet.dirty, quiet.disk]; exact sound.mirror

end Quiet

section Marking

variable {cache : FileCacheBackend} {geometry : Geometry} {world : World Inner}

/-- A data call keeps a sound cache sound while the file keeps its length. -/
theorem issueData_sound (sound : Sound cache geometry world) (site : Site) (op : FileOp)
    (sameLen : (op.apply world.disk.data).len = geometry.devSize) :
    Sound cache geometry (world.issue site (.data op)) :=
  { sound with dataLen := sameLen }

theorem issueData_view (site : Site) (op : FileOp) :
    (world.issue site (.data op)).view =
      { world.view with data := (op.apply world.disk.data).bytes } := rfl

/-- Marking a page and writing its present byte keeps the cache sound. -/
theorem markPresent_sound (sound : Sound cache geometry world) (site : Site) {page : Nat}
    (value : Bool) (inside : page < geometry.numPages) :
    Sound cache geometry (FileCacheBackend.writePresentByte site page (world.setPresent page value)) := by
  have byteInside := geometry.byte_lt_bitmapLen inside
  have inBitmap : page / 8 < world.state.present.length := by rw [sound.presentLen]; exact byteInside
  refine { sound with presentLen := ?_, presentInside := ?_, mirror := ?_ }
  · exact (length_bitSet _ _ _).trans sound.presentLen
  · intro other present
    change bitGet (bitSet world.state.present page value) other = true at present
    rw [bitGet_bitSet _ _ _ _ inBitmap] at present
    split at present
    · rename_i own
      rw [own]
      exact inside
    · exact sound.presentInside other present
  · exact sound.mirror.writePresent _ byteInside fun other different =>
      byteAt_bitSet_other _ _ _ _ inBitmap different

theorem markPresent_view (sound : Sound cache geometry world) (site : Site) {page : Nat}
    (value : Bool) (inside : page < geometry.numPages) :
    (FileCacheBackend.writePresentByte site page (world.setPresent page value)).view =
      { world.view with present := Function.update world.view.present page value } := by
  have inBitmap : page / 8 < world.state.present.length := by
    rw [sound.presentLen]
    exact geometry.byte_lt_bitmapLen inside
  have bits := bitGet_bitSet_update world.state.present page value inBitmap
  simp only [FileCacheBackend.writePresentByte, World.issue, World.setPresent, World.view,
    World.generation, bits, Effect.apply]

end Marking
end Views
end UblkAzblob

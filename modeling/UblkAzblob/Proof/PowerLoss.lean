import UblkAzblob.Construction.FileCacheCrash
import UblkAzblob.Proof.DiskImage

namespace UblkAzblob
open Storage

variable {Inner : Type}

section Ledger

variable (ledger : Ledger) (outage : Outage)

@[simp] theorem noteAll_nil : ledger.noteAll ([] : List (Call Inner)) = ledger := rfl

@[simp] theorem noteAll_cons (call : Call Inner) (rest : List (Call Inner)) :
    ledger.noteAll (call :: rest) = (ledger.note call).noteAll rest := rfl

theorem noteAll_append (first second : List (Call Inner)) :
    ledger.noteAll (first ++ second) = (ledger.noteAll first).noteAll second := List.foldl_append

/-- The volatile files of the ledger are the files of the replay. -/
theorem volatile_noteAll (disk : Disk Inner) (calls : List (Call Inner))
    (data : ledger.data.volatile = disk.data) (metadata : ledger.metadata.volatile = disk.metadata) :
    (ledger.noteAll calls).data.volatile = (replay calls disk).data ∧
      (ledger.noteAll calls).metadata.volatile = (replay calls disk).metadata := by
  induction calls generalizing ledger disk with
  | nil => exact ⟨data, metadata⟩
  | cons call rest ih =>
      obtain ⟨site, effect⟩ := call
      refine ih (ledger.note ⟨site, effect⟩) (effect.apply disk) ?_ ?_
      · cases effect with
        | data op =>
            change (ledger.data.record ledger.stamp op).volatile = op.apply disk.data
            rw [Journal.volatile_record, data]
        | metadata op => exact data
        | etag contents => exact data
        | inner after => exact data
      · cases effect with
        | data op => exact metadata
        | metadata op =>
            change (ledger.metadata.record ledger.stamp op).volatile = op.apply disk.metadata
            rw [Journal.volatile_record, metadata]
        | etag contents => exact metadata
        | inner after => exact metadata

end Ledger

section Records

variable {geometry : Geometry} {present dirty : Nat → Bool} {metadata : File}

/-- The bits of one byte, and the other bits as they were. -/
def byteBits (bits : Nat → Bool) (page : Nat) (byte : UInt8) : Nat → Bool := fun other =>
  if other / 8 = page / 8 then byteBit byte (other % 8) else bits other

theorem byteBits_encodes (bits : Nat → Bool) (page : Nat) (byte : UInt8) :
    Encodes byte (byteBits bits page byte) page := by
  intro other same
  rw [byteBits, if_pos same]

theorem applyKept_byte (keep : Nat → Bool) (index : Nat) (byte : UInt8) (file : File)
    (inside : index < file.len) :
    (FileOp.write index [byte]).applyKept 1 keep file =
      if keep index then (FileOp.write index [byte]).apply file else file := by
  by_cases kept : keep index = true
  · rw [if_pos kept]
    simp only [FileOp.applyKept, FileOp.apply, List.length_singleton, File.mk.injEq, true_and]
    funext x
    by_cases own : x = index
    · simp [own, kept]
    · rw [splice_outside (by simp only [List.length_singleton]; omega), ite_self]
  · rw [if_neg kept]
    obtain ⟨len, bytes⟩ := file
    simp only [FileOp.applyKept, FileOp.apply, List.length_singleton, File.mk.injEq]
    refine ⟨max_eq_left inside, ?_⟩
    funext x
    by_cases own : x = index
    · simp [own, kept]
    · rw [splice_outside (by simp only [List.length_singleton]; omega), ite_self]

/-- Whether or not a present byte survives, the dirty bits are as they were. -/
theorem Records.keepPresent (records : Records geometry present dirty metadata) (keep : Nat → Bool)
    {page : Nat} (inside : page < geometry.numPages) (byte : UInt8) :
    ∃ bits, Records geometry bits dirty
      ((FileOp.write (headerSize + page / 8) [byte]).applyKept 1 keep metadata) := by
  have bound := geometry.byte_lt_bitmapLen inside
  rw [applyKept_byte _ _ _ _ (by rw [records.len]; omega)]
  split
  · refine ⟨_, records.writePresent inside (byteBits_encodes present page byte) ?_⟩
    intro other different
    rw [byteBits, if_neg different]
  · exact ⟨present, records⟩

end Records

section Secured

/-- The outage spares the bytes of dirty pages and the dirty bits. -/
structure Secured (outage : Outage) (geometry : Geometry) (view : View) (disk : Disk Inner)
    (ledger : Ledger) : Prop where
  volatileData : ledger.data.volatile = disk.data
  volatileMeta : ledger.metadata.volatile = disk.metadata
  saved : ∀ x, x < geometry.devSize → view.dirty (x / geometry.pageSize) = true →
    (ledger.crashData outage).bytes x = view.data x
  recorded : ∃ bits, Records geometry bits view.dirty (ledger.crashMeta outage)

variable {outage : Outage} {geometry : Geometry} {before after : View} {disk : Disk Inner}
variable {ledger : Ledger} {calls : List (Call Inner)}

/-- A call on the blob or on the token file risks nothing. -/
theorem Secured.aside (secured : Secured outage geometry before disk ledger) {call : Call Inner}
    (inner : Store) (outside : ∀ op, call.effect ≠ .data op ∧ call.effect ≠ .metadata op) :
    Secured outage geometry { before with inner } (replay [call] disk) (ledger.noteAll [call]) := by
  obtain ⟨site, effect⟩ := call
  cases effect with
  | data op => exact absurd rfl (outside op).1
  | metadata op => exact absurd rfl (outside op).2
  | etag contents => exact ⟨secured.volatileData, secured.volatileMeta, secured.saved, secured.recorded⟩
  | inner moved => exact ⟨secured.volatileData, secured.volatileMeta, secured.saved, secured.recorded⟩

/-- Synced metadata survives as it is. -/
theorem recorded_of_synced {present dirty : Nat → Bool} (records : Records geometry present dirty disk.metadata)
    (volatile : ledger.metadata.volatile = disk.metadata)
    (synced : ledger.crashMeta outage = ledger.metadata.volatile) :
    ∃ bits, Records geometry bits dirty (ledger.crashMeta outage) :=
  ⟨present, by rw [synced, volatile]; exact records⟩

/-- A page update whose present byte is not synced risks no dirty page. -/
theorem Secured.unsynced (secured : Secured outage geometry before disk ledger) {page : Nat}
    (inside : page < geometry.numPages) (clean : before.dirty page = false) (site : Site) {op : FileOp}
    (unsynced : op ≠ .sync)
    (elsewhere : ∀ x, x < geometry.devSize → x / geometry.pageSize ≠ page → op.touches x = false)
    (byte : UInt8) (sameDirty : after.dirty = before.dirty)
    (sameData : ∀ x, x < geometry.devSize → x / geometry.pageSize ≠ page → after.data x = before.data x) :
    Secured outage geometry after (replay [⟨site, .data op⟩, presentByteCall site page byte] disk)
      (ledger.noteAll ([⟨site, .data op⟩, presentByteCall site page byte] : List (Call Inner))) := by
  obtain ⟨volatileData, volatileMeta⟩ := volatile_noteAll ledger disk
    [⟨site, .data op⟩, presentByteCall site page byte] secured.volatileData secured.volatileMeta
  refine ⟨volatileData, volatileMeta, ?_, ?_⟩
  · intro x device dirty
    rw [sameDirty] at dirty
    have other : x / geometry.pageSize ≠ page := by
      rintro rfl
      exact Bool.false_ne_true (clean.symm.trans dirty)
    change ((ledger.data.record ledger.stamp op).crash 512 outage.sectors).bytes x = _
    rw [Journal.crash_record _ _ unsynced, FileOp.applyKept_untouched (elsewhere x device other),
      sameData x device other]
    exact secured.saved x device dirty
  · obtain ⟨bits, records⟩ := secured.recorded
    obtain ⟨kept, surviving⟩ := records.keepPresent (outage.bytes (ledger.stamp + 1)) inside byte
    refine ⟨kept, ?_⟩
    rw [sameDirty]
    change Records geometry kept before.dirty
      ((ledger.metadata.record (ledger.stamp + 1) _).crash 1 outage.bytes)
    rw [Journal.crash_record _ _ (by simp)]
    exact surviving

end Secured

section Motions

variable [BlobBackend Inner] [FlatStore Inner]

/-- A motion is a chore, or an upload that lands on a page that is dirty. -/
inductive Motion (geometry : Geometry) : View → List (Call Inner) → View → Prop where
  | chore {before after : View} {calls : List (Call Inner)}
      (step : Chore geometry before calls after) : Motion geometry before calls after
  | land (view : View) (page : Nat) (moved : Inner) (dirty : view.dirty page = true)
      (elsewhere : ∀ x, x < geometry.devSize → x / geometry.pageSize ≠ page →
        FlatStore.content moved x = view.inner x)
      (sized : FlatStore.size moved = geometry.devSize) :
      Motion geometry view [⟨.upload page, .inner moved⟩]
        { view with inner := FlatStore.content moved }

variable {outage : Outage} {geometry : Geometry} {before after : View} {disk : Disk Inner}
variable {ledger : Ledger} {calls : List (Call Inner)}

theorem Motion.coherent (step : Motion geometry before calls after)
    (coherent : before.Coherent geometry) : after.Coherent geometry := by
  cases step with
  | chore step => exact step.coherent coherent
  | land page moved dirty elsewhere sized =>
      refine ⟨?_, coherent.resident⟩
      intro x device present clean
      have other : x / geometry.pageSize ≠ page := by
        rintro rfl
        exact Bool.false_ne_true (clean.symm.trans dirty)
      exact (coherent.clean x device present clean).trans (elsewhere x device other).symm

theorem Motion.depicts (step : Motion geometry before calls after)
    (depicts : Depicts geometry before disk) : Depicts geometry after (replay calls disk) := by
  cases step with
  | chore step => exact step.depicts depicts
  | land page moved dirty elsewhere sized => exact ⟨depicts.data, rfl, sized, depicts.records⟩

theorem Upkeep.secured (step : Upkeep geometry before calls after) (coherent : before.Coherent geometry)
    (secured : Secured outage geometry before disk ledger) :
    Secured outage geometry after (replay calls disk) (ledger.noteAll calls) := by
  cases step with
  | fetch page moved same sized => exact secured.aside before.inner (by simp)
  | load page bytes op byte inside absent fresh stores bits =>
      have length : bytes.length = geometry.pageLen page := by rw [fresh, length_slice]
      have clean : before.dirty page = false := by
        by_contra dirty
        rw [Bool.not_eq_false] at dirty
        exact Bool.false_ne_true (absent.symm.trans (coherent.resident page dirty))
      have elsewhere (x : Nat) (different : x / geometry.pageSize ≠ page) :
          ¬ (page * geometry.pageSize ≤ x ∧ x < page * geometry.pageSize + bytes.length) := by
        rw [length]
        exact (geometry.mem_page page x).not.mpr (by simp [different])
      refine secured.unsynced inside clean _ ?_ ?_ byte rfl ?_
      · rcases stores with rfl | ⟨rfl, _⟩ <;> simp
      · intro x _ different
        rcases stores with rfl | ⟨rfl, _⟩ <;> simpa [FileOp.touches] using elsewhere x different
      · intro x _ different
        exact if_neg (elsewhere x different)
  | evict page byte inside clean bits =>
      have elsewhere (x : Nat) (different : x / geometry.pageSize ≠ page) :=
        (geometry.mem_page page x).not.mpr (by simp [different])
      refine secured.unsynced inside clean _ (by simp) ?_ byte rfl ?_
      · intro x _ different
        simpa [FileOp.touches] using elsewhere x different
      · intro x _ different
        exact if_neg (elsewhere x different)

omit [BlobBackend Inner] [FlatStore Inner] in
/-- After a region has been dirtied nothing in the data file is at risk. -/
theorem Dirties.crashData {page pageOffset : Nat} {payload : List UInt8}
    (step : Dirties geometry page pageOffset payload before calls after) (outage : Outage) (ledger : Ledger) :
    (ledger.noteAll calls).crashData outage = (ledger.noteAll calls).data.volatile := by
  obtain ⟨presentByte, dirtyByte, inside, ready, fits, presentBits, dirtyBits⟩ := step
  rfl

theorem Dirties.secured {page pageOffset : Nat} {payload : List UInt8}
    (step : Dirties geometry page pageOffset payload before calls after)
    (depicts : Depicts geometry before disk) (secured : Secured outage geometry before disk ledger) :
    Secured outage geometry after (replay calls disk) (ledger.noteAll calls) := by
  have depictsAfter := step.depicts depicts
  have synced := step.crashData outage ledger
  obtain ⟨volatileData, volatileMeta⟩ :=
    volatile_noteAll ledger disk calls secured.volatileData secured.volatileMeta
  obtain ⟨presentByte, dirtyByte, inside, ready, fits, presentBits, dirtyBits⟩ := step
  refine ⟨volatileData, volatileMeta, fun x _ _ => ?_,
    recorded_of_synced depictsAfter.records volatileMeta rfl⟩
  rw [synced, volatileData, depictsAfter.data]

theorem Cleans.secured {page : Nat} (step : Cleans geometry page before calls after)
    (depicts : Depicts geometry before disk) (secured : Secured outage geometry before disk ledger) :
    Secured outage geometry after (replay calls disk) (ledger.noteAll calls) := by
  have depictsAfter := step.depicts depicts
  obtain ⟨volatileData, volatileMeta⟩ :=
    volatile_noteAll ledger disk calls secured.volatileData secured.volatileMeta
  obtain ⟨presentByte, dirtyByte, inside, same, presentBits, dirtyBits⟩ := step
  refine ⟨volatileData, volatileMeta, fun x device dirty => ?_,
    recorded_of_synced depictsAfter.records volatileMeta rfl⟩
  refine secured.saved x device ?_
  by_cases own : x / geometry.pageSize = page
  · simp [View.cleaned, own] at dirty
  · simpa [View.cleaned, own] using dirty

theorem Pushes.secured (step : Pushes geometry before calls after) (depicts : Depicts geometry before disk)
    (secured : Secured outage geometry before disk ledger) :
    Secured outage geometry after (replay calls disk) (ledger.noteAll calls) := by
  cases step with
  | upload _ page moved inside dirty landed sized => exact secured.aside _ (by simp)
  | cleans step => exact step.secured depicts secured
  | token _ contents => exact secured.aside before.inner (by simp)
  | query _ site moved same sized => exact secured.aside before.inner (by simp)

/-- Every motion leaves the dirty pages safe from an outage. -/
theorem Motion.secured (step : Motion geometry before calls after) (coherent : before.Coherent geometry)
    (depicts : Depicts geometry before disk) (secured : Secured outage geometry before disk ledger) :
    Secured outage geometry after (replay calls disk) (ledger.noteAll calls) := by
  cases step with
  | chore step =>
      cases step with
      | settle step =>
          cases step with
          | upkeep step => exact step.secured coherent secured
          | pushes step => exact step.secured depicts secured
      | dirties step => exact step.secured depicts secured
  | land page moved dirty elsewhere sized => exact secured.aside _ (by simp)

end Motions
end UblkAzblob

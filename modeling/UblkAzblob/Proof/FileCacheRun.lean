import UblkAzblob.Proof.DiskImage
import UblkAzblob.Proof.FileCacheRefinement

namespace UblkAzblob
namespace FileCacheBackend
open Storage

variable {Inner : Type} {cache : FileCacheBackend} {geometry : Geometry} {world : World Inner}

section Recorded

variable {present dirty : Nat → Bool} {metadata : File} {page : Nat}

/-- The recorded bitmaps have the bits that the file records. -/
theorem bitGet_recordedPresent (records : Records geometry present dirty metadata)
    (inside : page < geometry.numPages) :
    bitGet (recordedPresent geometry.numPages metadata) page = present page := by
  have byte : page / 8 < bitmapBytes geometry.numPages := geometry.byte_lt_bitmapLen inside
  rw [recordedPresent, bitGet_slice _ _ _ _ byte, records.present page inside]

theorem bitGet_recordedDirty (records : Records geometry present dirty metadata)
    (inside : page < geometry.numPages) :
    bitGet (recordedDirty geometry.numPages metadata) page = dirty page := by
  have byte : page / 8 < bitmapBytes geometry.numPages := geometry.byte_lt_bitmapLen inside
  rw [recordedDirty, bitGet_slice _ _ _ _ byte]
  exact records.dirty page inside

end Recorded

section Requests

variable [BlobBackend Inner] [FlatStore Inner]

/-- Every call keeps the cache tidy and does its work in page steps. -/
theorem perform_traces (tidy : Tidy cache geometry world) (request : Request) :
    Tidy cache geometry (cache.perform request world).2 ∧
      Traces (Chore geometry) world (cache.perform request world).2 := by
  have settles {after : World Inner} (settled : Settled cache geometry world after) :
      Tidy cache geometry after ∧ Traces (Chore geometry) world after :=
    ⟨settled.tidy, Traces.mono settled.traces fun _ _ _ => .settle⟩
  have applies {offset : Nat} {data : List UInt8} {outcome : Except Error Unit × World Inner}
      (applied : Applied cache geometry offset data world outcome) :
      Tidy cache geometry outcome.2 ∧ Traces (Chore geometry) world outcome.2 := by
    obtain ⟨_, _, _, written, _⟩ := applied.leading
    exact ⟨written.tidy, written.traces⟩
  cases request with
  | read offset len =>
      obtain ⟨after, traces, _⟩ := read_spec offset len tidy
      exact settles (settled_of_upkeep after traces)
  | write offset data =>
      rw [perform, unit_outcome]
      exact applies (write_applied offset data tidy)
  | clear offset len =>
      rw [perform, unit_outcome]
      exact applies (clear_applied offset len tidy)
  | prefetch offset len =>
      rw [perform, unit_outcome]
      exact settles (prefetch_spec offset len tidy).1
  | warmup devSize limitBytes =>
      rw [perform, unit_outcome]
      exact settles (warmup_settled tidy)
  | flush =>
      rw [perform, unit_outcome]
      exact settles ((flush_spec tidy.toSound).1.settled tidy)

end Requests

section Renewal

/-- These calls write a metadata file that records no page. -/
def blankMeta (geometry : Geometry) : List (Call Inner) :=
  let blank := blankBitmap geometry.numPages
  [⟨.writeHeader, .metadata (.setLen (headerSize + blank.length + blank.length))⟩,
    ⟨.writeHeader, .metadata (.write 0 (header geometry.pageSize geometry.devSize geometry.numPages))⟩,
    ⟨.writePresentBitmap, .metadata (.write headerSize blank)⟩,
    ⟨.writeDirtyBitmap, .metadata (.write (headerSize + blank.length) blank)⟩,
    ⟨.writeDirtyBitmap, .metadata .sync⟩]

theorem blankMeta_issues (geometry : Geometry) (world : World Inner) :
    Issues world (blankMeta geometry) (writeFullMeta geometry.pageSize geometry.devSize geometry.numPages
      (blankBitmap geometry.numPages) (blankBitmap geometry.numPages) world) :=
  ⟨by simp [blankMeta, writeFullMeta, World.issue], rfl⟩

/-- These calls create a device and empty the cache. -/
def renewal (geometry : Geometry) (moved : Inner) : List (Call Inner) :=
  [⟨.create, .inner moved⟩, ⟨.create, .data (.setLen geometry.devSize)⟩] ++ blankMeta geometry ++
    [⟨.create, .etag none⟩]

variable [BlobBackend Inner] [FlatStore Inner]

/-- A renewed cache is empty and fits a device of a new size. -/
structure Renewed (cache : FileCacheBackend) (geometry : Geometry) (before after : World Inner) : Prop where
  tidy : Tidy cache geometry after
  absent : ∀ page, after.view.present page = false
  issued : ∃ moved, FlatStore.size moved = geometry.devSize ∧
    Issues before (renewal geometry moved) after

/-- An empty cache is coherent. -/
theorem coherent_of_absent {geometry : Geometry} (tidy : Tidy cache geometry world)
    (absent : ∀ page, world.view.present page = false) : world.view.Coherent geometry where
  clean x _ present := absurd present (by rw [absent]; simp)
  resident page dirty := tidy.resident page dirty

theorem reinit_renewed {moved : Inner} (samePage : cache.pageSize = geometry.pageSize)
    (size : FlatStore.size moved = geometry.devSize) :
    Renewed cache geometry world
      (cache.reinit geometry.devSize (world.issue .create (.inner moved))) := by
  have pages : (geometry.devSize + geometry.pageSize - 1) / geometry.pageSize = geometry.numPages := rfl
  simp only [reinit, samePage, pages]
  set blank := blankBitmap geometry.numPages with blankEq
  set state : CacheState := ⟨geometry.devSize, geometry.numPages, blank, blank,
    List.replicate geometry.numPages 0, 0, .empty⟩ with stateEq
  set sized := (world.issue .create (.inner moved)).issue .create (.data (.setLen geometry.devSize))
    with sizedEq
  set written := writeFullMeta geometry.pageSize geometry.devSize geometry.numPages blank blank
    { sized with state } with writtenEq
  have bitmaps := bitmaps_blank geometry
  have writtenSound : Sound cache geometry written := {
    pageSize := samePage
    devSize := rfl
    numPages := rfl
    presentLen := bitmaps.presentLen
    dirtyLen := bitmaps.dirtyLen
    generations := List.length_replicate
    dataLen := rfl
    innerSize := size
    presentInside := bitmaps.presentInside
    dirtyInside := bitmaps.dirtyInside
    lru := Lru.empty_valid
    mirror := writeFullMeta_mirrors bitmaps _ }
  have conclude (accounted : World Inner) (quiet : Quiet written accounted)
      (sameState : accounted.state = written.state) :
      Renewed cache geometry world (accounted.issue .create (.etag none)) := by
    have sound : Sound cache geometry accounted := quiet.sound writtenSound (by
      rw [sameState]
      exact Lru.empty_valid)
    refine ⟨⟨{ sound with }, ?_, ?_⟩, ?_, moved, size, ?_⟩
    · intro page _ known
      have known : accounted.state.lru.Evictable page := known
      rw [sameState] at known
      exact absurd known (Lru.empty_evictable page)
    · intro page set
      have set : bitGet accounted.state.dirty page = true := set
      rw [sameState] at set
      exact absurd set (by change ¬ bitGet blank page = true; rw [blankEq, bitGet_blank]; simp)
    · intro page
      change bitGet accounted.state.present page = false
      rw [sameState]
      exact bitGet_blank _ page
    · have issued : Issues world ([⟨.create, .inner moved⟩,
          ⟨.create, .data (.setLen geometry.devSize)⟩] ++ blankMeta geometry) written :=
        Issues.trans ((issue_issues world .create (.inner moved)).trans
          (show Issues _ _ { sized with state } from ⟨rfl, rfl⟩))
          (blankMeta_issues geometry { sized with state })
      have settled : Issues written [] accounted := ⟨by simp [quiet.calls], quiet.disk⟩
      simpa [renewal] using (issued.trans settled).trans (issue_issues accounted .create (.etag none))
  split
  · exact conclude written ⟨rfl, rfl, rfl, rfl, rfl, rfl, rfl⟩ rfl
  · exact conclude _ (withLocked_quiet _ _ _) rfl

end Renewal

section Operations

variable [BlobBackend Inner] [CreatableStore Inner]

/-- A creation is refused, fails in the inner backend, or renews the device. -/
theorem create_cases (tidy : Tidy cache geometry world) (size : UInt64) :
    (Tidy cache geometry (cache.create size.toNat world).2 ∧
        Traces (Chore geometry) world (cache.create size.toNat world).2) ∨
      ∃ renewed : Geometry, renewed.pageSize = geometry.pageSize ∧
        Renewed cache renewed world (cache.create size.toNat world).2 := by
  simp only [create, Action.bind_apply, Action.ensure_apply]
  by_cases valid : size.toNat ≠ 0 ∧ size.toNat % 512 = 0
  · rw [if_pos valid]
    dsimp only [World.callInner]
    cases answer : BlobBackend.create size.toNat world.disk.inner with
    | mk outcome moved =>
        cases outcome with
        | ok _ =>
            obtain ⟨_, sized⟩ := CreatableStore.create_ok world.disk.inner size.toNat
              (by rw [answer])
            rw [answer] at sized
            let renewed : Geometry := ⟨geometry.pageSize, size.toNat, geometry.pagePositive,
              geometry.pageAligned, Nat.pos_of_ne_zero valid.1, valid.2, geometry.pageBounded,
              size.toNat_lt⟩
            exact .inr ⟨renewed, rfl, reinit_renewed tidy.pageSize sized⟩
        | error error =>
            have keeps := CreatableStore.create_error world.disk.inner size.toNat error
              (by rw [answer])
            have asked := (query_pushed .create tidy.toSound keeps).settled tidy
            simp only [World.callInner, answer] at asked
            exact .inl ⟨asked.tidy, Traces.mono asked.traces fun _ _ _ => .settle⟩
  · rw [if_neg valid]
    exact .inl ⟨tidy, .refl _ _⟩

/-- An operation does its work in page steps, or renews the device. -/
theorem operate_cases (tidy : Tidy cache geometry world) (operation : Operation) :
    (Tidy cache geometry (cache.operate operation world) ∧
        Traces (Chore geometry) world (cache.operate operation world)) ∨
      ∃ renewed : Geometry, renewed.pageSize = geometry.pageSize ∧
        Renewed cache renewed world (cache.operate operation world) := by
  cases operation with
  | serve request => exact .inl (perform_traces tidy request)
  | create size => exact create_cases tidy size

end Operations

section Start

/-- These calls record the token that the blob reports. -/
def tokenCalls : Option String → List (Call Inner)
  | none => []
  | some current => [⟨.openCache, .etag (some "")⟩, ⟨.openCache, .etag (some current)⟩]

/-- These calls open a cache whose metadata cannot be reused. -/
def freshStart (geometry : Geometry) (currentEtag : Option String) : List (Call Inner) :=
  [⟨.openCache, .data (.setLen geometry.devSize)⟩] ++ blankMeta geometry ++ tokenCalls currentEtag

theorem countPages_blank (numPages : Nat) (dirty : List UInt8) :
    countPages numPages (fun page => bitGet (blankBitmap numPages) page && !bitGet dirty page) = 0 := by
  simp [countPages, bitGet_blank]

/-- Opening without usable metadata issues these calls and no others. -/
theorem openCache_issues (geometry : Geometry) {cfg : FileCacheConfig} {host : Host}
    {currentEtag : Option String} {disk : Disk Inner} {budgetFile : List Entry} {clock : Nat}
    {cache : FileCacheBackend} {world : World Inner} {recovered : Nat}
    (samePage : cfg.pageSize = geometry.pageSize)
    (fresh : metaReusable geometry.pageSize geometry.devSize geometry.numPages disk.metadata = false)
    (opened : openCache cfg host geometry.devSize currentEtag disk budgetFile clock =
      .ok (cache, world, recovered)) :
    world.calls = freshStart geometry currentEtag ∧
      world.disk = replay (freshStart geometry currentEtag) disk := by
  obtain ⟨quiet, _⟩ := openCache_quiet opened
  rw [quiet.calls, quiet.disk, samePage, validatedWorld]
  have pages : (geometry.devSize + geometry.pageSize - 1) / geometry.pageSize = geometry.numPages := rfl
  rw [pages, loadOrInitMeta_fresh fresh]
  set sized := sizedWorld geometry.pageSize geometry.devSize disk budgetFile clock
  have sizing : sized.calls = [⟨.openCache, .data (.setLen geometry.devSize)⟩] ∧
      sized.disk = replay [⟨.openCache, .data (.setLen geometry.devSize)⟩] disk := ⟨rfl, rfl⟩
  have wrote := blankMeta_issues geometry sized
  set written := writeFullMeta geometry.pageSize geometry.devSize geometry.numPages
    (blankBitmap geometry.numPages) (blankBitmap geometry.numPages) sized
  have logged : written.calls = [⟨.openCache, .data (.setLen geometry.devSize)⟩] ++ blankMeta geometry := by
    rw [wrote.logged, sizing.1]
  have landed : written.disk = replay ([⟨.openCache, .data (.setLen geometry.devSize)⟩] ++
      blankMeta geometry) disk := by
    rw [wrote.disk, sizing.2, replay_append]
  cases currentEtag with
  | none => simpa [validateEtag, freshStart, tokenCalls] using ⟨logged, landed⟩
  | some current =>
      have kept : (dropCleanPages geometry.numPages (blankBitmap geometry.numPages)
          (blankBitmap geometry.numPages) written).2 = written := by
        simp only [dropCleanPages, countPages_blank, if_true]
      have validated : (if readRecordedEtag written.disk.etag ≠ some current
          then dropCleanPages geometry.numPages (blankBitmap geometry.numPages)
            (blankBitmap geometry.numPages) written
          else (blankBitmap geometry.numPages, written)).2 = written := by
        split
        · exact kept
        · rfl
      simp only [validateEtag]
      rw [validated]
      simp only [World.issue, freshStart, tokenCalls, logged, landed, replay_append]
      exact ⟨by simp, rfl⟩

end Start
end FileCacheBackend
end UblkAzblob

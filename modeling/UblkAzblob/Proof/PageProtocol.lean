import UblkAzblob.Proof.Bitmap
import UblkAzblob.Proof.CacheLru
import UblkAzblob.Foundation.Interleaving
import Mathlib.Logic.Function.Basic

namespace UblkAzblob
open Storage

/-- A flat store answers from one byte array; a failed write is applied entirely or not at all. -/
class FlatStore (Inner : Type) [BlobBackend Inner] where
  content : Inner → Store
  size : Inner → Nat
  read_keeps : ∀ (inner : Inner) offset len,
    content (BlobBackend.read offset len inner).2 = content inner ∧
      size (BlobBackend.read offset len inner).2 = size inner
  read_exact : ∀ (inner : Inner) offset len bytes, offset % 512 = 0 → len % 512 = 0 →
    offset + len ≤ size inner → (BlobBackend.read offset len inner).1 = .ok bytes →
    bytes = slice (content inner) offset len
  write_size : ∀ (inner : Inner) offset bytes,
    size (BlobBackend.write offset bytes inner).2 = size inner
  write_ok : ∀ (inner : Inner) offset bytes, (BlobBackend.write offset bytes inner).1 = .ok () →
    content (BlobBackend.write offset bytes inner).2 = splice (content inner) offset bytes
  write_error : ∀ (inner : Inner) offset bytes error,
    (BlobBackend.write offset bytes inner).1 = .error error →
    content (BlobBackend.write offset bytes inner).2 = content inner ∨
      content (BlobBackend.write offset bytes inner).2 = splice (content inner) offset bytes
  flush_keeps : ∀ inner : Inner, content (BlobBackend.flush inner).2 = content inner ∧
    size (BlobBackend.flush inner).2 = size inner
  etag_keeps : ∀ inner : Inner, content (BlobBackend.etag inner).2 = content inner ∧
    size (BlobBackend.etag inner).2 = size inner
  ranges_keep : ∀ inner : Inner, content (BlobBackend.dataRanges inner).2 = content inner ∧
    size (BlobBackend.dataRanges inner).2 = size inner

/-- A reliable store never fails on an accepted call. -/
class ReliableStore (Inner : Type) [BlobBackend Inner] extends FlatStore Inner where
  read_total : ∀ (inner : Inner) offset len, offset % 512 = 0 → len % 512 = 0 →
    offset + len ≤ size inner → ∃ bytes, (BlobBackend.read offset len inner).1 = .ok bytes
  write_total : ∀ (inner : Inner) offset bytes, offset % 512 = 0 → bytes.length % 512 = 0 →
    offset + bytes.length ≤ size inner → (BlobBackend.write offset bytes inner).1 = .ok ()
  flush_total : ∀ inner : Inner, (BlobBackend.flush inner).1 = .ok ()

/-- A creatable store is blank after a create, and unchanged after a failed one. -/
class CreatableStore (Inner : Type) [BlobBackend Inner] extends FlatStore Inner where
  create_ok : ∀ (inner : Inner) bytes, (BlobBackend.create bytes inner).1 = .ok () →
    content (BlobBackend.create bytes inner).2 = (fun _ => 0) ∧
      size (BlobBackend.create bytes inner).2 = bytes
  create_error : ∀ (inner : Inner) bytes error, (BlobBackend.create bytes inner).1 = .error error →
    content (BlobBackend.create bytes inner).2 = content inner ∧
      size (BlobBackend.create bytes inner).2 = size inner

/-- The geometry cuts a device into pages; the last page may be short. -/
structure Geometry where
  pageSize : Nat
  devSize : Nat
  pagePositive : 0 < pageSize
  pageAligned : pageSize % 512 = 0
  devPositive : 0 < devSize
  devAligned : devSize % 512 = 0
  pageBounded : pageSize < 2 ^ 64
  devBounded : devSize < 2 ^ 64

namespace Geometry

def numPages (geometry : Geometry) : Nat :=
  (geometry.devSize + geometry.pageSize - 1) / geometry.pageSize

def bitmapLen (geometry : Geometry) : Nat := bitmapBytes geometry.numPages

def pageLen (geometry : Geometry) (page : Nat) : Nat :=
  min geometry.pageSize (geometry.devSize - page * geometry.pageSize)

theorem lt_numPages (geometry : Geometry) (page : Nat) :
    page < geometry.numPages ↔ page * geometry.pageSize < geometry.devSize := by
  have positive := geometry.pagePositive
  rw [numPages, Nat.lt_iff_add_one_le, Nat.le_div_iff_mul_le positive, Nat.add_mul]
  omega

theorem pageLen_pos (geometry : Geometry) {page : Nat} (inside : page < geometry.numPages) :
    0 < geometry.pageLen page := by
  have positive := geometry.pagePositive
  rw [lt_numPages] at inside
  simp only [pageLen]
  omega

/-- A byte lies in the stored part of a page exactly when it belongs to that page. -/
theorem mem_page (geometry : Geometry) (page x : Nat) :
    (page * geometry.pageSize ≤ x ∧ x < page * geometry.pageSize + geometry.pageLen page) ↔
      x / geometry.pageSize = page ∧ x < geometry.devSize := by
  have positive := geometry.pagePositive
  rw [Nat.div_eq_iff positive]
  simp only [pageLen]
  have next : (page + 1) * geometry.pageSize = page * geometry.pageSize + geometry.pageSize :=
    Nat.succ_mul _ _
  omega

theorem page_lt (geometry : Geometry) {x : Nat} (inside : x < geometry.devSize) :
    x / geometry.pageSize < geometry.numPages := by
  rw [lt_numPages]
  exact lt_of_le_of_lt (Nat.div_mul_le_self x geometry.pageSize) inside

theorem byte_lt_bitmapLen (geometry : Geometry) {page : Nat} (inside : page < geometry.numPages) :
    page / 8 < geometry.bitmapLen := by
  simp only [bitmapLen, bitmapBytes]
  omega

theorem pageLen_aligned (geometry : Geometry) (page : Nat) : geometry.pageLen page % 512 = 0 := by
  have aligned := geometry.pageAligned
  have device := geometry.devAligned
  have start : page * geometry.pageSize % 512 = 0 := by rw [Nat.mul_mod, aligned]; simp
  simp only [pageLen]
  omega

theorem page_start_aligned (geometry : Geometry) (page : Nat) :
    page * geometry.pageSize % 512 = 0 := by
  rw [Nat.mul_mod, geometry.pageAligned]
  simp

theorem page_end_le (geometry : Geometry) {page : Nat} (inside : page < geometry.numPages) :
    page * geometry.pageSize + geometry.pageLen page ≤ geometry.devSize := by
  rw [lt_numPages] at inside
  simp only [pageLen]
  omega

end Geometry

/-- The view keeps what the pages mean and forgets the bookkeeping. -/
@[ext] structure View where
  data : Store
  inner : Store
  present : Nat → Bool
  dirty : Nat → Bool
  generation : Nat → Nat

/-- The contents are read from the cache file where a page is present. -/
def View.contents (geometry : Geometry) (view : View) : Store := fun x =>
  if view.present (x / geometry.pageSize) then view.data x else view.inner x

/-- Clean pages repeat the inner store, and dirty pages are present. -/
structure View.Coherent (geometry : Geometry) (view : View) : Prop where
  clean : ∀ x, x < geometry.devSize → view.present (x / geometry.pageSize) = true →
    view.dirty (x / geometry.pageSize) = false → view.data x = view.inner x
  resident : ∀ page, view.dirty page = true → view.present page = true

/-- A page is current when it repeats the inner store or is not clean. -/
def View.Current (geometry : Geometry) (view : View) (page : Nat) : Prop :=
  ∀ x, x < geometry.devSize → x / geometry.pageSize = page → view.present page = true →
    view.dirty page = false → view.data x = view.inner x

theorem View.Coherent.current {geometry : Geometry} {view : View} (coherent : view.Coherent geometry)
    (page : Nat) : view.Current geometry page := by
  rintro x device rfl
  exact coherent.clean x device

theorem View.coherent_of_current {geometry : Geometry} {view : View}
    (current : ∀ page, view.Current geometry page)
    (resident : ∀ page, view.dirty page = true → view.present page = true) : view.Coherent geometry where
  clean x device := current _ x device rfl
  resident := resident

/-- A bitmap byte holds the bits of its eight pages. -/
def Encodes (byte : UInt8) (bits : Nat → Bool) (page : Nat) : Prop :=
  ∀ other, other / 8 = page / 8 → byteBit byte (other % 8) = bits other

section Steps

variable {Inner : Type}

def presentByteCall (site : Site) (page : Nat) (byte : UInt8) : Call Inner :=
  ⟨site, .metadata (.write (headerSize + page / 8) [byte])⟩

def dirtyByteCall (geometry : Geometry) (page : Nat) (byte : UInt8) : Call Inner :=
  ⟨.persistDirty page, .metadata (.write (headerSize + geometry.bitmapLen + page / 8) [byte])⟩

def View.load (geometry : Geometry) (view : View) (page : Nat) (bytes : List UInt8) : View :=
  { view with
    data := splice view.data (page * geometry.pageSize) bytes
    present := Function.update view.present page true }

def View.evict (geometry : Geometry) (view : View) (page : Nat) : View :=
  { view with
    data := zeroed view.data (page * geometry.pageSize) (geometry.pageLen page)
    present := Function.update view.present page false }

def View.overwritten (geometry : Geometry) (view : View) (page pageOffset : Nat)
    (payload : List UInt8) : View :=
  { view with
    data := splice view.data (page * geometry.pageSize + pageOffset) payload
    present := Function.update view.present page true
    dirty := Function.update view.dirty page true
    generation := Function.update view.generation page ((view.generation page + 1) % 2 ^ 64) }

def View.cleaned (view : View) (page : Nat) : View :=
  { view with dirty := Function.update view.dirty page false }

/-- Upkeep loads clean pages and evicts clean pages; the contents stay the same. -/
inductive Upkeep [BlobBackend Inner] [FlatStore Inner] (geometry : Geometry) : View → List (Call Inner) → View → Prop where
  | fetch (view : View) (page : Nat) (after : Inner) (same : FlatStore.content after = view.inner)
      (sized : FlatStore.size after = geometry.devSize) :
      Upkeep geometry view [⟨.fetch page, .inner after⟩] view
  | load (view : View) (page : Nat) (bytes : List UInt8) (op : FileOp) (byte : UInt8)
      (inside : page < geometry.numPages) (absent : view.present page = false)
      (fresh : bytes = slice view.inner (page * geometry.pageSize) (geometry.pageLen page))
      (stores : op = .write (page * geometry.pageSize) bytes ∨
        (op = .punch (page * geometry.pageSize) bytes.length ∧ ∀ byte ∈ bytes, byte = 0))
      (bits : Encodes byte (view.load geometry page bytes).present page) :
      Upkeep geometry view
        [⟨.storeCleanPage page, .data op⟩, presentByteCall (.storeCleanPage page) page byte]
        (view.load geometry page bytes)
  | evict (view : View) (page : Nat) (byte : UInt8) (inside : page < geometry.numPages)
      (clean : view.dirty page = false)
      (bits : Encodes byte (view.evict geometry page).present page) :
      Upkeep geometry view
        [⟨.evictClean page, .data (.punch (page * geometry.pageSize) (geometry.pageLen page))⟩,
          presentByteCall (.evictClean page) page byte]
        (view.evict geometry page)

/-- A page region is overwritten, synced and recorded as dirty. -/
inductive Dirties (geometry : Geometry) (page pageOffset : Nat) (payload : List UInt8) :
    View → List (Call Inner) → View → Prop where
  | region (view : View) (presentByte dirtyByte : UInt8) (inside : page < geometry.numPages)
      (ready : view.present page = true ∨ (pageOffset = 0 ∧ payload.length = geometry.pageLen page))
      (fits : pageOffset + payload.length ≤ geometry.pageLen page)
      (presentBits : Encodes presentByte
        (view.overwritten geometry page pageOffset payload).present page)
      (dirtyBits : Encodes dirtyByte
        (view.overwritten geometry page pageOffset payload).dirty page) :
      Dirties geometry page pageOffset payload view
        [⟨.dirtyPageRegion page, .data (.write (page * geometry.pageSize + pageOffset) payload)⟩,
          ⟨.dirtyPageRegion page, .data .sync⟩,
          presentByteCall (.persistPresent page) page presentByte,
          dirtyByteCall geometry page dirtyByte,
          ⟨.persistSync page, .metadata .sync⟩]
        (view.overwritten geometry page pageOffset payload)

/-- The dirty bit of an uploaded page is cleared and made durable. -/
inductive Cleans (geometry : Geometry) (page : Nat) : View → List (Call Inner) → View → Prop where
  | uploaded (view : View) (presentByte dirtyByte : UInt8) (inside : page < geometry.numPages)
      (same : view.dirty page = true → ∀ x, x < geometry.devSize → x / geometry.pageSize = page →
        view.data x = view.inner x)
      (presentBits : Encodes presentByte view.present page)
      (dirtyBits : Encodes dirtyByte (view.cleaned page).dirty page) :
      Cleans geometry page view
        [presentByteCall (.persistPresent page) page presentByte,
          dirtyByteCall geometry page dirtyByte,
          ⟨.persistSync page, .metadata .sync⟩]
        (view.cleaned page)

/-- A push moves a dirty page to the inner store, marks it clean, or asks the inner backend. -/
inductive Pushes [BlobBackend Inner] [FlatStore Inner] (geometry : Geometry) :
    View → List (Call Inner) → View → Prop where
  | upload (view : View) (page : Nat) (after : Inner) (inside : page < geometry.numPages)
      (dirty : view.dirty page = true)
      (landed : FlatStore.content after = view.inner ∨ FlatStore.content after =
        splice view.inner (page * geometry.pageSize)
          (slice view.data (page * geometry.pageSize) (geometry.pageLen page)))
      (sized : FlatStore.size after = geometry.devSize) :
      Pushes geometry view [⟨.upload page, .inner after⟩]
        { view with inner := FlatStore.content after }
  | cleans {page : Nat} {before after : View} {calls : List (Call Inner)}
      (step : Cleans geometry page before calls after) : Pushes geometry before calls after
  | token (view : View) (contents : Option String) :
      Pushes geometry view [⟨.persistEtag, .etag contents⟩] view
  | query (view : View) (site : Site) (after : Inner) (same : FlatStore.content after = view.inner)
      (sized : FlatStore.size after = geometry.devSize) :
      Pushes geometry view [⟨site, .inner after⟩] view

/-- A settling step leaves the contents alone. -/
inductive Settle [BlobBackend Inner] [FlatStore Inner] (geometry : Geometry) :
    View → List (Call Inner) → View → Prop where
  | upkeep {before after : View} {calls : List (Call Inner)}
      (step : Upkeep geometry before calls after) : Settle geometry before calls after
  | pushes {before after : View} {calls : List (Call Inner)}
      (step : Pushes geometry before calls after) : Settle geometry before calls after

/-- A chore either settles the cache or overwrites a region of one page. -/
inductive Chore [BlobBackend Inner] [FlatStore Inner] (geometry : Geometry) :
    View → List (Call Inner) → View → Prop where
  | settle {before after : View} {calls : List (Call Inner)}
      (step : Settle geometry before calls after) : Chore geometry before calls after
  | dirties {page pageOffset : Nat} {payload : List UInt8} {before after : View}
      {calls : List (Call Inner)} (step : Dirties geometry page pageOffset payload before calls after) :
      Chore geometry before calls after

end Steps

section Meaning

variable {Inner : Type} {geometry : Geometry} {before after : View} {calls : List (Call Inner)}

section Upkeep

variable [BlobBackend Inner] [FlatStore Inner]

/-- Upkeep touches no dirty page, no generation and no byte of the inner store. -/
theorem Upkeep.frame (step : Upkeep geometry before calls after) :
    after.inner = before.inner ∧ after.dirty = before.dirty ∧
      after.generation = before.generation := by
  cases step <;> exact ⟨rfl, rfl, rfl⟩

/-- Upkeep keeps a page current, and the page it loads becomes current. -/
theorem Upkeep.current {page : Nat} (step : Upkeep geometry before calls after)
    (held : before.Current geometry page ∨ ∃ op, ⟨.storeCleanPage page, .data op⟩ ∈ calls) :
    after.Current geometry page := by
  cases step with
  | fetch own moved same sized => exact held.resolve_right (by simp)
  | load own bytes op byte inside absent fresh stores bits =>
      intro x device inPage present clean
      simp only [View.load, fresh, splice_slice, geometry.mem_page]
      by_cases same : page = own
      · simp [inPage, same, device]
      · have current : before.Current geometry page :=
          held.resolve_right (by simp [presentByteCall, same])
        rw [if_neg (by simp [inPage, same])]
        exact current x device inPage (by simpa [View.load, same] using present) clean
  | evict own byte inside clean bits =>
      have current : before.Current geometry page := held.resolve_right (by simp [presentByteCall])
      intro x device inPage remains untouched
      have other : page ≠ own := by
        rintro rfl
        simp [View.evict] at remains
      simp only [View.evict, zeroed, geometry.mem_page]
      rw [if_neg (by simp [inPage, other])]
      exact current x device inPage (by simpa [View.evict, other] using remains) untouched

theorem Upkeep.coherent (step : Upkeep geometry before calls after)
    (coherent : before.Coherent geometry) : after.Coherent geometry := by
  refine View.coherent_of_current (fun page => step.current (.inl (coherent.current page))) ?_
  intro other dirty
  cases step with
  | fetch => exact coherent.resident other dirty
  | load page bytes op byte inside absent fresh stores bits =>
      by_cases own : other = page
      · simp [View.load, own]
      · simpa [View.load, own] using coherent.resident other dirty
  | evict page byte inside clean bits =>
      have different : other ≠ page := by
        rintro rfl
        exact absurd dirty (by simp [View.evict, clean])
      simpa [View.evict, different] using coherent.resident other dirty

theorem Upkeep.contents (step : Upkeep geometry before calls after)
    (coherent : before.Coherent geometry) :
    AgreeOn 0 geometry.devSize (after.contents geometry) (before.contents geometry) := by
  intro x _ device
  cases step with
  | fetch => rfl
  | load page bytes op byte inside absent fresh stores bits =>
      by_cases own : x / geometry.pageSize = page
      · simp [View.contents, View.load, own, absent, fresh, splice_slice, geometry.mem_page, device]
      · simp [View.contents, View.load, own, fresh, splice_slice, geometry.mem_page]
  | evict page byte inside clean bits =>
      by_cases own : x / geometry.pageSize = page
      · by_cases present : before.present page
        · have same := coherent.clean x device (by rw [own]; exact present) (by rw [own]; exact clean)
          simp [View.contents, View.evict, own, present, same]
        · simp [View.contents, View.evict, own, present]
      · simp [View.contents, View.evict, own, zeroed, geometry.mem_page]

end Upkeep

theorem Dirties.current {page pageOffset other : Nat} {payload : List UInt8}
    (step : Dirties geometry page pageOffset payload before calls after)
    (current : before.Current geometry other) : after.Current geometry other := by
  obtain ⟨presentByte, dirtyByte, inside, ready, fits, _, _⟩ := step
  have within := geometry.page_end_le inside
  intro x device inPage present clean
  have different : other ≠ page := by
    rintro rfl
    simp [View.overwritten] at clean
  have outside := (geometry.mem_page page x).not.mpr (by simp [inPage, different])
  simp only [View.overwritten]
  rw [splice_outside (by omega)]
  exact current x device inPage (by simpa [View.overwritten, different] using present)
    (by simpa [View.overwritten, different] using clean)

theorem Dirties.coherent {page pageOffset : Nat} {payload : List UInt8}
    (step : Dirties geometry page pageOffset payload before calls after)
    (coherent : before.Coherent geometry) : after.Coherent geometry := by
  refine View.coherent_of_current (fun other => step.current (coherent.current other)) ?_
  obtain ⟨presentByte, dirtyByte, inside, ready, fits, _, _⟩ := step
  intro other dirty
  by_cases own : other = page
  · simp [View.overwritten, own]
  · simpa [View.overwritten, own] using coherent.resident other
      (by simpa [View.overwritten, own] using dirty)

/-- A dirtied region shows up in the contents and nowhere else. -/
theorem Dirties.contents {page pageOffset : Nat} {payload : List UInt8}
    (step : Dirties geometry page pageOffset payload before calls after) :
    AgreeOn 0 geometry.devSize (after.contents geometry)
      (splice (before.contents geometry) (page * geometry.pageSize + pageOffset) payload) := by
  obtain ⟨presentByte, dirtyByte, inside, ready, fits, _, _⟩ := step
  intro x _ device
  have member := geometry.mem_page page x
  by_cases own : x / geometry.pageSize = page
  · have range := member.mpr ⟨own, device⟩
    rcases ready with present | ⟨rfl, whole⟩
    · simp [View.contents, View.overwritten, own, splice, present]
    · simp only [View.contents, View.overwritten, own, Function.update_self, if_true, splice]
      rw [if_pos (by omega), if_pos (by omega)]
  · have outside := member.not.mpr (by simp [own])
    rw [splice_outside (by omega)]
    simp only [View.contents, View.overwritten, Function.update_of_ne own]
    rw [splice_outside (by omega)]

theorem Cleans.current {page other : Nat} (step : Cleans geometry page before calls after)
    (current : before.Current geometry other) : after.Current geometry other := by
  obtain ⟨presentByte, dirtyByte, inside, same, _, _⟩ := step
  intro x device inPage present clean
  by_cases dirty : before.dirty other = true
  · have own : other = page := by
      by_contra different
      simp [View.cleaned, different, dirty] at clean
    exact same (own ▸ dirty) x device (inPage.trans own)
  · exact current x device inPage present (by simpa using dirty)

theorem Cleans.coherent {page : Nat} (step : Cleans geometry page before calls after)
    (coherent : before.Coherent geometry) : after.Coherent geometry := by
  refine View.coherent_of_current (fun other => step.current (coherent.current other)) ?_
  obtain ⟨presentByte, dirtyByte, inside, same, _, _⟩ := step
  intro other dirty
  by_cases own : other = page
  · simp [View.cleaned, own] at dirty
  · exact coherent.resident other (by simpa [View.cleaned, own] using dirty)

section Settle

variable [BlobBackend Inner] [FlatStore Inner]

theorem Pushes.current {page : Nat} (step : Pushes geometry before calls after)
    (current : before.Current geometry page) : after.Current geometry page := by
  cases step with
  | upload _ own moved inside dirty landed sized =>
      intro x device inPage present clean
      have other : page ≠ own := by
        rintro rfl
        exact Bool.false_ne_true (clean.symm.trans dirty)
      have outside := (geometry.mem_page own x).not.mpr (by simp [inPage, other])
      dsimp only
      rw [current x device inPage present clean]
      rcases landed with same | moved
      · rw [same]
      · rw [moved, splice_slice, if_neg outside]
  | cleans step => exact step.current current
  | token _ contents => exact current
  | query _ site moved same sized => exact current

theorem Pushes.coherent (step : Pushes geometry before calls after)
    (coherent : before.Coherent geometry) : after.Coherent geometry := by
  refine View.coherent_of_current (fun page => step.current (coherent.current page)) ?_
  cases step with
  | cleans step => exact (step.coherent coherent).resident
  | _ => exact coherent.resident

theorem Pushes.contents (step : Pushes geometry before calls after)
    (coherent : before.Coherent geometry) :
    AgreeOn 0 geometry.devSize (after.contents geometry) (before.contents geometry) := by
  intro x low device
  cases step with
  | upload _ page moved inside dirty landed sized =>
      simp only [View.contents]
      by_cases present : before.present (x / geometry.pageSize)
      · rw [if_pos present, if_pos present]
      · rw [if_neg present, if_neg present]
        have other : x / geometry.pageSize ≠ page := by
          rintro rfl
          exact present (coherent.resident _ dirty)
        have outside := (geometry.mem_page page x).not.mpr (by simp [other])
        rcases landed with same | moved
        · rw [same]
        · rw [moved, splice_slice, if_neg outside]
  | cleans step =>
      cases step
      rfl
  | token _ contents => rfl
  | query _ site moved same sized => rfl

theorem Settle.coherent (step : Settle geometry before calls after)
    (coherent : before.Coherent geometry) : after.Coherent geometry := by
  cases step with
  | upkeep step => exact step.coherent coherent
  | pushes step => exact step.coherent coherent

theorem Settle.contents (step : Settle geometry before calls after)
    (coherent : before.Coherent geometry) :
    AgreeOn 0 geometry.devSize (after.contents geometry) (before.contents geometry) := by
  cases step with
  | upkeep step => exact step.contents coherent
  | pushes step => exact step.contents coherent

/-- A pushed view differs from its start in pages that were dirty at the start. -/
structure View.PushedFrom (geometry : Geometry) (start view : View) : Prop where
  data : view.data = start.data
  present : view.present = start.present
  generation : view.generation = start.generation
  dirty : ∀ page, view.dirty page = true → start.dirty page = true
  inner : ∀ x, x < geometry.devSize → view.dirty (x / geometry.pageSize) = false →
    view.inner x = if start.dirty (x / geometry.pageSize) then start.data x else start.inner x

theorem Pushes.pushedFrom {start : View} (step : Pushes geometry before calls after)
    (pushed : start.PushedFrom geometry before) : start.PushedFrom geometry after := by
  cases step with
  | upload _ page moved inside dirty landed sized =>
      refine { pushed with inner := ?_ }
      intro x device clean
      have other : x / geometry.pageSize ≠ page := by
        rintro rfl
        exact Bool.false_ne_true (clean.symm.trans dirty)
      have outside := (geometry.mem_page page x).not.mpr (by simp [other])
      rw [← pushed.inner x device clean]
      dsimp only
      rcases landed with same | moved
      · rw [same]
      · rw [moved, splice_slice, if_neg outside]
  | @cleans page _ _ _ step =>
      obtain ⟨presentByte, dirtyByte, inside, same, _, _⟩ := step
      refine { pushed with dirty := ?_, inner := ?_ }
      · intro other dirty
        by_cases own : other = page
        · simp [View.cleaned, own] at dirty
        · exact pushed.dirty other (by simpa [View.cleaned, own] using dirty)
      · intro x device clean
        by_cases own : x / geometry.pageSize = page
        · by_cases dirty : before.dirty (x / geometry.pageSize)
          · rw [if_pos (pushed.dirty _ dirty)]
            exact (same (own ▸ dirty) x device own).symm.trans (congrFun pushed.data x)
          · exact pushed.inner x device (by simpa using dirty)
        · exact pushed.inner x device (by simpa [View.cleaned, own] using clean)
  | token _ contents => exact pushed
  | query _ site moved same sized => exact pushed

/-- The data file is written for a page under the site of its load only when it is loaded. -/
theorem Pushes.not_stores {page : Nat} {op : FileOp} (step : Pushes geometry before calls after) :
    ⟨.storeCleanPage page, .data op⟩ ∉ calls := by
  cases step with
  | cleans step =>
      cases step
      simp [presentByteCall, dirtyByteCall]
  | _ => simp

/-- A chore keeps a page current, and the page it loads becomes current. -/
theorem Chore.current {page : Nat} (step : Chore geometry before calls after)
    (held : before.Current geometry page ∨ ∃ op, ⟨.storeCleanPage page, .data op⟩ ∈ calls) :
    after.Current geometry page := by
  cases step with
  | settle step =>
      cases step with
      | upkeep step => exact step.current held
      | pushes step => exact step.current (held.resolve_right fun ⟨_, stores⟩ => step.not_stores stores)
  | dirties step =>
      refine step.current (held.resolve_right fun ⟨_, stores⟩ => ?_)
      cases step
      simp [presentByteCall, dirtyByteCall] at stores

/-- A page that was current, or is loaded on the way, is current at the end of a trail. -/
theorem trail_current {page : Nat} (trail : Trail (Chore geometry) before calls after)
    (held : before.Current geometry page ∨ ∃ op, ⟨.storeCleanPage page, .data op⟩ ∈ calls) :
    after.Current geometry page := by
  induction trail with
  | refl view => exact held.resolve_right (by simp)
  | @step first middle last labels rest head tail ih =>
      rcases held with current | ⟨op, stores⟩
      · exact ih (.inl (head.current (.inl current)))
      · rcases List.mem_append.mp stores with now | later
        · exact ih (.inl (head.current (.inr ⟨op, now⟩)))
        · exact ih (.inr ⟨op, later⟩)

theorem Chore.coherent (step : Chore geometry before calls after)
    (coherent : before.Coherent geometry) : after.Coherent geometry := by
  cases step with
  | settle step => exact step.coherent coherent
  | dirties step => exact step.coherent coherent

/-- A whole trail of settling steps leaves the contents alone. -/
theorem settled_contents (trail : Trail (Settle geometry) before calls after)
    (coherent : before.Coherent geometry) :
    after.Coherent geometry ∧
      AgreeOn 0 geometry.devSize (after.contents geometry) (before.contents geometry) := by
  induction trail with
  | refl view => exact ⟨coherent, fun _ _ _ => rfl⟩
  | step head tail ih =>
      obtain ⟨final, same⟩ := ih (head.coherent coherent)
      exact ⟨final, same.trans (head.contents coherent)⟩

end Settle
end Meaning
end UblkAzblob

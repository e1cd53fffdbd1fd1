import UblkAzblob.Construction.Stack
import UblkAzblob.Proof.BufferedRefinement
import UblkAzblob.Proof.FileCacheRefinement

namespace UblkAzblob
open Storage

namespace FileCacheBackend

variable {Inner : Type} [BlobBackend Inner] [FlatStore Inner]
variable {cache : FileCacheBackend} {geometry : Geometry} {world : World Inner}

/-- A dropped write has written some of its leading sectors. -/
theorem abandonWrite_spec (progress offset : Nat) (data : List UInt8) (tidy : Tidy cache geometry world)
    (accepted : Accepts geometry offset data.length) :
    ∃ count, count % 512 = 0 ∧ count ≤ data.length ∧
      Written cache geometry offset (data.take count) world
        (cache.abandonWrite progress offset data world).2 := by
  rw [abandonWrite]
  split
  · exact ⟨0, rfl, Nat.zero_le _, by simpa using (Settled.refl tidy).written offset⟩
  · rw [guard_accepts _ _ _ tidy accepted, tidy.pageSize]
    obtain ⟨offsetAligned, lenAligned, device⟩ := accepted
    obtain ⟨count, countAligned, bound, written, _⟩ := writeLoop_spec
      progress (chunks_tiles geometry.pageSize offset data.length geometry.pagePositive)
      (Nat.zero_mod 512) offsetAligned lenAligned device tidy
    exact ⟨count, countAligned, bound, by simpa using written⟩

end FileCacheBackend

namespace CachedDevice

variable {Inner : Type} [BlobBackend Inner] [FlatStore Inner]

/-- A running device keeps the invariants of its cache. -/
def Running (geometry : Geometry) (device : CachedDevice Inner) : Prop :=
  Tidy device.cache geometry device.world ∧ device.world.view.Coherent geometry

/-- The bytes that the device shows. -/
def content (device : CachedDevice Inner) : Store := fun x =>
  if x < device.world.state.devSize then
    if bitGet device.world.state.present (x / device.cache.pageSize)
    then device.world.disk.data.bytes x else FlatStore.content device.world.disk.inner x
  else 0

/-- The blob behind the device. -/
def blob (device : CachedDevice Inner) : Store := FlatStore.content device.world.disk.inner

variable {geometry : Geometry} {device : CachedDevice Inner}

theorem content_eq (running : Running geometry device) (x : Nat) :
    device.content x =
      if x < geometry.devSize then device.world.view.contents geometry x else 0 := by
  rw [content, running.1.devSize, running.1.pageSize]
  rfl

/-- A written cache shows the old contents with the payload spliced in. -/
theorem running_of_written (offset : Nat) (payload : List UInt8) {after : World Inner}
    (running : Running geometry device) (inside : offset + payload.length ≤ geometry.devSize)
    (written : FileCacheBackend.Written device.cache geometry offset payload device.world after) :
    Running geometry { device with world := after } ∧
      content { device with world := after } = splice device.content offset payload := by
  have next : Running geometry { device with world := after } :=
    ⟨written.tidy, FileCacheBackend.Traces.coherent written.traces running.2⟩
  refine ⟨next, ?_⟩
  funext x
  rw [content_eq next]
  by_cases device' : x < geometry.devSize
  · rw [if_pos device', written.contents running.2 x (Nat.zero_le x) device']
    simp only [splice]
    rw [content_eq running, if_pos device']
  · rw [if_neg device', splice_outside (by omega), content_eq running, if_neg device']

/-- A settled cache shows the old contents. -/
theorem running_of_settled {after : World Inner} (running : Running geometry device)
    (settled : FileCacheBackend.Settled device.cache geometry device.world after) :
    Running geometry { device with world := after } ∧
      content { device with world := after } = device.content := by
  have written := running_of_written 0 [] running
    (by simp) (settled.written 0)
  rw [splice_nil] at written
  exact written

theorem running_size {after : CachedDevice Inner} (running : Running geometry device)
    (next : Running geometry after) : after.world.state.devSize = device.world.state.devSize := by
  rw [next.1.devSize, running.1.devSize]

/-- An accepted write shows some of its leading sectors, and all of them on success. -/
theorem write_leading {offset : Nat} {bytes : List UInt8} (running : Running geometry device)
    (inside : offset + bytes.length ≤ geometry.devSize) :
    ∃ count, count % 512 = 0 ∧ count ≤ bytes.length ∧
      Running geometry (BlobBackend.write offset bytes device).2 ∧
      content (BlobBackend.write offset bytes device).2 =
        splice device.content offset (bytes.take count) ∧
      ((BlobBackend.write offset bytes device).1 = .ok () → count = bytes.length) := by
  obtain ⟨count, aligned, bound, written, finished⟩ :=
    (FileCacheBackend.write_applied offset bytes running.1).leading
  obtain ⟨next, shown⟩ := running_of_written _ _ running
    (by rw [List.length_take]; omega) written
  exact ⟨count, aligned, bound, next, shown, finished⟩

instance : SectorStore (CachedDevice Inner) where
  valid device := ∃ geometry, Running geometry device
  content := content
  size device := device.world.state.devSize
  aligned := by
    rintro device ⟨geometry, running⟩
    rw [running.1.devSize]
    exact ⟨geometry.devAligned, geometry.devBounded⟩
  size_keeps device valid := ⟨valid, rfl, rfl⟩
  size_exact := by
    rintro device answer _ ⟨⟩
    rfl
  read_keeps := by
    rintro device offset len ⟨geometry, running⟩
    obtain ⟨tidy, traces, _⟩ :=
      FileCacheBackend.read_spec offset len running.1
    obtain ⟨next, shown⟩ := running_of_settled running
      (FileCacheBackend.settled_of_upkeep tidy traces)
    exact ⟨⟨geometry, next⟩, shown, running_size running next⟩
  read_exact := by
    rintro device offset len bytes ⟨geometry, running⟩ _ _ inside success
    obtain ⟨_, _, _, exact⟩ := FileCacheBackend.read_spec offset len running.1
    rw [(exact bytes success).1]
    apply slice_congr
    intro x low high
    rw [running.1.devSize] at inside
    rw [content_eq running, if_pos (by omega)]
  write_keeps := by
    rintro device offset bytes ⟨geometry, running⟩ _ _ inside
    rw [running.1.devSize] at inside
    obtain ⟨_, _, _, next, _⟩ := write_leading running inside
    exact ⟨⟨geometry, next⟩, running_size running next⟩
  write_ok := by
    rintro device offset bytes ⟨geometry, running⟩ _ _ inside success
    rw [running.1.devSize] at inside
    obtain ⟨count, _, _, _, shown, finished⟩ := write_leading running inside
    rw [shown, finished success, List.take_length]
  write_torn := by
    rintro device offset bytes ⟨geometry, running⟩ offsetAligned _ inside
    rw [running.1.devSize] at inside
    obtain ⟨count, aligned, bound, _, shown, _⟩ := write_leading running inside
    rw [shown]
    exact splice_take_torn _ bytes (.inr ⟨offsetAligned, aligned⟩) bound
  abandon_torn := by
    rintro device progress offset bytes ⟨geometry, running⟩ offsetAligned lenAligned inside
    rw [running.1.devSize] at inside
    obtain ⟨count, aligned, bound, written⟩ := FileCacheBackend.abandonWrite_spec
      progress offset bytes running.1 ⟨offsetAligned, lenAligned, inside⟩
    obtain ⟨next, shown⟩ := running_of_written _ _ running (by rw [List.length_take]; omega) written
    refine ⟨⟨geometry, next⟩, running_size running next, ?_⟩
    obtain ⟨keep, mixed⟩ := splice_take_torn device.content bytes (.inr ⟨offsetAligned, aligned⟩) bound
    exact ⟨keep, shown.trans mixed⟩
  flush_keeps := by
    rintro device ⟨geometry, running⟩
    obtain ⟨next, shown⟩ := running_of_settled running
      ((FileCacheBackend.flush_spec running.1.toSound).1.settled running.1)
    exact ⟨⟨geometry, next⟩, shown, running_size running next⟩

/-- A successful flush of the cache brings the blob up to date. -/
theorem flush_blob (running : Running geometry device)
    (success : (BlobBackend.flush device).1 = .ok ()) :
    AgreeOn 0 geometry.devSize (blob (BlobBackend.flush device).2)
      (content (BlobBackend.flush device).2) := by
  obtain ⟨pushed, clean⟩ := FileCacheBackend.flush_spec running.1.toSound
  obtain ⟨next, _⟩ := running_of_settled running (pushed.settled running.1)
  have refines : FileCacheBackend.Refines device.cache geometry
      ((device.cache.flush device.world).2.view.contents geometry) (device.cache.flush device.world).2 :=
    ⟨next.1, next.2, fun _ _ _ => rfl⟩
  refine (refines.inner (clean success)).trans ?_
  intro x _ inside
  exact ((content_eq next x).trans (if_pos inside)).symm

/-- The opened device shows the reference array, and so does the blob. -/
structure Up (geometry : Geometry) (reference : Store) (device : CachedDevice Inner) : Prop where
  running : Running geometry device
  content : AgreeOn 0 geometry.devSize device.content reference
  blob : AgreeOn 0 geometry.devSize device.blob reference

theorem up_of_refines {cache : FileCacheBackend} {world : World Inner} {reference : Store}
    (refines : FileCacheBackend.Refines cache geometry reference world)
    (clean : ∀ page, world.view.dirty page = false) : Up geometry reference ⟨cache, world⟩ where
  running := ⟨refines.tidy, refines.coherent⟩
  content := by
    intro x low inside
    rw [content_eq ⟨refines.tidy, refines.coherent⟩, if_pos inside]
    exact refines.contents x low inside
  blob := refines.inner clean

/-- A start that succeeds shows what the opened cache showed. -/
theorem bringUp_up {cfg : FileCacheConfig} {host : Host} {disk : Disk Inner}
    {budgetFile : List Entry} {clock : Nat} {reference : Store}
    (opens : ∀ cache world recovered, FileCacheBackend.openCache cfg host geometry.devSize
        (currentEtag disk).1 (currentEtag disk).2 budgetFile clock = .ok (cache, world, recovered) →
      FileCacheBackend.Refines cache geometry reference world ∧
        (recovered = 0 → ∀ page, world.view.dirty page = false))
    (up : bringUp cfg host geometry.devSize disk budgetFile clock = .ok device) :
    Up geometry reference device := by
  rw [bringUp] at up
  cases answer : FileCacheBackend.openCache cfg host geometry.devSize (currentEtag disk).1
      (currentEtag disk).2 budgetFile clock with
  | error error => simp [answer] at up
  | ok parts =>
      obtain ⟨cache, world, recovered⟩ := parts
      obtain ⟨refines, clean⟩ := opens cache world recovered answer
      rw [answer] at up
      dsimp only at up
      split at up
      · rename_i zero
        cases up
        exact up_of_refines refines (clean zero)
      · obtain ⟨pushed, clean⟩ := FileCacheBackend.flush_spec refines.tidy.toSound
        have flushed := refines.settled (pushed.settled refines.tidy)
        cases result : cache.flush world with
        | mk outcome after =>
            rw [result] at up clean flushed
            cases outcome with
            | error error => cases up
            | ok value =>
                cases up
                exact up_of_refines flushed (clean rfl)

theorem currentEtag_keeps (disk : Disk Inner) :
    (currentEtag disk).2.data = disk.data ∧ (currentEtag disk).2.metadata = disk.metadata ∧
      FlatStore.content (currentEtag disk).2.inner = FlatStore.content disk.inner ∧
      FlatStore.size (currentEtag disk).2.inner = FlatStore.size disk.inner := by
  have keeps := FlatStore.etag_keeps disk.inner
  rw [currentEtag]
  cases answer : BlobBackend.etag disk.inner with
  | mk outcome after =>
      rw [answer] at keeps
      cases outcome <;> exact ⟨rfl, rfl, keeps⟩

/-- The first start shows the blob. -/
theorem bringUp_fresh (geometry : Geometry) {cfg : FileCacheConfig} {host : Host} {disk : Disk Inner}
    {budgetFile : List Entry} {clock : Nat} (samePage : cfg.pageSize = geometry.pageSize)
    (size : FlatStore.size disk.inner = geometry.devSize)
    (fresh : FileCacheBackend.metaReusable geometry.pageSize geometry.devSize geometry.numPages
      disk.metadata = false)
    (up : bringUp cfg host geometry.devSize disk budgetFile clock = .ok device) :
    Up geometry (FlatStore.content disk.inner) device := by
  obtain ⟨_, sameMeta, sameContent, sameSize⟩ := currentEtag_keeps disk
  refine bringUp_up (fun cache world recovered opened => ?_) up
  have opened := FileCacheBackend.openCache_fresh geometry samePage (sameSize.trans size)
    (by rw [sameMeta]; exact fresh) opened
  refine ⟨?_, opened.clean⟩
  rw [← sameContent]
  exact FileCacheBackend.opened_fresh opened

/-- A start on the files of a killed device shows what that device showed. -/
theorem bringUp_killed {cfg : FileCacheConfig} {host : Host} {reopened : CachedDevice Inner}
    {budgetFile : List Entry} {clock : Nat} (running : Running geometry device)
    (samePage : cfg.pageSize = geometry.pageSize)
    (up : bringUp cfg host geometry.devSize device.kill budgetFile clock = .ok reopened) :
    Up geometry device.content reopened := by
  obtain ⟨sameData, sameMeta, sameContent, sameSize⟩ := currentEtag_keeps device.kill
  refine bringUp_up (fun cache world recovered opened => ?_) up
  have opened := FileCacheBackend.openCache_reuse samePage (sameSize.trans running.1.innerSize)
    ⟨running.1.presentLen, running.1.dirtyLen, running.1.presentInside, running.1.dirtyInside⟩
    (by rw [sameMeta]; exact running.1.mirror) opened
  have shown (x : Nat) (inside : x < geometry.devSize) :
      (FileCacheBackend.Disk.view (currentEtag device.kill).2 device.world.state.present
        device.world.state.dirty).contents geometry x = device.content x := by
    rw [content_eq running, if_pos inside]
    simp only [View.contents, FileCacheBackend.Disk.view, sameData, sameContent]
    rfl
  have refines := FileCacheBackend.opened_refines opened ⟨fun x inside present clean => by
    simp only [FileCacheBackend.Disk.view, sameData, sameContent]
    exact running.2.clean x inside present clean, running.2.resident⟩
  exact ⟨⟨refines.tidy, refines.coherent, refines.contents.trans fun x _ inside => shown x inside⟩,
    opened.clean⟩

end CachedDevice
end UblkAzblob

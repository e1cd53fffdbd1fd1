import UblkAzblob.Proof.BufferedSuccess

namespace UblkAzblob
open Storage

/-- The bytes that a call gives to a range. -/
def BlobRequest.payload : BlobRequest → Option (Nat × List UInt8)
  | .write offset data => some (offset, data)
  | .clear offset len => some (offset, List.replicate len 0)
  | .read _ _ => none
  | .flush => none

/-- The array at the last successful flush, and the writes and clears issued since. -/
structure History where
  base : Store
  since : List (Nat × List UInt8)

namespace History

/-- A successful flush starts a new history from the reference array. -/
def next (history : History) (request : BlobRequest) (outcome : Except Error (List UInt8))
    (reference : Store) : History :=
  match request, outcome with
  | .flush, .ok _ => ⟨reference, []⟩
  | request, _ => { history with since := history.since ++ request.payload.toList }

/-- A candidate for a sector is its flushed value or a value given to it since. -/
def Candidate (history : History) (index : Nat) (bytes : List UInt8) : Prop :=
  bytes = sector history.base index ∨
    ∃ offset data, (offset, data) ∈ history.since ∧ offset ≤ 512 * index ∧
      512 * index + 512 ≤ offset + data.length ∧ bytes = (data.drop (512 * index - offset)).take 512

variable {history : History}

theorem candidate_mono {more : List (Nat × List UInt8)} {index : Nat} {bytes : List UInt8}
    (candidate : history.Candidate index bytes) :
    Candidate { history with since := history.since ++ more } index bytes := by
  rcases candidate with base | ⟨offset, data, member, low, high, same⟩
  · exact .inl base
  · exact .inr ⟨offset, data, List.mem_append_left _ member, low, high, same⟩

theorem sectors_mono {device : Nat} {store : Store} (more : List (Nat × List UInt8))
    (sectors : SectorsIn device history.Candidate store) :
    SectorsIn device (Candidate { history with since := history.since ++ more }) store :=
  fun index inside => candidate_mono (sectors index inside)

/-- The payload of an issued write is a candidate in its own range. -/
theorem payload_candidate (history : History) (offset : Nat) (data : List UInt8) :
    PayloadIn (Candidate { history with since := history.since ++ [(offset, data)] }) offset data :=
  fun _ low high => .inr ⟨offset, data, by simp, low, high, rfl⟩

theorem base_candidate {device : Nat} {store : Store} (aligned : device % 512 = 0)
    (agree : AgreeOn 0 device store history.base) : SectorsIn device history.Candidate store :=
  SectorsIn.congr (fun _ _ => .inl rfl) aligned agree

end History

namespace BufferedBackend

variable {Inner : Type} [BlobBackend Inner] [FlatStore Inner]
variable {buffer : BufferedBackend} {device : Nat} {world : BufferWorld (CachedDevice Inner)}
variable {reference : Store} {history : History}

/-- The files left by a killed process recover to candidates only, in the blob and through a new stack. -/
def Recovers (history : History) (pageSize device : Nat) (disk : Disk Inner) : Prop :=
  ∀ cfg host budgetFile clock reopened, cfg.pageSize = pageSize →
    CachedDevice.bringUp cfg host device disk budgetFile clock = .ok reopened →
    SectorsIn device history.Candidate reopened.blob ∧
      ∀ (buffer : BufferedBackend) clock reads offset len bytes,
        (∀ request ∈ reads, ∃ offset len, request = BlobRequest.read offset len) →
        (buffer.read offset len (buffer.session reads (start reopened clock))).1 = .ok bytes →
        PayloadIn history.Candidate offset bytes

/-- At every point of a run the stack answers from a reference array, a successful flush brings the
blob up to it, and a kill recovers to candidates. -/
def Durable (buffer : BufferedBackend) (device : Nat) :
    List BlobRequest → Store → History → BufferWorld (CachedDevice Inner) → Prop
  | [], _, history, world => Recovers history world.inner.cache.pageSize device world.inner.kill
  | request :: rest, reference, history, world =>
      let outcome := buffer.perform request world
      Recovers history world.inner.cache.pageSize device world.inner.kill ∧
      (∀ offset len bytes, request = .read offset len → outcome.1 = .ok bytes →
        bytes = slice reference offset len) ∧
      (∀ bytes, request = .flush → outcome.1 = .ok bytes →
        AgreeOn 0 device outcome.2.inner.blob reference) ∧
      ∃ next, Evolves request outcome.1 reference next ∧
        Durable buffer device rest next (history.next request outcome.1 next) outcome.2

/-- The stack shows the reference array, and every sector in it and below it is a candidate. -/
structure Kept (buffer : BufferedBackend) (device : Nat) (reference : Store) (history : History)
    (world : BufferWorld (CachedDevice Inner)) : Prop where
  refines : Refines buffer device reference world
  shown : SectorsIn device history.Candidate (buffer.contents world)
  inner : SectorsIn device history.Candidate (SectorStore.content world.inner)

theorem Refines.reads (reads : List BlobRequest)
    (only : ∀ request ∈ reads, ∃ offset len, request = BlobRequest.read offset len)
    (refines : Refines buffer device reference world) :
    Refines buffer device reference (buffer.session reads world) := by
  induction reads generalizing world with
  | nil => exact refines
  | cons request rest ih =>
      obtain ⟨offset, len, rfl⟩ := only request List.mem_cons_self
      exact ih (fun other member => only other (List.mem_cons_of_mem _ member))
        (refines.settled (read_spec offset len refines.tidy).1)

/-- A killed stack recovers to candidates. -/
theorem Kept.recovers (kept : Kept buffer device reference history world) :
    Recovers history world.inner.cache.pageSize device world.inner.kill := by
  intro cfg host budgetFile clock reopened samePage up
  obtain ⟨geometry, running⟩ := kept.refines.tidy.valid
  obtain rfl : geometry.devSize = device := running.1.devSize.symm.trans kept.refines.tidy.size
  rw [running.1.pageSize] at samePage
  have fresh := CachedDevice.bringUp_killed running samePage up
  have size : SectorStore.size reopened = geometry.devSize := fresh.running.1.devSize
  refine ⟨kept.inner.congr geometry.devAligned fresh.blob, ?_⟩
  intro other clock reads offset len bytes only success
  have started := start_refines other reopened clock ⟨geometry, fresh.running⟩
  rw [size] at started
  have reading := Refines.reads reads only started
  obtain ⟨same, accepted⟩ := (read_spec offset len reading.tidy).2 bytes success
  have sectors : SectorsIn geometry.devSize history.Candidate
      (other.contents (other.session reads (start reopened clock))) :=
    kept.inner.congr geometry.devAligned (reading.contents.trans fresh.content)
  intro index low high
  rw [same] at high ⊢
  rw [length_slice] at high
  obtain ⟨_, _, inside⟩ := accepted (by omega)
  exact sectors.slice inside index low (by rw [length_slice]; exact high)

/-- An issued write leaves candidates only, whatever it returns. -/
theorem Kept.lands {offset : Nat} {data : List UInt8}
    {outcome : Except Error Unit × BufferWorld (CachedDevice Inner)}
    (kept : Kept buffer device reference history world)
    (applied : Applied buffer device offset data world outcome) :
    ∃ next, Lands (outcome.1.map fun _ => []) offset data reference next ∧
      Kept buffer device next { history with since := history.since ++ [(offset, data)] }
        outcome.2 := by
  obtain ⟨next, lands, refines⟩ := kept.refines.lands applied
  obtain ⟨count, _, _, written, _⟩ := applied
  have issued : PayloadIn
      (History.Candidate { history with since := history.since ++ [(offset, data)] }) offset
      (data.take count) := by
    have whole := history.payload_candidate offset data
    rw [← List.take_append_drop count data] at whole
    have leading := whole.append.1
    rw [List.take_append_drop count data] at leading
    exact leading
  have shown := History.sectors_mono [(offset, data)] kept.shown
  have inner := History.sectors_mono [(offset, data)] kept.inner
  exact ⟨next, lands, refines, written.shown issued shown, written.sectors _ issued shown inner⟩

/-- A call that changes no contents keeps the candidates. -/
theorem Kept.settled {after : BufferWorld (CachedDevice Inner)}
    (kept : Kept buffer device reference history world)
    (settled : Settled buffer device world after) : Kept buffer device reference history after where
  refines := kept.refines.settled settled
  shown := kept.shown.congr settled.tidy.deviceAligned settled.contents
  inner := settled.sectors _ kept.shown kept.inner

theorem perform_kept (kept : Kept buffer device reference history world) (request : BlobRequest) :
    ∃ next, Evolves request (buffer.perform request world).1 reference next ∧
      Kept buffer device next (history.next request (buffer.perform request world).1 next)
        (buffer.perform request world).2 := by
  cases request with
  | read offset len =>
      have after := kept.settled (read_spec offset len kept.refines.tidy).1
      refine ⟨reference, rfl, ?_⟩
      simp only [History.next, BlobRequest.payload, Option.toList_none, List.append_nil]
      exact after
  | write offset data =>
      rw [perform, unit_outcome]
      exact kept.lands (write_applied offset data kept.refines.tidy)
  | clear offset len =>
      rw [perform, unit_outcome]
      exact kept.lands (clear_applied offset len kept.refines.tidy)
  | flush =>
      have flushed := @perform_flushes _ _ _ _ _ _ _ kept.refines []
      rw [perform, unit_outcome] at flushed ⊢
      have after := kept.settled (flush_spec kept.refines.tidy).1
      refine ⟨reference, rfl, ?_⟩
      cases result : (buffer.flush world).1 with
      | error error => simpa [result, Except.map, History.next, BlobRequest.payload] using after
      | ok value =>
          have aligned := after.refines.tidy.deviceAligned
          exact ⟨after.refines, History.base_candidate aligned after.refines.contents,
            History.base_candidate aligned (flushed (by rw [result]; rfl))⟩

/-- A successful flush reaches the blob. -/
theorem perform_reaches (kept : Kept buffer device reference history world) {bytes : List UInt8}
    (success : (buffer.perform .flush world).1 = .ok bytes) :
    AgreeOn 0 device (buffer.perform .flush world).2.inner.blob reference := by
  have cached := perform_flushes kept.refines success
  rw [perform, unit_outcome] at success cached ⊢
  have flushed : (buffer.flush world).1 = .ok () := by
    cases result : (buffer.flush world).1 with
    | error error => simp [result, Except.map] at success
    | ok value => rfl
  obtain ⟨inner, ⟨geometry, running⟩, size, done⟩ := flush_reaches kept.refines.tidy flushed
  obtain rfl : geometry.devSize = device := running.1.devSize.symm.trans size
  have reached := CachedDevice.flush_blob running (by rw [done])
  rw [done] at reached
  exact reached.trans cached

theorem durable_of_kept (requests : List BlobRequest)
    (kept : Kept buffer device reference history world) :
    Durable buffer device requests reference history world := by
  induction requests generalizing reference history world with
  | nil => exact kept.recovers
  | cons request rest ih =>
      obtain ⟨next, evolves, keptNext⟩ := perform_kept kept request
      refine ⟨kept.recovers, ?_, ?_, next, evolves, ih keptNext⟩
      · rintro offset len bytes rfl success
        exact perform_reads kept.refines success
      · rintro bytes rfl success
        exact perform_reaches kept success

/-- A cache that has come up over fresh files shows the blob. -/
theorem bringUp_started (cfg : FileCacheConfig) {host : Host} {devSize : Nat}
    (disk : Disk Inner) {budgetFile : List Entry} {clock : Nat} {cached : CachedDevice Inner}
    (pageBounded : cfg.pageSize < 2 ^ 64) (devBounded : devSize < 2 ^ 64)
    (devAligned : devSize % 512 = 0) (size : FlatStore.size disk.inner = devSize)
    (fresh : FileCacheBackend.metaReusable cfg.pageSize devSize
      ((devSize + cfg.pageSize - 1) / cfg.pageSize) disk.metadata = false)
    (up : CachedDevice.bringUp cfg host devSize disk budgetFile clock = .ok cached) :
    ∃ geometry : Geometry, geometry.devSize = devSize ∧
      CachedDevice.Up geometry (FlatStore.content disk.inner) cached := by
  have opened := up
  simp only [CachedDevice.bringUp] at opened
  cases answer : FileCacheBackend.openCache cfg host devSize (CachedDevice.currentEtag disk).1
      (CachedDevice.currentEtag disk).2 budgetFile clock with
  | error error => simp [answer] at opened
  | ok parts =>
      obtain ⟨⟨pagePositive, pageAligned⟩, devPositive⟩ :=
        FileCacheBackend.openCache_geometry answer
      let geometry : Geometry := ⟨cfg.pageSize, devSize, pagePositive, pageAligned, devPositive,
        devAligned, pageBounded, devBounded⟩
      exact ⟨geometry, rfl, CachedDevice.bringUp_fresh geometry rfl size fresh up⟩

/-- The stack of buffer, cache and blob loses no flushed byte and invents none. -/
theorem stack_durable (buffer : BufferedBackend) (cfg : FileCacheConfig) {host : Host} {devSize : Nat}
    (disk : Disk Inner) {budgetFile : List Entry} {clock : Nat} {cached : CachedDevice Inner}
    (pageBounded : cfg.pageSize < 2 ^ 64) (devBounded : devSize < 2 ^ 64)
    (devAligned : devSize % 512 = 0) (size : FlatStore.size disk.inner = devSize)
    (fresh : FileCacheBackend.metaReusable cfg.pageSize devSize
      ((devSize + cfg.pageSize - 1) / cfg.pageSize) disk.metadata = false)
    (up : CachedDevice.bringUp cfg host devSize disk budgetFile clock = .ok cached)
    (turn : Nat) (requests : List BlobRequest) :
    Durable buffer devSize requests (FlatStore.content disk.inner) ⟨FlatStore.content disk.inner, []⟩
      (start cached turn) := by
  obtain ⟨geometry, rfl, started⟩ := bringUp_started cfg disk pageBounded devBounded devAligned size fresh up
  have shows := start_refines buffer cached turn ⟨geometry, started.running⟩
  rw [show SectorStore.size cached = geometry.devSize from started.running.1.devSize] at shows
  have contents := shows.contents.trans started.content
  exact durable_of_kept requests ⟨⟨shows.tidy, contents⟩,
    History.base_candidate geometry.devAligned contents, History.base_candidate geometry.devAligned started.content⟩

/-- A stack whose two page sizes do not divide each other, with one dirty buffer page, completes its calls. -/
theorem stack_durable_unrelated_pages :
    ∃ buffer cached, new ⟨1024, 1, 1, 0⟩ steadyExecutor = .ok buffer ∧
      CachedDevice.bringUp ⟨"cache", 1536, 1536⟩ FileCacheBackend.calmHost 3072
        (FileCacheBackend.blankDisk 3072) [] 0 = .ok cached ∧
      Durable buffer 3072 [.write 512 (List.replicate 1536 7), .flush, .clear 0 512] (fun _ => 0)
        ⟨fun _ => 0, []⟩ (start cached 0) ∧
      ∀ index, index < 3 → ∃ bytes, (buffer.answers [.write 512 (List.replicate 1536 7), .flush, .clear 0 512]
        (start cached 0))[index]? = some (.ok bytes) := by
  obtain ⟨cached, up⟩ : ∃ cached, CachedDevice.bringUp ⟨"cache", 1536, 1536⟩
      FileCacheBackend.calmHost 3072 (FileCacheBackend.blankDisk 3072) [] 0 = .ok cached := ⟨_, rfl⟩
  refine ⟨_, cached, rfl, up, stack_durable _ ⟨"cache", 1536, 1536⟩ (FileCacheBackend.blankDisk 3072)
    (by decide) (by decide) (by decide) rfl (by decide) up 0 _, fun index inside => ?_⟩
  obtain ⟨geometry, device, started⟩ := bringUp_started ⟨"cache", 1536, 1536⟩ (FileCacheBackend.blankDisk 3072)
    (by decide) (by decide) (by decide) rfl (by decide) up
  have size : SectorStore.size cached = 3072 := started.running.1.devSize.trans device
  have accepted : ∀ request ∈ [BlobRequest.write 512 (List.replicate 1536 7), .flush, .clear 0 512],
      request.Accepted (SectorStore.size cached) := by
    rw [size]
    intro request member
    simp only [List.mem_cons, List.not_mem_nil, or_false] at member
    rcases member with rfl | rfl | rfl
    · intro _
      rw [List.length_replicate]
      exact ⟨by decide, by decide, by decide⟩
    · trivial
    · exact fun _ => ⟨by decide, by decide, by decide⟩
  have valid : SectorStore.valid cached := ⟨geometry, started.running⟩
  exact accepted_calls_complete _ (.inl rfl) cached valid 0 _ index _ (List.getElem?_eq_getElem inside)
    (accepted _ (List.getElem_mem inside))

end BufferedBackend
end UblkAzblob

import UblkAzblob.Construction.Lifetime
import UblkAzblob.Proof.StackDurability

namespace UblkAzblob
open Storage

variable {Inner : Type} [BlobBackend Inner] [FlatStore Inner]

section Histories

/-- What a session adds to the history; a flush that succeeds starts it anew from the blob. -/
def History.follow (buffer : BufferedBackend) :
    List BlobRequest → BufferWorld (CachedDevice Inner) → History → History
  | [], _, history => history
  | request :: rest, world, history =>
      let outcome := buffer.perform request world
      History.follow buffer rest outcome.2 (history.next request outcome.1 outcome.2.inner.blob)

/-- Histories whose first arrays agree on the device have the same candidates. -/
theorem SectorsIn.rebase {history : History} {device : Nat} {base store : Store} (aligned : device % 512 = 0)
    (agree : AgreeOn 0 device base history.base) (sectors : SectorsIn device history.Candidate store) :
    SectorsIn device (History.Candidate { history with base }) store := by
  intro index inside
  have same : sector base index = sector history.base index :=
    slice_congr (agree.mono (Nat.zero_le _) (by omega))
  rcases sectors index inside with old | written
  · exact .inl (old.trans same.symm)
  · exact .inr written

end Histories

namespace BufferedBackend

variable {buffer : BufferedBackend} {device : Nat} {world : BufferWorld (CachedDevice Inner)}
variable {reference : Store} {history : History} {geometry : Geometry}

section Sessions

/-- A call keeps the candidates of a history that starts from the blob. -/
theorem perform_follows (kept : Kept buffer device reference history world) (request : BlobRequest) :
    ∃ next, Kept buffer device next
      (history.next request (buffer.perform request world).1 (buffer.perform request world).2.inner.blob)
      (buffer.perform request world).2 := by
  obtain ⟨next, evolves, after⟩ := perform_kept kept request
  have aligned := kept.refines.tidy.deviceAligned
  refine ⟨next, ?_⟩
  cases request with
  | flush =>
      cases result : (buffer.perform .flush world).1 with
      | error error =>
          rw [result] at after
          exact after
      | ok bytes =>
          have reached := perform_reaches kept result
          rw [result] at after
          obtain rfl : next = reference := evolves
          obtain ⟨refines, shown, inner⟩ := after
          exact ⟨refines, shown.rebase aligned reached, inner.rebase aligned reached⟩
  | read offset len => exact after
  | write offset data => exact after
  | clear offset len => exact after

theorem session_kept (requests : List BlobRequest) (kept : Kept buffer device reference history world) :
    ∃ next, Kept buffer device next (History.follow buffer requests world history) (buffer.session requests world) := by
  induction requests generalizing reference history world with
  | nil => exact ⟨reference, kept⟩
  | cons request rest inductionHypothesis =>
      obtain ⟨next, after⟩ := perform_follows kept request
      exact inductionHypothesis after

end Sessions

section Restarts

/-- Whatever run starts on the files shows candidates, and the blob repeats them. -/
def Dormant (geometry : Geometry) (history : History) (disk : Disk Inner) : Prop :=
  ∀ cfg host budgetFile clock cached, cfg.pageSize = geometry.pageSize →
    CachedDevice.bringUp cfg host geometry.devSize disk budgetFile clock = .ok cached →
    ∃ reference, CachedDevice.Up geometry reference cached ∧ SectorsIn geometry.devSize history.Candidate reference

theorem dormant_fresh {disk : Disk Inner} (size : FlatStore.size disk.inner = geometry.devSize)
    (fresh : FileCacheBackend.metaReusable geometry.pageSize geometry.devSize geometry.numPages disk.metadata = false) :
    Dormant geometry ⟨FlatStore.content disk.inner, []⟩ disk := by
  intro cfg host budgetFile clock cached samePage up
  exact ⟨_, CachedDevice.bringUp_fresh geometry samePage size fresh up,
    History.base_candidate geometry.devAligned fun _ _ _ => rfl⟩

/-- A killed session leaves what its cache showed. -/
theorem Kept.dormant (kept : Kept buffer geometry.devSize reference history world)
    (running : CachedDevice.Running geometry world.inner) : Dormant geometry history world.inner.kill := by
  intro cfg host budgetFile clock cached samePage up
  exact ⟨_, CachedDevice.bringUp_killed running samePage up, kept.inner⟩

/-- A run that starts on the files keeps the history of the volume. -/
theorem Dormant.started {session : Session} {disk : Disk Inner} (dormant : Dormant geometry history disk)
    (samePage : session.cfg.pageSize = geometry.pageSize)
    (started : session.start geometry.devSize disk = .ok world) :
    ∃ reference, SectorsIn geometry.devSize history.Candidate reference ∧
      AgreeOn 0 geometry.devSize world.inner.blob reference ∧
      Kept session.buffer geometry.devSize reference history world := by
  rw [Session.start] at started
  cases up : CachedDevice.bringUp session.cfg session.host geometry.devSize disk session.budgetFile session.clock with
  | error error =>
      rw [up] at started
      cases started
  | ok cached =>
      rw [up] at started
      obtain rfl := Except.ok.inj started
      obtain ⟨reference, fresh, sectors⟩ := dormant _ _ _ _ _ samePage up
      have shows := start_refines session.buffer cached session.turn ⟨geometry, fresh.running⟩
      have size : SectorStore.size cached = geometry.devSize := fresh.running.1.devSize
      rw [size] at shows
      have contents := shows.contents.trans fresh.content
      exact ⟨reference, sectors, fresh.blob, ⟨shows.tidy, contents⟩,
        sectors.congr geometry.devAligned contents, sectors.congr geometry.devAligned fresh.content⟩

/-- Files that show candidates recover to candidates. -/
theorem Dormant.recovers {disk : Disk Inner} (dormant : Dormant geometry history disk) :
    Recovers history geometry.pageSize geometry.devSize disk := by
  intro cfg host budgetFile clock cached samePage up
  obtain ⟨reference, fresh, sectors⟩ := dormant cfg host budgetFile clock cached samePage up
  refine ⟨sectors.congr geometry.devAligned fresh.blob, ?_⟩
  intro other turn reads offset len bytes only success
  have shows := start_refines other cached turn ⟨geometry, fresh.running⟩
  have size : SectorStore.size cached = geometry.devSize := fresh.running.1.devSize
  rw [size] at shows
  have reading := Refines.reads reads only shows
  obtain ⟨same, accepted⟩ := (read_spec offset len reading.tidy).2 bytes success
  have shown : SectorsIn geometry.devSize history.Candidate
      (other.contents (other.session reads (start cached turn))) :=
    sectors.congr geometry.devAligned (reading.contents.trans fresh.content)
  intro index low high
  rw [same] at high ⊢
  rw [length_slice] at high
  obtain ⟨_, _, inside⟩ := accepted (by omega)
  exact shown.slice inside index low (by rw [length_slice]; exact high)

end Restarts

section Endurance

/-- In every run on a volume the stack is durable, whatever runs came before and however they were killed. -/
def Endures (device : Nat) : List Session → Nat → History → Disk Inner → Prop
  | [], pageSize, history, disk => Recovers history pageSize device disk
  | session :: rest, pageSize, history, disk => Recovers history pageSize device disk ∧
      ∀ world, session.cfg.pageSize = pageSize → session.start device disk = .ok world →
        ∃ reference, SectorsIn device history.Candidate reference ∧ AgreeOn 0 device world.inner.blob reference ∧
          Durable session.buffer device session.requests reference history world ∧
          Endures device rest (session.serve world).inner.cache.pageSize
            (History.follow session.buffer session.requests world history) (session.serve world).inner.kill

theorem Dormant.endures {disk : Disk Inner} (sessions : List Session) (dormant : Dormant geometry history disk) :
    Endures geometry.devSize sessions geometry.pageSize history disk := by
  induction sessions generalizing geometry history disk with
  | nil => exact dormant.recovers
  | cons session rest inductionHypothesis =>
      refine ⟨dormant.recovers, fun world samePage started => ?_⟩
      obtain ⟨reference, sectors, blob, kept⟩ := dormant.started samePage started
      obtain ⟨last, after⟩ := session_kept session.requests kept
      obtain ⟨later, running⟩ := after.refines.tidy.valid
      have sameDevice : later.devSize = geometry.devSize :=
        running.1.devSize.symm.trans after.refines.tidy.size
      refine ⟨reference, sectors, blob, durable_of_kept session.requests kept, ?_⟩
      rw [← sameDevice] at after ⊢
      have next := inductionHypothesis (after.dormant running)
      rw [← running.1.pageSize] at next
      exact next

/-- Any number of runs on a volume, each of them killed between two calls, lose no flushed byte and invent none. -/
theorem volume_endures_restarts (geometry : Geometry) (disk : Disk Inner)
    (size : FlatStore.size disk.inner = geometry.devSize)
    (fresh : FileCacheBackend.metaReusable geometry.pageSize geometry.devSize geometry.numPages disk.metadata = false)
    (sessions : List Session) :
    Endures geometry.devSize sessions geometry.pageSize ⟨FlatStore.content disk.inner, []⟩ disk :=
  (dormant_fresh size fresh).endures sessions

/-- A volume of two pages whose cache pages are not a multiple of the buffer pages. -/
def unrelatedPages : Geometry :=
  ⟨1536, 3072, by decide, by decide, by decide, by decide, by decide, by decide⟩

/-- The first run is killed with a cleared sector in its buffer, and the second one reads it again. -/
theorem volume_endures_restarts_cleared_sector :
    ∃ buffer, new ⟨1024, 1, 1, 0⟩ steadyExecutor = .ok buffer ∧
      Endures 3072 [⟨⟨"cache", 1536, 1536⟩, FileCacheBackend.calmHost, [], 0, buffer, 0,
          [.write 512 (List.replicate 1536 7), .flush, .clear 0 512]⟩,
        ⟨⟨"cache", 1536, 1536⟩, FileCacheBackend.calmHost, [], 1, buffer, 0, [.read 0 512, .flush]⟩] 1536
        ⟨fun _ => 0, []⟩ (FileCacheBackend.blankDisk 3072) :=
  ⟨_, rfl, volume_endures_restarts unrelatedPages (FileCacheBackend.blankDisk 3072) rfl (by decide) _⟩

end Endurance
end BufferedBackend
end UblkAzblob

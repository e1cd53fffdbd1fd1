import UblkAzblob.Construction.DeviceStack
import UblkAzblob.Proof.BufferState
import UblkAzblob.Proof.FileCacheBeats
import UblkAzblob.Proof.FileCacheOpen
import UblkAzblob.Proof.PageBlob

namespace UblkAzblob
open Storage

section Layers

/-- The calls of a backend keep a property as long as its writes have an allowed length, and its size is known. -/
structure Upholds (Backend : Type) [BlobBackend Backend] (Inv : Backend → Prop) (allowed : Nat → Prop)
    (device : Nat) : Prop where
  read : ∀ offset len, Action.Keeps Inv (@BlobBackend.read Backend _ offset len)
  write : ∀ offset data, allowed data.length → Action.Keeps Inv (@BlobBackend.write Backend _ offset data)
  clear : ∀ offset len, Action.Keeps Inv (@BlobBackend.clear Backend _ offset len)
  dataRanges : Action.Keeps Inv (@BlobBackend.dataRanges Backend _)
  flush : Action.Keeps Inv (@BlobBackend.flush Backend _)
  size : Action.Keeps Inv (@BlobBackend.size Backend _)
  etag : Action.Keeps Inv (@BlobBackend.etag Backend _)
  sized : ∀ backend bytes, Inv backend → (BlobBackend.size backend).1 = .ok bytes → bytes = device
  abandoned : ∀ progress offset data backend, allowed data.length → Inv backend →
    Inv (BlobBackend.abandonWrite progress offset data backend)

end Layers

section Blob

/-- The length of a Put Page request that the service can take. -/
def AcceptedLength (len : Nat) : Prop := len % 512 = 0 ∧ 0 < len ∧ len ≤ maxPageRequestBytes

namespace PageBlobBackend

/-- The blob has this size, every Put Page request had an accepted length, and a read-only backend is a snapshot. -/
structure Frugal (readOnly : Bool) (device : Nat) (backend : PageBlobBackend) : Prop where
  sized : Sized device backend
  puts : ∀ put ∈ backend.puts, AcceptedLength put.2
  snapshot : readOnly = true → backend.snapshot ≠ none

variable {readOnly : Bool} {device : Nat} {backend : PageBlobBackend} {Value : Type}

theorem submit_frugal {accepted : PageBlob → Bool} {effect : PageBlob → Value × PageBlob}
    (same : ∀ blob, (effect blob).2.size = blob.size) (frugal : Frugal readOnly device backend) :
    Frugal readOnly device (submit accepted effect backend).2 := by
  obtain ⟨⟨blob, present, fits⟩, puts, snapshot⟩ := frugal
  unfold submit
  rw [present]
  cases backend.answers.head?.getD .served with
  | served =>
      dsimp only
      split
      · exact ⟨⟨_, rfl, (same blob).trans fits⟩, puts, snapshot⟩
      · exact ⟨⟨blob, rfl, fits⟩, puts, snapshot⟩
  | failed performed error =>
      cases performed with
      | false => exact ⟨⟨blob, rfl, fits⟩, puts, snapshot⟩
      | true =>
          dsimp only
          split
          · exact ⟨⟨_, rfl, (same blob).trans fits⟩, puts, snapshot⟩
          · exact ⟨⟨blob, rfl, fits⟩, puts, snapshot⟩

/-- What every attempt keeps, the call keeps. -/
theorem call_keeps {Inv : PageBlobBackend → Prop} {op range : String}
    {attempt : PageBlobBackend → Except ServiceError Value × PageBlobBackend}
    (kept : ∀ backend, Inv backend → Inv (attempt backend).2) : Action.Keeps Inv (call op range attempt) := by
  have retries (config : RetryConfig) (left : Nat) (backend : PageBlobBackend) (inv : Inv backend) :
      Inv (withRetry config attempt left backend).2 := by
    induction left generalizing backend with
    | zero => exact kept backend inv
    | succ left ih =>
        have after := kept backend inv
        rw [withRetry]
        cases outcome : attempt backend with
        | mk result next =>
            rw [outcome] at after
            cases result with
            | ok value => exact after
            | error error =>
                dsimp only
                split
                · exact ih next after
                · exact after
  intro backend inv
  have whole := retries backend.retry (backend.retry.attempts - 1) backend inv
  unfold call
  dsimp only
  cases outcome : withRetry backend.retry attempt (backend.retry.attempts - 1) backend with
  | mk result after =>
      rw [outcome] at whole
      cases result with
      | ok value => exact whole
      | error error => exact whole

theorem uploadPages_frugal {offset : Nat} {payload : List UInt8} (accepted : AcceptedLength payload.length)
    (frugal : Frugal readOnly device backend) : Frugal readOnly device (uploadPages offset payload backend).2 := by
  refine submit_frugal (fun _ => rfl) ⟨frugal.sized, fun put member => ?_, frugal.snapshot⟩
  rcases List.mem_append.mp member with old | new
  · exact frugal.puts put old
  · rw [List.mem_singleton.mp new]
    exact accepted

theorem keeps_checkWritable {Inv : PageBlobBackend → Prop} (op : String) : Action.Keeps Inv (checkWritable op) := by
  intro state inv
  unfold checkWritable
  exact Action.keeps_ensure _ _ state inv

/-- Misaligned writes never reach the service, and neither do writes to a snapshot. -/
theorem write_frugal (offset : Nat) (data : List UInt8)
    (allowed : readOnly = true ∨ (0 < data.length ∧ data.length ≤ maxPageRequestBytes)) :
    Action.Keeps (Frugal readOnly device) (write offset data) := by
  refine Action.keeps_bind (keeps_checkWritable "write") fun state _ _ first passed => ?_
  refine Action.keeps_bind (Action.keeps_ensure _ _) (fun _ _ _ second _ => ?_) _ first
  refine Action.keeps_bind (Action.keeps_ensure _ _) (fun _ _ _ third aligned => ?_) _ second
  refine call_keeps (fun backend frugal => ?_) _ third
  obtain ⟨plain, rfl⟩ := Action.ensure_ok passed
  rcases allowed with readOnly | ⟨positive, short⟩
  · exact absurd plain (first.snapshot readOnly)
  · exact uploadPages_frugal ⟨(Action.ensure_ok aligned).1, positive, short⟩ frugal

theorem upholds (readOnly : Bool) (device : Nat) :
    Upholds PageBlobBackend (Frugal readOnly device)
      (fun len => readOnly = true ∨ (0 < len ∧ len ≤ maxPageRequestBytes)) device where
  read offset len := by
    refine Action.keeps_bind (Action.keeps_ensure _ _) fun _ _ _ first _ => ?_
    refine Action.keeps_bind (Action.keeps_ensure _ _) (fun _ _ _ second _ => ?_) _ first
    exact call_keeps (fun _ frugal => submit_frugal (fun _ => rfl) frugal) _ second
  write := write_frugal
  clear offset len := by
    refine Action.keeps_bind (keeps_checkWritable "clear") fun _ _ _ first _ => ?_
    refine Action.keeps_bind (Action.keeps_ensure _ _) (fun _ _ _ second _ => ?_) _ first
    refine Action.keeps_bind (Action.keeps_ensure _ _) (fun _ _ _ third _ => ?_) _ second
    exact call_keeps (fun _ frugal => submit_frugal (fun _ => rfl) frugal) _ third
  dataRanges := fun _ frugal => ⟨frugal.sized, frugal.puts, frugal.snapshot⟩
  flush := fun _ frugal => frugal
  size := by
    intro backend frugal
    have asked : Frugal readOnly device (getProperties backend).2 := submit_frugal (fun _ => rfl) frugal
    change Frugal readOnly device (PageBlobBackend.size backend).2
    unfold PageBlobBackend.size
    dsimp only
    cases outcome : getProperties backend with
    | mk result after =>
        rw [outcome] at asked
        cases result <;> exact asked
  etag := fun _ frugal => ⟨frugal.sized, frugal.puts, frugal.snapshot⟩
  sized backend bytes frugal answer := by
    obtain ⟨blob, present, fits⟩ := frugal.sized
    obtain ⟨found, there, sized⟩ := size_ok answer
    obtain rfl := Option.some.inj (present.symm.trans there)
    exact sized.symm.trans fits
  abandoned progress offset data backend allowed frugal := by
    change Frugal readOnly device (abandonWrite progress offset data backend)
    unfold abandonWrite
    split
    · rename_i passes
      have accepted : AcceptedLength data.length := by
        rcases allowed with readOnly | ⟨positive, short⟩
        · exact absurd passes.1 (frugal.snapshot readOnly)
        · exact ⟨passes.2.2, positive, short⟩
      clear passes
      induction progress with
      | zero => exact frugal
      | succ progress ih => exact uploadPages_frugal accepted ih
    · exact frugal

end PageBlobBackend
end Blob

section Cache

variable {Inner : Type} [BlobBackend Inner] {Inv : Inner → Prop} {allowed : Nat → Prop} {device : Nat}

namespace FileCacheBackend

variable {cache : FileCacheBackend} {start world : World Inner}

/-- The inner backend keeps its property, and the device its size. -/
structure Over (cache : FileCacheBackend) (Inv : Inner → Prop) (device : Nat) (world : World Inner) : Prop where
  inner : Inv world.disk.inner
  sized : world.state.devSize = device
  shaped : cache.Shaped world.state

theorem Queried.upholds (inner : Upholds Inner Inv allowed device) {before after : Inner}
    (queried : Queried before after) (inv : Inv before) : Inv after := by
  cases queried with
  | read offset len => exact inner.read offset len before inv
  | dataRanges => exact inner.dataRanges before inv
  | flush => exact inner.flush before inv
  | etag => exact inner.etag before inv

/-- Outside of a flush the cache only asks the inner backend. -/
theorem Beats.over (inner : Upholds Inner Inv allowed device) (beats : Beats cache false start world)
    (initial : cache.Over Inv device start) : cache.Over Inv device world := by
  have kept : Inv world.disk.inner := by
    suffices preserved : ∀ before after : World Inner, Beat cache false before after → Inv before.disk.inner →
        Inv after.disk.inner from beats.invariant preserved initial.inner
    intro before after beat inv
    cases beat with
    | query site after queried => exact queried.upholds inner inv
    | tick => exact inv
    | store page data inside absent whole =>
        rw [(storeCleanPage_local cache before page _ data).inner]
        exact inv
    | dirty page pageOffset payload inside some fits =>
        rw [(dirtyPageRegion_local cache before page pageOffset payload).inner]
        exact inv
    | upload page offset bytes live => cases live
    | clean page live inside dirty => cases live
    | token text live fresh => cases live
  refine ⟨kept, beats.shape.1.trans initial.sized, ?_⟩
  rw [Shaped, beats.shape.1, beats.shape.2]
  exact initial.shaped

theorem Glances.over {names : Nat → Prop} (inner : Upholds Inner Inv allowed device)
    (glances : Glances cache names start world) (initial : cache.Over Inv device start) :
    cache.Over Inv device world := by
  have kept : Inv world.disk.inner := by
    suffices preserved : ∀ before after : World Inner, Glance cache names before after → Inv before.disk.inner →
        Inv after.disk.inner from glances.invariant preserved initial.inner
    intro before after glance inv
    cases glance with
    | query site after queried => exact queried.upholds inner inv
    | hit page named inside present budgeted => exact inv
  refine ⟨kept, glances.shape.1.trans initial.sized, ?_⟩
  rw [Shaped, glances.shape.1, glances.shape.2]
  exact initial.shaped

theorem abandonWrite_beats (progress offset : Nat) (data : List UInt8) :
    Action.Keeps (Beats cache false start) (cache.abandonWrite progress offset data) := by
  unfold abandonWrite
  split
  · exact Action.keeps_pure _
  · refine guard_keeps _ _ _ _ fun world beats _ within => ?_
    rw [beats.shape.1] at within
    exact Action.keeps_forEach (fun chunk member => writeChunk_beats (List.mem_of_mem_take member) within) world beats

/-- The bytes that a flush is about to upload have an allowed length. -/
def UploadAllowed (allowed : Nat → Prop) : FlushPhase → Prop
  | .uploading _ _ bytes => allowed bytes.length
  | _ => True

theorem flushPage_over (inner : Upholds Inner Inv allowed device)
    (fits : ∀ len, 0 < len → len ≤ min cache.pageSize device → allowed len) (page : Nat) (phase : FlushPhase)
    (kept : cache.Over Inv device world) (ready : UploadAllowed allowed phase) :
    cache.Over Inv device (cache.flushPage page phase world).2 ∧
      UploadAllowed allowed (cache.flushPage page phase world).1 := by
  cases phase with
  | waiting =>
      simp only [flushPage]
      split
      · exact ⟨kept, trivial⟩
      · split
        · exact ⟨kept, trivial⟩
        · rename_i nonempty
          split
          · exact ⟨kept, trivial⟩
          · rename_i bytes found
            refine ⟨kept, ?_⟩
            have length : bytes.length = min cache.pageSize (world.state.devSize - page * cache.pageSize) := by
              unfold File.readExactAt at found
              split at found
              · rw [← Except.ok.inj found, length_slice]
              · cases found
            rw [UploadAllowed, length]
            refine fits _ (Nat.pos_of_ne_zero nonempty) ?_
            rw [kept.sized]
            omega
  | uploading offset generation bytes =>
      have uploaded := inner.write offset bytes ready world.disk.inner kept.inner
      simp only [flushPage, Action.withContext, World.callInner]
      cases (BlobBackend.write offset bytes world.disk.inner).1 with
      | error error => exact ⟨⟨uploaded, kept.sized, kept.shaped⟩, trivial⟩
      | ok value => exact ⟨⟨uploaded, kept.sized, kept.shaped⟩, trivial⟩
  | uploaded generation =>
      simp only [flushPage]
      split
      · exact ⟨kept, trivial⟩
      · refine ⟨?_, trivial⟩
        have same := cleaned_local cache world page
        refine ⟨?_, same.shape.1.trans kept.sized, ?_⟩
        · change Inv (cache.cleaned page world).disk.inner
          rw [same.inner]
          exact kept.inner
        · change cache.Shaped (cache.cleaned page world).state
          rw [Shaped, same.shape.1, same.shape.2]
          exact kept.shaped
  | done result => exact ⟨kept, trivial⟩

theorem flush_over (inner : Upholds Inner Inv allowed device)
    (fits : ∀ len, 0 < len → len ≤ min cache.pageSize device → allowed len) :
    Action.Keeps (cache.Over Inv device) cache.flush := by
  intro world kept
  have uploads := (interleave_tasks cache.flushCollect (fun _ => false)
    (fun progress : World Inner × Option Error => cache.Over Inv device progress.1)
    (fun _ _ phase => UploadAllowed allowed phase)
    (fun page phase progress good ready =>
      have moved := flushPage_over inner fits page phase good ready
      ⟨moved.1, moved.2, fun _ _ _ held => held⟩)
    (cache.host.schedule world.clock ++ (dirtyPages world.state).flatMap (List.replicate 3))
    ((dirtyPages world.state).map fun page => (page, .waiting))
    ({ world with clock := world.clock + 1 }, none)
    (by rw [map_fst_tagged]; exact List.nodup_range.filter _) ⟨kept.inner, kept.sized, kept.shaped⟩
    (fun page phase member => by
      rw [(mem_tagged member).2]
      trivial)).1
  have asks {Value : Type} (site : Site) (action : Action Inner Value) (upheld : Action.Keeps Inv action) :
      Action.Keeps (cache.Over Inv device) (World.callInner site action) :=
    fun world kept => ⟨upheld _ kept.inner, kept.sized, kept.shaped⟩
  unfold flush
  dsimp only
  split
  · exact uploads
  · refine Action.keeps_bind (asks _ _ inner.flush) (fun _ _ after reached _ => ?_) _ uploads
    split
    · have asked := asks .innerEtag _ inner.etag after reached
      unfold recordEtag
      split
      · rename_i called
        rw [called] at asked
        exact ⟨asked.inner, asked.sized, asked.shaped⟩
      · rename_i called
        rw [called] at asked
        exact asked
    · exact reached

end FileCacheBackend

namespace CachedDevice

/-- A device over a cache with this page size. -/
structure Over (Inv : Inner → Prop) (pageSize device : Nat) (cached : CachedDevice Inner) : Prop where
  page : cached.cache.pageSize = pageSize
  world : cached.cache.Over Inv device cached.world

/-- A cache uploads whole pages, cut at the end of the device, and takes writes of any length. -/
theorem upholds {pageSize : Nat} (inner : Upholds Inner Inv allowed device)
    (fits : ∀ len, 0 < len → len ≤ min pageSize device → allowed len) :
    Upholds (CachedDevice Inner) (Over Inv pageSize device) (fun _ => True) device where
  read offset len cached kept :=
    ⟨kept.page, (FileCacheBackend.read_glances offset len).over inner kept.world⟩
  write offset data _ cached kept :=
    ⟨kept.page, (FileCacheBackend.write_beats offset data cached.world .refl).over inner kept.world⟩
  clear offset len cached kept :=
    ⟨kept.page, (FileCacheBackend.clear_beats offset len cached.world .refl).over inner kept.world⟩
  dataRanges cached kept :=
    ⟨kept.page, inner.dataRanges _ kept.world.inner, kept.world.sized, kept.world.shaped⟩
  flush cached kept := by
    have short : ∀ len, 0 < len → len ≤ min cached.cache.pageSize device → allowed len := by
      rw [kept.page]
      exact fits
    exact ⟨kept.page, FileCacheBackend.flush_over inner short _ kept.world⟩
  size cached kept := kept
  etag cached kept := ⟨kept.page, inner.etag _ kept.world.inner, kept.world.sized, kept.world.shaped⟩
  sized cached bytes kept answer := by
    rw [← kept.world.sized]
    exact (Except.ok.inj answer).symm
  abandoned progress offset data cached _ kept :=
    ⟨kept.page, (FileCacheBackend.abandonWrite_beats progress offset data cached.world .refl).over inner kept.world⟩

end CachedDevice
end Cache

section Buffer

variable {Inner : Type} {Inv : Inner → Prop} {allowed : Nat → Prop} {device : Nat}

namespace BufferedBackend

variable {buffer : BufferedBackend} {world : BufferWorld Inner}

/-- The inner backend keeps its property, and the buffer holds whole pages of the device. -/
structure Over (buffer : BufferedBackend) (Inv : Inner → Prop) (device : Nat) (world : BufferWorld Inner) : Prop where
  inner : Inv world.inner
  sized : world.state.devSize = 0 ∨ world.state.devSize = device
  shelved : BufferState.Shelved buffer.config.pageSize world.state
  known : ∀ page, world.state.pages.contains page = true → world.state.devSize = device ∧ 0 < device

/-- A buffer that knows its device and has something to store. -/
structure Active (buffer : BufferedBackend) (Inv : Inner → Prop) (device : Nat) (world : BufferWorld Inner) : Prop where
  inner : Inv world.inner
  sized : world.state.devSize = device
  positive : 0 < device
  shelved : BufferState.Shelved buffer.config.pageSize world.state

theorem Active.idle (active : Active buffer Inv device world) : buffer.Over Inv device world :=
  ⟨active.inner, .inr active.sized, active.shelved, fun _ _ => ⟨active.sized, active.positive⟩⟩

theorem callInner_active {Value : Type} {action : Action Inner Value} (kept : Action.Keeps Inv action) :
    Action.Keeps (Active buffer Inv device) (BufferWorld.callInner action) :=
  fun _ active => ⟨kept _ active.inner, active.sized, active.positive, active.shelved⟩

theorem callInner_over {Value : Type} {action : Action Inner Value} (kept : Action.Keeps Inv action) :
    Action.Keeps (buffer.Over Inv device) (BufferWorld.callInner action) :=
  fun _ idle => ⟨kept _ idle.inner, idle.sized, idle.shelved, idle.known⟩

variable [BlobBackend Inner]

theorem devSize_over (inner : Upholds Inner Inv allowed device) :
    Action.Keeps (buffer.Over Inv device) devSize ∧ ∀ world, buffer.Over Inv device world →
      ∀ size after, devSize world = (.ok size, after) → size = device ∧ after.state.devSize = device := by
  have both : ∀ world, buffer.Over Inv device world → buffer.Over Inv device (devSize world).2 ∧
      ∀ size after, devSize world = (.ok size, after) → size = device ∧ after.state.devSize = device := by
    intro world idle
    unfold devSize
    split
    · rename_i asked
      have known : world.state.devSize = device := idle.sized.resolve_left asked
      refine ⟨idle, fun size after answer => ?_⟩
      obtain ⟨value, rfl⟩ := Prod.mk.inj answer
      exact ⟨(Except.ok.inj value).symm.trans known, known⟩
    · rename_i unasked
      have zero : world.state.devSize = 0 := not_not.mp unasked
      have upheld := inner.size world.inner idle.inner
      rw [Action.bind_apply, BufferWorld.callInner]
      cases answer : (BlobBackend.size world.inner).1 with
      | error error => exact ⟨⟨upheld, idle.sized, idle.shelved, idle.known⟩, fun size after same => (by cases same)⟩
      | ok size =>
          have right := inner.sized world.inner size idle.inner answer
          simp only [Action.bind_apply, Action.modify_apply, Action.get_apply, BufferWorld.update, zero, if_true]
          refine ⟨⟨upheld, .inr right, ⟨idle.shelved.whole, idle.shelved.lru⟩,
            fun page present => ⟨right, (idle.known page present).2⟩⟩, ?_⟩
          intro found after same
          obtain ⟨value, rfl⟩ := Prod.mk.inj same
          exact ⟨(Except.ok.inj value).symm.trans right, right⟩
  exact ⟨fun world idle => (both world idle).1, fun world idle => (both world idle).2⟩

theorem loadPage_active (inner : Upholds Inner Inv allowed device) (page devSize : Nat) :
    Action.Keeps (Active buffer Inv device) (buffer.loadPage page devSize) := by
  unfold loadPage
  dsimp only
  generalize (if 0 < devSize then min (devSize - page * buffer.config.pageSize) buffer.config.pageSize else 0) = readLen
  by_cases reads : 0 < readLen
  · rw [if_pos reads]
    refine Action.keeps_bind (Action.keeps_withContext (callInner_active (inner.read _ _))) fun _ _ _ first _ => ?_
    exact Action.keeps_bind (Action.keeps_ensure _ _) (fun _ _ _ second _ => second) _ first
  · rw [if_neg reads]
    exact Action.keeps_pure _

theorem ensureResident_active (inner : Upholds Inner Inv allowed device) (page devSize : Nat) :
    Action.Keeps (Active buffer Inv device) (buffer.ensureResident page devSize) := by
  intro world active
  unfold ensureResident
  split
  · exact active
  · refine Action.keeps_bind (loadPage_active inner page devSize) (fun before data after held loaded => ?_) world active
    have length := (loadPage_whole buffer page devSize before).2 data after loaded
    have inserted : BufferState.Loaded buffer.config page after.state (after.state.insertLoaded buffer.config page data) :=
      BufferState.insertLoaded_loaded held.shelved length
    exact ⟨held.inner, inserted.devSize.trans held.sized, held.positive, inserted.shelved⟩

/-- A lock section that keeps the shelf is reached after the page was loaded. -/
theorem withResident_active {Value : Type} {locked : BufferState → Option (Value × BufferState)}
    (inner : Upholds Inner Inv allowed device) (page devSize : Nat)
    (kept : ∀ state value after, BufferState.Shelved buffer.config.pageSize state → locked state = some (value, after) →
      BufferState.Shelved buffer.config.pageSize after ∧ after.devSize = state.devSize) (fuel : Nat) :
    Action.Keeps (Active buffer Inv device) (buffer.withResident page devSize locked fuel) := by
  induction fuel with
  | zero => exact fun _ active => active
  | succ fuel ih =>
      refine Action.keeps_bind (ensureResident_active inner page devSize) fun _ _ world active _ => ?_
      unfold lockedOr
      cases entered : locked world.state with
      | none => exact ih world active
      | some outcome =>
          obtain ⟨shelved, same⟩ := kept world.state outcome.1 outcome.2 active.shelved entered
          exact ⟨active.inner, same.trans active.sized, active.positive, shelved⟩

/-- The bytes that an upload is about to write have an allowed length. -/
def WriteAllowed (allowed : Nat → Prop) : WritePhase → Prop
  | .writing _ _ bytes => allowed bytes.length
  | _ => True

theorem flushIndex_active (inner : Upholds Inner Inv allowed device)
    (fits : ∀ len, 0 < len → len ≤ min buffer.config.pageSize device → allowed len) (page : Nat) (phase : WritePhase)
    (active : Active buffer Inv device world) (ready : WriteAllowed allowed phase) :
    Active buffer Inv device (buffer.flushIndex page phase world).2 ∧
      WriteAllowed allowed (buffer.flushIndex page phase world).1 := by
  cases phase with
  | waiting =>
      simp only [flushIndex]
      split
      · exact ⟨active, trivial⟩
      · rename_i seq offset bytes taken
        split
        · exact ⟨active, trivial⟩
        · rename_i nonempty
          refine ⟨active, fits bytes.length (Nat.pos_of_ne_zero nonempty) ?_⟩
          unfold BufferState.snapshot at taken
          split at taken
          · rename_i found present
            split at taken
            · obtain ⟨_, _, rfl⟩ := Prod.mk.injEq .. ▸ Option.some.inj taken
              have whole := active.shelved.whole page found present
              have known := active.sized
              have positive := active.positive
              rw [List.length_take, if_pos (by omega)]
              omega
            · cases taken
          · cases taken
  | writing seq offset bytes =>
      have written := inner.write offset bytes ready world.inner active.inner
      simp only [flushIndex, Action.withContext, BufferWorld.callInner]
      cases (BlobBackend.write offset bytes world.inner).1 with
      | error error => exact ⟨⟨written, active.sized, active.positive, active.shelved⟩, trivial⟩
      | ok value => exact ⟨⟨written, active.sized, active.positive, active.shelved⟩, trivial⟩
  | written seq =>
      obtain ⟨shelved, cleaned⟩ : BufferState.Shelved buffer.config.pageSize (world.state.markClean page seq) ∧
          BufferState.Cleaned page seq world.state (world.state.markClean page seq) :=
        BufferState.markClean_cleaned active.shelved
      exact ⟨⟨active.inner, cleaned.devSize.trans active.sized, active.positive, shelved⟩, trivial⟩
  | done result => exact ⟨active, trivial⟩

theorem dropWrites_active (inner : Upholds Inner Inv allowed device) (tasks : List (Nat × WritePhase))
    (ready : ∀ task ∈ tasks, WriteAllowed allowed task.2) (active : Active buffer Inv device world) :
    Active buffer Inv device (buffer.dropWrites tasks world) := by
  induction tasks generalizing world with
  | nil => exact active
  | cons task rest ih =>
      obtain ⟨page, phase⟩ := task
      have later := fun task member => ready task (List.mem_cons_of_mem _ member)
      cases phase with
      | waiting => exact ih later active
      | written seq => exact ih later active
      | done result => exact ih later active
      | writing seq offset bytes =>
          have own : allowed bytes.length := ready (page, .writing seq offset bytes) List.mem_cons_self
          exact ih later ⟨inner.abandoned _ offset bytes _ own active.inner, active.sized, active.positive, active.shelved⟩

theorem flushIndices_active (inner : Upholds Inner Inv allowed device)
    (fits : ∀ len, 0 < len → len ≤ min buffer.config.pageSize device → allowed len) {indices : List Nat}
    (distinct : indices.Nodup) : Action.Keeps (Active buffer Inv device) (buffer.flushIndices indices) := by
  intro world active
  obtain ⟨kept, _, ready⟩ := interleave_tasks buffer.flushIndex
    (fun tasks => tasks.any fun task => task.2.error?.isSome) (Active buffer Inv device)
    (fun _ _ phase => WriteAllowed allowed phase)
    (fun page phase world active ready =>
      have moved := flushIndex_active inner fits page phase active ready
      ⟨moved.1, moved.2, fun _ _ _ held => held⟩)
    (buffer.flushOrder indices world.clock) (indices.map fun page => (page, .waiting))
    { world with clock := world.clock + 1 } (by rw [map_fst_tagged]; exact distinct)
    ⟨active.inner, active.sized, active.positive, active.shelved⟩
    (fun page phase member => by
      rw [(mem_tagged member).2]
      trivial)
  have dropped := @dropWrites_active _ _ _ _ buffer _ _ inner _ (fun task member => ready task.1 task.2 member) kept
  unfold flushIndices
  dsimp only
  split
  · exact dropped
  · split
    · exact kept
    · exact dropped

theorem enforceDirtyLimit_active (inner : Upholds Inner Inv allowed device)
    (fits : ∀ len, 0 < len → len ≤ min buffer.config.pageSize device → allowed len) :
    Action.Keeps (Active buffer Inv device) buffer.enforceDirtyLimit := by
  intro world active
  unfold enforceDirtyLimit
  dsimp only
  split
  · exact active
  · exact flushIndices_active inner fits (BufferState.victims_nodup _ _) world active

theorem writeChunk_active (inner : Upholds Inner Inv allowed device)
    (fits : ∀ len, 0 < len → len ≤ min buffer.config.pageSize device → allowed len) (devSize : Nat) (data : List UInt8)
    {chunk : Chunk} (within : chunk.pageOffset + chunk.len ≤ buffer.config.pageSize) :
    Action.Keeps (Active buffer Inv device) (buffer.writeChunk devSize data chunk) := by
  refine Action.keeps_bind (withResident_active inner chunk.page devSize (fun state value after shelved locked => ?_) 1)
    fun _ _ world active _ => enforceDirtyLimit_active inner fits world active
  obtain ⟨patched, applied, same⟩ := Option.map_eq_some_iff.mp locked
  obtain ⟨rfl, rfl⟩ := Prod.mk.inj same
  have small : ((data.drop chunk.pos).take chunk.len).length ≤ chunk.len := List.length_take_le _ _
  obtain ⟨kept, spec⟩ := BufferState.applyPatch_patched shelved (by omega) applied
  exact ⟨kept, spec.devSize⟩

theorem chunk_within {offset len : Nat} {chunk : Chunk} (member : chunk ∈ chunks buffer.config.pageSize offset len) :
    chunk.pageOffset + chunk.len ≤ buffer.config.pageSize := by
  have positive := buffer.positive
  exact ((chunks_tiles buffer.config.pageSize offset len (by omega)).bounds member).2.1

theorem readLoop_active (inner : Upholds Inner Inv allowed device) (devSize : Nat) (pieces : List Chunk)
    (result : List UInt8) : Action.Keeps (Active buffer Inv device) (buffer.readLoop devSize pieces result) := by
  induction pieces generalizing result with
  | nil => exact Action.keeps_pure _
  | cons chunk rest ih =>
      refine Action.keeps_bind (withResident_active inner chunk.page devSize (fun state value after shelved copied => ?_) 1)
        fun _ _ world active _ => ih _ world active
      obtain ⟨kept, trimmed⟩ := BufferState.copyOut_trimmed shelved copied
      exact ⟨kept, trimmed.devSize⟩

/-- A call that passes the checks of its range runs on a buffer that knows its device. -/
theorem ranged_over {Value : Type} (inner : Upholds Inner Inv allowed device) (op : String) {offset len : Nat}
    {body : Nat → Action (BufferWorld Inner) Value} (nonempty : 0 < len)
    (kept : ∀ devSize, Action.Keeps (Active buffer Inv device) (body devSize)) :
    Action.Keeps (buffer.Over Inv device) (do
      let devSize ← devSize
      checkInBounds op offset len devSize
      body devSize) := by
  intro world idle
  obtain ⟨asks, answers⟩ := @devSize_over _ _ _ _ buffer _ inner
  rw [Action.bind_apply]
  cases asked : devSize world with
  | mk outcome after =>
      have held := asks world idle
      rw [asked] at held
      cases outcome with
      | error error => exact held
      | ok size =>
          obtain ⟨same, known⟩ := answers world idle size after asked
          subst size
          simp only [Action.bind_apply, checkInBounds]
          by_cases overflow : 2 ^ 64 ≤ offset + len
          · simp only [if_pos overflow]
            exact held
          · by_cases outside : device < offset + len
            · simp only [if_neg overflow, if_pos outside]
              exact held
            · simp only [if_neg overflow, if_neg outside]
              exact (kept device after ⟨held.inner, known, by omega, held.shelved⟩).idle

theorem writeRange_over (inner : Upholds Inner Inv allowed device)
    (fits : ∀ len, 0 < len → len ≤ min buffer.config.pageSize device → allowed len) (op : String) {offset : Nat}
    {data : List UInt8} (nonempty : data ≠ []) {pieces : List Chunk}
    (parts : ∀ chunk ∈ pieces, chunk ∈ chunks buffer.config.pageSize offset data.length) :
    Action.Keeps (buffer.Over Inv device) (do
      let devSize ← devSize
      checkInBounds op offset data.length devSize
      .forEach pieces (buffer.writeChunk devSize data)) :=
  ranged_over inner op (List.length_pos_iff.mpr nonempty) fun devSize =>
    Action.keeps_forEach fun _ member => writeChunk_active inner fits devSize data (chunk_within (parts _ member))

theorem read_over (inner : Upholds Inner Inv allowed device) (offset len : Nat) :
    Action.Keeps (buffer.Over Inv device) (buffer.read offset len) := by
  unfold read
  split
  · exact Action.keeps_pure _
  · rename_i nonempty
    exact Action.keeps_bind (Action.keeps_ensure _ _) fun _ _ world idle _ =>
      ranged_over inner "read" (Nat.pos_of_ne_zero nonempty) (fun devSize => readLoop_active inner devSize _ _) world idle

theorem write_over (inner : Upholds Inner Inv allowed device)
    (fits : ∀ len, 0 < len → len ≤ min buffer.config.pageSize device → allowed len) (offset : Nat) (data : List UInt8) :
    Action.Keeps (buffer.Over Inv device) (buffer.write offset data) := by
  unfold write
  split
  · exact Action.keeps_pure _
  · rename_i nonempty
    exact Action.keeps_bind (Action.keeps_ensure _ _) fun _ _ world idle _ =>
      writeRange_over inner fits "write" nonempty (fun _ member => member) world idle

theorem clear_over (inner : Upholds Inner Inv allowed device)
    (fits : ∀ len, 0 < len → len ≤ min buffer.config.pageSize device → allowed len) (offset len : Nat) :
    Action.Keeps (buffer.Over Inv device) (buffer.clear offset len) := by
  unfold clear
  split
  · exact Action.keeps_pure _
  · rename_i nonempty
    have zeros : List.replicate len (0 : UInt8) ≠ [] := fun empty => nonempty (List.replicate_eq_nil_iff _ |>.mp empty)
    exact Action.keeps_bind (Action.keeps_ensure _ _) fun _ _ world idle _ =>
      writeRange_over inner fits "clear" zeros (fun _ member => member) world idle

theorem abandonWrite_over (inner : Upholds Inner Inv allowed device)
    (fits : ∀ len, 0 < len → len ≤ min buffer.config.pageSize device → allowed len) (progress offset : Nat)
    (data : List UInt8) : Action.Keeps (buffer.Over Inv device) (buffer.abandonWrite progress offset data) := by
  unfold abandonWrite
  split
  · exact Action.keeps_pure _
  · rename_i nonempty
    exact Action.keeps_bind (Action.keeps_ensure _ _) fun _ _ world idle _ =>
      writeRange_over inner fits "write" nonempty (fun _ member => List.mem_of_mem_take member) world idle

/-- A buffer with a dirty page knows its device. -/
theorem flush_over (inner : Upholds Inner Inv allowed device)
    (fits : ∀ len, 0 < len → len ≤ min buffer.config.pageSize device → allowed len) :
    Action.Keeps (buffer.Over Inv device) buffer.flush := by
  intro world idle
  unfold flush
  dsimp only
  by_cases dirty : world.state.dirtyIndices ≠ []
  · rw [if_pos dirty]
    obtain ⟨page, member⟩ := List.exists_mem_of_ne_nil _ dirty
    obtain ⟨found, present, _⟩ := BufferState.mem_dirty.mp member
    obtain ⟨sized, positive⟩ := idle.known page (BufferState.contains_iff.mpr ⟨found, present⟩)
    have flushed : Action.Keeps (Active buffer Inv device) (do
        buffer.flushIndices world.state.dirtyIndices
        BufferWorld.callInner BlobBackend.flush) :=
      Action.keeps_bind (flushIndices_active inner fits world.state.dirtyIndices_nodup)
        fun _ _ after active _ => callInner_active inner.flush after active
    exact (flushed world ⟨idle.inner, sized, positive, idle.shelved⟩).idle
  · rw [if_neg dirty]
    exact callInner_over inner.flush world idle

end BufferedBackend

namespace BufferedDevice

/-- A device over a buffer with this page size. -/
structure Over (Inv : Inner → Prop) (pageSize device : Nat) (buffered : BufferedDevice Inner) : Prop where
  page : buffered.buffer.config.pageSize = pageSize
  world : buffered.buffer.Over Inv device buffered.world

/-- A buffer uploads whole pages, cut at the end of the device, and takes writes of any length. -/
theorem upholds [BlobBackend Inner] {pageSize : Nat} (inner : Upholds Inner Inv allowed device)
    (fits : ∀ len, 0 < len → len ≤ min pageSize device → allowed len) :
    Upholds (BufferedDevice Inner) (Over Inv pageSize device) (fun _ => True) device where
  read offset len _ kept := ⟨kept.page, BufferedBackend.read_over inner offset len _ kept.world⟩
  write offset data _ _ kept :=
    ⟨kept.page, BufferedBackend.write_over inner (kept.page ▸ fits) offset data _ kept.world⟩
  clear offset len _ kept :=
    ⟨kept.page, BufferedBackend.clear_over inner (kept.page ▸ fits) offset len _ kept.world⟩
  dataRanges _ kept := ⟨kept.page, BufferedBackend.callInner_over inner.dataRanges _ kept.world⟩
  flush _ kept := ⟨kept.page, BufferedBackend.flush_over inner (kept.page ▸ fits) _ kept.world⟩
  size _ kept := ⟨kept.page, (BufferedBackend.devSize_over inner).1 _ kept.world⟩
  etag _ kept := ⟨kept.page, BufferedBackend.callInner_over inner.etag _ kept.world⟩
  sized _ bytes kept answer :=
    ((BufferedBackend.devSize_over inner).2 _ kept.world bytes _ (Prod.ext answer rfl)).1
  abandoned progress offset data _ _ kept :=
    ⟨kept.page, BufferedBackend.abandonWrite_over inner (kept.page ▸ fits) progress offset data _ kept.world⟩

end BufferedDevice
end Buffer
end UblkAzblob

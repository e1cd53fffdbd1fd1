import UblkAzblob.Construction.FileCachePages
import UblkAzblob.Foundation.Interleaving

namespace UblkAzblob
namespace FileCacheBackend
open Storage

variable {Inner : Type} [BlobBackend Inner]

/-- Every data operation rejects a misaligned request. -/
def checkAligned {State : Type} (message : String) (offset len : Nat) : Action State Unit :=
  .ensure (offset % 512 = 0 ∧ len % 512 = 0) [message]

/-- A resident chunk is read from the cache file, any other one from the inner backend. -/
def readChunk (cache : FileCacheBackend) (offset : Nat) (chunk : Chunk) :
    Action (World Inner) (List UInt8) := fun world =>
  let absOffset := offset + chunk.pos
  let chunkLen := chunk.len
  if bitGet world.state.present chunk.page then
    match world.disk.data.readExactAt absOffset chunkLen with
    | .error error =>
        (.error (s!"read cache file offset={absOffset} len={chunkLen}" :: error), world)
    | .ok bytes =>
        (.ok bytes, if cache.budget.isSome
          then world.touch chunk.page (!bitGet world.state.dirty chunk.page) else world)
  else fetch chunk.page absOffset chunkLen s!"read offset={absOffset} len={chunkLen}" (fun got =>
    s!"inner backend returned {got} bytes for read offset={absOffset} len={chunkLen}") world

/-- The chunks are read in order into one buffer. -/
def readLoop (cache : FileCacheBackend) (offset : Nat) :
    List Chunk → List UInt8 → Action (World Inner) (List UInt8)
  | [], result => pure result
  | chunk :: rest, result => do
      let bytes ← cache.readChunk offset chunk
      readLoop cache offset rest (result ++ bytes)

def read (cache : FileCacheBackend) (offset len : Nat) : Action (World Inner) (List UInt8) :=
  if len = 0 then pure []
  else do
    checkAligned s!"read: offset ({offset}) and len ({len}) must be 512-byte aligned" offset len
    let devSize ← Action.get fun world : World Inner => world.state.devSize
    checkInBounds "read" offset len devSize
    cache.readLoop offset (chunks cache.pageSize offset len) []

/-- A partial page is loaded first, so that the rest of the page is present. -/
def writeChunk (cache : FileCacheBackend) (data : List UInt8) (chunk : Chunk) :
    Action (World Inner) Unit := do
  if chunk.len ≠ cache.pageSize then
    let _ ← cache.ensurePage chunk.page
  .modify (cache.dirtyPageRegion chunk.page chunk.pageOffset ((data.drop chunk.pos).take chunk.len))

/-- The chunks of a request are written one page at a time. -/
def writeRange (cache : FileCacheBackend) (op : String) (offset : Nat) (data : List UInt8) :
    Action (World Inner) Unit := do
  let devSize ← Action.get fun world : World Inner => world.state.devSize
  checkInBounds op offset data.length devSize
  .forEach (chunks cache.pageSize offset data.length) (cache.writeChunk data)

def write (cache : FileCacheBackend) (offset : Nat) (data : List UInt8) :
    Action (World Inner) Unit :=
  if data = [] then pure ()
  else do
    let len := data.length
    checkAligned s!"write: offset ({offset}) and data.len() ({len}) must be 512-byte aligned" offset len
    cache.writeRange "write" offset data

/-- A clear writes zeros through the same page path as a write. -/
def clear (cache : FileCacheBackend) (offset len : Nat) : Action (World Inner) Unit :=
  if len = 0 then pure ()
  else do
    checkAligned s!"clear: offset ({offset}) and len ({len}) must be 512-byte aligned" offset len
    cache.writeRange "clear" offset (List.replicate len 0)

/-- The walk visits every page that the request touches. -/
def prefetch (cache : FileCacheBackend) (offset len : Nat) : Action (World Inner) Unit :=
  if len = 0 then pure ()
  else do
    checkAligned s!"prefetch: offset ({offset}) and len ({len}) must be 512-byte aligned" offset len
    let devSize ← Action.get fun world : World Inner => world.state.devSize
    checkInBounds "prefetch" offset len devSize
    let first := offset / cache.pageSize
    let beyond := (offset + len + cache.pageSize - 1) / cache.pageSize
    .forEach (List.range' first (beyond - first)) fun page => do
      let _ ← cache.ensurePage page

/-- A warm-up task checks for the page, fetches it without the lock, and stores it. -/
inductive WarmPhase where
  | checking
  | fetching (offset len : Nat)
  | storing (offset len : Nat) (data : List UInt8)
  | done (result : Except Error Nat)

/-- One step of a warm-up task is one lock section or one inner read. -/
def warmOnePage (cache : FileCacheBackend) (page : Nat) :
    WarmPhase → World Inner → WarmPhase × World Inner
  | .checking, world =>
      let offset := page * cache.pageSize
      let len := min cache.pageSize (world.state.devSize - offset)
      if bitGet world.state.present page then (.done (.ok 0), world)
      else if len = 0 then (.done (.ok 0), world)
      else (.fetching offset len, world)
  | .fetching offset len, world =>
      match fetch page offset len s!"warm-up read page {page}" (fun got =>
        s!"inner backend returned {got} bytes for page {page} (expected {len})") world with
      | (.ok data, world) => (.storing offset len data, world)
      | (.error error, world) => (.done (.error error), world)
  | .storing offset len data, world =>
      if bitGet world.state.present page then (.done (.ok 0), world)
      else (.done (.ok len), cache.storeCleanPage page offset data world)
  | .done result, world => (.done result, world)

/-- The page tasks of a warm-up interleave; a failed page is skipped. -/
def warmup (cache : FileCacheBackend) (devSize limitBytes : Nat) :
    Action (World Inner) Unit := fun world =>
  let limit := min limitBytes devSize
  if limit = 0 then (.ok (), world)
  else
    let pageCount := (limit + cache.pageSize - 1) / cache.pageSize
    let queried := World.callInner .dataRanges BlobBackend.dataRanges world
    let wanted (page : Nat) : Bool := match queried.1 with
      | .ok (some ranges) => rangeIntersects ranges (page * cache.pageSize)
          (min cache.pageSize (devSize - page * cache.pageSize))
      | _ => true
    let pages := (List.range pageCount).filter wanted
    let order := cache.host.schedule queried.2.clock ++ pages.flatMap (List.replicate 3)
    let scheduled := { queried.2 with clock := queried.2.clock + 1 }
    (.ok (), (interleave cache.warmOnePage (fun _ => false) order
      (pages.map fun page => (page, .checking)) scheduled).2)

/-- A flush task takes a snapshot, uploads it without the lock, and clears the dirty bit. -/
inductive FlushPhase where
  | waiting
  | uploading (offset generation : Nat) (bytes : List UInt8)
  | uploaded (generation : Nat)
  | done (result : Except Error Unit)

/-- One step of a flush task is one lock section or one inner write. -/
def flushPage (cache : FileCacheBackend) (page : Nat) :
    FlushPhase → World Inner → FlushPhase × World Inner
  | .waiting, world =>
      let offset := page * cache.pageSize
      let len := min cache.pageSize (world.state.devSize - offset)
      if !bitGet world.state.dirty page then (.done (.ok ()), world)
      else if len = 0 then (.done (.ok ()), world)
      else match world.disk.data.readExactAt offset len with
        | .error error => (.done (.error (s!"read page {page} from cache file" :: error)), world)
        | .ok bytes => (.uploading offset (world.generation page) bytes, world)
  | .uploading offset generation bytes, world =>
      match (World.callInner (.upload page) (BlobBackend.write offset bytes)).withContext
        s!"flush page {page} to inner backend" world with
      | (.ok (), world) => (.uploaded generation, world)
      | (.error error, world) => (.done (.error error), world)
  | .uploaded generation, world =>
      if world.generation page ≠ generation then (.done (.ok ()), world)
      else
        let persisted := persistMetaBit page (world.setDirty page false)
        (.done (.ok ()), if cache.budget.isSome then persisted.touch page true else persisted)
  | .done result, world => (.done result, world)

def FlushPhase.error? : FlushPhase → Option Error
  | .done (.error error) => some error
  | _ => none

/-- The flush remembers the first error in the order of completion. -/
def flushCollect (cache : FileCacheBackend) (page : Nat) (phase : FlushPhase)
    (progress : World Inner × Option Error) : FlushPhase × (World Inner × Option Error) :=
  let next := cache.flushPage page phase progress.1
  (next.1, (next.2, progress.2.or next.1.error?))

def dirtyPages (state : CacheState) : List Nat :=
  (List.range state.numPages).filter fun page => bitGet state.dirty page

/-- The token file is truncated before the new token is written. -/
def persistEtag (etag : String) (world : World Inner) : World Inner :=
  (world.issue .persistEtag (.etag (some ""))).issue .persistEtag (.etag (some etag))

/-- Uploaded pages change the blob's token, so the new one is recorded. -/
def recordEtag : Action (World Inner) Unit := fun world =>
  match World.callInner .innerEtag BlobBackend.etag world with
  | (.ok (some etag), world) => (.ok (), persistEtag etag world)
  | (_, world) => (.ok (), world)

/-- Every dirty page is uploaded by its own task before the inner backend is flushed. -/
def flush (cache : FileCacheBackend) : Action (World Inner) Unit := fun world =>
  let dirty := dirtyPages world.state
  let order := cache.host.schedule world.clock ++ dirty.flatMap (List.replicate 3)
  let scheduled := { world with clock := world.clock + 1 }
  let uploads := (interleave cache.flushCollect (fun _ => false) order
    (dirty.map fun page => (page, .waiting)) (scheduled, none)).2
  match uploads.2 with
  | some error => (.error error, uploads.1)
  | none => (do
      World.callInner .innerFlush BlobBackend.flush
      if dirty ≠ [] then recordEtag : Action (World Inner) Unit) uploads.1

end FileCacheBackend
end UblkAzblob

import UblkAzblob.Construction.Backend
import UblkAzblob.Construction.CacheLru
import UblkAzblob.Foundation.Interleaving

namespace UblkAzblob
open Storage

/-- The configuration of the write-back buffer; its timers and the width of a flush only pick schedules. -/
structure BufferedConfig where
  pageSize : Nat
  maxDirtyPages : Nat
  maxCachedPages : Nat
  flushIoTimeoutSecs : Nat

/-- A buffer page holds a full page of bytes and the number of its last change. -/
structure Page where
  data : List UInt8
  dirty : Bool
  seq : Nat
  deriving DecidableEq, Repr

structure BufferState where
  pages : OrderedMap Nat Page
  lru : Lru
  seqCounter : Nat
  devSize : Nat

/-- The executor orders the tasks of a flush, may time it out, and drops unfinished writes. -/
structure Executor where
  schedule : Nat → List Nat
  timeout : Nat → Option Nat
  progress : Nat → Nat → Nat

/-- An accepted configuration satisfies the checks of `new`. -/
structure BufferedBackend where
  config : BufferedConfig
  positive : 512 ≤ config.pageSize
  aligned : config.pageSize % 512 = 0
  dirtyPositive : config.maxDirtyPages ≠ 0
  cachedEnough : config.maxCachedPages = 0 ∨ config.maxDirtyPages ≤ config.maxCachedPages
  executor : Executor

namespace BufferState

def empty : BufferState := ⟨.empty, .empty, 0, 0⟩

/-- The 64-bit number of the next change wraps. -/
def nextSeq (state : BufferState) : Nat := (state.seqCounter + 1) % 2 ^ 64

/-- The loop drops least-recently-used clean pages until the resident pages fit. -/
def evictLoop (max : Nat) (protect : Option Nat) : Nat → BufferState → BufferState
  | 0, state => state
  | fuel + 1, state =>
      if state.pages.entries.length ≤ max then state
      else match state.lru.popLru protect with
        | (none, _) => state
        | (some victim, lru) =>
            evictLoop max protect fuel { state with lru, pages := state.pages.erase victim }

/-- A zero limit keeps every page. -/
def enforceCacheLimit (config : BufferedConfig) (protect : Option Nat) (state : BufferState) :
    BufferState :=
  if config.maxCachedPages = 0 then state
  else evictLoop config.maxCachedPages protect state.lru.evictable.entries.length state

/-- A loaded page is inserted clean, unless the page became resident in the meantime. -/
def insertLoaded (config : BufferedConfig) (page : Nat) (data : List UInt8) (state : BufferState) :
    BufferState :=
  if state.pages.contains page then state
  else
    let seq := state.nextSeq
    enforceCacheLimit config (some page) { state with
      seqCounter := seq
      pages := state.pages.insert page ⟨data, false, seq⟩
      lru := state.lru.touch page true }

/-- A resident chunk is copied out and the page becomes the most recent one. -/
def copyOut (config : BufferedConfig) (page pageOffset len : Nat) (state : BufferState) :
    Option (List UInt8 × BufferState) :=
  match state.pages.find? page with
  | none => none
  | some found => some ((found.data.drop pageOffset).take len,
      enforceCacheLimit config (some page) { state with lru := state.lru.touch page (!found.dirty) })

/-- A resident page is patched, marked dirty and pinned. -/
def applyPatch (page pageOffset : Nat) (patch : List UInt8) (state : BufferState) :
    Option BufferState :=
  match state.pages.find? page with
  | none => none
  | some found =>
      let seq := state.nextSeq
      some { state with
        seqCounter := seq
        pages := state.pages.insert page ⟨overwrite found.data pageOffset patch, true, seq⟩
        lru := state.lru.touch page false }

/-- A dirty page is copied with its sequence number; the last page is cut at the device end. -/
def snapshot (config : BufferedConfig) (page : Nat) (state : BufferState) :
    Option (Nat × Nat × List UInt8) :=
  match state.pages.find? page with
  | some found =>
      if found.dirty then
        let offset := page * config.pageSize
        let writeLen := if 0 < state.devSize then min found.data.length (state.devSize - offset)
          else found.data.length
        some (found.seq, offset, found.data.take writeLen)
      else none
  | none => none

/-- The page turns clean only if it was not changed since the snapshot. -/
def markClean (page seq : Nat) (state : BufferState) : BufferState :=
  match state.pages.find? page with
  | some found =>
      if found.seq = seq then { state with
        pages := state.pages.insert page { found with dirty := false }
        lru := state.lru.touch page true }
      else state
  | none => state

def dirtyIndices (state : BufferState) : List Nat :=
  (state.pages.entries.filter fun entry => entry.2.dirty).map Prod.fst

/-- The oldest dirty pages above the limit are flushed first. -/
def victims (config : BufferedConfig) (state : BufferState) : List Nat :=
  let dirty := state.pages.entries.filter fun entry => entry.2.dirty
  if dirty.length ≤ config.maxDirtyPages then []
  else
    let byAge := (dirty.map fun entry => (entry.2.seq, entry.1)).mergeSort fun first second =>
      first.1 < second.1 || (first.1 = second.1 && first.2 ≤ second.2)
    (byAge.take (dirty.length - config.maxDirtyPages)).map Prod.snd

end BufferState

/-- The world of a running buffer is its state and its inner backend. -/
structure BufferWorld (Inner : Type) where
  state : BufferState
  inner : Inner
  clock : Nat

namespace BufferWorld

variable {Inner : Type}

def callInner {Value : Type} (action : Action Inner Value) : Action (BufferWorld Inner) Value :=
  fun world => ((action world.inner).1, { world with inner := (action world.inner).2 })

def update (world : BufferWorld Inner) (change : BufferState → BufferState) : BufferWorld Inner :=
  { world with state := change world.state }

end BufferWorld

/-- These are the calls that a block device makes. -/
inductive BlobRequest where
  | read (offset len : Nat)
  | write (offset : Nat) (data : List UInt8)
  | clear (offset len : Nat)
  | flush
  deriving DecidableEq, Repr

namespace BufferedBackend

variable {Inner : Type}

/-- The configuration is checked before the buffer exists. -/
def new (config : BufferedConfig) (executor : Executor) : Except Error BufferedBackend :=
  let pageSize := config.pageSize
  let maxCached := config.maxCachedPages
  let maxDirty := config.maxDirtyPages
  if page : 512 ≤ config.pageSize ∧ config.pageSize % 512 = 0 then
    if dirty : config.maxDirtyPages ≠ 0 then
      if cached : config.maxCachedPages = 0 ∨ config.maxDirtyPages ≤ config.maxCachedPages then
        .ok ⟨config, page.1, page.2, dirty, cached, executor⟩
      else .error [s!"max_cached_pages ({maxCached}) must be 0 (unlimited) or >= max_dirty_pages ({maxDirty})"]
    else .error ["max_dirty_pages must be greater than 0"]
  else .error [s!"page_size ({pageSize}) must be a non-zero multiple of 512"]

def start (inner : Inner) (clock : Nat) : BufferWorld Inner := ⟨.empty, inner, clock⟩

variable [BlobBackend Inner]

/-- The device size is asked once and then remembered. -/
def devSize : Action (BufferWorld Inner) Nat := fun world =>
  if world.state.devSize ≠ 0 then (.ok world.state.devSize, world)
  else (do
    let size ← BufferWorld.callInner BlobBackend.size
    .modify fun world => world.update fun state =>
      if state.devSize = 0 then { state with devSize := size } else state
    .get fun world => world.state.devSize : Action (BufferWorld Inner) Nat) world

/-- The part of a page that lies inside the device is read; the rest is zero. -/
def loadPage (buffer : BufferedBackend) (page devSize : Nat) : Action (BufferWorld Inner) (List UInt8) :=
  let pageSize := buffer.config.pageSize
  let offset := page * pageSize
  let readLen := if 0 < devSize then min (devSize - offset) pageSize else 0
  if 0 < readLen then do
    let data ← (BufferWorld.callInner (BlobBackend.read offset readLen)).withContext
      s!"load page {page} from backend"
    let got := data.length
    Action.ensure (got = readLen)
      [s!"backend returned {got} bytes loading page {page} (expected {readLen})"]
    pure (data ++ List.replicate (pageSize - readLen) 0)
  else pure (List.replicate pageSize 0)

/-- A missing page is read without the lock and then inserted. -/
def ensureResident (buffer : BufferedBackend) (page devSize : Nat) :
    Action (BufferWorld Inner) Unit := fun world =>
  if world.state.pages.contains page then (.ok (), world)
  else (do
    let data ← buffer.loadPage page devSize
    .modify fun world => world.update (.insertLoaded buffer.config page data) :
      Action (BufferWorld Inner) Unit) world

/-- A lock section that misses its page is retried. -/
def lockedOr {Value : Type} (locked : BufferState → Option (Value × BufferState))
    (retry : Action (BufferWorld Inner) Value) : Action (BufferWorld Inner) Value := fun world =>
  match locked world.state with
  | none => retry world
  | some (value, state) => (.ok value, { world with state })

/-- The page is loaded again while another task evicted it before the lock was taken. -/
def withResident {Value : Type} (buffer : BufferedBackend) (page devSize : Nat)
    (locked : BufferState → Option (Value × BufferState)) :
    Nat → Action (BufferWorld Inner) Value
  | 0 => .fail ["page evicted before every retry"]
  | fuel + 1 => do
      buffer.ensureResident page devSize
      lockedOr locked (withResident buffer page devSize locked fuel)

/-- A flush task takes a snapshot, writes it without the lock, and marks the page clean. -/
inductive WritePhase where
  | waiting
  | writing (seq offset : Nat) (bytes : List UInt8)
  | written (seq : Nat)
  | done (result : Except Error Unit)

def WritePhase.error? : WritePhase → Option Error
  | .done (.error error) => some error
  | _ => none

def WritePhase.isDone : WritePhase → Bool
  | .done _ => true
  | _ => false

/-- One step of a flush task is one lock section or one inner write. -/
def flushIndex (buffer : BufferedBackend) (page : Nat) :
    WritePhase → BufferWorld Inner → WritePhase × BufferWorld Inner
  | .waiting, world =>
      match world.state.snapshot buffer.config page with
      | none => (.done (.ok ()), world)
      | some (seq, offset, bytes) =>
          if bytes.length = 0 then (.written seq, world) else (.writing seq offset bytes, world)
  | .writing seq offset bytes, world =>
      match (BufferWorld.callInner (BlobBackend.write offset bytes)).withContext
        s!"flush page {page} at offset {offset}" world with
      | (.ok (), world) => (.written seq, world)
      | (.error error, world) => (.done (.error error), world)
  | .written seq, world => (.done (.ok ()), world.update (.markClean page seq))
  | .done result, world => (.done result, world)

/-- The writes that are still running when a flush gives up are dropped. -/
def dropWrites (buffer : BufferedBackend) : List (Nat × WritePhase) → BufferWorld Inner → BufferWorld Inner
  | [], world => world
  | (page, .writing _ offset bytes) :: rest, world =>
      let progress := buffer.executor.progress world.clock page
      let inner := BlobBackend.abandonWrite progress offset bytes world.inner
      dropWrites buffer rest { world with inner }
  | _ :: rest, world => dropWrites buffer rest world

/-- Without a timeout every task gets the turns it needs. -/
def flushOrder (buffer : BufferedBackend) (indices : List Nat) (clock : Nat) : List Nat :=
  let order := buffer.executor.schedule clock ++ indices.flatMap (List.replicate 3)
  match buffer.executor.timeout clock with
  | some steps => if 0 < buffer.config.flushIoTimeoutSecs then order.take steps else order
  | none => order

/-- The pages are flushed by concurrent tasks until one fails or the time is over. -/
def flushIndices (buffer : BufferedBackend) (indices : List Nat) :
    Action (BufferWorld Inner) Unit := fun world =>
  let secs := buffer.config.flushIoTimeoutSecs
  let ended := interleave buffer.flushIndex (fun tasks => tasks.any fun task => task.2.error?.isSome)
    (buffer.flushOrder indices world.clock) (indices.map fun page => (page, .waiting))
    { world with clock := world.clock + 1 }
  match ended.1.findSome? fun task => task.2.error? with
  | some error => (.error error, dropWrites buffer ended.1 ended.2)
  | none =>
      if ended.1.all fun task => task.2.isDone then (.ok (), ended.2)
      else (.error [s!"flush timed out after {secs}s (flush_io_timeout_secs exceeded)"],
        dropWrites buffer ended.1 ended.2)

/-- A dirty page above the limit is written back before the call goes on. -/
def enforceDirtyLimit (buffer : BufferedBackend) : Action (BufferWorld Inner) Unit := fun world =>
  let victims := world.state.victims buffer.config
  if victims = [] then (.ok (), world) else buffer.flushIndices victims world

def checkAligned {State : Type} (message : String) (offset len : Nat) : Action State Unit :=
  .ensure (offset % 512 = 0 ∧ len % 512 = 0) [message]

def readLoop (buffer : BufferedBackend) (devSize : Nat) :
    List Chunk → List UInt8 → Action (BufferWorld Inner) (List UInt8)
  | [], result => pure result
  | chunk :: rest, result => do
      let bytes ← buffer.withResident chunk.page devSize
        (BufferState.copyOut buffer.config chunk.page chunk.pageOffset chunk.len) 1
      readLoop buffer devSize rest (result ++ bytes)

def read (buffer : BufferedBackend) (offset len : Nat) : Action (BufferWorld Inner) (List UInt8) :=
  if len = 0 then pure []
  else do
    checkAligned s!"read: offset ({offset}) and len ({len}) must be 512-byte aligned" offset len
    let devSize ← devSize
    checkInBounds "read" offset len devSize
    buffer.readLoop devSize (chunks buffer.config.pageSize offset len) []

/-- A chunk is patched into its page, and then the number of dirty pages is bounded again. -/
def writeChunk (buffer : BufferedBackend) (devSize : Nat) (data : List UInt8) (chunk : Chunk) :
    Action (BufferWorld Inner) Unit := do
  buffer.withResident chunk.page devSize (fun state =>
    (state.applyPatch chunk.page chunk.pageOffset ((data.drop chunk.pos).take chunk.len)).map
      fun state => ((), state)) 1
  buffer.enforceDirtyLimit

def writeRange (buffer : BufferedBackend) (op : String) (offset : Nat) (data : List UInt8) :
    Action (BufferWorld Inner) Unit := do
  let devSize ← devSize
  checkInBounds op offset data.length devSize
  .forEach (chunks buffer.config.pageSize offset data.length) (buffer.writeChunk devSize data)

def write (buffer : BufferedBackend) (offset : Nat) (data : List UInt8) :
    Action (BufferWorld Inner) Unit :=
  if data = [] then pure ()
  else do
    let len := data.length
    checkAligned s!"write: offset ({offset}) and data.len() ({len}) must be 512-byte aligned" offset len
    buffer.writeRange "write" offset data

/-- A clear patches zeros through the same page path as a write. -/
def clear (buffer : BufferedBackend) (offset len : Nat) : Action (BufferWorld Inner) Unit :=
  if len = 0 then pure ()
  else do
    checkAligned s!"clear: offset ({offset}) and len ({len}) must be 512-byte aligned" offset len
    buffer.writeRange "clear" offset (List.replicate len 0)

/-- Every dirty page is flushed before the inner backend is. -/
def flush (buffer : BufferedBackend) : Action (BufferWorld Inner) Unit := fun world =>
  let dirty := world.state.dirtyIndices
  (do
    if dirty ≠ [] then buffer.flushIndices dirty
    BufferWorld.callInner BlobBackend.flush : Action (BufferWorld Inner) Unit) world

/-- Only a read returns bytes. -/
def perform (buffer : BufferedBackend) : BlobRequest → Action (BufferWorld Inner) (List UInt8)
  | .read offset len => buffer.read offset len
  | .write offset data => do buffer.write offset data; pure []
  | .clear offset len => do buffer.clear offset len; pure []
  | .flush => do buffer.flush; pure []

end BufferedBackend
end UblkAzblob

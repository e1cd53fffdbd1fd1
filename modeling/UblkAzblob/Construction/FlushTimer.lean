import UblkAzblob.Construction.Buffered

namespace UblkAzblob
open Storage

/-- The timeouts of the background flush, in seconds; a zero turns one off. -/
structure FlushTimers where
  idleFlushSecs : Nat
  forceFlushTimeoutSecs : Nat

namespace FlushTimers

def default : FlushTimers := ⟨15, 600⟩

/-- A span of seconds on the clock, which counts nanoseconds. -/
def seconds (count : Nat) : Nat := count * 1000000000

/-- There is a background task when a timeout is set; it sleeps for half of the idle timeout, or without one for a
quarter of the other, and for at least a second. -/
def checkInterval (timers : FlushTimers) : Option Nat :=
  if 0 < timers.idleFlushSecs then some (seconds (max (timers.idleFlushSecs / 2) 1))
  else if 0 < timers.forceFlushTimeoutSecs then some (seconds (max (timers.forceFlushTimeoutSecs / 4) 1))
  else none

end FlushTimers

/-- A buffer with the instants of its last write and its last flush; a call takes no time. -/
structure TimedBuffer (Inner : Type) where
  world : BufferWorld Inner
  lastWrite : Option Nat
  lastFlush : Option Nat
  now : Nat

namespace TimedBuffer

variable {Inner : Type}

/-- A step of the buffer that sets no instant. -/
def lift {Value : Type} (action : Action (BufferWorld Inner) Value) : Action (TimedBuffer Inner) Value := fun timed =>
  ((action timed.world).1, { timed with world := (action timed.world).2 })

def stampWrite : Action (TimedBuffer Inner) Unit := .modify fun timed => { timed with lastWrite := some timed.now }

def stampFlush : Action (TimedBuffer Inner) Unit := .modify fun timed => { timed with lastFlush := some timed.now }

def hasDirty (timed : TimedBuffer Inner) : Bool := timed.world.state.dirtyIndices ≠ []

/-- The time since an instant reaches the timeout. -/
def expired (timed : TimedBuffer Inner) (timeout instant : Nat) : Bool := FlushTimers.seconds timeout ≤ timed.now - instant

/-- The device has been idle for long enough since its last write. -/
def idleTrigger (timers : FlushTimers) (timed : TimedBuffer Inner) : Bool :=
  if 0 < timers.idleFlushSecs then
    match timed.lastWrite with
    | some lastWrite => timed.expired timers.idleFlushSecs lastWrite && timed.hasDirty
    | none => false
  else false

/-- The timer starts at the last flush, or at the last write where there was no flush. -/
def forceTrigger (timers : FlushTimers) (timed : TimedBuffer Inner) : Bool :=
  if 0 < timers.forceFlushTimeoutSecs then
    match timed.lastFlush, timed.lastWrite with
    | some lastFlush, _ => timed.expired timers.forceFlushTimeoutSecs lastFlush && timed.hasDirty
    | none, some lastWrite => timed.expired timers.forceFlushTimeoutSecs lastWrite && timed.hasDirty
    | none, none => false
  else false

end TimedBuffer

namespace BufferedBackend

variable {Inner : Type} [BlobBackend Inner]

section Timed

open TimedBuffer

/-- The instant of a write is set where its page is patched, before the number of dirty pages is bounded. -/
def timedWriteChunk (buffer : BufferedBackend) (devSize : Nat) (data : List UInt8) (chunk : Chunk) :
    Action (TimedBuffer Inner) Unit := do
  lift (buffer.withResident chunk.page devSize (fun state =>
    (state.applyPatch chunk.page chunk.pageOffset ((data.drop chunk.pos).take chunk.len)).map
      fun state => ((), state)) 1)
  stampWrite
  lift buffer.enforceDirtyLimit

def timedWriteRange (buffer : BufferedBackend) (op : String) (offset : Nat) (data : List UInt8) :
    Action (TimedBuffer Inner) Unit := do
  let devSize ← lift devSize
  checkInBounds op offset data.length devSize
  .forEach (chunks buffer.config.pageSize offset data.length) (buffer.timedWriteChunk devSize data)

def timedWrite (buffer : BufferedBackend) (offset : Nat) (data : List UInt8) : Action (TimedBuffer Inner) Unit :=
  if data = [] then pure ()
  else do
    let len := data.length
    checkAligned s!"write: offset ({offset}) and data.len() ({len}) must be 512-byte aligned" offset len
    buffer.timedWriteRange "write" offset data

def timedClear (buffer : BufferedBackend) (offset len : Nat) : Action (TimedBuffer Inner) Unit :=
  if len = 0 then pure ()
  else do
    checkAligned s!"clear: offset ({offset}) and len ({len}) must be 512-byte aligned" offset len
    buffer.timedWriteRange "clear" offset (List.replicate len 0)

/-- Dirty pages that are written back. -/
def timedFlushIndices (buffer : BufferedBackend) (dirty : List Nat) : Action (TimedBuffer Inner) Unit := do
  lift (buffer.flushIndices dirty)
  stampFlush

/-- The instant of a flush is set once the dirty pages are written, whatever the inner backend answers. -/
def timedFlush (buffer : BufferedBackend) : Action (TimedBuffer Inner) Unit := fun timed =>
  let dirty := timed.world.state.dirtyIndices
  (do
    if dirty ≠ [] then buffer.timedFlushIndices dirty
    lift (BufferWorld.callInner BlobBackend.flush) : Action (TimedBuffer Inner) Unit) timed

def timedPerform (buffer : BufferedBackend) : BlobRequest → Action (TimedBuffer Inner) (List UInt8)
  | .read offset len => lift (buffer.read offset len)
  | .write offset data => do buffer.timedWrite offset data; pure []
  | .clear offset len => do buffer.timedClear offset len; pure []
  | .flush => do buffer.timedFlush; pure []

/-- What the task does when it wakes; an error is only reported. -/
def background (buffer : BufferedBackend) (timers : FlushTimers) : Action (TimedBuffer Inner) Unit := fun timed =>
  if timed.idleTrigger timers then buffer.timedFlush timed
  else if timed.forceTrigger timers then buffer.timedFlush timed
  else (.ok (), timed)

end Timed
end BufferedBackend

/-- A buffer with its background task. -/
structure Ticker (Inner : Type) where
  timed : TimedBuffer Inner
  /-- The instant up to which the task sleeps. -/
  wakeAt : Nat
  /-- History: since when there has been a dirty page. -/
  dirtySince : Option Nat

inductive TickerEvent where
  | call (request : BlobRequest)
  | pass (span : Nat)
  | wake

namespace Ticker

variable {Inner : Type}

/-- The task sleeps before it looks for the first time. -/
def start (timers : FlushTimers) (inner : Inner) (clock now : Nat) : Ticker Inner :=
  ⟨⟨BufferedBackend.start inner clock, none, none, now⟩, now + timers.checkInterval.getD 0, none⟩

def observe (ticker : Ticker Inner) (after : TimedBuffer Inner) : Ticker Inner :=
  { ticker with
    timed := after
    dirtySince := if after.hasDirty then some (ticker.dirtySince.getD after.now) else none }

def pass (ticker : Ticker Inner) (span : Nat) : Ticker Inner :=
  { ticker with timed := { ticker.timed with now := ticker.timed.now + span } }

def sleep (ticker : Ticker Inner) (wakeAt : Nat) : Ticker Inner := { ticker with wakeAt }

variable [BlobBackend Inner]

/-- The executor wakes the task at most this late, and the task sleeps again when it is done. -/
def step (buffer : BufferedBackend) (timers : FlushTimers) (late : Nat) (ticker : Ticker Inner) :
    TickerEvent → Option (Ticker Inner)
  | .call request => some (ticker.observe (buffer.timedPerform request ticker.timed).2)
  | .pass span => match timers.checkInterval with
    | none => some (ticker.pass span)
    | some _ => if ticker.timed.now + span ≤ ticker.wakeAt + late then some (ticker.pass span) else none
  | .wake => match timers.checkInterval with
    | none => none
    | some interval =>
        if ticker.wakeAt ≤ ticker.timed.now then
          some ((ticker.observe (buffer.background timers ticker.timed).2).sleep (ticker.timed.now + interval))
        else none

/-- A flush that the task makes succeeds. -/
def writable (buffer : BufferedBackend) (timers : FlushTimers) (ticker : Ticker Inner) : TickerEvent → Bool
  | .wake => match (buffer.background timers ticker.timed).1 with
    | .ok () => true
    | .error _ => false
  | _ => true

end Ticker
end UblkAzblob

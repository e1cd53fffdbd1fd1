import UblkAzblob.Construction.CacheDir
import UblkAzblob.Construction.NbdTarget
import UblkAzblob.Construction.PageBlob
import UblkAzblob.Construction.Stack

namespace UblkAzblob
open Storage

/-- A created device starts with an empty buffer. -/
def BufferedBackend.create {Inner : Type} [BlobBackend Inner] (size : Nat) : Action (BufferWorld Inner) Unit := do
  BufferWorld.callInner (BlobBackend.create size)
  .modify fun world => world.update fun state =>
    { state with devSize := size, pages := .empty, lru := .empty, seqCounter := 0 }

/-- A dropped write has finished its first chunks. -/
def BufferedBackend.abandonWrite {Inner : Type} [BlobBackend Inner] (buffer : BufferedBackend) (progress offset : Nat)
    (data : List UInt8) : Action (BufferWorld Inner) Unit :=
  if data = [] then pure ()
  else do
    let len := data.length
    BufferedBackend.checkAligned s!"write: offset ({offset}) and data.len() ({len}) must be 512-byte aligned" offset len
    let devSize ← BufferedBackend.devSize
    checkInBounds "write" offset data.length devSize
    .forEach ((chunks buffer.config.pageSize offset data.length).take progress) (buffer.writeChunk devSize data)

/-- A running buffer together with the backend behind it. -/
structure BufferedDevice (Inner : Type) where
  buffer : BufferedBackend
  world : BufferWorld Inner

namespace BufferedDevice

variable {Inner : Type}

/-- A call on the buffer changes its world only. -/
def call {Value : Type} (action : BufferedBackend → Action (BufferWorld Inner) Value) :
    Action (BufferedDevice Inner) Value := fun device =>
  let result := action device.buffer device.world
  (result.1, { device with world := result.2 })

instance [BlobBackend Inner] : BlobBackend (BufferedDevice Inner) where
  create size := call fun _ => BufferedBackend.create size
  read offset len := call fun buffer => buffer.read offset len
  write offset data := call fun buffer => buffer.write offset data
  clear offset len := call fun buffer => buffer.clear offset len
  dataRanges := call fun _ => BufferWorld.callInner BlobBackend.dataRanges
  flush := call BufferedBackend.flush
  size := call fun _ => BufferedBackend.devSize
  etag := call fun _ => BufferWorld.callInner BlobBackend.etag
  abandonWrite progress offset data device :=
    { device with world := (device.buffer.abandonWrite progress offset data device.world).2 }

end BufferedDevice

/-- The options that choose the layers between the block device and the blob; a page size of zero writes through. -/
structure StackOptions where
  cache : Option FileCacheConfig
  buffer : BufferedConfig

/-- The layers on top of the blob. -/
inductive DeviceStack where
  | blob (backend : PageBlobBackend)
  | cached (device : CachedDevice PageBlobBackend)
  | buffered (device : BufferedDevice PageBlobBackend)
  | bufferedCache (device : BufferedDevice (CachedDevice PageBlobBackend))

namespace DeviceStack

/-- The backend of the blob below the layers. -/
def base : DeviceStack → PageBlobBackend
  | blob backend => backend
  | cached device => device.world.disk.inner
  | buffered device => device.world.inner
  | bufferedCache device => device.world.inner.world.disk.inner

def lift {Backend Value : Type} (wrap : Backend → DeviceStack) (action : Action Backend Value) (backend : Backend) :
    Except Error Value × DeviceStack := ((action backend).1, wrap (action backend).2)

/-- The call goes to the uppermost layer. -/
def onTop {Value : Type} (action : (Backend : Type) → [BlobBackend Backend] → Action Backend Value) :
    Action DeviceStack Value
  | blob backend => lift blob (action PageBlobBackend) backend
  | cached device => lift cached (action (CachedDevice PageBlobBackend)) device
  | buffered device => lift buffered (action (BufferedDevice PageBlobBackend)) device
  | bufferedCache device => lift bufferedCache (action (BufferedDevice (CachedDevice PageBlobBackend))) device

instance : BlobBackend DeviceStack where
  create size := onTop fun Backend _ => @BlobBackend.create Backend _ size
  read offset len := onTop fun _ _ => BlobBackend.read offset len
  write offset data := onTop fun _ _ => BlobBackend.write offset data
  clear offset len := onTop fun _ _ => BlobBackend.clear offset len
  dataRanges := onTop fun _ _ => BlobBackend.dataRanges
  flush := onTop fun _ _ => BlobBackend.flush
  size := onTop fun _ _ => BlobBackend.size
  etag := onTop fun _ _ => BlobBackend.etag
  abandonWrite progress offset data
    | blob backend => blob (BlobBackend.abandonWrite progress offset data backend)
    | cached device => cached (BlobBackend.abandonWrite progress offset data device)
    | buffered device => buffered (BlobBackend.abandonWrite progress offset data device)
    | bufferedCache device => bufferedCache (BlobBackend.abandonWrite progress offset data device)

end DeviceStack

namespace StackOptions

/-- A buffer only batches writes, so a read-only device and a page size of zero go without one. -/
def withBuffer {Inner : Type} (options : StackOptions) (readOnly : Bool) (executor : Executor) (clock : Nat)
    (plain : Inner → DeviceStack) (buffered : BufferedDevice Inner → DeviceStack) (inner : Inner) :
    Except Error DeviceStack :=
  if readOnly || options.buffer.pageSize = 0 then .ok (plain inner)
  else match BufferedBackend.new options.buffer executor with
    | .error error => .error ("configure write-back buffer" :: error)
    | .ok buffer => .ok (buffered ⟨buffer, BufferedBackend.start inner clock⟩)

/-- The layers are put on top of the blob, from the bottom up; a snapshot is served read-only. -/
def assemble (options : StackOptions) (host : Host) (executor : Executor) (files : CacheFiles) (budgetFile : List Entry)
    (clock : Nat) (backend : PageBlobBackend) : Except Error (Nat × DeviceStack) :=
  let readOnly := backend.snapshot.isSome
  match BlobBackend.size backend with
  | (.error error, _) => .error ("get blob size" :: error)
  | (.ok size, sized) => match options.cache with
    | none => (options.withBuffer readOnly executor clock .blob .buffered sized).map fun stack => (size, stack)
    | some cfg =>
        match CachedDevice.bringUp cfg host size ⟨files.data, files.metadata, files.etag, sized⟩ budgetFile clock with
        | .error error => .error error
        | .ok device =>
            (options.withBuffer readOnly executor clock .cached .bufferedCache device).map fun stack => (size, stack)

end StackOptions

/-- A request of a client, with the payload that follows its header. -/
structure NbdRequest where
  cmd : Nat
  offset : Nat
  length : Nat
  payload : List UInt8

/-- The largest request that the server advertises. -/
def maxAdvertisedBytes : Nat := 32 * 1024 * 1024

/-- A served device gets requests of clients, and its buffer is flushed by timers. -/
inductive DeviceEvent where
  | request (request : NbdRequest)
  | timedFlush

namespace DeviceStack

/-- Only a buffer has timers. -/
def timedFlush : DeviceStack → DeviceStack
  | buffered device => buffered (BlobBackend.flush device).2
  | bufferedCache device => bufferedCache (BlobBackend.flush device).2
  | stack => stack

def handle (devSize : Nat) (readOnly : Bool) (stack : DeviceStack) : DeviceEvent → DeviceStack
  | .request request => (NbdTarget.dispatch devSize readOnly request.cmd 0 request.offset request.length
      ⟨request.payload, [], stack, []⟩).2.backend
  | .timedFlush => stack.timedFlush

/-- The device handles one event after the other. -/
def serve (devSize : Nat) (readOnly : Bool) (events : List DeviceEvent) (stack : DeviceStack) : DeviceStack :=
  events.foldl (handle devSize readOnly) stack

end DeviceStack
end UblkAzblob

import UblkAzblob.Construction.Shutdown

namespace UblkAzblob
open Storage

namespace UblkTarget

section Handler

/-- What the driver asks for; it counts in sectors, and the operation is in the lowest byte of its flags. -/
structure IoDesc where
  opFlags : UInt32
  startSector : UInt64
  nrSectors : UInt32

/-- A queue has one buffer for each tag. -/
structure Queue (Backend : Type) where
  bufs : Nat → List UInt8
  backend : Backend
  /-- Each call of the backend and whether it succeeded. -/
  calls : List (NbdTarget.BackendCall × Bool)

variable {Backend : Type}

/-- The handler waits for a call of the backend, and goes on after a failed one. -/
def blockOn {Value : Type} (call : NbdTarget.BackendCall) (action : Action Backend Value) :
    Action (Queue Backend) (Except Error Value) := fun queue =>
  let outcome := action queue.backend
  (.ok outcome.1, { queue with backend := outcome.2, calls := queue.calls ++ [(call, outcome.1.isOk)] })

/-- The first bytes of the buffer of a tag. -/
def copyFromSlice (tag len : Nat) : Action (Queue Backend) (List UInt8) := fun queue =>
  (.ok ((queue.bufs tag).take len), queue)

/-- The bytes are put over the first ones of the buffer of a tag. -/
def copyToSlice (tag : Nat) (data : List UInt8) : Action (Queue Backend) Unit :=
  .modify fun queue =>
    { queue with bufs := Function.update queue.bufs tag (data ++ (queue.bufs tag).drop data.length) }

/-- A length becomes a signed result of 32 bits. -/
def asI32 (len : Nat) : Int := Int.bmod len (2 ^ 32)

/-- A call without a value is answered with the result of its success. -/
def resultOf (success : Int) : Except Error Unit → Int
  | .ok () => success
  | .error _ => -eio

variable [BlobBackend Backend]

/-- The data of a read is left in the buffer of its tag, unless it has the wrong length. -/
def readIo (tag off len : Nat) : Action (Queue Backend) Int := do
  match ← blockOn (.read off len) (BlobBackend.read off len) with
  | .ok data =>
      if data.length ≠ len then pure (-eio)
      else do
        copyToSlice tag data
        pure (asI32 len)
  | .error _ => pure (-eio)

/-- The result of one descriptor. -/
def ioResult (blockSize tag : Nat) (iod : IoDesc) : Action (Queue Backend) Int :=
  let op := iod.opFlags.toNat &&& 0xff
  let off := iod.startSector.toNat * blockSize % 2 ^ 64
  let len := iod.nrSectors.toNat * blockSize
  if op = ublkIoOpRead then readIo tag off len
  else if op = ublkIoOpWrite then do
    let data ← copyFromSlice tag len
    let outcome ← blockOn (.write off data) (BlobBackend.write off data)
    pure (resultOf (asI32 len) outcome)
  else if op = ublkIoOpFlush then do
    let outcome ← blockOn .flush BlobBackend.flush
    pure (resultOf 0 outcome)
  else if op = ublkIoOpDiscard ∨ op = ublkIoOpWriteZeroes then do
    let outcome ← blockOn (.clear off len) (BlobBackend.clear off len)
    pure (resultOf 0 outcome)
  else pure (-einval)

end Handler

section Device

/-- A request of the block layer, in sectors of 512 bytes. -/
inductive DiskRequest where
  | read (sector count : Nat)
  | write (sector : Nat) (data : List UInt8)
  | flush
  | discard (sector count : Nat)
  | writeZeroes (sector count : Nat)
  deriving DecidableEq

/-- What the block layer gets back. -/
inductive DiskAnswer where
  | failed
  | done (data : List UInt8)
  deriving DecidableEq

namespace DiskRequest

def operation : DiskRequest → Nat
  | .read _ _ => ublkIoOpRead
  | .write _ _ => ublkIoOpWrite
  | .flush => ublkIoOpFlush
  | .discard _ _ => ublkIoOpDiscard
  | .writeZeroes _ _ => ublkIoOpWriteZeroes

def sector : DiskRequest → Nat
  | .read sector _ => sector
  | .write sector _ => sector
  | .flush => 0
  | .discard sector _ => sector
  | .writeZeroes sector _ => sector

def count : DiskRequest → Nat
  | .read _ count => count
  | .write _ data => data.length / 512
  | .flush => 0
  | .discard _ count => count
  | .writeZeroes _ count => count

/-- The bytes that the request brings along. -/
def payload : DiskRequest → List UInt8
  | .write _ data => data
  | _ => []

/-- The other flags of a request are above its operation. -/
def iod (request : DiskRequest) (flags : Nat) : IoDesc :=
  ⟨UInt32.ofNat (request.operation + 256 * flags), UInt64.ofNat request.sector, UInt32.ofNat request.count⟩

/-- A read that has not failed finds its data in the buffer. -/
def answer (request : DiskRequest) (result : Int) (buf : List UInt8) : DiskAnswer :=
  if result < 0 then .failed
  else match request with
    | .read _ _ => .done (buf.take result.toNat)
    | _ => .done []

end DiskRequest

/-- The state of a tag. -/
inductive Slot where
  | free
  | submitted (ticket : Nat) (request : DiskRequest) (flags : Nat)
  | completed (ticket : Nat) (request : DiskRequest) (result : Int)

/-- A device with one queue; requests are numbered as they are submitted. -/
structure Device (Backend : Type) where
  queue : Queue Backend
  slots : Nat → Slot
  submissions : Nat
  /-- The requests in the order in which the queue handled them. -/
  handled : List (Nat × DiskRequest)
  collected : List (Nat × DiskAnswer)

/-- The driver submits a request or collects an answer, or the queue handles a request. -/
inductive DeviceEvent where
  | submit (tag : Nat) (request : DiskRequest) (flags : Nat)
  | handle (tag : Nat)
  | collect (tag : Nat)

namespace Device

variable {Backend : Type}

def start (bufs : Nat → List UInt8) (backend : Backend) : Device Backend :=
  ⟨⟨bufs, backend, []⟩, fun _ => .free, 0, [], []⟩

/-- The driver takes a free tag, and copies the bytes of a write into its buffer. -/
def submit (device : Device Backend) (tag : Nat) (request : DiskRequest) (flags : Nat) : Device Backend :=
  let buf := request.payload ++ (device.queue.bufs tag).drop request.payload.length
  { device with
    queue := { device.queue with bufs := Function.update device.queue.bufs tag buf }
    slots := Function.update device.slots tag (.submitted device.submissions request flags)
    submissions := device.submissions + 1 }

variable [BlobBackend Backend]

/-- The queue handles one request from its descriptor to its completion. -/
def handle (device : Device Backend) (tag ticket : Nat) (request : DiskRequest) (flags : Nat) :
    Option (Device Backend) :=
  match ioResult 512 tag (request.iod flags) device.queue with
  | (.ok result, queue) => some { device with
      queue := queue
      slots := Function.update device.slots tag (.completed ticket request result)
      handled := device.handled ++ [(ticket, request)] }
  | (.error _, _) => none

def step (device : Device Backend) : DeviceEvent → Option (Device Backend)
  | .submit tag request flags => match device.slots tag with
      | .free =>
          if request.count * 512 ≤ (device.queue.bufs tag).length then some (device.submit tag request flags) else none
      | .submitted _ _ _ => none
      | .completed _ _ _ => none
  | .handle tag => match device.slots tag with
      | .submitted ticket request flags => device.handle tag ticket request flags
      | .free => none
      | .completed _ _ _ => none
  | .collect tag => match device.slots tag with
      | .completed ticket request result => some { device with
          slots := Function.update device.slots tag .free
          collected := device.collected ++ [(ticket, request.answer result (device.queue.bufs tag))] }
      | .free => none
      | .submitted _ _ _ => none

end Device
end Device
end UblkTarget
end UblkAzblob

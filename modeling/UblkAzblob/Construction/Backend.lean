import UblkAzblob.Foundation.Action
import UblkAzblob.Foundation.PowerLoss
import UblkAzblob.Foundation.Tiling

namespace UblkAzblob
open Storage

/-- The most bytes of one request that writes pages. -/
def maxPageRequestBytes : Nat := 4 * 1024 * 1024

/-- The sum saturates at the largest 64-bit value. -/
def satAdd (first second : Nat) : Nat := min (first + second) (2 ^ 64 - 1)

/-- A page-blob-like byte store; every offset and length is a multiple of 512. -/
class BlobBackend (Backend : Type) where
  create : Nat → Action Backend Unit
  read : Nat → Nat → Action Backend (List UInt8)
  write : Nat → List UInt8 → Action Backend Unit
  clear : Nat → Nat → Action Backend Unit
  dataRanges : Action Backend (Option (List (Nat × Nat)))
  flush : Action Backend Unit
  size : Action Backend Nat
  etag : Action Backend (Option String)
  /-- A write whose future is dropped has had part of its effect, as far as it had progressed. -/
  abandonWrite : Nat → Nat → List UInt8 → Backend → Backend

/-- Every operation rejects a range that leaves the device. -/
def checkInBounds {State : Type} (op : String) (offset len devSize : Nat) : Action State Unit :=
  if 2 ^ 64 ≤ offset + len then
    .fail [s!"{op}: offset ({offset}) + len ({len}) overflows u64"]
  else if devSize < offset + len then
    .fail [s!"{op} out of bounds: offset={offset} len={len} dev_size={devSize}"]
  else .pure ()

/-- The range test looks at the last data range that starts before the end of the request. -/
def rangeIntersects (ranges : List (Nat × Nat)) (offset len : Nat) : Bool :=
  if len = 0 then false
  else
    let idx := (ranges.takeWhile fun range => range.1 < offset + len).length
    if idx = 0 then false
    else match ranges[idx - 1]? with
      | some (start, rlen) => offset < start + rlen
      | none => false

/-- The in-memory backend keeps the whole blob in one vector. -/
structure MemBackend where
  size : Nat
  data : Store

namespace MemBackend

def checkAlignment (value align : Nat) (name : String) : Action MemBackend Unit :=
  .ensure (value % align = 0) [s!"{name} ({value}) is not aligned to {align} bytes"]

def create (size : Nat) : Action MemBackend Unit := do
  checkAlignment size 512 "size"
  .ensure (size ≠ 0) ["size must be > 0"]
  .modify fun _ => ⟨size, fun _ => 0⟩

def checkEnd (op : String) (offset len : Nat) : Action MemBackend Unit := fun mem =>
  let size := mem.size
  Action.ensure (offset + len ≤ size)
    [s!"{op} out of bounds: offset={offset} len={len} size={size}"] mem

def read (offset len : Nat) : Action MemBackend (List UInt8) := do
  checkAlignment offset 512 "offset"
  checkAlignment len 512 "len"
  checkEnd "read" offset len
  .get fun mem => slice mem.data offset len

def write (offset : Nat) (payload : List UInt8) : Action MemBackend Unit := do
  checkAlignment offset 512 "offset"
  checkAlignment payload.length 512 "data.len()"
  checkEnd "write" offset payload.length
  .modify fun mem => { mem with data := splice mem.data offset payload }

def clear (offset len : Nat) : Action MemBackend Unit := do
  checkAlignment offset 512 "offset"
  checkAlignment len 512 "len"
  checkEnd "clear" offset len
  .modify fun mem => { mem with data := zeroed mem.data offset len }

instance : BlobBackend MemBackend where
  create := create
  read := read
  write := write
  clear := clear
  dataRanges := .pure none
  flush := .pure ()
  size := .get (·.size)
  etag := .pure none
  abandonWrite progress offset payload mem := if progress = 0 then mem else (write offset payload mem).2

end MemBackend
end UblkAzblob

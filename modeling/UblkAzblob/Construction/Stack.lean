import UblkAzblob.Construction.Buffered
import UblkAzblob.Construction.FileCacheOpen

namespace UblkAzblob
open Storage

namespace FileCacheBackend

variable {Inner : Type} [BlobBackend Inner]

/-- A dropped write has finished its first chunks; it can only stop while it loads a partial page. -/
def abandonWrite (cache : FileCacheBackend) (progress offset : Nat) (data : List UInt8) :
    Action (World Inner) Unit :=
  if data = [] then pure ()
  else do
    let len := data.length
    checkAligned s!"write: offset ({offset}) and data.len() ({len}) must be 512-byte aligned" offset len
    let devSize ← Action.get fun world : World Inner => world.state.devSize
    checkInBounds "write" offset data.length devSize
    .forEach ((chunks cache.pageSize offset data.length).take progress) (cache.writeChunk data)

end FileCacheBackend

/-- A running cache together with its files and the blob behind it. -/
structure CachedDevice (Inner : Type) where
  cache : FileCacheBackend
  world : World Inner

namespace CachedDevice

variable {Inner : Type}

/-- A call on the cache changes its world only. -/
def call {Value : Type} (action : FileCacheBackend → Action (World Inner) Value) :
    Action (CachedDevice Inner) Value := fun device =>
  let result := action device.cache device.world
  (result.1, { device with world := result.2 })

instance [BlobBackend Inner] : BlobBackend (CachedDevice Inner) where
  create size := call fun cache => cache.create size
  read offset len := call fun cache => cache.read offset len
  write offset data := call fun cache => cache.write offset data
  clear offset len := call fun cache => cache.clear offset len
  dataRanges := call fun _ => World.callInner .dataRanges BlobBackend.dataRanges
  flush := call FileCacheBackend.flush
  size := call fun _ => .get fun world => world.state.devSize
  etag := call fun _ => World.callInner .innerEtag BlobBackend.etag
  abandonWrite progress offset data device :=
    { device with world := (device.cache.abandonWrite progress offset data device.world).2 }

/-- A token that cannot be read disables the validation for this start. -/
def currentEtag [BlobBackend Inner] (disk : Disk Inner) : Option String × Disk Inner :=
  match BlobBackend.etag disk.inner with
  | (.ok token, inner) => (token, { disk with inner })
  | (.error _, inner) => (none, { disk with inner })

/-- The files survive the process; the page state is lost with it. -/
def kill (device : CachedDevice Inner) : Disk Inner := device.world.disk

/-- The cache is opened, and the dirty pages it recovers are flushed before it is used. -/
def bringUp [BlobBackend Inner] (cfg : FileCacheConfig) (host : Host) (actualSize : Nat)
    (disk : Disk Inner) (budgetFile : List Entry) (clock : Nat) :
    Except Error (CachedDevice Inner) :=
  let current := currentEtag disk
  match FileCacheBackend.openCache cfg host actualSize current.1 current.2 budgetFile clock with
  | .error error => .error ("open local-disk cache" :: error)
  | .ok (cache, world, recoveredDirty) =>
      if recoveredDirty = 0 then .ok ⟨cache, world⟩
      else match cache.flush world with
        | (.error error, _) => .error ("flush recovered dirty cache pages" :: error)
        | (.ok (), flushed) => .ok ⟨cache, flushed⟩

end CachedDevice

namespace BufferedBackend

variable {Inner : Type} [BlobBackend Inner]

/-- A session performs its calls one at a time, whatever they return. -/
def session (buffer : BufferedBackend) (requests : List BlobRequest) (world : BufferWorld Inner) :
    BufferWorld Inner :=
  requests.foldl (fun world request => (buffer.perform request world).2) world

end BufferedBackend
end UblkAzblob

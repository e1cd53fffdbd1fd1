import UblkAzblob.Construction.CacheBudget
import UblkAzblob.Construction.CacheLru

namespace UblkAzblob
open Storage

/-- The on-disk magic spells `UBLKFCAC`. -/
def magic : List UInt8 := [0x55, 0x42, 0x4C, 0x4B, 0x46, 0x43, 0x41, 0x43]

def version : Nat := 1

/-- The two bitmaps follow a header of this many bytes. -/
def headerSize : Nat := 64

def bitmapBytes (numPages : Nat) : Nat := (numPages + 7) / 8

def byteBit (byte : UInt8) (bit : Nat) : Bool := byte &&& (1 <<< UInt8.ofNat bit) != 0

def setByteBit (byte : UInt8) (bit : Nat) (value : Bool) : UInt8 :=
  if value then byte ||| (1 <<< UInt8.ofNat bit) else byte &&& ~~~(1 <<< UInt8.ofNat bit)

/-- A page beyond the bitmap has no bit set. -/
def bitGet (bitmap : List UInt8) (idx : Nat) : Bool := byteBit (byteAt bitmap (idx / 8)) (idx % 8)

def bitSet (bitmap : List UInt8) (idx : Nat) (value : Bool) : List UInt8 :=
  bitmap.modify (idx / 8) fun byte => setByteBit byte (idx % 8) value

/-- The encoding is little-endian. -/
def toLeBytes (count value : Nat) : List UInt8 :=
  (List.range count).map fun index => UInt8.ofNat (value / 256 ^ index)

def fromLeBytes (bytes : List UInt8) : Nat := bytes.foldr (fun byte acc => byte.toNat + 256 * acc) 0

/-- The header names the geometry that the bitmaps describe. -/
def header (pageSize devSize numPages : Nat) : List UInt8 :=
  magic ++ toLeBytes 4 version ++ List.replicate 4 0 ++ toLeBytes 8 pageSize ++
    toLeBytes 8 devSize ++ toLeBytes 8 numPages ++ List.replicate 24 0

/-- The in-memory part of the cache is lost when the process ends. -/
structure CacheState where
  devSize : Nat
  numPages : Nat
  present : List UInt8
  dirty : List UInt8
  dirtyGen : List Nat
  residentBytes : Nat
  lru : Lru

/-- The host answers every question whose answer the process cannot compute. -/
structure Host where
  pid : Nat
  /-- Other processes may rewrite the shared budget file before each locked access. -/
  interfere : Nat → List Entry → List Entry
  pidAlive : Nat → Nat → Bool
  /-- The filesystem may refuse a single `fallocate` even when the probe succeeded. -/
  punchFails : Nat → Bool
  punchHoleSupported : Bool
  regionIsHole : Nat → Bool
  /-- The executor picks which task of a concurrent batch moves next. -/
  schedule : Nat → List Nat

/-- The configuration of one cache; page sharing is off, as in the shipped binary. -/
structure FileCacheConfig where
  name : String
  pageSize : Nat
  maxBytes : Nat

/-- An opened cache has a page size that `open` accepted. -/
structure FileCacheBackend where
  pageSize : Nat
  positive : 0 < pageSize
  aligned : pageSize % 512 = 0
  budget : Option CacheBudget
  host : Host

/-- The site tells which statement of the source issued a call. -/
inductive Site where
  | openCache
  | create
  | writeHeader
  | writePresentBitmap
  | writeDirtyBitmap
  | fetch (page : Nat)
  | storeCleanPage (page : Nat)
  | evictClean (page : Nat)
  | dirtyPageRegion (page : Nat)
  | persistPresent (page : Nat)
  | persistDirty (page : Nat)
  | persistSync (page : Nat)
  | upload (page : Nat)
  | dataRanges
  | innerFlush
  | innerEtag
  | persistEtag
  deriving DecidableEq, Repr

/-- A call changes one file or moves the inner backend to a new state. -/
inductive Effect (Inner : Type) where
  | data (op : FileOp)
  | metadata (op : FileOp)
  | etag (contents : Option String)
  | inner (after : Inner)

structure Call (Inner : Type) where
  site : Site
  effect : Effect Inner

/-- The files and the inner backend outlive the process. -/
structure Disk (Inner : Type) where
  data : File
  metadata : File
  etag : Option String
  inner : Inner

def Effect.apply {Inner : Type} (effect : Effect Inner) (disk : Disk Inner) : Disk Inner :=
  match effect with
  | .data op => { disk with data := op.apply disk.data }
  | .metadata op => { disk with metadata := op.apply disk.metadata }
  | .etag contents => { disk with etag := contents }
  | .inner after => { disk with inner := after }

/-- The replay applies the calls in the order in which they were issued. -/
def replay {Inner : Type} (calls : List (Call Inner)) (disk : Disk Inner) : Disk Inner :=
  calls.foldl (fun disk call => call.effect.apply disk) disk

/-- The world of a running cache records every call that changed the outside. -/
structure World (Inner : Type) where
  state : CacheState
  disk : Disk Inner
  budgetFile : List Entry
  clock : Nat
  calls : List (Call Inner)

namespace World

variable {Inner : Type}

def issue (world : World Inner) (site : Site) (effect : Effect Inner) : World Inner :=
  { world with
    disk := effect.apply world.disk
    calls := world.calls ++ [⟨site, effect⟩] }

/-- A call on the inner backend is recorded with the state it leaves behind. -/
def callInner {Value : Type} (site : Site) (action : Action Inner Value) :
    Action (World Inner) Value := fun world =>
  let result := action world.disk.inner
  (result.1, world.issue site (.inner result.2))

def touch (world : World Inner) (page : Nat) (clean : Bool) : World Inner :=
  { world with state := { world.state with lru := world.state.lru.touch page clean } }

def setPresent (world : World Inner) (page : Nat) (value : Bool) : World Inner :=
  { world with state := { world.state with present := bitSet world.state.present page value } }

def setDirty (world : World Inner) (page : Nat) (value : Bool) : World Inner :=
  { world with state := { world.state with dirty := bitSet world.state.dirty page value } }

def addResident (world : World Inner) (bytes : Nat) : World Inner :=
  { world with state :=
    { world.state with residentBytes := satAdd world.state.residentBytes bytes } }

def dropResident (world : World Inner) (bytes : Nat) : World Inner :=
  { world with state := { world.state with residentBytes := world.state.residentBytes - bytes } }

/-- The 64-bit counter wraps. -/
def bumpGeneration (world : World Inner) (page : Nat) : World Inner :=
  { world with state := { world.state with
    dirtyGen := world.state.dirtyGen.modify page fun generation => (generation + 1) % 2 ^ 64 } }

def generation (world : World Inner) (page : Nat) : Nat := world.state.dirtyGen.getD page 0

/-- The budget file is read and rewritten under its lock, after dead owners are pruned. -/
def withLocked {Value : Type} (host : Host) (update : List Entry → Value × List Entry)
    (world : World Inner) : Value × World Inner :=
  let entries := CacheBudget.pruneDead (host.interfere world.clock world.budgetFile) host.pid
    (host.pidAlive world.clock)
  let result := update entries
  (result.1, { world with budgetFile := result.2, clock := world.clock + 1 })

/-- The host's answer to a yes-or-no question is consumed. -/
def ask (answers : Nat → Bool) (world : World Inner) : Bool × World Inner :=
  (answers world.clock, { world with clock := world.clock + 1 })

end World
end UblkAzblob

import UblkAzblob.Construction.FileCacheState

namespace UblkAzblob
namespace FileCacheBackend
open Storage

variable {Inner : Type}

/-- The final page may be short. -/
def pageLen (cache : FileCacheBackend) (state : CacheState) (page : Nat) : Nat :=
  min cache.pageSize (state.devSize - page * cache.pageSize)

/-- The present byte of a page is written without a sync. -/
def writePresentByte (site : Site) (page : Nat) (world : World Inner) : World Inner :=
  world.issue site
    (.metadata (.write (headerSize + page / 8) [byteAt world.state.present (page / 8)]))

/-- A punch either deallocates the region or fails without effect. -/
def punchHole (cache : FileCacheBackend) (site : Site) (offset len : Nat) (world : World Inner) :
    Bool × World Inner :=
  let refused := world.ask cache.host.punchFails
  if refused.1 then (false, refused.2)
  else (true, refused.2.issue site (.data (.punch offset len)))

/-- The page's hole is punched before its present bit is cleared; a refused punch keeps the page. -/
def evictPage (cache : FileCacheBackend) (budget : CacheBudget) (page : Nat)
    (world : World Inner) : Bool × World Inner :=
  let len := cache.pageLen world.state page
  let punched := if len = 0 then (true, world)
    else cache.punchHole (.evictClean page) (page * cache.pageSize) len world
  if punched.1 then
    let cleared := writePresentByte (.evictClean page) page (punched.2.setPresent page false)
    (true, ((cleared.dropResident len).withLocked cache.host (budget.release len)).2)
  else (false, punched.2.touch page true)

/-- The loop drops least-recently-used clean pages until enough bytes are reclaimed. -/
def evictLoop (cache : FileCacheBackend) (budget : CacheBudget) (protect : Option Nat) :
    Nat → Nat → World Inner → World Inner
  | 0, _, world => world
  | fuel + 1, excess, world =>
      if excess = 0 then world
      else match world.state.lru.popLru protect with
        | (none, _) => world
        | (some page, lru) =>
            let popped := { world with state := { world.state with lru } }
            let evicted := cache.evictPage budget page popped
            if evicted.1 then
              evictLoop cache budget protect fuel (excess - cache.pageLen world.state page) evicted.2
            else evicted.2

/-- Eviction is disabled without a budget or without hole punching. -/
def evictClean (cache : FileCacheBackend) (excess : Nat) (protect : Option Nat)
    (world : World Inner) : World Inner :=
  match cache.budget with
  | none => world
  | some budget =>
      if cache.host.punchHoleSupported then
        evictLoop cache budget protect world.state.lru.evictable.entries.length excess world
      else world

/-- A newly resident page is charged to the budget and may push out older clean pages. -/
def accountPresent (cache : FileCacheBackend) (page : Nat) (clean : Bool) (diskLen : Nat)
    (world : World Inner) : World Inner :=
  match cache.budget with
  | none => world
  | some budget =>
      if diskLen = 0 then world
      else
        let touched := world.touch page clean
        if world.state.lru.contains page then touched
        else
          let admitted := (touched.addResident diskLen).withLocked cache.host (budget.admitBytes diskLen)
          if admitted.1 = 0 then admitted.2
          else cache.evictClean admitted.1 (some page) admitted.2

/-- Both bitmap bytes of a page are written and made durable. -/
def persistMetaBit (page : Nat) (world : World Inner) : World Inner :=
  let bitmapLen := bitmapBytes world.state.numPages
  let withPresent := writePresentByte (.persistPresent page) page world
  let withDirty := withPresent.issue (.persistDirty page) (.metadata
    (.write (headerSize + bitmapLen + page / 8) [byteAt world.state.dirty (page / 8)]))
  withDirty.issue (.persistSync page) (.metadata .sync)

/-- An all-zero page is kept as a hole where the filesystem can punch one. -/
def storePageData (cache : FileCacheBackend) (page offset : Nat) (data : List UInt8)
    (world : World Inner) : Bool × World Inner :=
  let written (world : World Inner) := world.issue (.storeCleanPage page) (.data (.write offset data))
  if data.all (· = 0) && cache.host.punchHoleSupported then
    let punched := cache.punchHole (.storeCleanPage page) offset (cache.pageLen world.state page) world
    if punched.1 then punched else (false, written punched.2)
  else (false, written world)

/-- A fetched page is stored, marked present and accounted as clean. -/
def storeCleanPage (cache : FileCacheBackend) (page offset : Nat) (data : List UInt8)
    (world : World Inner) : World Inner :=
  let stored := cache.storePageData page offset data world
  let marked := writePresentByte (.storeCleanPage page) page (stored.2.setPresent page true)
  let diskLen := if stored.1 then 0 else cache.pageLen world.state page
  cache.accountPresent page true diskLen marked

/-- The inner backend must return exactly the requested number of bytes. -/
def fetch [BlobBackend Inner] (page offset len : Nat) (context : String) (wrongLength : Nat → String) :
    Action (World Inner) (List UInt8) := do
  let data ← (World.callInner (.fetch page) (BlobBackend.read offset len)).withContext context
  Action.ensure (data.length = len) [wrongLength data.length]
  pure data

/-- A missing page is loaded from the inner backend. -/
def ensurePage [BlobBackend Inner] (cache : FileCacheBackend) (page : Nat) :
    Action (World Inner) Nat := fun world =>
  let offset := page * cache.pageSize
  let pageLen := min cache.pageSize (world.state.devSize - offset)
  if bitGet world.state.present page then (.ok pageLen, world)
  else (do
    let data ← fetch page offset pageLen s!"load page {page} from inner backend" fun got =>
      s!"inner backend returned {got} bytes for page {page} (expected {pageLen})"
    .modify (cache.storeCleanPage page offset data)
    pure pageLen : Action (World Inner) Nat) world

/-- The region is written and synced before the page is recorded as dirty. -/
def dirtyPageRegion (cache : FileCacheBackend) (page pageOffset : Nat) (payload : List UInt8)
    (world : World Inner) : World Inner :=
  let offset := page * cache.pageSize + pageOffset
  let written := world.issue (.dirtyPageRegion page) (.data (.write offset payload))
  let synced := written.issue (.dirtyPageRegion page) (.data .sync)
  let marked := ((synced.setPresent page true).setDirty page true).bumpGeneration page
  let persisted := persistMetaBit page marked
  cache.accountPresent page false (cache.pageLen persisted.state page) persisted

end FileCacheBackend
end UblkAzblob

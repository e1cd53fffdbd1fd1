import UblkAzblob.Construction.FileCacheOps

namespace UblkAzblob
namespace FileCacheBackend
open Storage

variable {Inner : Type}

/-- The metadata file is rewritten and synced as a whole. -/
def writeFullMeta (pageSize devSize numPages : Nat) (present dirty : List UInt8)
    (world : World Inner) : World Inner :=
  let total := headerSize + present.length + dirty.length
  let sized := world.issue .writeHeader (.metadata (.setLen total))
  let headed := sized.issue .writeHeader (.metadata (.write 0 (header pageSize devSize numPages)))
  let first := headed.issue .writePresentBitmap (.metadata (.write headerSize present))
  let second := first.issue .writeDirtyBitmap
    (.metadata (.write (headerSize + present.length) dirty))
  second.issue .writeDirtyBitmap (.metadata .sync)

/-- The header is accepted when its magic, version and geometry match. -/
def headerMatches (pageSize devSize : Nat) (metadata : File) : Bool :=
  slice metadata.bytes 0 8 = magic ∧
    fromLeBytes (slice metadata.bytes 8 4) = version ∧
    fromLeBytes (slice metadata.bytes 16 8) = pageSize ∧
    fromLeBytes (slice metadata.bytes 24 8) = devSize

def blankBitmap (numPages : Nat) : List UInt8 := List.replicate (bitmapBytes numPages) 0

/-- The bitmaps are reused when the metadata file describes the same geometry. -/
def metaReusable (pageSize devSize numPages : Nat) (metadata : File) : Bool :=
  headerSize + 2 * bitmapBytes numPages ≤ metadata.len ∧ headerMatches pageSize devSize metadata

def countPages (numPages : Nat) (test : Nat → Bool) : Nat := ((List.range numPages).filter test).length

/-- Incompatible metadata is replaced by empty bitmaps. -/
def loadOrInitMeta (pageSize devSize numPages : Nat) (world : World Inner) :
    (List UInt8 × List UInt8 × Nat) × World Inner :=
  let bmLen := bitmapBytes numPages
  let metadata := world.disk.metadata
  if metaReusable pageSize devSize numPages metadata then
    let present := slice metadata.bytes headerSize bmLen
    let dirty := slice metadata.bytes (headerSize + bmLen) bmLen
    ((present, dirty, countPages numPages (bitGet dirty)), world)
  else
    let blank := blankBitmap numPages
    ((blank, blank, 0), writeFullMeta pageSize devSize numPages blank blank world)

/-- These characters have the Unicode property `White_Space`. -/
def isWhitespace (char : Char) : Bool :=
  let code := char.toNat
  (9 ≤ code ∧ code ≤ 13) ∨ code = 0x20 ∨ code = 0x85 ∨ code = 0xA0 ∨ code = 0x1680 ∨
    (0x2000 ≤ code ∧ code ≤ 0x200A) ∨ code = 0x2028 ∨ code = 0x2029 ∨ code = 0x202F ∨
    code = 0x205F ∨ code = 0x3000

def trim (text : String) : String :=
  String.ofList ((text.toList.dropWhile isWhitespace).reverse.dropWhile isWhitespace).reverse

/-- A missing or blank token file holds no trusted token. -/
def readRecordedEtag (contents : Option String) : Option String :=
  match contents with
  | none => none
  | some text => if trim text = "" then none else some (trim text)

/-- Every present and clean page loses its present bit. -/
def dropClean (numPages : Nat) (present dirty : List UInt8) : List UInt8 :=
  (List.range numPages).foldl (fun bitmap page =>
    if bitGet bitmap page && !bitGet dirty page then bitSet bitmap page false else bitmap) present

/-- The present bitmap is rewritten and synced when some page was dropped. -/
def dropCleanPages (numPages : Nat) (present dirty : List UInt8) (world : World Inner) :
    List UInt8 × World Inner :=
  let dropped := countPages numPages fun page => bitGet present page && !bitGet dirty page
  let remaining := dropClean numPages present dirty
  if dropped = 0 then (remaining, world)
  else (remaining, (world.issue .openCache (.metadata (.write headerSize remaining))).issue
    .openCache (.metadata .sync))

/-- Clean pages are trusted only while the live token equals the recorded one. -/
def validateEtag (numPages : Nat) (currentEtag : Option String) (present dirty : List UInt8)
    (world : World Inner) : List UInt8 × World Inner :=
  match currentEtag with
  | none => (present, world)
  | some current =>
      let validated := if readRecordedEtag world.disk.etag ≠ some current
        then dropCleanPages numPages present dirty world else (present, world)
      (validated.1, (validated.2.issue .openCache (.etag (some ""))).issue
        .openCache (.etag (some current)))

/-- Recovered pages enter the recency order, except clean ones that occupy no disk. -/
def seedLru (cache : FileCacheBackend) : List Nat → World Inner → World Inner
  | [], world => world
  | page :: rest, world =>
      if bitGet world.state.present page then
        let clean := !bitGet world.state.dirty page
        let hole := if clean then world.ask cache.host.regionIsHole else (false, world)
        if hole.1 then seedLru cache rest hole.2
        else seedLru cache rest
          ((hole.2.addResident (cache.pageLen world.state page)).touch page clean)
      else seedLru cache rest world

/-- The owner registers with a zero balance, unless the budget is unlimited. -/
def openBudget (host : Host) (owner : String) (maxBytes : Nat) (world : World Inner) :
    Except Error (Option CacheBudget × World Inner) :=
  if maxBytes = 0 then .ok (none, world)
  else if owner.toList.contains '\t' || owner.toList.contains '\n' then
    let quoted := owner.quote
    .error ["open shared cache budget",
      s!"cache budget owner must not contain tab or newline: {quoted}"]
  else
    let budget : CacheBudget := ⟨maxBytes, owner, host.pid⟩
    .ok (some budget, (world.withLocked host (budget.reset 0)).2)

/-- The files of a cache are opened and the persisted state is recovered. -/
def openCache (cfg : FileCacheConfig) (host : Host) (devSize : Nat) (currentEtag : Option String)
    (disk : Disk Inner) (budgetFile : List Entry) (clock : Nat) :
    Except Error (FileCacheBackend × World Inner × Nat) :=
  let pageSize := cfg.pageSize
  if valid : 0 < pageSize ∧ pageSize % 512 = 0 then
    if devSize = 0 then .error ["dev_size must be greater than 0"]
    else
      let numPages := (devSize + pageSize - 1) / pageSize
      let blank : CacheState := ⟨devSize, numPages, [], [], List.replicate numPages 0, 0, .empty⟩
      let start : World Inner := ⟨blank, disk, budgetFile, clock, []⟩
      let sized := start.issue .openCache (.data (.setLen devSize))
      let loaded := loadOrInitMeta pageSize devSize numPages sized
      let dirty := loaded.1.2.1
      let validated := validateEtag numPages currentEtag loaded.1.1 dirty loaded.2
      match openBudget host cfg.name cfg.maxBytes validated.2 with
      | .error error => .error error
      | .ok (budget, registered) =>
          let cache : FileCacheBackend := ⟨pageSize, valid.1, valid.2, budget, host⟩
          let opened := { registered with
            state := { registered.state with present := validated.1, dirty } }
          let seeded := match budget with
            | none => opened
            | some budget =>
                let counted := cache.seedLru (List.range numPages) opened
                (counted.withLocked host (budget.reset counted.state.residentBytes)).2
          .ok (cache, seeded, loaded.1.2.2)
  else .error [s!"page_size ({pageSize}) must be a non-zero multiple of 512"]

/-- A new device discards every cached and dirty page. -/
def reinit (cache : FileCacheBackend) (size : Nat) (world : World Inner) : World Inner :=
  let numPages := (size + cache.pageSize - 1) / cache.pageSize
  let blank := blankBitmap numPages
  let sized := world.issue .create (.data (.setLen size))
  let state : CacheState := ⟨size, numPages, blank, blank, List.replicate numPages 0, 0, .empty⟩
  let written := writeFullMeta cache.pageSize size numPages blank blank { sized with state }
  let accounted := match cache.budget with
    | none => written
    | some budget => (written.withLocked cache.host (budget.reset 0)).2
  accounted.issue .create (.etag none)

def create [BlobBackend Inner] (cache : FileCacheBackend) (size : Nat) : Action (World Inner) Unit :=
  do
    Action.ensure (size ≠ 0 ∧ size % 512 = 0)
      [s!"size must be a non-zero multiple of 512 bytes, got {size}"]
    World.callInner .create (BlobBackend.create size)
    .modify (cache.reinit size)

end FileCacheBackend
end UblkAzblob

import UblkAzblob.Construction.FileCacheSession

namespace UblkAzblob
open Storage FileCacheBackend

/-- A call in flight is somewhere in its body; a phase that holds the lock says so in `Sys.holder`. -/
inductive Phase where
  | waiting
  | updating (rest : List Chunk) (fetched : Option (List UInt8))
  | reading (rest : List Chunk) (result : List UInt8)
  | prefetching (rest : List Nat) (fetched : Option (List UInt8))
  | flushing (tasks : List (Nat × FlushPhase)) (failed : Option Error)
  | syncing (flushedAny : Bool)
  | tagging
  | warming (tasks : List (Nat × WarmPhase × Nat))
  | returned (result : Except Error (List UInt8))

structure Job where
  request : Request
  phase : Phase

/-- A flush is in flight from its snapshot of the dirty pages until it returns. -/
def Job.inFlight : Job → Bool
  | ⟨_, .flushing _ _⟩ => true
  | ⟨_, .syncing _⟩ => true
  | ⟨_, .tagging⟩ => true
  | _ => false

/-- The system runs any number of calls on one cache; the fields after `jobs` are history. -/
structure Sys (Inner : Type) where
  world : World Inner
  holder : Option Nat
  jobs : List Job
  /-- The bytes that a page has at each of its generations. -/
  versions : Nat → Nat → Store
  /-- The newest generation of a page whose upload has been performed. -/
  newest : Nat → Nat
  /-- The number of uploads of a page that have been performed. -/
  landings : Nat → Nat
  /-- The writes and clears that returned, in the order of their lock sections, and whether with success. -/
  history : List (Nat × List UInt8 × Bool)

/-- A call arrives, or a call in flight takes its next step; a step of a flush or a warm-up is one of
the task of the named page. -/
inductive Event where
  | call (request : Request)
  | turn (job page : Nat)
  deriving DecidableEq, Repr

namespace Request

/-- The range checks of a call: the alignment message, the name in the bounds message, and the range. -/
def guards : Request → Option (String × String × Nat × Nat)
  | .read offset len =>
      some (s!"read: offset ({offset}) and len ({len}) must be 512-byte aligned", "read", offset, len)
  | .write offset data =>
      let len := data.length
      some (s!"write: offset ({offset}) and data.len() ({len}) must be 512-byte aligned", "write", offset, len)
  | .clear offset len =>
      some (s!"clear: offset ({offset}) and len ({len}) must be 512-byte aligned", "clear", offset, len)
  | .prefetch offset len =>
      some (s!"prefetch: offset ({offset}) and len ({len}) must be 512-byte aligned", "prefetch", offset, len)
  | .warmup _ _ => none
  | .flush => none

/-- The bytes that a write or a clear gives to its range. -/
def payload : Request → Nat × List UInt8
  | .write offset data => (offset, data)
  | .clear offset len => (offset, List.replicate len 0)
  | _ => (0, [])

end Request

namespace Sys

variable {Inner : Type}

def enter (sys : Sys Inner) (id : Nat) (request : Request) (phase : Phase) : Sys Inner :=
  { sys with jobs := sys.jobs.set id ⟨request, phase⟩ }

/-- A call that returns releases the lock if it holds it. -/
def finish (sys : Sys Inner) (id : Nat) (request : Request) (result : Except Error (List UInt8)) :
    Sys Inner :=
  { sys with
    holder := if sys.holder = some id then none else sys.holder
    jobs := sys.jobs.set id ⟨request, .returned result⟩ }

/-- A write or clear that held the lock enters the history when it returns. -/
def finishUpdate (sys : Sys Inner) (id : Nat) (request : Request) (result : Except Error Unit) :
    Sys Inner :=
  let ok := match result with
    | .ok _ => true
    | .error _ => false
  let finished := sys.finish id request (result.map fun _ => [])
  { finished with history := sys.history ++ [(request.payload.1, request.payload.2, ok)] }

end Sys

namespace FileCacheBackend

variable {Inner : Type} [BlobBackend Inner]

/-- The fetch of `ensurePage`, which runs with the lock held. -/
def fetchPage (cache : FileCacheBackend) (page : Nat) : Action (World Inner) (List UInt8) :=
  fun world =>
    let pageLen := min cache.pageSize (world.state.devSize - page * cache.pageSize)
    fetch page (page * cache.pageSize) pageLen s!"load page {page} from inner backend" (fun got =>
      s!"inner backend returned {got} bytes for page {page} (expected {pageLen})") world

/-- A call passes its checks, and takes the lock where its body does. -/
def beginCall (cache : FileCacheBackend) (id : Nat) (request : Request) (sys : Sys Inner) :
    Option (Sys Inner) :=
  match request.guards with
  | some (message, op, offset, len) =>
      if len = 0 then some (sys.finish id request (.ok []))
      else if ¬ (offset % 512 = 0 ∧ len % 512 = 0) then some (sys.finish id request (.error [message]))
      else if sys.holder.isSome then none
      else match (checkInBounds op offset len sys.world.state.devSize sys.world).1 with
        | .error error => some (sys.finish id request (.error error))
        | .ok _ =>
            let locked := { sys with holder := some id }
            match request with
            | .read _ _ => some (locked.enter id request
                (.reading (chunks cache.pageSize offset len) []))
            | .prefetch _ _ =>
                let first := offset / cache.pageSize
                let beyond := (offset + len + cache.pageSize - 1) / cache.pageSize
                some (sys.enter id request (.prefetching (List.range' first (beyond - first)) none))
            | _ => some (locked.enter id request
                (.updating (chunks cache.pageSize offset len) none))
  | none => match request with
    | .warmup devSize limitBytes =>
        let limit := min limitBytes devSize
        if limit = 0 then some (sys.finish id request (.ok []))
        else
          let pageCount := (limit + cache.pageSize - 1) / cache.pageSize
          let queried := World.callInner .dataRanges BlobBackend.dataRanges sys.world
          let wanted (page : Nat) : Bool := match queried.1 with
            | .ok (some ranges) => rangeIntersects ranges (page * cache.pageSize)
                (min cache.pageSize (devSize - page * cache.pageSize))
            | _ => true
          let pages := (List.range pageCount).filter wanted
          some ({ sys with world := queried.2 }.enter id request
            (.warming (pages.map fun page => (page, .checking, 0))))
    | _ =>
        if sys.holder.isSome then none
        else some (sys.enter id request
          (.flushing ((dirtyPages sys.world.state).map fun page => (page, .waiting)) none))

/-- A chunk is written into its page, which gets a new version. -/
def dirtyChunk (cache : FileCacheBackend) (data : List UInt8) (chunk : Chunk) (sys : Sys Inner) :
    Sys Inner :=
  let payload := (data.drop chunk.pos).take chunk.len
  let generation := sys.world.generation chunk.page
  { sys with
    world := cache.dirtyPageRegion chunk.page chunk.pageOffset payload sys.world
    versions := Function.update sys.versions chunk.page (Function.update (sys.versions chunk.page)
      (generation + 1) (splice (sys.versions chunk.page generation)
        (chunk.page * cache.pageSize + chunk.pageOffset) payload)) }

/-- The next step of a write or clear that holds the lock. -/
def updateTurn (cache : FileCacheBackend) (id : Nat) (request : Request) (chunk : Chunk)
    (rest : List Chunk) (fetched : Option (List UInt8)) (sys : Sys Inner) : Sys Inner :=
  let data := request.payload.2
  let advance (sys : Sys Inner) : Sys Inner :=
    if rest = [] then (cache.dirtyChunk data chunk sys).finishUpdate id request (.ok ())
    else (cache.dirtyChunk data chunk sys).enter id request (.updating rest none)
  match fetched with
  | some bytes =>
      let stored := cache.storeCleanPage chunk.page (chunk.page * cache.pageSize) bytes sys.world
      advance { sys with world := stored }
  | none =>
      if chunk.len ≠ cache.pageSize ∧ bitGet sys.world.state.present chunk.page = false then
        match cache.fetchPage chunk.page sys.world with
        | (.ok bytes, world) =>
            { sys with world }.enter id request (.updating (chunk :: rest) (some bytes))
        | (.error error, world) => { sys with world }.finishUpdate id request (.error error)
      else advance sys

def readTurn (cache : FileCacheBackend) (id : Nat) (request : Request) (offset : Nat) (chunk : Chunk)
    (rest : List Chunk) (result : List UInt8) (sys : Sys Inner) : Sys Inner :=
  match cache.readChunk offset chunk sys.world with
  | (.ok bytes, world) =>
      if rest = [] then { sys with world }.finish id request (.ok (result ++ bytes))
      else { sys with world }.enter id request (.reading rest (result ++ bytes))
  | (.error error, world) => { sys with world }.finish id request (.error error)

/-- A prefetch takes the lock for one page at a time. -/
def prefetchTurn (cache : FileCacheBackend) (id : Nat) (request : Request) (page : Nat)
    (rest : List Nat) (fetched : Option (List UInt8)) (sys : Sys Inner) : Option (Sys Inner) :=
  match fetched with
  | some bytes =>
      let stored := cache.storeCleanPage page (page * cache.pageSize) bytes sys.world
      some ({ sys with world := stored, holder := none }.enter id request (.prefetching rest none))
  | none =>
      if sys.holder.isSome then none
      else if bitGet sys.world.state.present page then
        some (sys.enter id request (.prefetching rest none))
      else match cache.fetchPage page sys.world with
        | (.ok bytes, world) =>
            some ({ sys with world, holder := some id }.enter id request
              (.prefetching (page :: rest) (some bytes)))
        | (.error error, world) => some ({ sys with world }.finish id request (.error error))

/-- The upload of a flush task needs no lock, its other steps do. -/
def FlushPhase.locks : FlushPhase → Bool
  | .waiting => true
  | .uploading _ _ _ => false
  | .uploaded _ => true
  | .done _ => false

def FlushPhase.isDone : FlushPhase → Bool
  | .done _ => true
  | _ => false

/-- A performed upload enters the history of its page. -/
def noteLanding (page : Nat) (phase : FlushPhase) (sys : Sys Inner) : Sys Inner :=
  match phase with
  | .uploading _ generation _ => { sys with
      newest := Function.update sys.newest page (max (sys.newest page) generation)
      landings := Function.update sys.landings page (sys.landings page + 1) }
  | _ => sys

/-- The next step of one page task of a flush. -/
def flushTurn (cache : FileCacheBackend) (id : Nat) (request : Request) (page : Nat)
    (tasks : List (Nat × FlushPhase)) (failed : Option Error) (sys : Sys Inner) : Option (Sys Inner) :=
  if tasks.all fun task => task.2.isDone then
    match failed with
    | some error => some (sys.finish id request (.error error))
    | none => some (sys.enter id request (.syncing (tasks ≠ [])))
  else match tasks.lookup page with
    | none => none
    | some phase =>
        if phase.locks && sys.holder.isSome then none
        else
          let moved := advance cache.flushCollect page tasks (sys.world, failed)
          some ({ noteLanding page phase sys with world := moved.2.1 }.enter id request
            (.flushing moved.1 moved.2.2))

def syncTurn (id : Nat) (request : Request) (flushedAny : Bool) (sys : Sys Inner) : Sys Inner :=
  match World.callInner .innerFlush BlobBackend.flush sys.world with
  | (.ok _, world) =>
      if flushedAny then { sys with world }.enter id request .tagging
      else { sys with world }.finish id request (.ok [])
  | (.error error, world) => { sys with world }.finish id request (.error error)

def WarmPhase.locks : WarmPhase → Bool
  | .checking => true
  | .fetching _ _ => false
  | .storing _ _ _ => true
  | .done _ => false

def WarmPhase.isDone : WarmPhase → Bool
  | .done _ => true
  | _ => false

/-- A warm-up task remembers the landings of its page at its fetch. -/
def warmCollect (cache : FileCacheBackend) (landings : Nat → Nat) (page : Nat) (task : WarmPhase × Nat)
    (world : World Inner) : (WarmPhase × Nat) × World Inner :=
  let next := cache.warmOnePage page task.1 world
  let seen := match task.1 with
    | .fetching _ _ => landings page
    | _ => task.2
  ((next.1, seen), next.2)

/-- The next step of one page task of a warm-up. -/
def warmTurn (cache : FileCacheBackend) (id : Nat) (request : Request) (page : Nat)
    (tasks : List (Nat × WarmPhase × Nat)) (sys : Sys Inner) : Option (Sys Inner) :=
  if tasks.all fun task => task.2.1.isDone then some (sys.finish id request (.ok []))
  else match tasks.lookup page with
    | none => none
    | some task =>
        if task.1.locks && sys.holder.isSome then none
        else
          let moved := advance (cache.warmCollect sys.landings) page tasks sys.world
          some ({ sys with world := moved.2 }.enter id request (.warming moved.1))

/-- One step of the system, where it is enabled. -/
def step (cache : FileCacheBackend) (sys : Sys Inner) : Event → Option (Sys Inner)
  | .call request => some { sys with jobs := sys.jobs ++ [⟨request, .waiting⟩] }
  | .turn id page => match sys.jobs[id]? with
    | none => none
    | some ⟨request, phase⟩ => match phase with
      | .waiting => cache.beginCall id request sys
      | .updating [] _ => some (sys.finishUpdate id request (.ok ()))
      | .updating (chunk :: rest) fetched => some (cache.updateTurn id request chunk rest fetched sys)
      | .reading [] result => some (sys.finish id request (.ok result))
      | .reading (chunk :: rest) result => match request with
        | .read offset _ => some (cache.readTurn id request offset chunk rest result sys)
        | _ => none
      | .prefetching [] _ => some (sys.finish id request (.ok []))
      | .prefetching (page :: rest) fetched => cache.prefetchTurn id request page rest fetched sys
      | .flushing tasks failed => cache.flushTurn id request page tasks failed sys
      | .syncing flushedAny => some (syncTurn id request flushedAny sys)
      | .tagging => some ({ sys with world := (recordEtag sys.world).2 }.finish id request (.ok []))
      | .warming tasks => cache.warmTurn id request page tasks sys
      | .returned _ => none

/-- The uploads of one page are performed in the order in which its bytes were copied. -/
def inOrder (sys : Sys Inner) : Event → Bool
  | .call _ => true
  | .turn id page => match sys.jobs[id]? with
    | some ⟨_, .flushing tasks _⟩ => match tasks.lookup page with
      | some (.uploading _ generation _) => sys.newest page ≤ generation
      | _ => true
    | _ => true

/-- A warm-up stores a page only when no upload of the page was performed since its fetch. -/
def freshStore (sys : Sys Inner) : Event → Bool
  | .call _ => true
  | .turn id page => match sys.jobs[id]? with
    | some ⟨_, .warming tasks⟩ => match tasks.lookup page with
      | some (.storing _ _ _, seen) => bitGet sys.world.state.present page || sys.landings page = seen
      | _ => true
    | _ => true

/-- The 64-bit generation of a page does not wrap when a chunk is written into the page. -/
def countsOn (sys : Sys Inner) : Event → Bool
  | .call _ => true
  | .turn id _ => match sys.jobs[id]? with
    | some ⟨_, .updating (chunk :: _) _⟩ => sys.world.generation chunk.page + 1 < 2 ^ 64
    | _ => true

def noWarmup : Event → Bool
  | .call (.warmup _ _) => false
  | _ => true

/-- A flush begins only when no other one is in flight. -/
def oneFlush (sys : Sys Inner) : Event → Bool
  | .call _ => true
  | .turn id _ => match sys.jobs[id]? with
    | some ⟨.flush, .waiting⟩ => sys.jobs.all fun job => !job.inFlight
    | _ => true

/-- A cache that has just been opened has no call in flight. -/
def launch (content : Store) (world : World Inner) : Sys Inner where
  world := world
  holder := none
  jobs := []
  versions _ _ := content
  newest _ := 0
  landings _ := 0
  history := []

end FileCacheBackend
end UblkAzblob

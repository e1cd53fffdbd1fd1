import UblkAzblob.Construction.FileCachePages

namespace UblkAzblob
open Storage

section Index

/-- One line of the shared index names a clean page in the data file of its owner. -/
structure IndexEntry where
  blobIdentity : String
  pageIdx : Nat
  owner : String
  pid : Nat
  len : Nat
  deriving DecidableEq, Repr

/-- A shared directory of clean pages, as one cache opened it. -/
structure CacheIndex where
  owner : String
  blobIdentity : String
  pid : Nat
  pageSize : Nat

namespace CacheIndex

def owns (index : CacheIndex) (entry : IndexEntry) : Bool := entry.owner = index.owner ∧ entry.pid = index.pid

/-- The own entry of a page. -/
def names (index : CacheIndex) (page : Nat) (entry : IndexEntry) : Bool :=
  entry.owner = index.owner ∧ entry.pid = index.pid ∧ entry.blobIdentity = index.blobIdentity ∧ entry.pageIdx = page

/-- The own entry of a page is updated in place or appended. -/
def upsert (index : CacheIndex) (page len : Nat) : List IndexEntry → List IndexEntry
  | [] => [⟨index.blobIdentity, page, index.owner, index.pid, len⟩]
  | entry :: rest =>
      if index.names page entry then { entry with len } :: rest else entry :: index.upsert page len rest

def publish (index : CacheIndex) (page len : Nat) (entries : List IndexEntry) : List IndexEntry :=
  index.upsert page len entries

def unpublish (index : CacheIndex) (page : Nat) (entries : List IndexEntry) : List IndexEntry :=
  entries.filter fun entry => !index.names page entry

def unpublishAll (index : CacheIndex) (entries : List IndexEntry) : List IndexEntry :=
  entries.filter fun entry => !index.owns entry

def pruneDead (entries : List IndexEntry) (selfPid : Nat) (alive : Nat → Bool) : List IndexEntry :=
  entries.filter fun entry => entry.pid = selfPid ∨ alive entry.pid

/-- The first entry of another cache for the page, with the length that is asked for. -/
def findPeer (index : CacheIndex) (page len : Nat) (entries : List IndexEntry) : Option IndexEntry :=
  entries.find? fun entry =>
    entry.blobIdentity = index.blobIdentity ∧ entry.pageIdx = page ∧ ¬ index.owns entry ∧ entry.len = len

/-- A page is copied from the data file of a peer; a file that is missing or too short supplies nothing. -/
def readPeerPage (index : CacheIndex) (files : String → Option File) (page len : Nat) (entries : List IndexEntry) :
    Option (List UInt8) :=
  (index.findPeer page len entries).bind fun peer => (files peer.owner).bind fun file =>
    (file.readExactAt (page * index.pageSize) len).toOption

end CacheIndex
end Index

section Sharing

/-- Other caches may rewrite the shared index before each locked access. -/
structure PageSharing where
  index : CacheIndex
  interfere : Nat → List IndexEntry → List IndexEntry
  pidAlive : Nat → Nat → Bool

/-- A punch is recorded with the index as it stood at that moment. -/
structure Punch where
  page : Nat
  done : Bool
  entries : List IndexEntry

/-- The world of a cache together with the shared index. -/
structure SharedWorld (Inner : Type) where
  world : World Inner
  entries : List IndexEntry
  indexClock : Nat
  punches : List Punch

namespace SharedWorld

variable {Inner : Type}

/-- The index is read and rewritten under its lock, after dead owners are pruned. -/
def withIndex (sharing : Option PageSharing) (update : CacheIndex → List IndexEntry → List IndexEntry)
    (shared : SharedWorld Inner) : SharedWorld Inner :=
  match sharing with
  | none => shared
  | some peers =>
      let entries := CacheIndex.pruneDead (peers.interfere shared.indexClock shared.entries) peers.index.pid
        (peers.pidAlive shared.indexClock)
      { shared with entries := update peers.index entries, indexClock := shared.indexClock + 1 }

end SharedWorld

namespace FileCacheBackend

variable {Inner : Type}

/-- A page is withdrawn before it is evicted, and published again when its punch fails. -/
def evictShared (cache : FileCacheBackend) (sharing : Option PageSharing) (budget : CacheBudget) (page : Nat)
    (shared : SharedWorld Inner) : Bool × SharedWorld Inner :=
  let len := cache.pageLen shared.world.state page
  let withdrawn := shared.withIndex sharing fun index => index.unpublish page
  let evicted := cache.evictPage budget page withdrawn.world
  let punched := { withdrawn with
    world := evicted.2
    punches := withdrawn.punches ++ [⟨page, evicted.1, withdrawn.entries⟩] }
  if evicted.1 then (true, punched)
  else (false, punched.withIndex sharing fun index => index.publish page len)

def evictSharedLoop (cache : FileCacheBackend) (sharing : Option PageSharing) (budget : CacheBudget)
    (protect : Option Nat) : Nat → Nat → SharedWorld Inner → SharedWorld Inner
  | 0, _, shared => shared
  | fuel + 1, excess, shared =>
      if excess = 0 then shared
      else match shared.world.state.lru.popLru protect with
        | (none, _) => shared
        | (some page, lru) =>
            let popped := { shared with world := { shared.world with state := { shared.world.state with lru } } }
            let evicted := cache.evictShared sharing budget page popped
            if evicted.1 then
              evictSharedLoop cache sharing budget protect fuel
                (excess - cache.pageLen shared.world.state page) evicted.2
            else evicted.2

/-- The eviction of clean pages, with the index that they are shared through. -/
def evictCleanShared (cache : FileCacheBackend) (sharing : Option PageSharing) (excess : Nat) (protect : Option Nat)
    (shared : SharedWorld Inner) : SharedWorld Inner :=
  match cache.budget with
  | none => shared
  | some budget =>
      if cache.host.punchHoleSupported then
        evictSharedLoop cache sharing budget protect shared.world.state.lru.evictable.entries.length excess shared
      else shared

end FileCacheBackend
end Sharing
end UblkAzblob

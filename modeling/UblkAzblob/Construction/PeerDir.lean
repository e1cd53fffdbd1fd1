import UblkAzblob.Construction.CacheIndex
import UblkAzblob.Construction.PageBlob
import UblkAzblob.Foundation.Interleaving

namespace UblkAzblob
open Storage

/-- A cache that shares its clean pages, with the pages it has fetched but not stored yet. -/
structure PeerCache where
  index : CacheIndex
  present : Nat → Bool
  pending : List (Nat × List UInt8)
  file : File

namespace PeerCache

def pageLen (cache : PeerCache) (devSize page : Nat) : Nat :=
  min cache.index.pageSize (devSize - page * cache.index.pageSize)

/-- A page of zeros is kept as a hole. -/
def storeCleanPage (cache : PeerCache) (page : Nat) (data : List UInt8) : PeerCache :=
  let offset := page * cache.index.pageSize
  let op : FileOp := if data.all (· = 0) then .punch offset data.length else .write offset data
  { cache with present := Function.update cache.present page true, file := op.apply cache.file }

def evictPage (cache : PeerCache) (page len : Nat) : PeerCache :=
  { cache with
    present := Function.update cache.present page false
    file := (FileOp.punch (page * cache.index.pageSize) len).apply cache.file }

end PeerCache

/-- The caches of one directory and the index that they share. -/
structure PeerDir where
  caches : List PeerCache
  entries : List IndexEntry

/-- The caches move one at a time, and each access to the index finds some owners alive. -/
inductive PeerEvent where
  | fetch (cache page : Nat) (alive : Nat → Bool)
  | store (cache slot : Nat)
  | publish (cache page : Nat) (alive : Nat → Bool)
  | evict (cache page : Nat) (alive : Nat → Bool)
  | close (cache : Nat) (alive : Nat → Bool)

namespace PeerDir

/-- The data file of an owner. -/
def files (dir : PeerDir) (owner : String) : Option File :=
  (dir.caches.find? fun cache => cache.index.owner = owner).map PeerCache.file

/-- The copy of a page that a peer supplies, if there is one. -/
def tryPeerPage (dir : PeerDir) (cache : PeerCache) (page len : Nat) (alive : Nat → Bool) : Option (List UInt8) :=
  cache.index.readPeerPage dir.files page len (CacheIndex.pruneDead dir.entries cache.index.pid alive)

/-- A page comes from a peer or from the blob; every identity stands for one blob. -/
def fetchPage (images : String → PageBlob) (dir : PeerDir) (cache : PeerCache) (page : Nat) (alive : Nat → Bool) :
    List UInt8 :=
  let image := images cache.index.blobIdentity
  let len := cache.pageLen image.size page
  (dir.tryPeerPage cache page len alive).getD (slice image.data (page * cache.index.pageSize) len)

def step (images : String → PageBlob) (dir : PeerDir) : PeerEvent → Option PeerDir
  | .fetch number page alive => dir.caches[number]?.bind fun cache =>
      if cache.present page ∨ cache.pageLen (images cache.index.blobIdentity).size page = 0 then none
      else
        let fetched := { cache with pending := (page, dir.fetchPage images cache page alive) :: cache.pending }
        some { dir with caches := dir.caches.set number fetched }
  | .store number slot => dir.caches[number]?.bind fun cache => cache.pending[slot]?.map fun fetched =>
      let taken := { cache with pending := cache.pending.eraseIdx slot }
      let stored := if cache.present fetched.1 then taken else taken.storeCleanPage fetched.1 fetched.2
      { dir with caches := dir.caches.set number stored }
  | .publish number page alive => dir.caches[number]?.bind fun cache =>
      if cache.present page then
        let len := cache.pageLen (images cache.index.blobIdentity).size page
        some { dir with
          entries := cache.index.publish page len (CacheIndex.pruneDead dir.entries cache.index.pid alive) }
      else none
  | .evict number page alive => dir.caches[number]?.bind fun cache =>
      if cache.present page then
        let len := cache.pageLen (images cache.index.blobIdentity).size page
        some ⟨dir.caches.set number (cache.evictPage page len),
          cache.index.unpublish page (CacheIndex.pruneDead dir.entries cache.index.pid alive)⟩
      else none
  | .close number alive => dir.caches[number]?.map fun cache =>
      { dir with
        entries := cache.index.unpublishAll (CacheIndex.pruneDead dir.entries cache.index.pid alive) }

end PeerDir
end UblkAzblob

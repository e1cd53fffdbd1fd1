import UblkAzblob.Construction.FileCacheSession

namespace UblkAzblob
open Storage

/-- A mount serves one blob, or one snapshot of it. -/
structure Location where
  account : String
  container : String
  blob : String
  snapshot : Option String
  deriving DecidableEq

/-- Every character outside the alphabet of cache file names becomes an underscore. -/
def sanitizeCacheChar (char : Char) : Char :=
  if char.isAlphanum || char = '-' || char = '_' then char else '_'

def sanitizeCacheComponent (text : String) : String := String.ofList (text.toList.map sanitizeCacheChar)

def cacheFileName (container blob : String) : String := sanitizeCacheComponent s!"{container}-{blob}"

namespace Location

/-- The base name of the cache files when no instance name is configured. -/
def defaultCacheName (location : Location) : String := cacheFileName location.container location.blob

def readOnly (location : Location) : Bool := location.snapshot.isSome

end Location

/-- The files of one cache. -/
structure CacheFiles where
  data : File
  metadata : File
  etag : Option String

def CacheFiles.empty : CacheFiles := ⟨.empty, .empty, none⟩

/-- The files of one cache directory by their base name, and the blobs by their location. -/
structure CacheDir (Inner : Type) where
  files : String → CacheFiles
  blobs : Location → Inner

structure RunOptions where
  cachePageSize : Nat
  cacheMaxBytes : Nat
  host : Host
  budgetFile : List Entry
  clock : Nat

def Request.mutates : Request → Bool
  | .write _ _ => true
  | .clear _ _ => true
  | _ => false

namespace CacheDir

variable {Inner : Type}

/-- A cache leaves files under a name and a blob at a location. -/
def leave (dir : CacheDir Inner) (name : String) (location : Location) (files : CacheFiles) (blob : Inner) :
    CacheDir Inner :=
  ⟨Function.update dir.files name files, Function.update dir.blobs location blob⟩

variable [BlobBackend Inner]

/-- The answers of a mounted cache; a read-only device refuses every mutation before the cache sees it. -/
def serve (cache : FileCacheBackend) (readOnly : Bool) :
    List Request → World Inner → List (Except Error (List UInt8)) × World Inner
  | [], world => ([], world)
  | request :: rest, world =>
      if readOnly && request.mutates then serve cache readOnly rest world
      else
        let answer := cache.perform request world
        let others := serve cache readOnly rest answer.2
        (answer.1 :: others.1, others.2)

/-- A mount opens the cache of its location, flushes the dirty pages it recovered and serves its requests. -/
def mounted (options : RunOptions) (location : Location) (requests : List Request) (files : CacheFiles)
    (blob : Inner) : Except Error (Nat × List (Except Error (List UInt8))) × CacheFiles × Inner :=
  let sized := BlobBackend.size blob
  match sized.1 with
  | .error error => (.error ("get blob size" :: error), files, sized.2)
  | .ok size =>
      let tagged := BlobBackend.etag sized.2
      let currentEtag := match tagged.1 with
        | .ok etag => etag
        | .error _ => none
      let config : FileCacheConfig := ⟨location.defaultCacheName, options.cachePageSize, options.cacheMaxBytes⟩
      let disk : Disk Inner := ⟨files.data, files.metadata, files.etag, tagged.2⟩
      match FileCacheBackend.openCache config options.host size currentEtag disk options.budgetFile options.clock with
      | .error error => (.error ("open local-disk cache" :: error), files, tagged.2)
      | .ok (cache, world, recovered) =>
          let flushed := if 0 < recovered then cache.flush world else (.ok (), world)
          let close (world : World Inner) : CacheFiles × Inner :=
            (⟨world.disk.data, world.disk.metadata, world.disk.etag⟩, world.disk.inner)
          match flushed.1 with
          | .error error => (.error ("flush recovered dirty cache pages" :: error), close flushed.2)
          | .ok () =>
              let served := serve cache location.readOnly requests flushed.2
              (.ok (recovered, served.1), close served.2)

/-- A `run` with the default instance name finds its files by the name that its location gives. -/
def run (options : RunOptions) (location : Location) (requests : List Request) :
    Action (CacheDir Inner) (Nat × List (Except Error (List UInt8))) := fun dir =>
  let name := location.defaultCacheName
  let result := mounted options location requests (dir.files name) (dir.blobs location)
  (result.1, dir.leave name location result.2.1 result.2.2)

end CacheDir
end UblkAzblob

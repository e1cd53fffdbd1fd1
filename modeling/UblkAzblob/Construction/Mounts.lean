import UblkAzblob.Construction.FileCacheSession

namespace UblkAzblob
open Storage

/-- The revision of a blob grows with every mutation, and its token names the revision. -/
class VersionedBlob (Inner : Type) where
  revision : Inner → Nat
  token : Nat → String
  length : Inner → Nat

/-- One cache directory and its blob, between mounts or while one mount is running. -/
structure MountSys (Inner : Type) where
  disk : Disk Inner
  running : Option (FileCacheBackend × World Inner)
  /-- The clean contents of the page date from before a change of the blob by another client. -/
  stale : Nat → Bool

/-- Other clients change the blob between mounts, and a mount serves its calls one at a time. -/
inductive MountEvent (Inner : Type) where
  | modify (after : Inner)
  | mount (cfg : FileCacheConfig) (host : Host) (withToken : Bool) (budgetFile : List Entry) (clock : Nat)
  | serve (request : Request)
  | unmount

namespace MountSys

variable {Inner : Type} [BlobBackend Inner] [VersionedBlob Inner]

open VersionedBlob

def start (blob : Inner) : MountSys Inner := ⟨⟨.empty, .empty, none, blob⟩, none, fun _ => false⟩

/-- The token of the blob is handed to `open`, unless it could not be read. -/
def currentEtag (sys : MountSys Inner) (withToken : Bool) : Option String :=
  if withToken then some (token Inner (revision sys.disk.inner)) else none

def isClean (world : World Inner) (page : Nat) : Bool :=
  bitGet world.state.present page && !bitGet world.state.dirty page

/-- The call stores the fetched contents of the page in the data file. -/
def stores (page : Nat) (call : Call Inner) : Bool :=
  match call.site, call.effect with
  | .storeCleanPage own, .data _ => own == page
  | _, _ => false

/-- A page is not stale any more once it was dirty, or was fetched again. -/
def staleAfter (stale : Nat → Bool) (before after : World Inner) (page : Nat) : Bool :=
  stale page && isClean before page && isClean after page &&
    !(after.calls.drop before.calls.length).any (stores page)

def step (sys : MountSys Inner) (event : MountEvent Inner) : Option (MountSys Inner) :=
  match event, sys.running with
  | .modify after, none =>
      if revision sys.disk.inner < revision after ∧ length after % 512 = 0 ∧ length after < 2 ^ 64 then
        some { sys with disk := { sys.disk with inner := after }, stale := fun _ => true }
      else none
  | .mount cfg host withToken budgetFile clock, none =>
      if cfg.pageSize < 2 ^ 64 then
        match FileCacheBackend.openCache cfg host (length sys.disk.inner) (sys.currentEtag withToken) sys.disk
          budgetFile clock with
        | .error _ => none
        | .ok (cache, world, _) =>
            some { sys with
              running := some (cache, world)
              stale := fun page => !withToken && sys.stale page }
      else none
  | .serve request, some (cache, world) =>
      let after := (cache.perform request world).2
      some { sys with running := some (cache, after), stale := staleAfter sys.stale world after }
  | .unmount, some (_, world) => some { sys with disk := world.disk, running := none }
  | _, _ => none

/-- A flush with something to upload finds no stale clean page. -/
def uploadsChecked (sys : MountSys Inner) : MountEvent Inner → Bool
  | .serve .flush => match sys.running with
    | none => true
    | some (_, world) => FileCacheBackend.dirtyPages world.state = [] ||
        (List.range world.state.numPages).all fun page => !(sys.stale page && isClean world page)
  | _ => true

end MountSys
end UblkAzblob

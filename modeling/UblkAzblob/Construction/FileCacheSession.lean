import UblkAzblob.Construction.FileCacheOpen

namespace UblkAzblob
open Storage

/-- These are the data calls that a cache serves. -/
inductive Request where
  | read (offset len : Nat)
  | write (offset : Nat) (data : List UInt8)
  | clear (offset len : Nat)
  | prefetch (offset len : Nat)
  | warmup (devSize limitBytes : Nat)
  | flush
  deriving DecidableEq, Repr

namespace FileCacheBackend

variable {Inner : Type} [BlobBackend Inner]

/-- Only a read returns bytes. -/
def perform (cache : FileCacheBackend) : Request → Action (World Inner) (List UInt8)
  | .read offset len => cache.read offset len
  | .write offset data => do cache.write offset data; pure []
  | .clear offset len => do cache.clear offset len; pure []
  | .prefetch offset len => do cache.prefetch offset len; pure []
  | .warmup devSize limitBytes => do cache.warmup devSize limitBytes; pure []
  | .flush => do cache.flush; pure []

/-- A session performs its calls one at a time, whatever they return. -/
def session (cache : FileCacheBackend) (requests : List Request) (world : World Inner) : World Inner :=
  requests.foldl (fun world request => (cache.perform request world).2) world

/-- An operation serves a call or creates the device anew. -/
inductive Operation where
  | serve (request : Request)
  | create (size : UInt64)

def operate (cache : FileCacheBackend) : Operation → World Inner → World Inner
  | .serve request, world => (cache.perform request world).2
  | .create size, world => (cache.create size.toNat world).2

/-- A run performs its operations one at a time, whatever they return. -/
def run (cache : FileCacheBackend) (operations : List Operation) (world : World Inner) : World Inner :=
  operations.foldl (fun world operation => cache.operate operation world) world

end FileCacheBackend
end UblkAzblob

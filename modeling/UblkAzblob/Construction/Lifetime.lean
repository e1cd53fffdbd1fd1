import UblkAzblob.Construction.Stack

namespace UblkAzblob
open Storage

/-- One run of the program on a volume: how its layers are configured, and the calls that it serves. -/
structure Session where
  cfg : FileCacheConfig
  host : Host
  budgetFile : List Entry
  clock : Nat
  buffer : BufferedBackend
  turn : Nat
  requests : List BlobRequest

namespace Session

variable {Inner : Type} [BlobBackend Inner]

/-- The cache is brought up on the files, and the buffer starts empty. -/
def start (session : Session) (device : Nat) (disk : Disk Inner) : Except Error (BufferWorld (CachedDevice Inner)) :=
  (CachedDevice.bringUp session.cfg session.host device disk session.budgetFile session.clock).map fun cached =>
    BufferedBackend.start cached session.turn

def serve (session : Session) (world : BufferWorld (CachedDevice Inner)) : BufferWorld (CachedDevice Inner) :=
  session.buffer.session session.requests world

end Session
end UblkAzblob

import UblkAzblob.Construction.Coordinator
import UblkAzblob.Construction.RenewLoop

namespace UblkAzblob
open Storage

inductive LockError where
  | held
  | other (error : Error)
  deriving DecidableEq

/-- An implementation of the blob lock answers each call from the state of the outside world. -/
structure BlobLock (World : Type) where
  acquire : Nat → World → Except LockError String × World
  renew : String → World → Except Error Unit × World
  release : String → World → Except Error Unit × World
  breakLock : World → Except Error Unit × World

structure ClusterLease (World : Type) where
  tryAcquire : World → Except Error ClusterAcquire × World
  renew : World → Except Error Unit × World
  release : World → Except Error Unit × World

structure CoordinatorParts (World : Type) where
  cluster : Option (ClusterLease World)
  blob : BlobLock World

structure Coordinator (World : Type) extends CoordinatorParts World where
  config : CoordinationConfig

/-- The guard of a mounted volume; its renewal loop uses the same parts. -/
structure CoordinationGuard (World : Type) extends CoordinatorParts World where
  leaseId : String

/-- A call that was made, with its answer. -/
inductive CoordCall where
  | tryAcquire (answer : Except Error ClusterAcquire)
  | renewCluster (answer : Except Error Unit)
  | releaseCluster (answer : Except Error Unit)
  | acquireBlob (durationSecs : Nat) (answer : Except LockError String)
  | renewBlob (leaseId : String) (answer : Except Error Unit)
  | releaseBlob (leaseId : String) (answer : Except Error Unit)
  | breakLock (answer : Except Error Unit)

/-- The outside world, and every call that was made so far. -/
structure CallLog (World : Type) where
  world : World
  calls : List CoordCall

namespace CallLog

variable {World Answer : Type}

/-- A call enters the log with its answer, whatever the answer is. -/
def make (call : World → Answer × World) (entry : Answer → CoordCall) : Action (CallLog World) Answer :=
  fun log => (.ok (call log.world).1, ⟨(call log.world).2, log.calls ++ [entry (call log.world).1]⟩)

end CallLog

variable {World : Type}

namespace ClusterLease

def tryAcquireLogged (cluster : ClusterLease World) : Action (CallLog World) (Except Error ClusterAcquire) :=
  CallLog.make cluster.tryAcquire .tryAcquire

def renewLogged (cluster : ClusterLease World) : Action (CallLog World) (Except Error Unit) :=
  CallLog.make cluster.renew .renewCluster

def releaseLogged (cluster : ClusterLease World) : Action (CallLog World) (Except Error Unit) :=
  CallLog.make cluster.release .releaseCluster

end ClusterLease

namespace BlobLock

def acquireLogged (blob : BlobLock World) (secs : Nat) : Action (CallLog World) (Except LockError String) :=
  CallLog.make (blob.acquire secs) (.acquireBlob secs)

def renewLogged (blob : BlobLock World) (leaseId : String) : Action (CallLog World) (Except Error Unit) :=
  CallLog.make (blob.renew leaseId) (.renewBlob leaseId)

def releaseLogged (blob : BlobLock World) (leaseId : String) : Action (CallLog World) (Except Error Unit) :=
  CallLog.make (blob.release leaseId) (.releaseBlob leaseId)

def breakLockLogged (blob : BlobLock World) : Action (CallLog World) (Except Error Unit) :=
  CallLog.make blob.breakLock .breakLock

end BlobLock

namespace Coordinator

def leaseDurationSecs (coordinator : Coordinator World) : Nat := coordinator.config.leaseDuration / 1000000

/-- The cluster lease comes first: it proves that no live node owns the volume. -/
def winCluster (coordinator : Coordinator World) : Action (CallLog World) Unit :=
  match coordinator.cluster with
  | none => pure ()
  | some cluster => do
      match ← cluster.tryAcquireLogged with
      | .error error => Action.fail ("acquire cluster lease" :: error)
      | .ok .acquired => pure ()
      | .ok (.heldByLiveHolder holder sinceRenew) =>
          let since := debugDuration sinceRenew
          let timeout := debugDuration coordinator.config.recoveryTimeout
          Action.fail [s!"cluster lease is held by a live holder '{holder}' (renewed {since} ago, within the {timeout} recovery timeout); another node is still using this volume — refusing to mount"]

/-- The stale blob lease is broken and acquired again; a second refusal gives the cluster lease back. -/
def takeOver (coordinator : Coordinator World) (cluster : ClusterLease World) : Action (CallLog World) String := do
  match ← coordinator.blob.breakLockLogged with
  | .error error => Action.fail ("break stale blob lease for take-over" :: error)
  | .ok () =>
      match ← coordinator.blob.acquireLogged coordinator.leaseDurationSecs with
      | .ok id => pure id
      | .error .held => do
          let _ ← cluster.releaseLogged
          Action.fail ["blob lease is still held after breaking it — another node raced us for the take-over"]
      | .error (.other error) => do
          let _ ← cluster.releaseLogged
          Action.fail ("re-acquire blob lease after break" :: error)

/-- A held blob lease is broken only where a cluster lease has arbitrated. -/
def lockBlob (coordinator : Coordinator World) : Action (CallLog World) String := do
  match ← coordinator.blob.acquireLogged coordinator.leaseDurationSecs with
  | .ok id => pure id
  | .error .held =>
      match coordinator.cluster with
      | none => Action.fail ["blob lease is already held by another process — refusing to mount; if you are certain no other process is using this blob, pass --disable-blob-lock"]
      | some cluster => coordinator.takeOver cluster
  | .error (.other error) =>
      match coordinator.cluster with
      | none => Action.fail ("acquire blob lease" :: error)
      | some cluster => do
          let _ ← cluster.releaseLogged
          Action.fail ("acquire blob lease" :: error)

def acquire (coordinator : Coordinator World) : Action (CallLog World) (CoordinationGuard World) := do
  coordinator.winCluster
  let leaseId ← coordinator.lockBlob
  pure ⟨coordinator.toCoordinatorParts, leaseId⟩

end Coordinator

namespace CoordinationGuard

/-- One round renews the blob lease and then the cluster lease; failures are only reported. -/
def renewRound (guard : CoordinationGuard World) : Action (CallLog World) Unit := do
  let _ ← guard.blob.renewLogged guard.leaseId
  match guard.cluster with
  | none => pure ()
  | some cluster => do
      let _ ← cluster.renewLogged
      pure ()

/-- The loop has gone through this many rounds when it sees the stop notification. -/
def renewLoop (guard : CoordinationGuard World) : Nat → Action (CallLog World) Unit
  | 0 => pure ()
  | rounds + 1 => do
      guard.renewRound
      guard.renewLoop rounds

/-- The release waits for the renewal loop, and then releases the blob lease and the cluster lease. -/
def release (guard : CoordinationGuard World) (rounds : Nat) : Action (CallLog World) Unit := do
  guard.renewLoop rounds
  let _ ← guard.blob.releaseLogged guard.leaseId
  match guard.cluster with
  | none => pure ()
  | some cluster => do
      let _ ← cluster.releaseLogged
      pure ()

end CoordinationGuard
end UblkAzblob

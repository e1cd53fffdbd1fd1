import UblkAzblob.Foundation.Action
import UblkAzblob.Foundation.Interleaving

namespace UblkAzblob
open Storage

/-- The part of a Kubernetes lease that the coordination reads and writes; times are microseconds. -/
structure LeaseSpec where
  holderIdentity : Option String
  leaseDurationSeconds : Option Int32
  acquireTime : Option Int
  renewTime : Option Int
  deriving DecidableEq

/-- An unset specification has no holder and no times. -/
def LeaseSpec.blank : LeaseSpec := ⟨none, none, none, none⟩

/-- The server stamps each version of the object. -/
structure Lease where
  resourceVersion : Nat
  spec : Option LeaseSpec
  deriving DecidableEq

/-- The server never stamps a version twice. -/
structure LeaseServer where
  object : Option Lease
  revision : Nat
  fresh : ∀ lease, object = some lease → lease.resourceVersion < revision

namespace LeaseServer

/-- A stored specification gets the next version. -/
def put (server : LeaseServer) (spec : LeaseSpec) : LeaseServer where
  object := some ⟨server.revision, some spec⟩
  revision := server.revision + 1
  fresh lease stored := by
    obtain rfl := Option.some.inj stored
    exact Nat.lt_succ_self _

/-- The server rejects a create when the object exists. -/
def create (server : LeaseServer) (spec : LeaseSpec) : Option LeaseServer :=
  match server.object with
  | none => some (server.put spec)
  | some _ => none

/-- The server rejects a replace of any version but the current one. -/
def replace (server : LeaseServer) (resourceVersion : Nat) (spec : LeaseSpec) : Option LeaseServer :=
  match server.object with
  | none => none
  | some lease => if lease.resourceVersion = resourceVersion then some (server.put spec) else none

end LeaseServer

/-- A node's handle on the lease. -/
structure K8sClusterLease where
  name : String
  holder : String
  leaseDuration : Nat
  recoveryTimeout : Nat

inductive ClusterAcquire where
  | acquired
  | heldByLiveHolder (holder : String) (sinceRenew : Nat)
  deriving DecidableEq

inductive LeaseOp where
  | tryAcquire
  | renew
  | release
  deriving DecidableEq

/-- After its get an operation commits one change under the version it saw, or answers at once. -/
inductive LeasePlan where
  | create (spec : LeaseSpec)
  | replace (current : Lease) (spec : LeaseSpec)
  | answer (outcome : Except Error (Option ClusterAcquire))

namespace K8sClusterLease

/-- The specification that records us as the current holder. -/
def ownedSpec (lease : K8sClusterLease) (now : Int) : LeaseSpec where
  holderIdentity := some lease.holder
  leaseDurationSeconds := some (Int32.ofNat (lease.leaseDuration / 1000000))
  acquireTime := some now
  renewTime := some now

def heldBy (spec : LeaseSpec) (me : String) : Bool :=
  match spec.holderIdentity with
  | some holder => holder = me
  | none => false

/-- The age of a renewal, or nothing when it is absent or in the future. -/
def ageOf (now : Int) (renewTime : Option Int) : Option Nat :=
  match renewTime with
  | none => none
  | some time => if now < time then none else some (now - time).toNat

def tryAcquire (lease : K8sClusterLease) (now : Int) : Option Lease → LeasePlan
  | none => .create (lease.ownedSpec now)
  | some current =>
      let spec := current.spec.getD .blank
      let holder := spec.holderIdentity.getD ""
      if heldBy spec lease.holder || holder.isEmpty then .replace current (lease.ownedSpec now)
      else match ageOf now spec.renewTime with
        | some age =>
            if lease.recoveryTimeout ≤ age then .replace current (lease.ownedSpec now)
            else .answer (.ok (some (.heldByLiveHolder holder age)))
        | none => .replace current (lease.ownedSpec now)

def renew (lease : K8sClusterLease) (now : Int) : Option Lease → LeasePlan
  | none => .create (lease.ownedSpec now)
  | some current =>
      let spec := current.spec.getD .blank
      if heldBy spec lease.holder then .replace current (lease.ownedSpec now)
      else
        let name := lease.name
        let holder := spec.holderIdentity.getD ""
        .answer (.error [s!"cluster lease '{name}' is no longer held by us (now held by '{holder}'); this node lost the lease (likely stalled past the recovery timeout)"])

def release (lease : K8sClusterLease) : Option Lease → LeasePlan
  | none => .answer (.ok none)
  | some current =>
      let spec := current.spec.getD .blank
      if heldBy spec lease.holder then
        .replace current { LeaseSpec.blank with leaseDurationSeconds := spec.leaseDurationSeconds }
      else .answer (.ok none)

end K8sClusterLease

namespace LeaseOp

/-- What an operation does once its get has answered. -/
def plan (op : LeaseOp) (lease : K8sClusterLease) (now : Int) (found : Option Lease) : LeasePlan :=
  match op with
  | .tryAcquire => lease.tryAcquire now found
  | .renew => lease.renew now found
  | .release => lease.release found

def getContext : LeaseOp → String
  | .tryAcquire => "get lease"
  | .renew => "get lease for renew"
  | .release => "get lease for release"

def replaceContext : LeaseOp → String
  | .tryAcquire => "replace cluster lease"
  | .renew => "replace cluster lease"
  | .release => "release cluster lease"

/-- The value of an operation whose change was committed. -/
def success : LeaseOp → Option ClusterAcquire
  | .tryAcquire => some .acquired
  | .renew => none
  | .release => none

end LeaseOp

/-- An operation waits for its get, then for its commit. -/
inductive LeasePhase where
  | getting
  | committing (now : Int) (found : Option Lease) (plan : LeasePlan)
  | returned (found : Option Lease) (outcome : Except Error (Option ClusterAcquire))

/-- A request arrives and is answered, is lost on the way, or takes effect without an answer. -/
inductive Delivery where
  | answered (rejection : Error)
  | lost (error : Error)
  | unanswered (error : Error)

namespace LeasePhase

/-- The get answers with the object, or fails. -/
def get (lease : K8sClusterLease) (op : LeaseOp) (now : Int) (failure : Option Error)
    (object : Option Lease) : LeasePhase :=
  match failure with
  | some error => .returned none (.error (op.getContext :: error))
  | none => match op.plan lease now object with
    | .answer outcome => .returned object outcome
    | plan => .committing now object plan

/-- The server's answer to the change that a plan asks for. -/
def submit (plan : LeasePlan) (server : LeaseServer) : Option LeaseServer :=
  match plan with
  | .create spec => server.create spec
  | .replace current spec => server.replace current.resourceVersion spec
  | .answer _ => none

/-- The context of an error of a commit. -/
def commitContext (op : LeaseOp) : LeasePlan → String
  | .create _ => "create cluster lease"
  | _ => op.replaceContext

/-- The caller learns the outcome; the server that accepted the change is returned beside it. -/
def commit (op : LeaseOp) (found : Option Lease) (plan : LeasePlan) (delivery : Delivery)
    (server : LeaseServer) : LeasePhase × Option LeaseServer :=
  let context := commitContext op plan
  match delivery with
  | .lost error => (.returned found (.error (context :: error)), none)
  | .unanswered error => (.returned found (.error (context :: error)), submit plan server)
  | .answered rejection => match submit plan server with
    | some accepted => (.returned found (.ok op.success), some accepted)
    | none => (.returned found (.error (context :: rejection)), none)

end LeasePhase

/-- One operation of one node. -/
structure LeaseJob where
  node : Nat
  op : LeaseOp
  phase : LeasePhase

/-- A committed change remembers when it was decided and which version it replaced. -/
structure LeaseCommit where
  job : Nat
  node : Nat
  op : LeaseOp
  now : Int
  before : Option Lease
  after : Lease

/-- Any number of operations of any number of nodes share one lease; the commits are history. -/
structure LeaseSys where
  server : LeaseServer
  jobs : List LeaseJob
  commits : List LeaseCommit

inductive LeaseEvent where
  | call (node : Nat) (op : LeaseOp)
  | get (job : Nat) (now : Int) (failure : Option Error)
  | commit (job : Nat) (delivery : Delivery)

namespace LeaseSys

def start (server : LeaseServer) : LeaseSys := ⟨server, [], []⟩

/-- An accepted change replaces the object and enters the history. -/
def record (sys : LeaseSys) (id : Nat) (job : LeaseJob) (now : Int) :
    Option LeaseServer → LeaseServer × List LeaseCommit
  | none => (sys.server, sys.commits)
  | some accepted => (accepted, match accepted.object with
    | some after => sys.commits ++ [⟨id, job.node, job.op, now, sys.server.object, after⟩]
    | none => sys.commits)

/-- One step of one operation, where it is enabled. -/
def step (nodes : Nat → K8sClusterLease) (sys : LeaseSys) : LeaseEvent → Option LeaseSys
  | .call node op => some { sys with jobs := sys.jobs ++ [⟨node, op, .getting⟩] }
  | .get id now failure => match sys.jobs[id]? with
    | some ⟨node, op, .getting⟩ => some { sys with
        jobs := sys.jobs.set id
          ⟨node, op, .get (nodes node) op now failure sys.server.object⟩ }
    | _ => none
  | .commit id delivery => match sys.jobs[id]? with
    | some ⟨node, op, .committing now found plan⟩ =>
        let done := LeasePhase.commit op found plan delivery sys.server
        let recorded := sys.record id ⟨node, op, done.1⟩ now done.2
        some ⟨recorded.1, sys.jobs.set id ⟨node, op, done.1⟩, recorded.2⟩
    | _ => none

end LeaseSys
end UblkAzblob

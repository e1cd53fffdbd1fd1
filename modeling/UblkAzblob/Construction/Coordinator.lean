import UblkAzblob.Construction.ClusterLease

namespace UblkAzblob
open Storage

/-- The cluster lease that every process of a volume is configured with. -/
structure ClusterConfig where
  name : String
  leaseDuration : Nat
  recoveryTimeout : Nat

def ClusterConfig.lease (config : ClusterConfig) (holder : String) : K8sClusterLease :=
  ⟨config.name, holder, config.leaseDuration, config.recoveryTimeout⟩

/-- A duration is printed in its largest unit, with the fraction that is left. -/
def debugDuration (micros : Nat) : String :=
  let scaled (unit digits : Nat) (suffix : String) :=
    let whole := micros / unit
    let padded := String.ofList (((toString (unit + micros % unit)).toList.drop 1).take digits)
    let fraction := String.ofList (padded.toList.reverse.dropWhile (· = '0')).reverse
    if fraction.isEmpty then s!"{whole}{suffix}" else s!"{whole}.{fraction}{suffix}"
  if 1000000 ≤ micros then scaled 1000000 6 "s"
  else if 1000 ≤ micros then scaled 1000 3 "ms"
  else if micros = 0 then "0ns"
  else s!"{micros}µs"

/-- Where a process stands in `acquire`, in its renewal loop or in the release of its guard. -/
inductive CoordPhase where
  | leasing (call : LeasePhase)
  | locking
  | breaking
  | relocking
  | rollingBack (call : LeasePhase) (error : Error)
  | mounted (renewal : Option LeasePhase)
  | unlocking
  | unleasing (call : LeasePhase)
  | failed (error : Error)
  | closed

/-- A process runs one coordinator; without a cluster lease it only takes the blob lock. -/
structure CoordProcess where
  holder : String
  clustered : Bool
  phase : CoordPhase

/-- The answer of the blob lock to `acquire`; a failed call may have had its effect. -/
inductive LockAnswer where
  | granted
  | held
  | failed (error : Error) (effect : Bool)

/-- All processes of one volume; the fields after `processes` are history. -/
structure CoordSys where
  clock : Int
  server : LeaseServer
  /-- The process whose lease on the blob is active. -/
  blob : Option Nat
  processes : List CoordProcess
  /-- The time that the last committed renewal of a process recorded. -/
  renewed : Nat → Option Int
  /-- The last process that committed a version of the cluster lease. -/
  writer : Option Nat

inductive CoordEvent where
  | start (holder : String) (clustered : Bool)
  | tick (elapsed : Nat)
  | leaseGet (id : Nat) (failure : Option Error)
  | leaseCommit (id : Nat) (delivery : Delivery)
  | acquireBlob (id : Nat) (answer : LockAnswer)
  | breakLock (id : Nat) (failure : Option (Error × Bool))
  | renewBlob (id : Nat) (revives : Bool)
  | stop (id : Nat)
  | releaseBlob (id : Nat) (released : Bool)
  | crash (id : Nat)
  | expire

namespace CoordPhase

/-- The call on the cluster lease that is in flight, with its operation. -/
def call : CoordPhase → Option (LeaseOp × LeasePhase)
  | .leasing call => some (.tryAcquire, call)
  | .rollingBack call _ => some (.release, call)
  | .mounted (some call) => some (.renew, call)
  | .unleasing call => some (.release, call)
  | _ => none

/-- The startup algorithm goes on when the cluster lease has answered. -/
def acquired (config : ClusterConfig) : Except Error (Option ClusterAcquire) → CoordPhase
  | .error error => .failed ("acquire cluster lease" :: error)
  | .ok (some (.heldByLiveHolder holder sinceRenew)) =>
      let since := debugDuration sinceRenew
      let timeout := debugDuration config.recoveryTimeout
      .failed [s!"cluster lease is held by a live holder '{holder}' (renewed {since} ago, within the {timeout} recovery timeout); another node is still using this volume — refusing to mount"]
  | .ok (some .acquired) => .locking
  | .ok none => .failed []

/-- The call in flight moves, and the process goes on when it returns. -/
def resume (config : ClusterConfig) (phase : CoordPhase) (call : LeasePhase) : CoordPhase :=
  match phase with
  | .leasing _ => match call with
    | .returned _ outcome => acquired config outcome
    | _ => .leasing call
  | .rollingBack _ error => match call with
    | .returned _ _ => .failed error
    | _ => .rollingBack call error
  | .mounted _ => match call with
    | .returned _ _ => .mounted none
    | _ => .mounted (some call)
  | .unleasing _ => match call with
    | .returned _ _ => .closed
    | _ => .unleasing call
  | other => other

/-- A failed acquisition gives the cluster lease back where one is configured. -/
def rollBack (clustered : Bool) (error : Error) : CoordPhase :=
  if clustered then .rollingBack .getting error else .failed error

end CoordPhase

namespace CoordSys

def begin (clock : Int) (server : LeaseServer) : CoordSys := ⟨clock, server, none, [], fun _ => none, none⟩

def enter (sys : CoordSys) (id : Nat) (process : CoordProcess) (phase : CoordPhase) : CoordSys :=
  { sys with processes := sys.processes.set id { process with phase } }

/-- A committed version enters the history of its process; a release renews nothing. -/
def committed (sys : CoordSys) (id : Nat) (op : LeaseOp) (now : Int) : Option LeaseServer → CoordSys
  | none => sys
  | some server => { sys with
      server
      renewed := if op = .release then sys.renewed else Function.update sys.renewed id (some now)
      writer := some id }

/-- The first `acquire` of the blob lock decides whether the lock must be broken. -/
def locked (clustered : Bool) : LockAnswer → CoordPhase
  | .granted => .mounted none
  | .held =>
      if clustered then .breaking
      else .failed ["blob lease is already held by another process — refusing to mount; if you are certain no other process is using this blob, pass --disable-blob-lock"]
  | .failed error _ => .rollBack clustered ("acquire blob lease" :: error)

/-- The second `acquire` of the blob lock follows the break. -/
def relocked : LockAnswer → CoordPhase
  | .granted => .mounted none
  | .held => .rollBack true
      ["blob lease is still held after breaking it — another node raced us for the take-over"]
  | .failed error _ => .rollBack true ("re-acquire blob lease after break" :: error)

/-- The blob lock grants a lease only when none is active. -/
def grant (sys : CoordSys) (id : Nat) : LockAnswer → Option (Option Nat)
  | .granted => if sys.blob = none then some (some id) else none
  | .held => some sys.blob
  | .failed _ effect => if effect then (if sys.blob = none then some (some id) else none) else some sys.blob

/-- One step of one process or of the services, where it is enabled. -/
def step (config : ClusterConfig) (sys : CoordSys) : CoordEvent → Option CoordSys
  | .start holder clustered =>
      let phase := if clustered then CoordPhase.leasing .getting else .locking
      some { sys with processes := sys.processes ++ [⟨holder, clustered, phase⟩] }
  | .tick elapsed => some { sys with clock := sys.clock + elapsed }
  | .leaseGet id failure => match sys.processes[id]? with
    | none => none
    | some process => match process.phase.call with
      | some (op, .getting) => some (sys.enter id process (process.phase.resume config
          (.get (config.lease process.holder) op sys.clock failure sys.server.object)))
      | _ => none
  | .leaseCommit id delivery => match sys.processes[id]? with
    | none => none
    | some process => match process.phase.call with
      | some (op, .committing now found plan) =>
          let done := LeasePhase.commit op found plan delivery sys.server
          some ((sys.committed id op now done.2).enter id process (process.phase.resume config done.1))
      | _ => none
  | .acquireBlob id answer => match sys.processes[id]? with
    | none => none
    | some process => (sys.grant id answer).bind fun blob => match process.phase with
      | .locking => some ({ sys with blob }.enter id process (locked process.clustered answer))
      | .relocking => some ({ sys with blob }.enter id process (relocked answer))
      | _ => none
  | .breakLock id failure => match sys.processes[id]? with
    | none => none
    | some process => match process.phase with
      | .breaking => match failure with
        | none => some ({ sys with blob := none }.enter id process .relocking)
        | some (error, effect) =>
            let blob := if effect then none else sys.blob
            some ({ sys with blob }.enter id process
              (.failed ("break stale blob lease for take-over" :: error)))
      | _ => none
  | .renewBlob id revives => match sys.processes[id]? with
    | none => none
    | some process => match process.phase with
      | .mounted none =>
          let blob := if revives ∧ sys.blob = none then some id else sys.blob
          let renewal := if process.clustered then some LeasePhase.getting else none
          some ({ sys with blob }.enter id process (.mounted renewal))
      | _ => none
  | .stop id => match sys.processes[id]? with
    | none => none
    | some process => match process.phase with
      | .mounted none => some (sys.enter id process .unlocking)
      | _ => none
  | .releaseBlob id released => match sys.processes[id]? with
    | none => none
    | some process => match process.phase with
      | .unlocking =>
          let blob := if released ∧ sys.blob = some id then none else sys.blob
          some ({ sys with blob }.enter id process
            (if process.clustered then .unleasing .getting else .closed))
      | _ => none
  | .crash id => match sys.processes[id]? with
    | none => none
    | some process => some (sys.enter id process .closed)
  | .expire => some { sys with blob := none }

end CoordSys
end UblkAzblob

import UblkAzblob.Construction.VolumeMeta
import UblkAzblob.Foundation.Action

namespace UblkAzblob
open Storage

section Unpublish

inductive CommandOutcome where
  | notSpawned (error : Error)
  | exited (success : Bool) (stderr : String)

/-- What the node service asks of its host. -/
structure NodeHost (World : Type) where
  pathExists : String → World → Bool
  umountCommand : String → World → CommandOutcome × World
  /-- A failure to remove a directory is only reported. -/
  removeDirAll : String → World → World

/-- The calls of the node service that tear a volume down. -/
inductive NodeCall where
  | umount (target : String)
  | umountOverlay (target : String) (dirs : OverlayDirs)
  | signal (pid : Nat) (signal : Nat)
  | wait (pid : Nat)
  deriving DecidableEq

def sigint : Nat := 2

structure NodeState (World : Type) where
  volumes : VolumeTable
  files : TextFiles
  world : World
  calls : List NodeCall

variable {World : Type}

def NodeState.record (call : NodeCall) : Action (NodeState World) Unit :=
  Action.modify fun state => { state with calls := state.calls ++ [call] }

/-- A target that is not mounted counts as unmounted. -/
def NodeHost.unmounts (host : NodeHost World) (target : String) (world : World) : Except Error Unit × World :=
  if host.pathExists target world then
    let output := host.umountCommand target world
    (match output.1 with
      | .notSpawned error => .error (s!"spawn umount {target}" :: error)
      | .exited true _ => .ok ()
      | .exited false stderr =>
          if "not mounted".toList <:+: stderr.toList ∨ "not currently mounted".toList <:+: stderr.toList then .ok ()
          else
            let reason := FileCacheBackend.trim stderr
            .error [s!"umount {target} failed: {reason}"], output.2)
  else (.ok (), world)

def umount (host : NodeHost World) (target : String) : Action (NodeState World) Unit := fun state =>
  let unmounted := host.unmounts target state.world
  (unmounted.1, { state with world := unmounted.2, calls := state.calls ++ [.umount target] })

/-- The merged view and the lower are unmounted, and the scratch directories are removed. -/
def umountOverlay (host : NodeHost World) (target : String) (dirs : OverlayDirs) : Action (NodeState World) Unit := do
  NodeState.record (.umountOverlay target dirs)
  umount host target
  umount host dirs.lower
  Action.forEach ([dirs.upper, dirs.work, dirs.lower] ++ dirs.scratchRoot.toList) fun dir =>
    Action.modify fun state => { state with world := host.removeDirAll dir state.world }

/-- The overlay is torn down, and the child is told to stop and waited for; failures are only reported. -/
def stopVolume (host : NodeHost World) (target : String) (published : Published) : Action (NodeState World) Unit := do
  match published.overlay with
  | some dirs => Action.ignore (umountOverlay host target dirs)
  | none => pure ()
  NodeState.record (.signal published.pid sigint)
  NodeState.record (.wait published.pid)

/-- The volume leaves the table before its target is unmounted. -/
def nodeUnpublishVolume (host : NodeHost World) (volumeId targetPath : String) : Action (NodeState World) Unit := do
  Action.ensure (volumeId ≠ "") ["volume id is required"]
  Action.ensure (targetPath ≠ "") ["target path is required"]
  let published ← Action.get fun state => state.volumes volumeId
  Action.modify fun state => { state with volumes := Function.update state.volumes volumeId none }
  umount host targetPath
  match published with
  | some published => stopVolume host targetPath published
  | none => pure ()
  Action.modify fun state => { state with files := removeVolumeMeta state.files targetPath }

end Unpublish

section Concurrency

/-- Where a call stands; a publish goes from `checking` to `recording`, an unpublish from `removing` to `ending`. -/
inductive NodePhase where
  | checking
  /-- The publish waits for the lock under which devices are discovered. -/
  | queued
  | spawning
  | discovering (pid : Nat)
  | mounting (pid : Nat) (device : String)
  | recording (pid : Nat) (device : String)
  /-- The publish has failed, and waits for the child that it has signalled. -/
  | stopping (pid : Nat)
  | removing
  | unmounting (published : Option Published)
  | ending (published : Published)
  | returned
  deriving DecidableEq

structure NodeJob where
  volumeId : String
  target : String
  overlay : Option OverlayDirs
  phase : NodePhase
  deriving DecidableEq

/-- A publish has mounted the device of the child that it has spawned. -/
structure PublishRecord where
  volumeId : String
  pid : Nat
  device : String
  target : String
  deriving DecidableEq

/-- The calls of one node service; the mounts are history. -/
structure NodeSys where
  volumes : VolumeTable
  /-- The children that were spawned and not yet waited for. -/
  children : List Nat
  /-- The children that have exited. -/
  exited : List Nat
  publishLock : Option Nat
  jobs : List NodeJob
  mounts : List PublishRecord

inductive NodeEvent where
  | publish (volumeId target : String) (overlay : Option OverlayDirs)
  | unpublish (volumeId target : String)
  | check (job : Nat) (valid : Bool)
  | lock (job : Nat)
  | spawn (job : Nat) (pid : Option Nat)
  | discover (job : Nat) (device : Option String)
  | mount (job : Nat) (success : Bool)
  | insert (job : Nat)
  | remove (job : Nat)
  | umount (job : Nat)
  | exit (pid : Nat)
  | reap (job : Nat)

namespace NodeSys

def begin : NodeSys := ⟨fun _ => none, [], [], none, [], []⟩

def enter (sys : NodeSys) (id : Nat) (job : NodeJob) (phase : NodePhase) : NodeSys :=
  { sys with jobs := sys.jobs.set id { job with phase } }

def unlock (sys : NodeSys) (id : Nat) : NodeSys :=
  if sys.publishLock = some id then { sys with publishLock := none } else sys

/-- The wait for a child returns when it has exited. -/
def reaped (sys : NodeSys) (id : Nat) (job : NodeJob) (pid : Nat) : Option NodeSys :=
  if pid ∈ sys.exited then
    some (({ sys with children := sys.children.erase pid, exited := sys.exited.erase pid }.unlock id).enter id job
      .returned)
  else none

/-- One step of a call or of a child, where it is enabled; an unmount by an unpublish succeeds. -/
def step (sys : NodeSys) : NodeEvent → Option NodeSys
  | .publish volumeId target overlay => some { sys with jobs := sys.jobs ++ [⟨volumeId, target, overlay, .checking⟩] }
  | .unpublish volumeId target => some { sys with jobs := sys.jobs ++ [⟨volumeId, target, none, .removing⟩] }
  | .check id valid => (sys.jobs[id]?).bind fun job => match job.phase with
    | .checking => some (sys.enter id job
        (if (sys.volumes job.volumeId).isSome ∨ valid = false then .returned else .queued))
    | _ => none
  | .lock id => (sys.jobs[id]?).bind fun job => match job.phase, sys.publishLock with
    | .queued, none => some ({ sys with publishLock := some id }.enter id job .spawning)
    | _, _ => none
  | .spawn id pid => (sys.jobs[id]?).bind fun job => match job.phase, pid with
    | .spawning, none => some ((sys.unlock id).enter id job .returned)
    | .spawning, some pid =>
        if pid ∈ sys.children then none
        else some ({ sys with children := sys.children ++ [pid] }.enter id job (.discovering pid))
    | _, _ => none
  | .discover id device => (sys.jobs[id]?).bind fun job => match job.phase, device with
    | .discovering pid, none => some (sys.enter id job (.stopping pid))
    | .discovering pid, some device => some ((sys.unlock id).enter id job (.mounting pid device))
    | _, _ => none
  | .mount id success => (sys.jobs[id]?).bind fun job => match job.phase with
    | .mounting pid device =>
        if success then
          let record : PublishRecord := ⟨job.volumeId, pid, device, job.target⟩
          some ({ sys with mounts := sys.mounts ++ [record] }.enter id job (.recording pid device))
        else some (sys.enter id job (.stopping pid))
    | _ => none
  | .insert id => (sys.jobs[id]?).bind fun job => match job.phase with
    | .recording pid device =>
        let published : Published := ⟨true, pid, device, job.target, job.overlay⟩
        some ({ sys with volumes := Function.update sys.volumes job.volumeId (some published) }.enter id job .returned)
    | _ => none
  | .remove id => (sys.jobs[id]?).bind fun job => match job.phase with
    | .removing => some ({ sys with volumes := Function.update sys.volumes job.volumeId none }.enter id job
        (.unmounting (sys.volumes job.volumeId)))
    | _ => none
  | .umount id => (sys.jobs[id]?).bind fun job => match job.phase with
    | .unmounting none => some (sys.enter id job .returned)
    | .unmounting (some published) => some (sys.enter id job (.ending published))
    | _ => none
  | .exit pid => if pid ∈ sys.children ∧ pid ∉ sys.exited then some { sys with exited := sys.exited ++ [pid] } else none
  | .reap id => (sys.jobs[id]?).bind fun job => match job.phase with
    | .stopping pid => sys.reaped id job pid
    | .ending published => sys.reaped id job published.pid
    | _ => none

end NodeSys
end Concurrency
end UblkAzblob

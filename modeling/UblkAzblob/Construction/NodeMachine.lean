import UblkAzblob.Construction.MountPlan
import UblkAzblob.Construction.NodeService

namespace UblkAzblob
open Storage

/-- A filesystem in the mount table of the node. -/
structure Mounted where
  target : String
  source : String
  fsType : String
  options : List String
  deriving DecidableEq

/-- How a check of a filesystem ended, with what it printed. -/
structure FsckOutcome where
  code : Option Nat
  status : String
  stdout : String
  stderr : String

/-- The answers of the host to the steps of one publish. -/
structure PublishAnswers where
  /-- The address for a network block device, or no address in the other mode. -/
  listen : Except Error (Option String)
  spawn : Except Error Nat
  discover : Except Error String
  /-- The command that looks for a filesystem runs and can read the device; otherwise the device counts as blank. -/
  blkidRuns : Bool
  mkfs : Except Error Unit
  /-- What a command that failed to make a filesystem has left on the device. -/
  halfMade : Option String
  fsck : Except Error FsckOutcome
  createDirAll : String → Except Error Unit
  mount : String → Except Error Unit
  umount : String → Except Error Unit
  writesMeta : Bool

/-- The node with its devices: what is mounted, and which child serves which volume on which device. -/
structure NodeMachine where
  volumes : VolumeTable
  files : TextFiles
  /-- The children that serve a device. -/
  children : List Nat
  /-- The volume behind a device. -/
  attached : String → Option String
  /-- The type of the filesystem that a volume carries. -/
  contents : String → Option String
  /-- The mounts of the node, the newest first. -/
  mounts : List Mounted
  /-- The devices on which a filesystem was made. -/
  formats : List (String × String)

namespace NodeMachine

def begin (contents : String → Option String) : NodeMachine :=
  ⟨fun _ => none, fun _ => none, [], fun _ => none, contents, [], []⟩

section Commands

/-- The outcome of a command of the host. -/
def answered (answer : Except Error Unit) : Action NodeMachine Unit := fun machine => (answer, machine)

/-- An action that fails is undone as far as that goes. -/
def undoing (undo : NodeMachine → NodeMachine) (action : Action NodeMachine Unit) : Action NodeMachine Unit :=
  fun machine =>
    let outcome := action machine
    match outcome.1 with
    | .ok () => outcome
    | .error error => (.error error, undo outcome.2)

/-- The newest mount of the target goes; where nothing is mounted, there is nothing to do. -/
def umount (answers : String → Except Error Unit) (target : String) : Action NodeMachine Unit := fun machine =>
  if machine.mounts.any fun mounted => mounted.target = target then
    match answers target with
    | .ok () => (.ok (), { machine with mounts := machine.mounts.eraseP fun mounted => mounted.target = target })
    | .error error => (.error error, machine)
  else (.ok (), machine)

def umountOverlay (answers : String → Except Error Unit) (target : String) (dirs : OverlayDirs) :
    Action NodeMachine Unit := do
  umount answers target
  umount answers dirs.lower

/-- A device carries a filesystem when the command that looks for one can be run and finds it. -/
def hasFilesystem (answers : PublishAnswers) (device : String) (machine : NodeMachine) : Bool :=
  answers.blkidRuns && ((machine.attached device).bind machine.contents).isSome

/-- The volume behind the device gets the contents. -/
def fill (machine : NodeMachine) (device : String) (fsType : Option String) : NodeMachine :=
  match machine.attached device with
  | none => machine
  | some volumeId => { machine with
      contents := Function.update machine.contents volumeId fsType
      formats := machine.formats ++ [(volumeId, device)] }

/-- Some types are only ever mounted. -/
def mkfs (answers : PublishAnswers) (device fsType : String) : Action NodeMachine Unit :=
  match (fsProfile fsType).mkfsOptions with
  | none => .fail [s!"filesystem type \"{fsType}\" does not support mkfs (cannot format {device})"]
  | some _ => fun machine => match answers.mkfs with
    | .ok () => (.ok (), machine.fill device (some fsType))
    | .error error => (.error error, machine.fill device answers.halfMade)

/-- The arguments of a check. -/
def fsckArgs (device fsType : String) : FsckMode → List String
  | .off => []
  | .preen => ["-t", fsType, "-a", device]
  | .force => ["-t", fsType, "-f", "-y", device]

/-- A filesystem that was clean or has been corrected passes its check. -/
def fsck (answers : PublishAnswers) (device fsType : String) (mode : FsckMode) : Action NodeMachine Unit :=
  if mode = .off then pure ()
  else
    let args := " ".intercalate (fsckArgs device fsType mode)
    match answers.fsck with
    | .error error => .fail (s!"spawn \x60fsck {args}\x60" :: error)
    | .ok outcome =>
        if outcome.code = some 0 ∨ outcome.code = some 1 then pure ()
        else
          let status := outcome.status
          let stdout := FileCacheBackend.trim outcome.stdout
          let stderr := FileCacheBackend.trim outcome.stderr
          .fail [s!"\x60fsck {args}\x60 failed ({status}): {stdout} {stderr}"]

/-- A read-only ext filesystem is mounted without its journal. -/
def mountOptions (flags : List String) (fsType : String) (readonly : Bool) : List String :=
  if readonly then
    if fsType ∈ ["ext2", "ext3", "ext4"] ∧ "noload" ∉ flags ++ ["ro"] then flags ++ ["ro", "noload"]
    else flags ++ ["ro"]
  else flags

/-- The command mounts on top of what is mounted there. -/
def pushMount (answer : Except Error Unit) (mounted : Mounted) : Action NodeMachine Unit := fun machine =>
  match answer with
  | .ok () => (.ok (), { machine with mounts := mounted :: machine.mounts })
  | .error error => (.error error, machine)

def mount (answers : PublishAnswers) (device target fsType : String) (flags : List String) (readonly : Bool) :
    Action NodeMachine Unit := do
  .withContext s!"create mount target {target}" (answered (answers.createDirAll target))
  pushMount (answers.mount target) ⟨target, device, fsType, mountOptions flags fsType readonly⟩

/-- The options of the merged view name its layers. -/
def overlayOptions (dirs : OverlayDirs) : List String :=
  let lower := dirs.lower
  let upper := dirs.upper
  let work := dirs.work
  [s!"lowerdir={lower},upperdir={upper},workdir={work}"]

/-- The device is mounted read-only below a writable layer; a merged view that fails takes its lower along. -/
def mountOverlay (answers : PublishAnswers) (device target fsType : String) (flags : List String) (dirs : OverlayDirs) :
    Action NodeMachine Unit := do
  .forEach [dirs.lower, dirs.upper, dirs.work] fun dir =>
    .withContext s!"create overlay dir {dir}" (answered (answers.createDirAll dir))
  mount answers device dirs.lower fsType flags true
  .withContext s!"create overlay target {target}" (answered (answers.createDirAll target))
  pushMount (answers.mount target) ⟨target, "overlay", "overlay", overlayOptions dirs⟩
    |> undoing fun after => (umount answers.umount dirs.lower after).2

end Commands

section Publish

/-- A filesystem is made only on a blank device that is neither a copy of a template nor read-only. -/
def ensureFilesystem (answers : PublishAnswers) (plan : MountPlan) (device : String) : Action NodeMachine Bool :=
  fun machine =>
    if hasFilesystem answers device machine then (.ok false, machine)
    else if plan.fromTemplate then (.ok false, machine)
    else if plan.readonly then
      (.error [s!"device {device} is read-only and has no filesystem; "
        ++ "a read-only/snapshot volume must already be formatted"], machine)
    else match mkfs answers device plan.fsType machine with
      | (.ok (), after) => (.ok true, after)
      | (.error error, after) => (.error error, after)

/-- A device that was not just formatted is checked where the plan calls for it. -/
def checkFilesystem (answers : PublishAnswers) (plan : MountPlan) (device : String) (formatted : Bool) :
    Action NodeMachine Unit :=
  if plan.runsFsck formatted then fsck answers device plan.fsType plan.fsckMode else pure ()

def mountDevice (answers : PublishAnswers) (plan : MountPlan) (device target : String) : Action NodeMachine Unit :=
  match plan.overlay with
  | some dirs => mountOverlay answers device target plan.fsType plan.mountFlags dirs
  | none => mount answers device target plan.fsType plan.mountFlags plan.readonly

/-- A filesystem is made only on a blank device, which is then mounted. -/
def prepare (answers : PublishAnswers) (plan : MountPlan) (device target : String) : Action NodeMachine Unit := do
  let formatted ← ensureFilesystem answers plan device
  checkFilesystem answers plan device formatted
  mountDevice answers plan device target

/-- A child that is told to stop takes its device along. -/
def stop (pid : Nat) (device : Option String) (machine : NodeMachine) : NodeMachine :=
  { machine with
    children := machine.children.erase pid
    attached := match device with
      | some device => Function.update machine.attached device none
      | none => machine.attached }

/-- A child is spawned, and the device that it makes is found; a child without a device is stopped. -/
def attach (answers : PublishAnswers) (volumeId : String) : Action NodeMachine (Nat × String) := fun machine =>
  match answers.listen, answers.spawn, answers.discover with
  | .error error, _, _ => (.error error, machine)
  | .ok _, .error error, _ => (.error error, machine)
  | .ok _, .ok pid, .error error =>
      (.error error, stop pid none { machine with children := machine.children ++ [pid] })
  | .ok _, .ok pid, .ok device =>
      (.ok (pid, device), { machine with
        children := machine.children ++ [pid]
        attached := Function.update machine.attached device (some volumeId) })

def isNbd (device : String) : Bool := "/dev/nbd".toList <+: device.toList

/-- The volume is recorded beside its target, when that can be written, and enters the table. -/
def record (answers : PublishAnswers) (plan : MountPlan) (volumeId target : String) (pid : Nat) (device : String)
    (machine : NodeMachine) : NodeMachine :=
  { machine with
    files := if answers.writesMeta then
        writeVolumeMeta machine.files target ⟨volumeId, device, pid, isNbd device, plan.overlay⟩
      else machine.files
    volumes := Function.update machine.volumes volumeId (some ⟨true, pid, device, target, plan.overlay⟩) }

/-- The overlay is unmounted, and the child is stopped. -/
def rollBack (answers : PublishAnswers) (plan : MountPlan) (target : String) (pid : Nat) (device : String)
    (machine : NodeMachine) : NodeMachine :=
  let unmounted := match plan.overlay with
    | some dirs => (umountOverlay answers.umount target dirs machine).2
    | none => machine
  unmounted.stop pid (some device)

/-- What fails after the device is there is rolled back. -/
def bringUp (answers : PublishAnswers) (plan : MountPlan) (volumeId target : String) : Action NodeMachine Unit := do
  let (pid, device) ← attach answers volumeId
  prepare answers plan device target |> undoing (rollBack answers plan target pid device)
  Action.modify (record answers plan volumeId target pid device)

/-- A publish as the kubelet sends it. -/
structure Publish where
  request : PublishRequest
  capability : Option MountCapability
  readonly : Bool
  answers : PublishAnswers

def nodePublishVolume (lib : UrlLib) (node : NodeConfig) (call : Publish) (machine : NodeMachine) :
    Except RpcError Unit × NodeMachine :=
  let request := call.request
  if request.volumeId = "" then (.error ⟨.invalidArgument, "volume id is required"⟩, machine)
  else if request.targetPath = "" then (.error ⟨.invalidArgument, "target path is required"⟩, machine)
  else match machine.volumes request.volumeId with
    | some existing =>
        (if existing.target = request.targetPath then .ok ()
          else .error ⟨.failedPrecondition, "volume already published at a different target path"⟩, machine)
    | none => match mountPlan lib node request call.capability call.readonly with
      | .error error => (.error error, machine)
      | .ok plan =>
          let outcome := bringUp call.answers plan request.volumeId request.targetPath machine
          (orFail .internal "" outcome.1, outcome.2)

end Publish

section Unpublish

/-- The volume leaves the table before its target is unmounted; what comes after that only reports its failures. -/
def nodeUnpublishVolume (answers : String → Except Error Unit) (volumeId target : String) (machine : NodeMachine) :
    Except RpcError Unit × NodeMachine :=
  if volumeId = "" then (.error ⟨.invalidArgument, "volume id is required"⟩, machine)
  else if target = "" then (.error ⟨.invalidArgument, "target path is required"⟩, machine)
  else
    let removed := { machine with volumes := Function.update machine.volumes volumeId none }
    match umount answers target removed with
    | (.error error, after) => (.error ⟨.internal, printError error⟩, after)
    | (.ok (), after) =>
        let stopped := match machine.volumes volumeId with
          | none => after
          | some published =>
              let unmounted := match published.overlay with
                | some dirs => (umountOverlay answers target dirs after).2
                | none => after
              unmounted.stop published.pid (some published.device)
        (.ok (), { stopped with files := removeVolumeMeta stopped.files target })

end Unpublish

/-- The calls of the kubelet, one after the other. -/
inductive Call where
  | publish (call : Publish)
  | unpublish (volumeId target : String) (umount : String → Except Error Unit)

def perform (lib : UrlLib) (node : NodeConfig) (machine : NodeMachine) : Call → Except RpcError Unit × NodeMachine
  | .publish call => nodePublishVolume lib node call machine
  | .unpublish volumeId target answers => nodeUnpublishVolume answers volumeId target machine

def step (lib : UrlLib) (node : NodeConfig) (machine : NodeMachine) (call : Call) : Option NodeMachine :=
  some (perform lib node machine call).2

section Host

/-- The targets at which a volume is mounted, with the lower of its overlay. -/
def points (target : String) (overlay : Option OverlayDirs) : List String :=
  target :: (overlay.map OverlayDirs.lower).toList

def succeeds {Value : Type} (answer : Except Error Value) : Bool :=
  match answer with
  | .ok _ => true
  | .error _ => false

/-- The host spawns a child under a free process id, and its device is new. -/
def freshChild (answers : PublishAnswers) (machine : NodeMachine) : Bool :=
  (match answers.spawn with
    | .ok pid => decide (pid ∉ machine.children)
    | .error _ => true) &&
  match answers.discover with
  | .ok device => decide (machine.attached device = none)
  | .error _ => true

/-- A volume is published where nothing is mounted and unpublished where it was published, and unmounts succeed. -/
def orderly (lib : UrlLib) (node : NodeConfig) (machine : NodeMachine) : Call → Bool
  | .publish call =>
      (machine.volumes call.request.volumeId).isSome ||
      match mountPlan lib node call.request call.capability call.readonly with
      | .error _ => true
      | .ok plan =>
          let points := points call.request.targetPath plan.overlay
          decide points.Nodup && freshChild call.answers machine &&
          points.all fun point =>
            decide (point ∉ machine.mounts.map Mounted.target) && succeeds (call.answers.umount point)
  | .unpublish volumeId target answers =>
      match machine.volumes volumeId with
      | none => decide (target ∉ machine.mounts.map Mounted.target)
      | some published => decide (published.target = target) &&
          (points target published.overlay).all fun point => succeeds (answers point)

end Host

end NodeMachine
end UblkAzblob

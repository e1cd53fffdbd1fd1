import UblkAzblob.Construction.NodePublish

namespace UblkAzblob
open Storage

/-- The options that a filesystem is made and mounted with; some are never made on a device. -/
structure FsProfile where
  mkfsOptions : Option (List String)
  mountOptions : List String

def fsProfile (fsType : String) : FsProfile :=
  if fsType ∈ ["ext2", "ext3", "ext4"] then
    ⟨some ["-F", "-E", "nodiscard,lazy_itable_init=1,lazy_journal_init=1"], []⟩
  else if fsType ∈ ["xfs", "btrfs"] then ⟨some ["-f"], []⟩
  else ⟨none, []⟩

/-- The capability of a request to mount a filesystem. -/
structure MountCapability where
  fsType : String
  mountFlags : List String

def defaultFsType : String := "ext4"

/-- The type of the template comes first, then the type of a new blob and the key of older volumes; the capability
overrides them. -/
def publishFsType (context : Params) (capability : Option MountCapability) : String :=
  let named := (((nonEmpty (context "templateBlobFsType")).or (nonEmpty (context "newBlobFsType"))).or
    (nonEmpty (context "fsType"))).getD defaultFsType
  match capability with
  | some mount => if mount.fsType ≠ "" then mount.fsType else named
  | none => named

/-- Options are separated by commas and blanks. -/
def splitOpts (opts : String) : List String :=
  (((cuts (· ∈ [',', ' ', '\t', '\n']) opts.toList).map (trimBoth FileCacheBackend.isWhitespace)).filter
    fun option => option ≠ []).map String.ofList

/-- The options of the template replace the ones of the profile. -/
def publishMountFlags (context : Params) (capability : Option MountCapability) : List String :=
  let flags := match capability with
    | some mount => mount.mountFlags
    | none => []
  let overwrite := match context "templateBlobMountArgsOverwrite" with
    | some opts => splitOpts opts
    | none => []
  flags ++ if overwrite ≠ [] then overwrite
    else (fsProfile (publishFsType context capability)).mountOptions

/-- What a publish does with the device, once its child has made one. -/
structure MountPlan where
  fsType : String
  mountFlags : List String
  size : Nat
  env : ChildEnv
  readonly : Bool
  overlay : Option OverlayDirs
  fromTemplate : Bool
  fsckMode : FsckMode

def mountPlan (lib : UrlLib) (node : NodeConfig) (request : PublishRequest) (capability : Option MountCapability)
    (readonly : Bool) : Except RpcError MountPlan := do
  let context := request.volumeContext
  let fsType := publishFsType context capability
  if request.rawBlock then
    throw ⟨.invalidArgument, "raw block volumes are not supported; request a filesystem (Mount) volume"⟩
  let mountFlags := publishMountFlags context capability
  let size := ((context "size").bind fun text => parseUnsigned (2 ^ 64) text.toList).getD 0
  let env ← orFail .invalidArgument "" (childEnv lib node context request.secrets request.volumeId)
  let deviceReadOnly := (nonEmpty (context "snapshot")).isSome
  let overlay ← publishOverlay node request
  let fromTemplate := (context "fromTemplate").any isEnabled
  let fsckMode ← orFail .invalidArgument "" (FsckMode.parse ((context "fsck").getD ""))
  pure ⟨fsType, mountFlags, size, env, readonly || deviceReadOnly, overlay, fromTemplate, fsckMode⟩

/-- A filesystem that was not just made is checked before it is mounted, on a device that can be written. -/
def MountPlan.runsFsck (plan : MountPlan) (formatted : Bool) : Bool :=
  plan.fsckMode ≠ .off && !formatted && !plan.readonly

end UblkAzblob

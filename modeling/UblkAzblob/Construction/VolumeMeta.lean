import UblkAzblob.Foundation.Paths
import UblkAzblob.Construction.CacheDir

namespace UblkAzblob
open Storage

/-- The directories of an ephemeral overlay. -/
structure OverlayDirs where
  lower : String
  upper : String
  work : String
  scratchRoot : Option String
  deriving DecidableEq

/-- The record of a published volume that is kept beside its target. -/
structure VolumeMeta where
  volumeId : String
  device : String
  pid : Nat
  nbd : Bool
  overlay : Option OverlayDirs
  deriving DecidableEq

/-- A volume in the table of the node service; a re-adopted volume has no owned child. -/
structure Published where
  ownedChild : Bool
  pid : Nat
  device : String
  target : String
  overlay : Option OverlayDirs
  deriving DecidableEq

structure MountEntry where
  mountpoint : String
  fstype : String
  source : String
  superOpts : String
  deriving DecidableEq

def volumeMetaName : String := ".ublk-volume-meta"

def overlayLowerName : String := ".ublk-overlay-lower"

/-- The path of a hidden sibling of the target. -/
def siblingPath (target name : String) : String := String.ofList (joinPath (parentOf target.toList) name.toList)

def metaPath (target : String) : String := siblingPath target volumeMetaName

/-- The path of the temporary file that is renamed into place. -/
def metaTmpPath (target : String) : String := siblingPath target (volumeMetaName ++ ".tmp")

/-- The scratch directory of a volume is named in the alphabet of cache file names. -/
def sanitizeComponent (text : String) : String := sanitizeCacheComponent text

/-- The lower is a sibling of the target; a scratch base moves the other directories. -/
def overlayDirs (target : String) (scratchBase : Option String) (volumeId : String) : OverlayDirs :=
  let lower := siblingPath target overlayLowerName
  match scratchBase with
  | some base =>
      let root := joinPath base.toList (sanitizeComponent volumeId).toList
      ⟨lower, String.ofList (joinPath root "upper".toList), String.ofList (joinPath root "work".toList),
        some (String.ofList root)⟩
  | none => ⟨lower, siblingPath target ".ublk-overlay-upper", siblingPath target ".ublk-overlay-work", none⟩

namespace VolumeMeta

def overlayRows : Option OverlayDirs → List (String × List Char)
  | none => [("overlay", "false".toList)]
  | some dirs =>
      [("overlay", "true".toList), ("lower", dirs.lower.toList), ("upper", dirs.upper.toList),
        ("work", dirs.work.toList)] ++ dirs.scratchRoot.toList.map fun root => ("scratch_root", root.toList)

/-- The keys and values of a record, in the order of its lines. -/
def rows (volume : VolumeMeta) : List (String × List Char) :=
  [("volume_id", volume.volumeId.toList), ("device", volume.device.toList), ("pid", decimal volume.pid),
    ("nbd", if volume.nbd then "true".toList else "false".toList)] ++ overlayRows volume.overlay

/-- Each row is a line of a key, a tab and a value. -/
def serialize (volume : VolumeMeta) : List Char :=
  volume.rows.flatMap fun row => (row.1.toList ++ '\t' :: row.2) ++ ['\n']

/-- A line without a tab is ignored, and a key is trimmed. -/
def parseRow (line : List Char) : Option (List Char × List Char) :=
  (splitOnce '\t' line).map fun parts => (trimBoth FileCacheBackend.isWhitespace parts.1, parts.2)

/-- The last value of a key counts. -/
def find (rows : List (List Char × List Char)) (key : String) : Option (List Char) :=
  (rows.reverse.find? fun row => row.1 = key.toList).map Prod.snd

def parse (text : List Char) : Option VolumeMeta := do
  let rows := (lines text).filterMap parseRow
  let volumeId ← find rows "volume_id"
  let device ← find rows "device"
  let pid ← (find rows "pid").bind (parseUnsigned (2 ^ 32))
  let nbd := find rows "nbd" = some "true".toList
  let overlay ← if find rows "overlay" = some "true".toList then do
      let lower ← find rows "lower"
      let upper ← find rows "upper"
      let work ← find rows "work"
      pure (some ⟨String.ofList lower, String.ofList upper, String.ofList work,
        (find rows "scratch_root").map String.ofList⟩)
    else pure none
  pure ⟨String.ofList volumeId, String.ofList device, pid, nbd, overlay⟩

end VolumeMeta

/-- The text of the files that exist, by their path. -/
abbrev TextFiles := String → Option (List Char)

/-- The record is written to a temporary file that is then renamed. -/
def writeVolumeMeta (files : TextFiles) (target : String) (volume : VolumeMeta) : TextFiles :=
  Function.update (Function.update files (metaTmpPath target) none) (metaPath target) (some volume.serialize)

def readVolumeMeta (files : TextFiles) (target : String) : Option VolumeMeta :=
  (files (metaPath target)).bind VolumeMeta.parse

def removeVolumeMeta (files : TextFiles) (target : String) : TextFiles :=
  Function.update files (metaPath target) none

/-- The fields after the first lone hyphen are the type, the source and the options of a mount. -/
def parseMountLine (line : List Char) : Option MountEntry :=
  let toks := words FileCacheBackend.isWhitespace line
  match toks.findIdx? (· = ['-']) with
  | none => none
  | some sep =>
      if toks.length < 5 ∨ toks.length ≤ sep + 3 then none
      else some ⟨String.ofList (toks.getD 4 []), String.ofList (toks.getD (sep + 1) []),
        String.ofList (toks.getD (sep + 2) []), String.ofList (toks.getD (sep + 3) [])⟩

def parseMountinfo (content : List Char) : List MountEntry := (lines content).filterMap parseMountLine

/-- A target is a merged overlay over one of our lowers, or a device that is mounted directly. -/
def isOurTarget (entry : MountEntry) : Bool :=
  if ('/' :: overlayLowerName.toList) <:+ entry.mountpoint.toList then false
  else
    let isOverlayOurs := entry.fstype = "overlay" ∧ ('/' :: overlayLowerName.toList) <:+: entry.superOpts.toList
    let isDeviceOurs := "/dev/nbd".toList <+: entry.source.toList ∨ "/dev/ublkb".toList <+: entry.source.toList
    isOverlayOurs ∨ isDeviceOurs

def ourTargetMounts (entries : List MountEntry) : List String :=
  (entries.filter isOurTarget).map MountEntry.mountpoint

abbrev VolumeTable := String → Option Published

def VolumeMeta.readopted (volume : VolumeMeta) (target : String) : Published :=
  ⟨false, volume.pid, volume.device, target, volume.overlay⟩

/-- A live target whose record can be read joins the table, unless its volume is there already. -/
def readoptTarget (files : TextFiles) (state : VolumeTable × Nat) (target : String) : VolumeTable × Nat :=
  match readVolumeMeta files target with
  | none => state
  | some volume =>
      if (state.1 volume.volumeId).isSome then state
      else (Function.update state.1 volume.volumeId (some (volume.readopted target)), state.2 + 1)

def readoptTargets (files : TextFiles) (volumes : VolumeTable) (targets : List String) : VolumeTable × Nat :=
  targets.foldl (readoptTarget files) (volumes, 0)

end UblkAzblob

import UblkAzblob.Foundation.FileTree
import UblkAzblob.Construction.Controller
import UblkAzblob.Construction.NodeService

namespace UblkAzblob
open Storage

/-- The answers of the commands that mount and unmount. -/
structure MountTool where
  mount : String → Except Error Unit
  umount : String → CommandOutcome

/-- The host of a node service, seen through the files and directories of the node. -/
def treeHost (tool : MountTool) : NodeHost FileTree where
  pathExists path tree := (tree (pathComponents path.toList)).isSome
  umountCommand path tree := (tool.umount path, tree)
  removeDirAll path tree := (removeDirAll path.toList tree).2

/-- A command that fails ends the call. -/
def commanded (answer : Except Error Unit) : Action FileTree Unit := fun tree => (answer, tree)

/-- The writable layer starts empty, and the merged view is mounted over the snapshot. -/
def mountOverlay (tool : MountTool) (target : String) (dirs : OverlayDirs) : Action FileTree Unit := do
  removeDirAll dirs.upper.toList
  removeDirAll dirs.work.toList
  .forEach [dirs.lower, dirs.upper, dirs.work] fun dir =>
    .withContext s!"create overlay dir {dir}" (createDirAll dir.toList)
  commanded (tool.mount dirs.lower)
  .withContext s!"create overlay target {target}" (createDirAll target.toList)
  commanded (tool.mount target)

end UblkAzblob

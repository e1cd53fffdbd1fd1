import Mathlib.Algebra.GroupWithZero.Nat
import UblkAzblob.Foundation.Action
import UblkAzblob.Foundation.Paths

namespace Storage

/-- The components of a path, from the root when it is absolute. -/
def pathComponents (path : List Char) : List (List Char) :=
  (if path.head? = some '/' then [['/']] else []) ++ (fields '/' path).filter fun segment => !skippedSegment segment

inductive TreeEntry where
  | directory
  | file
  deriving DecidableEq

/-- The directories and files, by the components of their path. -/
abbrev FileTree := List (List Char) → Option TreeEntry

/-- The entries at and below a path are removed; there may be none. -/
def removeDirAll (path : List Char) : Action FileTree Unit :=
  .modify fun tree place => if pathComponents path <+: place then none else tree place

/-- The missing directories of a path are made, unless a file is in the way. -/
def createDirAll (path : List Char) : Action FileTree Unit := fun tree =>
  if (pathComponents path).inits.any fun place => tree place = some .file then
    (.error ["File exists (os error 17)"], tree)
  else (.ok (), fun place => if tree place = none ∧ place <+: pathComponents path then some .directory else tree place)

theorem fields_concat (separator : Char) (first rest : List Char) :
    fields separator (first ++ separator :: rest) = fields separator first ++ fields separator rest := by
  induction first with
  | nil => simp [fields]
  | cons char more ih =>
      rw [List.cons_append, fields, fields]
      split
      · rw [ih]
        rfl
      · rw [ih]
        cases parts : fields separator more with
        | nil => exact absurd parts (fields_ne_nil _ _)
        | cons part others => rfl

/-- A name below a directory is one component more. -/
theorem pathComponents_joinPath (base : List Char) {name : List Char} (plain : '/' ∉ name)
    (kept : skippedSegment name = false) :
    pathComponents (joinPath base name) = pathComponents base ++ [name] := by
  have single : (fields '/' name).filter (fun segment => !skippedSegment segment) = [name] := by
    rw [fields_plain plain]
    simp [kept]
  unfold joinPath slashed pathComponents
  split
  · rename_i ends
    rcases ends with rfl | ends
    · have relative : name.head? ≠ some '/' := fun start => plain (List.mem_of_head? start)
      rw [List.nil_append, single, if_neg relative]
      rfl
    · obtain ⟨front, rfl⟩ := List.getLast?_eq_some_iff.mp ends
      have start : ((front ++ ['/']) ++ name).head? = (front ++ ['/']).head? := by cases front <;> rfl
      rw [start, List.append_assoc front, List.singleton_append, fields_concat, fields_concat, List.filter_append,
        List.filter_append, single]
      simp [fields, skippedSegment]
  · rename_i open'
    rw [not_or] at open'
    have start : ((base ++ ['/']) ++ name).head? = base.head? := by
      cases base with
      | nil => exact absurd rfl open'.1
      | cons char rest => rfl
    rw [start, List.append_assoc base, List.singleton_append, fields_concat, List.filter_append, single,
      List.append_assoc]

section Frames

variable {tree : FileTree} {place : List (List Char)} {path : List Char}

/-- A removal leaves what is not below its path. -/
theorem removeDirAll_frame (outside : ¬ pathComponents path <+: place) :
    (removeDirAll path tree).2 place = tree place := by
  rw [removeDirAll, Action.modify_apply]
  exact if_neg outside

/-- A new directory leaves what is not on the way to it. -/
theorem createDirAll_frame (outside : ¬ place <+: pathComponents path) :
    (createDirAll path tree).2 place = tree place := by
  unfold createDirAll
  split
  · rfl
  · exact if_neg fun made => outside made.2

end Frames
end Storage

import UblkAzblob.Construction.Overlay
import UblkAzblob.Proof.CacheDir

namespace UblkAzblob
open Storage

section Names

/-- A sanitized name is a component of a path. -/
theorem sanitizeComponent_plain {text : String} (filled : text ≠ "") :
    '/' ∉ (sanitizeComponent text).toList ∧ skippedSegment (sanitizeComponent text).toList = false := by
  have letters : ∀ char ∈ (sanitizeComponent text).toList, char ≠ '/' ∧ char ≠ '.' := by
    intro char member
    rw [sanitizeComponent, sanitizeCacheComponent, String.toList_ofList] at member
    obtain ⟨original, _, rfl⟩ := List.mem_map.mp member
    unfold sanitizeCacheChar
    split
    · rename_i allowed
      constructor
      · rintro rfl
        exact absurd allowed (by decide)
      · rintro rfl
        exact absurd allowed (by decide)
    · decide
  refine ⟨fun slash => (letters '/' slash).1 rfl, ?_⟩
  have nonempty : (sanitizeComponent text).toList ≠ [] := by
    rw [sanitizeComponent, sanitizeCacheComponent, String.toList_ofList]
    simpa using filled
  have undotted : (sanitizeComponent text).toList ≠ ['.'] := by
    intro dot
    exact (letters '.' (by rw [dot]; exact List.mem_cons_self)).2 rfl
  simp [skippedSegment, nonempty, undotted]

theorem sanitizeComponent_ne_iff (first second : String) :
    sanitizeComponent first ≠ sanitizeComponent second ↔ DifferPlainly first.toList second.toList := by
  rw [← map_sanitizeCacheChar_ne_iff, sanitizeComponent, sanitizeComponent, sanitizeCacheComponent,
    sanitizeCacheComponent, Ne, String.ofList_inj]

end Names

section Roots

/-- The directory of a volume below the scratch base. -/
def scratchRoot (base volumeId : String) : List Char := joinPath base.toList (sanitizeComponent volumeId).toList

theorem scratchRoot_components (base : String) {volumeId : String} (filled : volumeId ≠ "") :
    pathComponents (scratchRoot base volumeId) =
      pathComponents base.toList ++ [(sanitizeComponent volumeId).toList] :=
  pathComponents_joinPath _ (sanitizeComponent_plain filled).1 (sanitizeComponent_plain filled).2

variable {base first second : String} {place : List (List Char)}

/-- What is inside the directory of one volume is neither inside nor above the directory of another. -/
theorem scratchRoot_apart (filled : first ≠ "") (filledSecond : second ≠ "")
    (names : sanitizeComponent first ≠ sanitizeComponent second)
    (inside : pathComponents (scratchRoot base second) <+: place) (more : List (List Char)) :
    ¬ pathComponents (scratchRoot base first) ++ more <+: place ∧
      ¬ place <+: pathComponents (scratchRoot base first) ++ more := by
  have clash (whole : List (List Char))
      (left : pathComponents base.toList ++ [(sanitizeComponent first).toList] <+: whole)
      (right : pathComponents base.toList ++ [(sanitizeComponent second).toList] <+: whole) : False := by
    have same := List.prefix_of_prefix_length_le left right (by simp)
    have single := (List.prefix_append_right_inj _).mp same
    exact names (String.toList_inj.mp (by simpa using single))
  rw [scratchRoot_components base filled]
  rw [scratchRoot_components base filledSecond] at inside
  constructor
  · intro above
    exact clash place ((List.prefix_append _ _).trans above) inside
  · intro below
    exact clash _ (List.prefix_append _ _) (inside.trans below)

end Roots

section Frames

variable {target base volumeId : String} {place : List (List Char)}

/-- The mount points of a volume, which are beside its target, are neither on the way to a place nor above it. -/
def AwayFromTarget (target : String) (place : List (List Char)) : Prop :=
  ∀ path ∈ [target, siblingPath target overlayLowerName],
    ¬ place <+: pathComponents path.toList ∧ ¬ pathComponents path.toList <+: place

/-- A place is away from all directories of an overlay. -/
def Untouched (dirs : OverlayDirs) (place : List (List Char)) : Prop :=
  ∀ path ∈ [dirs.lower, dirs.upper, dirs.work] ++ dirs.scratchRoot.toList,
    ¬ pathComponents path.toList <+: place ∧ ¬ place <+: pathComponents path.toList

/-- A new overlay leaves the places that are away from its directories and from its target. -/
theorem mountOverlay_frame {dirs : OverlayDirs} (tool : MountTool) (untouched : Untouched dirs place)
    (away : AwayFromTarget target place) (tree : FileTree) :
    (mountOverlay tool target dirs tree).2 place = tree place := by
  have removed {path : String} (member : path ∈ [dirs.lower, dirs.upper, dirs.work]) :
      Action.Keeps (fun after => after place = tree place) (removeDirAll path.toList) := by
    intro after kept
    exact (removeDirAll_frame (untouched path (List.mem_append_left _ member)).1).trans kept
  have created {path : String} (member : path ∈ [dirs.lower, dirs.upper, dirs.work]) :
      Action.Keeps (fun after => after place = tree place) (createDirAll path.toList) := by
    intro after kept
    exact (createDirAll_frame (untouched path (List.mem_append_left _ member)).2).trans kept
  have targeted : Action.Keeps (fun after => after place = tree place) (createDirAll target.toList) := by
    intro after kept
    exact (createDirAll_frame (away target (by simp)).1).trans kept
  have tooled (answer : Except Error Unit) :
      Action.Keeps (fun after => after place = tree place) (commanded answer) := fun _ kept => kept
  have whole : Action.Keeps (fun after => after place = tree place) (mountOverlay tool target dirs) := by
    refine Action.keeps_bind (removed (by simp)) fun _ _ _ first _ => ?_
    refine Action.keeps_bind (removed (by simp)) (fun _ _ _ second _ => ?_) _ first
    refine Action.keeps_bind (Action.keeps_forEach fun dir member => Action.keeps_withContext (created member))
      (fun _ _ _ third _ => ?_) _ second
    refine Action.keeps_bind (tooled _) (fun _ _ _ fourth _ => ?_) _ third
    refine Action.keeps_bind (Action.keeps_withContext targeted) (fun _ _ _ fifth _ => ?_) _ fourth
    exact tooled _ _ fifth
  exact whole tree rfl

theorem umount_world (tool : MountTool) (path : String) (state : NodeState FileTree) :
    (umount (treeHost tool) path state).2.world = state.world := by
  unfold umount NodeHost.unmounts
  dsimp only
  split <;> rfl

/-- The end of an overlay leaves the places that are away from its directories. -/
theorem umountOverlay_frame {dirs : OverlayDirs} (tool : MountTool) (untouched : Untouched dirs place)
    (state : NodeState FileTree) :
    (umountOverlay (treeHost tool) target dirs state).2.world place = state.world place := by
  have unmounted (path : String) :
      Action.Keeps (fun after : NodeState FileTree => after.world place = state.world place)
        (umount (treeHost tool) path) := by
    intro after kept
    rw [umount_world]
    exact kept
  have removed : Action.Keeps (fun after : NodeState FileTree => after.world place = state.world place)
      (Action.forEach ([dirs.upper, dirs.work, dirs.lower] ++ dirs.scratchRoot.toList) fun dir =>
        Action.modify fun state => { state with world := (treeHost tool).removeDirAll dir state.world }) := by
    refine Action.keeps_forEach fun dir member after kept => ?_
    have listed : dir ∈ [dirs.lower, dirs.upper, dirs.work] ++ dirs.scratchRoot.toList := by
      simp only [List.mem_cons, List.mem_append, List.not_mem_nil, or_false] at member ⊢
      tauto
    exact (removeDirAll_frame (untouched dir listed).1).trans kept
  have whole : Action.Keeps (fun after : NodeState FileTree => after.world place = state.world place)
      (umountOverlay (treeHost tool) target dirs) := by
    refine Action.keeps_bind (fun _ kept => kept) fun _ _ _ first _ => ?_
    refine Action.keeps_bind (unmounted target) (fun _ _ _ second _ => ?_) _ first
    refine Action.keeps_bind (unmounted dirs.lower) (fun _ _ _ third _ => ?_) _ second
    exact removed _ third
  exact whole state rfl

end Frames

section Isolation

/-- A path is below a directory. -/
def StrictlyInside (base path : List Char) : Prop :=
  pathComponents base <+: pathComponents path ∧ pathComponents base ≠ pathComponents path

/-- Nothing that the first volume does with its overlay changes the directories of the second. -/
def SparesScratch (base first second : String) : Prop :=
  ∀ (tool : MountTool) (target : String) (place : List (List Char)),
    pathComponents (scratchRoot base second) <+: place → AwayFromTarget target place →
      (∀ tree, (mountOverlay tool target (overlayDirs target (some base) first) tree).2 place = tree place) ∧
      ∀ state : NodeState FileTree,
        (umountOverlay (treeHost tool) target (overlayDirs target (some base) first) state).2.world place =
          state.world place

/-- The scratch directories of two volumes are apart below the base, and neither volume changes those of the other. -/
structure ScratchIsolated (base first second : String) : Prop where
  roots : ∀ target, (overlayDirs target (some base) first).scratchRoot = some (String.ofList (scratchRoot base first)) ∧
    (overlayDirs target (some base) second).scratchRoot = some (String.ofList (scratchRoot base second))
  different : scratchRoot base first ≠ scratchRoot base second
  notAbove : ¬ pathComponents (scratchRoot base first) <+: pathComponents (scratchRoot base second)
  notBelow : ¬ pathComponents (scratchRoot base second) <+: pathComponents (scratchRoot base first)
  firstInside : StrictlyInside base.toList (scratchRoot base first)
  secondInside : StrictlyInside base.toList (scratchRoot base second)
  spares : SparesScratch base first second
  spared : SparesScratch base second first

theorem strictlyInside_scratchRoot (base : String) {volumeId : String} (filled : volumeId ≠ "") :
    StrictlyInside base.toList (scratchRoot base volumeId) := by
  rw [StrictlyInside, scratchRoot_components base filled]
  exact ⟨List.prefix_append _ _, by simp⟩

theorem untouched_overlayDirs {base target first second : String} {place : List (List Char)} (filled : first ≠ "")
    (filledSecond : second ≠ "") (names : sanitizeComponent first ≠ sanitizeComponent second)
    (inside : pathComponents (scratchRoot base second) <+: place) (away : AwayFromTarget target place) :
    Untouched (overlayDirs target (some base) first) place := by
  have apart := scratchRoot_apart filled filledSecond names inside
  have child {name : String} (plain : '/' ∉ name.toList) (kept : skippedSegment name.toList = false) :
      ¬ pathComponents (joinPath (scratchRoot base first) name.toList) <+: place ∧
        ¬ place <+: pathComponents (joinPath (scratchRoot base first) name.toList) := by
    rw [pathComponents_joinPath _ plain kept]
    exact apart [name.toList]
  intro path member
  simp only [overlayDirs, Option.toList_some, List.cons_append, List.nil_append, List.mem_cons, List.not_mem_nil,
    or_false] at member
  rcases member with rfl | rfl | rfl | rfl
  · exact (away _ (by simp)).symm
  · rw [String.toList_ofList]
    exact child (by decide) (by decide)
  · rw [String.toList_ofList]
    exact child (by decide) (by decide)
  · rw [String.toList_ofList]
    have whole := apart []
    rwa [List.append_nil] at whole

theorem sparesScratch_of_names {base first second : String} (filled : first ≠ "") (filledSecond : second ≠ "")
    (names : sanitizeComponent first ≠ sanitizeComponent second) : SparesScratch base first second := by
  intro tool target place inside away
  have untouched := untouched_overlayDirs filled filledSecond names inside away
  exact ⟨mountOverlay_frame tool untouched away, umountOverlay_frame tool untouched⟩

theorem makeVolumeIdRo_ne_empty (account container blob : String) : makeVolumeIdRo account container blob ≠ "" := by
  intro empty
  have text := congrArg String.toList empty
  simp [makeVolumeIdRo, roVolumeIdPrefix, toString] at text

/-- Two read-only volumes have scratch directories of their own exactly when their ids differ plainly. -/
theorem overlay_scratch_isolated_iff (base account container blob account' container' blob' : String) :
    ScratchIsolated base (makeVolumeIdRo account container blob) (makeVolumeIdRo account' container' blob') ↔
      DifferPlainly (makeVolumeIdRo account container blob).toList (makeVolumeIdRo account' container' blob').toList := by
  have filled := makeVolumeIdRo_ne_empty account container blob
  have filledOther := makeVolumeIdRo_ne_empty account' container' blob'
  rw [← sanitizeComponent_ne_iff]
  constructor
  · intro isolated same
    exact isolated.different (by rw [scratchRoot, scratchRoot, same])
  · intro names
    have apart := @scratchRoot_apart base _ _ _ filled filledOther names List.prefix_rfl []
    rw [List.append_nil] at apart
    refine ⟨fun _ => ⟨rfl, rfl⟩, ?_, apart.1, apart.2, strictlyInside_scratchRoot base filled,
      strictlyInside_scratchRoot base filledOther, sparesScratch_of_names filled filledOther names,
      sparesScratch_of_names filledOther filled (Ne.symm names)⟩
    intro same
    exact apart.1 (by rw [same])

/-- A file that a pod has written to the layer of the first volume. -/
def writtenLayer : FileTree := fun place =>
  if place = pathComponents "/scratch/ro_images_golden_a_img/upper/data".toList then some .file else none

def quietTool : MountTool := ⟨fun _ => .ok (), fun _ => .exited true ""⟩

/-- Publishing a second volume empties the layer of the first, whose blob has a dot for the underscore. -/
theorem overlay_layer_removed :
    makeVolumeIdRo "images" "golden" "a.img" ≠ makeVolumeIdRo "images" "golden" "a_img" ∧
      (overlayDirs "/pods/a/mount" (some "/scratch") (makeVolumeIdRo "images" "golden" "a.img")).scratchRoot =
        (overlayDirs "/pods/b/mount" (some "/scratch") (makeVolumeIdRo "images" "golden" "a_img")).scratchRoot ∧
      let place := pathComponents "/scratch/ro_images_golden_a_img/upper/data".toList
      let dirs := overlayDirs "/pods/b/mount" (some "/scratch") (makeVolumeIdRo "images" "golden" "a_img")
      writtenLayer place = some .file ∧ (mountOverlay quietTool "/pods/b/mount" dirs writtenLayer).1 = .ok () ∧
        (mountOverlay quietTool "/pods/b/mount" dirs writtenLayer).2 place = none ∧
        ¬ ScratchIsolated "/scratch" (makeVolumeIdRo "images" "golden" "a.img")
          (makeVolumeIdRo "images" "golden" "a_img") := by
  refine ⟨by decide, by decide +kernel, by decide +kernel, rfl, by decide +kernel, ?_⟩
  intro isolated
  exact isolated.different (by decide +kernel)

end Isolation
end UblkAzblob

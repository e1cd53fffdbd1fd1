import UblkAzblob.Construction.MountPlan
import UblkAzblob.Proof.Controller

namespace UblkAzblob
open Storage

section Kinds

/-- The kinds of volumes that a request can select. -/
inductive VolumeKind where
  | plain
  | copied
  | snapshot
  deriving DecidableEq

/-- A template with a snapshot is mounted directly, and any other template is copied. -/
def volumeKind (lib : UrlLib) (request : CreateVolumeRequest) : VolumeKind :=
  match snapshotTemplate lib request, templateUrl request with
  | some _, _ => .snapshot
  | none, some _ => .copied
  | none, none => .plain

def coordinationKeys : List String := ["coordination", "leaseNamespace", "recoveryTimeoutSecs", "leaseDurationSecs"]

/-- The parameters that the node acts on, for each kind of volume. -/
def actedKeys : VolumeKind → List String
  | .plain => tuningParams.map Prod.fst ++ coordinationKeys ++ ["fsck", "newBlobFsType"]
  | .copied => tuningParams.map Prod.fst ++ coordinationKeys ++
      ["fsck", "newBlobFsType", "templateBlobFsType", "templateBlobMountArgsOverwrite"]
  | .snapshot => tuningParams.map Prod.fst ++
      ["overlay", "overlayScratchDir", "newBlobFsType", "templateBlobFsType", "templateBlobMountArgsOverwrite"]

end Kinds

section Reads

variable {lib : UrlLib} {node : NodeConfig} {first second : PublishRequest}

/-- The plan extends what the table of the node keeps of a volume. -/
theorem mountPlan_prepared (request : PublishRequest) (capability : Option MountCapability) (readonly : Bool) :
    (do
      let plan ← mountPlan lib node request capability readonly
      pure (⟨request.targetPath, plan.env, plan.overlay⟩ : Attached)) = preparePublish lib node request := by
  unfold mountPlan preparePublish
  dsimp only
  cases request.rawBlock with
  | true => rfl
  | false =>
      cases childEnv lib node request.volumeContext request.secrets request.volumeId with
      | error error => rfl
      | ok env =>
          cases publishOverlay node request with
          | error error => rfl
          | ok overlay => cases FsckMode.parse ((request.volumeContext "fsck").getD "") <;> rfl

end Reads

section Environment

theorem envValue_append_of_absent {env more : ChildEnv} {name : String} (absent : ∀ pair ∈ more, pair.1 ≠ name) :
    envValue (env ++ more) name = envValue env name := by
  have missing : (more.reverse.find? fun pair => pair.1 = name) = none := by
    simpa [List.find?_eq_none] using absent
  rw [envValue, envValue, List.reverse_append, List.find?_append, missing, Option.none_or]

theorem envValue_append_of_some {env more : ChildEnv} {name value : String} (found : envValue more name = some value) :
    envValue (env ++ more) name = some value := by
  rw [envValue] at found ⊢
  obtain ⟨pair, here, rfl⟩ := Option.map_eq_some_iff.mp found
  rw [List.reverse_append, List.find?_append, here]
  rfl

/-- Each variable belongs to one parameter. -/
theorem envValue_params {params : List (String × String)} {context : Params} {param : String × String} {value : String}
    (distinct : (params.map Prod.snd).Nodup) (listed : param ∈ params) (filled : nonEmpty (context param.1) = some value) :
    envValue (params.flatMap fun param => optionalPair param.2 (nonEmpty (context param.1))) param.2 = some value := by
  induction params with
  | nil => cases listed
  | cons first rest ih =>
      rw [List.map_cons, List.nodup_cons] at distinct
      rw [List.flatMap_cons]
      rcases List.mem_cons.mp listed with rfl | later
      · have absent : ∀ pair ∈ rest.flatMap (fun param => optionalPair param.2 (nonEmpty (context param.1))),
            pair.1 ≠ param.2 := by
          intro pair member same
          obtain ⟨other, inside, made⟩ := List.mem_flatMap.mp member
          rw [optionalPair_key made] at same
          exact distinct.1 (same ▸ List.mem_map_of_mem inside)
        rw [envValue_append_of_absent absent, filled]
        simp [optionalPair, envValue]
      · exact envValue_append_of_some (ih distinct.2 later)

/-- A tuning value of the context that is not empty is in the environment of the child. -/
theorem childEnv_tuning {lib : UrlLib} {node : NodeConfig} {context secrets : Params} {volumeId : String}
    {env : ChildEnv} {param : String × String} {value : String}
    (built : childEnv lib node context secrets volumeId = .ok env) (listed : param ∈ tuningParams)
    (set : context param.1 = some value) (filled : value ≠ "") : envValue env param.2 = some value := by
  have named : nonEmpty (context param.1) = some value := by simp [nonEmpty, set, filled]
  have tuned : envValue (tuningEnv context) param.2 = some value := by
    refine envValue_params (?_ : (tuningParams.map Prod.snd).Nodup) listed named
    decide
  have other : param.2 ≠ "UBLK_CACHE_INSTANCE" := by
    have names : ∀ param ∈ tuningParams, param.2 ≠ "UBLK_CACHE_INSTANCE" := by decide
    exact names param listed
  unfold childEnv at built
  dsimp only at built
  split at built
  · cases built
  split at built
  · cases built
  obtain rfl := Except.ok.inj built
  rw [envValue_append_of_absent]
  · exact envValue_append_of_some tuned
  · intro pair member
    split at member
    · rw [List.mem_singleton.mp member]
      exact Ne.symm other
    · cases member

end Environment

section Delivery

/-- The parameters that the node acts on reach it. -/
structure Delivered (lib : UrlLib) (request : CreateVolumeRequest) (volume : Volume) : Prop where
  context : ∀ key ∈ actedKeys (volumeKind lib request), ∀ value, request.parameters key = some value →
    volume.volumeContext key = some value
  environment : ∀ node secrets env, childEnv lib node volume.volumeContext secrets volume.volumeId = .ok env →
    ∀ param ∈ tuningParams, ∀ value, request.parameters param.1 = some value → value ≠ "" →
      envValue env param.2 = some value

/-- The keys that the context of a volume takes from the parameters. -/
theorem readOnlyVolume_forwards (request : CreateVolumeRequest) (tmpl : TemplateBlobRef) (sourceSize : Nat)
    {key value : String} (listed : key ∈ actedKeys .snapshot) (set : request.parameters key = some value) :
    (readOnlyVolume request tmpl sourceSize).volumeContext key = some value := by
  have forwarded : key ∈ tuningParams.map Prod.fst ∨ key ∈ templateKeys := by
    simp only [actedKeys, templateKeys, List.mem_append, List.mem_cons, List.not_mem_nil, or_false] at listed ⊢
    tauto
  simp only [readOnlyVolume, forwardTuning, forwardParams_apply, set, Option.some_or]
  rcases forwarded with tuning | template
  · rw [if_pos tuning]
  · rw [if_pos template, ite_self]

theorem readWriteVolume_forwards (config : DriverConfig) (request : CreateVolumeRequest)
    (account container blob : String) (size : Nat) (fromTemplate : Bool) {key value : String}
    (listed : key ∈ actedKeys (if fromTemplate then .copied else .plain)) (checked : key ≠ "fsck")
    (set : request.parameters key = some value) :
    (readWriteVolume config request account container blob size fromTemplate).volumeContext key = some value := by
  have forwarded : key ∈ tuningParams.map Prod.fst ∨ key ∈ coordinationKeys ∨ key = "newBlobFsType" ∨
      fromTemplate = true ∧ (key = "templateBlobFsType" ∨ key = "templateBlobMountArgsOverwrite") := by
    cases fromTemplate with
    | false =>
        simp only [Bool.false_eq_true, if_false, actedKeys, List.mem_append, List.mem_cons, List.not_mem_nil,
          or_false] at listed ⊢
        tauto
    | true =>
        simp only [if_true, actedKeys, List.mem_append, List.mem_cons, List.not_mem_nil, or_false] at listed ⊢
        tauto
  simp only [readWriteVolume, forwardTuning, forwardParams_apply, set, Option.some_or]
  rcases forwarded with tuning | lease | rfl | ⟨rfl, named⟩
  · rw [if_pos tuning]
  · rw [if_pos (show key ∈ ["coordination", "leaseNamespace", "recoveryTimeoutSecs", "leaseDurationSecs"] from lease),
      ite_self]
  · cases fromTemplate <;> simp [forwardParams_apply, set]
  · rcases named with rfl | rfl
    · simp [forwardParams_apply, set]
    · simp [forwardParams_apply, set]

/-- The parameters of a volume reach its node exactly when it is a snapshot or no check of its filesystem is asked for. -/
theorem parameters_delivered_iff {lib : UrlLib} {config : DriverConfig} {answers : StorageAnswers}
    {request : CreateVolumeRequest} {volume : Volume} (created : createVolume lib config answers request = .ok volume) :
    Delivered lib request volume ↔ volumeKind lib request = .snapshot ∨ request.parameters "fsck" = none := by
  have tuningActed (kind : VolumeKind) {param : String × String} (listed : param ∈ tuningParams) :
      param.1 ∈ actedKeys kind ∧ param.1 ≠ "fsck" := by
    have member : param.1 ∈ tuningParams.map Prod.fst := List.mem_map_of_mem listed
    constructor
    · cases kind <;> simp only [actedKeys, List.mem_append] <;> tauto
    · rintro same
      rw [same] at member
      exact absurd member (by decide)
  have delivered (kept : ∀ key ∈ actedKeys (volumeKind lib request), ∀ value, request.parameters key = some value →
      volume.volumeContext key = some value) : Delivered lib request volume :=
    ⟨kept, fun _ _ _ built param listed value set filled =>
      childEnv_tuning built listed (kept _ (tuningActed _ listed).1 value set) filled⟩
  rcases createVolume_kinds created with ⟨tmpl, size, found, made⟩ | ⟨copied, pvcName, pvcNamespace, size, _, made⟩
  · have kind : volumeKind lib request = .snapshot := by
      rw [volumeKind, found]
    refine iff_of_true (delivered fun key listed value set => ?_) (.inl kind)
    rw [kind] at listed
    rw [made]
    exact readOnlyVolume_forwards request tmpl size listed set
  · have kind : volumeKind lib request = if (templateUrl request).isSome then .copied else .plain := by
      rw [volumeKind, copied]
      cases templateUrl request <;> rfl
    have writable : volumeKind lib request ≠ .snapshot := by
      rw [kind]
      split <;> decide
    have checkable : "fsck" ∈ actedKeys (volumeKind lib request) := by
      rw [kind]
      split <;> decide
    have dropped : volume.volumeContext "fsck" = none := by
      rw [made]
      exact (readWriteVolume_context _ _ _ _ _ _ _).2.2.2.2.2.2
    constructor
    · intro reach
      cases asked : request.parameters "fsck" with
      | none => exact .inr rfl
      | some mode => cases dropped.symm.trans (reach.context "fsck" checkable mode asked)
    · rintro (snapshot | unchecked)
      · exact absurd snapshot writable
      · refine delivered fun key listed value set => ?_
        rw [made]
        refine readWriteVolume_forwards config request _ _ _ size _ (kind ▸ listed) ?_ set
        rintro rfl
        cases unchecked.symm.trans set

/-- A request for a blob of its own whose filesystem is to be checked. -/
def checkedRequest : CreateVolumeRequest :=
  ⟨"pvc-a", 1048576, fun key => if key = "fsck" then some "force" else none, fun _ => none⟩

/-- The check that the parameters ask for is not in the plan of the node. -/
theorem fsck_not_delivered :
    ∃ volume, createVolume sampleLib sampleConfig sampleAnswers checkedRequest = .ok volume ∧
      volumeKind sampleLib checkedRequest = .plain ∧ checkedRequest.parameters "fsck" = some "force" ∧
      volume.volumeContext "fsck" = none ∧
      (mountPlan sampleLib sampleNode ⟨volume.volumeId, "/pods/a/mount", volume.volumeContext, fun _ => none, false⟩ none
        false).toOption.map MountPlan.fsckMode = some .off ∧
      ¬ Delivered sampleLib checkedRequest volume := by
  refine ⟨_, rfl, by decide +kernel, rfl, by decide +kernel, by decide +kernel, ?_⟩
  intro reach
  have kept := reach.context "fsck" (by decide +kernel) "force" rfl
  exact absurd kept (by decide +kernel)

theorem parameters_delivered_iff_disk :
    ∃ volume, createVolume sampleLib sampleConfig sampleAnswers (diskRequest "pvc-a") = .ok volume ∧
      Delivered sampleLib (diskRequest "pvc-a") volume :=
  ⟨_, diskRequest_created (by decide), (parameters_delivered_iff (diskRequest_created (by decide))).mpr (.inr rfl)⟩

end Delivery
end UblkAzblob

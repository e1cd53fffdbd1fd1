import UblkAzblob.Construction.VolumeLifecycle
import UblkAzblob.Proof.BlobService
import UblkAzblob.Proof.Provisioning

namespace UblkAzblob
open Storage

section Frame

variable {lib : UrlLib} {config : DriverConfig} {request : CreateVolumeRequest} {run : ProvisionRun}
  {base world after : BlobWorld} {spot : BlobAddress}

/-- Only the blob at one address may differ. -/
structure AgreesOutside (base : BlobWorld) (spot : BlobAddress) (world : BlobWorld) : Prop where
  snapshots : world.snapshots = base.snapshots
  blobs : ∀ address, address ≠ spot → world.blobs address = base.blobs address

namespace AgreesOutside

theorem refl (base : BlobWorld) (spot : BlobAddress) : AgreesOutside base spot base := ⟨rfl, fun _ _ => rfl⟩

theorem put (agrees : AgreesOutside base spot world) (blob : Option PageBlob) :
    AgreesOutside base spot (world.put spot blob) := by
  constructor
  · exact agrees.snapshots
  · intro address other
    rw [BlobWorld.put_other other, agrees.blobs address other]

end AgreesOutside

theorem createBlob_outside (bytes : Nat) : Action.Keeps (AgreesOutside base spot) (createBlob run spot bytes) :=
  fun _ agrees => agrees.put _

/-- A copy writes to its destination only, however it ends. -/
theorem copyTemplate_outside (tmpl : TemplateBlobRef) (source : BlobAddress) (auth : AuthConfig) (total : Nat) :
    Action.Keeps (AgreesOutside base spot) (copyTemplate run tmpl source spot auth total) := by
  have token : Action.Keeps (AgreesOutside base spot) (copyToken run tmpl auth) := by
    unfold copyToken
    split
    · exact fun _ agrees => agrees
    · exact Action.keeps_withContext fun _ agrees => agrees
  apply Action.keeps_bind token
  intro _ minted world agrees _
  split
  · unfold copyPagesFromUrl
    split
    · split
      · exact agrees.put _
      · exact agrees
    · exact agrees
  · exact agrees.put _

/-- A call that creates a volume changes no blob but its own. -/
theorem provision_outside :
    AgreesOutside world (ownAddress config request) (provision lib config run request world).2 := by
  apply provision_keeps
  · exact fun _ bytes => createBlob_outside bytes
  · exact fun tmpl _ auth _ between _ _ _ _ agrees => copyTemplate_outside tmpl _ auth _ between agrees
  · exact .refl world _

/-- A call for a snapshot changes no blob at all. -/
theorem provision_snapshot {tmpl : TemplateBlobRef} (pinned : snapshotTemplate lib request = some tmpl) :
    (provision lib config run request world).2 = world := by
  have kept : ∀ before, before = world → (provision lib config run request before).2 = world := by
    apply provision_keeps
    · intro plain
      rw [pinned] at plain
      cases plain
    · intro _ _ _ _ _ copied
      rw [snapshotTemplate_of_copied copied] at pinned
      cases pinned
  exact kept world rfl

end Frame

section Delete

variable {config : DriverConfig} {run : DeleteRun} {world : BlobWorld} {volumeId : String} {secrets : Params}

/-- The blob that the deletion of an id asks the service to drop. -/
def condemned (config : DriverConfig) (volumeId : String) : Option BlobAddress :=
  match parseVolumeId volumeId with
  | .ok (false, account, container, blob) => some ⟨accountEndpoint config account, container, blob⟩
  | .ok (true, _) => none
  | .error _ => none

/-- A blob that is there is not reported as missing. -/
def DeleteRun.Honest (run : DeleteRun) : Prop :=
  ∀ performed error, run.answer = .failed performed error → error.status ≠ some 404

theorem serveDelete_cases (answer : ServiceAnswer) (address : BlobAddress) (world : BlobWorld) :
    (serveDelete answer address world).2 = world ∨ (serveDelete answer address world).2 = world.put address none := by
  cases answer with
  | served =>
      rw [serveDelete]
      split
      · exact .inr rfl
      · exact .inl rfl
  | failed performed error =>
      cases performed with
      | false => exact .inl rfl
      | true => exact .inr rfl

/-- A deletion that is acknowledged leaves no blob. -/
theorem serveDelete_ok (honest : run.Honest) {address : BlobAddress}
    (done : deleteBlob (fun address => (serveDelete run.answer address world).1) address = .ok ()) :
    (serveDelete run.answer address world).2.blobs address = none := by
  unfold deleteBlob at done
  cases answered : run.answer with
  | served =>
      rw [serveDelete]
      split
      · exact BlobWorld.put_blobs _ _
      · rename_i missing
        exact Option.not_isSome_iff_eq_none.mp missing
  | failed performed error =>
      rw [answered] at done
      dsimp only [serveDelete] at done
      rw [if_neg (honest performed error answered)] at done
      cases done

/-- What a deletion does to the blobs. -/
theorem removeVolume_cases (config : DriverConfig) (run : DeleteRun) (volumeId : String) (secrets : Params)
    (world : BlobWorld) :
    (removeVolume config run ⟨volumeId, secrets⟩ world).2 = world ∨ ∃ address, condemned config volumeId = some address ∧
      (removeVolume config run ⟨volumeId, secrets⟩ world).2 = world.put address none := by
  unfold removeVolume deleteVolume condemned
  dsimp only
  split
  · exact .inl rfl
  split
  · exact .inl rfl
  rename_i readOnly account container blob read
  rw [read]
  cases readOnly with
  | true => exact .inl rfl
  | false =>
      rw [if_neg (by decide)]
      split
      · exact .inl rfl
      · rename_i address auth built
        obtain rfl := buildBackend_address built
        cases serveDelete_cases run.answer ⟨accountEndpoint config account, container, blob⟩ world with
        | inl same => exact .inl same
        | inr dropped => exact .inr ⟨_, rfl, dropped⟩

/-- A deletion that succeeds leaves no blob behind its id. -/
theorem removeVolume_ok (honest : run.Honest)
    (done : (removeVolume config run ⟨volumeId, secrets⟩ world).1 = .ok ()) {address : BlobAddress}
    (doomed : condemned config volumeId = some address) :
    (removeVolume config run ⟨volumeId, secrets⟩ world).2.blobs address = none := by
  unfold removeVolume deleteVolume at done ⊢
  unfold condemned at doomed
  dsimp only at done ⊢
  split at done
  · cases done
  rename_i filled
  rw [if_neg filled]
  split at done
  · cases done
  rename_i readOnly account container blob read
  rw [read] at doomed
  cases readOnly with
  | true => cases doomed
  | false =>
      obtain rfl := Option.some.inj doomed
      rw [if_neg (by decide)] at done ⊢
      split at done
      · cases done
      · rename_i found auth built
        obtain rfl := buildBackend_address built
        apply serveDelete_ok honest
        cases answered : deleteBlob (fun address => (serveDelete run.answer address world).1)
            ⟨accountEndpoint config account, container, blob⟩ with
        | ok _ => rfl
        | error error =>
            rw [answered] at done
            cases done

end Delete

section Lifecycle

variable {lib : UrlLib} {config : DriverConfig} {base world : BlobWorld} {request : CreateVolumeRequest}
  {run : ProvisionRun}

/-- The names that a request resolves to can be carried by an id. -/
def Nameable (config : DriverConfig) (request : CreateVolumeRequest) : Prop :=
  ∃ name : VolumeName, name.account = ownAccount config request ∧ name.container = ownContainer config request ∧
    name.blob = ownBlob request

def LifecycleEvent.requested : LifecycleEvent → Option CreateVolumeRequest
  | .create _ request => some request
  | .delete _ _ _ => none
  | .write _ _ => none

/-- The requests of a run. -/
def requests (events : List LifecycleEvent) : List CreateVolumeRequest := events.filterMap LifecycleEvent.requested

/-- A request of the run asks for a blob of its own at the address. -/
def Claimed (lib : UrlLib) (config : DriverConfig) (events : List LifecycleEvent) (address : BlobAddress) : Prop :=
  ∃ request ∈ requests events, snapshotTemplate lib request = none ∧ ownAddress config request = address

theorem Claimed.append {events : List LifecycleEvent} {address : BlobAddress}
    (claimed : Claimed lib config events address) (more : List LifecycleEvent) :
    Claimed lib config (events ++ more) address := by
  obtain ⟨request, member, rest⟩ := claimed
  refine ⟨request, ?_, rest⟩
  rw [requests, List.filterMap_append]
  exact List.mem_append_left _ member

/-- The blob that a volume of its own serves is the one that its deletion drops. -/
theorem ownVolume_backing (size : Nat) (fromTemplate : Bool) :
    backing (ownVolume config request size fromTemplate).volumeContext = some (ownAddress config request) := by
  obtain ⟨_, container, blob, _, snapshot, _⟩ := readWriteVolume_context config request (ownAccount config request)
    (ownContainer config request) (ownBlob request) size fromTemplate
  have endpoint : (ownVolume config request size fromTemplate).volumeContext "endpoint" =
      some (accountEndpoint config (ownAccount config request)) := by
    cases fromTemplate <;>
      simp [ownVolume, readWriteVolume, accountEndpoint, forwardTuning, forwardParams_apply, insertParam_apply,
        tuningParams]
  unfold backing
  unfold ownVolume at endpoint ⊢
  rw [snapshot, endpoint, container, blob]
  rfl

theorem ownVolume_condemned (nameable : Nameable config request) (size : Nat) (fromTemplate : Bool) :
    condemned config (ownVolume config request size fromTemplate).volumeId = some (ownAddress config request) := by
  obtain ⟨name, account, container, blob⟩ := nameable
  have id : (ownVolume config request size fromTemplate).volumeId =
      makeVolumeId name.account name.container name.blob := by
    rw [account, container, blob]
    rfl
  rw [condemned, id, name.parse_id, account, container, blob]
  rfl

/-- The volume of a snapshot serves nothing that can be written, and its deletion drops nothing. -/
theorem readOnlyVolume_harmless (config : DriverConfig) {tmpl : TemplateBlobRef} {name : String} (named : tmpl.snapshot = some name)
    (dated : name ≠ "") (size : Nat) :
    backing (readOnlyVolume request tmpl size).volumeContext = none ∧
      condemned config (readOnlyVolume request tmpl size).volumeId = none := by
  constructor
  · obtain ⟨_, _, _, _, snapshot, _⟩ := readOnlyVolume_context request tmpl size
    unfold backing
    rw [snapshot, named, nonEmpty, Option.filter_some, if_pos (by simpa using dated)]
  · unfold condemned
    split
    · rename_i read
      cases parseVolumeId_marked read
    · rfl
    · rfl

namespace LifecycleState

/-- A blob that no request of the run asks for is as before, and the volumes have only blobs that were asked for. -/
structure Isolated (lib : UrlLib) (config : DriverConfig) (base : BlobWorld) (events : List LifecycleEvent)
    (state : LifecycleState) : Prop where
  snapshots : state.world.snapshots = base.snapshots
  others : ∀ address, ¬ Claimed lib config events address → state.world.blobs address = base.blobs address
  served : ∀ volume ∈ state.issued, ∀ address, backing volume.volumeContext = some address →
    Claimed lib config events address
  doomed : ∀ volume ∈ state.issued, ∀ address, condemned config volume.volumeId = some address →
    Claimed lib config events address

variable {state next : LifecycleState} {events : List LifecycleEvent} {event : LifecycleEvent}

/-- A write reaches at most the blob of its volume. -/
theorem podWrite_cases (volume : Volume) (content : Store) (world : BlobWorld) :
    podWrite volume content world = world ∨ ∃ address blob, backing volume.volumeContext = some address ∧
      world.blobs address = some blob ∧ podWrite volume content world =
        world.put address (some { blob with data := content }) := by
  unfold podWrite
  cases behind : backing volume.volumeContext with
  | none => exact .inl rfl
  | some address =>
      dsimp only
      cases there : world.blobs address with
      | none => exact .inl rfl
      | some blob => exact .inr ⟨address, blob, rfl, there, rfl⟩

/-- A step that touches at most one blob, which was asked for, and returns no volume. -/
theorem Isolated.touched (isolated : Isolated lib config base events state) {after : BlobWorld}
    (outside : after = state.world ∨ ∃ address blob, Claimed lib config events address ∧
      after = state.world.put address blob) : Isolated lib config base events ⟨after, state.issued⟩ := by
  rcases outside with rfl | ⟨address, blob, claimed, rfl⟩
  · exact isolated
  · refine ⟨isolated.snapshots, fun other unclaimed => ?_, isolated.served, isolated.doomed⟩
    have different : other ≠ address := by
      rintro rfl
      exact unclaimed claimed
    rw [BlobWorld.put_other different, isolated.others other unclaimed]

/-- A later event asks for no less. -/
theorem Isolated.later (isolated : Isolated lib config base events state) (event : LifecycleEvent) :
    Isolated lib config base (events ++ [event]) state := by
  refine ⟨isolated.snapshots, fun address unclaimed => ?_, ?_, ?_⟩
  · exact isolated.others address fun claimed => unclaimed (claimed.append _)
  · exact fun volume member address behind => (isolated.served volume member address behind).append _
  · exact fun volume member address behind => (isolated.doomed volume member address behind).append _

/-- A request asks for its own blob, unless it names a snapshot. -/
theorem claimed_own (run : ProvisionRun) (unpinned : snapshotTemplate lib request = none) :
    Claimed lib config (events ++ [.create run request]) (ownAddress config request) := by
  refine ⟨request, ?_, unpinned, rfl⟩
  rw [requests, List.filterMap_append]
  exact List.mem_append_right _ List.mem_cons_self

/-- A call that creates a volume changes only the blob that it asks for. -/
theorem Isolated.provisioned (isolated : Isolated lib config base events state) (run : ProvisionRun)
    (request : CreateVolumeRequest) : Isolated lib config base (events ++ [.create run request])
      ⟨(provision lib config run request state.world).2, state.issued⟩ := by
  cases pinned : snapshotTemplate lib request with
  | some tmpl =>
      rw [provision_snapshot pinned]
      exact isolated.later _
  | none =>
      have outside := @provision_outside lib config request run state.world
      refine ⟨outside.snapshots.trans isolated.snapshots, fun address unclaimed => ?_, (isolated.later _).served,
        (isolated.later _).doomed⟩
      have different : address ≠ ownAddress config request := by
        rintro rfl
        exact unclaimed (claimed_own run pinned)
      rw [outside.blobs address different]
      exact (isolated.later _).others address unclaimed

/-- The blobs of a volume that a call returns were asked for. -/
theorem provision_claimed (dated : ∀ address, world.snapshots address "" = none) (nameable : Nameable config request)
    {volume : Volume} {after : BlobWorld} (done : provision lib config run request world = (.ok volume, after))
    {address : BlobAddress} (behind : backing volume.volumeContext = some address ∨
      condemned config volume.volumeId = some address) :
    Claimed lib config (events ++ [.create run request]) address := by
  have own (unpinned : snapshotTemplate lib request = none) (size : Nat) (fromTemplate : Bool)
      (returned : volume = ownVolume config request size fromTemplate) :
      Claimed lib config (events ++ [.create run request]) address := by
    subst returned
    rw [ownVolume_backing, ownVolume_condemned nameable, or_self] at behind
    obtain rfl := Option.some.inj behind
    exact claimed_own run unpinned
  cases provision_ok done with
  | plain untemplated made returned =>
      refine own ?_ _ _ returned
      rw [snapshotTemplate, untemplated]
      rfl
  | snapshot tmpl name image found named there returned same =>
      have filled : name ≠ "" := by
        rintro rfl
        rw [dated] at there
        cases there
      rw [returned, (readOnlyVolume_harmless config named filled _).1, (readOnlyVolume_harmless config named filled _).2,
        or_self] at behind
      cases behind
  | copied tmpl original auth between found selected there made copied returned =>
      exact own (snapshotTemplate_of_copied found) _ _ returned

/-- Every step keeps the blobs of others as they were. -/
theorem Isolated.step (isolated : Isolated lib config base events state)
    (dated : ∀ address, base.snapshots address "" = none)
    (nameable : ∀ request ∈ requests [event], Nameable config request)
    (taken : state.step lib config event = some next) : Isolated lib config base (events ++ [event]) next := by
  cases event with
  | create run request =>
      have known : Nameable config request := nameable request List.mem_cons_self
      have kept := isolated.provisioned run request
      simp only [LifecycleState.step] at taken
      split at taken
      · rename_i volume after done
        obtain rfl := Option.some.inj taken
        rw [done] at kept
        have owned := @provision_claimed lib config state.world request run events
          (fun address => by rw [isolated.snapshots]; exact dated address) known volume after done
        refine ⟨kept.snapshots, kept.others, fun other member => ?_, fun other member => ?_⟩
        · rcases List.mem_append.mp member with before | new
          · exact kept.served other before
          · obtain rfl := List.mem_singleton.mp new
            exact fun _ behind => owned (.inl behind)
        · rcases List.mem_append.mp member with before | new
          · exact kept.doomed other before
          · obtain rfl := List.mem_singleton.mp new
            exact fun _ behind => owned (.inr behind)
      · rename_i error after done
        obtain rfl := Option.some.inj taken
        rw [done] at kept
        exact kept
  | delete run index secrets =>
      obtain ⟨volume, found, rfl⟩ := Option.map_eq_some_iff.mp taken
      have known := List.mem_of_getElem? found
      refine (isolated.touched ?_).later _
      rcases removeVolume_cases config run volume.volumeId secrets state.world with same | ⟨address, doomed, dropped⟩
      · exact .inl same
      · exact .inr ⟨address, none, isolated.doomed volume known address doomed, dropped⟩
  | write index content =>
      obtain ⟨volume, found, rfl⟩ := Option.map_eq_some_iff.mp taken
      have known := List.mem_of_getElem? found
      refine (isolated.touched ?_).later _
      rcases podWrite_cases volume content state.world with same | ⟨address, blob, behind, there, written⟩
      · exact .inl same
      · exact .inr ⟨address, _, isolated.served volume known address behind, written⟩

/-- A blob that is gone stays away until a request asks for it. -/
theorem step_gone {address : BlobAddress} (gone : state.world.blobs address = none)
    (unclaimed : ¬ Claimed lib config [event] address) (taken : state.step lib config event = some next) :
    next.world.blobs address = none := by
  cases event with
  | create run request =>
      have after : next.world = (provision lib config run request state.world).2 := by
        simp only [LifecycleState.step] at taken
        split at taken
        · rename_i done
          rw [← Option.some.inj taken, done]
        · rename_i done
          rw [← Option.some.inj taken, done]
      rw [after]
      cases pinned : snapshotTemplate lib request with
      | some tmpl => rw [provision_snapshot pinned, gone]
      | none =>
          have different : address ≠ ownAddress config request := by
            rintro rfl
            exact unclaimed (@claimed_own lib config request [] run pinned)
          rw [provision_outside.blobs address different, gone]
  | delete run index secrets =>
      obtain ⟨volume, found, rfl⟩ := Option.map_eq_some_iff.mp taken
      dsimp only
      rcases removeVolume_cases config run volume.volumeId secrets state.world with same | ⟨other, _, dropped⟩
      · rw [same, gone]
      · rw [dropped]
        by_cases equal : address = other
        · rw [equal, BlobWorld.put_blobs]
        · rw [BlobWorld.put_other equal, gone]
  | write index content =>
      obtain ⟨volume, found, rfl⟩ := Option.map_eq_some_iff.mp taken
      dsimp only
      rcases podWrite_cases volume content state.world with same | ⟨other, blob, _, there, written⟩
      · rw [same, gone]
      · have different : address ≠ other := by
          rintro rfl
          rw [gone] at there
          cases there
        rw [written, BlobWorld.put_other different, gone]

/-- A deletion that the service has served took the blob, and no later request asks for it. -/
inductive Cleared (lib : UrlLib) (config : DriverConfig) (base : BlobWorld) (events : List LifecycleEvent)
    (address : BlobAddress) : Prop where
  | intro (early late : List LifecycleEvent) (run : DeleteRun) (index : Nat) (secrets : Params)
      (state : LifecycleState) (volume : Volume) (split : events = early ++ .delete run index secrets :: late)
      (reached : execute (LifecycleState.step lib config) ⟨base, []⟩ early = some state)
      (found : state.issued[index]? = some volume) (doomed : condemned config volume.volumeId = some address)
      (honest : run.Honest)
      (done : (removeVolume config run ⟨volume.volumeId, secrets⟩ state.world).1 = .ok ())
      (unclaimed : ¬ Claimed lib config late address)

/-- A blob that is gone is gone after every run that does not ask for it. -/
theorem execute_gone {address : BlobAddress} {final : LifecycleState} (gone : state.world.blobs address = none)
    (unclaimed : ¬ Claimed lib config events address)
    (ran : execute (LifecycleState.step lib config) state events = some final) :
    final.world.blobs address = none := by
  induction events generalizing state with
  | nil =>
      obtain rfl := Option.some.inj ran
      exact gone
  | cons event rest inductionHypothesis =>
      obtain ⟨next, taken, remaining⟩ := Option.bind_eq_some_iff.mp ran
      have parts : requests (event :: rest) = requests [event] ++ requests rest :=
        List.filterMap_append (l := [event])
      have first : ¬ Claimed lib config [event] address := by
        rintro ⟨request, member, asked⟩
        exact unclaimed ⟨request, by rw [parts]; exact List.mem_append_left _ member, asked⟩
      have later : ¬ Claimed lib config rest address := by
        rintro ⟨request, member, asked⟩
        exact unclaimed ⟨request, by rw [parts]; exact List.mem_append_right _ member, asked⟩
      exact inductionHypothesis (step_gone gone first taken) later remaining

theorem Cleared.gone {address : BlobAddress} {final : LifecycleState}
    (cleared : Cleared lib config base events address)
    (ran : execute (LifecycleState.step lib config) ⟨base, []⟩ events = some final) :
    final.world.blobs address = none := by
  obtain ⟨early, late, run, index, secrets, state, volume, rfl, reached, found, doomed, honest, done, unclaimed⟩ := cleared
  rw [execute_append, reached, Option.bind_some] at ran
  obtain ⟨next, taken, remaining⟩ := Option.bind_eq_some_iff.mp ran
  simp only [LifecycleState.step, found, Option.map_some, Option.some.injEq] at taken
  subst taken
  exact execute_gone (removeVolume_ok honest done doomed) unclaimed remaining

/-- In every run of calls and writes no snapshot changes, a blob that no request asks for is as before, and a blob is
gone once a deletion of its volume has been served; when that holds of all of them, the service is as before. -/
theorem volumes_isolated (lib : UrlLib) (config : DriverConfig) (base : BlobWorld) (events : List LifecycleEvent)
    (final : LifecycleState) (dated : ∀ address, base.snapshots address "" = none)
    (nameable : ∀ request ∈ requests events, Nameable config request)
    (ran : execute (LifecycleState.step lib config) ⟨base, []⟩ events = some final) :
    final.world.snapshots = base.snapshots ∧
      (∀ address, ¬ Claimed lib config events address → final.world.blobs address = base.blobs address) ∧
      (∀ address, Cleared lib config base events address → final.world.blobs address = none) ∧
      ((∀ address, Claimed lib config events address →
        base.blobs address = none ∧ Cleared lib config base events address) → final.world = base) := by
  have isolated : (∀ request ∈ requests ([] ++ events), Nameable config request) →
      Isolated lib config base ([] ++ events) final := by
    refine @execute_history _ _ _
      (fun history state => (∀ request ∈ requests history, Nameable config request) →
        Isolated lib config base history state)
      (fun history state event next kept taken known => ?_) _ _ _ _ (fun _ => ?_) ran
    · rw [requests, List.filterMap_append] at known
      exact (kept fun request member => known request (List.mem_append_left _ member)).step dated
        (fun request member => known request (List.mem_append_right _ member)) taken
    · exact ⟨rfl, fun _ _ => rfl, fun _ member => absurd member List.not_mem_nil,
        fun _ member => absurd member List.not_mem_nil⟩
  have kept := isolated nameable
  refine ⟨kept.snapshots, kept.others, fun address cleared => cleared.gone ran, fun settled => ?_⟩
  have blobs : final.world.blobs = base.blobs := by
    funext address
    by_cases claimed : Claimed lib config events address
    · obtain ⟨absent, cleared⟩ := settled address claimed
      rw [cleared.gone ran, absent]
    · exact kept.others address claimed
  calc final.world = ⟨final.world.blobs, final.world.snapshots⟩ := rfl
    _ = base := by rw [blobs, kept.snapshots]

/-- A clone is created, and its pod writes nines. -/
def cloneBirth : List LifecycleEvent := [.create servedRun cloneRequest, .write 0 fun _ => 9]

def cloneDeath : DeleteRun := ⟨fun _ _ _ => .ok (), .served⟩

def cloneLife : List LifecycleEvent := cloneBirth ++ [.delete cloneDeath 0 fun _ => none]

theorem cloneRequest_nameable : Nameable sampleConfig cloneRequest :=
  ⟨⟨"volumes", "disks", "ublk-azblob-disk/pvc-1", by decide, by decide, by decide, by decide, by decide, by decide⟩,
    by decide +kernel, by decide +kernel, by decide +kernel⟩

/-- The clone leaves nothing behind. -/
theorem volumes_isolated_cloneLife :
    ∃ final, execute (LifecycleState.step baseLib sampleConfig) ⟨baseWorld, []⟩ cloneLife = some final ∧
      final.world = baseWorld := by
  have asked : requests cloneLife = [cloneRequest] := rfl
  have nameable : ∀ request ∈ requests cloneLife, Nameable sampleConfig request := by
    intro request member
    rw [asked, List.mem_singleton] at member
    subst member
    exact cloneRequest_nameable
  have checks : ((execute (LifecycleState.step baseLib sampleConfig) ⟨baseWorld, []⟩ cloneBirth).any fun state =>
      state.issued[0]?.any fun volume => condemned sampleConfig volume.volumeId =
        some (ownAddress sampleConfig cloneRequest) &&
          (removeVolume sampleConfig cloneDeath ⟨volume.volumeId, fun _ => none⟩ state.world).1.isOk) = true := by
    decide +kernel
  have absent : (baseWorld.blobs (ownAddress sampleConfig cloneRequest)).isNone = true := by decide +kernel
  obtain ⟨state, reached, named⟩ := (Option.any_eq_true _ _).mp checks
  obtain ⟨volume, found, both⟩ := (Option.any_eq_true _ _).mp named
  obtain ⟨condemns, serves⟩ := Bool.and_eq_true_iff.mp both
  have doomed := of_decide_eq_true condemns
  have done : (removeVolume sampleConfig cloneDeath ⟨volume.volumeId, fun _ => none⟩ state.world).1 = .ok () := by
    cases answer : (removeVolume sampleConfig cloneDeath ⟨volume.volumeId, fun _ => none⟩ state.world).1 with
    | ok _ => rfl
    | error error =>
        rw [answer] at serves
        cases serves
  have ran : execute (LifecycleState.step baseLib sampleConfig) ⟨baseWorld, []⟩ cloneLife = some
      ⟨(removeVolume sampleConfig cloneDeath ⟨volume.volumeId, fun _ => none⟩ state.world).2, state.issued⟩ := by
    rw [cloneLife, execute_append, reached, Option.bind_some]
    simp only [execute, LifecycleState.step, found, Option.map_some, Option.bind_some]
  refine ⟨_, ran, (volumes_isolated baseLib sampleConfig baseWorld cloneLife _ (fun _ => rfl) nameable ran).2.2.2
    fun address claimed => ?_⟩
  obtain ⟨request, member, _, rfl⟩ := claimed
  rw [asked, List.mem_singleton] at member
  subst member
  have unasked : ¬ Claimed baseLib sampleConfig [] (ownAddress sampleConfig cloneRequest) := by
    rintro ⟨other, member, _⟩
    cases member
  have honest : cloneDeath.Honest := by
    intro performed error answered
    cases answered
  exact ⟨Option.isNone_iff_eq_none.mp absent,
    .intro cloneBirth [] cloneDeath 0 (fun _ => none) state volume rfl reached found doomed honest done unasked⟩

end LifecycleState
end Lifecycle
end UblkAzblob

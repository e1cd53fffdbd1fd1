import UblkAzblob.Construction.NodeMachine
import UblkAzblob.Foundation.Interleaving
import UblkAzblob.Proof.Controller

namespace UblkAzblob
open Storage

namespace NodeMachine

variable {answers : PublishAnswers} {plan : MountPlan} {machine : NodeMachine}

section Commands

theorem undoing_ok {undo : NodeMachine → NodeMachine} {action : Action NodeMachine Unit} {after : NodeMachine}
    (done : action machine = (.ok (), after)) : undoing undo action machine = (.ok (), after) := by
  rw [undoing, done]

theorem undoing_error {undo : NodeMachine → NodeMachine} {action : Action NodeMachine Unit} {after : NodeMachine}
    {error : Error} (failed : action machine = (.error error, after)) :
    undoing undo action machine = (.error error, undo after) := by
  rw [undoing, failed]

/-- An unmount changes only the mounts. -/
theorem umount_mounts (unmounts : String → Except Error Unit) (target : String) (machine : NodeMachine) :
    ∃ mounts, (umount unmounts target machine).2 = { machine with mounts } := by
  rw [umount]
  split
  · cases answer : unmounts target with
    | ok value => exact ⟨_, rfl⟩
    | error error => exact ⟨machine.mounts, rfl⟩
  · exact ⟨machine.mounts, rfl⟩

/-- Where nothing is mounted, an unmount has nothing to do. -/
theorem umount_absent {unmounts : String → Except Error Unit} {target : String}
    (absent : target ∉ machine.mounts.map Mounted.target) : umount unmounts target machine = (.ok (), machine) := by
  rw [umount, if_neg]
  simpa using absent

/-- An unmount that succeeds takes the newest mount of its target. -/
theorem umount_present {unmounts : String → Except Error Unit} {target : String}
    (present : target ∈ machine.mounts.map Mounted.target) (answer : unmounts target = .ok ()) :
    umount unmounts target machine =
      (.ok (), { machine with mounts := machine.mounts.eraseP fun mounted => mounted.target = target }) := by
  have found : (machine.mounts.any fun mounted => mounted.target = target) = true := by
    simpa using present
  rw [umount, if_pos found, answer]

theorem umountOverlay_mounts (unmounts : String → Except Error Unit) (target : String) (dirs : OverlayDirs)
    (machine : NodeMachine) : ∃ mounts, (umountOverlay unmounts target dirs machine).2 = { machine with mounts } := by
  obtain ⟨first, same⟩ := umount_mounts unmounts target machine
  rw [umountOverlay, Action.bind_apply]
  rcases outcome : umount unmounts target machine with ⟨answer, after⟩
  rw [outcome] at same
  obtain rfl : after = { machine with mounts := first } := same
  cases answer with
  | error error => exact ⟨first, rfl⟩
  | ok value => exact umount_mounts unmounts dirs.lower { machine with mounts := first }

/-- A check of a filesystem changes nothing. -/
theorem fsck_same (answers : PublishAnswers) (device fsType : String) (mode : FsckMode) (machine : NodeMachine) :
    (fsck answers device fsType mode machine).2 = machine := by
  rw [fsck]
  split
  · rfl
  · cases answers.fsck with
    | error error => rfl
    | ok outcome =>
        dsimp only
        split
        · rfl
        · rfl

/-- A mount fails and changes nothing, or puts one mount on top. -/
theorem mount_cases (answers : PublishAnswers) (device target fsType : String) (flags : List String)
    (readonly : Bool) (machine : NodeMachine) :
    (∃ error, mount answers device target fsType flags readonly machine = (.error error, machine)) ∨
      mount answers device target fsType flags readonly machine = (.ok (), { machine with
        mounts := ⟨target, device, fsType, mountOptions flags fsType readonly⟩ :: machine.mounts }) := by
  rw [mount, Action.bind_apply, Action.withContext, answered]
  cases answers.createDirAll target with
  | error error => exact .inl ⟨_, rfl⟩
  | ok value =>
      dsimp only
      cases answers.mount target with
      | error error => exact .inl ⟨_, rfl⟩
      | ok value => exact .inr rfl

/-- What a plan mounts, the newest first. -/
def planMounts (plan : MountPlan) (device target : String) : List Mounted :=
  match plan.overlay with
  | none => [⟨target, device, plan.fsType, mountOptions plan.mountFlags plan.fsType plan.readonly⟩]
  | some dirs => [⟨target, "overlay", "overlay", overlayOptions dirs⟩,
      ⟨dirs.lower, device, plan.fsType, mountOptions plan.mountFlags plan.fsType true⟩]

/-- The directories of an overlay are made without a change of the mounts. -/
theorem createDirs_same (answers : PublishAnswers) (dirs : List String) (machine : NodeMachine) :
    (Action.forEach dirs (fun dir =>
      .withContext s!"create overlay dir {dir}" (answered (answers.createDirAll dir))) machine).2 = machine := by
  induction dirs with
  | nil => rfl
  | cons dir rest inductionHypothesis =>
      rw [Action.forEach_cons, Action.bind_apply, Action.withContext, answered]
      cases answers.createDirAll dir with
      | error error => rfl
      | ok value => exact inductionHypothesis

/-- A merged view is mounted over its lower; a failure leaves the lower mounted at most. -/
theorem mountOverlay_cases (answers : PublishAnswers) (device target fsType : String) (flags : List String)
    (dirs : OverlayDirs) (machine : NodeMachine) :
    (∃ error mounts, mountOverlay answers device target fsType flags dirs machine =
        (.error error, { machine with mounts }) ∧ (mounts = machine.mounts ∨
          mounts = ⟨dirs.lower, device, fsType, mountOptions flags fsType true⟩ :: machine.mounts)) ∨
      mountOverlay answers device target fsType flags dirs machine = (.ok (), { machine with
        mounts := ⟨target, "overlay", "overlay", overlayOptions dirs⟩ ::
          ⟨dirs.lower, device, fsType, mountOptions flags fsType true⟩ :: machine.mounts }) := by
  rw [mountOverlay, Action.bind_apply]
  have made := createDirs_same answers [dirs.lower, dirs.upper, dirs.work] machine
  rcases outcome : Action.forEach [dirs.lower, dirs.upper, dirs.work] (fun dir =>
    .withContext s!"create overlay dir {dir}" (answered (answers.createDirAll dir))) machine with ⟨answer, after⟩
  rw [outcome] at made
  obtain rfl : after = machine := made
  cases answer with
  | error error => exact .inl ⟨error, after.mounts, rfl, .inl rfl⟩
  | ok value =>
      dsimp only
      rw [Action.bind_apply]
      rcases mount_cases answers device dirs.lower fsType flags true after with ⟨error, failed⟩ | done
      · rw [failed]
        exact .inl ⟨error, after.mounts, rfl, .inl rfl⟩
      · rw [done]
        dsimp only
        set lowered : Mounted := ⟨dirs.lower, device, fsType, mountOptions flags fsType true⟩ with loweredEq
        rw [Action.bind_apply, Action.withContext, answered]
        cases answers.createDirAll target with
        | error error => exact .inl ⟨_, lowered :: after.mounts, rfl, .inr rfl⟩
        | ok value =>
            dsimp only
            cases answers.mount target with
            | ok value => exact .inr rfl
            | error error =>
                refine .inl ⟨error, (umount answers.umount dirs.lower
                  { after with mounts := lowered :: after.mounts }).2.mounts, ?_, ?_⟩
                · obtain ⟨mounts, same⟩ := umount_mounts answers.umount dirs.lower
                    { after with mounts := lowered :: after.mounts }
                  rw [undoing, pushMount]
                  dsimp only
                  rw [same]
                · have present : dirs.lower ∈ (lowered :: after.mounts).map Mounted.target := List.mem_cons_self
                  cases answer : answers.umount dirs.lower with
                  | ok value =>
                      rw [umount_present present answer]
                      left
                      dsimp only
                      apply List.eraseP_cons_of_pos
                      exact decide_eq_true rfl
                  | error reason =>
                      have found : ((lowered :: after.mounts).any fun mounted => mounted.target = dirs.lower) = true := by
                        simpa using present
                      rw [umount, if_pos found, answer]
                      exact .inr rfl

end Commands

section Prepare

/-- The device shows no filesystem, and the plan may make one. -/
def Formats (answers : PublishAnswers) (plan : MountPlan) (device : String) (machine : NodeMachine) : Prop :=
  hasFilesystem answers device machine = false ∧ plan.fromTemplate = false ∧ plan.readonly = false ∧
    (fsProfile plan.fsType).mkfsOptions.isSome

/-- The device is left as it is, or gets what the command that makes filesystems leaves on it. -/
theorem ensureFilesystem_cases (answers : PublishAnswers) (plan : MountPlan) (device : String)
    (machine : NodeMachine) :
    (ensureFilesystem answers plan device machine).2 = machine ∨
      Formats answers plan device machine ∧
        ∃ fsType, (ensureFilesystem answers plan device machine).2 = machine.fill device fsType := by
  rw [ensureFilesystem]
  by_cases found : hasFilesystem answers device machine = true
  · rw [if_pos found]
    exact .inl rfl
  · rw [if_neg found]
    by_cases copied : plan.fromTemplate = true
    · rw [if_pos copied]
      exact .inl rfl
    · rw [if_neg copied]
      by_cases readonly : plan.readonly = true
      · rw [if_pos readonly]
        exact .inl rfl
      · rw [if_neg readonly, mkfs]
        cases profile : (fsProfile plan.fsType).mkfsOptions with
        | none => exact .inl rfl
        | some options =>
            have formats : Formats answers plan device machine :=
              ⟨by simpa using found, by simpa using copied, by simpa using readonly, by rw [profile]; rfl⟩
            dsimp only
            cases answers.mkfs with
            | ok value => exact .inr ⟨formats, _, rfl⟩
            | error error => exact .inr ⟨formats, _, rfl⟩

/-- What a failed mount of the plan leaves on top of the mounts. -/
def Leftover (plan : MountPlan) (device : String) (mounts left : List Mounted) : Prop :=
  left = mounts ∨ ∃ dirs options, plan.overlay = some dirs ∧
    left = ⟨dirs.lower, device, plan.fsType, options⟩ :: mounts

theorem mountDevice_cases (answers : PublishAnswers) (plan : MountPlan) (device target : String)
    (machine : NodeMachine) :
    (∃ error mounts, mountDevice answers plan device target machine = (.error error, { machine with mounts }) ∧
        Leftover plan device machine.mounts mounts) ∨
      mountDevice answers plan device target machine =
        (.ok (), { machine with mounts := planMounts plan device target ++ machine.mounts }) := by
  simp only [mountDevice, planMounts, Leftover]
  cases plan.overlay with
  | none =>
      rcases mount_cases answers device target plan.fsType plan.mountFlags plan.readonly machine with
        ⟨error, failed⟩ | done
      · exact .inl ⟨error, machine.mounts, failed, .inl rfl⟩
      · exact .inr done
  | some dirs =>
      rcases mountOverlay_cases answers device target plan.fsType plan.mountFlags dirs machine with
        ⟨error, mounts, failed, left⟩ | done
      · refine .inl ⟨error, mounts, failed, ?_⟩
        rcases left with same | lowered
        · exact .inl same
        · exact .inr ⟨dirs, _, rfl, lowered⟩
      · exact .inr done

theorem checkFilesystem_same (answers : PublishAnswers) (plan : MountPlan) (device : String) (formatted : Bool)
    (machine : NodeMachine) : (checkFilesystem answers plan device formatted machine).2 = machine := by
  rw [checkFilesystem]
  split
  · exact fsck_same answers device plan.fsType plan.fsckMode machine
  · rfl

/-- The device is prepared and mounted, or a failure leaves the lower of an overlay mounted at most. -/
theorem prepare_cases (answers : PublishAnswers) (plan : MountPlan) (device target : String)
    (machine : NodeMachine) :
    ∃ written, (written = machine ∨
        Formats answers plan device machine ∧ ∃ fsType, written = machine.fill device fsType) ∧
      ((∃ error mounts, prepare answers plan device target machine = (.error error, { written with mounts }) ∧
          Leftover plan device written.mounts mounts) ∨
        prepare answers plan device target machine =
          (.ok (), { written with mounts := planMounts plan device target ++ written.mounts })) := by
  rw [prepare, Action.bind_apply]
  have ensured := ensureFilesystem_cases answers plan device machine
  rcases outcome : ensureFilesystem answers plan device machine with ⟨formatted, written⟩
  rw [outcome] at ensured
  refine ⟨written, ensured, ?_⟩
  cases formatted with
  | error error => exact .inl ⟨error, written.mounts, rfl, .inl rfl⟩
  | ok formatted =>
      dsimp only
      rw [Action.bind_apply]
      have checked := checkFilesystem_same answers plan device formatted written
      rcases check : checkFilesystem answers plan device formatted written with ⟨answer, after⟩
      rw [check] at checked
      obtain rfl : after = written := checked
      cases answer with
      | error error => exact .inl ⟨error, after.mounts, rfl, .inl rfl⟩
      | ok value => exact mountDevice_cases answers plan device target after

/-- A device that carries a volume is filled in the table of the contents. -/
theorem fill_attached {device : String} (volumeId : String) (fsType : Option String)
    (attached : machine.attached device = some volumeId) :
    machine.fill device fsType = { machine with
      contents := Function.update machine.contents volumeId fsType
      formats := machine.formats ++ [(volumeId, device)] } := by
  rw [fill, attached]

/-- A device that is unmounted by a rollback leaves what the volumes carry. -/
theorem rollBack_mounts (answers : PublishAnswers) (plan : MountPlan) (target : String) (pid : Nat) (device : String)
    (machine : NodeMachine) :
    ∃ mounts, rollBack answers plan target pid device machine = stop pid (some device) { machine with mounts } := by
  rw [rollBack]
  cases plan.overlay with
  | none => exact ⟨machine.mounts, rfl⟩
  | some dirs =>
      obtain ⟨mounts, same⟩ := umountOverlay_mounts answers.umount target dirs machine
      exact ⟨mounts, congrArg (stop pid (some device)) same⟩

end Prepare

section BringUp

/-- The machine with a child that serves the volume on the device. -/
def serving (machine : NodeMachine) (volumeId : String) (pid : Nat) (device : String) : NodeMachine :=
  { machine with
    children := machine.children ++ [pid]
    attached := Function.update machine.attached device (some volumeId) }

/-- No device appears, and the child that was spawned is stopped, or there is a device. -/
theorem attach_cases (answers : PublishAnswers) (volumeId : String) (machine : NodeMachine) :
    (∃ error, attach answers volumeId machine = (.error error, machine)) ∨
    (∃ error pid, answers.spawn = .ok pid ∧
      attach answers volumeId machine = (.error error, { machine with children := (machine.children ++ [pid]).erase pid })) ∨
    ∃ pid device, answers.spawn = .ok pid ∧ answers.discover = .ok device ∧
      attach answers volumeId machine = (.ok (pid, device), serving machine volumeId pid device) := by
  rw [attach]
  cases answers.listen with
  | error error => exact .inl ⟨error, rfl⟩
  | ok address =>
      cases spawned : answers.spawn with
      | error error => exact .inl ⟨error, rfl⟩
      | ok pid =>
          cases discovered : answers.discover with
          | error error => exact .inr (.inl ⟨error, pid, rfl, rfl⟩)
          | ok device => exact .inr (.inr ⟨pid, device, rfl, rfl, rfl⟩)

/-- What a publish comes to once the child serves the device. -/
theorem bringUp_cases (answers : PublishAnswers) (plan : MountPlan) (volumeId target : String)
    (machine : NodeMachine) :
    (∃ error, bringUp answers plan volumeId target machine = (.error error, machine)) ∨
    (∃ error pid, answers.spawn = .ok pid ∧ bringUp answers plan volumeId target machine =
      (.error error, { machine with children := (machine.children ++ [pid]).erase pid })) ∨
    ∃ pid device written, answers.spawn = .ok pid ∧ answers.discover = .ok device ∧
      (written = serving machine volumeId pid device ∨
        Formats answers plan device (serving machine volumeId pid device) ∧
          ∃ fsType, written = (serving machine volumeId pid device).fill device fsType) ∧
      ((∃ error mounts, Leftover plan device written.mounts mounts ∧ bringUp answers plan volumeId target machine =
          (.error error, rollBack answers plan target pid device { written with mounts })) ∨
        bringUp answers plan volumeId target machine = (.ok (), record answers plan volumeId target pid device
          { written with mounts := planMounts plan device target ++ written.mounts })) := by
  rw [bringUp, Action.bind_apply]
  rcases attach_cases answers volumeId machine with ⟨error, failed⟩ | ⟨error, pid, spawned, failed⟩ |
    ⟨pid, device, spawned, discovered, attached⟩
  · rw [failed]
    exact .inl ⟨error, rfl⟩
  · rw [failed]
    exact .inr (.inl ⟨error, pid, spawned, rfl⟩)
  · rw [attached]
    obtain ⟨written, ensured, outcome⟩ :=
      prepare_cases answers plan device target (serving machine volumeId pid device)
    refine .inr (.inr ⟨pid, device, written, spawned, discovered, ensured, ?_⟩)
    dsimp only
    rw [Action.bind_apply]
    rcases outcome with ⟨error, mounts, failed, left⟩ | done
    · rw [undoing_error failed]
      exact .inl ⟨error, mounts, left, rfl⟩
    · rw [undoing_ok done]
      exact .inr rfl

end BringUp

section Formats

/-- What the volumes carry, and where a filesystem was made. -/
def SameContents (before after : NodeMachine) : Prop := after.contents = before.contents ∧ after.formats = before.formats

/-- A publish that made a filesystem for the volume found none, or could not look for one. -/
theorem bringUp_contents (answers : PublishAnswers) (plan : MountPlan) (volumeId target : String)
    (machine : NodeMachine) :
    SameContents machine (bringUp answers plan volumeId target machine).2 ∨
      (answers.blkidRuns = false ∨ machine.contents volumeId = none) ∧ plan.fromTemplate = false ∧
        plan.readonly = false ∧ (fsProfile plan.fsType).mkfsOptions.isSome ∧
        ∃ fsType device,
          (bringUp answers plan volumeId target machine).2.contents = Function.update machine.contents volumeId fsType ∧
          (bringUp answers plan volumeId target machine).2.formats = machine.formats ++ [(volumeId, device)] := by
  rcases bringUp_cases answers plan volumeId target machine with ⟨error, failed⟩ | ⟨error, pid, spawned, failed⟩ |
    ⟨pid, device, written, spawned, discovered, ensured, outcome⟩
  · rw [failed]
    exact .inl ⟨rfl, rfl⟩
  · rw [failed]
    exact .inl ⟨rfl, rfl⟩
  · have carried : (bringUp answers plan volumeId target machine).2.contents = written.contents ∧
        (bringUp answers plan volumeId target machine).2.formats = written.formats := by
      rcases outcome with ⟨error, mounts, left, failed⟩ | done
      · obtain ⟨unmounted, same⟩ := rollBack_mounts answers plan target pid device { written with mounts }
        rw [failed, same]
        exact ⟨rfl, rfl⟩
      · rw [done]
        exact ⟨rfl, rfl⟩
    rw [carried.1, carried.2]
    rcases ensured with rfl | ⟨⟨unseen, copied, writable, profile⟩, fsType, rfl⟩
    · exact .inl carried
    · have attached : (serving machine volumeId pid device).attached device = some volumeId :=
        Function.update_self _ _ _
      rw [fill_attached volumeId fsType attached]
      refine .inr ⟨?_, copied, writable, profile, fsType, device, rfl, rfl⟩
      rw [hasFilesystem, attached, Bool.and_eq_false_iff] at unseen
      simpa [serving] using unseen

/-- An unpublish leaves what the volumes carry. -/
theorem unpublish_contents (unmounts : String → Except Error Unit) (volumeId target : String) (machine : NodeMachine) :
    SameContents machine (nodeUnpublishVolume unmounts volumeId target machine).2 := by
  rw [nodeUnpublishVolume]
  split
  · exact ⟨rfl, rfl⟩
  · split
    · exact ⟨rfl, rfl⟩
    · dsimp only
      obtain ⟨mounts, same⟩ := umount_mounts unmounts target
        { machine with volumes := Function.update machine.volumes volumeId none }
      rcases outcome : umount unmounts target
        { machine with volumes := Function.update machine.volumes volumeId none } with ⟨answer, after⟩
      rw [outcome] at same
      obtain rfl := same
      cases answer with
      | error error => exact ⟨rfl, rfl⟩
      | ok value =>
          dsimp only
          cases machine.volumes volumeId with
          | none => exact ⟨rfl, rfl⟩
          | some published =>
              dsimp only
              cases published.overlay with
              | none => exact ⟨rfl, rfl⟩
              | some dirs =>
                  obtain ⟨left, torn⟩ := umountOverlay_mounts unmounts target dirs { machine with
                    volumes := Function.update machine.volumes volumeId none, mounts }
                  dsimp only
                  rw [torn]
                  exact ⟨rfl, rfl⟩

/-- A publish of the volume looks for a filesystem before it makes one, or never makes one. -/
def Call.Sparing (volumeId : String) : Call → Prop
  | .publish call => call.request.volumeId = volumeId → call.answers.blkidRuns = true ∨ call.readonly = true ∨
      (nonEmpty (call.request.volumeContext "snapshot")).isSome ∨
      (call.request.volumeContext "fromTemplate").any isEnabled = true ∨
      (fsProfile (publishFsType call.request.volumeContext call.capability)).mkfsOptions = none
  | .unpublish _ _ _ => True

/-- The plan of a publish is read-only where the request or its snapshot says so, and knows a copy of a template. -/
theorem mountPlan_ok {lib : UrlLib} {node : NodeConfig} {request : PublishRequest} {capability : Option MountCapability}
    {readonly : Bool} (planned : mountPlan lib node request capability readonly = .ok plan) :
    plan.fsType = publishFsType request.volumeContext capability ∧
      plan.readonly = (readonly || (nonEmpty (request.volumeContext "snapshot")).isSome) ∧
      plan.fromTemplate = (request.volumeContext "fromTemplate").any isEnabled := by
  unfold mountPlan at planned
  by_cases block : request.rawBlock = true
  · rw [if_pos block] at planned
    cases planned
  · rw [if_neg block] at planned
    obtain ⟨env, _, rest⟩ := orFail_bind planned
    obtain ⟨overlay, _, rest⟩ := except_bind rest
    obtain ⟨mode, _, done⟩ := orFail_bind rest
    obtain rfl := Except.ok.inj done
    exact ⟨rfl, rfl, rfl⟩

/-- A filesystem of the volume is there and was not made anew. -/
def Carries (volumeId fsType : String) (made : List (String × String)) (machine : NodeMachine) : Prop :=
  machine.contents volumeId = some fsType ∧ (machine.formats.filter fun entry => entry.1 = volumeId) = made

theorem Carries.same {volumeId fsType : String} {made : List (String × String)} {after : NodeMachine}
    (carries : Carries volumeId fsType made machine) (same : SameContents machine after) :
    Carries volumeId fsType made after := by
  rw [Carries, same.1, same.2]
  exact carries

theorem perform_carries (lib : UrlLib) (node : NodeConfig) {volumeId fsType : String} {made : List (String × String)}
    {call : Call} (sparing : call.Sparing volumeId) (carries : Carries volumeId fsType made machine) :
    Carries volumeId fsType made (perform lib node machine call).2 := by
  cases call with
  | unpublish other target unmounts => exact carries.same (unpublish_contents unmounts other target machine)
  | publish call =>
      rw [perform, nodePublishVolume]
      dsimp only
      split
      · exact carries
      · split
        · exact carries
        · cases machine.volumes call.request.volumeId with
          | some existing => exact carries
          | none =>
              dsimp only
              cases planned : mountPlan lib node call.request call.capability call.readonly with
              | error error => exact carries
              | ok plan =>
                  dsimp only
                  rcases bringUp_contents call.answers plan call.request.volumeId call.request.targetPath machine with
                    same | ⟨blank, copied, writable, profile, made', device, contents, formats⟩
                  · exact carries.same same
                  · have different : call.request.volumeId ≠ volumeId := by
                      rintro rfl
                      obtain ⟨sameType, sameReadonly, sameTemplate⟩ := mountPlan_ok planned
                      rw [sameReadonly, Bool.or_eq_false_iff] at writable
                      rw [sameTemplate] at copied
                      rw [sameType] at profile
                      rcases blank with unrun | none
                      · rcases sparing rfl with runs | readonly | snapshot | template | unknown
                        · exact absurd (unrun.symm.trans runs) (by decide)
                        · exact absurd (writable.1.symm.trans readonly) (by decide)
                        · exact absurd (writable.2.symm.trans snapshot) (by decide)
                        · exact absurd (copied.symm.trans template) (by decide)
                        · rw [unknown] at profile
                          cases profile
                      · cases none.symm.trans carries.1
                    refine ⟨?_, ?_⟩
                    · rw [contents, Function.update_of_ne different.symm]
                      exact carries.1
                    · rw [formats, List.filter_append, carries.2]
                      simp [different]

/-- A filesystem that a volume carries outlives every run whose publishes of it can run the command that looks for
    one, or may not make one. -/
theorem filesystem_endures (lib : UrlLib) (node : NodeConfig) (start final : NodeMachine) (calls : List Call)
    (volumeId fsType : String) (carries : start.contents volumeId = some fsType)
    (sparing : ∀ call ∈ calls, call.Sparing volumeId) (run : execute (step lib node) start calls = some final) :
    final.contents volumeId = some fsType ∧ (final.formats.filter fun entry => entry.1 = volumeId) =
      start.formats.filter fun entry => entry.1 = volumeId := by
  suffices whole : Carries volumeId fsType (start.formats.filter fun entry => entry.1 = volumeId) final from whole
  have initial : Carries volumeId fsType (start.formats.filter fun entry => entry.1 = volumeId) start :=
    ⟨carries, rfl⟩
  revert initial run
  generalize (start.formats.filter fun entry => entry.1 = volumeId) = made
  clear carries
  induction calls generalizing start with
  | nil =>
      intro run initial
      obtain rfl := Option.some.inj run
      exact initial
  | cons call rest inductionHypothesis =>
      intro run initial
      apply inductionHypothesis (perform lib node start call).2
      · exact fun later member => sparing later (List.mem_cons_of_mem _ member)
      · exact run
      · exact perform_carries lib node (sparing call List.mem_cons_self) initial

/-- The host of the samples spawns one child, whose device is the first. -/
def promptAnswers : PublishAnswers where
  listen := .ok none
  spawn := .ok 7
  discover := .ok "/dev/ublkb0"
  blkidRuns := true
  mkfs := .ok ()
  halfMade := none
  fsck := .ok ⟨some 0, "exit status: 0", "", ""⟩
  createDirAll := fun _ => .ok ()
  mount := fun _ => .ok ()
  umount := fun _ => .ok ()
  writesMeta := true

/-- The claim on a blob at a path of a pod. -/
def blobPublish : Publish where
  request := ⟨"volumes/disks/a.img", "/pods/a/mount", fun key => if key = "blob" then some "a.img" else none,
    fun _ => none, false⟩
  capability := none
  readonly := false
  answers := promptAnswers

/-- A node whose volume was formatted by an earlier publish. -/
def formattedNode : NodeMachine := begin fun volumeId => if volumeId = "volumes/disks/a.img" then some "ext4" else none

theorem filesystem_endures_publish :
    (perform sampleLib sampleNode formattedNode (.publish blobPublish)).2.contents "volumes/disks/a.img" = some "ext4" ∧
      ((perform sampleLib sampleNode formattedNode (.publish blobPublish)).2.formats.filter
        fun entry => entry.1 = "volumes/disks/a.img") = [] := by
  apply filesystem_endures sampleLib sampleNode formattedNode _ [.publish blobPublish] "volumes/disks/a.img" "ext4" rfl
  · intro call member
    obtain rfl := List.mem_singleton.mp member
    exact fun _ => .inl rfl
  · rfl

end Formats

section Balance

/-- What is mounted at a point of a published volume: its device, or a merged view over its read-only device. -/
def Serves (published : Published) (mounted : Mounted) : Prop :=
  match published.overlay with
  | none => mounted.target = published.target ∧ mounted.source = published.device
  | some dirs => mounted.target = published.target ∧ mounted.fsType = "overlay" ∨
      mounted.target = dirs.lower ∧ mounted.source = published.device ∧ "ro" ∈ mounted.options

/-- The children, the devices and the mounts are those of the volumes in the table. -/
structure Balanced (machine : NodeMachine) : Prop where
  children : ∀ pid, pid ∈ machine.children ↔ ∃ volumeId published, machine.volumes volumeId = some published ∧
    published.pid = pid
  distinct : machine.children.Nodup
  owners : ∀ first second one other, machine.volumes first = some one → machine.volumes second = some other →
    one.pid = other.pid → first = second
  devices : ∀ device volumeId, machine.attached device = some volumeId ↔ ∃ published,
    machine.volumes volumeId = some published ∧ published.device = device
  mounted : ∀ mounted ∈ machine.mounts, ∃ volumeId published, machine.volumes volumeId = some published ∧
    Serves published mounted
  complete : ∀ volumeId published, machine.volumes volumeId = some published →
    ∀ point ∈ points published.target published.overlay, point ∈ machine.mounts.map Mounted.target
  once : (machine.mounts.map Mounted.target).Nodup
  places : ∀ first second one other, machine.volumes first = some one → machine.volumes second = some other →
    ∀ point ∈ points one.target one.overlay, point ∈ points other.target other.overlay → first = second
  apart : ∀ volumeId published, machine.volumes volumeId = some published →
    (points published.target published.overlay).Nodup

theorem Balanced.begin (contents : String → Option String) : Balanced (NodeMachine.begin contents) where
  children := by simp [NodeMachine.begin]
  distinct := List.nodup_nil
  owners := by simp [NodeMachine.begin]
  devices := by simp [NodeMachine.begin]
  mounted := by simp [NodeMachine.begin]
  complete := by simp [NodeMachine.begin]
  once := List.nodup_nil
  places := by simp [NodeMachine.begin]
  apart := by simp [NodeMachine.begin]

/-- The node holds the same volumes, children, devices, mounts and records. -/
structure SameNode (before after : NodeMachine) : Prop where
  volumes : after.volumes = before.volumes
  files : after.files = before.files
  children : after.children = before.children
  attached : after.attached = before.attached
  mounts : after.mounts = before.mounts

theorem SameNode.refl (machine : NodeMachine) : SameNode machine machine := ⟨rfl, rfl, rfl, rfl, rfl⟩

/-- The volume that a machine with another one takes leaves the others alone. -/
theorem Balanced.add {after : NodeMachine} {volumeId : String} {fresh : List Mounted}
    (balanced : Balanced machine) (published : Published) (free : machine.volumes volumeId = none)
    (unused : published.pid ∉ machine.children) (new : machine.attached published.device = none)
    (bare : ∀ point ∈ points published.target published.overlay, point ∉ machine.mounts.map Mounted.target)
    (apart : (points published.target published.overlay).Nodup)
    (placed : fresh.map Mounted.target = points published.target published.overlay)
    (serves : ∀ mounted ∈ fresh, Serves published mounted)
    (volumes : after.volumes = Function.update machine.volumes volumeId (some published))
    (children : after.children = machine.children ++ [published.pid])
    (attached : after.attached = Function.update machine.attached published.device (some volumeId))
    (mounts : after.mounts = fresh ++ machine.mounts) : Balanced after := by
  have other {name : String} {entry : Published} (found : after.volumes name = some entry) :
      name = volumeId ∧ entry = published ∨ name ≠ volumeId ∧ machine.volumes name = some entry := by
    rw [volumes] at found
    by_cases same : name = volumeId
    · subst same
      rw [Function.update_self] at found
      exact .inl ⟨rfl, (Option.some.inj found).symm⟩
    · rw [Function.update_of_ne same] at found
      exact .inr ⟨same, found⟩
  have self : after.volumes volumeId = some published := by
    rw [volumes, Function.update_self]
  have kept {name : String} {entry : Published} (found : machine.volumes name = some entry) :
      after.volumes name = some entry := by
    rw [volumes, Function.update_of_ne]
    · exact found
    · rintro rfl
      cases free.symm.trans found
  have child {name : String} {entry : Published} (found : machine.volumes name = some entry) :
      entry.pid ≠ published.pid := by
    intro same
    exact unused (same ▸ (balanced.children entry.pid).mpr ⟨name, entry, found, rfl⟩)
  have place {name : String} {entry : Published} (found : machine.volumes name = some entry) (point : String)
      (inside : point ∈ points entry.target entry.overlay) : point ∉ points published.target published.overlay := by
    intro also
    exact bare point also (balanced.complete name entry found point inside)
  constructor
  case children =>
    intro pid
    rw [children, List.mem_append, List.mem_singleton, balanced.children]
    constructor
    · rintro (⟨name, entry, found, same⟩ | rfl)
      · exact ⟨name, entry, kept found, same⟩
      · exact ⟨volumeId, published, self, rfl⟩
    · rintro ⟨name, entry, found, same⟩
      rcases other found with ⟨rfl, rfl⟩ | ⟨different, before⟩
      · exact .inr same.symm
      · exact .inl ⟨name, entry, before, same⟩
  case distinct =>
    rw [children]
    apply List.nodup_append.mpr
    refine ⟨balanced.distinct, List.pairwise_singleton _ _, ?_⟩
    rintro one member other same rfl
    rw [List.mem_singleton.mp same] at member
    exact unused member
  case owners =>
    intro first second one another foundFirst foundSecond same
    rcases other foundFirst with ⟨rfl, rfl⟩ | ⟨_, before⟩
    · rcases other foundSecond with ⟨rfl, rfl⟩ | ⟨_, later⟩
      · rfl
      · exact absurd same.symm (child later)
    · rcases other foundSecond with ⟨rfl, rfl⟩ | ⟨_, later⟩
      · exact absurd same (child before)
      · exact balanced.owners first second one another before later same
  case devices =>
    intro device name
    rw [attached]
    by_cases same : device = published.device
    · subst same
      rw [Function.update_self]
      constructor
      · intro here
        obtain rfl := Option.some.inj here
        exact ⟨published, self, rfl⟩
      · rintro ⟨entry, found, sameDevice⟩
        rcases other found with ⟨rfl, rfl⟩ | ⟨_, before⟩
        · rfl
        · have there := (balanced.devices entry.device name).mpr ⟨entry, before, rfl⟩
          rw [sameDevice, new] at there
          cases there
    · rw [Function.update_of_ne same, balanced.devices]
      constructor
      · rintro ⟨entry, found, sameDevice⟩
        exact ⟨entry, kept found, sameDevice⟩
      · rintro ⟨entry, found, sameDevice⟩
        rcases other found with ⟨rfl, rfl⟩ | ⟨_, before⟩
        · exact absurd sameDevice.symm same
        · exact ⟨entry, before, sameDevice⟩
  case mounted =>
    intro mounted member
    rw [mounts, List.mem_append] at member
    rcases member with here | there
    · exact ⟨volumeId, published, self, serves mounted here⟩
    · obtain ⟨name, entry, found, serving⟩ := balanced.mounted mounted there
      exact ⟨name, entry, kept found, serving⟩
  case complete =>
    intro name entry found point inside
    rw [mounts, List.map_append, List.mem_append, placed]
    rcases other found with ⟨rfl, rfl⟩ | ⟨_, before⟩
    · exact .inl inside
    · exact .inr (balanced.complete name entry before point inside)
  case once =>
    rw [mounts, List.map_append, placed]
    apply List.nodup_append.mpr
    refine ⟨apart, balanced.once, ?_⟩
    rintro point inside other also rfl
    exact bare point inside also
  case places =>
    intro first second one another foundFirst foundSecond point inFirst inSecond
    rcases other foundFirst with ⟨rfl, rfl⟩ | ⟨_, before⟩
    · rcases other foundSecond with ⟨rfl, rfl⟩ | ⟨_, later⟩
      · rfl
      · exact absurd inFirst (place later point inSecond)
    · rcases other foundSecond with ⟨rfl, rfl⟩ | ⟨_, later⟩
      · exact absurd inSecond (place before point inFirst)
      · exact balanced.places first second one another before later point inFirst inSecond
  case apart =>
    intro name entry found
    rcases other found with ⟨rfl, rfl⟩ | ⟨_, before⟩
    · exact apart
    · exact balanced.apart name entry before

/-- What serves a volume is mounted at one of its points. -/
theorem Serves.placed {published : Published} {mounted : Mounted} (serves : Serves published mounted) :
    mounted.target ∈ points published.target published.overlay := by
  unfold Serves at serves
  unfold points
  cases overlay : published.overlay with
  | none =>
      rw [overlay] at serves
      simp [serves.1]
  | some dirs =>
      rw [overlay] at serves
      rcases serves with ⟨top, _⟩ | ⟨lower, _⟩
      · simp [top]
      · simp [lower]

/-- A volume that leaves takes its child, its device and its mounts along. -/
theorem Balanced.remove {after : NodeMachine} {volumeId : String} {published : Published}
    (balanced : Balanced machine) (found : machine.volumes volumeId = some published)
    (volumes : after.volumes = Function.update machine.volumes volumeId none)
    (children : after.children = machine.children.erase published.pid)
    (attached : after.attached = Function.update machine.attached published.device none)
    (mounts : after.mounts = machine.mounts.filter fun mounted =>
      mounted.target ∉ points published.target published.overlay) : Balanced after := by
  have other {name : String} {entry : Published} :
      after.volumes name = some entry ↔ name ≠ volumeId ∧ machine.volumes name = some entry := by
    rw [volumes]
    by_cases same : name = volumeId
    · simp [same]
    · simp [same, Function.update_of_ne]
  constructor
  case children =>
    intro pid
    rw [children, balanced.distinct.mem_erase_iff, balanced.children]
    constructor
    · rintro ⟨different, name, entry, there, same⟩
      refine ⟨name, entry, other.mpr ⟨?_, there⟩, same⟩
      rintro rfl
      obtain rfl := Option.some.inj (found.symm.trans there)
      exact different same.symm
    · rintro ⟨name, entry, there, same⟩
      obtain ⟨different, before⟩ := other.mp there
      refine ⟨?_, name, entry, before, same⟩
      intro samePid
      exact different (balanced.owners name volumeId entry published before found (same.trans samePid))
  case distinct =>
    rw [children]
    exact balanced.distinct.erase _
  case owners =>
    intro first second one another foundFirst foundSecond
    exact balanced.owners first second one another (other.mp foundFirst).2 (other.mp foundSecond).2
  case devices =>
    intro device name
    rw [attached]
    by_cases same : device = published.device
    · subst same
      rw [Function.update_self]
      constructor
      · intro nothing
        cases nothing
      · rintro ⟨entry, there, sameDevice⟩
        obtain ⟨different, before⟩ := other.mp there
        have here := (balanced.devices published.device name).mpr ⟨entry, before, sameDevice⟩
        have mine := (balanced.devices published.device volumeId).mpr ⟨published, found, rfl⟩
        exact absurd (Option.some.inj (here.symm.trans mine)) different
    · rw [Function.update_of_ne same, balanced.devices]
      constructor
      · rintro ⟨entry, there, sameDevice⟩
        refine ⟨entry, other.mpr ⟨?_, there⟩, sameDevice⟩
        rintro rfl
        obtain rfl := Option.some.inj (found.symm.trans there)
        exact same sameDevice.symm
      · rintro ⟨entry, there, sameDevice⟩
        exact ⟨entry, (other.mp there).2, sameDevice⟩
  case mounted =>
    intro mounted member
    rw [mounts, List.mem_filter, decide_eq_true_iff] at member
    obtain ⟨name, entry, there, serves⟩ := balanced.mounted mounted member.1
    refine ⟨name, entry, other.mpr ⟨?_, there⟩, serves⟩
    rintro rfl
    obtain rfl := Option.some.inj (found.symm.trans there)
    exact member.2 serves.placed
  case complete =>
    intro name entry there point inside
    obtain ⟨different, before⟩ := other.mp there
    obtain ⟨mounted, member, rfl⟩ := List.mem_map.mp (balanced.complete name entry before point inside)
    apply List.mem_map_of_mem
    rw [mounts, List.mem_filter, decide_eq_true_iff]
    refine ⟨member, fun also => ?_⟩
    exact different (balanced.places name volumeId entry published before found mounted.target inside also)
  case once =>
    rw [mounts]
    exact balanced.once.sublist (List.filter_sublist.map _)
  case places =>
    intro first second one another foundFirst foundSecond
    exact balanced.places first second one another (other.mp foundFirst).2 (other.mp foundSecond).2
  case apart =>
    intro name entry there
    exact balanced.apart name entry (other.mp there).2

theorem Balanced.same {after : NodeMachine} (balanced : Balanced machine) (volumes : after.volumes = machine.volumes)
    (children : after.children = machine.children) (attached : after.attached = machine.attached)
    (mounts : after.mounts = machine.mounts) : Balanced after where
  children := by simpa only [children, volumes] using balanced.children
  distinct := by simpa only [children] using balanced.distinct
  owners := by simpa only [volumes] using balanced.owners
  devices := by simpa only [attached, volumes] using balanced.devices
  mounted := by simpa only [mounts, volumes] using balanced.mounted
  complete := by simpa only [mounts, volumes] using balanced.complete
  once := by simpa only [mounts] using balanced.once
  places := by simpa only [volumes] using balanced.places
  apart := by simpa only [volumes] using balanced.apart

end Balance

section Publish

theorem succeeds_ok {answer : Except Error Unit} (done : succeeds answer = true) : answer = .ok () := by
  cases answer with
  | error error => cases done
  | ok value => rfl

/-- A rollback unmounts what a failed mount has left, and stops the child. -/
theorem rollBack_left {target device : String} {pid : Nat} {written : NodeMachine} {mounts : List Mounted}
    (left : Leftover plan device written.mounts mounts) (apart : (points target plan.overlay).Nodup)
    (bare : ∀ point ∈ points target plan.overlay, point ∉ written.mounts.map Mounted.target)
    (unmounts : ∀ point ∈ points target plan.overlay, answers.umount point = .ok ()) :
    rollBack answers plan target pid device { written with mounts } = stop pid (some device) written := by
  rw [rollBack]
  cases overlay : plan.overlay with
  | none =>
      rcases left with rfl | ⟨dirs, options, some, _⟩
      · rfl
      · cases overlay.symm.trans some
  | some dirs =>
      rw [overlay] at apart bare unmounts
      have different : target ≠ dirs.lower := by
        simpa [points] using apart
      have top : target ∉ written.mounts.map Mounted.target := bare target (by simp [points])
      have below : dirs.lower ∉ written.mounts.map Mounted.target := bare dirs.lower (by simp [points])
      dsimp only
      congr 1
      rw [umountOverlay, Action.bind_apply]
      rcases left with rfl | ⟨found, options, some, rfl⟩
      · rw [umount_absent top]
        exact congrArg Prod.snd (umount_absent below)
      · obtain rfl := Option.some.inj (overlay.symm.trans some)
        have absent : target ∉ (⟨dirs.lower, device, plan.fsType, options⟩ :: written.mounts).map Mounted.target := by
          simpa [different] using top
        have present : dirs.lower ∈
            (⟨dirs.lower, device, plan.fsType, options⟩ :: written.mounts).map Mounted.target := List.mem_cons_self
        rw [umount_absent absent]
        dsimp only
        rw [umount_present present (unmounts dirs.lower (by simp [points]))]
        simp

/-- What a publish mounts are the points of its volume, and each of them serves it. -/
theorem planMounts_points (plan : MountPlan) (device target : String) :
    (planMounts plan device target).map Mounted.target = points target plan.overlay := by
  rw [planMounts, points]
  cases plan.overlay with
  | none => rfl
  | some dirs => rfl

theorem planMounts_serve (plan : MountPlan) (device target : String) (pid : Nat) :
    ∀ mounted ∈ planMounts plan device target, Serves ⟨true, pid, device, target, plan.overlay⟩ mounted := by
  intro mounted member
  unfold planMounts at member
  unfold Serves
  dsimp only
  cases overlay : plan.overlay with
  | none =>
      rw [overlay] at member
      obtain rfl := List.mem_singleton.mp member
      exact ⟨rfl, rfl⟩
  | some dirs =>
      rw [overlay] at member
      dsimp only at member ⊢
      rcases List.mem_pair.mp member with rfl | rfl
      · exact .inl ⟨rfl, rfl⟩
      · refine .inr ⟨rfl, rfl, ?_⟩
        dsimp only
        rw [mountOptions, if_pos rfl]
        split
        · simp
        · simp

/-- A failed publish leaves the node as it was, and a published volume keeps the balance. -/
theorem bringUp_balanced {volumeId target : String} (balanced : Balanced machine)
    (free : machine.volumes volumeId = none) (fresh : freshChild answers machine = true)
    (apart : (points target plan.overlay).Nodup)
    (bare : ∀ point ∈ points target plan.overlay, point ∉ machine.mounts.map Mounted.target)
    (unmounts : ∀ point ∈ points target plan.overlay, answers.umount point = .ok ()) :
    Balanced (bringUp answers plan volumeId target machine).2 ∧
      ∀ error, (bringUp answers plan volumeId target machine).1 = .error error →
        SameNode machine (bringUp answers plan volumeId target machine).2 := by
  have restored {pid : Nat} (unused : pid ∉ machine.children) :
      (machine.children ++ [pid]).erase pid = machine.children := by
    rw [List.erase_append_right _ unused]
    simp
  rw [freshChild, Bool.and_eq_true] at fresh
  rcases bringUp_cases answers plan volumeId target machine with ⟨error, failed⟩ | ⟨error, pid, spawned, failed⟩ |
    ⟨pid, device, written, spawned, discovered, ensured, outcome⟩
  · rw [failed]
    exact ⟨balanced, fun _ _ => .refl machine⟩
  · rw [spawned] at fresh
    have unused := of_decide_eq_true fresh.1
    rw [failed]
    dsimp only
    rw [restored unused]
    exact ⟨balanced, fun _ _ => .refl machine⟩
  · rw [spawned, discovered] at fresh
    have unused := of_decide_eq_true fresh.1
    have new := of_decide_eq_true fresh.2
    have served : written.volumes = machine.volumes ∧ written.files = machine.files ∧
        written.children = machine.children ++ [pid] ∧
        written.attached = Function.update machine.attached device (some volumeId) ∧
        written.mounts = machine.mounts := by
      rcases ensured with rfl | ⟨_, fsType, rfl⟩
      · exact ⟨rfl, rfl, rfl, rfl, rfl⟩
      · rw [fill_attached volumeId fsType (Function.update_self _ _ _)]
        exact ⟨rfl, rfl, rfl, rfl, rfl⟩
    obtain ⟨volumes, files, children, attached, mounts⟩ := served
    rw [← mounts] at bare
    rcases outcome with ⟨error, left, leftover, failed⟩ | done
    · rw [failed, rollBack_left leftover apart bare unmounts]
      have same : SameNode machine (stop pid (some device) written) := by
        constructor
        case volumes => exact volumes
        case files => exact files
        case mounts => exact mounts
        case children =>
          rw [stop]
          dsimp only
          rw [children, restored unused]
        case attached =>
          rw [stop]
          dsimp only
          rw [attached, Function.update_idem, ← new, Function.update_eq_self]
      exact ⟨balanced.same same.volumes same.children same.attached same.mounts, fun _ _ => same⟩
    · rw [done]
      refine ⟨?_, fun error failed => (by cases failed)⟩
      apply balanced.add ⟨true, pid, device, target, plan.overlay⟩ free unused new
        (mounts ▸ bare) apart (planMounts_points plan device target) (planMounts_serve plan device target pid)
      case volumes =>
        rw [record]
        dsimp only
        rw [volumes]
      case children => exact children
      case attached => exact attached
      case mounts =>
        rw [record]
        dsimp only
        rw [mounts]

end Publish

section Unpublish

/-- The first entry with a key is the only one where keys are distinct. -/
theorem eraseP_target {mounts : List Mounted} {target : String} (once : (mounts.map Mounted.target).Nodup) :
    (mounts.eraseP fun mounted => mounted.target = target) =
      mounts.filter fun mounted => mounted.target ≠ target := by
  induction mounts with
  | nil => rfl
  | cons mounted rest inductionHypothesis =>
      rw [List.map_cons, List.nodup_cons] at once
      by_cases same : mounted.target = target
      · subst same
        rw [List.eraseP_cons_of_pos (by simp), List.filter_cons_of_neg (by simp)]
        symm
        rw [List.filter_eq_self]
        intro other member
        rw [decide_eq_true_iff]
        rintro also
        exact once.1 (also ▸ List.mem_map_of_mem member)
      · rw [List.eraseP_cons_of_neg (by simpa using same), List.filter_cons_of_pos (by simpa using same),
          inductionHypothesis once.2]

/-- A volume that is unpublished where it was published leaves with its mounts. -/
theorem unpublish_present {unmounts : String → Except Error Unit} {volumeId target : String} {published : Published}
    (balanced : Balanced machine) (named : volumeId ≠ "") (placed : target ≠ "")
    (found : machine.volumes volumeId = some published) (same : published.target = target)
    (answers : ∀ point ∈ points target published.overlay, unmounts point = .ok ()) :
    (nodeUnpublishVolume unmounts volumeId target machine).1 = .ok () ∧
      Balanced (nodeUnpublishVolume unmounts volumeId target machine).2 := by
  subst same
  have complete := balanced.complete volumeId published found
  have apart := balanced.apart volumeId published found
  have present : published.target ∈
      ({ machine with volumes := Function.update machine.volumes volumeId none } : NodeMachine).mounts.map
        Mounted.target := complete published.target (by simp [points])
  rw [nodeUnpublishVolume, if_neg named, if_neg placed]
  dsimp only
  rw [umount_present present (answers published.target (by simp [points]))]
  dsimp only
  rw [found, eraseP_target balanced.once]
  dsimp only
  refine ⟨rfl, ?_⟩
  cases overlay : published.overlay with
  | none =>
      apply balanced.remove found rfl rfl rfl
      dsimp only [stop]
      rw [overlay]
      simp [points]
  | some dirs =>
      rw [overlay] at complete apart answers
      have different : published.target ≠ dirs.lower := by
        simpa [points] using apart
      dsimp only
      set left := machine.mounts.filter fun mounted => mounted.target ≠ published.target with leftEq
      have absent : published.target ∉ left.map Mounted.target := by
        simp [leftEq]
      have lower : dirs.lower ∈ left.map Mounted.target := by
        obtain ⟨mounted, member, isLower⟩ := List.mem_map.mp (complete dirs.lower (by simp [points]))
        refine List.mem_map.mpr ⟨mounted, List.mem_filter.mpr ⟨member, ?_⟩, isLower⟩
        rw [decide_eq_true_iff, isLower]
        exact different.symm
      have onceLeft : (left.map Mounted.target).Nodup := balanced.once.sublist (List.filter_sublist.map _)
      have torn : (umountOverlay unmounts published.target dirs { machine with
          volumes := Function.update machine.volumes volumeId none, mounts := left }).2 = { machine with
          volumes := Function.update machine.volumes volumeId none
          mounts := left.filter fun mounted => mounted.target ≠ dirs.lower } := by
        rw [umountOverlay, Action.bind_apply, umount_absent absent]
        dsimp only
        rw [umount_present lower (answers dirs.lower (by simp [points])), eraseP_target onceLeft]
      rw [torn]
      apply balanced.remove found rfl rfl rfl
      dsimp only [stop]
      rw [leftEq, List.filter_filter, overlay]
      apply List.filter_congr
      intro mounted _
      simp [points, and_comm]

theorem unpublish_balanced {unmounts : String → Except Error Unit} {volumeId target : String}
    (balanced : Balanced machine) (lib : UrlLib) (node : NodeConfig)
    (allowed : orderly lib node machine (.unpublish volumeId target unmounts) = true) :
    Balanced (nodeUnpublishVolume unmounts volumeId target machine).2 ∧
      ∀ error, (nodeUnpublishVolume unmounts volumeId target machine).1 = .error error →
        SameNode machine (nodeUnpublishVolume unmounts volumeId target machine).2 := by
  by_cases named : volumeId = ""
  · rw [nodeUnpublishVolume, if_pos named]
    exact ⟨balanced, fun _ _ => .refl machine⟩
  · by_cases placed : target = ""
    · rw [nodeUnpublishVolume, if_neg named, if_pos placed]
      exact ⟨balanced, fun _ _ => .refl machine⟩
    · rw [orderly] at allowed
      cases found : machine.volumes volumeId with
      | none =>
          rw [found] at allowed
          have absent : target ∉
              ({ machine with volumes := Function.update machine.volumes volumeId none } : NodeMachine).mounts.map
                Mounted.target := of_decide_eq_true allowed
          rw [nodeUnpublishVolume, if_neg named, if_neg placed]
          dsimp only
          rw [umount_absent absent]
          dsimp only
          rw [found]
          refine ⟨balanced.same ?_ rfl rfl rfl, fun error failed => (by cases failed)⟩
          dsimp only
          rw [← found, Function.update_eq_self]
      | some published =>
          rw [found] at allowed
          dsimp only at allowed
          rw [Bool.and_eq_true, decide_eq_true_iff, List.all_eq_true] at allowed
          obtain ⟨done, after⟩ := unpublish_present balanced named placed found allowed.1 fun point inside =>
            succeeds_ok (allowed.2 point inside)
          refine ⟨after, fun error failed => ?_⟩
          rw [done] at failed
          cases failed

end Unpublish

section Runs

theorem publish_balanced {lib : UrlLib} {node : NodeConfig} {call : Publish} (balanced : Balanced machine)
    (allowed : orderly lib node machine (.publish call) = true) :
    Balanced (nodePublishVolume lib node call machine).2 ∧
      ∀ error, (nodePublishVolume lib node call machine).1 = .error error →
        SameNode machine (nodePublishVolume lib node call machine).2 := by
  rw [nodePublishVolume]
  dsimp only
  split
  · exact ⟨balanced, fun _ _ => .refl machine⟩
  · split
    · exact ⟨balanced, fun _ _ => .refl machine⟩
    · rw [orderly] at allowed
      cases free : machine.volumes call.request.volumeId with
      | some existing => exact ⟨balanced, fun _ _ => .refl machine⟩
      | none =>
          dsimp only
          cases planned : mountPlan lib node call.request call.capability call.readonly with
          | error error => exact ⟨balanced, fun _ _ => .refl machine⟩
          | ok plan =>
              rw [free, planned] at allowed
              dsimp only at allowed
              rw [Option.isSome_none, Bool.false_or, Bool.and_eq_true, Bool.and_eq_true, decide_eq_true_iff,
                List.all_eq_true] at allowed
              obtain ⟨⟨apart, fresh⟩, points⟩ := allowed
              have bare (point : String) (inside : point ∈ NodeMachine.points call.request.targetPath plan.overlay) :=
                Bool.and_eq_true_iff.mp (points point inside)
              obtain ⟨after, restored⟩ := bringUp_balanced balanced free fresh apart
                (fun point inside => of_decide_eq_true (bare point inside).1)
                (fun point inside => succeeds_ok (bare point inside).2)
              refine ⟨after, fun error failed => ?_⟩
              dsimp only at failed ⊢
              cases outcome : (bringUp call.answers plan call.request.volumeId call.request.targetPath machine).1 with
              | error reason => exact restored reason outcome
              | ok value =>
                  rw [outcome] at failed
                  cases failed

theorem perform_balanced {lib : UrlLib} {node : NodeConfig} {call : Call} (balanced : Balanced machine)
    (allowed : orderly lib node machine call = true) :
    Balanced (perform lib node machine call).2 ∧
      ∀ error, (perform lib node machine call).1 = .error error → SameNode machine (perform lib node machine call).2 := by
  cases call with
  | publish call => exact publish_balanced balanced allowed
  | unpublish volumeId target unmounts => exact unpublish_balanced balanced lib node allowed

/-- After every orderly run the node holds just what its volumes need, nothing once they are gone, and a call that
    fails changes nothing. -/
theorem node_balances (lib : UrlLib) (node : NodeConfig) (contents : String → Option String) (calls : List Call)
    (final : NodeMachine) (allowed : along (step lib node) (orderly lib node) (begin contents) calls = true)
    (run : execute (step lib node) (begin contents) calls = some final) :
    Balanced final ∧
      ((∀ volumeId, final.volumes volumeId = none) →
        final.children = [] ∧ final.mounts = [] ∧ ∀ device, final.attached device = none) ∧
      ∀ call error, orderly lib node final call = true → (perform lib node final call).1 = .error error →
        SameNode final (perform lib node final call).2 := by
  have balanced : Balanced final := by
    refine execute_invariant ?_ (Balanced.begin contents) allowed run
    intro state call next before condition taken
    obtain rfl := Option.some.inj taken
    exact (perform_balanced before condition).1
  refine ⟨balanced, fun gone => ⟨?_, ?_, ?_⟩, fun call error condition failed => ?_⟩
  · rw [List.eq_nil_iff_forall_not_mem]
    intro pid member
    obtain ⟨volumeId, published, found, _⟩ := (balanced.children pid).mp member
    cases (gone volumeId).symm.trans found
  · rw [List.eq_nil_iff_forall_not_mem]
    intro mounted member
    obtain ⟨volumeId, published, found, _⟩ := balanced.mounted mounted member
    cases (gone volumeId).symm.trans found
  · intro device
    rw [Option.eq_none_iff_forall_ne_some]
    intro volumeId here
    obtain ⟨published, found, _⟩ := (balanced.devices device volumeId).mp here
    cases (gone volumeId).symm.trans found
  · exact (perform_balanced balanced condition).2 error failed

/-- A publish, one of another volume whose mount fails, and an unpublish. -/
def podCalls : List Call :=
  [.publish blobPublish,
    .publish { blobPublish with
      request := ⟨"volumes/disks/b.img", "/pods/b/mount", fun key => if key = "blob" then some "b.img" else none,
        fun _ => none, false⟩
      answers := { promptAnswers with
        spawn := .ok 8, discover := .ok "/dev/ublkb1", mount := fun _ => .error ["no such device"] } },
    .unpublish "volumes/disks/a.img" "/pods/a/mount" fun _ => .ok ()]

theorem node_balances_pod :
    along (step sampleLib sampleNode) (orderly sampleLib sampleNode) (begin fun _ => none) podCalls = true ∧
      ∃ final, execute (step sampleLib sampleNode) (begin fun _ => none) podCalls = some final ∧ Balanced final := by
  have allowed : along (step sampleLib sampleNode) (orderly sampleLib sampleNode) (begin fun _ => none) podCalls = true := by
    decide +kernel
  exact ⟨allowed, _, rfl, (node_balances sampleLib sampleNode (fun _ => none) podCalls _ allowed rfl).1⟩

end Runs

end NodeMachine
end UblkAzblob

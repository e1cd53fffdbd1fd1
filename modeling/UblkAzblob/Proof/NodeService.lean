import UblkAzblob.Construction.NodeService
import UblkAzblob.Foundation.Interleaving
import Mathlib.Logic.Equiv.Basic

namespace UblkAzblob
open Storage

section Unpublish

variable {World : Type} {host : NodeHost World} {volumeId target : String} {published : Published}
  {state : NodeState World}

/-- The action only adds calls to the log, and leaves the table and the files alone. -/
def TableKept {Value : Type} (action : Action (NodeState World) Value) : Prop :=
  ∀ state, ((action state).2.volumes = state.volumes ∧ (action state).2.files = state.files) ∧
    state.calls <+: (action state).2.calls

theorem TableKept.record (call : NodeCall) : TableKept (NodeState.record call : Action (NodeState World) Unit) :=
  fun _ => ⟨⟨rfl, rfl⟩, List.prefix_append _ _⟩

theorem TableKept.umount (host : NodeHost World) (target : String) : TableKept (UblkAzblob.umount host target) :=
  fun _ => ⟨⟨rfl, rfl⟩, List.prefix_append _ _⟩

theorem TableKept.bind {First Second : Type} {first : Action (NodeState World) First}
    {next : First → Action (NodeState World) Second} (quiet : TableKept first) (quietNext : ∀ value, TableKept (next value)) :
    TableKept (first >>= next) := by
  intro state
  obtain ⟨⟨volumes, files⟩, logged⟩ := quiet state
  rw [Action.bind_apply]
  rcases ran : first state with ⟨outcome, after⟩
  rw [ran] at volumes files logged
  cases outcome with
  | error error => exact ⟨⟨volumes, files⟩, logged⟩
  | ok value =>
      obtain ⟨⟨laterVolumes, laterFiles⟩, later⟩ := quietNext value after
      exact ⟨⟨laterVolumes.trans volumes, laterFiles.trans files⟩, logged.trans later⟩

theorem TableKept.forEach {Item : Type} {items : List Item} {body : Item → Action (NodeState World) Unit}
    (quiet : ∀ item, TableKept (body item)) : TableKept (Action.forEach items body) := by
  induction items with
  | nil => exact fun _ => ⟨⟨rfl, rfl⟩, List.prefix_refl _⟩
  | cons item rest ih => exact (quiet item).bind fun _ => ih

/-- The teardown of an overlay is logged before anything else. -/
theorem umountOverlay_quiet (host : NodeHost World) (target : String) (dirs : OverlayDirs) :
    TableKept (umountOverlay host target dirs) ∧
      ∀ state, .umountOverlay target dirs ∈ (umountOverlay host target dirs state).2.calls := by
  have rest : TableKept (do
      UblkAzblob.umount host target
      UblkAzblob.umount host dirs.lower
      Action.forEach ([dirs.upper, dirs.work, dirs.lower] ++ dirs.scratchRoot.toList) fun dir =>
        Action.modify fun state => { state with world := host.removeDirAll dir state.world }) :=
    (TableKept.umount host target).bind fun _ => (TableKept.umount host dirs.lower).bind fun _ =>
      TableKept.forEach fun _ _ => ⟨⟨rfl, rfl⟩, List.prefix_refl _⟩
  refine ⟨(TableKept.record _).bind fun _ => rest, fun state => ?_⟩
  have logged := (rest { state with calls := state.calls ++ [.umountOverlay target dirs] }).2
  exact logged.subset (by simp)

/-- The volume was told to stop, after the teardown of its overlay was attempted. -/
def Stopped (published : Published) (calls : List NodeCall) : Prop :=
  .signal published.pid sigint ∈ calls ∧
    ∀ dirs, published.overlay = some dirs → ∃ target, .umountOverlay target dirs ∈ calls

theorem Stopped.mono {earlier later : List NodeCall} (stopped : Stopped published earlier) (logged : earlier <+: later) :
    Stopped published later := by
  refine ⟨logged.subset stopped.1, fun dirs overlay => ?_⟩
  obtain ⟨target, attempted⟩ := stopped.2 dirs overlay
  exact ⟨target, logged.subset attempted⟩

/-- A volume is stopped whatever its overlay answers. -/
theorem stopVolume_spec (host : NodeHost World) (target : String) (published : Published) (state : NodeState World) :
    ∃ after, stopVolume host target published state = (.ok (), after) ∧ after.volumes = state.volumes ∧
      after.files = state.files ∧ state.calls <+: after.calls ∧ Stopped published after.calls := by
  cases overlay : published.overlay with
  | none =>
      refine ⟨{ state with calls := state.calls ++ [.signal published.pid sigint] ++ [.wait published.pid] },
        ?_, rfl, rfl, ?_, ?_, ?_⟩
      · simp only [stopVolume, overlay]
        rfl
      · exact (List.prefix_append _ _).trans (List.prefix_append _ _)
      · simp
      · simp [overlay]
  | some dirs =>
      obtain ⟨quiet, attempted⟩ := umountOverlay_quiet host target dirs
      obtain ⟨⟨volumes, files⟩, logged⟩ := quiet state
      set torn := (umountOverlay host target dirs state).2 with tornEq
      refine ⟨{ torn with calls := torn.calls ++ [.signal published.pid sigint] ++ [.wait published.pid] },
        ?_, volumes, files, ?_, ?_, ?_⟩
      · simp only [stopVolume, overlay]
        rfl
      · exact logged.trans ((List.prefix_append _ _).trans (List.prefix_append _ _))
      · simp
      · intro other given
        obtain rfl := Option.some.inj (overlay.symm.trans given)
        exact ⟨target, by simp [tornEq, attempted state]⟩

/-- What one call does: it is rejected, fails to unmount, or stops the volume. -/
theorem nodeUnpublishVolume_cases (named : volumeId ≠ "") :
    (target = "" ∧ nodeUnpublishVolume host volumeId target state = (.error ["target path is required"], state)) ∨
    (target ≠ "" ∧ ∃ error after, (host.unmounts target state.world).1 = .error error ∧
      nodeUnpublishVolume host volumeId target state = (.error error, after) ∧ after.volumes volumeId = none ∧
      after.files = state.files ∧ state.calls <+: after.calls) ∨
    (target ≠ "" ∧ (host.unmounts target state.world).1 = .ok () ∧ ∃ after,
      nodeUnpublishVolume host volumeId target state = (.ok (), after) ∧ after.volumes volumeId = none ∧
      state.calls <+: after.calls ∧
      ∀ published, state.volumes volumeId = some published → Stopped published after.calls) := by
  have accepted : Action.ensure (volumeId ≠ "") ["volume id is required"] state = (.ok (), state) := by
    rw [Action.ensure_apply, if_pos named]
  by_cases empty : target = ""
  · refine .inl ⟨empty, ?_⟩
    rw [nodeUnpublishVolume, Action.bind_ok accepted, Action.bind_apply, Action.ensure_apply, if_neg (by simp [empty])]
  · have placed : Action.ensure (target ≠ "") ["target path is required"] state = (.ok (), state) := by
      rw [Action.ensure_apply, if_pos empty]
    set removed : NodeState World := { state with volumes := Function.update state.volumes volumeId none } with removedEq
    set unmounted : NodeState World := { removed with
      world := (host.unmounts target state.world).2, calls := state.calls ++ [.umount target] } with unmountedEq
    have absent : unmounted.volumes volumeId = none := Function.update_self _ _ _
    have logged : state.calls <+: unmounted.calls := List.prefix_append _ _
    have started (rest : Option Published → Action (NodeState World) Unit) :
        (do
          Action.ensure (volumeId ≠ "") ["volume id is required"]
          Action.ensure (target ≠ "") ["target path is required"]
          let published ← Action.get fun state => state.volumes volumeId
          Action.modify fun state => { state with volumes := Function.update state.volumes volumeId none }
          umount host target
          rest published : Action (NodeState World) Unit) state =
        (do
          umount host target
          rest (state.volumes volumeId) : Action (NodeState World) Unit) removed := by
      rw [Action.bind_ok accepted, Action.bind_ok placed]
      rfl
    rw [nodeUnpublishVolume, started]
    cases outcome : (host.unmounts target state.world).1 with
    | error error =>
        have failed : umount host target removed = (.error error, unmounted) := by
          rw [← outcome]
          rfl
        exact .inr (.inl ⟨empty, error, unmounted, rfl, by rw [Action.bind_apply, failed], absent, rfl, logged⟩)
    | ok value =>
        have done : umount host target removed = (.ok (), unmounted) := by
          rw [← outcome]
          rfl
        rw [Action.bind_ok done]
        refine .inr (.inr ⟨empty, rfl, ?_⟩)
        cases tracked : state.volumes volumeId with
        | none =>
            exact ⟨{ unmounted with files := removeVolumeMeta unmounted.files target }, rfl, absent, logged,
              fun _ known => (by cases known)⟩
        | some published =>
            obtain ⟨after, stops, volumes, _, more, stopped⟩ := stopVolume_spec host target published unmounted
            refine ⟨{ after with files := removeVolumeMeta after.files target }, ?_, ?_, logged.trans more, ?_⟩
            · dsimp only
              rw [Action.bind_ok stops]
              rfl
            · rw [← absent, ← volumes]
            · intro other known
              obtain rfl := Option.some.inj known
              exact stopped

variable (host volumeId) in
/-- The state after a sequence of calls for one volume, whatever they return. -/
def unpublishAll (targets : List String) (state : NodeState World) : NodeState World :=
  targets.foldl (fun state target => (nodeUnpublishVolume host volumeId target state).2) state

/-- A call that fails changes neither the entry nor the record of the volume, and one that succeeds finds the volume
    stopped, by itself or by an earlier call. -/
structure RetrySafe (host : NodeHost World) (volumeId : String) (published : Published) (target : String)
    (state : NodeState World) : Prop where
  failed : ∀ error after, nodeUnpublishVolume host volumeId target state = (.error error, after) →
    after.volumes volumeId = state.volumes volumeId ∧
      after.files (metaPath published.target) = state.files (metaPath published.target)
  succeeded : ∀ after, nodeUnpublishVolume host volumeId target state = (.ok (), after) →
    Stopped published after.calls

/-- The volume has left the table and was stopped. -/
def Settled (volumeId : String) (published : Published) (state : NodeState World) : Prop :=
  state.volumes volumeId = none ∧ Stopped published state.calls

theorem Settled.retrySafe (named : volumeId ≠ "") (settled : Settled volumeId published state) (target : String) :
    RetrySafe host volumeId published target state ∧
      Settled volumeId published (nodeUnpublishVolume host volumeId target state).2 := by
  rcases @nodeUnpublishVolume_cases World host volumeId target state named with
    ⟨_, rejected⟩ | ⟨_, error, after, _, fails, absent, files, logged⟩ | ⟨_, _, after, done, absent, logged, _⟩
  · rw [rejected]
    refine ⟨⟨fun error after same => ?_, fun after same => ?_⟩, settled⟩
    · obtain ⟨_, rfl⟩ := Prod.mk.inj (rejected.symm.trans same)
      exact ⟨rfl, rfl⟩
    · cases rejected.symm.trans same
  · rw [fails]
    refine ⟨⟨fun other later same => ?_, fun later same => ?_⟩, absent, settled.2.mono logged⟩
    · obtain ⟨_, rfl⟩ := Prod.mk.inj (fails.symm.trans same)
      exact ⟨absent.trans settled.1.symm, by rw [files]⟩
    · cases fails.symm.trans same
  · rw [done]
    have stopped := settled.2.mono logged
    refine ⟨⟨fun error later same => ?_, fun later same => ?_⟩, absent, stopped⟩
    · cases done.symm.trans same
    · obtain ⟨_, rfl⟩ := Prod.mk.inj (done.symm.trans same)
      exact stopped

theorem Settled.run (named : volumeId ≠ "") (targets : List String) (settled : Settled volumeId published state) :
    Settled volumeId published (unpublishAll host volumeId targets state) := by
  induction targets generalizing state with
  | nil => exact settled
  | cons target rest ih => exact ih (settled.retrySafe named target).2

/-- Rejected calls leave everything as it is. -/
theorem unpublishAll_rejected (named : volumeId ≠ "") {targets : List String} (empty : ∀ target ∈ targets, target = "") :
    unpublishAll host volumeId targets state = state := by
  induction targets with
  | nil => rfl
  | cons target rest ih =>
      rw [List.forall_mem_cons] at empty
      rcases @nodeUnpublishVolume_cases World host volumeId target state named with
        ⟨_, rejected⟩ | ⟨filled, _⟩ | ⟨filled, _⟩
      · rw [unpublishAll, List.foldl_cons, rejected]
        exact ih empty.2
      · exact absurd empty.1 filled
      · exact absurd empty.1 filled

/-- The first call that is not rejected unmounts its target. -/
def FirstUnmounts (host : NodeHost World) (world : World) (targets : List String) : Prop :=
  ∀ target, targets.find? (· ≠ "") = some target → (host.unmounts target world).1 = .ok ()

theorem FirstUnmounts.retrySafe (named : volumeId ≠ "") (tracked : state.volumes volumeId = some published)
    {targets : List String} (first : FirstUnmounts host state.world targets) {before after : List String}
    {target : String} (split : targets = before ++ target :: after) :
    RetrySafe host volumeId published target (unpublishAll host volumeId before state) := by
  induction before generalizing targets with
  | nil =>
      change RetrySafe host volumeId published target state
      rcases @nodeUnpublishVolume_cases World host volumeId target state named with
        ⟨_, rejected⟩ | ⟨filled, error, _, failed, _⟩ | ⟨filled, _, after, done, _, _, stopped⟩
      · refine ⟨fun error after same => ?_, fun after same => ?_⟩
        · obtain ⟨_, rfl⟩ := Prod.mk.inj (rejected.symm.trans same)
          exact ⟨rfl, rfl⟩
        · cases rejected.symm.trans same
      · have unmounts := first target (by simp [split, filled])
        cases failed.symm.trans unmounts
      · refine ⟨fun error later same => ?_, fun later same => ?_⟩
        · cases done.symm.trans same
        · obtain ⟨_, rfl⟩ := Prod.mk.inj (done.symm.trans same)
          exact stopped published tracked
  | cons earlier rest ih =>
      rw [unpublishAll, List.foldl_cons, ← unpublishAll]
      rcases @nodeUnpublishVolume_cases World host volumeId earlier state named with
        ⟨rfl, rejected⟩ | ⟨filled, error, _, failed, _⟩ | ⟨filled, _, later, done, absent, _, stopped⟩
      · rw [rejected]
        have remaining : FirstUnmounts host state.world (rest ++ target :: after) := by
          intro other found
          exact first other (by simpa [split] using found)
        exact ih remaining rfl
      · have unmounts := first earlier (by simp [split, filled])
        cases failed.symm.trans unmounts
      · rw [done]
        have settled : Settled volumeId published later := ⟨absent, stopped published tracked⟩
        exact ((settled.run named rest).retrySafe named target).1

/-- Retried unpublish calls of a tracked volume are safe exactly when the first one that is not rejected unmounts its
    target. -/
theorem unpublish_retry_safe_iff (host : NodeHost World) (volumeId : String) (published : Published)
    (state : NodeState World) (named : volumeId ≠ "") (tracked : state.volumes volumeId = some published)
    (targets : List String) :
    (∀ before target after, targets = before ++ target :: after →
      RetrySafe host volumeId published target (unpublishAll host volumeId before state)) ↔
      FirstUnmounts host state.world targets := by
  constructor
  · intro safe target found
    obtain ⟨filled, before, after, split, empty⟩ := List.find?_eq_some_iff_append.mp found
    have retry := safe before target after split
    have rejected : ∀ other ∈ before, other = "" := by
      intro other member
      simpa using empty other member
    rw [unpublishAll_rejected named rejected] at retry
    rcases @nodeUnpublishVolume_cases World host volumeId target state named with
      ⟨blank, _⟩ | ⟨_, error, later, _, fails, absent, _⟩ | ⟨_, unmounts, _⟩
    · simp [blank] at filled
    · cases ((retry.failed error later fails).1.symm.trans absent).symm.trans tracked
    · exact unmounts
  · intro first before target after split
    exact first.retrySafe named tracked split

/-- The first umount command finds the target busy, and the later ones succeed. -/
def busyOnce : NodeHost Nat where
  pathExists _ _ := true
  umountCommand _ tries := (.exited (0 < tries) "umount: /pods/a/mount: target is busy.", tries + 1)
  removeDirAll _ tries := tries

def trackedVolume : Published := ⟨true, 41, "/dev/ublkb0", "/pods/a/mount", none⟩

def trackingNode : NodeState Nat :=
  ⟨Function.update (fun _ => none) "vol-a" (some trackedVolume), fun _ => none, 0, []⟩

/-- A failed unmount drops the entry, and the retry succeeds without stopping the device child. -/
theorem retried_unpublish_leaves_child_running :
    let first := nodeUnpublishVolume busyOnce "vol-a" "/pods/a/mount" trackingNode
    let second := nodeUnpublishVolume busyOnce "vol-a" "/pods/a/mount" first.2
    trackingNode.volumes "vol-a" = some trackedVolume ∧ first.1.isOk = false ∧ first.2.volumes "vol-a" = none ∧
      second.1.isOk = true ∧ second.2.calls = [.umount "/pods/a/mount", .umount "/pods/a/mount"] := by
  decide +kernel

theorem unpublish_retry_safe_iff_idle :
    "vol-a" ≠ "" ∧ ∀ before target after, ["", "/pods/a/mount", "/pods/a/mount"] = before ++ target :: after →
      RetrySafe busyOnce "vol-a" trackedVolume target
        (unpublishAll busyOnce "vol-a" before { trackingNode with world := 1 }) := by
  refine ⟨by decide, (unpublish_retry_safe_iff busyOnce "vol-a" trackedVolume { trackingNode with world := 1 }
    (by decide) (by decide) ["", "/pods/a/mount", "/pods/a/mount"]).mpr ?_⟩
  intro target found
  obtain rfl : "/pods/a/mount" = target := Option.some.inj found
  rfl

end Unpublish

section Orphans

/-- The child that a call in progress is responsible for. -/
def NodePhase.child : NodePhase → Option Nat
  | .discovering pid => some pid
  | .mounting pid _ => some pid
  | .recording pid _ => some pid
  | .stopping pid => some pid
  | .unmounting published => published.map Published.pid
  | .ending published => some published.pid
  | _ => none

/-- A publish is between its check of the table and its insertion. -/
def NodePhase.publishing : NodePhase → Bool
  | .queued => true
  | .spawning => true
  | .discovering _ => true
  | .mounting _ _ => true
  | .recording _ _ => true
  | _ => false

/-- A child belongs to a volume of the table or to a call. -/
inductive ChildOwner where
  | volume (volumeId : String)
  | job (id : Nat)
  deriving DecidableEq

namespace NodeSys

variable {sys next : NodeSys} {job : NodeJob} {id : Nat}

/-- The children that have not exited. -/
def live (sys : NodeSys) : List Nat := sys.children.filter fun pid => pid ∉ sys.exited

def owned (sys : NodeSys) : ChildOwner → Option Nat
  | .volume volumeId => (sys.volumes volumeId).map Published.pid
  | .job id => (sys.jobs[id]?).bind fun job => job.phase.child

/-- When no call is in progress, every live child belongs to exactly one volume, and the device of every volume was
    mounted by the publish that spawned its child. -/
def Orphanless (sys : NodeSys) : Prop :=
  (∀ job ∈ sys.jobs, job.phase = .returned) →
    (∀ pid ∈ sys.live, ∃! volumeId, (sys.volumes volumeId).map Published.pid = some pid) ∧
    ∀ volumeId published, sys.volumes volumeId = some published →
      ⟨volumeId, published.pid, published.device, published.target⟩ ∈ sys.mounts

/-- No publish passes the check of the table while another publish of its volume is in progress. -/
def publishesAlone (sys : NodeSys) : NodeEvent → Bool
  | .check id valid => !valid || (sys.jobs[id]?).all fun job =>
      sys.jobs.all fun other => other.volumeId ≠ job.volumeId || !other.phase.publishing
  | _ => true

end NodeSys

/-- Every child has exactly one owner. -/
structure Owning (children : List Nat) (owned : ChildOwner → Option Nat) : Prop where
  distinct : children.Nodup
  spawned : ∀ owner pid, owned owner = some pid → pid ∈ children
  covered : ∀ pid ∈ children, ∃ owner, owned owner = some pid
  unique : ∀ first second pid, owned first = some pid → owned second = some pid → first = second

namespace Owning

variable {children : List Nat} {owned : ChildOwner → Option Nat} {owner other : ChildOwner} {pid : Nat}

/-- A new child is given to one that has none. -/
theorem grant (owning : Owning children owned) (fresh : pid ∉ children) (free : owned owner = none) :
    Owning (children ++ [pid]) (Function.update owned owner (some pid)) where
  distinct := List.nodup_append.mpr ⟨owning.distinct, by simp, by
    intro child member other single same
    exact fresh (List.mem_singleton.mp single ▸ same ▸ member)⟩
  spawned holder child owns := by
    by_cases same : holder = owner
    · subst same
      rw [Function.update_self] at owns
      simp [Option.some.inj owns]
    · rw [Function.update_of_ne same] at owns
      exact List.mem_append_left _ (owning.spawned holder child owns)
  covered child member := by
    rcases List.mem_append.mp member with old | new
    · obtain ⟨holder, owns⟩ := owning.covered child old
      refine ⟨holder, ?_⟩
      rwa [Function.update_of_ne]
      rintro rfl
      cases free.symm.trans owns
    · obtain rfl := List.mem_singleton.mp new
      exact ⟨owner, Function.update_self _ _ _⟩
  unique first second child owns ownsToo := by
    have own (holder : ChildOwner) (holds : Function.update owned owner (some pid) holder = some child) :
        (holder = owner ∧ child = pid) ∨ (holder ≠ owner ∧ owned holder = some child) := by
      by_cases same : holder = owner
      · subst same
        rw [Function.update_self] at holds
        exact .inl ⟨rfl, (Option.some.inj holds).symm⟩
      · rw [Function.update_of_ne same] at holds
        exact .inr ⟨same, holds⟩
    rcases own first owns with ⟨rfl, rfl⟩ | ⟨_, held⟩
    · rcases own second ownsToo with ⟨rfl, _⟩ | ⟨_, held⟩
      · rfl
      · exact absurd (owning.spawned second child held) fresh
    · rcases own second ownsToo with ⟨rfl, rfl⟩ | ⟨_, heldToo⟩
      · exact absurd (owning.spawned first child held) fresh
      · exact owning.unique first second child held heldToo

/-- A child that was waited for is given up. -/
theorem drop (owning : Owning children owned) (holds : owned owner = some pid) :
    Owning (children.erase pid) (Function.update owned owner none) where
  distinct := owning.distinct.erase _
  spawned holder child owns := by
    by_cases same : holder = owner
    · subst same
      rw [Function.update_self] at owns
      cases owns
    · rw [Function.update_of_ne same] at owns
      refine (List.mem_erase_of_ne ?_).mpr (owning.spawned holder child owns)
      rintro rfl
      exact same (owning.unique holder owner child owns holds)
  covered child member := by
    obtain ⟨holder, owns⟩ := owning.covered child (List.mem_of_mem_erase member)
    refine ⟨holder, ?_⟩
    rwa [Function.update_of_ne]
    rintro rfl
    obtain rfl := Option.some.inj (owns.symm.trans holds)
    exact owning.distinct.not_mem_erase member
  unique first second child owns ownsToo := by
    have own (holder : ChildOwner) (holds : Function.update owned owner none holder = some child) :
        owned holder = some child := by
      by_cases same : holder = owner
      · subst same
        rw [Function.update_self] at holds
        cases holds
      · rwa [Function.update_of_ne same] at holds
    exact owning.unique first second child (own first owns) (own second ownsToo)

/-- A child passes from its owner to one that has none. -/
theorem transfer (owning : Owning children owned) (holds : owned owner = some pid) (free : owned other = none) :
    Owning children (Function.update (Function.update owned owner none) other (some pid)) := by
  have different : other ≠ owner := by
    rintro rfl
    cases free.symm.trans holds
  have own (holder : ChildOwner) (child : Nat) :
      Function.update (Function.update owned owner none) other (some pid) holder = some child ↔
        owned (Equiv.swap owner other holder) = some child := by
    by_cases toOther : holder = other
    · subst toOther
      rw [Function.update_self, Equiv.swap_apply_right, holds]
    · rw [Function.update_of_ne toOther]
      by_cases fromOwner : holder = owner
      · subst fromOwner
        rw [Function.update_self, Equiv.swap_apply_left, free]
      · rw [Function.update_of_ne fromOwner, Equiv.swap_apply_of_ne_of_ne fromOwner toOther]
  refine ⟨owning.distinct, fun holder child owns => owning.spawned _ child ((own holder child).mp owns), ?_, ?_⟩
  · intro child member
    obtain ⟨holder, owns⟩ := owning.covered child member
    refine ⟨Equiv.swap owner other holder, (own _ child).mpr ?_⟩
    rwa [Equiv.swap_apply_self]
  · intro first second child owns ownsToo
    have same := owning.unique _ _ child ((own first child).mp owns) ((own second child).mp ownsToo)
    exact (Equiv.swap owner other).injective same

end Owning

namespace NodeSys

variable {sys next : NodeSys} {job : NodeJob} {id : Nat}

/-- A volume that is being published is not in the table, and what was published is on record. -/
structure Bookkept (sys : NodeSys) : Prop where
  unlisted : ∀ (id : Nat) (job : NodeJob), sys.jobs[id]? = some job → job.phase.publishing = true →
    sys.volumes job.volumeId = none
  alone : ∀ (first second : Nat) (job other : NodeJob), sys.jobs[first]? = some job → sys.jobs[second]? = some other →
    job.phase.publishing = true → other.phase.publishing = true → job.volumeId = other.volumeId → first = second
  recorded : ∀ job ∈ sys.jobs, ∀ pid device, job.phase = .recording pid device →
    ⟨job.volumeId, pid, device, job.target⟩ ∈ sys.mounts
  mounted : ∀ volumeId published, sys.volumes volumeId = some published →
    ⟨volumeId, published.pid, published.device, published.target⟩ ∈ sys.mounts

structure Invariant (sys : NodeSys) : Prop where
  owning : Owning sys.children sys.owned
  bookkept : Bookkept sys

theorem owned_begin (owner : ChildOwner) : begin.owned owner = none := by
  cases owner with
  | volume volumeId => rfl
  | job id => simp [owned, begin]

theorem begin_invariant : Invariant begin where
  owning := by
    refine ⟨List.nodup_nil, fun owner pid owns => ?_, fun pid member => (by cases member), fun first _ pid owns => ?_⟩
    · cases (owned_begin owner).symm.trans owns
    · cases (owned_begin first).symm.trans owns
  bookkept := by
    refine ⟨fun id job found => ?_, fun first second job other found => ?_, fun job member => (by cases member),
      fun volumeId published found => (by cases found)⟩
    · simp [begin] at found
    · simp [begin] at found

theorem Invariant.orphanless (inv : Invariant sys) : Orphanless sys := by
  intro idle
  refine ⟨fun pid member => ?_, inv.bookkept.mounted⟩
  obtain ⟨child, _⟩ := List.mem_filter.mp member
  obtain ⟨owner, owns⟩ := inv.owning.covered pid child
  cases owner with
  | job id =>
      obtain ⟨job, found, holds⟩ := Option.bind_eq_some_iff.mp owns
      rw [idle job (List.mem_of_getElem? found)] at holds
      cases holds
  | volume volumeId =>
      refine ⟨volumeId, owns, fun other same => ?_⟩
      exact ChildOwner.volume.inj (inv.owning.unique (.volume other) (.volume volumeId) pid same owns)

/-- A call that moves changes only what it owns itself. -/
theorem owned_enter (found : sys.jobs[id]? = some job) (phase : NodePhase) :
    (sys.enter id job phase).owned = Function.update sys.owned (.job id) phase.child := by
  funext owner
  cases owner with
  | volume volumeId => simp [owned, enter]
  | job other =>
      by_cases same : other = id
      · subst same
        rw [Function.update_self]
        obtain ⟨inside, _⟩ := List.getElem?_eq_some_iff.mp found
        simp [owned, enter, inside]
      · rw [Function.update_of_ne (by simpa using same)]
        simp [owned, enter, List.getElem?_set_ne (Ne.symm same)]

theorem owned_job (found : sys.jobs[id]? = some job) : sys.owned (.job id) = job.phase.child := by
  simp [owned, found]

/-- A job after a move is the one that moved, or was there before. -/
theorem enter_job (found : sys.jobs[id]? = some job) {phase : NodePhase} {index : Nat} {other : NodeJob}
    (at_ : (sys.enter id job phase).jobs[index]? = some other) :
    (index = id ∧ other = { job with phase }) ∨ (index ≠ id ∧ sys.jobs[index]? = some other) := by
  obtain ⟨inside, _⟩ := List.getElem?_eq_some_iff.mp found
  by_cases same : index = id
  · subst same
    refine .inl ⟨rfl, ?_⟩
    simpa [enter, inside] using at_.symm
  · refine .inr ⟨same, ?_⟩
    simpa [enter, List.getElem?_set_ne (Ne.symm same)] using at_

/-- A move keeps the books unless it begins a publish or skips a record. -/
theorem Bookkept.enter (books : Bookkept sys) (found : sys.jobs[id]? = some job) {phase : NodePhase}
    (publishes : phase.publishing = true → job.phase.publishing = true ∨ (sys.volumes job.volumeId = none ∧
      ∀ other ∈ sys.jobs, other.volumeId = job.volumeId → other.phase.publishing = false))
    (records : ∀ pid device, phase = .recording pid device → ⟨job.volumeId, pid, device, job.target⟩ ∈ sys.mounts) :
    Bookkept (sys.enter id job phase) where
  unlisted index other at_ publishing := by
    rcases enter_job found at_ with ⟨_, rfl⟩ | ⟨_, before⟩
    · rcases publishes publishing with already | ⟨absent, _⟩
      · exact books.unlisted id job found already
      · exact absent
    · exact books.unlisted index other before publishing
  alone first second left right atFirst atSecond publishing publishingToo same := by
    have alone {index : Nat} {other : NodeJob} (different : index ≠ id) (before : sys.jobs[index]? = some other)
        (begins : phase.publishing = true) (busy : other.phase.publishing = true)
        (shared : other.volumeId = job.volumeId) : False := by
      rcases publishes begins with already | ⟨_, none⟩
      · exact different (books.alone index id other job before found busy already shared)
      · cases (none other (List.mem_of_getElem? before) shared).symm.trans busy
    rcases enter_job found atFirst with ⟨rfl, rfl⟩ | ⟨apart, before⟩
    · rcases enter_job found atSecond with ⟨rfl, _⟩ | ⟨apartToo, beforeToo⟩
      · rfl
      · exact (alone apartToo beforeToo publishing publishingToo same.symm).elim
    · rcases enter_job found atSecond with ⟨rfl, rfl⟩ | ⟨_, beforeToo⟩
      · exact (alone apart before publishingToo publishing same).elim
      · exact books.alone first second left right before beforeToo publishing publishingToo same
  recorded other member pid device recording := by
    rcases List.mem_or_eq_of_mem_set member with old | rfl
    · exact books.recorded other old pid device recording
    · exact records pid device recording
  mounted := books.mounted

/-- A call moves without starting a publish and without a change of what it owns. -/
theorem Invariant.moved (inv : Invariant sys) (found : sys.jobs[id]? = some job) {phase : NodePhase}
    (child : phase.child = job.phase.child) (publishes : phase.publishing = true → job.phase.publishing = true)
    (records : ∀ pid device, phase ≠ .recording pid device) : Invariant (sys.enter id job phase) where
  owning := by
    rw [owned_enter found, child, ← owned_job found, Function.update_eq_self]
    exact inv.owning
  bookkept := inv.bookkept.enter found (fun begins => .inl (publishes begins))
    fun pid device recording => absurd recording (records pid device)

theorem Invariant.unlock (inv : Invariant sys) (id : Nat) : Invariant (sys.unlock id) := by
  unfold NodeSys.unlock
  split
  · exact ⟨inv.owning, ⟨inv.bookkept.unlisted, inv.bookkept.alone, inv.bookkept.recorded, inv.bookkept.mounted⟩⟩
  · exact inv

theorem unlock_jobs (sys : NodeSys) (id : Nat) : (sys.unlock id).jobs = sys.jobs := by
  unfold NodeSys.unlock
  split <;> rfl

/-- A new call owns nothing and publishes nothing yet. -/
theorem Invariant.called (inv : Invariant sys) {job : NodeJob} (free : job.phase.child = none)
    (early : job.phase.publishing = false) : Invariant { sys with jobs := sys.jobs ++ [job] } := by
  have old {index : Nat} {other : NodeJob} (at_ : (sys.jobs ++ [job])[index]? = some other)
      (busy : other ≠ job) : sys.jobs[index]? = some other := by
    rw [List.getElem?_append] at at_
    split at at_
    · exact at_
    · have single := List.mem_of_getElem? at_
      exact absurd (List.mem_singleton.mp single) busy
  have busy {other : NodeJob} (publishing : other.phase.publishing = true) : other ≠ job := by
    rintro rfl
    cases early.symm.trans publishing
  have same : NodeSys.owned { sys with jobs := sys.jobs ++ [job] } = sys.owned := by
    funext owner
    cases owner with
    | volume volumeId => rfl
    | job index =>
        simp only [owned, List.getElem?_append]
        split
        · rfl
        · rename_i outside
          rw [List.getElem?_eq_none (Nat.le_of_not_lt outside)]
          cases at_ : ([job] : List NodeJob)[index - sys.jobs.length]? with
          | none => rfl
          | some other =>
              obtain rfl := List.mem_singleton.mp (List.mem_of_getElem? at_)
              simp [free]
  refine ⟨by rw [same]; exact inv.owning, ⟨?_, ?_, ?_, inv.bookkept.mounted⟩⟩
  · intro index other at_ publishing
    exact inv.bookkept.unlisted index other (old at_ (busy publishing)) publishing
  · intro first second left right atFirst atSecond publishing publishingToo
    exact inv.bookkept.alone first second left right (old atFirst (busy publishing))
      (old atSecond (busy publishingToo)) publishing publishingToo
  · intro other member pid device recording
    rcases List.mem_append.mp member with before | now
    · exact inv.bookkept.recorded other before pid device recording
    · obtain rfl := List.mem_singleton.mp now
      rw [recording] at early
      cases early

theorem owned_volumes (volumeId : String) (entry : Option Published) :
    NodeSys.owned { sys with volumes := Function.update sys.volumes volumeId entry } =
      Function.update sys.owned (.volume volumeId) (entry.map Published.pid) := by
  funext owner
  cases owner with
  | job id => simp [owned]
  | volume other =>
      by_cases same : other = volumeId
      · subst same
        simp [owned]
      · rw [Function.update_of_ne (by simpa using same)]
        simp only [owned, Function.update_of_ne same]

theorem Invariant.spawned (inv : Invariant sys) (found : sys.jobs[id]? = some job) (spawning : job.phase = .spawning)
    {pid : Nat} (fresh : pid ∉ sys.children) :
    Invariant ({ sys with children := sys.children ++ [pid] }.enter id job (.discovering pid)) where
  owning := by
    have at_ : (NodeSys.jobs { sys with children := sys.children ++ [pid] })[id]? = some job := found
    rw [owned_enter at_]
    refine inv.owning.grant fresh ?_
    rw [owned_job found, spawning]
    rfl
  bookkept := by
    have books : Bookkept { sys with children := sys.children ++ [pid] } :=
      ⟨inv.bookkept.unlisted, inv.bookkept.alone, inv.bookkept.recorded, inv.bookkept.mounted⟩
    exact books.enter found (fun _ => .inl (by rw [spawning]; rfl)) fun _ _ recording => by cases recording

theorem Invariant.mountedDevice (inv : Invariant sys) (found : sys.jobs[id]? = some job) {pid : Nat} {device : String}
    (mounting : job.phase = .mounting pid device) {record : PublishRecord}
    (recorded : record = ⟨job.volumeId, pid, device, job.target⟩) :
    Invariant ({ sys with mounts := sys.mounts ++ [record] }.enter id job (.recording pid device)) where
  owning := by
    have at_ : (NodeSys.jobs { sys with mounts := sys.mounts ++ [record] })[id]? = some job := found
    have child : NodePhase.child (.recording pid device) = sys.owned (.job id) := by
      rw [owned_job found, mounting]
      rfl
    rw [owned_enter at_, child]
    exact (Function.update_eq_self (ChildOwner.job id) sys.owned).symm ▸ inv.owning
  bookkept := by
    have books : Bookkept { sys with mounts := sys.mounts ++ [record] } :=
      ⟨inv.bookkept.unlisted, inv.bookkept.alone,
        fun other member pid device recording =>
          List.mem_append_left _ (inv.bookkept.recorded other member pid device recording),
        fun volumeId published present => List.mem_append_left _ (inv.bookkept.mounted volumeId published present)⟩
    refine books.enter found (fun _ => .inl (by rw [mounting]; rfl)) fun other place recording => ?_
    obtain ⟨rfl, rfl⟩ := NodePhase.recording.inj recording
    simp [recorded]

/-- The child of a publish passes to the table. -/
theorem Invariant.inserted (inv : Invariant sys) (found : sys.jobs[id]? = some job) {pid : Nat} {device : String}
    (recording : job.phase = .recording pid device) {entry : Published}
    (given : entry = ⟨true, pid, device, job.target, job.overlay⟩) :
    Invariant ({ sys with volumes := Function.update sys.volumes job.volumeId (some entry) }.enter id job
      .returned) := by
  have publishing : job.phase.publishing = true := by rw [recording]; rfl
  have absent := inv.bookkept.unlisted id job found publishing
  have holds : sys.owned (.job id) = some pid := by
    rw [owned_job found, recording]
    rfl
  have free : sys.owned (.volume job.volumeId) = none := by simp [owned, absent]
  have books : Bookkept (sys.enter id job .returned) :=
    inv.bookkept.enter found (fun begins => by cases begins) fun _ _ recorded => by cases recorded
  have at_ : (NodeSys.jobs { sys with volumes := Function.update sys.volumes job.volumeId (some entry) })[id]? =
      some job := found
  subst given
  refine ⟨?_, ⟨?_, books.alone, books.recorded, ?_⟩⟩
  · rw [owned_enter at_, owned_volumes, Function.update_comm (by simp)]
    exact inv.owning.transfer holds free
  · intro index other place busy
    have old := books.unlisted index other place busy
    rcases @enter_job sys job id found .returned index other place with ⟨_, rfl⟩ | ⟨apart, before⟩
    · cases busy
    · have different : other.volumeId ≠ job.volumeId := fun same =>
        apart (inv.bookkept.alone index id other job before found busy publishing same)
      exact (Function.update_of_ne different _ _).trans old
  · intro volumeId published present
    by_cases same : volumeId = job.volumeId
    · subst same
      have stored : Function.update sys.volumes job.volumeId
          (some ⟨true, pid, device, job.target, job.overlay⟩) job.volumeId = some published := present
      rw [Function.update_self] at stored
      obtain rfl := Option.some.inj stored
      exact inv.bookkept.recorded job (List.mem_of_getElem? found) pid device recording
    · exact inv.bookkept.mounted volumeId published ((Function.update_of_ne same _ _).symm.trans present)

/-- The child of a volume passes to the unpublish that removes it. -/
theorem Invariant.removed (inv : Invariant sys) (found : sys.jobs[id]? = some job) (removing : job.phase = .removing) :
    Invariant ({ sys with volumes := Function.update sys.volumes job.volumeId none }.enter id job
      (.unmounting (sys.volumes job.volumeId))) := by
  have free : sys.owned (.job id) = none := by
    rw [owned_job found, removing]
    rfl
  have kept {volumeId : String} {published : Published}
      (present : Function.update sys.volumes job.volumeId none volumeId = some published) :
      sys.volumes volumeId = some published := by
    by_cases same : volumeId = job.volumeId
    · subst same
      cases (Function.update_self _ _ _).symm.trans present
    · exact (Function.update_of_ne same _ _).symm.trans present
  have books : Bookkept { sys with volumes := Function.update sys.volumes job.volumeId none } := by
    refine ⟨fun index other at_ busy => ?_, inv.bookkept.alone, inv.bookkept.recorded,
      fun volumeId published present => inv.bookkept.mounted volumeId published (kept present)⟩
    cases present : Function.update sys.volumes job.volumeId none other.volumeId with
    | none => exact present
    | some published => cases (inv.bookkept.unlisted index other at_ busy).symm.trans (kept present)
  refine ⟨?_, books.enter found (fun begins => by cases begins) fun _ _ recorded => by cases recorded⟩
  have at_ : (NodeSys.jobs { sys with volumes := Function.update sys.volumes job.volumeId none })[id]? = some job :=
    found
  rw [owned_enter at_, owned_volumes]
  cases tracked : sys.volumes job.volumeId with
  | none =>
      have nothing : sys.owned (.volume job.volumeId) = none := by simp [owned, tracked]
      have same : Function.update (Function.update sys.owned (.volume job.volumeId) none) (.job id) none = sys.owned := by
        rw [← nothing, Function.update_eq_self, nothing, ← free, Function.update_eq_self]
      exact same.symm ▸ inv.owning
  | some published =>
      have holds : sys.owned (.volume job.volumeId) = some published.pid := by simp [owned, tracked]
      exact inv.owning.transfer holds free

/-- A child that has exited is waited for. -/
theorem Invariant.reaped (inv : Invariant sys) (found : sys.jobs[id]? = some job) {pid : Nat}
    (holds : job.phase.child = some pid) (done : sys.reaped id job pid = some next) : Invariant next := by
  unfold NodeSys.reaped at done
  split at done
  · obtain rfl := Option.some.inj done
    set waited : NodeSys := { sys with children := sys.children.erase pid, exited := sys.exited.erase pid }
    have at_ : (waited.unlock id).jobs[id]? = some job := by
      rw [unlock_jobs]
      exact found
    have books : Bookkept (waited.unlock id) := by
      unfold NodeSys.unlock
      split
      · exact ⟨inv.bookkept.unlisted, inv.bookkept.alone, inv.bookkept.recorded, inv.bookkept.mounted⟩
      · exact ⟨inv.bookkept.unlisted, inv.bookkept.alone, inv.bookkept.recorded, inv.bookkept.mounted⟩
    refine ⟨?_, books.enter at_ (fun begins => by cases begins) fun _ _ recorded => by cases recorded⟩
    have dropped := inv.owning.drop ((owned_job found).trans holds)
    rw [owned_enter at_]
    unfold NodeSys.unlock
    split
    · exact dropped
    · exact dropped
  · cases done

/-- Every step keeps the owners apart while publishes of one volume do not overlap. -/
theorem step_invariant {event : NodeEvent} (inv : Invariant sys) (alone : publishesAlone sys event = true)
    (taken : step sys event = some next) : Invariant next := by
  cases event with
  | publish volumeId target overlay =>
      obtain rfl := Option.some.inj taken
      exact inv.called rfl rfl
  | unpublish volumeId target =>
      obtain rfl := Option.some.inj taken
      exact inv.called rfl rfl
  | exit pid =>
      simp only [step] at taken
      split at taken
      · obtain rfl := Option.some.inj taken
        exact ⟨inv.owning, ⟨inv.bookkept.unlisted, inv.bookkept.alone, inv.bookkept.recorded, inv.bookkept.mounted⟩⟩
      · cases taken
  | check id valid =>
      obtain ⟨job, found, moved⟩ := Option.bind_eq_some_iff.mp taken
      split at moved
      · rename_i checking
        obtain rfl := Option.some.inj moved
        split
        · exact inv.moved found (by rw [checking]; rfl) (by simp [NodePhase.publishing]) (by simp)
        · rename_i passes
          obtain ⟨absent, accepted⟩ : sys.volumes job.volumeId = none ∧ valid = true := by simpa using passes
          refine ⟨?_, inv.bookkept.enter found (fun _ => .inr ⟨absent, ?_⟩) (by simp)⟩
          · rw [owned_enter found]
            have nothing : NodePhase.child .queued = sys.owned (.job id) := by
              rw [owned_job found, checking]
              rfl
            rw [nothing, Function.update_eq_self]
            exact inv.owning
          · intro other member same
            have quiet := alone
            simp only [publishesAlone, accepted, found, Bool.not_true, Bool.false_or, Option.all_some,
              List.all_eq_true] at quiet
            simpa [same] using quiet other member
      · cases moved
  | lock id =>
      obtain ⟨job, found, moved⟩ := Option.bind_eq_some_iff.mp taken
      split at moved
      · rename_i queued _
        obtain rfl := Option.some.inj moved
        have locked : Invariant { sys with publishLock := some id } :=
          ⟨inv.owning, ⟨inv.bookkept.unlisted, inv.bookkept.alone, inv.bookkept.recorded, inv.bookkept.mounted⟩⟩
        exact locked.moved found (by rw [queued]; rfl) (by simp [queued, NodePhase.publishing]) (by simp)
      · cases moved
  | spawn id pid =>
      obtain ⟨job, found, moved⟩ := Option.bind_eq_some_iff.mp taken
      split at moved
      · rename_i spawning
        obtain rfl := Option.some.inj moved
        exact (inv.unlock id).moved (by rw [unlock_jobs]; exact found) (by rw [spawning]; rfl)
          (by simp [NodePhase.publishing]) (by simp)
      · rename_i spawning
        split at moved
        · cases moved
        · rename_i fresh
          obtain rfl := Option.some.inj moved
          exact inv.spawned found spawning fresh
      · cases moved
  | discover id device =>
      obtain ⟨job, found, moved⟩ := Option.bind_eq_some_iff.mp taken
      split at moved
      · rename_i discovering
        obtain rfl := Option.some.inj moved
        exact inv.moved found (by rw [discovering]; rfl) (by simp [NodePhase.publishing]) (by simp)
      · rename_i discovering
        obtain rfl := Option.some.inj moved
        exact (inv.unlock id).moved (by rw [unlock_jobs]; exact found) (by rw [discovering]; rfl)
          (by simp [discovering, NodePhase.publishing]) (by simp)
      · cases moved
  | mount id success =>
      obtain ⟨job, found, moved⟩ := Option.bind_eq_some_iff.mp taken
      split at moved
      · rename_i mounting
        split at moved
        · obtain rfl := Option.some.inj moved
          exact inv.mountedDevice found mounting rfl
        · obtain rfl := Option.some.inj moved
          exact inv.moved found (by rw [mounting]; rfl) (by simp [NodePhase.publishing]) (by simp)
      · cases moved
  | insert id =>
      obtain ⟨job, found, moved⟩ := Option.bind_eq_some_iff.mp taken
      split at moved
      · rename_i recording
        obtain rfl := Option.some.inj moved
        exact inv.inserted found recording rfl
      · cases moved
  | remove id =>
      obtain ⟨job, found, moved⟩ := Option.bind_eq_some_iff.mp taken
      split at moved
      · rename_i removing
        obtain rfl := Option.some.inj moved
        exact inv.removed found removing
      · cases moved
  | umount id =>
      obtain ⟨job, found, moved⟩ := Option.bind_eq_some_iff.mp taken
      split at moved
      · rename_i unmounting
        obtain rfl := Option.some.inj moved
        exact inv.moved found (by rw [unmounting]; rfl) (by simp [NodePhase.publishing]) (by simp)
      · rename_i unmounting
        obtain rfl := Option.some.inj moved
        exact inv.moved found (by rw [unmounting]; rfl) (by simp [NodePhase.publishing]) (by simp)
      · cases moved
  | reap id =>
      obtain ⟨job, found, moved⟩ := Option.bind_eq_some_iff.mp taken
      split at moved
      · rename_i stopping
        exact inv.reaped found (by rw [stopping]; rfl) moved
      · rename_i ending
        exact inv.reaped found (by rw [ending]; rfl) moved
      · cases moved

/-- No run in which the publishes of a volume do not overlap orphans a device child. -/
theorem separate_publishes_orphan_no_child (events : List NodeEvent) (sys : NodeSys)
    (alone : along step publishesAlone begin events = true) (run : execute step begin events = some sys) :
    Orphanless sys :=
  (execute_invariant (fun _ _ _ inv allowed taken => step_invariant inv allowed taken) begin_invariant alone
    run).orphanless

/-- A publish whose steps all succeed. -/
def publishSteps (job pid : Nat) (device : String) : List NodeEvent :=
  [.lock job, .spawn job (some pid), .discover job (some device), .mount job true, .insert job]

/-- The kubelet repeats a publish while the first one is running, and both pass the check. -/
def duplicatePublish : List NodeEvent :=
  [.publish "vol-a" "/pods/a/mount" none, .check 0 true, .publish "vol-a" "/pods/a/mount" none, .check 1 true] ++
    publishSteps 0 41 "/dev/ublkb0" ++ publishSteps 1 42 "/dev/ublkb1"

/-- The second publish replaces the entry of the first, whose child stays alive without a volume. -/
theorem duplicate_publish_orphans_child :
    ∃ sys, execute step begin duplicatePublish = some sys ∧ ¬ Orphanless sys := by
  refine ⟨_, rfl, fun orphanless => ?_⟩
  obtain ⟨owners, _⟩ := orphanless (by decide)
  obtain ⟨volumeId, owns, _⟩ := owners 41 (by decide)
  by_cases same : volumeId = "vol-a"
  · subst same
    revert owns
    decide
  · have nothing : (Function.update (Function.update (fun _ => none) "vol-a"
        (some (⟨true, 41, "/dev/ublkb0", "/pods/a/mount", none⟩ : Published))) "vol-a"
        (some ⟨true, 42, "/dev/ublkb1", "/pods/a/mount", none⟩) volumeId).map Published.pid = some 41 := owns
    rw [Function.update_of_ne same, Function.update_of_ne same] at nothing
    cases nothing

theorem separate_publishes_orphan_no_child_twice :
    ∃ sys, execute step begin ([.publish "vol-a" "/pods/a/mount" none, .check 0 true] ++
      publishSteps 0 41 "/dev/ublkb0" ++ [.publish "vol-a" "/pods/a/mount" none, .check 1 true]) = some sys ∧
      Orphanless sys := by
  refine ⟨_, rfl, ?_⟩
  exact separate_publishes_orphan_no_child ([.publish "vol-a" "/pods/a/mount" none, .check 0 true] ++
    publishSteps 0 41 "/dev/ublkb0" ++ [.publish "vol-a" "/pods/a/mount" none, .check 1 true]) _ (by decide) rfl

end NodeSys
end Orphans
end UblkAzblob

import UblkAzblob.Construction.CoordinationGuard

namespace UblkAzblob
open Storage

variable {World Answer : Type}

/-- The lease id that a call was granted. -/
def CoordCall.granted : CoordCall → Option String
  | .acquireBlob _ (.ok id) => some id
  | _ => none

def CoordCall.renews : CoordCall → Bool
  | .renewBlob _ _ => true
  | .renewCluster _ => true
  | _ => false

/-- The ids that the blob lock has granted, in the order of the calls. -/
def grants (calls : List CoordCall) : List String := calls.filterMap CoordCall.granted

@[simp] theorem CallLog.make_apply (call : World → Answer × World) (entry : Answer → CoordCall) (log : CallLog World) :
    CallLog.make call entry log =
      (.ok (call log.world).1, ⟨(call log.world).2, log.calls ++ [entry (call log.world).1]⟩) := rfl

namespace Coordinator

variable (coordinator : Coordinator World)

/-- The first acquire of the blob finds it held, and the break of its lease fails. -/
def BreakFails (world : World) : Prop :=
  ∃ error, (coordinator.blob.acquire coordinator.leaseDurationSecs world).1 = .error .held ∧
    (coordinator.blob.breakLock (coordinator.blob.acquire coordinator.leaseDurationSecs world).2).1 = .error error

/-- The cluster lease was won, and then the stale blob lease could not be broken. -/
def BreakFailsInTakeOver (world : World) : Prop :=
  ∃ cluster, coordinator.cluster = some cluster ∧ (cluster.tryAcquire world).1 = .ok .acquired ∧
    coordinator.BreakFails (cluster.tryAcquire world).2

/-- What the calls of a lock attempt say about its outcome, given whether the break fails. -/
structure LockSpec (clustered breakFails : Prop) (outcome : Except Error String) (entries : List CoordCall) :
    Prop where
  locked : ∀ id, outcome = .ok id → (grants entries).getLast? = some id
  refused : ∀ error, outcome = .error error → grants entries = []
  returned : ∀ error, outcome = .error error → clustered →
    ((∃ answer, .releaseCluster answer ∈ entries) ↔ ¬ breakFails)
  failing : breakFails → ∃ error, outcome = .error error
  unclaimed : ∀ answer, .tryAcquire answer ∉ entries

/-- A take-over ends with the second lease, or gives the cluster lease back unless the break fails. -/
theorem takeOver_spec (cluster : ClusterLease World) (world : World) (calls : List CoordCall) :
    ∃ outcome entries after, coordinator.takeOver cluster ⟨world, calls⟩ = (outcome, ⟨after, calls ++ entries⟩) ∧
      LockSpec True (∃ error, (coordinator.blob.breakLock world).1 = .error error) outcome entries := by
  rcases breaking : coordinator.blob.breakLock world with ⟨broken, brokenWorld⟩
  rcases locking : coordinator.blob.acquire coordinator.leaseDurationSecs brokenWorld with ⟨again, lastWorld⟩
  rcases returning : cluster.release lastWorld with ⟨returned, returnedWorld⟩
  cases broken with
  | error error =>
      refine ⟨.error ("break stale blob lease for take-over" :: error), [.breakLock (.error error)], brokenWorld, ?_, ?_⟩
      · simp [takeOver, BlobLock.breakLockLogged, breaking]
      · constructor <;> simp [grants, CoordCall.granted]
  | ok done =>
      cases again with
      | ok id =>
          refine ⟨.ok id, [.breakLock (.ok ()), .acquireBlob coordinator.leaseDurationSecs (.ok id)], lastWorld, ?_, ?_⟩
          · simp [takeOver, BlobLock.breakLockLogged, BlobLock.acquireLogged, breaking, locking]
          · constructor <;> simp [grants, CoordCall.granted, List.findSome?]
      | error refusal =>
          have spec (error : Error) : LockSpec True (∃ error : Error, Except.ok done = .error error) (.error error)
              [.breakLock (.ok ()), .acquireBlob coordinator.leaseDurationSecs (.error refusal),
                .releaseCluster returned] := by
            constructor <;> simp [grants, CoordCall.granted]
          cases refusal with
          | held =>
              refine ⟨_, _, returnedWorld, ?_, spec
                ["blob lease is still held after breaking it — another node raced us for the take-over"]⟩
              simp [takeOver, BlobLock.breakLockLogged, BlobLock.acquireLogged, ClusterLease.releaseLogged, breaking,
                locking, returning]
          | other error =>
              refine ⟨_, _, returnedWorld, ?_, spec ("re-acquire blob lease after break" :: error)⟩
              simp [takeOver, BlobLock.breakLockLogged, BlobLock.acquireLogged, ClusterLease.releaseLogged, breaking,
                locking, returning]

/-- A lock attempt ends with the last lease it was granted, or gives the cluster lease back unless a break fails. -/
theorem lockBlob_spec (world : World) (calls : List CoordCall) :
    ∃ outcome entries after, coordinator.lockBlob ⟨world, calls⟩ = (outcome, ⟨after, calls ++ entries⟩) ∧
      LockSpec coordinator.cluster.isSome (coordinator.cluster.isSome ∧ coordinator.BreakFails world)
        outcome entries := by
  rcases locking : coordinator.blob.acquire coordinator.leaseDurationSecs world with ⟨first, heldWorld⟩
  cases first with
  | ok id =>
      refine ⟨.ok id, [.acquireBlob coordinator.leaseDurationSecs (.ok id)], heldWorld, ?_, ?_⟩
      · simp [lockBlob, BlobLock.acquireLogged, locking]
      · constructor <;> simp [grants, CoordCall.granted, BreakFails, locking]
  | error refusal =>
      cases clustered : coordinator.cluster with
      | none =>
          cases refusal with
          | held =>
              refine ⟨.error ["blob lease is already held by another process — refusing to mount; if you are certain no other process is using this blob, pass --disable-blob-lock"],
                [.acquireBlob coordinator.leaseDurationSecs (.error .held)], heldWorld, ?_, ?_⟩
              · simp [lockBlob, BlobLock.acquireLogged, locking, clustered]
              · constructor <;> simp [grants, CoordCall.granted]
          | other error =>
              refine ⟨.error ("acquire blob lease" :: error),
                [.acquireBlob coordinator.leaseDurationSecs (.error (.other error))], heldWorld, ?_, ?_⟩
              · simp [lockBlob, BlobLock.acquireLogged, locking, clustered]
              · constructor <;> simp [grants, CoordCall.granted]
      | some cluster =>
          cases refusal with
          | held =>
              obtain ⟨outcome, entries, after, taken, spec⟩ := coordinator.takeOver_spec cluster heldWorld
                (calls ++ [.acquireBlob coordinator.leaseDurationSecs (.error .held)])
              have breaks : coordinator.BreakFails world ↔
                  ∃ error, (coordinator.blob.breakLock heldWorld).1 = .error error := by
                simp [BreakFails, locking]
              refine ⟨outcome, .acquireBlob coordinator.leaseDurationSecs (.error .held) :: entries, after, ?_, ?_⟩
              · simp [lockBlob, BlobLock.acquireLogged, locking, clustered, taken]
              · constructor
                · exact spec.locked
                · exact spec.refused
                · intro error failed _
                  simpa [breaks] using spec.returned error failed trivial
                · intro fails
                  exact spec.failing (breaks.mp fails.2)
                · simpa using spec.unclaimed
          | other error =>
              refine ⟨.error ("acquire blob lease" :: error),
                [.acquireBlob coordinator.leaseDurationSecs (.error (.other error)),
                  .releaseCluster (cluster.release heldWorld).1], (cluster.release heldWorld).2, ?_, ?_⟩
              · simp [lockBlob, BlobLock.acquireLogged, ClusterLease.releaseLogged, locking, clustered]
              · constructor <;> simp [grants, CoordCall.granted, BreakFails, locking]

end Coordinator

namespace CoordinationGuard

variable (guard : CoordinationGuard World)

/-- A round of the loop only renews. -/
theorem renewRound_spec (log : CallLog World) :
    ∃ renewals after, guard.renewRound log = (.ok (), ⟨after, log.calls ++ renewals⟩) ∧
      ∀ call ∈ renewals, call.renews = true := by
  cases clustered : guard.cluster with
  | none =>
      refine ⟨[.renewBlob guard.leaseId (guard.blob.renew guard.leaseId log.world).1],
        (guard.blob.renew guard.leaseId log.world).2, ?_, ?_⟩
      · simp [renewRound, BlobLock.renewLogged, clustered]
      · simp [CoordCall.renews]
  | some cluster =>
      refine ⟨[.renewBlob guard.leaseId (guard.blob.renew guard.leaseId log.world).1,
        .renewCluster (cluster.renew (guard.blob.renew guard.leaseId log.world).2).1],
        (cluster.renew (guard.blob.renew guard.leaseId log.world).2).2, ?_, ?_⟩
      · simp [renewRound, BlobLock.renewLogged, ClusterLease.renewLogged, clustered]
      · simp [CoordCall.renews]

theorem renewLoop_spec (rounds : Nat) (log : CallLog World) :
    ∃ renewals after, guard.renewLoop rounds log = (.ok (), ⟨after, log.calls ++ renewals⟩) ∧
      ∀ call ∈ renewals, call.renews = true := by
  induction rounds generalizing log with
  | zero => exact ⟨[], log.world, by simp [renewLoop], by simp⟩
  | succ rounds ih =>
      obtain ⟨first, between, round, renewed⟩ := guard.renewRound_spec log
      obtain ⟨rest, after, looped, others⟩ := ih ⟨between, log.calls ++ first⟩
      refine ⟨first ++ rest, after, ?_, ?_⟩
      · rw [renewLoop, Action.bind_ok round, looped, List.append_assoc]
      · intro call member
        rcases List.mem_append.mp member with old | new
        · exact renewed call old
        · exact others call new

/-- The calls of a release: renewals, then the blob lease once, then the cluster lease once where there is one. -/
def ReleasedAfterRenewals (before after : CallLog World) : Prop :=
  ∃ renewals answer rest, after.calls = before.calls ++ renewals ++ .releaseBlob guard.leaseId answer :: rest ∧
    (∀ call ∈ renewals, call.renews = true) ∧ (guard.cluster = none → rest = []) ∧
    ∀ cluster, guard.cluster = some cluster → ∃ answer, rest = [.releaseCluster answer]

theorem release_spec (rounds : Nat) (log : CallLog World) :
    guard.ReleasedAfterRenewals log (guard.release rounds log).2 := by
  obtain ⟨renewals, after, looped, renewed⟩ := guard.renewLoop_spec rounds log
  rw [release, Action.bind_ok looped]
  cases clustered : guard.cluster with
  | none =>
      refine ⟨renewals, (guard.blob.release guard.leaseId after).1, [], ?_, renewed, by simp, by simp [clustered]⟩
      simp [BlobLock.releaseLogged]
  | some cluster =>
      refine ⟨renewals, (guard.blob.release guard.leaseId after).1,
        [.releaseCluster (cluster.release (guard.blob.release guard.leaseId after).2).1], ?_, renewed,
        by simp [clustered], fun _ _ => ⟨_, rfl⟩⟩
      simp [BlobLock.releaseLogged, ClusterLease.releaseLogged]

end CoordinationGuard

namespace Coordinator

variable (coordinator : Coordinator World)

/-- An acquire that fails after it won the cluster lease has given it back and holds no blob lease, and the guard of
    one that succeeds releases the last lease that was granted. -/
structure StrandsNothing (world : World) : Prop where
  failed : ∀ error log, coordinator.acquire ⟨world, []⟩ = (.error error, log) →
    .tryAcquire (.ok .acquired) ∈ log.calls → (∃ answer, .releaseCluster answer ∈ log.calls) ∧ grants log.calls = []
  guarded : ∀ guard log, coordinator.acquire ⟨world, []⟩ = (.ok guard, log) →
    guard.cluster = coordinator.cluster ∧ (grants log.calls).getLast? = some guard.leaseId ∧
    ∀ rounds, guard.ReleasedAfterRenewals log (guard.release rounds log).2

/-- The rest of an acquire that may lock the blob. -/
theorem acquire_locks {log : CallLog World} {world : World} {calls : List CoordCall}
    (won : coordinator.winCluster log = (.ok (), ⟨world, calls⟩)) :
    ∃ outcome entries after, LockSpec coordinator.cluster.isSome
        (coordinator.cluster.isSome ∧ coordinator.BreakFails world) outcome entries ∧
      (∀ id, outcome = .ok id → coordinator.acquire log =
        (.ok ⟨coordinator.toCoordinatorParts, id⟩, ⟨after, calls ++ entries⟩)) ∧
      ∀ error, outcome = .error error → coordinator.acquire log = (.error error, ⟨after, calls ++ entries⟩) := by
  obtain ⟨outcome, entries, after, locked, spec⟩ := coordinator.lockBlob_spec world calls
  refine ⟨outcome, entries, after, spec, ?_, ?_⟩
  · rintro id rfl
    rw [acquire, Action.bind_ok won, Action.bind_ok locked]
    rfl
  · rintro error rfl
    rw [acquire, Action.bind_ok won, Action.bind_apply, locked]

/-- What an acquire does after the cluster lease is settled decides whether it strands a lease. -/
theorem strandsNothing_of_locks {world next : World} {calls : List CoordCall}
    (won : coordinator.winCluster ⟨world, []⟩ = (.ok (), ⟨next, calls⟩)) (ungranted : grants calls = [])
    (claimed : .tryAcquire (.ok .acquired) ∈ calls ↔ coordinator.cluster.isSome)
    (unreturned : ∀ answer, .releaseCluster answer ∉ calls) :
    coordinator.StrandsNothing world ↔ ¬ (coordinator.cluster.isSome ∧ coordinator.BreakFails next) := by
  obtain ⟨outcome, entries, after, spec, onOk, onError⟩ := coordinator.acquire_locks won
  constructor
  · intro sound fails
    obtain ⟨error, rfl⟩ := spec.failing fails
    have claims : .tryAcquire (.ok .acquired) ∈ calls ++ entries :=
      List.mem_append_left _ (claimed.mpr fails.1)
    obtain ⟨⟨answer, returned⟩, _⟩ := sound.failed error _ (onError error rfl) claims
    have given : .releaseCluster answer ∈ entries := by
      rcases List.mem_append.mp returned with early | late
      · exact absurd early (unreturned answer)
      · exact late
    exact (spec.returned error rfl fails.1).mp ⟨answer, given⟩ fails
  · intro works
    constructor
    · intro error log run claims
      cases outcome with
      | ok id => cases (onOk id rfl).symm.trans run
      | error failure =>
          obtain ⟨_, rfl⟩ := Prod.mk.inj ((onError failure rfl).symm.trans run)
          have clustered : coordinator.cluster.isSome := by
            rcases List.mem_append.mp claims with early | late
            · exact claimed.mp early
            · exact absurd late (spec.unclaimed _)
          obtain ⟨answer, given⟩ := (spec.returned failure rfl clustered).mpr works
          refine ⟨⟨answer, List.mem_append_right _ given⟩, ?_⟩
          have none := spec.refused failure rfl
          simp only [grants, List.filterMap_append] at *
          rw [ungranted, none]
          rfl
    · intro guard log run
      cases outcome with
      | error failure => cases (onError failure rfl).symm.trans run
      | ok id =>
          obtain ⟨same, rfl⟩ := Prod.mk.inj ((onOk id rfl).symm.trans run)
          obtain rfl := Except.ok.inj same
          refine ⟨rfl, ?_, fun rounds => CoordinationGuard.release_spec _ rounds _⟩
          have last := spec.locked id rfl
          simp only [grants, List.filterMap_append] at *
          rw [ungranted, List.nil_append, last]

/-- An acquire strands nothing exactly when it does not fail to break the blob lease after winning the cluster lease. -/
theorem acquire_strands_nothing_iff (world : World) :
    coordinator.StrandsNothing world ↔ ¬ coordinator.BreakFailsInTakeOver world := by
  cases clustered : coordinator.cluster with
  | none =>
      have won : coordinator.winCluster ⟨world, []⟩ = (.ok (), ⟨world, []⟩) := by
        simp [winCluster, clustered]
      rw [coordinator.strandsNothing_of_locks won rfl (by simp [clustered]) (by simp)]
      simp [BreakFailsInTakeOver, clustered]
  | some cluster =>
      rcases trying : cluster.tryAcquire world with ⟨answer, next⟩
      have alone (error : Error) (refused : coordinator.winCluster ⟨world, []⟩ =
          (.error error, ⟨next, [.tryAcquire answer]⟩)) (unclaimed : answer ≠ .ok .acquired) :
          coordinator.StrandsNothing world := by
        have run : coordinator.acquire ⟨world, []⟩ = (.error error, ⟨next, [.tryAcquire answer]⟩) := by
          rw [acquire, Action.bind_apply, refused]
        constructor
        · intro other log found claims
          obtain ⟨_, rfl⟩ := Prod.mk.inj (run.symm.trans found)
          simp [Ne.symm unclaimed] at claims
        · intro guard log found
          cases run.symm.trans found
      cases answer with
      | error error =>
          refine iff_of_true (alone ("acquire cluster lease" :: error) ?_ (by simp)) ?_
          · simp [winCluster, clustered, ClusterLease.tryAcquireLogged, trying]
          · simp [BreakFailsInTakeOver, clustered, trying]
      | ok outcome =>
          cases outcome with
          | heldByLiveHolder holder sinceRenew =>
              have refused : ∃ error, coordinator.winCluster ⟨world, []⟩ =
                  (.error error, ⟨next, [.tryAcquire (.ok (.heldByLiveHolder holder sinceRenew))]⟩) := by
                simp [winCluster, clustered, ClusterLease.tryAcquireLogged, trying]
              obtain ⟨error, refused⟩ := refused
              refine iff_of_true (alone error refused (by simp)) ?_
              simp [BreakFailsInTakeOver, clustered, trying]
          | acquired =>
              have won : coordinator.winCluster ⟨world, []⟩ = (.ok (), ⟨next, [.tryAcquire (.ok .acquired)]⟩) := by
                simp [winCluster, clustered, ClusterLease.tryAcquireLogged, trying]
              rw [coordinator.strandsNothing_of_locks won rfl (by simp [clustered]) (by simp)]
              simp [BreakFailsInTakeOver, clustered, trying]

/-- The cluster lease is free, the blob lease is held, and the request that breaks it is answered with an error. -/
def unbreakable : Coordinator Unit where
  cluster := some ⟨fun world => (.ok .acquired, world), fun world => (.ok (), world), fun world => (.ok (), world)⟩
  blob := ⟨fun _ world => (.error .held, world), fun _ world => (.ok (), world), fun _ world => (.ok (), world),
    fun world => (.error ["503 Server Busy"], world)⟩
  config := .new "node" 60000000 120000000

/-- The failed break leaves the cluster lease with a node that does not mount the volume. -/
theorem failed_break_strands_cluster_lease :
    unbreakable.acquire ⟨(), []⟩ = (.error ["break stale blob lease for take-over", "503 Server Busy"],
      ⟨(), [.tryAcquire (.ok .acquired), .acquireBlob 60 (.error .held), .breakLock (.error ["503 Server Busy"])]⟩) ∧
      ¬ unbreakable.StrandsNothing () := by
  have run : unbreakable.acquire ⟨(), []⟩ = (.error ["break stale blob lease for take-over", "503 Server Busy"],
      ⟨(), [.tryAcquire (.ok .acquired), .acquireBlob 60 (.error .held),
        .breakLock (.error ["503 Server Busy"])]⟩) := rfl
  refine ⟨run, fun sound => ?_⟩
  obtain ⟨⟨answer, returned⟩, _⟩ := sound.failed _ _ run (by simp)
  simp at returned

end Coordinator
end UblkAzblob

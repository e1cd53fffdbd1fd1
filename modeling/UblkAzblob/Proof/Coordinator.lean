import UblkAzblob.Construction.Coordinator
import UblkAzblob.Proof.ClusterLease

namespace UblkAzblob
open Storage

/-- A process in such a phase uses the blob or goes on to take its lock. -/
def CoordPhase.engaged : CoordPhase → Bool
  | .locking => true
  | .breaking => true
  | .relocking => true
  | .mounted _ => true
  | .unlocking => true
  | _ => false

namespace CoordSys

variable {config : ClusterConfig} {sys : CoordSys}

def engaged (sys : CoordSys) (id : Nat) : Bool :=
  match sys.processes[id]? with
  | some process => process.phase.engaged
  | none => false

/-- A process has left the volume when it neither holds the blob lock nor goes on to take it. -/
def left (sys : CoordSys) (id : Nat) : Bool := sys.blob ≠ some id && !sys.engaged id

/-- A version is stale when the renewal it records is past the recovery timeout. -/
def stale (config : ClusterConfig) (now : Int) (found : Option Lease) : Bool :=
  match found.bind Lease.renewTime with
  | some time => time + config.recoveryTimeout ≤ now
  | none => false

/-- A commit replaces the process's own version, a stale one, or that of a process that has left; and the
last process to commit the cluster lease has not taken the lock that is broken. -/
def orderly (config : ClusterConfig) (sys : CoordSys) : CoordEvent → Bool
  | .leaseCommit id delivery => match delivery, sys.writer, sys.processes[id]? with
    | .lost _, _, _ => true
    | _, some writer, some process => match process.phase.call with
      | some (_, .committing now found _) =>
          found ≠ sys.server.object || writer = id || stale config now found || sys.left writer
      | _ => true
    | _, _, _ => true
  | .breakLock id _ => sys.writer = some id || sys.blob = none || sys.blob ≠ sys.writer
  | _ => true

/-- The process and every other that may use the blob has the newest version of the cluster lease, or a
renewal past the recovery timeout. -/
structure Guarded (config : ClusterConfig) (sys : CoordSys) : Prop where
  past : ∀ lease time, sys.server.object = some lease → lease.renewTime = some time → time ≤ sys.clock
  planned : ∀ (id : Nat) process op now found plan, sys.processes[id]? = some process →
    process.phase.call = some (op, .committing now found plan) →
    Planned (config.lease process.holder) op sys.server now found plan ∧ now ≤ sys.clock
  written : ∀ id, sys.writer = some id → ∃ lease, sys.server.object = some lease ∧
    ∀ time, lease.renewTime = some time → sys.renewed id = some time
  held : ∀ id time, sys.left id = false → sys.renewed id = some time →
    sys.writer = some id ∨ time + config.recoveryTimeout ≤ sys.clock
  clustered : ∀ (id : Nat) process, sys.processes[id]? = some process → process.phase = .breaking →
    process.clustered = true
  unborn : ∀ id, sys.processes.length ≤ id → sys.renewed id = none

theorem begin_guarded (clock : Int) (server : LeaseServer)
    (past : ∀ lease time, server.object = some lease → lease.renewTime = some time → time ≤ clock) :
    Guarded config (begin clock server) where
  past := past
  planned id process op now found plan member := by simp [begin] at member
  written id writes := by cases writes
  held id time _ renewed := by cases renewed
  clustered id process member := by simp [begin] at member
  unborn _ _ := rfl

/-- The processes after a step of one of them are the others and the moved one. -/
theorem enter_cases {id other : Nat} {process found : CoordProcess} {phase : CoordPhase}
    (member : (sys.enter id process phase).processes[other]? = some found) :
    other = id ∧ found = { process with phase } ∨ sys.processes[other]? = some found := by
  rw [enter, List.getElem?_set] at member
  split at member
  · rename_i same
    split at member
    · exact .inl ⟨same.symm, (Option.some.inj member).symm⟩
    · cases member
  · exact .inr member

theorem enter_engaged {id other : Nat} {process : CoordProcess} {phase : CoordPhase}
    (running : sys.processes[id]? = some process)
    (still : phase.engaged = true → process.phase.engaged = true)
    (engaged : (sys.enter id process phase).engaged other = true) : sys.engaged other = true := by
  unfold CoordSys.engaged at engaged
  split at engaged
  · rename_i found member
    rcases enter_cases member with ⟨rfl, rfl⟩ | old
    · rw [CoordSys.engaged, running]
      exact still engaged
    · rw [CoordSys.engaged, old]
      exact engaged
  · cases engaged

theorem left_eq_false {id : Nat} : sys.left id = false ↔ sys.blob = some id ∨ sys.engaged id = true := by
  by_cases own : sys.blob = some id <;> simp [left, own]

/-- A process may change its phase and the lock as long as it does not join those that use the blob. -/
theorem Guarded.moved (guarded : Guarded config sys) {id : Nat} {process : CoordProcess}
    {phase : CoordPhase} {blob : Option Nat} (running : sys.processes[id]? = some process)
    (calm : ∀ op now found plan, phase.call ≠ some (op, .committing now found plan))
    (still : phase.engaged = true → process.phase.engaged = true)
    (lock : blob = none ∨ blob = sys.blob ∨ blob = some id ∧ process.phase.engaged = true)
    (breaks : phase = .breaking → process.clustered = true) :
    Guarded config ({ sys with blob }.enter id process phase) := by
  refine ⟨guarded.past, ?_, guarded.written, ?_, ?_, by simpa [enter] using guarded.unborn⟩
  · intro other found op now seen plan member call
    rcases enter_cases member with ⟨rfl, rfl⟩ | old
    · exact absurd call (calm op now seen plan)
    · exact guarded.planned other found op now seen plan old call
  · intro other time uses renewed
    refine guarded.held other time ?_ renewed
    rw [left_eq_false] at uses ⊢
    rcases uses with holds | engaged
    · rcases lock with none | same | ⟨own, before⟩
      · cases none.symm.trans holds
      · exact .inl (same.symm.trans holds)
      · right
        obtain rfl := Option.some.inj (own.symm.trans holds)
        rw [CoordSys.engaged, running]
        exact before
    · exact .inr (enter_engaged running still engaged)
  · intro other found member breaking
    rcases enter_cases member with ⟨rfl, rfl⟩ | old
    · exact breaks breaking
    · exact guarded.clustered other found old breaking

/-- A new process is only engaged without a renewal of its own. -/
theorem Guarded.joined (guarded : Guarded config sys) (holder : String) (clustered : Bool) :
    Guarded config { sys with processes := sys.processes ++
      [⟨holder, clustered, if clustered then .leasing .getting else .locking⟩] } := by
  have known (id : Nat) (found : CoordProcess) (member : (sys.processes ++
      [⟨holder, clustered, if clustered then .leasing .getting else .locking⟩])[id]? = some found) :
      sys.processes[id]? = some found ∨ id = sys.processes.length ∧
        found.phase = if clustered then .leasing .getting else .locking := by
    rw [List.getElem?_append] at member
    split at member
    · exact .inl member
    · rename_i beyond
      rw [List.getElem?_singleton] at member
      split at member
      · exact .inr ⟨by omega, by rw [← Option.some.inj member]⟩
      · cases member
  refine ⟨guarded.past, ?_, guarded.written, ?_, ?_, fun id beyond => guarded.unborn id ?_⟩
  · intro id found op now seen plan member call
    rcases known id found member with old | ⟨_, fresh⟩
    · exact guarded.planned id found op now seen plan old call
    · rw [fresh] at call
      cases clustered <;> cases call
  · intro id time uses renewed
    refine guarded.held id time ?_ renewed
    rw [left_eq_false] at uses ⊢
    rcases uses with holds | engaged
    · exact .inl holds
    · right
      unfold CoordSys.engaged at engaged
      split at engaged
      · rename_i found member
        rcases known id found member with old | ⟨rfl, _⟩
        · rw [CoordSys.engaged, old]
          exact engaged
        · cases (guarded.unborn _ (Nat.le_refl _)).symm.trans renewed
      · cases engaged
  · intro id found member breaking
    rcases known id found member with old | ⟨_, fresh⟩
    · exact guarded.clustered id found old breaking
    · rw [fresh] at breaking
      cases clustered <;> cases breaking
  · simp only [List.length_append, List.length_singleton] at beyond
    omega

/-- Time passes, and renewals only get older. -/
theorem Guarded.tick (guarded : Guarded config sys) (elapsed : Nat) :
    Guarded config { sys with clock := sys.clock + elapsed } where
  past lease time stored renewed := by
    have := guarded.past lease time stored renewed
    dsimp only
    omega
  planned id process op now found plan member call := by
    obtain ⟨planned, before⟩ := guarded.planned id process op now found plan member call
    refine ⟨planned, ?_⟩
    dsimp only
    omega
  written := guarded.written
  held id time uses renewed := by
    rcases guarded.held id time uses renewed with newest | old
    · exact .inl newest
    · right
      dsimp only
      omega
  clustered := guarded.clustered
  unborn := guarded.unborn

theorem Guarded.expire (guarded : Guarded config sys) : Guarded config { sys with blob := none } where
  past := guarded.past
  planned := guarded.planned
  written := guarded.written
  held id time uses renewed := by
    refine guarded.held id time ?_ renewed
    rw [left_eq_false] at uses ⊢
    rcases uses with holds | engaged
    · cases holds
    · exact .inr engaged
  clustered := guarded.clustered
  unborn := guarded.unborn

/-- A call that returns an error or a refusal does not let its process go on to the blob lock. -/
theorem resume_returned (config : ClusterConfig) {phase : CoordPhase} {op : LeaseOp} {call : LeasePhase}
    (calling : phase.call = some (op, call)) (found : Option Lease)
    (outcome : Except Error (Option ClusterAcquire)) :
    (phase.resume config (.returned found outcome)).call = none ∧
      phase.resume config (.returned found outcome) ≠ .breaking ∧
      (outcome ≠ .ok (some .acquired) →
        (phase.resume config (.returned found outcome)).engaged = true → phase.engaged = true) := by
  cases phase with
  | leasing old =>
      cases outcome with
      | error error => exact ⟨rfl, nofun, fun _ engaged => by cases engaged⟩
      | ok value =>
          cases value with
          | none => exact ⟨rfl, nofun, fun _ engaged => by cases engaged⟩
          | some answer =>
              cases answer with
              | acquired => exact ⟨rfl, nofun, fun other => absurd rfl other⟩
              | heldByLiveHolder holder since => exact ⟨rfl, nofun, fun _ engaged => by cases engaged⟩
  | rollingBack old error => exact ⟨rfl, nofun, fun _ engaged => by cases engaged⟩
  | mounted renewal => exact ⟨rfl, nofun, fun _ _ => rfl⟩
  | unleasing old => exact ⟨rfl, nofun, fun _ engaged => by cases engaged⟩
  | _ => cases calling

/-- A call that goes on to its commit keeps its process where it is. -/
theorem resume_committing (config : ClusterConfig) {phase : CoordPhase} {op : LeaseOp} {call : LeasePhase}
    (calling : phase.call = some (op, call)) (now : Int) (found : Option Lease) (plan : LeasePlan) :
    (phase.resume config (.committing now found plan)).call = some (op, .committing now found plan) ∧
      phase.resume config (.committing now found plan) ≠ .breaking ∧
      ((phase.resume config (.committing now found plan)).engaged = true → phase.engaged = true) := by
  cases phase with
  | leasing old =>
      obtain ⟨rfl, rfl⟩ := Prod.mk.inj (Option.some.inj calling)
      exact ⟨rfl, nofun, fun engaged => by cases engaged⟩
  | rollingBack old error =>
      obtain ⟨rfl, rfl⟩ := Prod.mk.inj (Option.some.inj calling)
      exact ⟨rfl, nofun, fun engaged => by cases engaged⟩
  | mounted renewal =>
      cases renewal with
      | none => cases calling
      | some old =>
          obtain ⟨rfl, rfl⟩ := Prod.mk.inj (Option.some.inj calling)
          exact ⟨rfl, nofun, fun _ => rfl⟩
  | unleasing old =>
      obtain ⟨rfl, rfl⟩ := Prod.mk.inj (Option.some.inj calling)
      exact ⟨rfl, nofun, fun engaged => by cases engaged⟩
  | _ => cases calling

/-- A get leaves its process outside or plans a change from the current version. -/
theorem Guarded.get (guarded : Guarded config sys) {id : Nat} {process : CoordProcess} {op : LeaseOp}
    (running : sys.processes[id]? = some process) (calling : process.phase.call = some (op, .getting))
    (failure : Option Error) :
    Guarded config (sys.enter id process (process.phase.resume config
      (.get (config.lease process.holder) op sys.clock failure sys.server.object))) := by
  cases got : LeasePhase.get (config.lease process.holder) op sys.clock failure sys.server.object with
  | getting =>
      cases failure with
      | some error => cases got
      | none =>
          simp only [LeasePhase.get] at got
          split at got <;> cases got
  | returned found outcome =>
      obtain ⟨calm, quiet, outside⟩ := resume_returned config calling found outcome
      refine guarded.moved running (fun _ _ _ _ calls => by cases calm.symm.trans calls) (outside ?_) (.inr (.inl rfl))
        fun breaking => absurd breaking quiet
      rintro rfl
      exact get_not_acquired _ _ _ _ _ _ got
  | committing now found plan =>
      obtain ⟨rfl, rfl, planned⟩ := Planned.of_get got
      obtain ⟨call, quiet, outside⟩ := resume_committing config calling sys.clock sys.server.object plan
      refine ⟨guarded.past, ?_, guarded.written, ?_, ?_, by simpa [enter] using guarded.unborn⟩
      · intro other seen otherOp moment version otherPlan member otherCall
        rcases enter_cases member with ⟨rfl, rfl⟩ | old
        · obtain ⟨rfl, same⟩ := Prod.mk.inj (Option.some.inj (call.symm.trans otherCall))
          obtain ⟨rfl, rfl, rfl⟩ := LeasePhase.committing.inj same
          exact ⟨planned, Int.le_refl _⟩
        · exact guarded.planned other seen otherOp moment version otherPlan old otherCall
      · intro other time uses renewed
        refine guarded.held other time ?_ renewed
        rw [left_eq_false] at uses ⊢
        rcases uses with holds | engaged
        · exact .inl holds
        · exact .inr (enter_engaged running outside engaged)
      · intro other seen member breaking
        rcases enter_cases member with ⟨rfl, rfl⟩ | old
        · exact absurd breaking quiet
        · exact guarded.clustered other seen old breaking

/-- An accepted commit makes its process the newest writer; the one before it is stale or has left. -/
theorem Guarded.accepted (guarded : Guarded config sys) {id : Nat} {process : CoordProcess} {op : LeaseOp}
    {now : Int} {found : Option Lease} {plan : LeasePlan} {server : LeaseServer}
    (running : sys.processes[id]? = some process)
    (calling : process.phase.call = some (op, .committing now found plan))
    (submitted : LeasePhase.submit plan sys.server = some server)
    (orderly : ∀ writer, sys.writer = some writer → found = sys.server.object →
      writer = id ∨ stale config now found = true ∨ sys.left writer = true)
    (outcome : Except Error (Option ClusterAcquire)) :
    Guarded config ((sys.committed id op now (some server)).enter id process
      (process.phase.resume config (.returned found outcome))) := by
  obtain ⟨planned, before⟩ := guarded.planned id process op now found plan running calling
  obtain ⟨spec, rfl, current, _, _, writes⟩ := planned.accepted submitted
  obtain ⟨calm, quiet, _⟩ := resume_returned config calling found outcome
  have renewal (lease : Lease) (time : Int) (stored : (sys.server.put spec).object = some lease)
      (renewed : lease.renewTime = some time) : op ≠ .release ∧ time = now := by
    obtain rfl := Option.some.inj stored
    rcases writes with ⟨claims, rfl⟩ | ⟨_, _, cleared⟩
    · exact ⟨claims, (Option.some.inj renewed).symm⟩
    · cases cleared.symm.trans renewed
  refine ⟨?_, ?_, ?_, ?_, ?_, ?_⟩
  · intro lease time stored renewed
    rw [(renewal lease time stored renewed).2]
    exact before
  · intro other seen otherOp moment version otherPlan member call
    rcases enter_cases member with ⟨rfl, rfl⟩ | old
    · cases calm.symm.trans call
    · obtain ⟨others, earlier⟩ := guarded.planned other seen otherOp moment version otherPlan old call
      exact ⟨others.put spec, earlier⟩
  · intro writer writes
    obtain rfl := Option.some.inj writes
    refine ⟨_, rfl, fun time renewed => ?_⟩
    obtain ⟨claims, rfl⟩ := renewal _ time rfl renewed
    simp [enter, committed, claims]
  · intro other time uses renewed
    by_cases same : other = id
    · exact .inl (by rw [same]; rfl)
    · right
      have known : sys.renewed other = some time := by
        simp only [enter, committed] at renewed
        split at renewed
        · exact renewed
        · rwa [Function.update_of_ne same] at renewed
      have stays : sys.left other = false := by
        rw [left_eq_false] at uses ⊢
        rcases uses with holds | engaged
        · exact .inl holds
        · right
          simp only [CoordSys.engaged, enter, committed, List.getElem?_set_ne (Ne.symm same)] at engaged
          exact engaged
      rcases guarded.held other time stays known with newest | old
      · rcases orderly other newest current with own | expired | gone
        · exact absurd own same
        · obtain ⟨lease, stored, recorded⟩ := guarded.written other newest
          rw [stale, current, stored, Option.bind_some] at expired
          split at expired
          · rename_i moment renewedAt
            obtain rfl := Option.some.inj ((recorded moment renewedAt).symm.trans known)
            have late : moment + config.recoveryTimeout ≤ now := by simpa using expired
            exact Int.le_trans late before
          · cases expired
        · rw [stays] at gone
          cases gone
      · exact old
  · intro other seen member breaking
    rcases enter_cases member with ⟨rfl, rfl⟩ | old
    · exact absurd breaking quiet
    · exact guarded.clustered other seen old breaking
  · intro other beyond
    have size : sys.processes.length ≤ other := by simpa [enter, committed] using beyond
    have inside := (List.getElem?_eq_some_iff.mp running).1
    simp only [enter, committed]
    split
    · exact guarded.unborn other size
    · rw [Function.update_of_ne (by omega)]
      exact guarded.unborn other size

/-- A refused commit ends its call without an acquisition. -/
theorem Guarded.refused (guarded : Guarded config sys) {id : Nat} {process : CoordProcess} {op : LeaseOp}
    {call : LeasePhase} (running : sys.processes[id]? = some process)
    (calling : process.phase.call = some (op, call)) (found : Option Lease) (error : Error) :
    Guarded config (sys.enter id process
      (process.phase.resume config (.returned found (.error error)))) := by
  obtain ⟨calm, quiet, outside⟩ := resume_returned config calling found (.error error)
  exact guarded.moved running (fun _ _ _ _ => by rw [calm]; nofun) (outside nofun) (.inr (.inl rfl))
    fun breaking => absurd breaking quiet

/-- The lock is granted to a process that is on its way to it. -/
theorem grant_cases {id : Nat} {answer : LockAnswer} {blob : Option Nat}
    (granted : sys.grant id answer = some blob) : blob = sys.blob ∨ blob = some id := by
  cases answer with
  | granted =>
      simp only [grant] at granted
      split at granted
      · exact .inr (Option.some.inj granted).symm
      · cases granted
  | held => exact .inl (Option.some.inj granted).symm
  | failed error effect =>
      simp only [grant] at granted
      split at granted
      · split at granted
        · exact .inr (Option.some.inj granted).symm
        · cases granted
      · exact .inl (Option.some.inj granted).symm

theorem Guarded.acquireBlob (guarded : Guarded config sys) {id : Nat} {process : CoordProcess}
    {phase : CoordPhase} {answer : LockAnswer} {blob : Option Nat}
    (running : sys.processes[id]? = some process) (engaged : process.phase.engaged = true)
    (granted : sys.grant id answer = some blob)
    (calm : ∀ op now found plan, phase.call ≠ some (op, .committing now found plan))
    (breaks : phase = .breaking → process.clustered = true) :
    Guarded config ({ sys with blob }.enter id process phase) := by
  refine guarded.moved running calm (fun _ => engaged) ?_ breaks
  rcases grant_cases granted with same | own
  · exact .inr (.inl same)
  · exact .inr (.inr ⟨own, engaged⟩)

/-- A rolled back acquisition starts with a get and does not break the lock. -/
theorem rollBack_calm (clustered : Bool) (error : Error) :
    (∀ op now found plan, (CoordPhase.rollBack clustered error).call ≠ some (op, .committing now found plan)) ∧
      CoordPhase.rollBack clustered error ≠ .breaking := by
  cases clustered <;> simp [CoordPhase.rollBack, CoordPhase.call]

/-- An answer to the first `acquire` leads to the break only where a cluster lease is configured. -/
theorem locked_calm (clustered : Bool) (answer : LockAnswer) :
    (∀ op now found plan, (locked clustered answer).call ≠ some (op, .committing now found plan)) ∧
      (locked clustered answer = .breaking → clustered = true) := by
  cases answer with
  | granted => simp [locked, CoordPhase.call]
  | held => cases clustered <;> simp [locked, CoordPhase.call]
  | failed error effect =>
      obtain ⟨calm, quiet⟩ := rollBack_calm clustered ("acquire blob lease" :: error)
      exact ⟨calm, fun breaks => absurd breaks quiet⟩

theorem relocked_calm (answer : LockAnswer) :
    (∀ op now found plan, (relocked answer).call ≠ some (op, .committing now found plan)) ∧
      relocked answer ≠ .breaking := by
  cases answer with
  | granted => simp [relocked, CoordPhase.call]
  | held => exact rollBack_calm true _
  | failed error effect => exact rollBack_calm true _

section Steps

variable {next : CoordSys} (guarded : Guarded config sys)
include guarded

theorem Guarded.stepLeaseGet {id : Nat} {failure : Option Error}
    (stepped : step config sys (.leaseGet id failure) = some next) : Guarded config next := by
  simp only [step] at stepped
  split at stepped
  · cases stepped
  · rename_i process running
    split at stepped
    · rename_i op calling
      obtain rfl := Option.some.inj stepped
      exact guarded.get running calling failure
    · cases stepped

theorem Guarded.stepLeaseCommit {id : Nat} {delivery : Delivery}
    (condition : orderly config sys (.leaseCommit id delivery) = true)
    (stepped : step config sys (.leaseCommit id delivery) = some next) : Guarded config next := by
  simp only [step] at stepped
  split at stepped
  · cases stepped
  · rename_i process running
    split at stepped
    · rename_i op now found plan calling
      obtain rfl := Option.some.inj stepped
      rcases commit_cases op found plan delivery sys.server with
        ⟨error, done⟩ | ⟨outcome, server, submitted, done⟩
      · rw [done]
        exact guarded.refused running calling found error
      · rw [done]
        refine guarded.accepted running calling submitted ?_ outcome
        intro writer newest current
        cases delivery with
        | lost error => cases done
        | unanswered error =>
            simpa [orderly, newest, running, calling, current, or_assoc] using condition
        | answered rejection =>
            simpa [orderly, newest, running, calling, current, or_assoc] using condition
    · cases stepped

theorem Guarded.stepAcquireBlob {id : Nat} {answer : LockAnswer}
    (stepped : step config sys (.acquireBlob id answer) = some next) : Guarded config next := by
  simp only [step] at stepped
  split at stepped
  · cases stepped
  · rename_i process running
    obtain ⟨blob, granted, taken⟩ := Option.bind_eq_some_iff.mp stepped
    split at taken
    · rename_i phase
      obtain rfl := Option.some.inj taken
      obtain ⟨calm, breaks⟩ := locked_calm process.clustered answer
      exact guarded.acquireBlob running (by rw [phase]; rfl) granted calm breaks
    · rename_i phase
      obtain rfl := Option.some.inj taken
      obtain ⟨calm, quiet⟩ := relocked_calm answer
      exact guarded.acquireBlob running (by rw [phase]; rfl) granted calm fun breaks => absurd breaks quiet
    · cases taken

theorem Guarded.stepBreakLock {id : Nat} {failure : Option (Error × Bool)}
    (stepped : step config sys (.breakLock id failure) = some next) : Guarded config next := by
  simp only [step] at stepped
  split at stepped
  · cases stepped
  · rename_i process running
    split at stepped
    · rename_i phase
      split at stepped
      · obtain rfl := Option.some.inj stepped
        exact guarded.moved running (by simp [CoordPhase.call]) (fun _ => by rw [phase]; rfl) (.inl rfl)
          (by simp)
      · rename_i error effect
        obtain rfl := Option.some.inj stepped
        refine guarded.moved running (by simp [CoordPhase.call]) (by simp [CoordPhase.engaged]) ?_ (by simp)
        cases effect
        · exact .inr (.inl rfl)
        · exact .inl rfl
    · cases stepped

theorem Guarded.stepRenewBlob {id : Nat} {revives : Bool}
    (stepped : step config sys (.renewBlob id revives) = some next) : Guarded config next := by
  simp only [step] at stepped
  split at stepped
  · cases stepped
  · rename_i process running
    split at stepped
    · rename_i phase
      have engaged : process.phase.engaged = true := by rw [phase]; rfl
      obtain rfl := Option.some.inj stepped
      refine guarded.moved running ?_ (fun _ => engaged) ?_ (by simp)
      · cases process.clustered <;> simp [CoordPhase.call]
      · split
        · exact .inr (.inr ⟨rfl, engaged⟩)
        · exact .inr (.inl rfl)
    · cases stepped

theorem Guarded.stepStop {id : Nat} (stepped : step config sys (.stop id) = some next) :
    Guarded config next := by
  simp only [step] at stepped
  split at stepped
  · cases stepped
  · rename_i process running
    split at stepped
    · rename_i phase
      obtain rfl := Option.some.inj stepped
      exact guarded.moved running (by simp [CoordPhase.call]) (fun _ => by rw [phase]; rfl)
        (.inr (.inl rfl)) (by simp)
    · cases stepped

theorem Guarded.stepReleaseBlob {id : Nat} {released : Bool}
    (stepped : step config sys (.releaseBlob id released) = some next) : Guarded config next := by
  simp only [step] at stepped
  split at stepped
  · cases stepped
  · rename_i process running
    split at stepped
    · rename_i phase
      obtain rfl := Option.some.inj stepped
      refine guarded.moved running ?_ (fun _ => by rw [phase]; rfl) ?_ ?_
      · cases process.clustered <;> simp [CoordPhase.call]
      · split
        · exact .inl rfl
        · exact .inr (.inl rfl)
      · cases process.clustered <;> simp
    · cases stepped

theorem Guarded.stepCrash {id : Nat} (stepped : step config sys (.crash id) = some next) :
    Guarded config next := by
  simp only [step] at stepped
  split at stepped
  · cases stepped
  · rename_i process running
    obtain rfl := Option.some.inj stepped
    exact guarded.moved running (by simp [CoordPhase.call]) (by simp [CoordPhase.engaged]) (.inr (.inl rfl))
      (by simp)

end Steps

/-- Every orderly step keeps the processes guarded. -/
theorem step_guarded (sys : CoordSys) (event : CoordEvent) (next : CoordSys) (guarded : Guarded config sys)
    (condition : orderly config sys event = true) (stepped : step config sys event = some next) :
    Guarded config next := by
  cases event with
  | start holder clustered =>
      obtain rfl := Option.some.inj stepped
      exact guarded.joined holder clustered
  | tick elapsed =>
      obtain rfl := Option.some.inj stepped
      exact guarded.tick elapsed
  | leaseGet id failure => exact guarded.stepLeaseGet stepped
  | leaseCommit id delivery => exact guarded.stepLeaseCommit condition stepped
  | acquireBlob id answer => exact guarded.stepAcquireBlob stepped
  | breakLock id failure => exact guarded.stepBreakLock stepped
  | renewBlob id revives => exact guarded.stepRenewBlob stepped
  | stop id => exact guarded.stepStop stepped
  | releaseBlob id released => exact guarded.stepReleaseBlob stepped
  | crash id => exact guarded.stepCrash stepped
  | expire =>
      obtain rfl := Option.some.inj stepped
      exact guarded.expire

/-- In an orderly run the lock is broken only by a process with a cluster lease, and only when every other
process that holds it has a renewal past the recovery timeout. -/
theorem break_spares_live_holder (config : ClusterConfig) (clock : Int) (server : LeaseServer)
    (past : ∀ lease time, server.object = some lease → lease.renewTime = some time → time ≤ clock)
    (events : List CoordEvent) (sys next : CoordSys) (id : Nat) (failure : Option (Error × Bool))
    (condition : along (step config) (orderly config) (begin clock server) events = true)
    (run : execute (step config) (begin clock server) events = some sys)
    (allowed : orderly config sys (.breakLock id failure) = true)
    (breaks : step config sys (.breakLock id failure) = some next) :
    (∃ process, sys.processes[id]? = some process ∧ process.clustered = true) ∧
      ∀ other time, other ≠ id → sys.blob = some other → sys.renewed other = some time →
        time + config.recoveryTimeout ≤ sys.clock := by
  have guarded : Guarded config sys := execute_invariant
    (fun sys event next guarded allowed stepped => step_guarded sys event next guarded allowed stepped)
    (begin_guarded clock server past) condition run
  constructor
  · simp only [step] at breaks
    split at breaks
    · cases breaks
    · rename_i process running
      split at breaks
      · rename_i phase
        exact ⟨process, running, guarded.clustered id process running phase⟩
      · cases breaks
  · intro other time different holds renewed
    rcases guarded.held other time (left_eq_false.mpr (.inl holds)) renewed with newest | old
    · simp [orderly, newest, holds, different] at allowed
    · exact old

def defaultCluster : ClusterConfig := ⟨"volume", 60000000, 120000000⟩

/-- A process mounts the volume and a second one starts up to the point where it breaks the lock. -/
def secondMount (first second : String) (pause : List CoordEvent) : List CoordEvent :=
  [.start first true, .leaseGet 0 none, .leaseCommit 0 (.answered []), .acquireBlob 0 .granted] ++ pause ++
    [.start second true, .leaseGet 1 none, .leaseCommit 1 (.answered []), .acquireBlob 1 .held]

/-- A second process of the same identity breaks the lock of a mounted process that has just renewed. -/
theorem shared_identity_breaks_live_lock :
    ∃ sys next, execute (step defaultCluster) (begin 0 ⟨none, 0, fun _ held => by cases held⟩)
        (secondMount "node" "node" []) = some sys ∧
      step defaultCluster sys (.breakLock 1 none) = some next ∧ sys.blob = some 0 ∧ next.blob = none ∧
      sys.engaged 0 = true ∧ sys.renewed 0 = some sys.clock := by
  refine ⟨_, _, rfl, rfl, ?_⟩
  decide +kernel

/-- The lock of a dead process is broken once its renewal is past the recovery timeout. -/
theorem break_spares_live_holder_takeover :
    ∃ sys next, execute (step defaultCluster) (begin 0 ⟨none, 0, fun _ held => by cases held⟩)
        (secondMount "one" "two" [.crash 0, .tick 120000000]) = some sys ∧
      step defaultCluster sys (.breakLock 1 none) = some next ∧ sys.blob = some 0 ∧ sys.renewed 0 = some 0 ∧
      (∃ process, sys.processes[1]? = some process ∧ process.clustered = true) ∧
      (0 : Int) + defaultCluster.recoveryTimeout ≤ sys.clock := by
  obtain ⟨sys, next, run, breaks, condition, allowed, held, renewed⟩ : ∃ sys next,
      execute (step defaultCluster) (begin 0 ⟨none, 0, fun _ held => by cases held⟩)
        (secondMount "one" "two" [.crash 0, .tick 120000000]) = some sys ∧
      step defaultCluster sys (.breakLock 1 none) = some next ∧
      along (step defaultCluster) (orderly defaultCluster) (begin 0 ⟨none, 0, fun _ held => by cases held⟩)
        (secondMount "one" "two" [.crash 0, .tick 120000000]) = true ∧
      orderly defaultCluster sys (.breakLock 1 none) = true ∧ sys.blob = some 0 ∧
      sys.renewed 0 = some 0 := by
    refine ⟨_, _, rfl, rfl, ?_⟩
    decide +kernel
  obtain ⟨clustered, spared⟩ := break_spares_live_holder defaultCluster 0 _ (by simp) _ sys next 1 none
    condition run allowed breaks
  exact ⟨sys, next, run, breaks, held, renewed, clustered, spared 0 0 (by decide) held renewed⟩

end CoordSys
end UblkAzblob

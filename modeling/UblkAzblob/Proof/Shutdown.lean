import UblkAzblob.Foundation.Interleaving
import UblkAzblob.Construction.Shutdown

namespace UblkAzblob
open Storage

/-- The mutation that the reply of a worker acknowledges. -/
def WorkerPhase.acknowledges : WorkerPhase → Option Nat
  | .replying _ mutation => mutation
  | _ => none

namespace TargetSys

variable {config : TargetConfig} {sys next : TargetSys}

/-- A target that has returned without an error has lost no acknowledged mutation. -/
def Safe (sys : TargetSys) : Prop :=
  sys.phase = .returned true → ∀ mutation ∈ sys.acked, mutation ∈ sys.below

/-- No connection acknowledges a mutation that the running final flush does not cover, and the final flush of a
    ublk device succeeds. -/
def shutsDownCleanly (config : TargetConfig) (sys : TargetSys) (event : TargetEvent) : Bool :=
  match config.frontend, sys.phase, event with
  | .nbd, .flushing covered, .deliver worker true =>
      (sys.workers[worker]?).all fun phase => phase.acknowledges.all (· ∈ covered)
  | .ublk, .flushing _, .flushed success => success
  | _, _, _ => true

structure Invariant (config : TargetConfig) (sys : TargetSys) : Prop where
  acked : ∀ mutation ∈ sys.acked, mutation ∈ sys.completed
  replying : ∀ phase ∈ sys.workers, ∀ mutation, phase.acknowledges = some mutation → mutation ∈ sys.completed
  covered : ∀ covered, sys.phase = .flushing covered → ∀ mutation ∈ sys.acked, mutation ∈ covered
  joined : ∀ covered, config.frontend = .ublk → sys.phase = .flushing covered → ∀ phase ∈ sys.workers, phase = .closed
  safe : Safe sys

theorem begin_invariant : Invariant config (begin config) where
  acked mutation member := by cases member
  replying phase member mutation acknowledged := by
    simp only [begin] at member
    split at member
    · obtain rfl := List.eq_of_mem_replicate member
      cases acknowledged
    · cases member
  covered covered flushing := by cases flushing
  joined covered _ flushing := by cases flushing
  safe returned := by cases returned

theorem workerAt_some {worker : Nat} {phase : WorkerPhase} (found : sys.workerAt worker = some phase) :
    (∀ ok, sys.phase ≠ .returned ok) ∧ sys.workers[worker]? = some phase := by
  unfold workerAt at found
  split at found
  · cases found
  · rename_i running
    exact ⟨fun ok => running ok, found⟩

/-- A worker of a ublk device is not served any more when the final flush runs. -/
theorem Invariant.not_joined (inv : Invariant config sys) {worker : Nat} {phase : WorkerPhase}
    (found : sys.workers[worker]? = some phase) (serving : phase ≠ .closed) :
    config.frontend = .ublk → ∀ covered, sys.phase ≠ .flushing covered := by
  intro ublk covered flushing
  exact serving (inv.joined covered ublk flushing phase (List.mem_of_getElem? found))

/-- A worker that is not closed moves; the mutation it will acknowledge has completed. -/
theorem Invariant.moved (inv : Invariant config sys) {worker : Nat} {before after : WorkerPhase}
    (found : sys.workers[worker]? = some before) (serving : before ≠ .closed)
    (completes : ∀ mutation, after.acknowledges = some mutation → mutation ∈ sys.completed) :
    Invariant config (sys.move worker after) where
  acked := inv.acked
  replying phase member mutation acknowledged := by
    rcases List.mem_or_eq_of_mem_set member with old | rfl
    · exact inv.replying phase old mutation acknowledged
    · exact completes mutation acknowledged
  covered := inv.covered
  joined covered ublk flushing := absurd flushing (inv.not_joined found serving ublk covered)
  safe := inv.safe

/-- More mutations have completed, or have reached the backing store. -/
theorem Invariant.grown (inv : Invariant config sys) (completed below : List Nat) :
    Invariant config { sys with completed := sys.completed ++ completed, below := sys.below ++ below } where
  acked mutation member := List.mem_append_left _ (inv.acked mutation member)
  replying phase member mutation acknowledged :=
    List.mem_append_left _ (inv.replying phase member mutation acknowledged)
  covered := inv.covered
  joined := inv.joined
  safe returned mutation member := List.mem_append_left _ (inv.safe returned mutation member)

theorem Invariant.flushEnds (inv : Invariant config sys) (covered : List Nat) (success : Bool) :
    Invariant config (sys.flushEnds covered success) := by
  unfold TargetSys.flushEnds
  split
  · simpa using inv.grown [] covered
  · exact inv

theorem Invariant.accept (inv : Invariant config sys) {worker : Nat} (found : sys.workers[worker]? = some .waiting)
    (call : WorkerCall) : Invariant config (sys.accept worker call) := by
  have moved (after : WorkerPhase) (quiet : after.acknowledges = none) : Invariant config (sys.move worker after) :=
    inv.moved found (by simp) (by simp [quiet])
  cases call with
  | read reply => exact moved _ rfl
  | mutate reply =>
      have moving := moved (.mutating sys.issued reply) rfl
      exact ⟨moving.acked, moving.replying, moving.covered, moving.joined, moving.safe⟩
  | flush => exact moved _ rfl
  | disconnect => exact moved _ rfl
  | refuse code => exact moved _ rfl

theorem Invariant.finish (inv : Invariant config sys) {worker : Nat} {phase : WorkerPhase} {success : Bool}
    (found : sys.workers[worker]? = some phase) (done : TargetSys.finish config sys worker success phase = some next) :
    Invariant config next := by
  cases phase with
  | waiting => cases done
  | closed => cases done
  | replying code mutation => cases done
  | reading reply =>
      obtain rfl := Option.some.inj done
      exact inv.moved found (by simp) (by simp [WorkerPhase.acknowledges])
  | mutating mutation reply =>
      simp only [TargetSys.finish] at done
      split at done
      · obtain rfl := Option.some.inj done
        have grown := inv.grown [mutation] []
        rw [List.append_nil] at grown
        exact grown.moved found (by simp) (by simp [WorkerPhase.acknowledges])
      · obtain rfl := Option.some.inj done
        exact inv.moved found (by simp) (by simp [WorkerPhase.acknowledges])
  | flushing covered closing =>
      obtain rfl := Option.some.inj done
      have kept : (sys.flushEnds covered success).workers[worker]? = some (.flushing covered closing) := by
        unfold TargetSys.flushEnds
        split
        · exact found
        · exact found
      refine (inv.flushEnds covered success).moved kept (by simp) ?_
      cases closing with
      | false => simp [WorkerPhase.acknowledges]
      | true => simp [WorkerPhase.acknowledges]

/-- A reply that is delivered acknowledges a mutation that the final flush covers, where one is running. -/
theorem Invariant.deliver (inv : Invariant config sys) {worker : Nat} {code : Int} {mutation : Option Nat}
    (running : ∀ ok, sys.phase ≠ .returned ok) (found : sys.workers[worker]? = some (.replying code mutation))
    (clean : shutsDownCleanly config sys (.deliver worker true) = true) :
    Invariant config { sys.move worker .waiting with acked := sys.acked ++ mutation.toList } := by
  have moved : Invariant config (sys.move worker .waiting) :=
    inv.moved found (by simp) (by simp [WorkerPhase.acknowledges])
  have fresh {other : Nat} (member : other ∈ sys.acked ++ mutation.toList) :
      other ∈ sys.acked ∨ mutation = some other := by simpa using member
  refine ⟨?_, moved.replying, ?_, moved.joined, fun returned => absurd returned (running true)⟩
  · intro other member
    rcases fresh member with old | rfl
    · exact inv.acked other old
    · exact inv.replying _ (List.mem_of_getElem? found) other rfl
  · intro covered flushing other member
    rcases fresh member with old | rfl
    · exact inv.covered covered flushing other old
    · cases frontend : config.frontend with
      | nbd =>
          have flushes : sys.phase = .flushing covered := flushing
          simpa [shutsDownCleanly, frontend, flushes, found, WorkerPhase.acknowledges] using clean
      | ublk => exact absurd flushing (inv.not_joined found (by simp) frontend covered)

/-- The main function moves to a phase other than a flush or a return. -/
theorem Invariant.entered (inv : Invariant config sys) {phase : TargetPhase}
    (flushless : ∀ covered, phase ≠ .flushing covered) (unreturned : phase ≠ .returned true) :
    Invariant config { sys with phase } where
  acked := inv.acked
  replying := inv.replying
  covered covered flushing := absurd flushing (flushless covered)
  joined covered _ flushing := absurd flushing (flushless covered)
  safe returned := absurd returned unreturned

/-- The final flush of a target ends. -/
theorem Invariant.flushed (inv : Invariant config sys) {covered : List Nat} (flushing : sys.phase = .flushing covered)
    {success ok : Bool} (honest : ok = true → success = true) :
    Invariant config { sys.flushEnds covered success with phase := .returned ok } := by
  have ended := inv.flushEnds covered success
  refine ⟨ended.acked, ended.replying, fun _ other => (by cases other), fun _ _ other => (by cases other), ?_⟩
  intro returned mutation member
  obtain rfl : ok = true := TargetPhase.returned.inj returned
  obtain rfl := honest rfl
  exact List.mem_append_right _ (inv.covered covered flushing mutation member)

/-- Every step of a clean shutdown keeps the invariant. -/
theorem step_invariant {event : TargetEvent} (inv : Invariant config sys)
    (clean : shutsDownCleanly config sys event = true) (taken : step config sys event = some next) :
    Invariant config next := by
  cases event with
  | connect =>
      simp only [step] at taken
      split at taken
      · rename_i forced frontend serving
        obtain rfl := Option.some.inj taken
        refine ⟨inv.acked, ?_, inv.covered, fun covered ublk => ?_, inv.safe⟩
        · intro phase member mutation acknowledged
          rcases List.mem_append.mp member with old | new
          · exact inv.replying phase old mutation acknowledged
          · obtain rfl := List.mem_singleton.mp new
            cases acknowledged
        · cases frontend.symm.trans ublk
      · cases taken
  | request worker command offset length =>
      simp only [step] at taken
      split at taken
      · rename_i found
        obtain rfl := Option.some.inj taken
        exact inv.accept (workerAt_some found).2 _
      · cases taken
  | finish worker success =>
      obtain ⟨phase, found, done⟩ := Option.bind_eq_some_iff.mp taken
      exact inv.finish (workerAt_some found).2 done
  | deliver worker sent =>
      simp only [step] at taken
      split at taken
      · rename_i code mutation found
        obtain ⟨running, at_⟩ := workerAt_some found
        split at taken
        · rename_i delivered
          subst delivered
          obtain rfl := Option.some.inj taken
          exact inv.deliver running at_ clean
        · split at taken
          · obtain rfl := Option.some.inj taken
            exact inv.moved at_ (by simp) (by simp [WorkerPhase.acknowledges])
          · cases taken
      · cases taken
  | hangUp worker =>
      simp only [step] at taken
      split at taken
      · rename_i found
        obtain rfl := Option.some.inj taken
        exact inv.moved (workerAt_some found).2 (by simp) (by simp [WorkerPhase.acknowledges])
      · cases taken
  | writeBack mutation =>
      simp only [step] at taken
      split at taken
      · cases taken
      · split at taken
        · obtain rfl := Option.some.inj taken
          simpa using inv.grown [] [mutation]
        · cases taken
  | forceFlush =>
      simp only [step] at taken
      split at taken
      · obtain rfl := Option.some.inj taken
        exact inv.entered (by simp) (by simp)
      · cases taken
  | forced success =>
      simp only [step] at taken
      split at taken
      · rename_i covered _
        obtain rfl := Option.some.inj taken
        exact (inv.flushEnds covered success).entered (by simp) (by simp)
      · cases taken
  | stop =>
      simp only [step] at taken
      split at taken
      · rename_i frontend _
        obtain rfl := Option.some.inj taken
        refine ⟨inv.acked, inv.replying, ?_, fun covered ublk => (by cases frontend.symm.trans ublk),
          fun returned => (by cases returned)⟩
        intro covered flushing mutation member
        obtain rfl := TargetPhase.flushing.inj flushing
        exact inv.acked mutation member
      · obtain rfl := Option.some.inj taken
        exact inv.entered (by simp) (by simp)
      · cases taken
  | joined =>
      simp only [step] at taken
      split at taken
      · split at taken
        · obtain rfl := Option.some.inj taken
          have closed {phase : WorkerPhase} (member : phase ∈ sys.workers.map fun _ => WorkerPhase.closed) :
              phase = .closed := by
            obtain ⟨_, _, rfl⟩ := List.mem_map.mp member
            rfl
          refine ⟨inv.acked, ?_, ?_, fun covered _ _ phase member => closed member, fun returned => (by cases returned)⟩
          · intro phase member mutation acknowledged
            obtain rfl := closed member
            cases acknowledged
          · intro covered flushing mutation member
            obtain rfl := TargetPhase.flushing.inj flushing
            exact inv.acked mutation member
        · cases taken
      · cases taken
  | runTargetFailed =>
      simp only [step] at taken
      split at taken
      · obtain rfl := Option.some.inj taken
        exact inv.entered (by simp) (by simp)
      · cases taken
  | flushed success =>
      simp only [step] at taken
      split at taken
      · rename_i covered flushing
        split at taken
        · obtain rfl := Option.some.inj taken
          exact inv.flushed flushing id
        · rename_i frontend
          obtain rfl := Option.some.inj taken
          have succeeded : success = true := by simpa [shutsDownCleanly, frontend, flushing] using clean
          exact inv.flushed flushing fun _ => succeeded
      · cases taken

/-- No run of either target that shuts down cleanly loses an acknowledged mutation. -/
theorem clean_shutdown_keeps_acked (config : TargetConfig) (events : List TargetEvent) (sys : TargetSys)
    (clean : along (step config) (shutsDownCleanly config) (begin config) events = true)
    (run : execute (step config) (begin config) events = some sys) : Safe sys :=
  (execute_invariant (fun _ _ _ inv allowed taken => step_invariant inv allowed taken) begin_invariant clean run).safe

/-- A connection acknowledges a write during the final flush of the NBD server. -/
def writeDuringFinalFlush : List TargetEvent :=
  [.connect, .stop, .request 0 NbdTarget.nbdCmdWrite 0 512, .finish 0 true, .deliver 0 true, .flushed true]

/-- The final flush of a ublk device fails after a queue has acknowledged a write. -/
def failedFinalFlush : List TargetEvent :=
  [.request 0 ublkIoOpWrite 0 512, .finish 0 true, .deliver 0 true, .stop, .joined, .flushed false]

def nbdDevice : TargetConfig := ⟨.nbd, 1024, false, 0⟩

def ublkDevice : TargetConfig := ⟨.ublk, 1024, false, 1⟩

/-- Both targets return without an error while an acknowledged write is only in the caches. -/
theorem shutdown_loses_acked_write :
    (∃ sys, execute (step nbdDevice) (begin nbdDevice) writeDuringFinalFlush = some sys ∧ ¬ Safe sys) ∧
      ∃ sys, execute (step ublkDevice) (begin ublkDevice) failedFinalFlush = some sys ∧ ¬ Safe sys := by
  refine ⟨⟨_, rfl, ?_⟩, ⟨_, rfl, ?_⟩⟩
  · intro safe
    exact absurd (safe rfl 0 (by decide)) (by decide)
  · intro safe
    exact absurd (safe rfl 0 (by decide)) (by decide)

/-- The write is acknowledged before the stop signal. -/
theorem clean_shutdown_keeps_acked_before_stop :
    ∃ sys, execute (step nbdDevice) (begin nbdDevice) [.connect, .request 0 NbdTarget.nbdCmdWrite 0 512,
      .finish 0 true, .deliver 0 true, .stop, .flushed true] = some sys ∧ sys.phase = .returned true ∧
      sys.acked = [0] ∧ Safe sys := by
  refine ⟨_, rfl, rfl, rfl, ?_⟩
  exact clean_shutdown_keeps_acked nbdDevice [.connect, .request 0 NbdTarget.nbdCmdWrite 0 512,
      .finish 0 true, .deliver 0 true, .stop, .flushed true] _ (by decide) rfl

end TargetSys
end UblkAzblob

import UblkAzblob.Foundation.Tally
import UblkAzblob.Construction.IoGateway
import Mathlib.Data.List.Nodup

namespace UblkAzblob
open Storage

namespace IoGatewayConfig

variable (config : IoGatewayConfig)

/-- A limiter can always grant something. -/
theorem limiterMax_pos {direction : Direction} {limit : Nat} (limited : config.limiterMax direction = some limit) :
    0 < limit := by
  unfold limiterMax at limited
  split at limited
  · cases limited
  · obtain rfl := Option.some.inj limited
    exact Nat.lt_of_lt_of_le (by decide) (Nat.le_max_right _ _)

end IoGatewayConfig

namespace GatewayPhase

/-- The job that a worker has in hand. -/
def job : GatewayPhase → Option GatewayJob
  | .charging job _ => some job
  | .acquiring job _ _ => some job
  | .paid job => some job
  | .running job => some job
  | .idle => none
  | .gone => none

def runs : GatewayPhase → Nat
  | .running _ => 1
  | _ => 0

/-- The worker runs a job, or waits for its tokens or its permit. -/
def serves (phase : GatewayPhase) : Nat := if phase.job.isSome then 1 else 0

/-- The worker pays for its job. -/
def pays : GatewayPhase → Bool
  | .charging _ _ => true
  | .acquiring _ _ _ => true
  | _ => false

/-- The tokens that are still to be paid for a piece of work. -/
def owes (work : Nat) : GatewayPhase → Nat
  | .charging job remaining => if job.work = work then remaining else 0
  | .acquiring job remaining _ => if job.work = work then remaining else 0
  | _ => 0

/-- The worker has the work in hand and has not started it. -/
def holds (work : Nat) : GatewayPhase → Nat
  | .charging job _ => if job.work = work then 1 else 0
  | .acquiring job _ _ => if job.work = work then 1 else 0
  | .paid job => if job.work = work then 1 else 0
  | _ => 0

end GatewayPhase

namespace IoGateway

variable {Value : Type} {config : IoGatewayConfig} {gateway next : IoGateway Value}

section Measures

/-- The workers of both directions, weighed. -/
def weigh (weight : GatewayPhase → Nat) (gateway : IoGateway Value) : Nat :=
  tally weight (gateway.workers .download) + tally weight (gateway.workers .upload)

def runningJobs (gateway : IoGateway Value) : Nat := gateway.weigh GatewayPhase.runs

/-- The jobs of one direction that run or wait for tokens or a permit. -/
def servedJobs (gateway : IoGateway Value) (direction : Direction) : Nat :=
  tally GatewayPhase.serves (gateway.workers direction)

def asksFor (work : Nat) (entry : GatewayJob × Nat) : Nat := if entry.1.work = work then 1 else 0

def queuedTimes (gateway : IoGateway Value) (work : Nat) : Nat :=
  tally (asksFor work) (gateway.queue .download) + tally (asksFor work) (gateway.queue .upload)

def TokenRound.tokensFor (work : Nat) (round : TokenRound) : Nat := if round.work = work then round.tokens else 0

/-- The tokens that have been charged for a piece of work. -/
def tokensCharged (gateway : IoGateway Value) (work : Nat) : Nat := tally (TokenRound.tokensFor work) gateway.charged

def tokensOwed (gateway : IoGateway Value) (work : Nat) : Nat := gateway.weigh (GatewayPhase.owes work)

/-- How often a piece of work waits to be started or has been started. -/
def appearances (gateway : IoGateway Value) (work : Nat) : Nat :=
  gateway.queuedTimes work + gateway.weigh (GatewayPhase.holds work) + gateway.started.count work

theorem weigh_enter (weight : GatewayPhase → Nat) {direction : Direction} {worker : Nat} {old : GatewayPhase}
    (found : (gateway.workers direction)[worker]? = some old) (phase : GatewayPhase) :
    (gateway.enter direction worker phase).weigh weight + weight old = gateway.weigh weight + weight phase := by
  have moved := @tally_set _ weight _ _ _ found phase
  cases direction with
  | download =>
      simp only [weigh, enter, Function.update_self, Function.update_of_ne (by decide : Direction.upload ≠ .download)]
      omega
  | upload =>
      simp only [weigh, enter, Function.update_self, Function.update_of_ne (by decide : Direction.download ≠ .upload)]
      omega

theorem weight_le_weigh (weight : GatewayPhase → Nat) {direction : Direction} {phase : GatewayPhase}
    (member : phase ∈ gateway.workers direction) : weight phase ≤ gateway.weigh weight := by
  have bound := @weight_le_tally _ weight _ _ member
  unfold weigh
  cases direction with
  | download => omega
  | upload => omega

theorem mem_enter {direction other : Direction} {worker : Nat} {phase entered : GatewayPhase}
    (member : phase ∈ (gateway.enter direction worker entered).workers other) :
    phase ∈ gateway.workers other ∨ (phase = entered ∧ other = direction) := by
  by_cases same : other = direction
  · subst same
    simp only [enter, Function.update_self] at member
    rcases List.mem_or_eq_of_mem_set member with before | now
    · exact .inl before
    · exact .inr ⟨now, rfl⟩
  · simp only [enter, Function.update_of_ne same] at member
    exact .inl member

end Measures

section Turns

/-- The gateway after a job was taken from a queue. -/
def take (gateway : IoGateway Value) (direction : Direction) (entry : Nat) (job : GatewayJob) : IoGateway Value :=
  { gateway with
    queue := Function.update gateway.queue direction ((gateway.queue direction).eraseIdx entry)
    dequeued := gateway.dequeued ++ [(direction, job)] }

def chargingPhase (config : IoGatewayConfig) (direction : Direction) (job : GatewayJob) : GatewayPhase :=
  match config.limiterMax direction with
  | some _ => .charging job job.bytes
  | none => .paid job

def noteAsked (gateway : IoGateway Value) (round : TokenRound) : IoGateway Value :=
  { gateway with asked := gateway.asked ++ [round] }

def noteCharged (gateway : IoGateway Value) (round : TokenRound) : IoGateway Value :=
  { gateway with charged := gateway.charged ++ [round] }

/-- The gateway after a permit was taken for a piece of work. -/
def start (gateway : IoGateway Value) (work : Nat) : IoGateway Value :=
  { gateway with permits := gateway.permits - 1, started := gateway.started ++ [work] }

/-- Everything that one step can do. -/
inductive Turn (config : IoGatewayConfig) (gateway : IoGateway Value) : IoGateway Value → Prop where
  | submit (direction : Direction) (ioClass : IoClass) (bytes : Nat) :
      Turn config gateway (gateway.submit direction ioClass bytes)
  | cancel (submitter : Nat) : Turn config gateway (gateway.settle submitter .cancelled)
  | recv {direction : Direction} {worker entry priority : Nat} {job : GatewayJob}
      (found : (gateway.workers direction)[worker]? = some .idle)
      (queued : (gateway.queue direction)[entry]? = some (job, priority)) :
      Turn config gateway ((gateway.take direction entry job).enter direction worker
        (chargingPhase config direction job))
  | ask {direction : Direction} {worker remaining limit : Nat} {job : GatewayJob}
      (found : (gateway.workers direction)[worker]? = some (.charging job remaining))
      (limited : config.limiterMax direction = some limit) (unpaid : 0 < remaining) :
      Turn config gateway ((gateway.noteAsked ⟨direction, job.work, min remaining limit⟩).enter direction worker
        (.acquiring job remaining (min remaining limit)))
  | paid {direction : Direction} {worker : Nat} {job : GatewayJob}
      (found : (gateway.workers direction)[worker]? = some (.charging job 0)) :
      Turn config gateway (gateway.enter direction worker (.paid job))
  | grant {direction : Direction} {worker remaining chunk : Nat} {job : GatewayJob}
      (found : (gateway.workers direction)[worker]? = some (.acquiring job remaining chunk)) :
      Turn config gateway ((gateway.noteCharged ⟨direction, job.work, chunk⟩).enter direction worker
        (.charging job (remaining - chunk)))
  | acquire {direction : Direction} {worker : Nat} {job : GatewayJob}
      (found : (gateway.workers direction)[worker]? = some (.paid job)) (free : 0 < gateway.permits) :
      Turn config gateway ((gateway.start job.work).enter direction worker (.running job))
  | finish {direction : Direction} {worker : Nat} {job : GatewayJob}
      (found : (gateway.workers direction)[worker]? = some (.running job)) (value : Value) :
      Turn config gateway ((gateway.settle job.reply (.received job.work value)).release direction worker .idle)
  | drop {direction : Direction} {worker : Nat} {job : GatewayJob}
      (found : (gateway.workers direction)[worker]? = some (.running job)) :
      Turn config gateway (gateway.release direction worker .idle)
  | panic {direction : Direction} {worker : Nat} {job : GatewayJob}
      (found : (gateway.workers direction)[worker]? = some (.running job)) :
      Turn config gateway ((gateway.settle job.reply .abandoned).release direction worker .gone)

theorem Turn.of_step {event : GatewayEvent Value} (taken : gateway.step config event = some next) :
    Turn config gateway next := by
  cases event with
  | submit direction ioClass bytes =>
      obtain rfl := Option.some.inj taken
      exact .submit direction ioClass bytes
  | cancel submitter =>
      obtain rfl := Option.some.inj taken
      exact .cancel submitter
  | recv direction worker entry =>
      simp only [step, IoGateway.recv] at taken
      split at taken
      · rename_i job priority found queued
        split at taken
        · obtain rfl := Option.some.inj taken
          exact .recv found queued
        · cases taken
      · cases taken
  | ask direction worker =>
      simp only [step, IoGateway.ask] at taken
      split at taken
      · rename_i job remaining limit found limited
        split at taken
        · rename_i unpaid
          obtain rfl := Option.some.inj taken
          exact .ask found limited unpaid
        · rename_i paidUp
          obtain rfl := Option.some.inj taken
          obtain rfl : remaining = 0 := by omega
          exact .paid found
      · cases taken
  | grant direction worker =>
      simp only [step, IoGateway.grant] at taken
      split at taken
      · rename_i job remaining chunk limit found limited
        split at taken
        · obtain rfl := Option.some.inj taken
          exact .grant found
        · cases taken
      · cases taken
  | acquire direction worker =>
      simp only [step, IoGateway.acquire] at taken
      split at taken
      · rename_i job found
        split at taken
        · rename_i free
          obtain rfl := Option.some.inj taken
          exact .acquire found free
        · cases taken
      · cases taken
  | finish direction worker value =>
      simp only [step, IoGateway.finish] at taken
      split at taken
      · rename_i job found
        obtain rfl := Option.some.inj taken
        exact .finish found value
      · cases taken
  | drop direction worker =>
      simp only [step, IoGateway.drop] at taken
      split at taken
      · rename_i job found
        split at taken
        · obtain rfl := Option.some.inj taken
          exact .drop found
        · cases taken
      · cases taken
  | panic direction worker =>
      simp only [step, IoGateway.panic] at taken
      split at taken
      · rename_i job found
        obtain rfl := Option.some.inj taken
        exact .panic found
      · cases taken

end Turns

section Frames

variable (gateway)

@[simp] theorem settle_workers (submitter : Nat) (outcome : Submitter Value) :
    (gateway.settle submitter outcome).workers = gateway.workers := by
  unfold settle
  split <;> rfl

@[simp] theorem settle_permits (submitter : Nat) (outcome : Submitter Value) :
    (gateway.settle submitter outcome).permits = gateway.permits := by
  unfold settle
  split <;> rfl

@[simp] theorem settle_queue (submitter : Nat) (outcome : Submitter Value) :
    (gateway.settle submitter outcome).queue = gateway.queue := by
  unfold settle
  split <;> rfl

@[simp] theorem settle_dequeued (submitter : Nat) (outcome : Submitter Value) :
    (gateway.settle submitter outcome).dequeued = gateway.dequeued := by
  unfold settle
  split <;> rfl

@[simp] theorem settle_asked (submitter : Nat) (outcome : Submitter Value) :
    (gateway.settle submitter outcome).asked = gateway.asked := by
  unfold settle
  split <;> rfl

@[simp] theorem settle_charged (submitter : Nat) (outcome : Submitter Value) :
    (gateway.settle submitter outcome).charged = gateway.charged := by
  unfold settle
  split <;> rfl

@[simp] theorem settle_started (submitter : Nat) (outcome : Submitter Value) :
    (gateway.settle submitter outcome).started = gateway.started := by
  unfold settle
  split <;> rfl

@[simp] theorem settle_submitters_length (submitter : Nat) (outcome : Submitter Value) :
    (gateway.settle submitter outcome).submitters.length = gateway.submitters.length := by
  unfold settle
  split <;> simp

@[simp] theorem enter_workers_length (direction other : Direction) (worker : Nat) (phase : GatewayPhase) :
    ((gateway.enter direction worker phase).workers other).length = (gateway.workers other).length := by
  by_cases same : other = direction
  · subst same
    simp [enter]
  · simp [enter, Function.update_of_ne same]

theorem weigh_settle (weight : GatewayPhase → Nat) (submitter : Nat) (outcome : Submitter Value) :
    (gateway.settle submitter outcome).weigh weight = gateway.weigh weight := by
  rw [weigh, settle_workers, ← weigh]

end Frames

section Permits

/-- The crews are complete, and every permit is free or held by a running job. -/
structure Seated (config : IoGatewayConfig) (gateway : IoGateway Value) : Prop where
  crew : ∀ direction, (gateway.workers direction).length = config.workers direction
  permits : gateway.permits + gateway.runningJobs = config.total

theorem Seated.new (config : IoGatewayConfig) : Seated config (IoGateway.new config : IoGateway Value) := by
  have resting (direction : Direction) :
      tally GatewayPhase.runs (List.replicate (config.workers direction) .idle) = 0 :=
    tally_eq_zero fun phase member => by rw [List.eq_of_mem_replicate member]; rfl
  refine ⟨fun direction => by simp [IoGateway.new], ?_⟩
  simp only [runningJobs, weigh, IoGateway.new, resting]
  omega

/-- A worker that moves between phases that do not run keeps the seats. -/
theorem Seated.enter {direction : Direction} {worker : Nat} {old phase : GatewayPhase} (seated : Seated config gateway)
    (found : (gateway.workers direction)[worker]? = some old) (resting : old.runs = phase.runs) :
    Seated config (gateway.enter direction worker phase) := by
  have moved := weigh_enter GatewayPhase.runs found phase
  refine ⟨fun other => by rw [enter_workers_length, seated.crew], ?_⟩
  have balance := seated.permits
  change gateway.permits + (gateway.enter direction worker phase).weigh GatewayPhase.runs = _
  unfold runningJobs at balance
  omega

theorem Seated.release {direction : Direction} {worker : Nat} {job : GatewayJob} {phase : GatewayPhase}
    (seated : Seated config gateway) (found : (gateway.workers direction)[worker]? = some (.running job))
    (resting : phase.runs = 0) : Seated config (gateway.release direction worker phase) := by
  have moved := weigh_enter GatewayPhase.runs found phase
  refine ⟨fun other => by rw [IoGateway.release, enter_workers_length, seated.crew], ?_⟩
  have balance := seated.permits
  have one : (GatewayPhase.running job).runs = 1 := rfl
  change gateway.permits + 1 + (gateway.enter direction worker phase).weigh GatewayPhase.runs = _
  unfold runningJobs at balance
  omega

theorem Seated.settle (seated : Seated config gateway) (submitter : Nat) (outcome : Submitter Value) :
    Seated config (gateway.settle submitter outcome) := by
  refine ⟨fun direction => by rw [settle_workers, seated.crew], ?_⟩
  rw [settle_permits, runningJobs, weigh_settle]
  exact seated.permits

theorem Seated.turn (seated : Seated config gateway) (turn : Turn config gateway next) : Seated config next := by
  cases turn with
  | submit direction ioClass bytes => exact ⟨seated.crew, seated.permits⟩
  | cancel submitter => exact seated.settle submitter _
  | @recv direction worker entry priority job found queued =>
      have taken : Seated config (gateway.take direction entry job) := ⟨seated.crew, seated.permits⟩
      refine taken.enter found ?_
      unfold chargingPhase
      split <;> rfl
  | ask found limited unpaid =>
      have noted (round : TokenRound) : Seated config (gateway.noteAsked round) := ⟨seated.crew, seated.permits⟩
      exact (noted _).enter found rfl
  | paid found => exact seated.enter found rfl
  | grant found =>
      have noted (round : TokenRound) : Seated config (gateway.noteCharged round) := ⟨seated.crew, seated.permits⟩
      exact (noted _).enter found rfl
  | @acquire direction worker job found free =>
      have moved := weigh_enter GatewayPhase.runs found (.running job)
      have balance := seated.permits
      have none' : (GatewayPhase.paid job).runs = 0 := rfl
      have one : (GatewayPhase.running job).runs = 1 := rfl
      refine ⟨fun other => by rw [enter_workers_length, ← seated.crew]; rfl, ?_⟩
      change gateway.permits - 1 + (gateway.enter direction worker (.running job)).weigh GatewayPhase.runs = _
      unfold runningJobs at balance
      omega
  | @finish direction worker job found value =>
      exact (seated.settle job.reply _).release (by rwa [settle_workers]) rfl
  | drop found => exact seated.release found rfl
  | @panic direction worker job found => exact (seated.settle job.reply _).release (by rwa [settle_workers]) rfl

end Permits

section Starts

theorem queuedTimes_submit (direction : Direction) (ioClass : IoClass) (bytes work : Nat) :
    (gateway.submit direction ioClass bytes).queuedTimes work =
      gateway.queuedTimes work + if gateway.submitters.length = work then 1 else 0 := by
  cases direction with
  | download =>
      simp only [queuedTimes, IoGateway.submit, Function.update_self, tally_append, tally_cons, tally_nil, asksFor,
        Function.update_of_ne (by decide : Direction.upload ≠ .download)]
      omega
  | upload =>
      simp only [queuedTimes, IoGateway.submit, Function.update_self, tally_append, tally_cons, tally_nil, asksFor,
        Function.update_of_ne (by decide : Direction.download ≠ .upload)]
      omega

theorem queuedTimes_take {direction : Direction} {entry priority : Nat} {job : GatewayJob}
    (queued : (gateway.queue direction)[entry]? = some (job, priority)) (work : Nat) :
    (gateway.take direction entry job).queuedTimes work + (if job.work = work then 1 else 0) =
      gateway.queuedTimes work := by
  have removed := @tally_eraseIdx _ (asksFor work) _ _ _ queued
  change _ + (if job.work = work then 1 else 0) = _ at removed
  cases direction with
  | download =>
      simp only [queuedTimes, take, Function.update_self,
        Function.update_of_ne (by decide : Direction.upload ≠ .download)]
      omega
  | upload =>
      simp only [queuedTimes, take, Function.update_self,
        Function.update_of_ne (by decide : Direction.download ≠ .upload)]
      omega

/-- A piece of work is never in two places, and an id that was not handed out is nowhere. -/
structure Distinct (gateway : IoGateway Value) : Prop where
  once : ∀ work, gateway.appearances work ≤ 1
  fresh : ∀ work, gateway.submitters.length ≤ work → gateway.appearances work = 0

theorem Distinct.of_appearances {other : IoGateway Value} (distinct : Distinct gateway)
    (submitters : other.submitters.length = gateway.submitters.length)
    (same : ∀ work, other.appearances work = gateway.appearances work) : Distinct other := by
  refine ⟨fun work => by rw [same]; exact distinct.once work, fun work beyond => ?_⟩
  rw [same]
  exact distinct.fresh work (by omega)

theorem appearances_enter {direction : Direction} {worker : Nat} {old phase : GatewayPhase}
    (found : (gateway.workers direction)[worker]? = some old) (work : Nat) :
    (gateway.enter direction worker phase).appearances work + old.holds work =
      gateway.appearances work + phase.holds work := by
  have moved := weigh_enter (GatewayPhase.holds work) found phase
  have queues : (gateway.enter direction worker phase).queuedTimes work = gateway.queuedTimes work := rfl
  have starts : (gateway.enter direction worker phase).started = gateway.started := rfl
  unfold appearances
  rw [queues, starts]
  omega

theorem appearances_settle (submitter : Nat) (outcome : Submitter Value) (work : Nat) :
    (gateway.settle submitter outcome).appearances work = gateway.appearances work := by
  rw [appearances, weigh_settle, settle_started, queuedTimes, settle_queue, ← queuedTimes, ← appearances]

theorem Distinct.enter {direction : Direction} {worker : Nat} {old phase : GatewayPhase} (distinct : Distinct gateway)
    (found : (gateway.workers direction)[worker]? = some old) (same : ∀ work, old.holds work = phase.holds work) :
    Distinct (gateway.enter direction worker phase) := by
  refine distinct.of_appearances rfl fun work => ?_
  have moved := @appearances_enter _ _ _ _ _ phase found work
  rw [same work] at moved
  omega

theorem Distinct.release {direction : Direction} {worker : Nat} {job : GatewayJob} {phase : GatewayPhase}
    (distinct : Distinct gateway) (found : (gateway.workers direction)[worker]? = some (.running job))
    (resting : ∀ work, phase.holds work = 0) : Distinct (gateway.release direction worker phase) := by
  have moved : Distinct (gateway.enter direction worker phase) :=
    distinct.enter found fun work => (resting work).symm
  exact ⟨moved.once, moved.fresh⟩

theorem Distinct.settle (distinct : Distinct gateway) (submitter : Nat) (outcome : Submitter Value) :
    Distinct (gateway.settle submitter outcome) :=
  distinct.of_appearances (settle_submitters_length _ _ _) (appearances_settle submitter outcome)

theorem Distinct.turn (distinct : Distinct gateway) (turn : Turn config gateway next) : Distinct next := by
  cases turn with
  | submit direction ioClass bytes =>
      have count (work : Nat) : (gateway.submit direction ioClass bytes).appearances work =
          gateway.appearances work + if gateway.submitters.length = work then 1 else 0 := by
        have queues := @queuedTimes_submit _ gateway direction ioClass bytes work
        have holds : (gateway.submit direction ioClass bytes).weigh (GatewayPhase.holds work) =
            gateway.weigh (GatewayPhase.holds work) := rfl
        have starts : (gateway.submit direction ioClass bytes).started = gateway.started := rfl
        unfold appearances
        rw [queues, holds, starts]
        omega
      refine ⟨fun work => ?_, fun work beyond => ?_⟩
      · rw [count]
        split
        · rename_i new
          have nowhere := distinct.fresh work (by omega)
          omega
        · exact distinct.once work
      · have length : (gateway.submit direction ioClass bytes).submitters.length =
            gateway.submitters.length + 1 := by simp [IoGateway.submit]
        rw [count, distinct.fresh work (by omega), if_neg (by omega)]
  | cancel submitter => exact distinct.settle submitter _
  | @recv direction worker entry priority job found queued =>
      refine distinct.of_appearances rfl fun work => ?_
      have taken : ((gateway.take direction entry job).workers direction)[worker]? = some .idle := found
      have moved := @appearances_enter _ _ _ _ _ (chargingPhase config direction job) taken work
      have removed := queuedTimes_take queued work
      have idle : GatewayPhase.idle.holds work = 0 := rfl
      have held : (chargingPhase config direction job).holds work = if job.work = work then 1 else 0 := by
        unfold chargingPhase
        split <;> rfl
      have rest : (gateway.take direction entry job).appearances work + (if job.work = work then 1 else 0) =
          gateway.appearances work := by
        have holds : (gateway.take direction entry job).weigh (GatewayPhase.holds work) =
            gateway.weigh (GatewayPhase.holds work) := rfl
        have starts : (gateway.take direction entry job).started = gateway.started := rfl
        unfold appearances
        rw [holds, starts]
        omega
      omega
  | ask found limited unpaid =>
      have noted (round : TokenRound) : Distinct (gateway.noteAsked round) := ⟨distinct.once, distinct.fresh⟩
      exact (noted _).enter found fun _ => rfl
  | paid found => exact distinct.enter found fun _ => rfl
  | grant found =>
      have noted (round : TokenRound) : Distinct (gateway.noteCharged round) := ⟨distinct.once, distinct.fresh⟩
      exact (noted _).enter found fun _ => rfl
  | @acquire direction worker job found free =>
      refine distinct.of_appearances rfl fun work => ?_
      have begun : ((gateway.start job.work).workers direction)[worker]? = some (.paid job) := found
      have moved := @appearances_enter _ _ _ _ _ (.running job) begun work
      have running : (GatewayPhase.running job).holds work = 0 := rfl
      have paid : (GatewayPhase.paid job).holds work = if job.work = work then 1 else 0 := rfl
      have counted : (gateway.start job.work).appearances work =
          gateway.appearances work + if job.work = work then 1 else 0 := by
        have queues : (gateway.start job.work).queuedTimes work = gateway.queuedTimes work := rfl
        have holds : (gateway.start job.work).weigh (GatewayPhase.holds work) =
            gateway.weigh (GatewayPhase.holds work) := rfl
        unfold appearances
        rw [queues, holds, IoGateway.start, List.count_append, List.count_singleton, beq_eq_decide]
        simp only [decide_eq_true_eq]
        omega
      omega
  | @finish direction worker job found value =>
      exact (distinct.settle job.reply _).release (by rwa [settle_workers]) fun _ => rfl
  | drop found => exact distinct.release found fun _ => rfl
  | @panic direction worker job found =>
      exact (distinct.settle job.reply _).release (by rwa [settle_workers]) fun _ => rfl

theorem Distinct.new (config : IoGatewayConfig) : Distinct (IoGateway.new config : IoGateway Value) := by
  have resting (work : Nat) (direction : Direction) :
      tally (GatewayPhase.holds work) (List.replicate (config.workers direction) .idle) = 0 :=
    tally_eq_zero fun phase member => by rw [List.eq_of_mem_replicate member]; rfl
  have nowhere (work : Nat) : (IoGateway.new config : IoGateway Value).appearances work = 0 := by
    simp [appearances, queuedTimes, weigh, IoGateway.new, resting]
  exact ⟨fun work => by rw [nowhere]; omega, fun work _ => nowhere work⟩

end Starts

section Results

/-- Each job replies to the submitter it was made for, and a submitter has only its own result. -/
structure Addressed (gateway : IoGateway Value) : Prop where
  queued : ∀ direction, ∀ entry ∈ gateway.queue direction, entry.1.reply = entry.1.work
  inHand : ∀ direction, ∀ phase ∈ gateway.workers direction, ∀ job, phase.job = some job → job.reply = job.work
  own : ∀ (submitter work : Nat) (value : Value),
    gateway.submitters[submitter]? = some (Submitter.received work value) → work = submitter

theorem Addressed.new (config : IoGatewayConfig) : Addressed (IoGateway.new config : IoGateway Value) := by
  refine ⟨fun direction entry member => ?_, fun direction phase member job found => ?_,
    fun submitter work value found => ?_⟩
  · cases member
  · rw [List.eq_of_mem_replicate member] at found
    cases found
  · cases found

theorem Addressed.enter {direction : Direction} {phase : GatewayPhase} (addressed : Addressed gateway) (worker : Nat)
    (own : ∀ job, phase.job = some job → job.reply = job.work) :
    Addressed (gateway.enter direction worker phase) := by
  refine ⟨addressed.queued, fun other held member job found => ?_, addressed.own⟩
  rcases mem_enter member with before | ⟨rfl, _⟩
  · exact addressed.inHand other held before job found
  · exact own job found

/-- A worker that keeps its job keeps the addresses. -/
theorem Addressed.same {direction : Direction} {worker : Nat} {old phase : GatewayPhase} (addressed : Addressed gateway)
    (found : (gateway.workers direction)[worker]? = some old) (kept : ∀ job, phase.job = some job → old.job = some job) :
    Addressed (gateway.enter direction worker phase) :=
  addressed.enter worker fun job held => addressed.inHand direction old (List.mem_of_getElem? found) job (kept job held)

theorem Addressed.settle (addressed : Addressed gateway) {submitter : Nat} {outcome : Submitter Value}
    (own : ∀ work value, outcome = .received work value → work = submitter) :
    Addressed (gateway.settle submitter outcome) := by
  refine ⟨by rw [settle_queue]; exact addressed.queued, by rw [settle_workers]; exact addressed.inHand, ?_⟩
  intro other work value found
  unfold IoGateway.settle at found
  split at found
  · rw [List.getElem?_set] at found
    split at found
    · rename_i same
      split at found
      · obtain rfl := Option.some.inj found
        exact same ▸ own work value rfl
      · cases found
    · exact addressed.own other work value found
  · exact addressed.own other work value found

theorem Addressed.release {direction : Direction} {worker : Nat} {phase : GatewayPhase} (addressed : Addressed gateway)
    (empty : phase.job = none) : Addressed (gateway.release direction worker phase) := by
  have moved : Addressed (gateway.enter direction worker phase) :=
    addressed.enter worker fun job held => by cases empty.symm.trans held
  exact ⟨moved.queued, moved.inHand, moved.own⟩

theorem Addressed.turn (addressed : Addressed gateway) (turn : Turn config gateway next) : Addressed next := by
  cases turn with
  | submit direction ioClass bytes =>
      refine ⟨fun other entry member => ?_, addressed.inHand, fun submitter work value found => ?_⟩
      · by_cases same : other = direction
        · subst same
          simp only [IoGateway.submit, Function.update_self] at member
          rcases List.mem_append.mp member with before | new
          · exact addressed.queued other entry before
          · rw [List.mem_singleton.mp new]
        · simp only [IoGateway.submit, Function.update_of_ne same] at member
          exact addressed.queued other entry member
      · simp only [IoGateway.submit, List.getElem?_append] at found
        split at found
        · exact addressed.own submitter work value found
        · have new := List.mem_of_getElem? found
          cases List.mem_singleton.mp new
  | cancel submitter => exact addressed.settle fun _ _ same => by cases same
  | @recv direction worker entry priority job found queued =>
      have reply := addressed.queued direction _ (List.mem_of_getElem? queued)
      have taken : Addressed (gateway.take direction entry job) := by
        refine ⟨fun other item member => ?_, addressed.inHand, addressed.own⟩
        by_cases same : other = direction
        · subst same
          simp only [take, Function.update_self] at member
          exact addressed.queued other item (List.mem_of_mem_eraseIdx member)
        · simp only [take, Function.update_of_ne same] at member
          exact addressed.queued other item member
      refine taken.enter worker fun held inHand => ?_
      unfold chargingPhase at inHand
      split at inHand <;> exact Option.some.inj inHand ▸ reply
  | ask found limited unpaid =>
      have noted (round : TokenRound) : Addressed (gateway.noteAsked round) :=
        ⟨addressed.queued, addressed.inHand, addressed.own⟩
      exact (noted _).same found fun _ held => held
  | paid found => exact addressed.same found fun _ held => held
  | grant found =>
      have noted (round : TokenRound) : Addressed (gateway.noteCharged round) :=
        ⟨addressed.queued, addressed.inHand, addressed.own⟩
      exact (noted _).same found fun _ held => held
  | @acquire direction worker job found free =>
      have begun : Addressed (gateway.start job.work) := ⟨addressed.queued, addressed.inHand, addressed.own⟩
      exact begun.same found fun _ held => held
  | @finish direction worker job found value =>
      have reply := addressed.inHand direction _ (List.mem_of_getElem? found) job rfl
      refine (addressed.settle fun work received same => ?_).release rfl
      obtain ⟨rfl, _⟩ := Submitter.received.inj same
      exact reply.symm
  | drop found => exact addressed.release rfl
  | panic found => exact (addressed.settle fun _ _ same => by cases same).release rfl

end Results

section Ledger

/-- What is charged and what is still owed for a job that was taken from its queue add up to its bytes. -/
structure Ledger (config : IoGatewayConfig) (gateway : IoGateway Value) : Prop where
  known : ∀ direction job, (direction, job) ∈ gateway.dequeued → job.work < gateway.submitters.length
  unqueued : ∀ direction job, (direction, job) ∈ gateway.dequeued → gateway.queuedTimes job.work = 0
  inHand : ∀ direction, ∀ phase ∈ gateway.workers direction, ∀ job, phase.job = some job →
    (direction, job) ∈ gateway.dequeued
  rounds : ∀ direction job remaining chunk, .acquiring job remaining chunk ∈ gateway.workers direction →
    chunk ≤ remaining
  paid : ∀ direction job, (direction, job) ∈ gateway.dequeued → (config.limiterMax direction).isSome →
    gateway.tokensCharged job.work + gateway.tokensOwed job.work = job.bytes
  unpaid : ∀ work, (∀ direction job, (direction, job) ∈ gateway.dequeued → job.work ≠ work) →
    gateway.tokensCharged work = 0 ∧ gateway.tokensOwed work = 0
  asked : ∀ round ∈ gateway.asked, ∃ limit, config.limiterMax round.direction = some limit ∧
    0 < round.tokens ∧ round.tokens ≤ limit

theorem Ledger.new (config : IoGatewayConfig) : Ledger config (IoGateway.new config : IoGateway Value) := by
  have resting (work : Nat) (direction : Direction) :
      tally (GatewayPhase.owes work) (List.replicate (config.workers direction) .idle) = 0 :=
    tally_eq_zero fun phase member => by rw [List.eq_of_mem_replicate member]; rfl
  constructor
  · intro direction job member
    cases member
  · intro direction job member
    cases member
  · intro direction phase member job found
    rw [List.eq_of_mem_replicate member] at found
    cases found
  · intro direction job remaining chunk member
    cases List.eq_of_mem_replicate member
  · intro direction job member
    cases member
  · intro work _
    exact ⟨rfl, by simp [tokensOwed, weigh, IoGateway.new, resting]⟩
  · intro round member
    cases member

/-- A worker that keeps its job and its debt keeps the ledger. -/
theorem Ledger.enter {direction : Direction} {worker : Nat} {old phase : GatewayPhase} (ledger : Ledger config gateway)
    (found : (gateway.workers direction)[worker]? = some old) (kept : ∀ job, phase.job = some job → old.job = some job)
    (debt : ∀ work, phase.owes work = old.owes work)
    (round : ∀ job remaining chunk, phase = .acquiring job remaining chunk → chunk ≤ remaining) :
    Ledger config (gateway.enter direction worker phase) := by
  have owed (work : Nat) : (gateway.enter direction worker phase).tokensOwed work = gateway.tokensOwed work := by
    have moved := weigh_enter (GatewayPhase.owes work) found phase
    have same := debt work
    unfold tokensOwed
    omega
  refine ⟨ledger.known, ledger.unqueued, ?_, ?_, ?_, ?_, ledger.asked⟩
  · intro other held member job inHand
    rcases mem_enter member with before | ⟨rfl, rfl⟩
    · exact ledger.inHand other held before job inHand
    · exact ledger.inHand other old (List.mem_of_getElem? found) job (kept job inHand)
  · intro other job remaining chunk member
    rcases mem_enter member with before | ⟨now, _⟩
    · exact ledger.rounds other job remaining chunk before
    · exact round job remaining chunk now.symm
  · intro other job member limited
    rw [owed]
    exact ledger.paid other job member limited
  · intro work absent
    rw [owed]
    exact ledger.unpaid work absent

theorem Ledger.settle (ledger : Ledger config gateway) (submitter : Nat) (outcome : Submitter Value) :
    Ledger config (gateway.settle submitter outcome) := by
  have charged (work : Nat) : (gateway.settle submitter outcome).tokensCharged work = gateway.tokensCharged work := by
    rw [tokensCharged, settle_charged, ← tokensCharged]
  have owed (work : Nat) : (gateway.settle submitter outcome).tokensOwed work = gateway.tokensOwed work :=
    weigh_settle _ _ _ _
  have queued (work : Nat) : (gateway.settle submitter outcome).queuedTimes work = gateway.queuedTimes work := by
    rw [queuedTimes, settle_queue, ← queuedTimes]
  constructor
  · simpa using ledger.known
  · simpa [queued] using ledger.unqueued
  · simpa using ledger.inHand
  · simpa using ledger.rounds
  · simpa [charged, owed] using ledger.paid
  · simpa [charged, owed] using ledger.unpaid
  · simpa using ledger.asked

theorem Ledger.release {direction : Direction} {worker : Nat} {job : GatewayJob} {phase : GatewayPhase}
    (ledger : Ledger config gateway) (found : (gateway.workers direction)[worker]? = some (.running job))
    (free : phase = .idle ∨ phase = .gone) : Ledger config (gateway.release direction worker phase) := by
  have moved : Ledger config (gateway.enter direction worker phase) := by
    rcases free with rfl | rfl
    · exact ledger.enter found (fun _ held => by cases held) (fun _ => rfl) fun _ _ _ same => by cases same
    · exact ledger.enter found (fun _ held => by cases held) (fun _ => rfl) fun _ _ _ same => by cases same
  exact ⟨moved.known, moved.unqueued, moved.inHand, moved.rounds, moved.paid, moved.unpaid, moved.asked⟩

/-- A job that is taken from its queue was in no other place, and nothing was paid for it. -/
theorem Ledger.take {direction : Direction} {worker entry priority : Nat} {job : GatewayJob}
    (ledger : Ledger config gateway) (distinct : Distinct gateway)
    (found : (gateway.workers direction)[worker]? = some .idle)
    (queued : (gateway.queue direction)[entry]? = some (job, priority)) :
    Ledger config ((gateway.take direction entry job).enter direction worker (chargingPhase config direction job)) := by
  have removed (work : Nat) := queuedTimes_take queued work
  have appears := distinct.once job.work
  have own := removed job.work
  rw [if_pos rfl] at own
  unfold appearances at appears
  have unseen : ∀ other held, (other, held) ∈ gateway.dequeued → held.work ≠ job.work := by
    intro other held member same
    have gone := ledger.unqueued other held member
    rw [same] at gone
    omega
  obtain ⟨uncharged, unowed⟩ := ledger.unpaid job.work unseen
  have taken : ((gateway.take direction entry job).workers direction)[worker]? = some .idle := found
  have moved (work : Nat) := weigh_enter (GatewayPhase.owes work) taken (chargingPhase config direction job)
  have idle (work : Nat) : GatewayPhase.idle.owes work = 0 := rfl
  have debt (work : Nat) : (chargingPhase config direction job).owes work =
      if (config.limiterMax direction).isSome ∧ job.work = work then job.bytes else 0 := by
    unfold chargingPhase
    cases config.limiterMax direction with
    | none => simp [GatewayPhase.owes]
    | some limit => simp [GatewayPhase.owes]
  have owed (work : Nat) :
      ((gateway.take direction entry job).enter direction worker (chargingPhase config direction job)).tokensOwed work =
        gateway.tokensOwed work + if (config.limiterMax direction).isSome ∧ job.work = work then job.bytes else 0 := by
    have step := moved work
    rw [idle, debt] at step
    exact step
  have members {other : Direction} {held : GatewayJob}
      (member : (other, held) ∈ gateway.dequeued ++ [(direction, job)]) :
      (other, held) ∈ gateway.dequeued ∨ (other = direction ∧ held = job) := by
    rcases List.mem_append.mp member with before | now
    · exact .inl before
    · exact .inr (Prod.mk.inj (List.mem_singleton.mp now))
  constructor
  · intro other held member
    rcases members member with before | ⟨rfl, rfl⟩
    · exact ledger.known other held before
    · by_contra beyond
      have nowhere := distinct.fresh held.work (Nat.le_of_not_lt beyond)
      unfold appearances at nowhere
      omega
  · intro other held member
    change (gateway.take direction entry job).queuedTimes held.work = 0
    have step := removed held.work
    rcases members member with before | ⟨rfl, rfl⟩
    · have gone := ledger.unqueued other held before
      omega
    · omega
  · intro other phase member held inHand
    change (other, held) ∈ gateway.dequeued ++ [(direction, job)]
    rcases mem_enter member with before | ⟨rfl, rfl⟩
    · exact List.mem_append_left _ (ledger.inHand other phase before held inHand)
    · unfold chargingPhase at inHand
      split at inHand <;> simp [Option.some.inj inHand]
  · intro other held remaining chunk member
    rcases mem_enter member with before | ⟨now, _⟩
    · exact ledger.rounds other held remaining chunk before
    · unfold chargingPhase at now
      split at now <;> cases now
  · intro other held member limited
    rw [owed]
    change gateway.tokensCharged held.work + _ = held.bytes
    rcases members member with before | ⟨rfl, rfl⟩
    · have apart := unseen other held before
      rw [if_neg fun same => apart same.2.symm]
      exact ledger.paid other held before limited
    · rw [if_pos ⟨limited, rfl⟩, uncharged, unowed]
      omega
  · intro work absent
    rw [owed]
    have apart : job.work ≠ work := absent direction job (List.mem_append_right _ (by simp))
    rw [if_neg fun same => apart same.2]
    exact ledger.unpaid work fun other held member => absent other held (List.mem_append_left _ member)
  · exact ledger.asked

/-- A granted round moves its tokens from the debt to the charges. -/
theorem Ledger.grant {direction : Direction} {worker remaining chunk : Nat} {job : GatewayJob}
    (ledger : Ledger config gateway)
    (found : (gateway.workers direction)[worker]? = some (.acquiring job remaining chunk)) :
    Ledger config ((gateway.noteCharged ⟨direction, job.work, chunk⟩).enter direction worker
      (.charging job (remaining - chunk))) := by
  have member := List.mem_of_getElem? found
  have within := ledger.rounds direction job remaining chunk member
  have noted : ((gateway.noteCharged ⟨direction, job.work, chunk⟩).workers direction)[worker]? =
      some (.acquiring job remaining chunk) := found
  have charged (work : Nat) : ((gateway.noteCharged ⟨direction, job.work, chunk⟩).enter direction worker
      (.charging job (remaining - chunk))).tokensCharged work =
      gateway.tokensCharged work + if job.work = work then chunk else 0 := by
    change tally (TokenRound.tokensFor work) (gateway.charged ++ [_]) = _
    rw [tally_append, tally_cons, tally_nil, Nat.add_zero]
    rfl
  have balance (work : Nat) : ((gateway.noteCharged ⟨direction, job.work, chunk⟩).enter direction worker
      (.charging job (remaining - chunk))).tokensOwed work + (if job.work = work then chunk else 0) =
      gateway.tokensOwed work := by
    have moved := weigh_enter (GatewayPhase.owes work) noted (.charging job (remaining - chunk))
    have before : (GatewayPhase.acquiring job remaining chunk).owes work = if job.work = work then remaining else 0 := rfl
    have after : (GatewayPhase.charging job (remaining - chunk)).owes work =
        if job.work = work then remaining - chunk else 0 := rfl
    have same : (gateway.noteCharged ⟨direction, job.work, chunk⟩).weigh (GatewayPhase.owes work) =
        gateway.weigh (GatewayPhase.owes work) := rfl
    rw [before, after, same] at moved
    unfold tokensOwed
    split at moved
    · simp_all
      omega
    · simp_all
  constructor
  · exact ledger.known
  · exact ledger.unqueued
  · intro other phase inside held inHand
    rcases mem_enter inside with before | ⟨rfl, rfl⟩
    · exact ledger.inHand other phase before held inHand
    · exact ledger.inHand other _ member held inHand
  · intro other held left round inside
    rcases mem_enter inside with before | ⟨now, _⟩
    · exact ledger.rounds other held left round before
    · cases now
  · intro other held inside limited
    have total := ledger.paid other held inside limited
    have step := balance held.work
    rw [charged]
    omega
  · intro work absent
    have apart : job.work ≠ work := absent direction job (ledger.inHand direction _ member job rfl)
    have step := balance work
    have none' := ledger.unpaid work absent
    rw [if_neg apart] at step
    rw [charged, if_neg apart]
    omega
  · exact ledger.asked

theorem Ledger.turn (ledger : Ledger config gateway) (distinct : Distinct gateway)
    (turn : Turn config gateway next) : Ledger config next := by
  cases turn with
  | submit direction ioClass bytes =>
      constructor
      · intro other job member
        have known := ledger.known other job member
        simp only [IoGateway.submit, List.length_append, List.length_singleton]
        omega
      · intro other job member
        have known := ledger.known other job member
        rw [queuedTimes_submit, if_neg (by omega)]
        exact ledger.unqueued other job member
      · exact ledger.inHand
      · exact ledger.rounds
      · exact ledger.paid
      · exact ledger.unpaid
      · exact ledger.asked
  | cancel submitter => exact ledger.settle submitter _
  | recv found queued => exact ledger.take distinct found queued
  | @ask direction worker remaining limit job found limited unpaid =>
      have positive := config.limiterMax_pos limited
      have noted : Ledger config (gateway.noteAsked ⟨direction, job.work, min remaining limit⟩) := by
        refine ⟨ledger.known, ledger.unqueued, ledger.inHand, ledger.rounds, ledger.paid, ledger.unpaid, ?_⟩
        intro round member
        rcases List.mem_append.mp member with before | now
        · exact ledger.asked round before
        · rw [List.mem_singleton.mp now]
          exact ⟨limit, limited, by dsimp only; omega, Nat.min_le_right _ _⟩
      refine noted.enter found (fun _ held => held) (fun _ => rfl) fun held left chunk same => ?_
      obtain ⟨_, rfl, rfl⟩ := GatewayPhase.acquiring.inj same
      exact Nat.min_le_left _ _
  | @paid direction worker job found =>
      refine ledger.enter found (fun _ held => held) (fun work => ?_) fun _ _ _ same => by cases same
      simp [GatewayPhase.owes]
  | grant found => exact ledger.grant found
  | @acquire direction worker job found free =>
      have begun : Ledger config (gateway.start job.work) :=
        ⟨ledger.known, ledger.unqueued, ledger.inHand, ledger.rounds, ledger.paid, ledger.unpaid, ledger.asked⟩
      exact begun.enter found (fun _ held => held) (fun _ => rfl) fun _ _ _ same => by cases same
  | @finish direction worker job found value =>
      exact (ledger.settle job.reply _).release (by rwa [settle_workers]) (.inl rfl)
  | drop found => exact ledger.release found (.inl rfl)
  | @panic direction worker job found =>
      exact (ledger.settle job.reply _).release (by rwa [settle_workers]) (.inr rfl)

end Ledger

section Payment

/-- Only a limited direction is paid for, in rounds that its limiter can grant. -/
structure Limited (config : IoGatewayConfig) (gateway : IoGateway Value) : Prop where
  charging : ∀ direction job remaining, .charging job remaining ∈ gateway.workers direction →
    ∃ limit, config.limiterMax direction = some limit
  acquiring : ∀ direction job remaining chunk, .acquiring job remaining chunk ∈ gateway.workers direction →
    ∃ limit, config.limiterMax direction = some limit ∧ 0 < remaining ∧ chunk = min remaining limit

theorem Limited.new (config : IoGatewayConfig) : Limited config (IoGateway.new config : IoGateway Value) := by
  constructor
  · intro direction job remaining member
    cases List.eq_of_mem_replicate member
  · intro direction job remaining chunk member
    cases List.eq_of_mem_replicate member

theorem Limited.enter {direction : Direction} {phase : GatewayPhase} (limited : Limited config gateway) (worker : Nat)
    (charges : ∀ job remaining, phase = .charging job remaining → ∃ limit, config.limiterMax direction = some limit)
    (rounds : ∀ job remaining chunk, phase = .acquiring job remaining chunk →
      ∃ limit, config.limiterMax direction = some limit ∧ 0 < remaining ∧ chunk = min remaining limit) :
    Limited config (gateway.enter direction worker phase) := by
  constructor
  · intro other job remaining member
    rcases mem_enter member with before | ⟨now, rfl⟩
    · exact limited.charging other job remaining before
    · exact charges job remaining now.symm
  · intro other job remaining chunk member
    rcases mem_enter member with before | ⟨now, rfl⟩
    · exact limited.acquiring other job remaining chunk before
    · exact rounds job remaining chunk now.symm

theorem Limited.settle (limited : Limited config gateway) (submitter : Nat) (outcome : Submitter Value) :
    Limited config (gateway.settle submitter outcome) := by
  constructor
  · rw [settle_workers]
    exact limited.charging
  · rw [settle_workers]
    exact limited.acquiring

theorem Limited.release {direction : Direction} {phase : GatewayPhase} (limited : Limited config gateway) (worker : Nat)
    (empty : phase.job = none) : Limited config (gateway.release direction worker phase) := by
  have moved : Limited config (gateway.enter direction worker phase) := by
    refine limited.enter worker (fun job remaining same => ?_) fun job remaining chunk same => ?_
    · rw [same] at empty
      cases empty
    · rw [same] at empty
      cases empty
  exact ⟨moved.charging, moved.acquiring⟩

theorem Limited.turn (limited : Limited config gateway) (turn : Turn config gateway next) : Limited config next := by
  cases turn with
  | submit direction ioClass bytes => exact ⟨limited.charging, limited.acquiring⟩
  | cancel submitter => exact limited.settle submitter _
  | @recv direction worker entry priority job found queued =>
      have taken : Limited config (gateway.take direction entry job) := ⟨limited.charging, limited.acquiring⟩
      unfold chargingPhase
      split
      · rename_i limit known
        exact taken.enter worker (fun _ _ _ => ⟨limit, known⟩) fun _ _ _ same => by cases same
      · exact taken.enter worker (fun _ _ same => by cases same) fun _ _ _ same => by cases same
  | @ask direction worker remaining limit job found known unpaid =>
      have noted (round : TokenRound) : Limited config (gateway.noteAsked round) :=
        ⟨limited.charging, limited.acquiring⟩
      refine (noted _).enter worker (fun _ _ same => by cases same) fun held left chunk same => ?_
      obtain ⟨_, rfl, rfl⟩ := GatewayPhase.acquiring.inj same
      exact ⟨limit, known, unpaid, rfl⟩
  | @paid direction worker job found =>
      exact limited.enter worker (fun _ _ same => by cases same) fun _ _ _ same => by cases same
  | @grant direction worker remaining chunk job found =>
      have noted (round : TokenRound) : Limited config (gateway.noteCharged round) :=
        ⟨limited.charging, limited.acquiring⟩
      obtain ⟨limit, known, _⟩ := limited.acquiring direction job remaining chunk (List.mem_of_getElem? found)
      exact (noted _).enter worker (fun _ _ _ => ⟨limit, known⟩) fun _ _ _ same => by cases same
  | @acquire direction worker job found free =>
      have begun : Limited config (gateway.start job.work) := ⟨limited.charging, limited.acquiring⟩
      exact begun.enter worker (fun _ _ same => by cases same) fun _ _ _ same => by cases same
  | finish found value => exact (limited.settle _ _).release _ rfl
  | drop found => exact limited.release _ rfl
  | panic found => exact (limited.settle _ _).release _ rfl

theorem getElem?_enter {direction : Direction} {worker : Nat} {old : GatewayPhase}
    (found : (gateway.workers direction)[worker]? = some old) (phase : GatewayPhase) :
    ((gateway.enter direction worker phase).workers direction)[worker]? = some phase := by
  obtain ⟨inside, _⟩ := List.getElem?_eq_some_iff.mp found
  simp only [enter, Function.update_self]
  rw [List.getElem?_set_self inside]

/-- The rounds of a job come to an end, since each pays for something. -/
theorem charging_finishes {direction : Direction} {worker limit : Nat} {job : GatewayJob}
    (limited : config.limiterMax direction = some limit) (remaining : Nat) (gateway : IoGateway Value)
    (found : (gateway.workers direction)[worker]? = some (.charging job remaining)) :
    ∃ events final, execute (step config) gateway events = some final ∧
      (final.workers direction)[worker]? = some (.paid job) := by
  have positive := config.limiterMax_pos limited
  induction remaining using Nat.strongRecOn generalizing gateway with
  | ind remaining ih =>
      by_cases unpaid : 0 < remaining
      · have asks : step config gateway (.ask direction worker) =
            some ((gateway.noteAsked ⟨direction, job.work, min remaining limit⟩).enter direction worker
              (.acquiring job remaining (min remaining limit))) := by
          simp only [step, IoGateway.ask, found, limited, if_pos unpaid]
          rfl
        set asked := (gateway.noteAsked ⟨direction, job.work, min remaining limit⟩).enter direction worker
          (.acquiring job remaining (min remaining limit)) with askedEq
        have acquiring : (asked.workers direction)[worker]? =
            some (.acquiring job remaining (min remaining limit)) := getElem?_enter found _
        have grants : step config asked (.grant direction worker) =
            some ((asked.noteCharged ⟨direction, job.work, min remaining limit⟩).enter direction worker
              (.charging job (remaining - min remaining limit))) := by
          simp only [step, IoGateway.grant, acquiring, limited, if_pos (Nat.min_le_right _ _)]
          rfl
        obtain ⟨events, final, run, paid⟩ := ih (remaining - min remaining limit) (by omega) _
          (@getElem?_enter _ (asked.noteCharged _) _ _ _ acquiring _)
        refine ⟨.ask direction worker :: .grant direction worker :: events, final, ?_, paid⟩
        rw [execute, asks, Option.bind_some, execute, grants, Option.bind_some]
        exact run
      · have finished : step config gateway (.ask direction worker) =
            some (gateway.enter direction worker (.paid job)) := by
          simp only [step, IoGateway.ask, found, limited, if_neg unpaid]
        refine ⟨[.ask direction worker], _, ?_, getElem?_enter found (.paid job)⟩
        rw [execute, finished]
        rfl

theorem Limited.pays {direction : Direction} {worker : Nat} {phase : GatewayPhase} (limited : Limited config gateway)
    (found : (gateway.workers direction)[worker]? = some phase) (pays : phase.pays = true) :
    ∃ limit, config.limiterMax direction = some limit := by
  cases phase with
  | charging job remaining => exact limited.charging direction job remaining (List.mem_of_getElem? found)
  | acquiring job remaining chunk =>
      obtain ⟨limit, known, _⟩ := limited.acquiring direction job remaining chunk (List.mem_of_getElem? found)
      exact ⟨limit, known⟩
  | idle => cases pays
  | paid job => cases pays
  | running job => cases pays
  | gone => cases pays

/-- A worker that pays for a job can finish on its own. -/
theorem payment_finishes {direction : Direction} {worker : Nat} {phase : GatewayPhase} {job : GatewayJob}
    (limited : Limited config gateway) (found : (gateway.workers direction)[worker]? = some phase)
    (pays : phase.pays = true) (held : phase.job = some job) :
    ∃ events final, execute (step config) gateway events = some final ∧
      (final.workers direction)[worker]? = some (.paid job) := by
  obtain ⟨limit, known⟩ := limited.pays found pays
  cases phase with
  | charging other remaining =>
      obtain rfl := Option.some.inj held
      exact charging_finishes known remaining gateway found
  | acquiring other remaining chunk =>
      obtain rfl := Option.some.inj held
      obtain ⟨most, again, _, small⟩ := limited.acquiring direction other remaining chunk (List.mem_of_getElem? found)
      obtain rfl := Option.some.inj (known.symm.trans again)
      have grants : step config gateway (.grant direction worker) =
          some ((gateway.noteCharged ⟨direction, other.work, chunk⟩).enter direction worker
            (.charging other (remaining - chunk))) := by
        simp only [step, IoGateway.grant, found, known, if_pos (small ▸ Nat.min_le_right _ _ : chunk ≤ limit)]
        rfl
      obtain ⟨events, final, run, paid⟩ := charging_finishes known (remaining - chunk) _
        (@getElem?_enter _ (gateway.noteCharged _) _ _ _ found _)
      refine ⟨.grant direction worker :: events, final, ?_, paid⟩
      rw [execute, grants, Option.bind_some]
      exact run
  | idle => cases pays
  | paid other => cases pays
  | running other => cases pays
  | gone => cases pays

theorem owes_le_holds {work : Nat} {phase : GatewayPhase} (free : phase.holds work = 0) : phase.owes work = 0 := by
  cases phase <;> simp_all [GatewayPhase.holds, GatewayPhase.owes]

/-- Work that no worker holds unstarted has no debt. -/
theorem tokensOwed_of_unheld {work : Nat} (unheld : gateway.weigh (GatewayPhase.holds work) = 0) :
    gateway.tokensOwed work = 0 := by
  have clear (direction : Direction) : tally (GatewayPhase.owes work) (gateway.workers direction) = 0 := by
    refine tally_eq_zero fun phase member => owes_le_holds ?_
    have bound := weight_le_weigh (GatewayPhase.holds work) member
    omega
  rw [tokensOwed, weigh, clear, clear]

theorem tokensOwed_of_started (distinct : Distinct gateway) {work : Nat} (started : work ∈ gateway.started) :
    gateway.tokensOwed work = 0 := by
  have once := distinct.once work
  have counted := List.count_pos_iff.mpr started
  unfold appearances at once
  exact tokensOwed_of_unheld (by omega)

theorem tokensOwed_of_paid (distinct : Distinct gateway) {direction : Direction} {worker : Nat} {job : GatewayJob}
    (found : (gateway.workers direction)[worker]? = some (.paid job)) : gateway.tokensOwed job.work = 0 := by
  have once := distinct.once job.work
  have held := weigh_enter (GatewayPhase.holds job.work) found .idle
  have debt := weigh_enter (GatewayPhase.owes job.work) found .idle
  have one : (GatewayPhase.paid job).holds job.work = 1 := by simp [GatewayPhase.holds]
  have idle : GatewayPhase.idle.holds job.work = 0 := rfl
  unfold appearances at once
  have clear : (gateway.enter direction worker .idle).tokensOwed job.work = 0 := tokensOwed_of_unheld (by omega)
  unfold tokensOwed at clear ⊢
  rw [clear] at debt
  exact debt.symm

end Payment

section Runs

/-- The accounts that every step keeps. -/
structure Accounted (config : IoGatewayConfig) (gateway : IoGateway Value) : Prop where
  seated : Seated config gateway
  distinct : Distinct gateway
  addressed : Addressed gateway
  ledger : Ledger config gateway
  limited : Limited config gateway

theorem Accounted.new (config : IoGatewayConfig) : Accounted config (IoGateway.new config : IoGateway Value) :=
  ⟨.new config, .new config, .new config, .new config, .new config⟩

theorem Accounted.execute {events : List (GatewayEvent Value)} (accounted : Accounted config gateway)
    (run : execute (step config) gateway events = some next) : Accounted config next := by
  refine execute_preserves (fun state event after inv taken => ?_) accounted run
  have turn := Turn.of_step taken
  exact ⟨inv.seated.turn turn, inv.distinct.turn turn, inv.addressed.turn turn, inv.ledger.turn inv.distinct turn,
    inv.limited.turn turn⟩

/-- Nothing runs without a permit, and a worker serves one job at a time. -/
theorem Seated.bounds (seated : Seated config gateway) :
    gateway.runningJobs ≤ max 1 config.concurrency ∧
      ∀ direction, gateway.servedJobs direction ≤
        max 1 (min (config.ceiling direction) (max 1 config.concurrency)) := by
  have permits := seated.permits
  have total : config.total = max 1 config.concurrency := Nat.max_comm _ _
  refine ⟨by omega, fun direction => ?_⟩
  have one (phase : GatewayPhase) : phase.serves ≤ 1 := by
    unfold GatewayPhase.serves
    split <;> omega
  have served := tally_le_length one (gateway.workers direction)
  rw [seated.crew, IoGatewayConfig.workers, total] at served
  exact served

theorem Seated.idle (seated : Seated config gateway)
    (resting : ∀ direction, ∀ phase ∈ gateway.workers direction, phase.job = none) : gateway.permits = config.total := by
  have still (direction : Direction) : tally GatewayPhase.runs (gateway.workers direction) = 0 := by
    refine tally_eq_zero fun phase member => ?_
    have free := resting direction phase member
    cases phase <;> first | rfl | cases free
  have permits := seated.permits
  rw [runningJobs, weigh, still, still] at permits
  exact permits

/-- In every state that a schedule leads to, the budgets are kept, each job is started at most once and answers its
own submitter, each limiter is asked for what it can grant and is paid what the jobs cost, and idle workers hold no
permit. -/
theorem resources_kept {events : List (GatewayEvent Value)}
    (run : Storage.execute (step config) (IoGateway.new config) events = some gateway) :
    gateway.runningJobs ≤ max 1 config.concurrency ∧
    (∀ direction, gateway.servedJobs direction ≤
      max 1 (min (config.ceiling direction) (max 1 config.concurrency))) ∧
    gateway.started.Nodup ∧
    (∀ (submitter work : Nat) (value : Value),
      gateway.submitters[submitter]? = some (.received work value) → work = submitter) ∧
    (∀ round ∈ gateway.asked, ∃ limit, config.limiterMax round.direction = some limit ∧
      1 ≤ round.tokens ∧ round.tokens ≤ limit) ∧
    (∀ direction job, (direction, job) ∈ gateway.dequeued → (config.limiterMax direction).isSome →
      gateway.tokensCharged job.work + gateway.tokensOwed job.work = job.bytes ∧
      (job.work ∈ gateway.started → gateway.tokensCharged job.work = job.bytes)) ∧
    (∀ (direction : Direction) (worker : Nat) (phase : GatewayPhase) (job : GatewayJob),
      (gateway.workers direction)[worker]? = some phase → phase.pays = true → phase.job = some job → ∃ more final, Storage.execute (step config) gateway more = some final ∧
        (final.workers direction)[worker]? = some (.paid job) ∧
        final.tokensCharged job.work = job.bytes) ∧
    ((∀ direction, ∀ phase ∈ gateway.workers direction, phase.job = none) → gateway.permits = config.total) := by
  have accounted := (Accounted.new config).execute run
  obtain ⟨running, served⟩ := accounted.seated.bounds
  refine ⟨running, served, ?_, accounted.addressed.own, accounted.ledger.asked, ?_, ?_, accounted.seated.idle⟩
  · rw [List.nodup_iff_count_le_one]
    intro work
    have once := accounted.distinct.once work
    unfold appearances at once
    omega
  · intro direction job member limited
    have total := accounted.ledger.paid direction job member limited
    refine ⟨total, fun started => ?_⟩
    rw [tokensOwed_of_started accounted.distinct started] at total
    exact total
  · intro direction worker phase job found pays held
    obtain ⟨more, final, finishes, paid⟩ := payment_finishes accounted.limited found pays held
    have later := accounted.execute finishes
    refine ⟨more, final, finishes, paid, ?_⟩
    obtain ⟨limit, known⟩ := accounted.limited.pays found pays
    have member := later.ledger.inHand direction _ (List.mem_of_getElem? paid) job rfl
    have total := later.ledger.paid direction job member (by rw [known]; rfl)
    rw [tokensOwed_of_paid later.distinct paid] at total
    exact total

/-- Everything is set to zero but the bandwidth of downloads. -/
def sampleGateway : IoGatewayConfig := ⟨0, 0, 0, 1, 0⟩

/-- A download of more than one round is paid for and answered, while the submitter of an upload leaves. -/
def sampleSchedule : List (GatewayEvent Nat) :=
  [.submit .download .foregroundRead 5000000, .submit .upload .flush 512, .recv .download 0 0, .recv .upload 0 0,
    .ask .download 0, .acquire .upload 0, .cancel 1, .grant .download 0, .ask .download 0, .drop .upload 0,
    .grant .download 0, .ask .download 0, .acquire .download 0, .finish .download 0 7]

theorem sampleSchedule_kept :
    ∃ gateway : IoGateway Nat,
      Storage.execute (step sampleGateway) (IoGateway.new sampleGateway) sampleSchedule = some gateway ∧
      gateway.started = [1, 0] ∧ gateway.started.Nodup ∧ gateway.submitters = [.received 0 7, .cancelled] ∧
      gateway.tokensCharged 0 = 5000000 ∧ gateway.permits = 1 := by
  have runs : (Storage.execute (step sampleGateway) (IoGateway.new sampleGateway) sampleSchedule).any
      (fun gateway => gateway.started = [1, 0] ∧ gateway.submitters = [.received 0 7, .cancelled] ∧
        gateway.tokensCharged 0 = 5000000 ∧ gateway.permits = 1) = true := by decide +kernel
  obtain ⟨gateway, run, checked⟩ := (Option.any_eq_true _ _).mp runs
  obtain ⟨started, submitters, charged, permits⟩ := of_decide_eq_true checked
  exact ⟨gateway, run, started, (resources_kept run).2.2.1, submitters, charged, permits⟩

end Runs
end IoGateway
end UblkAzblob

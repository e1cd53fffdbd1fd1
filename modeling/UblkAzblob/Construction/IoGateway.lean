import UblkAzblob.Foundation.Interleaving
import UblkAzblob.Construction.Backend

namespace UblkAzblob
open Storage

section Config

inductive IoClass where
  | foregroundRead
  | flush
  | copy
  | warmup
  deriving DecidableEq

/-- A higher priority is served first. -/
def IoClass.priority : IoClass → Nat
  | .foregroundRead => 3
  | .flush => 2
  | .copy => 1
  | .warmup => 0

inductive Direction where
  | download
  | upload
  deriving DecidableEq

structure IoGatewayConfig where
  concurrency : Nat
  downloadConcurrency : Nat
  uploadConcurrency : Nat
  downloadBandwidthBps : Nat
  uploadBandwidthBps : Nat

namespace IoGatewayConfig

/-- The shared budget of permits. -/
def total (config : IoGatewayConfig) : Nat := max config.concurrency 1

def ceiling (config : IoGatewayConfig) : Direction → Nat
  | .download => config.downloadConcurrency
  | .upload => config.uploadConcurrency

/-- The workers of a direction: its ceiling, clamped between one and the shared budget. -/
def workers (config : IoGatewayConfig) (direction : Direction) : Nat :=
  max 1 (min (config.ceiling direction) config.total)

def bandwidthBps (config : IoGatewayConfig) : Direction → Nat
  | .download => config.downloadBandwidthBps
  | .upload => config.uploadBandwidthBps

/-- The most tokens of a limiter, where the bandwidth of the direction is limited. -/
def limiterMax (config : IoGatewayConfig) (direction : Direction) : Option Nat :=
  if config.bandwidthBps direction = 0 then none
  else some (max (config.bandwidthBps direction) maxPageRequestBytes)

end IoGatewayConfig
end Config

section Gateway

/-- A unit of work; it owns the sending side of the channel of its submitter. -/
structure GatewayJob where
  work : Nat
  reply : Nat
  bytes : Nat
  deriving DecidableEq

inductive GatewayPhase where
  | idle
  /-- The head of the loop that pays for the job. -/
  | charging (job : GatewayJob) (remaining : Nat)
  /-- A round of tokens has been asked of the limiter. -/
  | acquiring (job : GatewayJob) (remaining chunk : Nat)
  /-- The job has been paid for and waits for a permit. -/
  | paid (job : GatewayJob)
  | running (job : GatewayJob)
  /-- The work of a job has panicked and has taken the worker with it. -/
  | gone
  deriving DecidableEq

inductive Submitter (Value : Type) where
  | waiting
  | received (work : Nat) (value : Value)
  | cancelled
  /-- The job was dropped without a result. -/
  | abandoned
  deriving DecidableEq

structure TokenRound where
  direction : Direction
  work : Nat
  tokens : Nat
  deriving DecidableEq

/-- The gateway and its submitters; the last four fields are history. -/
structure IoGateway (Value : Type) where
  queue : Direction → List (GatewayJob × Nat)
  workers : Direction → List GatewayPhase
  permits : Nat
  submitters : List (Submitter Value)
  dequeued : List (Direction × GatewayJob)
  asked : List TokenRound
  charged : List TokenRound
  started : List Nat

inductive GatewayEvent (Value : Type) where
  | submit (direction : Direction) (ioClass : IoClass) (bytes : Nat)
  | cancel (submitter : Nat)
  | recv (direction : Direction) (worker entry : Nat)
  | ask (direction : Direction) (worker : Nat)
  | grant (direction : Direction) (worker : Nat)
  | acquire (direction : Direction) (worker : Nat)
  | finish (direction : Direction) (worker : Nat) (value : Value)
  | drop (direction : Direction) (worker : Nat)
  | panic (direction : Direction) (worker : Nat)

namespace IoGateway

variable {Value : Type}

/-- Every worker is idle and every permit is free. -/
def new (config : IoGatewayConfig) : IoGateway Value :=
  ⟨fun _ => [], fun direction => List.replicate (config.workers direction) .idle, config.total, [], [], [], [], []⟩

def enter (gateway : IoGateway Value) (direction : Direction) (worker : Nat) (phase : GatewayPhase) :
    IoGateway Value :=
  { gateway with workers := Function.update gateway.workers direction ((gateway.workers direction).set worker phase) }

/-- The receiver of a submitter that does not wait any more is closed, and takes no value. -/
def settle (gateway : IoGateway Value) (submitter : Nat) (outcome : Submitter Value) : IoGateway Value :=
  match gateway.submitters[submitter]? with
  | some .waiting => { gateway with submitters := gateway.submitters.set submitter outcome }
  | _ => gateway

/-- The job ends, and its permit goes back to the semaphore. -/
def release (gateway : IoGateway Value) (direction : Direction) (worker : Nat) (phase : GatewayPhase) :
    IoGateway Value :=
  { gateway.enter direction worker phase with permits := gateway.permits + 1 }

/-- The result channel and the job are made, and the job is queued under its priority. -/
def submit (gateway : IoGateway Value) (direction : Direction) (ioClass : IoClass) (bytes : Nat) : IoGateway Value :=
  let channel := gateway.submitters.length
  let entry : GatewayJob × Nat := (⟨channel, channel, bytes⟩, ioClass.priority)
  { gateway with
    submitters := gateway.submitters ++ [.waiting]
    queue := Function.update gateway.queue direction (gateway.queue direction ++ [entry]) }

/-- An idle worker takes a job of the highest priority; without a limiter there is nothing to pay. -/
def recv (config : IoGatewayConfig) (gateway : IoGateway Value) (direction : Direction) (worker entry : Nat) :
    Option (IoGateway Value) :=
  match (gateway.workers direction)[worker]?, (gateway.queue direction)[entry]? with
  | some .idle, some (job, priority) =>
      if (gateway.queue direction).all fun other => other.2 ≤ priority then
        let taken : IoGateway Value := { gateway with
          queue := Function.update gateway.queue direction ((gateway.queue direction).eraseIdx entry)
          dequeued := gateway.dequeued ++ [(direction, job)] }
        some (taken.enter direction worker (match config.limiterMax direction with
          | some _ => .charging job job.bytes
          | none => .paid job))
      else none
  | _, _ => none

/-- The next round is never larger than the limiter can grant; at zero the payment is over. -/
def ask (config : IoGatewayConfig) (gateway : IoGateway Value) (direction : Direction) (worker : Nat) :
    Option (IoGateway Value) :=
  match (gateway.workers direction)[worker]?, config.limiterMax direction with
  | some (.charging job remaining), some limit =>
      if 0 < remaining then
        let chunk := min remaining limit
        let round : TokenRound := ⟨direction, job.work, chunk⟩
        some ({ gateway with asked := gateway.asked ++ [round] }.enter direction worker
          (.acquiring job remaining chunk))
      else some (gateway.enter direction worker (.paid job))
  | _, _ => none

/-- The limiter grants a round of at most its maximum; a larger one would wait forever. -/
def grant (config : IoGatewayConfig) (gateway : IoGateway Value) (direction : Direction) (worker : Nat) :
    Option (IoGateway Value) :=
  match (gateway.workers direction)[worker]?, config.limiterMax direction with
  | some (.acquiring job remaining chunk), some limit =>
      if chunk ≤ limit then
        let round : TokenRound := ⟨direction, job.work, chunk⟩
        some ({ gateway with charged := gateway.charged ++ [round] }.enter direction worker
          (.charging job (remaining - chunk)))
      else none
  | _, _ => none

/-- A permit lets the worker start the job. -/
def acquire (gateway : IoGateway Value) (direction : Direction) (worker : Nat) : Option (IoGateway Value) :=
  match (gateway.workers direction)[worker]? with
  | some (.paid job) =>
      if 0 < gateway.permits then
        some ({ gateway with
          permits := gateway.permits - 1
          started := gateway.started ++ [job.work] }.enter direction worker (.running job))
      else none
  | _ => none

/-- The work has a value, which is sent to the submitter of the job. -/
def finish (gateway : IoGateway Value) (direction : Direction) (worker : Nat) (value : Value) :
    Option (IoGateway Value) :=
  match (gateway.workers direction)[worker]? with
  | some (.running job) => some ((gateway.settle job.reply (.received job.work value)).release direction worker .idle)
  | _ => none

/-- The submitter has dropped its receiver, and the work is dropped with it. -/
def drop (gateway : IoGateway Value) (direction : Direction) (worker : Nat) : Option (IoGateway Value) :=
  match (gateway.workers direction)[worker]? with
  | some (.running job) => match gateway.submitters[job.reply]? with
    | some .cancelled => some (gateway.release direction worker .idle)
    | _ => none
  | _ => none

/-- The work panics; the unwinding drops the permit and the sending side of the channel. -/
def panic (gateway : IoGateway Value) (direction : Direction) (worker : Nat) : Option (IoGateway Value) :=
  match (gateway.workers direction)[worker]? with
  | some (.running job) => some ((gateway.settle job.reply .abandoned).release direction worker .gone)
  | _ => none

def step (config : IoGatewayConfig) (gateway : IoGateway Value) : GatewayEvent Value → Option (IoGateway Value)
  | .submit direction ioClass bytes => some (gateway.submit direction ioClass bytes)
  | .cancel submitter => some (gateway.settle submitter .cancelled)
  | .recv direction worker entry => recv config gateway direction worker entry
  | .ask direction worker => ask config gateway direction worker
  | .grant direction worker => grant config gateway direction worker
  | .acquire direction worker => gateway.acquire direction worker
  | .finish direction worker value => gateway.finish direction worker value
  | .drop direction worker => gateway.drop direction worker
  | .panic direction worker => gateway.panic direction worker

end IoGateway
end Gateway
end UblkAzblob

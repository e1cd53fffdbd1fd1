import UblkAzblob.Construction.NbdTarget

namespace UblkAzblob
open Storage NbdTarget

inductive Frontend where
  | nbd
  | ublk
  deriving DecidableEq

def ublkIoOpRead : Nat := 0

def ublkIoOpWrite : Nat := 1

def ublkIoOpFlush : Nat := 2

def ublkIoOpDiscard : Nat := 3

def ublkIoOpWriteZeroes : Nat := 5

def eio : Int := 5

def einval : Int := 22

/-- What a request makes its worker do, with the reply to a call that succeeds. -/
inductive WorkerCall where
  | read (reply : Int)
  | mutate (reply : Int)
  | flush
  | disconnect
  | refuse (code : Int)
  deriving DecidableEq

/-- An NBD connection refuses a mutation on a read-only export or outside the device. -/
def nbdMutation (devSize : Nat) (readOnly : Bool) (offset length : Nat) : WorkerCall :=
  if readOnly then .refuse nbdEperm
  else match boundsError offset length devSize with
    | some code => .refuse code
    | none => .mutate 0

def nbdCall (devSize : Nat) (readOnly : Bool) (command offset length : Nat) : WorkerCall :=
  if command = nbdCmdDisc then .disconnect
  else if command = nbdCmdRead then match boundsError offset length devSize with
    | some code => .refuse code
    | none => .read 0
  else if command = nbdCmdWrite then nbdMutation devSize readOnly offset length
  else if command = nbdCmdFlush then .flush
  else if command = nbdCmdTrim ∨ command = nbdCmdWriteZeroes then nbdMutation devSize readOnly offset length
  else .refuse nbdEinval

/-- A ublk queue leaves the read-only check to the kernel. -/
def ublkCall (command length : Nat) : WorkerCall :=
  if command = ublkIoOpRead then .read length
  else if command = ublkIoOpWrite then .mutate length
  else if command = ublkIoOpFlush then .flush
  else if command = ublkIoOpDiscard ∨ command = ublkIoOpWriteZeroes then .mutate 0
  else .refuse (-einval)

/-- The reply to a backend call that failed. -/
def Frontend.failure : Frontend → Int
  | .nbd => nbdEio
  | .ublk => -eio

/-- A worker is an NBD connection or a ublk queue; each serves one request at a time. -/
inductive WorkerPhase where
  | waiting
  | reading (reply : Int)
  | mutating (mutation : Nat) (reply : Int)
  | flushing (covered : List Nat) (closing : Bool)
  /-- The mutation is the one that a successful reply acknowledges. -/
  | replying (code : Int) (mutation : Option Nat)
  | closed
  deriving DecidableEq

/-- Nothing is in progress on this worker. -/
def WorkerPhase.idle : WorkerPhase → Bool
  | .waiting => true
  | .closed => true
  | _ => false

/-- Where the main function of a target stands. -/
inductive TargetPhase where
  /-- A ublk device also flushes when it is told to by a signal. -/
  | serving (forced : Option (List Nat))
  /-- The ublk device was killed, and its queue threads are being joined. -/
  | joining
  /-- The final flush covers the mutations that had completed when it began. -/
  | flushing (covered : List Nat)
  | returned (ok : Bool)
  deriving DecidableEq

/-- A target over write-back caches; mutations are numbered as they are issued. -/
structure TargetSys where
  phase : TargetPhase
  workers : List WorkerPhase
  issued : Nat
  /-- The backend has returned success for these mutations. -/
  completed : List Nat
  /-- The clients have received a successful reply for these mutations. -/
  acked : List Nat
  /-- These mutations are in the backing store below the caches. -/
  below : List Nat
  deriving DecidableEq

inductive TargetEvent where
  | connect
  | request (worker command offset length : Nat)
  | finish (worker : Nat) (success : Bool)
  | deliver (worker : Nat) (sent : Bool)
  | hangUp (worker : Nat)
  | writeBack (mutation : Nat)
  | forceFlush
  | forced (success : Bool)
  | stop
  | joined
  | runTargetFailed
  | flushed (success : Bool)

structure TargetConfig where
  frontend : Frontend
  devSize : Nat
  readOnly : Bool
  nrQueues : Nat

namespace TargetSys

/-- A ublk target starts all its queues; an NBD server starts without connections. -/
def begin (config : TargetConfig) : TargetSys :=
  ⟨.serving none, if config.frontend = .ublk then List.replicate config.nrQueues .waiting else [], 0, [], [], []⟩

def move (sys : TargetSys) (worker : Nat) (phase : WorkerPhase) : TargetSys :=
  { sys with workers := sys.workers.set worker phase }

/-- A successful flush has put every mutation that completed before its start below the caches. -/
def flushEnds (sys : TargetSys) (covered : List Nat) (success : Bool) : TargetSys :=
  if success then { sys with below := sys.below ++ covered } else sys

def call (config : TargetConfig) (command offset length : Nat) : WorkerCall :=
  match config.frontend with
  | .nbd => nbdCall config.devSize config.readOnly command offset length
  | .ublk => ublkCall command length

/-- The worker starts on a request. -/
def accept (sys : TargetSys) (worker : Nat) : WorkerCall → TargetSys
  | .read reply => sys.move worker (.reading reply)
  | .mutate reply => { sys with issued := sys.issued + 1 }.move worker (.mutating sys.issued reply)
  | .flush => sys.move worker (.flushing sys.completed false)
  | .disconnect => sys.move worker (.flushing sys.completed true)
  | .refuse code => sys.move worker (.replying code none)

/-- The backend call of a worker returns. -/
def finish (config : TargetConfig) (sys : TargetSys) (worker : Nat) (success : Bool) :
    WorkerPhase → Option TargetSys
  | .reading reply => some (sys.move worker (.replying (if success then reply else config.frontend.failure) none))
  | .mutating mutation reply =>
      if success then
        some { sys.move worker (.replying reply (some mutation)) with completed := sys.completed ++ [mutation] }
      else some (sys.move worker (.replying config.frontend.failure none))
  | .flushing covered closing =>
      let reply := if success then 0 else config.frontend.failure
      some ((sys.flushEnds covered success).move worker (if closing then .closed else .replying reply none))
  | _ => none

/-- A worker can move until the main function returns. -/
def workerAt (sys : TargetSys) (worker : Nat) : Option WorkerPhase :=
  match sys.phase with
  | .returned _ => none
  | _ => sys.workers[worker]?

/-- One step of a worker, of the caches or of the main function, where it is enabled. -/
def step (config : TargetConfig) (sys : TargetSys) : TargetEvent → Option TargetSys
  | .connect => match config.frontend, sys.phase with
    | .nbd, .serving _ => some { sys with workers := sys.workers ++ [.waiting] }
    | _, _ => none
  | .request worker command offset length => match sys.workerAt worker with
    | some .waiting => some (sys.accept worker (call config command offset length))
    | _ => none
  | .finish worker success => (sys.workerAt worker).bind (finish config sys worker success)
  | .deliver worker sent => match sys.workerAt worker with
    | some (.replying _ mutation) =>
        if sent then some { sys.move worker .waiting with acked := sys.acked ++ mutation.toList }
        else if config.frontend = .nbd then some (sys.move worker .closed) else none
    | _ => none
  | .hangUp worker => match config.frontend, sys.workerAt worker with
    | .nbd, some .waiting => some (sys.move worker .closed)
    | _, _ => none
  | .writeBack mutation => match sys.phase with
    | .returned _ => none
    | _ => if mutation ∈ sys.completed then some { sys with below := sys.below ++ [mutation] } else none
  | .forceFlush => match config.frontend, sys.phase with
    | .ublk, .serving none => some { sys with phase := .serving (some sys.completed) }
    | _, _ => none
  | .forced success => match sys.phase with
    | .serving (some covered) => some { sys.flushEnds covered success with phase := .serving none }
    | _ => none
  | .stop => match config.frontend, sys.phase with
    | .nbd, .serving none => some { sys with phase := .flushing sys.completed }
    | .ublk, .serving none => some { sys with phase := .joining }
    | _, _ => none
  | .joined => match sys.phase with
    | .joining =>
        if sys.workers.all WorkerPhase.idle then
          some { sys with phase := .flushing sys.completed, workers := sys.workers.map fun _ => .closed }
        else none
    | _ => none
  | .runTargetFailed => match sys.phase with
    | .joining => some { sys with phase := .returned false }
    | _ => none
  | .flushed success => match sys.phase with
    | .flushing covered =>
        let ended := sys.flushEnds covered success
        match config.frontend with
        | .nbd => some { ended with phase := .returned success }
        | .ublk => some { ended with phase := .returned true }
    | _ => none

end TargetSys
end UblkAzblob

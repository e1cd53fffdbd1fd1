import Mathlib.Data.List.Nodup
import UblkAzblob.Construction.UblkTarget
import UblkAzblob.Proof.NbdTarget

namespace UblkAzblob
open Storage

namespace UblkTarget

section Requests

variable {Backend : Type}

/-- What one call of the backend comes to. -/
structure Outcome (Backend : Type) where
  answer : DiskAnswer
  succeeded : Bool
  backend : Backend

/-- A call without a value. -/
def Outcome.ofUnit (outcome : Except Error Unit × Backend) : Outcome Backend :=
  ⟨if outcome.1.isOk then .done [] else .failed, outcome.1.isOk, outcome.2⟩

/-- A read has to return as many bytes as it was asked for. -/
def Outcome.ofRead (len : Nat) (outcome : Except Error (List UInt8) × Backend) : Outcome Backend :=
  ⟨if outcome.1.toOption.any fun data => data.length = len then .done (outcome.1.toOption.getD []) else .failed,
    outcome.1.isOk, outcome.2⟩

theorem Outcome.ofRead_whole {len : Nat} {data : List UInt8} (whole : data.length = len) (after : Backend) :
    Outcome.ofRead len (.ok data, after) = ⟨.done data, true, after⟩ := by
  simp [Outcome.ofRead, Except.toOption, Except.isOk, Except.toBool, whole]

theorem Outcome.ofRead_partial {len : Nat} {data : List UInt8} (broken : data.length ≠ len) (after : Backend) :
    Outcome.ofRead len (.ok data, after) = ⟨.failed, true, after⟩ := by
  simp [Outcome.ofRead, Except.toOption, Except.isOk, Except.toBool, broken]

namespace DiskRequest

/-- The call of the backend that a request stands for. -/
def call : DiskRequest → NbdTarget.BackendCall
  | .read sector count => .read (sector * 512) (count * 512)
  | .write sector data => .write (sector * 512) data
  | .flush => .flush
  | .discard sector count => .clear (sector * 512) (count * 512)
  | .writeZeroes sector count => .clear (sector * 512) (count * 512)

def perform [BlobBackend Backend] : DiskRequest → Backend → Outcome Backend
  | .read sector count, backend => .ofRead (count * 512) (BlobBackend.read (sector * 512) (count * 512) backend)
  | .write sector data, backend => .ofUnit (BlobBackend.write (sector * 512) data backend)
  | .flush, backend => .ofUnit (BlobBackend.flush backend)
  | .discard sector count, backend => .ofUnit (BlobBackend.clear (sector * 512) (count * 512) backend)
  | .writeZeroes sector count, backend => .ofUnit (BlobBackend.clear (sector * 512) (count * 512) backend)

def changes : DiskRequest → Bool
  | .read _ _ => false
  | .write _ _ => true
  | .flush => false
  | .discard _ _ => true
  | .writeZeroes _ _ => true

/-- The block layer keeps its requests inside the device, and changes no device that is read-only. -/
structure Fits (devSize : Nat) (readOnly : Bool) (request : DiskRequest) : Prop where
  inside : (request.sector + request.count) * 512 ≤ devSize
  short : request.count * 512 < 2 ^ 31
  whole : request.payload.length % 512 = 0
  allowed : readOnly = true → request.changes = false

variable {request : DiskRequest} {devSize : Nat} {readOnly : Bool}

theorem iod_operation (request : DiskRequest) (flags : Nat) :
    (request.iod flags).opFlags.toNat &&& 0xff = request.operation := by
  have small : request.operation < 256 := by
    cases request <;> dsimp only [operation] <;> decide
  have mask := Nat.and_two_pow_sub_one_eq_mod (request.iod flags).opFlags.toNat 8
  rw [show 0xff = 2 ^ 8 - 1 from rfl, mask]
  simp only [iod, UInt32.toNat_ofNat']
  omega

theorem iod_offset (fits : request.Fits devSize readOnly) (small : devSize < 2 ^ 64) (flags : Nat) :
    (request.iod flags).startSector.toNat * 512 % 2 ^ 64 = request.sector * 512 := by
  have inside := fits.inside
  simp only [iod, UInt64.toNat_ofNat']
  omega

theorem iod_length (fits : request.Fits devSize readOnly) (flags : Nat) :
    (request.iod flags).nrSectors.toNat * 512 = request.count * 512 := by
  have short := fits.short
  simp only [iod, UInt32.toNat_ofNat']
  omega

end DiskRequest

theorem bmod_small {len bound : Nat} (small : 2 * len < bound) : Int.bmod len bound = len :=
  Int.bmod_eq_of_le_mul_two (by omega) (by omega)

/-- A length below the sign bit stays as it is. -/
theorem asI32_small {len : Nat} (small : len < 2 ^ 31) : asI32 len = len := bmod_small (by omega)

end Requests

section Handler

variable {Backend : Type} {request : DiskRequest} {devSize : Nat} {readOnly : Bool}

/-- The queue after a request has come to its end. -/
def Queue.after (queue : Queue Backend) (tag : Nat) (buf : List UInt8) (call : NbdTarget.BackendCall)
    (outcome : Outcome Backend) : Queue Backend :=
  ⟨Function.update queue.bufs tag buf, outcome.backend, queue.calls ++ [(call, outcome.succeeded)]⟩

/-- The result of a call without a value tells its answer. -/
theorem answer_resultOf {success : Int} (counted : 0 ≤ success) (silent : ∀ sector count, request ≠ .read sector count)
    (outcome : Except Error Unit × Backend) (buf : List UInt8) :
    request.answer (resultOf success outcome.1) buf = (Outcome.ofUnit outcome).answer := by
  obtain ⟨result, after⟩ := outcome
  cases result with
  | error error => rfl
  | ok value =>
      unfold DiskRequest.answer
      rw [resultOf, if_neg (by omega)]
      cases request with
      | read sector count => exact absurd rfl (silent sector count)
      | _ => rfl

variable [BlobBackend Backend]

theorem readIo_perform (tag off : Nat) {len : Nat} (short : len < 2 ^ 31) (queue : Queue Backend) :
    ∃ result buf, readIo tag off len queue =
        (.ok result, queue.after tag buf (.read off len) (.ofRead len (BlobBackend.read off len queue.backend))) ∧
      ∀ sector count, (DiskRequest.read sector count).answer result buf =
        (Outcome.ofRead len (BlobBackend.read off len queue.backend)).answer := by
  have kept : Function.update queue.bufs tag (queue.bufs tag) = queue.bufs := Function.update_eq_self _ _
  unfold readIo
  cases outcome : BlobBackend.read off len queue.backend with
  | mk result after =>
      have called : blockOn (.read off len) (BlobBackend.read off len) queue =
          (.ok result, ⟨queue.bufs, after, queue.calls ++ [(.read off len, result.isOk)]⟩) := by
        rw [blockOn, outcome]
      rw [Action.bind_ok called]
      cases result with
      | error error =>
          refine ⟨-eio, queue.bufs tag, ?_, fun _ _ => rfl⟩
          rw [Queue.after, kept]
          rfl
      | ok data =>
          dsimp only
          by_cases whole : data.length = len
          · refine ⟨asI32 len, data ++ (queue.bufs tag).drop data.length, ?_, fun _ _ => ?_⟩
            · rw [if_neg (not_not_intro whole), copyToSlice, Action.bind_ok (Action.modify_apply _ _),
                Outcome.ofRead_whole whole]
              rfl
            · rw [asI32_small short, DiskRequest.answer, if_neg (by omega), Outcome.ofRead_whole whole]
              dsimp only
              rw [Int.toNat_natCast, List.take_left' whole]
          · refine ⟨-eio, queue.bufs tag, ?_, fun _ _ => ?_⟩
            · rw [if_pos whole, Queue.after, kept, Outcome.ofRead_partial whole]
              rfl
            · rw [Outcome.ofRead_partial whole]
              rfl

/-- The handler makes the call of the request, and its result tells the answer. -/
theorem ioResult_perform (fits : request.Fits devSize readOnly) (small : devSize < 2 ^ 64) (flags tag : Nat)
    {queue : Queue Backend} (filled : (queue.bufs tag).take request.payload.length = request.payload) :
    ∃ result buf, ioResult 512 tag (request.iod flags) queue =
        (.ok result, queue.after tag buf request.call (request.perform queue.backend)) ∧
      request.answer result buf = (request.perform queue.backend).answer := by
  have off := DiskRequest.iod_offset fits small flags
  have len := DiskRequest.iod_length fits flags
  have short := fits.short
  have kept : Function.update queue.bufs tag (queue.bufs tag) = queue.bufs := Function.update_eq_self _ _
  unfold ioResult
  rw [DiskRequest.iod_operation, off, len]
  cases request with
  | read sector count =>
      have operation : (DiskRequest.read sector count).operation = ublkIoOpRead := rfl
      rw [operation, if_pos rfl]
      obtain ⟨result, buf, ran, told⟩ := readIo_perform tag (sector * 512) short queue
      exact ⟨result, buf, ran, told sector count⟩
  | write sector data =>
      have whole : data.length / 512 * 512 = data.length := Nat.div_mul_cancel (Nat.dvd_of_mod_eq_zero fits.whole)
      refine ⟨_, queue.bufs tag, ?_, answer_resultOf (Int.natCast_nonneg data.length) (fun _ _ same => by cases same)
        (BlobBackend.write (sector * 512) data queue.backend) (queue.bufs tag)⟩
      have operation : (DiskRequest.write sector data).operation = ublkIoOpWrite := rfl
      rw [operation, if_neg (by decide), if_pos rfl, Queue.after, kept]
      dsimp only [DiskRequest.sector, DiskRequest.count, DiskRequest.payload] at filled ⊢
      simp only [Action.bind_apply, copyFromSlice, blockOn, whole, filled, asI32_small (whole ▸ short)]
      rfl
  | flush =>
      refine ⟨_, queue.bufs tag, ?_, answer_resultOf (Int.le_refl 0) (fun _ _ same => by cases same)
        (BlobBackend.flush queue.backend) (queue.bufs tag)⟩
      have operation : DiskRequest.flush.operation = ublkIoOpFlush := rfl
      rw [operation, if_neg (by decide), if_neg (by decide), if_pos rfl, Queue.after, kept]
      rfl
  | discard sector count =>
      refine ⟨_, queue.bufs tag, ?_, answer_resultOf (Int.le_refl 0) (fun _ _ same => by cases same)
        (BlobBackend.clear (sector * 512) (count * 512) queue.backend) (queue.bufs tag)⟩
      have operation : (DiskRequest.discard sector count).operation = ublkIoOpDiscard := rfl
      rw [operation, if_neg (by decide), if_neg (by decide), if_neg (by decide), if_pos (.inl rfl), Queue.after, kept]
      rfl
  | writeZeroes sector count =>
      refine ⟨_, queue.bufs tag, ?_, answer_resultOf (Int.le_refl 0) (fun _ _ same => by cases same)
        (BlobBackend.clear (sector * 512) (count * 512) queue.backend) (queue.bufs tag)⟩
      have operation : (DiskRequest.writeZeroes sector count).operation = ublkIoOpWriteZeroes := rfl
      rw [operation, if_neg (by decide), if_neg (by decide), if_neg (by decide), if_pos (.inr rfl), Queue.after, kept]
      rfl

end Handler

section Session

variable {Backend : Type} [BlobBackend Backend]

/-- Requests that were served one after the other. -/
structure Session (Backend : Type) where
  answers : List (Nat × DiskAnswer)
  calls : List (NbdTarget.BackendCall × Bool)
  backend : Backend

def Session.serve (session : Session Backend) (sent : Nat × DiskRequest) : Session Backend :=
  let outcome := sent.2.perform session.backend
  ⟨session.answers ++ [(sent.1, outcome.answer)], session.calls ++ [(sent.2.call, outcome.succeeded)], outcome.backend⟩

def Session.run (backend : Backend) (requests : List (Nat × DiskRequest)) : Session Backend :=
  requests.foldl Session.serve ⟨[], [], backend⟩

theorem Session.run_snoc (backend : Backend) (requests : List (Nat × DiskRequest)) (sent : Nat × DiskRequest) :
    Session.run backend (requests ++ [sent]) = (Session.run backend requests).serve sent := by
  rw [Session.run, List.foldl_append]
  rfl

/-- Every request is answered under its own number. -/
theorem Session.run_tickets (backend : Backend) (requests : List (Nat × DiskRequest)) :
    (Session.run backend requests).answers.map Prod.fst = requests.map Prod.fst := by
  induction requests using List.reverseRecOn with
  | nil => rfl
  | append_singleton requests sent inductionHypothesis =>
      rw [Session.run_snoc, Session.serve, List.map_append, List.map_append, inductionHypothesis]
      rfl

end Session

section Nbd

open NbdTarget

variable {Backend : Type} {request : DiskRequest} {devSize : Nat} {readOnly : Bool}

def DiskRequest.nbdCommand : DiskRequest → Nat
  | .read _ _ => nbdCmdRead
  | .write _ _ => nbdCmdWrite
  | .flush => nbdCmdFlush
  | .discard _ _ => nbdCmdTrim
  | .writeZeroes _ _ => nbdCmdWriteZeroes

/-- The request as an NBD client sends it, under its number. -/
def DiskRequest.nbdBytes (ticket : Nat) (request : DiskRequest) : List UInt8 :=
  requestHeader 0 (UInt16.ofNat request.nbdCommand) (UInt64.ofNat ticket) (UInt64.ofNat (request.sector * 512))
    (UInt32.ofNat (request.count * 512)) ++ request.payload

/-- The answer as an NBD server sends it. -/
def DiskAnswer.nbdReply (ticket : Nat) : DiskAnswer → List UInt8
  | .failed => replyBytes nbdEio (UInt64.ofNat ticket).toNat []
  | .done data => replyBytes 0 (UInt64.ofNat ticket).toNat data

theorem DiskRequest.Fits.writable (fits : request.Fits devSize readOnly) (changing : request.changes = true) :
    readOnly = false := by
  cases readOnly with
  | false => rfl
  | true =>
      rw [fits.allowed rfl] at changing
      cases changing

theorem DiskRequest.Fits.bounds (fits : request.Fits devSize readOnly) (small : devSize < 2 ^ 64) :
    boundsError (request.sector * 512) (request.count * 512) devSize = none := by
  have inside := fits.inside
  have offset : request.sector * 512 % 512 = 0 := Nat.mul_mod_left _ _
  have length : request.count * 512 % 512 = 0 := Nat.mul_mod_left _ _
  rw [boundsError, blockSize, offset, length, if_neg (by simp), if_pos (by omega)]

/-- The connection after a request has been answered. -/
def connAfter (rest output : List UInt8) (calls : List (BackendCall × Bool)) (ticket : Nat) (call : BackendCall)
    (outcome : Outcome Backend) : Conn Backend :=
  ⟨rest, output ++ outcome.answer.nbdReply ticket, outcome.backend, calls ++ [(call, outcome.succeeded)]⟩

theorem changeDevice_perform {offset length : Nat} (call : BackendCall) (action : Action Backend Unit) (ticket : Nat)
    (writable : readOnly = false) (inside : boundsError offset length devSize = none) (rest output : List UInt8)
    (backend : Backend) (calls : List (BackendCall × Bool)) :
    changeDevice devSize readOnly (UInt64.ofNat ticket).toNat offset length call action ⟨rest, output, backend, calls⟩ =
      (.ok none, connAfter rest output calls ticket call (.ofUnit (action backend))) := by
  subst writable
  rw [changeDevice, if_neg (by decide), inside]
  dsimp only
  rw [Action.bind_ok (callBackend_apply _ _ _)]
  cases outcome : action backend with
  | mk result after =>
      cases result with
      | ok value =>
          dsimp only
          rw [Action.bind_ok (simpleReply_apply _ _ _ _)]
          rfl
      | error error =>
          dsimp only
          rw [Action.bind_ok (simpleReply_apply _ _ _ _)]
          rfl

variable [BlobBackend Backend]

/-- A request that is sent over a connection is answered as its call tells. -/
theorem transmitRequest_perform (fits : request.Fits devSize readOnly) (small : devSize < 2 ^ 64) (ticket : Nat)
    (rest output : List UInt8) (backend : Backend) (calls : List (BackendCall × Bool)) :
    transmitRequest devSize readOnly ⟨request.nbdBytes ticket ++ rest, output, backend, calls⟩ =
      (.ok none, connAfter rest output calls ticket request.call (request.perform backend)) := by
  have bounds := fits.bounds small
  have inside := fits.inside
  have short := fits.short
  have received := receiveRequest_header output backend calls 0 (UInt16.ofNat request.nbdCommand) (UInt64.ofNat ticket)
    (UInt64.ofNat (request.sector * 512)) (UInt32.ofNat (request.count * 512)) (request.payload ++ rest)
  have command : (UInt16.ofNat request.nbdCommand).toNat = request.nbdCommand := by
    cases request <;> dsimp only [DiskRequest.nbdCommand] <;> decide
  have offset : (UInt64.ofNat (request.sector * 512)).toNat = request.sector * 512 := by
    simp only [UInt64.toNat_ofNat']
    omega
  have length : (UInt32.ofNat (request.count * 512)).toNat = request.count * 512 := by
    simp only [UInt32.toNat_ofNat']
    omega
  rw [command, offset, length] at received
  rw [DiskRequest.nbdBytes, List.append_assoc, transmitRequest, Action.bind_ok received]
  dsimp only
  cases request with
  | read sector count =>
      dsimp only [DiskRequest.sector, DiskRequest.count] at bounds ⊢
      have command : (DiskRequest.read sector count).nbdCommand = nbdCmdRead := rfl
      rw [command, dispatch, if_neg (by decide), if_pos rfl, bounds]
      dsimp only [DiskRequest.perform, DiskRequest.payload]
      rw [Action.bind_ok (callBackend_apply _ _ _)]
      cases outcome : BlobBackend.read (sector * 512) (count * 512) backend with
      | mk result after =>
          cases result with
          | ok data =>
              dsimp only
              by_cases whole : data.length = count * 512
              · rw [if_pos whole, Action.bind_ok (simpleReply_apply _ _ _ _), Outcome.ofRead_whole whole]
                rfl
              · rw [if_neg whole, Action.bind_ok (simpleReply_apply _ _ _ _), Outcome.ofRead_partial whole]
                rfl
          | error error =>
              dsimp only
              rw [Action.bind_ok (simpleReply_apply _ _ _ _)]
              rfl
  | write sector data =>
      have whole : data.length / 512 * 512 = data.length := Nat.div_mul_cancel (Nat.dvd_of_mod_eq_zero fits.whole)
      have writable : readOnly = false := fits.writable rfl
      dsimp only [DiskRequest.sector, DiskRequest.count, DiskRequest.payload] at bounds ⊢
      rw [whole] at bounds ⊢
      have command : (DiskRequest.write sector data).nbdCommand = nbdCmdWrite := rfl
      rw [command, dispatch, if_neg (by decide), if_neg (by decide), if_pos rfl, Action.bind_ok (readExact_front _ _ _ _ _ rfl)]
      exact changeDevice_perform _ _ ticket writable bounds rest output backend calls
  | flush =>
      have command : DiskRequest.flush.nbdCommand = nbdCmdFlush := rfl
      rw [command, dispatch, if_neg (by decide), if_neg (by decide), if_neg (by decide), if_pos rfl]
      rw [Action.bind_ok (callBackend_apply _ _ _)]
      dsimp only [DiskRequest.perform]
      cases outcome : BlobBackend.flush backend with
      | mk result after =>
          cases result with
          | ok value =>
              dsimp only
              rw [Action.bind_ok (simpleReply_apply _ _ _ _)]
              rfl
          | error error =>
              dsimp only
              rw [Action.bind_ok (simpleReply_apply _ _ _ _)]
              rfl
  | discard sector count =>
      have writable : readOnly = false := fits.writable rfl
      have command : (DiskRequest.discard sector count).nbdCommand = nbdCmdTrim := rfl
      rw [command, dispatch, if_neg (by decide), if_neg (by decide), if_neg (by decide), if_neg (by decide),
        if_pos (.inl rfl)]
      exact changeDevice_perform _ _ ticket writable bounds rest output backend calls
  | writeZeroes sector count =>
      have writable : readOnly = false := fits.writable rfl
      have command : (DiskRequest.writeZeroes sector count).nbdCommand = nbdCmdWriteZeroes := rfl
      rw [command, dispatch, if_neg (by decide), if_neg (by decide), if_neg (by decide), if_neg (by decide),
        if_pos (.inr rfl)]
      exact changeDevice_perform _ _ ticket writable bounds rest output backend calls

/-- Requests that are sent over a connection are answered as a session answers them. -/
theorem transmission_session (small : devSize < 2 ^ 64) (requests : List (Nat × DiskRequest))
    (fits : ∀ sent ∈ requests, sent.2.Fits devSize readOnly) (output : List UInt8) (session : Session Backend) :
    ∃ answers, (requests.foldl Session.serve session).answers = session.answers ++ answers ∧
      transmission devSize readOnly
        ⟨requests.flatMap fun sent => sent.2.nbdBytes sent.1, output, session.backend, session.calls⟩ =
        (.ok (), ⟨[], output ++ answers.flatMap fun answered => answered.2.nbdReply answered.1,
          (requests.foldl Session.serve session).backend, (requests.foldl Session.serve session).calls⟩) := by
  induction requests generalizing output session with
  | nil =>
      refine ⟨[], (List.append_nil _).symm, ?_⟩
      apply Action.repeatUntil_some
      rw [List.flatMap_nil, List.flatMap_nil, List.append_nil]
      rfl
  | cons sent requests inductionHypothesis =>
      obtain ⟨first, others⟩ := List.forall_mem_cons.mp fits
      obtain ⟨later, answered, ran⟩ := inductionHypothesis others
        (output ++ (sent.2.perform session.backend).answer.nbdReply sent.1) (session.serve sent)
      refine ⟨(sent.1, (sent.2.perform session.backend).answer) :: later, ?_, ?_⟩
      · rw [List.foldl_cons, answered, Session.serve, List.append_assoc]
        rfl
      · rw [List.foldl_cons, List.flatMap_cons, List.flatMap_cons, ← List.append_assoc, ← ran]
        exact Action.repeatUntil_none transmitRequest_shrinks
          (transmitRequest_perform first small sent.1 _ output session.backend session.calls)

end Nbd

section Device

variable {Backend : Type}

/-- The number of the request that occupies a tag. -/
def Slot.ticket : Slot → Option Nat
  | .free => none
  | .submitted ticket _ _ => some ticket
  | .completed ticket _ _ => some ticket

namespace Device

theorem submit_slots (device : Device Backend) (tag : Nat) (request : DiskRequest) (flags other : Nat) :
    (device.submit tag request flags).slots other =
      if other = tag then .submitted device.submissions request flags else device.slots other :=
  Function.update_apply _ _ _ _

theorem submit_bufs (device : Device Backend) (tag : Nat) (request : DiskRequest) (flags other : Nat) :
    (device.submit tag request flags).queue.bufs other =
      if other = tag then request.payload ++ (device.queue.bufs tag).drop request.payload.length
      else device.queue.bufs other :=
  Function.update_apply _ _ _ _

variable [BlobBackend Backend] {backend : Backend} {device next : Device Backend} {devSize : Nat} {readOnly : Bool}

/-- The queue has served its requests one after the other, and each answer is still with its tag or was collected. -/
structure Steady (devSize : Nat) (readOnly : Bool) (backend : Backend) (device : Device Backend) : Prop where
  served : device.queue.backend = (Session.run backend device.handled).backend
  made : device.queue.calls = (Session.run backend device.handled).calls
  fits : ∀ sent ∈ device.handled, sent.2.Fits devSize readOnly
  waiting : ∀ tag ticket request flags, device.slots tag = .submitted ticket request flags →
    request.Fits devSize readOnly ∧ ticket ∉ device.handled.map Prod.fst ∧
      (device.queue.bufs tag).take request.payload.length = request.payload
  answered : ∀ tag ticket request result, device.slots tag = .completed ticket request result →
    (ticket, request.answer result (device.queue.bufs tag)) ∈ (Session.run backend device.handled).answers ∧
      ticket ∉ device.collected.map Prod.fst
  told : ∀ pair ∈ device.collected, pair ∈ (Session.run backend device.handled).answers
  numbered : ∀ tag ticket, (device.slots tag).ticket = some ticket → ticket < device.submissions
  older : ∀ ticket ∈ device.handled.map Prod.fst, ticket < device.submissions
  apart : ∀ tag other ticket, (device.slots tag).ticket = some ticket → (device.slots other).ticket = some ticket →
    tag = other
  once : (device.handled.map Prod.fst).Nodup
  toldOnce : (device.collected.map Prod.fst).Nodup
  placed : ∀ ticket < device.submissions,
    (∃ tag, (device.slots tag).ticket = some ticket) ∨ ticket ∈ device.collected.map Prod.fst

theorem start_steady (bufs : Nat → List UInt8) : Steady devSize readOnly backend (start bufs backend) where
  served := rfl
  made := rfl
  fits := fun _ member => absurd member List.not_mem_nil
  waiting := fun _ _ _ _ here => by cases here
  answered := fun _ _ _ _ here => by cases here
  told := fun _ member => absurd member List.not_mem_nil
  numbered := fun _ _ here => by cases here
  older := fun _ member => absurd member List.not_mem_nil
  apart := fun _ _ _ here => by cases here
  once := List.nodup_nil
  toldOnce := List.nodup_nil
  placed := fun _ below => absurd below (Nat.not_lt_zero _)

/-- A request that is submitted gets a new number. -/
theorem Steady.submitted (steady : Steady devSize readOnly backend device) {tag : Nat} (free : device.slots tag = .free)
    {request : DiskRequest} (fits : request.Fits devSize readOnly) (flags : Nat) :
    Steady devSize readOnly backend (device.submit tag request flags) := by
  have ticket (other : Nat) : ((device.submit tag request flags).slots other).ticket =
      if other = tag then some device.submissions else (device.slots other).ticket := by
    rw [submit_slots]
    split
    · rfl
    · rfl
  constructor
  case served => exact steady.served
  case made => exact steady.made
  case fits => exact steady.fits
  case waiting =>
    intro other number asked flagged here
    rw [submit_slots] at here
    rw [submit_bufs]
    split at here
    · rename_i same
      obtain ⟨rfl, rfl, rfl⟩ := Slot.submitted.inj here
      refine ⟨fits, fun member => Nat.lt_irrefl _ (steady.older _ member), ?_⟩
      rw [if_pos same, List.take_left]
    · rename_i different
      rw [if_neg different]
      exact steady.waiting other number asked flagged here
  case answered =>
    intro other number asked result here
    rw [submit_slots] at here
    rw [submit_bufs]
    split at here
    · cases here
    · rename_i different
      rw [if_neg different]
      exact steady.answered other number asked result here
  case told => exact steady.told
  case numbered =>
    intro other number here
    rw [ticket] at here
    split at here
    · obtain rfl := Option.some.inj here
      exact Nat.lt_succ_self _
    · exact Nat.lt_succ_of_lt (steady.numbered other number here)
  case older => exact fun number member => Nat.lt_succ_of_lt (steady.older number member)
  case apart =>
    intro first second number here there
    rw [ticket] at here there
    split at here
    · rename_i same
      obtain rfl := Option.some.inj here
      split at there
      · rename_i equal
        exact same.trans equal.symm
      · exact absurd (steady.numbered second _ there) (Nat.lt_irrefl _)
    · split at there
      · obtain rfl := Option.some.inj there
        exact absurd (steady.numbered first _ here) (Nat.lt_irrefl _)
      · exact steady.apart first second number here there
  case once => exact steady.once
  case toldOnce => exact steady.toldOnce
  case placed =>
    intro number below
    by_cases new : number = device.submissions
    · refine .inl ⟨tag, ?_⟩
      rw [ticket, if_pos rfl, new]
    · rcases steady.placed number (by have : number < device.submissions + 1 := below; omega) with ⟨other, here⟩ | told
      · refine .inl ⟨other, ?_⟩
        have different : other ≠ tag := by
          rintro rfl
          rw [free] at here
          cases here
        rw [ticket, if_neg different, here]
      · exact .inr told

/-- The queue serves the request of one tag, and leaves its answer there. -/
theorem Steady.completed (steady : Steady devSize readOnly backend device) (small : devSize < 2 ^ 64)
    {tag number flags : Nat} {request : DiskRequest} (here : device.slots tag = .submitted number request flags)
    (taken : device.handle tag number request flags = some next) : Steady devSize readOnly backend next := by
  obtain ⟨fits, unserved, filled⟩ := steady.waiting tag number request flags here
  obtain ⟨result, buf, ran, told⟩ := ioResult_perform fits small flags tag filled
  rw [handle, ran] at taken
  obtain rfl := Option.some.inj taken
  have session := Session.run_snoc backend device.handled (number, request)
  have inHandled {ticket : Nat} : ticket ∈ (device.handled ++ [(number, request)]).map Prod.fst ↔
      ticket ∈ device.handled.map Prod.fst ∨ ticket = number := by simp
  have ticket (other : Nat) : (Function.update device.slots tag (Slot.completed number request result) other).ticket =
      (device.slots other).ticket := by
    rw [Function.update_apply]
    split
    · rename_i same
      rw [same, here]
      rfl
    · rfl
  constructor
  case served =>
    dsimp only [Queue.after]
    rw [session, steady.served]
    rfl
  case made =>
    dsimp only [Queue.after]
    rw [session, steady.made, steady.served]
    rfl
  case fits =>
    intro sent member
    rcases List.mem_append.mp member with before | new
    · exact steady.fits sent before
    · rw [List.mem_singleton.mp new]
      exact fits
  case waiting =>
    intro other unseen asked flagged there
    dsimp only [Queue.after] at there ⊢
    rw [Function.update_apply] at there
    split at there
    · cases there
    · rename_i different
      obtain ⟨fitting, fresh, whole⟩ := steady.waiting other unseen asked flagged there
      refine ⟨fitting, fun member => ?_, by rw [Function.update_of_ne different, whole]⟩
      rcases inHandled.mp member with before | rfl
      · exact fresh before
      · exact different (steady.apart other tag unseen (by rw [there]; rfl) (by rw [here]; rfl))
  case answered =>
    intro other unseen asked outcome there
    dsimp only [Queue.after] at there ⊢
    rw [Function.update_apply] at there
    rw [session, Session.serve]
    split at there
    · rename_i same
      obtain ⟨rfl, rfl, rfl⟩ := Slot.completed.inj there
      rw [same, Function.update_self, told, steady.served]
      refine ⟨List.mem_append_right _ List.mem_cons_self, fun member => ?_⟩
      obtain ⟨pair, inside, rfl⟩ := List.mem_map.mp member
      have served := List.mem_map_of_mem (f := Prod.fst) (steady.told pair inside)
      rw [Session.run_tickets] at served
      exact unserved served
    · rename_i different
      rw [Function.update_of_ne different]
      obtain ⟨known, uncollected⟩ := steady.answered other unseen asked outcome there
      exact ⟨List.mem_append_left _ known, uncollected⟩
  case told =>
    intro pair member
    dsimp only
    rw [session, Session.serve]
    exact List.mem_append_left _ (steady.told pair member)
  case numbered =>
    intro other unseen there
    rw [ticket] at there
    exact steady.numbered other unseen there
  case older =>
    intro unseen member
    rcases inHandled.mp member with before | rfl
    · exact steady.older unseen before
    · exact steady.numbered tag unseen (by rw [here]; rfl)
  case apart =>
    intro first second unseen
    rw [ticket, ticket]
    exact steady.apart first second unseen
  case once =>
    dsimp only
    rw [List.map_append]
    apply List.Nodup.append steady.once (List.nodup_singleton _)
    rw [List.disjoint_singleton]
    exact unserved
  case toldOnce => exact steady.toldOnce
  case placed =>
    intro unseen below
    rcases steady.placed unseen below with ⟨other, there⟩ | told
    · exact .inl ⟨other, (ticket other).trans there⟩
    · exact .inr told

/-- The driver takes an answer away, and the tag is free again. -/
theorem Steady.freed (steady : Steady devSize readOnly backend device) {tag number : Nat} {request : DiskRequest}
    {result : Int} (here : device.slots tag = .completed number request result) :
    Steady devSize readOnly backend { device with
      slots := Function.update device.slots tag .free
      collected := device.collected ++ [(number, request.answer result (device.queue.bufs tag))] } := by
  obtain ⟨known, uncollected⟩ := steady.answered tag number request result here
  have slot {other : Nat} {there : Slot} (found : Function.update device.slots tag .free other = there)
      (busy : there ≠ .free) : other ≠ tag ∧ device.slots other = there := by
    rw [Function.update_apply] at found
    split at found
    · exact absurd found.symm busy
    · rename_i different
      exact ⟨different, found⟩
  have ticket {other unseen : Nat} (found : (Function.update device.slots tag .free other).ticket = some unseen) :
      (device.slots other).ticket = some unseen := by
    rw [Function.update_apply] at found
    split at found
    · cases found
    · exact found
  constructor
  case served => exact steady.served
  case made => exact steady.made
  case fits => exact steady.fits
  case waiting =>
    intro other unseen asked flagged there
    exact steady.waiting other unseen asked flagged (slot there (by intro same; cases same)).2
  case answered =>
    intro other unseen asked outcome there
    obtain ⟨different, found⟩ := slot there (by intro same; cases same)
    obtain ⟨inside, apart⟩ := steady.answered other unseen asked outcome found
    refine ⟨inside, fun member => ?_⟩
    rw [List.map_append] at member
    rcases List.mem_append.mp member with before | new
    · exact apart before
    · obtain rfl := List.mem_singleton.mp new
      exact different (steady.apart other tag _ (by rw [found]; rfl) (by rw [here]; rfl))
  case told =>
    intro pair member
    rcases List.mem_append.mp member with before | new
    · exact steady.told pair before
    · rw [List.mem_singleton.mp new]
      exact known
  case numbered => exact fun other unseen there => steady.numbered other unseen (ticket there)
  case older => exact steady.older
  case apart => exact fun first second unseen there also =>
      steady.apart first second unseen (ticket there) (ticket also)
  case once => exact steady.once
  case toldOnce =>
    dsimp only
    rw [List.map_append]
    apply List.Nodup.append steady.toldOnce (List.nodup_singleton _)
    rw [List.disjoint_singleton]
    exact uncollected
  case placed =>
    intro unseen below
    dsimp only
    rw [List.map_append, List.mem_append]
    rcases steady.placed unseen below with ⟨other, there⟩ | told
    · by_cases same : other = tag
      · rw [same, here] at there
        obtain rfl := Option.some.inj there
        exact .inr (.inr List.mem_cons_self)
      · exact .inl ⟨other, by rw [Function.update_of_ne same, there]⟩
    · exact .inr (.inl told)

/-- Every step keeps the queue steady. -/
theorem Steady.step (steady : Steady devSize readOnly backend device) (small : devSize < 2 ^ 64) {event : DeviceEvent}
    (fits : ∀ tag request flags, event = .submit tag request flags → request.Fits devSize readOnly)
    (taken : device.step event = some next) : Steady devSize readOnly backend next := by
  cases event with
  | submit tag request flags =>
      simp only [Device.step] at taken
      split at taken
      · rename_i free
        split at taken
        · obtain rfl := Option.some.inj taken
          exact steady.submitted free (fits tag request flags rfl) flags
        · cases taken
      · cases taken
      · cases taken
  | handle tag =>
      simp only [Device.step] at taken
      split at taken
      · rename_i number request flags here
        exact steady.completed small here taken
      · cases taken
      · cases taken
  | collect tag =>
      simp only [Device.step] at taken
      split at taken
      · rename_i number request result here
        obtain rfl := Option.some.inj taken
        exact steady.freed here
      · cases taken
      · cases taken

theorem Steady.run (small : devSize < 2 ^ 64) {events : List DeviceEvent}
    (fits : ∀ tag request flags, .submit tag request flags ∈ events → request.Fits devSize readOnly)
    (steady : Steady devSize readOnly backend device) (run : execute Device.step device events = some next) :
    Steady devSize readOnly backend next := by
  induction events generalizing device with
  | nil =>
      obtain rfl := Option.some.inj run
      exact steady
  | cons event rest inductionHypothesis =>
      obtain ⟨middle, taken, remaining⟩ := Option.bind_eq_some_iff.mp run
      apply inductionHypothesis
      · exact fun tag request flags member => fits tag request flags (List.mem_cons_of_mem _ member)
      · exact steady.step small (fun tag request flags same => fits tag request flags (same ▸ List.mem_cons_self)) taken
      · exact remaining

/-- The queue handles the requests as an NBD server does that is sent them in the same order: it makes the same calls of
the backend and leaves it the same, and every request gets that server's answer, exactly once when no tag is taken. -/
theorem queue_agrees_with_nbd (small : devSize < 2 ^ 64) (readOnly : Bool) (bufs : Nat → List UInt8) (backend : Backend)
    (events : List DeviceEvent) (final : Device Backend)
    (fits : ∀ tag request flags, .submit tag request flags ∈ events → request.Fits devSize readOnly)
    (run : execute Device.step (start bufs backend) events = some final) :
    ∃ answers : List (Nat × DiskAnswer),
      answers.map Prod.fst = final.handled.map Prod.fst ∧ (final.handled.map Prod.fst).Nodup ∧
      NbdTarget.transmission devSize readOnly
        ⟨final.handled.flatMap fun sent => sent.2.nbdBytes sent.1, [], backend, []⟩ =
        (.ok (), ⟨[], answers.flatMap fun answered => answered.2.nbdReply answered.1, final.queue.backend,
          final.queue.calls⟩) ∧
      (∀ pair ∈ final.collected, pair ∈ answers) ∧ (final.collected.map Prod.fst).Nodup ∧
      ((∀ tag, final.slots tag = .free) →
        final.collected.Perm answers ∧ ∀ number < final.submissions, number ∈ final.collected.map Prod.fst) := by
  have steady := Steady.run small fits (start_steady bufs) run
  obtain ⟨answers, same, sent⟩ := transmission_session small final.handled steady.fits [] ⟨[], [], backend⟩
  rw [List.nil_append] at same sent
  have tickets := Session.run_tickets backend final.handled
  rw [Session.run, same] at tickets
  have told : ∀ pair ∈ final.collected, pair ∈ answers := by
    intro pair member
    rw [← same]
    exact steady.told pair member
  have once : (answers.map Prod.fst).Nodup := tickets ▸ steady.once
  refine ⟨answers, tickets, steady.once, ?_, told, steady.toldOnce, fun idle => ?_⟩
  · rw [sent, steady.served, steady.made]
    rfl
  · have everyone : ∀ number < final.submissions, number ∈ final.collected.map Prod.fst := by
      intro number below
      rcases steady.placed number below with ⟨tag, here⟩ | collected
      · rw [idle tag] at here
        cases here
      · exact collected
    refine ⟨?_, everyone⟩
    rw [List.perm_ext_iff_of_nodup (List.Nodup.of_map _ steady.toldOnce) (List.Nodup.of_map _ once)]
    intro pair
    constructor
    · exact told pair
    · intro member
      have handled := List.mem_map_of_mem (f := Prod.fst) member
      rw [tickets] at handled
      obtain ⟨other, inside, number⟩ := List.mem_map.mp (everyone pair.1 (steady.older pair.1 handled))
      rw [← List.inj_on_of_nodup_map once (told other inside) member number]
      exact inside

/-- A read is submitted before a write of the same sector, and handled after it. -/
def crossing : List DeviceEvent :=
  [.submit 0 (.read 0 1) 0, .submit 1 (.write 0 (List.replicate 512 7)) 3, .handle 1, .handle 0, .collect 0, .collect 1]

theorem crossing_fits {tag : Nat} {request : DiskRequest} {flags : Nat}
    (member : DeviceEvent.submit tag request flags ∈ crossing) : request.Fits 512 false := by
  rcases List.mem_cons.mp member with same | later
  · obtain ⟨_, rfl, _⟩ := DeviceEvent.submit.inj same
    exact ⟨by decide, by decide, by decide, fun same => by cases same⟩
  · rcases List.mem_cons.mp later with same | rest
    · obtain ⟨_, rfl, _⟩ := DeviceEvent.submit.inj same
      exact ⟨by decide +kernel, by decide +kernel, by decide +kernel, fun same => by cases same⟩
    · simp at rest

/-- The NBD server is sent the write first, and both answers are its own. -/
theorem queue_agrees_with_nbd_crossing :
    ∃ (final : Device MemBackend) (answers : List (Nat × DiskAnswer)), execute Device.step
        (start (fun _ => List.replicate 512 0) (⟨512, fun _ => 0⟩ : MemBackend)) crossing = some final ∧
      final.handled.map Prod.fst = [1, 0] ∧ final.collected.map Prod.fst = [0, 1] ∧
      NbdTarget.transmission 512 false
        ⟨final.handled.flatMap fun sent => sent.2.nbdBytes sent.1, [], (⟨512, fun _ => 0⟩ : MemBackend), []⟩ =
        (.ok (), ⟨[], answers.flatMap fun answered => answered.2.nbdReply answered.1, final.queue.backend,
          final.queue.calls⟩) ∧ ∀ pair ∈ final.collected, pair ∈ answers := by
  have lived : ((execute Device.step (start (fun _ => List.replicate 512 0) (⟨512, fun _ => 0⟩ : MemBackend))
      crossing).any fun final => final.handled.map Prod.fst = [1, 0] && final.collected.map Prod.fst = [0, 1]) =
        true := by decide +kernel
  obtain ⟨final, run, both⟩ := (Option.any_eq_true _ _).mp lived
  obtain ⟨order, collected⟩ := Bool.and_eq_true_iff.mp both
  obtain ⟨answers, _, _, sent, told, _⟩ := queue_agrees_with_nbd (show 512 < 2 ^ 64 by decide) false
    (fun _ => List.replicate 512 0) (⟨512, fun _ => 0⟩ : MemBackend) crossing final (fun _ _ _ => crossing_fits) run
  exact ⟨final, answers, run, of_decide_eq_true order, of_decide_eq_true collected, sent, told⟩

end Device
end Device
end UblkTarget
end UblkAzblob

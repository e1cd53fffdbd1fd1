import UblkAzblob.Construction.NbdTarget
import UblkAzblob.Proof.MemBackend

namespace UblkAzblob
open Storage

/-- A flat array whose calls may fail, but then have no effect. -/
class FlatArray (Backend : Type) [BlobBackend Backend] extends FlatStore Backend where
  write_fails : ∀ (backend : Backend) offset bytes error,
    (BlobBackend.write offset bytes backend).1 = .error error →
    content (BlobBackend.write offset bytes backend).2 = content backend
  clear_size : ∀ (backend : Backend) offset len,
    size (BlobBackend.clear offset len backend).2 = size backend
  clear_ok : ∀ (backend : Backend) offset len, (BlobBackend.clear offset len backend).1 = .ok () →
    content (BlobBackend.clear offset len backend).2 = zeroed (content backend) offset len
  clear_fails : ∀ (backend : Backend) offset len error,
    (BlobBackend.clear offset len backend).1 = .error error →
    content (BlobBackend.clear offset len backend).2 = content backend

namespace NbdTarget

section Messages

/-- An option as a client sends it. -/
structure ClientOption where
  opt : UInt32
  data : List UInt8
  fits : data.length < 2 ^ 32

def ClientOption.encode (option : ClientOption) : List UInt8 :=
  toBeBytes 8 iHaveOpt ++ toBeBytes 4 option.opt.toNat ++ toBeBytes 4 option.data.length ++ option.data

/-- A request as a client sends it; only a write has a payload. -/
structure ClientRequest where
  flags : UInt16
  cmd : UInt16
  handle : UInt64
  offset : UInt64
  length : UInt32
  payload : List UInt8
  fits : payload.length = if cmd.toNat = nbdCmdWrite then length.toNat else 0

def requestHeader (flags cmd : UInt16) (handle offset : UInt64) (length : UInt32) : List UInt8 :=
  toBeBytes 4 nbdRequestMagic ++ toBeBytes 2 flags.toNat ++ toBeBytes 2 cmd.toNat ++
    toBeBytes 8 handle.toNat ++ toBeBytes 8 offset.toNat ++ toBeBytes 4 length.toNat

def ClientRequest.encode (request : ClientRequest) : List UInt8 :=
  requestHeader request.flags request.cmd request.handle request.offset request.length ++ request.payload

/-- The requests of a stream end with a disconnect, or where no complete request follows. -/
inductive TransmissionEnd where
  | incomplete (rest : List UInt8) (broken : ∀ request : ClientRequest, ¬ request.encode <+: rest)
  | disconnect (request : ClientRequest) (disc : request.cmd.toNat = nbdCmdDisc) (rest : List UInt8)

def TransmissionEnd.bytes : TransmissionEnd → List UInt8
  | .incomplete rest _ => rest
  | .disconnect request _ rest => request.encode ++ rest

structure Requests where
  requests : List ClientRequest
  connected : ∀ request ∈ requests, request.cmd.toNat ≠ nbdCmdDisc
  ending : TransmissionEnd

def Requests.bytes (sent : Requests) : List UInt8 :=
  sent.requests.flatMap ClientRequest.encode ++ sent.ending.bytes

/-- The haggling goes on after these options. -/
def ClientOption.haggles (option : ClientOption) : Prop :=
  option.opt.toNat ≠ nbdOptExportName ∧ option.opt.toNat ≠ nbdOptGo ∧ option.opt.toNat ≠ nbdOptAbort

/-- The options of a stream end with an abort, with the choice of the export, or where none follows. -/
inductive HaggleEnd where
  | incomplete (rest : List UInt8) (broken : ∀ option : ClientOption, ¬ option.encode <+: rest)
  | abort (option : ClientOption) (aborts : option.opt.toNat = nbdOptAbort) (rest : List UInt8)
  | select (option : ClientOption)
      (selects : option.opt.toNat = nbdOptExportName ∨ option.opt.toNat = nbdOptGo) (sent : Requests)

def HaggleEnd.bytes : HaggleEnd → List UInt8
  | .incomplete rest _ => rest
  | .abort option _ rest => option.encode ++ rest
  | .select option _ sent => option.encode ++ sent.bytes

/-- What a client sends: its flags, its options and its requests, cut off anywhere. -/
inductive ClientStream where
  | silent (rest : List UInt8) (short : rest.length < 4)
  | greets (flags : UInt32) (options : List ClientOption) (haggling : ∀ option ∈ options, option.haggles)
      (ending : HaggleEnd)

def ClientStream.bytes : ClientStream → List UInt8
  | .silent rest _ => rest
  | .greets flags options _ ending =>
      toBeBytes 4 flags.toNat ++ options.flatMap ClientOption.encode ++ ending.bytes

end Messages

section Reference

/-- The reply header carries the error and the handle of the request. -/
def replyBytes (error handle : Nat) (data : List UInt8) : List UInt8 :=
  toBeBytes 4 nbdSimpleReplyMagic ++ toBeBytes 4 error ++ toBeBytes 8 handle ++ data

/-- The reference disk is a flat array, and it is told which calls of the backend succeed. -/
structure Reference where
  array : Store
  outcomes : List Bool

def BackendCall.result (call : BackendCall) (array : Store) : List UInt8 :=
  match call with
  | .read offset length => slice array offset length
  | _ => []

def BackendCall.update (call : BackendCall) (array : Store) : Store :=
  match call with
  | .write offset payload => splice array offset payload
  | .clear offset length => zeroed array offset length
  | _ => array

/-- What a command asks of the disk. -/
def ClientRequest.operation (request : ClientRequest) : Option BackendCall :=
  if request.cmd.toNat = nbdCmdRead then some (.read request.offset.toNat request.length.toNat)
  else if request.cmd.toNat = nbdCmdWrite then some (.write request.offset.toNat request.payload)
  else if request.cmd.toNat = nbdCmdTrim ∨ request.cmd.toNat = nbdCmdWriteZeroes then
    some (.clear request.offset.toNat request.length.toNat)
  else if request.cmd.toNat = nbdCmdFlush then some .flush
  else none

/-- A read-only export allows only reads and flushes. -/
def BackendCall.allowed (readOnly : Bool) : BackendCall → Bool
  | .read _ _ => true
  | .flush => true
  | _ => !readOnly

def ClientRequest.aligned (request : ClientRequest) : Prop :=
  request.offset.toNat % 512 = 0 ∧ request.length.toNat % 512 = 0

def ClientRequest.inside (devSize : Nat) (request : ClientRequest) : Prop :=
  request.offset.toNat + request.length.toNat ≤ devSize

instance (request : ClientRequest) : Decidable request.aligned :=
  inferInstanceAs (Decidable (_ ∧ _))

instance (devSize : Nat) (request : ClientRequest) : Decidable (request.inside devSize) :=
  inferInstanceAs (Decidable (_ ≤ _))

/-- A request is refused with an error, or passed on to the disk. -/
def ClientRequest.verdict (readOnly : Bool) (devSize : Nat) (request : ClientRequest) :
    Except Nat BackendCall :=
  match request.operation with
  | none => .error nbdEinval
  | some .flush => .ok .flush
  | some call =>
      if ¬ call.allowed readOnly then .error nbdEperm
      else if ¬ request.aligned then .error nbdEinval
      else if ¬ request.inside devSize then .error nbdEnospc
      else .ok call

/-- Every request has one reply, and only a call that succeeds returns data or changes the array. -/
def Reference.answer (readOnly : Bool) (devSize : Nat) (reference : Reference) (request : ClientRequest) :
    List UInt8 × Reference :=
  match request.verdict readOnly devSize with
  | .error code => (replyBytes code request.handle.toNat [], reference)
  | .ok call =>
      if reference.outcomes.headD false then
        (replyBytes 0 request.handle.toNat (call.result reference.array),
          ⟨call.update reference.array, reference.outcomes.tail⟩)
      else (replyBytes nbdEio request.handle.toNat [], ⟨reference.array, reference.outcomes.tail⟩)

def Reference.serve (readOnly : Bool) (devSize : Nat) : List ClientRequest → Reference →
    List UInt8 × Reference
  | [], reference => ([], reference)
  | request :: rest, reference =>
      let answered := reference.answer readOnly devSize request
      let later := Reference.serve readOnly devSize rest answered.2
      (answered.1 ++ later.1, later.2)

def ClientRequest.calls (readOnly : Bool) (devSize : Nat) (request : ClientRequest) : List BackendCall :=
  match request.verdict readOnly devSize with
  | .error _ => []
  | .ok call => [call]

/-- A disconnect flushes, and a stream that breaks off does not. -/
def TransmissionEnd.calls : TransmissionEnd → List BackendCall
  | .incomplete _ _ => []
  | .disconnect _ _ _ => [.flush]

def optReplyBytes (opt repType : Nat) (data : List UInt8) : List UInt8 :=
  toBeBytes 8 nbdRepMagic ++ toBeBytes 4 opt ++ toBeBytes 4 repType ++ toBeBytes 4 data.length ++ data

/-- The export has flags, is flushed, trimmed and zeroed, and may be read-only. -/
def exportFlags (readOnly : Bool) : Nat :=
  let able := 2 ^ 0 + 2 ^ 2 + 2 ^ 5 + 2 ^ 6
  if readOnly then able + 2 ^ 1 else able

theorem transmissionFlags_eq (readOnly : Bool) : transmissionFlags readOnly = exportFlags readOnly := by
  cases readOnly <;> rfl

def exportBytes (opt devSize : Nat) (readOnly : Bool) : List UInt8 :=
  optReplyBytes opt nbdRepInfo
      (toBeBytes 2 nbdInfoExport ++ toBeBytes 8 devSize ++ toBeBytes 2 (exportFlags readOnly)) ++
    optReplyBytes opt nbdRepInfo (toBeBytes 2 nbdInfoBlockSize ++ toBeBytes 4 512 ++ toBeBytes 4 4096 ++
      toBeBytes 4 33554432)

/-- The reference answer of an option. -/
def ClientOption.answer (devSize : Nat) (noZeroes readOnly : Bool) (option : ClientOption) : List UInt8 :=
  let opt := option.opt.toNat
  if opt = nbdOptExportName then
    toBeBytes 8 devSize ++ toBeBytes 2 (exportFlags readOnly) ++
      if noZeroes then [] else List.replicate 124 0
  else if opt = nbdOptInfo ∨ opt = nbdOptGo then
    exportBytes opt devSize readOnly ++ optReplyBytes opt nbdRepAck []
  else if opt = nbdOptList then
    optReplyBytes opt nbdRepServer (toBeBytes 4 exportName.length ++ exportName) ++
      optReplyBytes opt nbdRepAck []
  else if opt = nbdOptAbort then optReplyBytes opt nbdRepAck []
  else optReplyBytes opt nbdRepErrUnsup []

def HaggleEnd.serve (readOnly noZeroes : Bool) (devSize : Nat) (ending : HaggleEnd) (reference : Reference) :
    List UInt8 × Reference :=
  match ending with
  | .incomplete _ _ => ([], reference)
  | .abort option _ _ => (option.answer devSize noZeroes readOnly, reference)
  | .select option _ sent =>
      let served := Reference.serve readOnly devSize sent.requests reference
      (option.answer devSize noZeroes readOnly ++ served.1, served.2)

def HaggleEnd.calls (readOnly : Bool) (devSize : Nat) : HaggleEnd → List BackendCall
  | .select _ _ sent => sent.requests.flatMap (ClientRequest.calls readOnly devSize) ++ sent.ending.calls
  | _ => []

def greeting : List UInt8 :=
  toBeBytes 8 nbdMagic ++ toBeBytes 8 iHaveOpt ++ toBeBytes 2 (nbdFlagFixedNewstyle ||| nbdFlagNoZeroes)

/-- The reference server sends these bytes and leaves this array. -/
def ClientStream.serve (readOnly : Bool) (devSize : Nat) (client : ClientStream) (reference : Reference) :
    List UInt8 × Reference :=
  match client with
  | .silent _ _ => (greeting, reference)
  | .greets flags options _ ending =>
      let noZeroes : Bool := flags.toNat &&& nbdFlagCNoZeroes ≠ 0
      let served := ending.serve readOnly noZeroes devSize reference
      (greeting ++ options.flatMap (ClientOption.answer devSize noZeroes readOnly) ++ served.1, served.2)

/-- The reference server makes these calls of the backend. -/
def ClientStream.calls (readOnly : Bool) (devSize : Nat) : ClientStream → List BackendCall
  | .silent _ _ => []
  | .greets _ _ _ ending => ending.calls readOnly devSize

end Reference

variable {Backend : Type}

section Recording

variable [BlobBackend Backend]

/-- Whether the backend completes the call, and what it leaves behind. -/
def BackendCall.carryOut (call : BackendCall) (backend : Backend) : Bool × Backend :=
  match call with
  | .read offset length =>
      let outcome := BlobBackend.read offset length backend
      (outcome.1.isOk, outcome.2)
  | .write offset payload =>
      let outcome := BlobBackend.write offset payload backend
      (outcome.1.isOk, outcome.2)
  | .clear offset length =>
      let outcome := BlobBackend.clear offset length backend
      (outcome.1.isOk, outcome.2)
  | .flush =>
      let outcome := BlobBackend.flush backend
      (outcome.1.isOk, outcome.2)

/-- The calls are carried out one after the other, and each is recorded with the backend's own answer. -/
inductive Recorded : Backend → List (BackendCall × Bool) → Backend → Prop where
  | nil (backend : Backend) : Recorded backend [] backend
  | cons {before middle after : Backend} {call : BackendCall} {succeeded : Bool} {rest : List (BackendCall × Bool)}
      (head : call.carryOut before = (succeeded, middle)) (tail : Recorded middle rest after) :
      Recorded before ((call, succeeded) :: rest) after

theorem Recorded.append {before middle after : Backend} {calls more : List (BackendCall × Bool)}
    (head : Recorded before calls middle) (tail : Recorded middle more after) :
    Recorded before (calls ++ more) after := by
  induction head with
  | nil backend => exact tail
  | cons first _ ih => exact .cons first (ih tail)

end Recording

section Consuming

/-- The action changes only the input, and what it has read spells the value that it returns. -/
def Consumes {Value : Type} (Spells : Value → List UInt8 → Prop) (action : Action (Conn Backend) Value) : Prop :=
  ∀ conn, match action conn with
    | (.ok value, after) => ∃ front, Spells value front ∧ conn.input = front ++ after.input ∧
        after = { conn with input := after.input }
    | (.error _, after) => after = { conn with input := after.input }

variable {Value Other : Type} {Spells : Value → List UInt8 → Prop} {Goal : Other → List UInt8 → Prop}

theorem consumes_pure {value : Value} (spelled : Spells value []) :
    Consumes Spells (pure value : Action (Conn Backend) Value) :=
  fun _ => ⟨[], spelled, rfl, rfl⟩

theorem consumes_bind {first : Action (Conn Backend) Value} {next : Value → Action (Conn Backend) Other}
    (head : Consumes Spells first)
    (tail : ∀ value front, Spells value front → Consumes (fun other rest => Goal other (front ++ rest)) (next value)) :
    Consumes Goal (first >>= next) := by
  intro conn
  have read := head conn
  rw [Action.bind_apply]
  cases outcome : first conn with
  | mk result middle =>
      rw [outcome] at read
      cases result with
      | error error => exact read
      | ok value =>
          obtain ⟨front, spelled, split, same⟩ := read
          have rest := tail value front spelled middle
          dsimp only
          cases later : next value middle with
          | mk result after =>
              rw [later] at rest
              cases result with
              | error error => exact rest.trans (by rw [same])
              | ok other =>
                  obtain ⟨back, reached, remaining, unchanged⟩ := rest
                  refine ⟨front ++ back, reached, ?_, unchanged.trans (by rw [same])⟩
                  rw [split, remaining, List.append_assoc]

theorem ensure_consumes (condition : Prop) [Decidable condition] (error : Error) :
    Consumes (fun _ front => condition ∧ front = [])
      (Action.ensure condition error : Action (Conn Backend) Unit) := by
  intro conn
  rw [Action.ensure_apply]
  by_cases holds : condition
  · rw [if_pos holds]
    exact ⟨[], ⟨holds, rfl⟩, rfl, rfl⟩
  · rw [if_neg holds]

theorem readExact_consumes (context : String) (count : Nat) :
    Consumes (fun bytes front => front = bytes ∧ bytes.length = count)
      (readExact context count : Action (Conn Backend) (List UInt8)) := by
  intro conn
  rw [readExact]
  by_cases enough : count ≤ conn.input.length
  · rw [if_pos enough]
    refine ⟨_, ⟨rfl, ?_⟩, (List.take_append_drop count conn.input).symm, rfl⟩
    rw [List.length_take]
    omega
  · rw [if_neg enough]

theorem readUint_consumes (context : String) (width : Nat) :
    Consumes (fun value front => value < 256 ^ width ∧ front = toBeBytes width value)
      (readUint context width : Action (Conn Backend) Nat) := by
  refine consumes_bind (readExact_consumes context width) fun bytes front spelled => ?_
  obtain ⟨rfl, length⟩ := spelled
  refine consumes_pure ⟨?_, ?_⟩
  · rw [← length]
    exact fromBeBytes_lt _
  · rw [List.append_nil, ← length, toBeBytes_fromBeBytes]

/-- A received option is the encoding that a client would send. -/
theorem receiveOption_consumes :
    Consumes (fun value front => ∃ option : ClientOption,
      value = (option.opt.toNat, option.data) ∧ front = option.encode)
      (receiveOption : Action (Conn Backend) (Nat × List UInt8)) := by
  unfold receiveOption
  refine consumes_bind (readUint_consumes _ _) fun magic first ⟨_, firstEq⟩ => ?_
  refine consumes_bind (ensure_consumes _ _) fun _ none ⟨magical, noneEq⟩ => ?_
  refine consumes_bind (readUint_consumes _ _) fun opt second ⟨optFits, secondEq⟩ => ?_
  refine consumes_bind (readUint_consumes _ _) fun len third ⟨lenFits, thirdEq⟩ => ?_
  refine consumes_bind (readExact_consumes _ _) fun data fourth ⟨fourthEq, length⟩ => ?_
  subst firstEq magical noneEq secondEq thirdEq fourthEq
  have optNat : (UInt32.ofNat opt).toNat = opt := by
    rw [UInt32.toNat_ofNat']
    exact Nat.mod_eq_of_lt optFits
  refine consumes_pure ⟨⟨UInt32.ofNat opt, fourth, by rw [length]; exact lenFits⟩, ?_, ?_⟩
  · rw [optNat]
  · simp [ClientOption.encode, optNat, length]

theorem readRequestMagic_consumes :
    Consumes (fun value front => match value with
      | none => front.length < 4
      | some magic => magic < 256 ^ 4 ∧ front = toBeBytes 4 magic)
      (readRequestMagic : Action (Conn Backend) (Option Nat)) := by
  intro conn
  rw [readRequestMagic]
  by_cases enough : 4 ≤ conn.input.length
  · rw [if_pos enough]
    have width : (conn.input.take 4).length = 4 := by
      rw [List.length_take]
      omega
    refine ⟨conn.input.take 4, ⟨?_, ?_⟩, (List.take_append_drop 4 conn.input).symm, rfl⟩
    · have small := fromBeBytes_lt (conn.input.take 4)
      rw [width] at small
      exact small
    · have spelled := toBeBytes_fromBeBytes (conn.input.take 4)
      rw [width] at spelled
      exact spelled.symm
  · rw [if_neg enough]
    exact ⟨conn.input, Nat.lt_of_not_le enough, (List.append_nil _).symm, rfl⟩

/-- A received header is the encoding that a client would send. -/
theorem receiveRequest_consumes :
    Consumes (fun value front => match value with
      | none => front.length < 4
      | some header => ∃ flags cmd handle offset length,
          header = ⟨cmd.toNat, handle.toNat, offset.toNat, length.toNat⟩ ∧
          front = requestHeader flags cmd handle offset length)
      (receiveRequest : Action (Conn Backend) (Option RequestHeader)) := by
  unfold receiveRequest
  refine consumes_bind readRequestMagic_consumes fun start zeroth spelled => ?_
  cases start with
  | none =>
      refine consumes_pure ?_
      rw [List.append_nil]
      exact spelled
  | some magic =>
      obtain ⟨_, magicEq⟩ := spelled
      refine consumes_bind (ensure_consumes _ _) fun _ none ⟨magical, noneEq⟩ => ?_
      refine consumes_bind (readUint_consumes _ _) fun flags first ⟨flagsFit, firstEq⟩ => ?_
      refine consumes_bind (readUint_consumes _ _) fun cmd second ⟨cmdFits, secondEq⟩ => ?_
      refine consumes_bind (readUint_consumes _ _) fun handle third ⟨handleFits, thirdEq⟩ => ?_
      refine consumes_bind (readUint_consumes _ _) fun offset fourth ⟨offsetFits, fourthEq⟩ => ?_
      refine consumes_bind (readUint_consumes _ _) fun length fifth ⟨lengthFits, fifthEq⟩ => ?_
      subst magicEq magical noneEq firstEq secondEq thirdEq fourthEq fifthEq
      have flagsNat : (UInt16.ofNat flags).toNat = flags := Nat.mod_eq_of_lt flagsFit
      have cmdNat : (UInt16.ofNat cmd).toNat = cmd := Nat.mod_eq_of_lt cmdFits
      have handleNat : (UInt64.ofNat handle).toNat = handle := Nat.mod_eq_of_lt handleFits
      have offsetNat : (UInt64.ofNat offset).toNat = offset := Nat.mod_eq_of_lt offsetFits
      have lengthNat : (UInt32.ofNat length).toNat = length := Nat.mod_eq_of_lt lengthFits
      refine consumes_pure ⟨UInt16.ofNat flags, UInt16.ofNat cmd, UInt64.ofNat handle, UInt64.ofNat offset,
        UInt32.ofNat length, ?_, ?_⟩
      · rw [cmdNat, handleNat, offsetNat, lengthNat]
      · simp [requestHeader, flagsNat, cmdNat, handleNat, offsetNat, lengthNat]

end Consuming

section Receiving

variable (output : List UInt8) (backend : Backend) (calls : List (BackendCall × Bool))

@[simp] theorem readExact_front (context : String) {count : Nat} {front : List UInt8} (rest : List UInt8)
    (width : front.length = count) :
    readExact context count ⟨front ++ rest, output, backend, calls⟩ =
      (.ok front, ⟨rest, output, backend, calls⟩) := by
  subst width
  simp [readExact]

@[simp] theorem readUint_front (context : String) {width value : Nat} (rest : List UInt8)
    (fits : value < 256 ^ width) :
    readUint context width ⟨toBeBytes width value ++ rest, output, backend, calls⟩ =
      (.ok value, ⟨rest, output, backend, calls⟩) := by
  simp [readUint, fromBeBytes_toBeBytes fits]

/-- An option that a client sends is received. -/
theorem receiveOption_encode (option : ClientOption) (rest : List UInt8) :
    receiveOption ⟨option.encode ++ rest, output, backend, calls⟩ =
      (.ok (option.opt.toNat, option.data), ⟨rest, output, backend, calls⟩) := by
  have optFits : option.opt.toNat < 256 ^ 4 := option.opt.toNat_lt
  have lenFits : option.data.length < 256 ^ 4 := option.fits
  have magicFits : iHaveOpt < 256 ^ 8 := by decide
  simp only [receiveOption, ClientOption.encode, List.append_assoc, Action.bind_apply,
    readUint_front _ _ _ _ _ magicFits, readUint_front _ _ _ _ _ optFits, readUint_front _ _ _ _ _ lenFits,
    Action.ensure_apply, if_true, readExact_front _ _ _ _ _ rfl]
  rfl

/-- A header that a client sends is received. -/
theorem receiveRequest_header (flags cmd : UInt16) (handle offset : UInt64) (length : UInt32)
    (rest : List UInt8) :
    receiveRequest ⟨requestHeader flags cmd handle offset length ++ rest, output, backend, calls⟩ =
      (.ok (some ⟨cmd.toNat, handle.toNat, offset.toNat, length.toNat⟩), ⟨rest, output, backend, calls⟩) := by
  have flagsFit : flags.toNat < 256 ^ 2 := flags.toNat_lt
  have cmdFits : cmd.toNat < 256 ^ 2 := cmd.toNat_lt
  have handleFits : handle.toNat < 256 ^ 8 := handle.toNat_lt
  have offsetFits : offset.toNat < 256 ^ 8 := offset.toNat_lt
  have lengthFits : length.toNat < 256 ^ 4 := length.toNat_lt
  have magic (bytes : List UInt8) :
      readRequestMagic ⟨toBeBytes 4 nbdRequestMagic ++ bytes, output, backend, calls⟩ =
        (.ok (some nbdRequestMagic), ⟨bytes, output, backend, calls⟩) := by
    have width : (toBeBytes 4 nbdRequestMagic).length = 4 := length_toBeBytes _ _
    rw [readRequestMagic, if_pos (by simp)]
    dsimp only
    rw [List.take_left' width, List.drop_left' width, fromBeBytes_toBeBytes (by decide)]
  simp only [receiveRequest, requestHeader, List.append_assoc, Action.bind_apply, magic, Action.ensure_apply,
    if_true, readUint_front _ _ _ _ _ flagsFit, readUint_front _ _ _ _ _ cmdFits,
    readUint_front _ _ _ _ _ handleFits, readUint_front _ _ _ _ _ offsetFits,
    readUint_front _ _ _ _ _ lengthFits]
  rfl

end Receiving

section Haggling

variable {devSize : Nat} {noZeroes readOnly : Bool}

theorem writeAll_apply (bytes : List UInt8) (conn : Conn Backend) :
    writeAll bytes conn = (.ok (), { conn with output := conn.output ++ bytes }) := by
  rw [writeAll, Action.modify_apply]

theorem writeUint_apply (width value : Nat) (conn : Conn Backend) :
    writeUint width value conn = (.ok (), { conn with output := conn.output ++ toBeBytes width value }) := by
  rw [writeUint, writeAll_apply]

theorem sendOptReply_apply (opt repType : Nat) (data : List UInt8) (conn : Conn Backend) :
    sendOptReply opt repType data conn =
      (.ok (), { conn with output := conn.output ++ optReplyBytes opt repType data }) := by
  rw [sendOptReply, Action.bind_ok (writeUint_apply _ _ _), Action.bind_ok (writeUint_apply _ _ _),
    Action.bind_ok (writeUint_apply _ _ _), Action.bind_ok (writeUint_apply _ _ _)]
  cases data with
  | nil => simp [optReplyBytes]
  | cons first rest => simp [optReplyBytes, writeAll_apply]

theorem sendExportInfo_apply (opt : Nat) (conn : Conn Backend) :
    sendExportInfo opt devSize readOnly conn =
      (.ok (), { conn with output := conn.output ++ exportBytes opt devSize readOnly }) := by
  rw [sendExportInfo, Action.bind_ok (sendOptReply_apply _ _ _ _), sendOptReply_apply, exportBytes,
    transmissionFlags_eq, ← List.append_assoc conn.output]
  rfl

/-- What an option decides: the export is selected, the haggling is aborted, or neither. -/
def ClientOption.decision (option : ClientOption) : Option Bool :=
  if option.opt.toNat = nbdOptExportName ∨ option.opt.toNat = nbdOptGo then some true
  else if option.opt.toNat = nbdOptAbort then some false
  else none

/-- The server sends the reference answer of an option. -/
theorem answerOption_apply (option : ClientOption) (conn : Conn Backend) :
    answerOption devSize noZeroes readOnly option.opt.toNat conn =
      (.ok option.decision, { conn with output := conn.output ++ option.answer devSize noZeroes readOnly }) := by
  unfold answerOption ClientOption.answer ClientOption.decision
  dsimp only
  rw [transmissionFlags_eq]
  by_cases exported : option.opt.toNat = nbdOptExportName
  · have selects : option.opt.toNat = nbdOptExportName ∨ option.opt.toNat = nbdOptGo := .inl exported
    rw [if_pos exported, if_pos exported, if_pos selects, Action.bind_ok (writeUint_apply _ _ _),
      Action.bind_ok (writeUint_apply _ _ _)]
    cases noZeroes with
    | true => simp
    | false => simp [writeAll_apply]
  · rw [if_neg exported, if_neg exported]
    by_cases named : option.opt.toNat = nbdOptInfo ∨ option.opt.toNat = nbdOptGo
    · rw [if_pos named, if_pos named, Action.bind_ok (sendExportInfo_apply _ _),
        Action.bind_ok (sendOptReply_apply _ _ _ _), List.append_assoc]
      rcases named with informs | goes
      · simp [informs, nbdOptInfo, nbdOptGo, nbdOptAbort, nbdOptExportName]
      · simp [goes]
    · rw [if_neg named, if_neg named]
      rw [not_or] at named
      rw [if_neg (not_or.mpr ⟨exported, named.2⟩)]
      by_cases listed : option.opt.toNat = nbdOptList
      · rw [if_pos listed, if_pos listed, Action.bind_ok (sendOptReply_apply _ _ _ _),
          Action.bind_ok (sendOptReply_apply _ _ _ _), List.append_assoc, listed, if_neg (by decide)]
        rfl
      · rw [if_neg listed, if_neg listed]
        by_cases aborts : option.opt.toNat = nbdOptAbort
        · rw [if_pos aborts, if_pos aborts, if_pos aborts, Action.bind_ok (sendOptReply_apply _ _ _ _)]
          rfl
        · rw [if_neg aborts, if_neg aborts, if_neg aborts, Action.bind_ok (sendOptReply_apply _ _ _ _)]
          rfl

theorem length_encode_option (option : ClientOption) : 0 < option.encode.length := by
  simp only [ClientOption.encode, List.length_append, length_toBeBytes]
  omega

/-- A round of the haggling takes an option off the stream. -/
theorem negotiateOption_shrinks (before after : Conn Backend)
    (round : negotiateOption devSize noZeroes readOnly before = (.ok none, after)) :
    after.input.length < before.input.length := by
  have received := receiveOption_consumes before
  rw [negotiateOption, Action.bind_apply] at round
  cases outcome : receiveOption before with
  | mk result middle =>
      rw [outcome] at received round
      cases result with
      | error error => cases round
      | ok value =>
          obtain ⟨front, ⟨option, rfl, rfl⟩, split, _⟩ := received
          dsimp only at round
          rw [answerOption_apply] at round
          obtain ⟨_, rfl⟩ := Prod.mk.inj round
          have consumed := length_encode_option option
          rw [split, List.length_append]
          change middle.input.length < _
          omega

variable (output : List UInt8) (backend : Backend) (calls : List (BackendCall × Bool))

/-- The next option is answered, and its decision ends the loop or lets it go on. -/
theorem negotiate_option (option : ClientOption) (rest : List UInt8) :
    negotiate devSize noZeroes readOnly ⟨option.encode ++ rest, output, backend, calls⟩ =
      match option.decision with
      | some value => (.ok value, ⟨rest, output ++ option.answer devSize noZeroes readOnly, backend, calls⟩)
      | none => negotiate devSize noZeroes readOnly
          ⟨rest, output ++ option.answer devSize noZeroes readOnly, backend, calls⟩ := by
  have round : negotiateOption devSize noZeroes readOnly ⟨option.encode ++ rest, output, backend, calls⟩ =
      (.ok option.decision, ⟨rest, output ++ option.answer devSize noZeroes readOnly, backend, calls⟩) := by
    rw [negotiateOption, Action.bind_ok (receiveOption_encode _ _ _ _ _), answerOption_apply]
  cases decided : option.decision with
  | none =>
      rw [decided] at round
      exact Action.repeatUntil_none negotiateOption_shrinks round
  | some value =>
      rw [decided] at round
      exact Action.repeatUntil_some round

/-- All options of a haggling client are answered in order. -/
theorem negotiate_options {options : List ClientOption} (haggling : ∀ option ∈ options, option.haggles)
    (rest : List UInt8) :
    negotiate devSize noZeroes readOnly ⟨options.flatMap ClientOption.encode ++ rest, output, backend, calls⟩ =
      negotiate devSize noZeroes readOnly ⟨rest,
        output ++ options.flatMap (ClientOption.answer devSize noZeroes readOnly), backend, calls⟩ := by
  induction options generalizing output with
  | nil => simp
  | cons option options ih =>
      obtain ⟨unexported, unselected, unaborted⟩ := haggling option List.mem_cons_self
      have undecided : option.decision = none := by
        simp [ClientOption.decision, unexported, unselected, unaborted]
      rw [List.flatMap_cons, List.append_assoc, negotiate_option, undecided]
      dsimp only
      rw [ih _ fun other member => haggling other (List.mem_cons_of_mem _ member)]
      rw [List.flatMap_cons, List.append_assoc]

/-- Where no complete option follows, nothing more is sent. -/
theorem negotiate_incomplete {rest : List UInt8} (broken : ∀ option : ClientOption, ¬ option.encode <+: rest) :
    ∃ error unread, negotiate devSize noZeroes readOnly ⟨rest, output, backend, calls⟩ =
      (.error error, ⟨unread, output, backend, calls⟩) := by
  have received := receiveOption_consumes ⟨rest, output, backend, calls⟩
  cases outcome : receiveOption ⟨rest, output, backend, calls⟩ with
  | mk result after =>
      rw [outcome] at received
      cases result with
      | error error =>
          have round : negotiateOption devSize noZeroes readOnly ⟨rest, output, backend, calls⟩ = (.error error, after) := by
            rw [negotiateOption, Action.bind_apply, outcome]
          exact ⟨error, after.input, (Action.repeatUntil_error round).trans (congrArg _ received)⟩
      | ok value =>
          obtain ⟨front, ⟨option, _, rfl⟩, split, _⟩ := received
          exact absurd ⟨_, split.symm⟩ (broken option)

end Haggling

section Replying

variable {devSize : Nat} {readOnly : Bool}

theorem simpleReply_apply (error handle : Nat) (data : List UInt8) (conn : Conn Backend) :
    simpleReply error handle data conn =
      (.ok (), { conn with output := conn.output ++ replyBytes error handle data }) := by
  rw [simpleReply, Action.bind_ok (writeUint_apply _ _ _), Action.bind_ok (writeUint_apply _ _ _),
    Action.bind_ok (writeUint_apply _ _ _)]
  cases data with
  | nil => simp [replyBytes]
  | cons first rest => simp [replyBytes, writeAll_apply]

/-- The bounds check refuses misaligned requests and those that leave the device. -/
theorem boundsError_request (request : ClientRequest) (small : devSize < 2 ^ 64) :
    boundsError request.offset.toNat request.length.toNat devSize =
      if ¬ request.aligned then some nbdEinval
      else if ¬ request.inside devSize then some nbdEnospc else none := by
  unfold boundsError ClientRequest.aligned ClientRequest.inside blockSize
  by_cases offsetAligned : request.offset.toNat % 512 = 0
  · by_cases lengthAligned : request.length.toNat % 512 = 0
    · by_cases inside : request.offset.toNat + request.length.toNat ≤ devSize
      · have fits : request.offset.toNat + request.length.toNat < 18446744073709551616 := by omega
        simp [offsetAligned, lengthAligned, inside, fits]
      · simp [offsetAligned, lengthAligned, inside]
    · simp [lengthAligned]
  · simp [offsetAligned]

variable [BlobBackend Backend] [FlatArray Backend]

/-- The request was answered as the reference server answers it, with the outcomes of the calls made for it. -/
def Answered (readOnly : Bool) (devSize : Nat) (request : ClientRequest) (rest output : List UInt8)
    (backend : Backend) (calls : List (BackendCall × Bool))
    (outcome : Except Error (Option Unit) × Conn Backend) : Prop :=
  ∃ bytes after made, outcome = (.ok none, ⟨rest, output ++ bytes, after, calls ++ made⟩) ∧
    made.map Prod.fst = request.calls readOnly devSize ∧ Recorded backend made after ∧
    FlatStore.size after = FlatStore.size backend ∧ ∀ extra, Reference.answer readOnly devSize
      ⟨FlatStore.content backend, made.map Prod.snd ++ extra⟩ request = (bytes, ⟨FlatStore.content after, extra⟩)

variable {request : ClientRequest} {rest output : List UInt8} {backend : Backend}
variable {calls : List (BackendCall × Bool)}

/-- A refused request is answered without a call of the backend. -/
theorem answered_refused {code : Nat} (refused : request.verdict readOnly devSize = .error code) :
    Answered readOnly devSize request rest output backend calls
      ((do simpleReply code request.handle.toNat []; pure none : Action (Conn Backend) (Option Unit))
        ⟨rest, output, backend, calls⟩) := by
  refine ⟨replyBytes code request.handle.toNat [], backend, [], ?_, ?_, .nil backend, rfl, fun extra => ?_⟩
  · rw [Action.bind_ok (simpleReply_apply _ _ _ _), List.append_nil]
    rfl
  · rw [ClientRequest.calls, refused]
    rfl
  · rw [Reference.answer, refused]
    rfl

/-- A call of the backend is passed on, and its failure is reported. -/
theorem answered_passed (succeeded : Bool) {call : BackendCall} {data : List UInt8} {after : Backend}
    (passed : request.verdict readOnly devSize = .ok call) (carried : call.carryOut backend = (succeeded, after))
    (sameSize : FlatStore.size after = FlatStore.size backend)
    (effect : FlatStore.content after =
      if succeeded then call.update (FlatStore.content backend) else FlatStore.content backend)
    (shown : data = if succeeded then call.result (FlatStore.content backend) else []) :
    Answered readOnly devSize request rest output backend calls
      ((do simpleReply (if succeeded then 0 else nbdEio) request.handle.toNat data; pure none :
        Action (Conn Backend) (Option Unit)) ⟨rest, output, after, calls ++ [(call, succeeded)]⟩) := by
  refine ⟨replyBytes (if succeeded then 0 else nbdEio) request.handle.toNat data, after, [(call, succeeded)],
    ?_, ?_, .cons carried (.nil after), sameSize, fun extra => ?_⟩
  · rw [Action.bind_ok (simpleReply_apply _ _ _ _)]
    rfl
  · rw [ClientRequest.calls, passed]
    rfl
  · rw [Reference.answer, passed, effect, shown]
    cases succeeded with
    | true => rfl
    | false => rfl

/-- The checks of a request that changes the device agree with the verdict of the reference. -/
theorem changeDevice_answered {call : BackendCall} {action : Action Backend Unit} (small : devSize < 2 ^ 64)
    (asked : request.operation = some call) (changing : call.allowed readOnly = !readOnly) (busy : call ≠ .flush)
    (silent : call.result (FlatStore.content backend) = [])
    (carried : call.carryOut backend = ((action backend).1.isOk, (action backend).2))
    (sameSize : FlatStore.size (action backend).2 = FlatStore.size backend)
    (succeeds : (action backend).1 = .ok () →
      FlatStore.content (action backend).2 = call.update (FlatStore.content backend))
    (fails : ∀ error, (action backend).1 = .error error →
      FlatStore.content (action backend).2 = FlatStore.content backend) :
    Answered readOnly devSize request rest output backend calls
      (changeDevice devSize readOnly request.handle.toNat request.offset.toNat request.length.toNat call action
        ⟨rest, output, backend, calls⟩) := by
  have verdict : request.verdict readOnly devSize =
      if readOnly then .error nbdEperm
      else if ¬ request.aligned then .error nbdEinval
      else if ¬ request.inside devSize then .error nbdEnospc
      else .ok call := by
    rw [ClientRequest.verdict, asked]
    cases call with
    | flush => exact absurd rfl busy
    | _ => cases readOnly <;> simp_all
  rw [changeDevice]
  cases readOnly with
  | true => exact answered_refused (by rw [verdict]; rfl)
  | false =>
      rw [if_neg (by decide), boundsError_request request small]
      rw [if_neg (by decide)] at verdict
      by_cases aligned : request.aligned
      · by_cases inside : request.inside devSize
        · rw [if_neg (by simpa using aligned), if_neg (by simpa using inside)]
          rw [if_neg (by simpa using aligned), if_neg (by simpa using inside)] at verdict
          dsimp only
          rw [Action.bind_ok (show callBackend call action ⟨rest, output, backend, calls⟩ = _ from rfl)]
          cases outcome : (action backend).1 with
          | ok value =>
              rw [outcome] at carried
              exact answered_passed true verdict carried sameSize (succeeds outcome) silent.symm
          | error error =>
              rw [outcome] at carried
              exact answered_passed false verdict carried sameSize (fails error outcome) rfl
        · rw [if_neg (by simpa using aligned), if_pos inside]
          exact answered_refused (by rw [verdict, if_neg (by simpa using aligned), if_pos inside])
      · rw [if_pos aligned]
        exact answered_refused (by rw [verdict, if_pos aligned])

/-- A read returns the bytes of the array. -/
theorem read_answered (small : devSize < 2 ^ 64) (size : FlatStore.size backend = devSize)
    (reads : request.cmd.toNat = nbdCmdRead) :
    Answered readOnly devSize request rest output backend calls
      (dispatch devSize readOnly request.cmd.toNat request.handle.toNat request.offset.toNat
        request.length.toNat ⟨rest, output, backend, calls⟩) := by
  have asked : request.operation = some (.read request.offset.toNat request.length.toNat) := by
    rw [ClientRequest.operation, if_pos reads]
  have verdict : request.verdict readOnly devSize =
      if ¬ request.aligned then .error nbdEinval
      else if ¬ request.inside devSize then .error nbdEnospc
      else .ok (.read request.offset.toNat request.length.toNat) := by
    rw [ClientRequest.verdict, asked]
    rfl
  rw [dispatch, if_neg (by rw [reads]; decide), if_pos reads, boundsError_request request small]
  by_cases aligned : request.aligned
  · by_cases inside : request.inside devSize
    · rw [if_neg (by simpa using aligned), if_neg (by simpa using inside)]
      rw [if_neg (by simpa using aligned), if_neg (by simpa using inside)] at verdict
      obtain ⟨sameContent, sameSize⟩ := FlatStore.read_keeps backend request.offset.toNat request.length.toNat
      have carried : (BackendCall.read request.offset.toNat request.length.toNat).carryOut backend =
        ((BlobBackend.read request.offset.toNat request.length.toNat backend).1.isOk,
          (BlobBackend.read request.offset.toNat request.length.toNat backend).2) := rfl
      dsimp only
      rw [Action.bind_ok (show callBackend (.read request.offset.toNat request.length.toNat)
        (BlobBackend.read request.offset.toNat request.length.toNat) ⟨rest, output, backend, calls⟩ = _ from rfl)]
      cases outcome : (BlobBackend.read request.offset.toNat request.length.toNat backend).1 with
      | ok data =>
          have exact := FlatStore.read_exact backend _ _ data aligned.1 aligned.2 (by rw [size]; exact inside) outcome
          have width : data.length = request.length.toNat := by rw [exact, length_slice]
          dsimp only
          rw [if_pos width]
          rw [outcome] at carried
          exact answered_passed true verdict carried sameSize sameContent exact
      | error error =>
          rw [outcome] at carried
          exact answered_passed false verdict carried sameSize sameContent rfl
    · rw [if_neg (by simpa using aligned), if_pos inside]
      exact answered_refused (by rw [verdict, if_neg (by simpa using aligned), if_pos inside])
  · rw [if_pos aligned]
    exact answered_refused (by rw [verdict, if_pos aligned])

theorem flush_answered (flushes : request.cmd.toNat = nbdCmdFlush) :
    Answered readOnly devSize request rest output backend calls
      (dispatch devSize readOnly request.cmd.toNat request.handle.toNat request.offset.toNat
        request.length.toNat ⟨rest, output, backend, calls⟩) := by
  have verdict : request.verdict readOnly devSize = .ok .flush := by
    rw [ClientRequest.verdict, ClientRequest.operation, flushes]
    rfl
  obtain ⟨sameContent, sameSize⟩ := FlatStore.flush_keeps backend
  have carried : BackendCall.flush.carryOut backend =
    ((BlobBackend.flush backend).1.isOk, (BlobBackend.flush backend).2) := rfl
  rw [dispatch, flushes, if_neg (by decide), if_neg (by decide), if_neg (by decide), if_pos rfl,
    Action.bind_ok (show callBackend .flush BlobBackend.flush ⟨rest, output, backend, calls⟩ = _ from rfl)]
  cases outcome : (BlobBackend.flush backend).1 with
  | ok value =>
      rw [outcome] at carried
      exact answered_passed true verdict carried sameSize sameContent rfl
  | error error =>
      rw [outcome] at carried
      exact answered_passed false verdict carried sameSize sameContent rfl

/-- Every request other than a disconnect is answered as the reference server answers it. -/
theorem dispatch_answered (small : devSize < 2 ^ 64) (size : FlatStore.size backend = devSize)
    (connected : request.cmd.toNat ≠ nbdCmdDisc) :
    Answered readOnly devSize request rest output backend calls
      (dispatch devSize readOnly request.cmd.toNat request.handle.toNat request.offset.toNat
        request.length.toNat ⟨request.payload ++ rest, output, backend, calls⟩) := by
  have width := request.fits
  by_cases writes : request.cmd.toNat = nbdCmdWrite
  · rw [if_pos writes] at width
    have asked : request.operation = some (.write request.offset.toNat request.payload) := by
      rw [ClientRequest.operation, writes]
      rfl
    rw [dispatch, if_neg connected, if_neg (by rw [writes]; decide), if_pos writes,
      Action.bind_ok (readExact_front _ _ _ _ _ width)]
    exact changeDevice_answered small asked rfl (by simp) rfl rfl (FlatStore.write_size _ _ _)
      (FlatStore.write_ok _ _ _) fun error => FlatArray.write_fails _ _ _ error
  · rw [if_neg writes, List.length_eq_zero_iff] at width
    rw [width, List.nil_append]
    by_cases reads : request.cmd.toNat = nbdCmdRead
    · exact read_answered small size reads
    · by_cases flushes : request.cmd.toNat = nbdCmdFlush
      · exact flush_answered flushes
      · rw [dispatch, if_neg connected, if_neg reads, if_neg writes, if_neg flushes]
        by_cases clears : request.cmd.toNat = nbdCmdTrim ∨ request.cmd.toNat = nbdCmdWriteZeroes
        · have asked : request.operation = some (.clear request.offset.toNat request.length.toNat) := by
            rw [ClientRequest.operation, if_neg reads, if_neg writes, if_pos clears]
          rw [if_pos clears]
          exact changeDevice_answered small asked rfl (by simp) rfl rfl (FlatArray.clear_size _ _ _)
            (FlatArray.clear_ok _ _ _) fun error => FlatArray.clear_fails _ _ _ error
        · have unknown : request.operation = none := by
            rw [ClientRequest.operation, if_neg reads, if_neg writes, if_neg clears, if_neg flushes]
          rw [if_neg clears]
          exact answered_refused (by rw [ClientRequest.verdict, unknown])

end Replying

section Transmitting

variable {devSize : Nat} {readOnly : Bool} {bound : Nat}

/-- The action leaves no more of the stream unread than there was. -/
def Advances {Value : Type} (action : Action (Conn Backend) Value) : Prop :=
  ∀ bound, Action.Keeps (fun conn => conn.input.length ≤ bound) action

theorem simpleReply_advances (error handle : Nat) (data : List UInt8) :
    Advances (simpleReply error handle data : Action (Conn Backend) Unit) := by
  intro bound conn inside
  rw [simpleReply_apply]
  exact inside

theorem replied_advances (error handle : Nat) (data : List UInt8) :
    Advances (do simpleReply error handle data; pure none : Action (Conn Backend) (Option Unit)) :=
  fun bound => Action.keeps_bind (simpleReply_advances error handle data bound) fun _ _ _ inside _ => inside

theorem called_advances {Value : Type} (call : BackendCall) (action : Action Backend Value)
    {next : Except Error Value → Action (Conn Backend) (Option Unit)} (advances : ∀ outcome, Advances (next outcome)) :
    Advances (callBackend call action >>= next) :=
  fun bound => Action.keeps_bind (fun _ inside => inside)
    fun _ outcome after inside _ => advances outcome bound after inside

theorem changeDevice_advances [BlobBackend Backend] (handle offset length : Nat) (call : BackendCall)
    (action : Action Backend Unit) :
    Advances (changeDevice devSize readOnly handle offset length call action) := by
  unfold changeDevice
  split
  · exact replied_advances _ _ _
  · split
    · exact replied_advances _ _ _
    · refine called_advances call action fun outcome => ?_
      cases outcome with
      | ok value => exact replied_advances _ _ _
      | error error => exact replied_advances _ _ _

theorem dispatch_advances [BlobBackend Backend] (cmd handle offset length : Nat) :
    Advances (dispatch devSize readOnly cmd handle offset length : Action (Conn Backend) (Option Unit)) := by
  unfold dispatch
  split
  · exact called_advances _ _ fun _ _ _ inside => inside
  split
  · split
    · exact replied_advances _ _ _
    · refine called_advances _ _ fun outcome => ?_
      cases outcome with
      | ok data =>
          dsimp only
          split
          · exact replied_advances _ _ _
          · exact replied_advances _ _ _
      | error error => exact replied_advances _ _ _
  split
  · refine fun bound => Action.keeps_bind (fun conn inside => ?_)
      fun _ buf after inside _ => changeDevice_advances _ _ _ _ _ bound after inside
    unfold readExact
    split
    · rw [List.length_drop]
      exact (Nat.sub_le _ _).trans inside
    · exact Nat.zero_le _
  split
  · refine called_advances _ _ fun outcome => ?_
    cases outcome with
    | ok value => exact replied_advances _ _ _
    | error error => exact replied_advances _ _ _
  split
  · exact changeDevice_advances _ _ _ _ _
  · exact replied_advances _ _ _

theorem length_requestHeader (flags cmd : UInt16) (handle offset : UInt64) (length : UInt32) :
    (requestHeader flags cmd handle offset length).length = 28 := by
  simp [requestHeader]

/-- A round of the transmission takes a request off the stream. -/
theorem transmitRequest_shrinks [BlobBackend Backend] (before after : Conn Backend)
    (round : transmitRequest devSize readOnly before = (.ok none, after)) :
    after.input.length < before.input.length := by
  have received := receiveRequest_consumes before
  rw [transmitRequest, Action.bind_apply] at round
  cases outcome : receiveRequest before with
  | mk result middle =>
      rw [outcome] at received round
      cases result with
      | error error => cases round
      | ok value =>
          cases value with
          | none => cases round
          | some header =>
              obtain ⟨front, ⟨flags, cmd, handle, offset, length, rfl, rfl⟩, split, _⟩ := received
              have dispatched : dispatch devSize readOnly cmd.toNat handle.toNat offset.toNat length.toNat middle =
                (.ok none, after) := round
              have advanced : (dispatch devSize readOnly cmd.toNat handle.toNat offset.toNat length.toNat
                  middle).2.input.length ≤ middle.input.length :=
                dispatch_advances _ _ _ _ middle.input.length middle (Nat.le_refl _)
              rw [dispatched] at advanced
              rw [split, List.length_append, length_requestHeader]
              dsimp only at advanced
              omega

variable [BlobBackend Backend] [FlatArray Backend]
variable {backend : Backend} {calls : List (BackendCall × Bool)}

/-- All requests of a connected client are answered in order. -/
theorem transmission_requests (small : devSize < 2 ^ 64) {requests : List ClientRequest}
    (connected : ∀ request ∈ requests, request.cmd.toNat ≠ nbdCmdDisc) (rest output : List UInt8)
    (size : FlatStore.size backend = devSize) :
    ∃ bytes after made,
      transmission devSize readOnly ⟨requests.flatMap ClientRequest.encode ++ rest, output, backend, calls⟩ =
        transmission devSize readOnly ⟨rest, output ++ bytes, after, calls ++ made⟩ ∧
      made.map Prod.fst = requests.flatMap (ClientRequest.calls readOnly devSize) ∧
      Recorded backend made after ∧ FlatStore.size after = devSize ∧
      ∀ extra, Reference.serve readOnly devSize requests
        ⟨FlatStore.content backend, made.map Prod.snd ++ extra⟩ = (bytes, ⟨FlatStore.content after, extra⟩) := by
  induction requests generalizing output backend calls with
  | nil => exact ⟨[], backend, [], by simp, rfl, .nil backend, size, fun _ => rfl⟩
  | cons request requests ih =>
      have answered : Answered readOnly devSize request (requests.flatMap ClientRequest.encode ++ rest) output backend
          calls (dispatch devSize readOnly request.cmd.toNat request.handle.toNat request.offset.toNat
            request.length.toNat ⟨request.payload ++ (requests.flatMap ClientRequest.encode ++ rest), output,
              backend, calls⟩) := dispatch_answered small size (connected request List.mem_cons_self)
      obtain ⟨first, middle, once, round, asked, recorded, sameSize, answer⟩ := answered
      obtain ⟨later, after, more, continues, remaining, recordedLater, finalSize, answers⟩ := @ih middle (calls ++ once)
        (fun other member => connected other (List.mem_cons_of_mem _ member)) (output ++ first)
        (sameSize.trans size)
      refine ⟨first ++ later, after, once ++ more, ?_, ?_, recorded.append recordedLater, finalSize, fun extra => ?_⟩
      · have received := receiveRequest_header output backend calls request.flags request.cmd request.handle
          request.offset request.length (request.payload ++ (requests.flatMap ClientRequest.encode ++ rest))
        rw [← List.append_assoc output, ← List.append_assoc calls, ← continues]
        refine Action.repeatUntil_none transmitRequest_shrinks ?_
        rw [List.flatMap_cons, ClientRequest.encode, List.append_assoc, List.append_assoc, transmitRequest,
          Action.bind_ok received]
        exact round
      · rw [List.map_append, asked, remaining, List.flatMap_cons]
      · rw [List.map_append, List.append_assoc, Reference.serve, answer, answers]

omit [FlatArray Backend] in
/-- Where no complete request follows, nothing more is sent or done. -/
theorem transmission_incomplete {rest : List UInt8} (broken : ∀ request : ClientRequest, ¬ request.encode <+: rest)
    (output : List UInt8) :
    ∃ result unread, transmission devSize readOnly ⟨rest, output, backend, calls⟩ =
      (result, ⟨unread, output, backend, calls⟩) := by
  have received := receiveRequest_consumes ⟨rest, output, backend, calls⟩
  cases outcome : receiveRequest ⟨rest, output, backend, calls⟩ with
  | mk result after =>
      rw [outcome] at received
      cases result with
      | error error =>
          have round : transmitRequest devSize readOnly ⟨rest, output, backend, calls⟩ = (.error error, after) := by
            rw [transmitRequest, Action.bind_apply, outcome]
          exact ⟨.error error, after.input, (Action.repeatUntil_error round).trans (congrArg _ received)⟩
      | ok value =>
          obtain ⟨front, spelled, split, same⟩ := received
          cases value with
          | none =>
              have round : transmitRequest devSize readOnly ⟨rest, output, backend, calls⟩ =
                  (.ok (some ()), after) := by
                rw [transmitRequest, Action.bind_ok outcome]
                rfl
              exact ⟨.ok (), after.input, (Action.repeatUntil_some round).trans (congrArg _ same)⟩
          | some header =>
              obtain ⟨flags, cmd, handle, offset, length, rfl, rfl⟩ := spelled
              have writes : cmd.toNat = nbdCmdWrite := by
                by_contra other
                refine broken ⟨flags, cmd, handle, offset, length, [], by rw [if_neg other]; rfl⟩ ⟨after.input, ?_⟩
                rw [ClientRequest.encode, List.append_nil]
                exact split.symm
              have short : ¬ length.toNat ≤ after.input.length := by
                intro enough
                refine broken ⟨flags, cmd, handle, offset, length, after.input.take length.toNat, ?_⟩
                  ⟨after.input.drop length.toNat, ?_⟩
                · rw [if_pos writes, List.length_take]
                  omega
                · rw [ClientRequest.encode, List.append_assoc, List.take_append_drop]
                  exact split.symm
              have round : transmitRequest devSize readOnly ⟨rest, output, backend, calls⟩ =
                  (.error ["read write payload", "early eof"], { after with input := [] }) := by
                rw [transmitRequest, Action.bind_ok outcome]
                dsimp only
                rw [dispatch, if_neg (by rw [writes]; decide), if_neg (by rw [writes]; decide), if_pos writes,
                  Action.bind_apply, readExact, if_neg short]
              refine ⟨.error ["read write payload", "early eof"], [], (Action.repeatUntil_error round).trans ?_⟩
              rw [same]

omit [BlobBackend Backend] [FlatArray Backend] in
theorem callBackend_apply {Value : Type} (call : BackendCall) (action : Action Backend Value) (conn : Conn Backend) :
    callBackend call action conn = (.ok (action conn.backend).1, { conn with
      backend := (action conn.backend).2, calls := conn.calls ++ [(call, (action conn.backend).1.isOk)] }) := by
  rw [callBackend]
  cases (action conn.backend).1 with
  | ok value => rfl
  | error error => rfl

/-- A disconnect flushes and sends nothing. -/
theorem transmission_disconnect {request : ClientRequest} (disc : request.cmd.toNat = nbdCmdDisc)
    (rest output : List UInt8) :
    ∃ after succeeded, transmission devSize readOnly ⟨request.encode ++ rest, output, backend, calls⟩ =
      (.ok (), ⟨rest, output, after, calls ++ [(.flush, succeeded)]⟩) ∧
      Recorded backend [(.flush, succeeded)] after ∧ FlatStore.content after = FlatStore.content backend := by
  have width := request.fits
  rw [if_neg (by rw [disc]; decide), List.length_eq_zero_iff] at width
  have received := receiveRequest_header output backend calls request.flags request.cmd request.handle
    request.offset request.length rest
  have round : transmitRequest devSize readOnly ⟨request.encode ++ rest, output, backend, calls⟩ =
      (.ok (some ()), (callBackend .flush BlobBackend.flush ⟨rest, output, backend, calls⟩).2) := by
    rw [ClientRequest.encode, width, List.append_nil, transmitRequest, Action.bind_ok received]
    dsimp only
    rw [dispatch, if_pos disc]
    rfl
  rw [callBackend_apply] at round
  exact ⟨(BlobBackend.flush backend).2, _, Action.repeatUntil_some round, .cons rfl (.nil _),
    (FlatStore.flush_keeps backend).1⟩

/-- The transmission phase sends what the reference server sends, and makes the same calls. -/
theorem transmission_served (small : devSize < 2 ^ 64) (size : FlatStore.size backend = devSize)
    (sent : Requests) (output : List UInt8) :
    let final := (transmission devSize readOnly ⟨sent.bytes, output, backend, calls⟩).2
    ∃ made, final.calls = calls ++ made ∧
      made.map Prod.fst = sent.requests.flatMap (ClientRequest.calls readOnly devSize) ++ sent.ending.calls ∧
      Recorded backend made final.backend ∧
      let served := Reference.serve readOnly devSize sent.requests ⟨FlatStore.content backend, made.map Prod.snd⟩
      final.output = output ++ served.1 ∧ FlatStore.content final.backend = served.2.array := by
  intro final
  obtain ⟨requests, connected, ending⟩ := sent
  obtain ⟨bytes, middle, made, runs, asked, recorded, sameSize, serves⟩ :=
    transmission_requests small connected ending.bytes output size
  have reached : final = (transmission devSize readOnly
    ⟨ending.bytes, output ++ bytes, middle, calls ++ made⟩).2 := congrArg Prod.snd runs
  cases ending with
  | incomplete rest broken =>
      obtain ⟨result, unread, stops⟩ : ∃ result unread, transmission devSize readOnly
          ⟨rest, output ++ bytes, middle, calls ++ made⟩ =
          (result, ⟨unread, output ++ bytes, middle, calls ++ made⟩) := transmission_incomplete broken _
      rw [TransmissionEnd.bytes, stops] at reached
      have served := serves []
      rw [List.append_nil] at served
      refine ⟨made, by rw [reached], by rw [asked]; exact (List.append_nil _).symm, by rw [reached]; exact recorded, ?_⟩
      rw [served, reached]
      exact ⟨rfl, rfl⟩
  | disconnect request disc rest =>
      obtain ⟨after, succeeded, stops, flushed, same⟩ : ∃ after succeeded, transmission devSize readOnly
          ⟨request.encode ++ rest, output ++ bytes, middle, calls ++ made⟩ =
          (.ok (), ⟨rest, output ++ bytes, after, calls ++ made ++ [(.flush, succeeded)]⟩) ∧
          Recorded middle [(.flush, succeeded)] after ∧ FlatStore.content after = FlatStore.content middle :=
        transmission_disconnect disc _ _
      rw [TransmissionEnd.bytes, stops] at reached
      refine ⟨made ++ [(.flush, succeeded)], by rw [reached, List.append_assoc], ?_,
        by rw [reached]; exact recorded.append flushed, ?_⟩
      · rw [List.map_append, asked]
        rfl
      · rw [List.map_append, serves, reached]
        exact ⟨rfl, same⟩

end Transmitting

section Decomposition

theorem length_encode_request (request : ClientRequest) : 28 ≤ request.encode.length := by
  rw [ClientRequest.encode, List.length_append, length_requestHeader]
  omega

/-- Every byte sequence is a sequence of complete requests and an ending. -/
theorem exists_requests (bytes : List UInt8) : ∃ sent : Requests, sent.bytes = bytes := by
  induction size : bytes.length using Nat.strong_induction_on generalizing bytes with
  | _ size ih =>
      by_cases complete : ∃ request : ClientRequest, request.encode <+: bytes
      · obtain ⟨request, rest, rfl⟩ := complete
        by_cases disc : request.cmd.toNat = nbdCmdDisc
        · exact ⟨⟨[], by simp, .disconnect request disc rest⟩, rfl⟩
        · have positive := length_encode_request request
          rw [List.length_append] at size
          obtain ⟨⟨requests, connected, ending⟩, same⟩ := ih rest.length (by omega) rest rfl
          have all : ∀ other ∈ request :: requests, other.cmd.toNat ≠ nbdCmdDisc := by
            intro other member
            rcases List.mem_cons.mp member with rfl | later
            · exact disc
            · exact connected other later
          refine ⟨⟨request :: requests, all, ending⟩, ?_⟩
          rw [← same]
          simp [Requests.bytes]
      · exact ⟨⟨[], by simp, .incomplete bytes (not_exists.mp complete)⟩, rfl⟩

/-- Every byte sequence is a sequence of options that go on haggling and an ending. -/
theorem exists_options (bytes : List UInt8) :
    ∃ (options : List ClientOption) (ending : HaggleEnd), (∀ option ∈ options, option.haggles) ∧
      options.flatMap ClientOption.encode ++ ending.bytes = bytes := by
  induction size : bytes.length using Nat.strong_induction_on generalizing bytes with
  | _ size ih =>
      by_cases complete : ∃ option : ClientOption, option.encode <+: bytes
      · obtain ⟨option, rest, rfl⟩ := complete
        by_cases selects : option.opt.toNat = nbdOptExportName ∨ option.opt.toNat = nbdOptGo
        · obtain ⟨sent, rfl⟩ := exists_requests rest
          exact ⟨[], .select option selects sent, by simp, rfl⟩
        · by_cases aborts : option.opt.toNat = nbdOptAbort
          · exact ⟨[], .abort option aborts rest, by simp, rfl⟩
          · have positive := length_encode_option option
            rw [List.length_append] at size
            obtain ⟨options, ending, haggling, same⟩ := ih rest.length (by omega) rest rfl
            rw [not_or] at selects
            refine ⟨option :: options, ending, ?_, ?_⟩
            · intro other member
              rcases List.mem_cons.mp member with rfl | later
              · exact ⟨selects.1, selects.2, aborts⟩
              · exact haggling other later
            · rw [← same]
              simp
      · exact ⟨[], .incomplete bytes (not_exists.mp complete), by simp, rfl⟩

/-- Every byte sequence is what some client sends. -/
theorem exists_client (stream : List UInt8) : ∃ client : ClientStream, client.bytes = stream := by
  by_cases short : stream.length < 4
  · exact ⟨.silent stream short, rfl⟩
  · obtain ⟨options, ending, haggling, same⟩ := exists_options (stream.drop 4)
    have width : (stream.take 4).length = 4 := by
      rw [List.length_take]
      omega
    have small := fromBeBytes_lt (stream.take 4)
    rw [width] at small
    have flags : (UInt32.ofNat (fromBeBytes (stream.take 4))).toNat = fromBeBytes (stream.take 4) :=
      Nat.mod_eq_of_lt small
    have spelled := toBeBytes_fromBeBytes (stream.take 4)
    rw [width] at spelled
    refine ⟨.greets (UInt32.ofNat (fromBeBytes (stream.take 4))) options haggling ending, ?_⟩
    rw [ClientStream.bytes, flags, spelled, List.append_assoc, same, List.take_append_drop]

end Decomposition

section Server

variable [BlobBackend Backend] [FlatArray Backend]
variable {devSize : Nat} {readOnly : Bool} {backend : Backend}

omit [FlatArray Backend] in
/-- A connection whose options select the export goes on to the transmission. -/
theorem serveConnection_flags (flags : UInt32) (rest : List UInt8) :
    serveConnection devSize readOnly ⟨toBeBytes 4 flags.toNat ++ rest, [], backend, []⟩ =
      (negotiate devSize (flags.toNat &&& nbdFlagCNoZeroes ≠ 0) readOnly >>= fun selected =>
        if selected then transmission devSize readOnly else pure ()) ⟨rest, greeting, backend, []⟩ := by
  have fits : flags.toNat < 256 ^ 4 := flags.toNat_lt
  rw [serveConnection, Action.bind_ok (writeUint_apply _ _ _), Action.bind_ok (writeUint_apply _ _ _),
    Action.bind_ok (writeUint_apply _ _ _), Action.bind_ok (readUint_front _ _ _ _ _ fits)]
  rfl

/-- The served connection agrees with the reference server, which is told how the calls came out. -/
theorem serveConnection_served (small : devSize < 2 ^ 64) (size : FlatStore.size backend = devSize)
    (client : ClientStream) :
    let final := (serveConnection devSize readOnly ⟨client.bytes, [], backend, []⟩).2
    let served := client.serve readOnly devSize ⟨FlatStore.content backend, final.calls.map Prod.snd⟩
    final.output = served.1 ∧ final.calls.map Prod.fst = client.calls readOnly devSize ∧
      Recorded backend final.calls final.backend ∧ FlatStore.content final.backend = served.2.array := by
  intro final served
  cases client with
  | silent rest short =>
      have stops : (serveConnection devSize readOnly ⟨rest, [], backend, []⟩).2 = ⟨[], greeting, backend, []⟩ := by
        rw [serveConnection, Action.bind_ok (writeUint_apply _ _ _), Action.bind_ok (writeUint_apply _ _ _),
          Action.bind_ok (writeUint_apply _ _ _), Action.bind_apply, readUint, Action.bind_apply, readExact,
          if_neg (Nat.not_le.mpr short)]
        rfl
      have reached : final = ⟨[], greeting, backend, []⟩ := stops
      rw [reached]
      exact ⟨rfl, rfl, .nil backend, rfl⟩
  | greets flags options haggling ending =>
      set noZeroes : Bool := decide (flags.toNat &&& nbdFlagCNoZeroes ≠ 0)
      set answers := greeting ++ options.flatMap (ClientOption.answer devSize noZeroes readOnly)
      have reached : final = ((negotiate devSize noZeroes readOnly >>= fun selected =>
          if selected then transmission devSize readOnly else pure ()) ⟨options.flatMap ClientOption.encode ++
            ending.bytes, greeting, backend, []⟩).2 := by
        change (serveConnection devSize readOnly ⟨toBeBytes 4 flags.toNat ++
          options.flatMap ClientOption.encode ++ ending.bytes, [], backend, []⟩).2 = _
        rw [List.append_assoc, serveConnection_flags]
      rw [Action.bind_apply, negotiate_options _ _ _ haggling] at reached
      cases ending with
      | incomplete rest broken =>
          obtain ⟨error, unread, stops⟩ := negotiate_incomplete answers backend [] broken
          rw [HaggleEnd.bytes, stops] at reached
          rw [reached]
          exact ⟨(List.append_nil _).symm, rfl, .nil backend, rfl⟩
      | abort option aborts rest =>
          have decided : option.decision = some false := by
            rw [ClientOption.decision, aborts]
            rfl
          rw [HaggleEnd.bytes, negotiate_option, decided] at reached
          rw [reached]
          exact ⟨rfl, rfl, .nil backend, rfl⟩
      | select option selects sent =>
          have decided : option.decision = some true := by rw [ClientOption.decision, if_pos selects]
          rw [HaggleEnd.bytes, negotiate_option, decided] at reached
          have reached : final = (transmission devSize readOnly ⟨sent.bytes,
            answers ++ option.answer devSize noZeroes readOnly, backend, []⟩).2 := reached
          have phase := @transmission_served _ devSize readOnly _ _ _ [] small size sent
            (answers ++ option.answer devSize noZeroes readOnly)
          rw [← reached] at phase
          obtain ⟨made, called, asked, recorded, sends, holds⟩ := phase
          rw [List.nil_append] at called
          subst called
          refine ⟨?_, asked, recorded, holds⟩
          rw [sends, List.append_assoc]
          rfl

/-- For every stream of a client the server is the reference server over a flat array, and the reference is told what
the backend answered. -/
theorem serveConnection_is_reference (devSize : UInt64) (readOnly : Bool) (backend : Backend)
    (size : FlatStore.size backend = devSize.toNat) (stream : List UInt8) :
    (∃ client : ClientStream, client.bytes = stream) ∧
      ∀ client : ClientStream, client.bytes = stream →
        let final := (serveConnection devSize.toNat readOnly ⟨stream, [], backend, []⟩).2
        let served := client.serve readOnly devSize.toNat ⟨FlatStore.content backend, final.calls.map Prod.snd⟩
        final.output = served.1 ∧ final.calls.map Prod.fst = client.calls readOnly devSize.toNat ∧
          Recorded backend final.calls final.backend ∧ FlatStore.content final.backend = served.2.array := by
  refine ⟨exists_client stream, ?_⟩
  rintro client rfl
  exact serveConnection_served devSize.toNat_lt size client

end Server

instance : FlatArray MemBackend where
  write_fails backend offset bytes error failed := by
    rcases MemBackend.checks_cases "write" "data.len()" offset bytes.length
      (.modify fun mem => { mem with data := splice mem.data offset bytes }) backend with
      ⟨_, accepted⟩ | ⟨_, reason, rejected⟩
    · rw [show BlobBackend.write offset bytes backend = _ from accepted] at failed
      cases failed
    · rw [show BlobBackend.write offset bytes backend = _ from rejected]
  clear_size backend offset len := by
    rcases MemBackend.checks_cases "clear" "len" offset len
      (.modify fun mem => { mem with data := zeroed mem.data offset len }) backend with
      ⟨_, accepted⟩ | ⟨_, reason, rejected⟩
    · rw [show BlobBackend.clear offset len backend = _ from accepted]
      rfl
    · rw [show BlobBackend.clear offset len backend = _ from rejected]
  clear_ok backend offset len success := by
    rcases MemBackend.checks_cases "clear" "len" offset len
      (.modify fun mem => { mem with data := zeroed mem.data offset len }) backend with
      ⟨_, accepted⟩ | ⟨_, reason, rejected⟩
    · rw [show BlobBackend.clear offset len backend = _ from accepted]
      rfl
    · rw [show BlobBackend.clear offset len backend = _ from rejected] at success
      cases success
  clear_fails backend offset len error failed := by
    rcases MemBackend.checks_cases "clear" "len" offset len
      (.modify fun mem => { mem with data := zeroed mem.data offset len }) backend with
      ⟨_, accepted⟩ | ⟨_, reason, rejected⟩
    · rw [show BlobBackend.clear offset len backend = _ from accepted] at failed
      cases failed
    · rw [show BlobBackend.clear offset len backend = _ from rejected]

/-- A client that writes a sector, reads it back, sends an unknown command and disconnects. -/
def roundTrip : ClientStream :=
  .greets 2 [] (by simp) (.select ⟨7, [], by decide⟩ (.inr rfl) ⟨[
    ⟨0, 1, 11, 512, 512, List.replicate 512 7, List.length_replicate⟩, ⟨0, 0, 12, 512, 512, [], by decide⟩,
    ⟨0, 9, 13, 0, 0, [], by decide⟩], by decide, .disconnect ⟨0, 2, 14, 0, 0, [], by decide⟩ rfl []⟩)

theorem serveConnection_is_reference_round_trip :
    let final := (serveConnection 1024 false ⟨roundTrip.bytes, [], (⟨1024, fun _ => 0⟩ : MemBackend), []⟩).2
    final.calls = [(.write 512 (List.replicate 512 7), true), (.read 512 512, true), (.flush, true)] ∧
      final.output = (roundTrip.serve false 1024 ⟨fun _ => 0, final.calls.map Prod.snd⟩).1 := by
  intro final
  obtain ⟨sends, _⟩ := (serveConnection_is_reference 1024 false (⟨1024, fun _ => 0⟩ : MemBackend) rfl
    roundTrip.bytes).2 roundTrip rfl
  exact ⟨by decide +kernel, sends⟩

end NbdTarget
end UblkAzblob

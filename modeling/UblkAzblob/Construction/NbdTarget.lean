import UblkAzblob.Construction.Backend
import UblkAzblob.Foundation.Wire

namespace UblkAzblob
open Storage

namespace NbdTarget

section Constants

def nbdMagic : Nat := 0x4e42444d41474943

def iHaveOpt : Nat := 0x49484156454f5054

def nbdRepMagic : Nat := 0x0003e889045565a9

def nbdFlagFixedNewstyle : Nat := 1 <<< 0

def nbdFlagNoZeroes : Nat := 1 <<< 1

def nbdFlagCNoZeroes : Nat := 1 <<< 1

def nbdFlagHasFlags : Nat := 1 <<< 0

def nbdFlagReadOnly : Nat := 1 <<< 1

def nbdFlagSendFlush : Nat := 1 <<< 2

def nbdFlagSendTrim : Nat := 1 <<< 5

def nbdFlagSendWriteZeroes : Nat := 1 <<< 6

def nbdOptExportName : Nat := 1

def nbdOptAbort : Nat := 2

def nbdOptList : Nat := 3

def nbdOptInfo : Nat := 6

def nbdOptGo : Nat := 7

def nbdRepAck : Nat := 1

def nbdRepServer : Nat := 2

def nbdRepInfo : Nat := 3

def nbdRepErrUnsup : Nat := 0x80000001

def nbdInfoExport : Nat := 0

def nbdInfoBlockSize : Nat := 3

def nbdRequestMagic : Nat := 0x25609513

def nbdSimpleReplyMagic : Nat := 0x67446698

def nbdCmdRead : Nat := 0

def nbdCmdWrite : Nat := 1

def nbdCmdDisc : Nat := 2

def nbdCmdFlush : Nat := 3

def nbdCmdTrim : Nat := 4

def nbdCmdWriteZeroes : Nat := 6

def nbdEperm : Nat := 1

def nbdEio : Nat := 5

def nbdEinval : Nat := 22

def nbdEnospc : Nat := 28

def blockSize : Nat := 512

/-- The bytes of the export name `azblob`. -/
def exportName : List UInt8 := [97, 122, 98, 108, 111, 98]

end Constants

/-- A call of the backend that the server makes. -/
inductive BackendCall where
  | read (offset length : Nat)
  | write (offset : Nat) (payload : List UInt8)
  | clear (offset length : Nat)
  | flush
  deriving DecidableEq, Repr

/-- One client connection: what the client has sent, what the server has sent, and the calls it has made. -/
structure Conn (Backend : Type) where
  input : List UInt8
  output : List UInt8
  backend : Backend
  /-- Each call of the backend and whether it succeeded. -/
  calls : List (BackendCall × Bool)

variable {Backend : Type}

section Stream

def readExact (context : String) (count : Nat) : Action (Conn Backend) (List UInt8) := fun conn =>
  if count ≤ conn.input.length then
    (.ok (conn.input.take count), { conn with input := conn.input.drop count })
  else (.error [context, "early eof"], { conn with input := [] })

/-- An unsigned integer is read most significant byte first. -/
def readUint (context : String) (width : Nat) : Action (Conn Backend) Nat := do
  let bytes ← readExact context width
  pure (fromBeBytes bytes)

def writeAll (bytes : List UInt8) : Action (Conn Backend) Unit :=
  .modify fun conn => { conn with output := conn.output ++ bytes }

def writeUint (width value : Nat) : Action (Conn Backend) Unit := writeAll (toBeBytes width value)

/-- The outcome of a backend call is a value, because the server goes on after a failed call. -/
def callBackend {Value : Type} (call : BackendCall) (action : Action Backend Value) :
    Action (Conn Backend) (Except Error Value) := fun conn =>
  let outcome := action conn.backend
  (.ok outcome.1, { conn with
    backend := outcome.2
    calls := conn.calls ++ [(call, match outcome.1 with
      | .ok _ => true
      | .error _ => false)] })

def hex (value : Nat) : String := "0x" ++ String.ofList (Nat.toDigits 16 value)

end Stream

def transmissionFlags (readOnly : Bool) : Nat :=
  let flags := nbdFlagHasFlags ||| nbdFlagSendFlush ||| nbdFlagSendTrim ||| nbdFlagSendWriteZeroes
  if readOnly then flags ||| nbdFlagReadOnly else flags

section Negotiation

/-- An option reply is a header and its payload. -/
def sendOptReply (opt repType : Nat) (data : List UInt8) : Action (Conn Backend) Unit := do
  writeUint 8 nbdRepMagic
  writeUint 4 opt
  writeUint 4 repType
  writeUint 4 data.length
  if data ≠ [] then writeAll data else pure ()

/-- The export is described by its size and flags and by its block sizes. -/
def sendExportInfo (opt devSize : Nat) (readOnly : Bool) : Action (Conn Backend) Unit := do
  let exported := toBeBytes 2 nbdInfoExport ++ toBeBytes 8 devSize ++ toBeBytes 2 (transmissionFlags readOnly)
  sendOptReply opt nbdRepInfo exported
  let bs := toBeBytes 2 nbdInfoBlockSize ++ toBeBytes 4 blockSize ++ toBeBytes 4 (blockSize * 8) ++
    toBeBytes 4 (32 * 1024 * 1024)
  sendOptReply opt nbdRepInfo bs

/-- The type and the data of the next option. -/
def receiveOption : Action (Conn Backend) (Nat × List UInt8) := do
  let magic ← readUint "read option magic" 8
  Action.ensure (magic = iHaveOpt) ["bad option magic: " ++ hex magic]
  let opt ← readUint "read option type" 4
  let len ← readUint "read option length" 4
  let data ← readExact "read option data" len
  pure (opt, data)

/-- The answer of an option says whether the haggling goes on, is done or was aborted. -/
def answerOption (devSize : Nat) (noZeroes readOnly : Bool) (opt : Nat) : Action (Conn Backend) (Option Bool) :=
  if opt = nbdOptExportName then do
    writeUint 8 devSize
    writeUint 2 (transmissionFlags readOnly)
    if noZeroes then pure () else writeAll (List.replicate 124 0)
    pure (some true)
  else if opt = nbdOptInfo ∨ opt = nbdOptGo then do
    sendExportInfo opt devSize readOnly
    sendOptReply opt nbdRepAck []
    pure (if opt = nbdOptGo then some true else none)
  else if opt = nbdOptList then do
    let buf := toBeBytes 4 exportName.length ++ exportName
    sendOptReply opt nbdRepServer buf
    sendOptReply opt nbdRepAck []
    pure none
  else if opt = nbdOptAbort then do
    sendOptReply opt nbdRepAck []
    pure (some false)
  else do
    sendOptReply opt nbdRepErrUnsup []
    pure none

/-- One round of the option haggling. -/
def negotiateOption (devSize : Nat) (noZeroes readOnly : Bool) : Action (Conn Backend) (Option Bool) := do
  let option ← receiveOption
  answerOption devSize noZeroes readOnly option.1

/-- The loop ends with whether the client has selected the export. -/
def negotiate (devSize : Nat) (noZeroes readOnly : Bool) : Action (Conn Backend) Bool :=
  Action.repeatUntil (fun conn => conn.input.length) (negotiateOption devSize noZeroes readOnly)

end Negotiation

section Transmission

/-- The error of a request that is misaligned or leaves the device. -/
def boundsError (offset length devSize : Nat) : Option Nat :=
  if ¬ (offset % blockSize = 0) ∨ ¬ (length % blockSize = 0) then some nbdEinval
  else if offset + length < 2 ^ 64 ∧ offset + length ≤ devSize then none
  else some nbdEnospc

/-- A simple reply is a header, followed by the data of a read. -/
def simpleReply (error handle : Nat) (data : List UInt8) : Action (Conn Backend) Unit := do
  writeUint 4 nbdSimpleReplyMagic
  writeUint 4 error
  writeUint 8 handle
  if data ≠ [] then writeAll data else pure ()

/-- A stream that ends before a magic was closed by the client. -/
def readRequestMagic : Action (Conn Backend) (Option Nat) := fun conn =>
  if 4 ≤ conn.input.length then
    (.ok (some (fromBeBytes (conn.input.take 4))), { conn with input := conn.input.drop 4 })
  else (.ok none, { conn with input := [] })

/-- The fields of a request header that the server uses. -/
structure RequestHeader where
  cmd : Nat
  handle : Nat
  offset : Nat
  length : Nat

/-- The next request header, unless the client has closed the stream. -/
def receiveRequest : Action (Conn Backend) (Option RequestHeader) := do
  match ← readRequestMagic with
  | none => pure none
  | some magic => do
      Action.ensure (magic = nbdRequestMagic) ["bad request magic: " ++ hex magic]
      let _flags ← readUint "read request flags" 2
      let cmd ← readUint "read request type" 2
      let handle ← readUint "read request handle" 8
      let offset ← readUint "read request offset" 8
      let length ← readUint "read request length" 4
      pure (some ⟨cmd, handle, offset, length⟩)

variable [BlobBackend Backend]

/-- The requests that change the device share their checks. -/
def changeDevice (devSize : Nat) (readOnly : Bool) (handle offset length : Nat) (call : BackendCall)
    (action : Action Backend Unit) : Action (Conn Backend) (Option Unit) :=
  if readOnly then do
    simpleReply nbdEperm handle []
    pure none
  else match boundsError offset length devSize with
    | some err => do
        simpleReply err handle []
        pure none
    | none => do
        match ← callBackend call action with
        | .ok () => simpleReply 0 handle []
        | .error _ => simpleReply nbdEio handle []
        pure none

/-- A command is answered by one reply, except a disconnect, which ends the loop. -/
def dispatch (devSize : Nat) (readOnly : Bool) (cmd handle offset length : Nat) :
    Action (Conn Backend) (Option Unit) :=
  if cmd = nbdCmdDisc then do
    let _ ← callBackend .flush BlobBackend.flush
    pure (some ())
  else if cmd = nbdCmdRead then
    match boundsError offset length devSize with
    | some err => do
        simpleReply err handle []
        pure none
    | none => do
        match ← callBackend (.read offset length) (BlobBackend.read offset length) with
        | .ok data =>
            if data.length = length then simpleReply 0 handle data else simpleReply nbdEio handle []
        | .error _ => simpleReply nbdEio handle []
        pure none
  else if cmd = nbdCmdWrite then do
    let buf ← readExact "read write payload" length
    changeDevice devSize readOnly handle offset length (.write offset buf) (BlobBackend.write offset buf)
  else if cmd = nbdCmdFlush then do
    match ← callBackend .flush BlobBackend.flush with
    | .ok () => simpleReply 0 handle []
    | .error _ => simpleReply nbdEio handle []
    pure none
  else if cmd = nbdCmdTrim ∨ cmd = nbdCmdWriteZeroes then
    changeDevice devSize readOnly handle offset length (.clear offset length) (BlobBackend.clear offset length)
  else do
    simpleReply nbdEinval handle []
    pure none

/-- One round of the transmission phase. -/
def transmitRequest (devSize : Nat) (readOnly : Bool) : Action (Conn Backend) (Option Unit) := do
  match ← receiveRequest with
  | none => pure (some ())
  | some request => dispatch devSize readOnly request.cmd request.handle request.offset request.length

/-- Requests are read until the client disconnects. -/
def transmission (devSize : Nat) (readOnly : Bool) : Action (Conn Backend) Unit :=
  Action.repeatUntil (fun conn => conn.input.length) (transmitRequest devSize readOnly)

/-- A connection is a handshake, the option haggling and the transmission. -/
def serveConnection (devSize : Nat) (readOnly : Bool) : Action (Conn Backend) Unit := do
  writeUint 8 nbdMagic
  writeUint 8 iHaveOpt
  writeUint 2 (nbdFlagFixedNewstyle ||| nbdFlagNoZeroes)
  let clientFlags ← readUint "read client flags" 4
  let noZeroes := clientFlags &&& nbdFlagCNoZeroes ≠ 0
  if ← negotiate devSize noZeroes readOnly then transmission devSize readOnly else pure ()

end Transmission
end NbdTarget
end UblkAzblob

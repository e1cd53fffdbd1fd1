import UblkAzblob.Construction.Buffered

namespace UblkAzblob
open Storage

/-- A call in flight is between two of its lock sections; the inner calls run there too. -/
inductive CallPhase where
  | entering
  | sized (size : Nat)
  | checking
  | loading
  | loaded (bytes : List UInt8)
  | applying
  | limiting
  | collecting
  | flushing (uploads : List (Nat × BufferedBackend.WritePhase))
  | syncing
  | returned (result : Except Error (List UInt8))

/-- A call knows the size of the device, the chunks it has left and the bytes it has read. -/
structure BufferCall where
  request : BlobRequest
  devSize : Nat
  pieces : List Chunk
  output : List UInt8
  phase : CallPhase

/-- The system runs any number of calls on one buffer. -/
structure BufferSystem (Inner : Type) where
  world : BufferWorld Inner
  calls : List BufferCall

/-- A call is issued, a call or an upload of a flush takes its next step, or a flush runs out of time. -/
inductive BufferTurn where
  | issue (request : BlobRequest)
  | call (index : Nat)
  | upload (index slot : Nat)
  | expire (index : Nat)
  deriving DecidableEq, Repr

namespace BlobRequest

/-- The range checks of a call: the alignment message, the name in the bounds message, and the range. -/
def guards : BlobRequest → Option (String × String × Nat × Nat)
  | .read offset len =>
      some (s!"read: offset ({offset}) and len ({len}) must be 512-byte aligned", "read", offset, len)
  | .write offset data =>
      let len := data.length
      some (s!"write: offset ({offset}) and data.len() ({len}) must be 512-byte aligned", "write", offset, len)
  | .clear offset len =>
      some (s!"clear: offset ({offset}) and len ({len}) must be 512-byte aligned", "clear", offset, len)
  | .flush => none

/-- The bytes that a write or a clear gives to its range. -/
def bytes : BlobRequest → List UInt8
  | .write _ data => data
  | .clear _ len => List.replicate len 0
  | _ => []

end BlobRequest

namespace BufferCall

def issued (request : BlobRequest) : BufferCall := ⟨request, 0, [], [], .entering⟩

def isDone (call : BufferCall) : Bool :=
  match call.phase with
  | .returned _ => true
  | _ => false

/-- The call goes on with its next chunk, or returns what it has read. -/
def goOn (call : BufferCall) (rest : List Chunk) (output : List UInt8) : BufferCall :=
  { call with
    pieces := rest
    output
    phase := if rest = [] then .returned (.ok output) else .checking }

def fail (call : BufferCall) (error : Error) : BufferCall := { call with phase := .returned (.error error) }

end BufferCall

namespace BufferSystem

variable {Inner : Type}

def start (inner : Inner) (clock : Nat) : BufferSystem Inner := ⟨BufferedBackend.start inner clock, []⟩

def idle (sys : BufferSystem Inner) : Bool := sys.calls.all BufferCall.isDone

end BufferSystem

namespace BufferedBackend

variable {Inner : Type} [BlobBackend Inner]

/-- A range inside the device is cut into its chunks. -/
def openRange (buffer : BufferedBackend) (call : BufferCall) (op : String) (offset len devSize : Nat)
    (world : BufferWorld Inner) : BufferCall × BufferWorld Inner :=
  match (checkInBounds op offset len devSize world).1 with
  | .error error => (call.fail error, world)
  | .ok _ => ({ call with devSize }.goOn (chunks buffer.config.pageSize offset len) [], world)

/-- A size that is not known yet is asked without the lock. -/
def enter (buffer : BufferedBackend) (call : BufferCall) (world : BufferWorld Inner) :
    BufferCall × BufferWorld Inner :=
  match call.request.guards with
  | none => ({ call with phase := .collecting }, world)
  | some (message, op, offset, len) =>
      if len = 0 then (call.goOn [] [], world)
      else if ¬ (offset % 512 = 0 ∧ len % 512 = 0) then (call.fail [message], world)
      else if world.state.devSize ≠ 0 then buffer.openRange call op offset len world.state.devSize world
      else match BufferWorld.callInner BlobBackend.size world with
        | (.error error, world) => (call.fail error, world)
        | (.ok size, world) => ({ call with phase := .sized size }, world)

/-- The first call that has asked for the size records it. -/
def learnSize (buffer : BufferedBackend) (call : BufferCall) (size : Nat) (world : BufferWorld Inner) :
    BufferCall × BufferWorld Inner :=
  let known := world.update fun state => if state.devSize = 0 then { state with devSize := size } else state
  match call.request.guards with
  | none => (call, world)
  | some (_, op, offset, len) => buffer.openRange call op offset len known.state.devSize known

/-- The lock section of a chunk starts over when its page was evicted in the meantime. -/
def applyChunk (buffer : BufferedBackend) (call : BufferCall) (chunk : Chunk) (rest : List Chunk)
    (world : BufferWorld Inner) : BufferCall × BufferWorld Inner :=
  match call.request with
  | .read _ _ => match world.state.copyOut buffer.config chunk.page chunk.pageOffset chunk.len with
    | none => ({ call with phase := .checking }, world)
    | some (bytes, state) => (call.goOn rest (call.output ++ bytes), { world with state })
  | request => match world.state.applyPatch chunk.page chunk.pageOffset ((request.bytes.drop chunk.pos).take chunk.len) with
    | none => ({ call with phase := .checking }, world)
    | some state => ({ call with phase := .limiting }, { world with state })

/-- The steps of a chunk; a page is loaded without the lock. -/
def chunkTurn (buffer : BufferedBackend) (call : BufferCall) (chunk : Chunk) (rest : List Chunk)
    (world : BufferWorld Inner) : BufferCall × BufferWorld Inner :=
  match call.phase with
  | .checking =>
      ({ call with phase := if world.state.pages.contains chunk.page then .applying else .loading }, world)
  | .loading => match buffer.loadPage chunk.page call.devSize world with
    | (.error error, world) => (call.fail error, world)
    | (.ok bytes, world) => ({ call with phase := .loaded bytes }, world)
  | .loaded bytes => ({ call with phase := .applying }, world.update (.insertLoaded buffer.config chunk.page bytes))
  | .applying => buffer.applyChunk call chunk rest world
  | .limiting =>
      let victims := world.state.victims buffer.config
      if victims = [] then (call.goOn rest call.output, world)
      else ({ call with phase := .flushing (victims.map fun page => (page, .waiting)) }, world)
  | _ => (call, world)

/-- A flush ends with its first error, which drops the writes that still run, or when every upload is done. -/
def settle (buffer : BufferedBackend) (call : BufferCall) (uploads : List (Nat × BufferedBackend.WritePhase))
    (world : BufferWorld Inner) : BufferCall × BufferWorld Inner :=
  match uploads.findSome? fun upload => upload.2.error? with
  | some error => (call.fail error, buffer.dropWrites uploads world)
  | none =>
      if uploads.all fun upload => upload.2.isDone then
        match call.request with
        | .flush => ({ call with phase := .syncing }, world)
        | _ => (call.goOn (call.pieces.drop 1) call.output, world)
      else (call, world)

/-- One lock section or one inner call of a call. -/
def advance (buffer : BufferedBackend) (call : BufferCall) (world : BufferWorld Inner) :
    BufferCall × BufferWorld Inner :=
  match call.phase with
  | .entering => buffer.enter call world
  | .sized size => buffer.learnSize call size world
  | .collecting =>
      let dirty := world.state.dirtyIndices
      ({ call with phase := if dirty = [] then .syncing else .flushing (dirty.map fun page => (page, .waiting)) }, world)
  | .flushing uploads => buffer.settle call uploads world
  | .syncing => match BufferWorld.callInner BlobBackend.flush world with
    | (.error error, world) => (call.fail error, world)
    | (.ok (), world) => (call.goOn [] [], world)
  | .returned _ => (call, world)
  | _ => match call.pieces with
    | [] => (call, world)
    | chunk :: rest => buffer.chunkTurn call chunk rest world

/-- One turn, where it is enabled; only a flush with a time limit can run out of time. -/
def step (buffer : BufferedBackend) (sys : BufferSystem Inner) : BufferTurn → Option (BufferSystem Inner)
  | .issue request => some { sys with calls := sys.calls ++ [.issued request] }
  | .call index => match sys.calls[index]? with
    | none => none
    | some call =>
        let moved := buffer.advance call sys.world
        some ⟨moved.2, sys.calls.set index moved.1⟩
  | .upload index slot => match sys.calls[index]? with
    | some ⟨request, devSize, pieces, output, .flushing uploads⟩ => match uploads[slot]? with
      | none => none
      | some (page, phase) =>
          let moved := buffer.flushIndex page phase sys.world
          some ⟨moved.2, sys.calls.set index
            ⟨request, devSize, pieces, output, .flushing (uploads.set slot (page, moved.1))⟩⟩
    | _ => none
  | .expire index => match sys.calls[index]? with
    | some ⟨request, devSize, pieces, output, .flushing uploads⟩ =>
        if buffer.config.flushIoTimeoutSecs = 0 then none
        else
          let secs := buffer.config.flushIoTimeoutSecs
          let dropped := buffer.dropWrites uploads sys.world
          some ⟨{ dropped with clock := dropped.clock + 1 }, sys.calls.set index
            (BufferCall.fail ⟨request, devSize, pieces, output, .flushing uploads⟩
              [s!"flush timed out after {secs}s (flush_io_timeout_secs exceeded)"])⟩
    | _ => none

/-- The calls come one at a time, no flush runs out of time, and every upload succeeds. -/
def serial (buffer : BufferedBackend) (sys : BufferSystem Inner) : BufferTurn → Bool
  | .issue _ => sys.idle
  | .call _ => true
  | .upload index slot => match sys.calls[index]? with
    | some ⟨_, _, _, _, .flushing uploads⟩ => match uploads[slot]? with
      | some (page, phase) => (buffer.flushIndex page phase sys.world).1.error?.isNone
      | none => true
    | _ => true
  | .expire _ => false

end BufferedBackend
end UblkAzblob

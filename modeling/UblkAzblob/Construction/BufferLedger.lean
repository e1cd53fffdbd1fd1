import UblkAzblob.Construction.BufferedConcurrent

namespace UblkAzblob
open Storage

namespace BufferedBackend

/-- An upload that is running changes the store under its page. -/
def WritePhase.isWriting : WritePhase → Bool
  | .writing _ _ _ => true
  | _ => false

end BufferedBackend

namespace BufferCall

/-- The uploads of the flush that a call runs. -/
def uploads (call : BufferCall) : List (Nat × BufferedBackend.WritePhase) :=
  match call.phase with
  | .flushing uploads => uploads
  | _ => []

def isFlushing (call : BufferCall) : Bool :=
  match call.phase with
  | .flushing _ => true
  | _ => false

end BufferCall

namespace BufferSystem

variable {Inner : Type}

/-- The uploads of all flushes in flight. -/
def pending (sys : BufferSystem Inner) : List (Nat × BufferedBackend.WritePhase) :=
  sys.calls.flatMap BufferCall.uploads

def upload? (sys : BufferSystem Inner) (index slot : Nat) : Option (Nat × BufferedBackend.WritePhase) :=
  sys.calls[index]?.bind fun call => call.uploads[slot]?

end BufferSystem

/-- The ledger of a run keeps what the system forgets: the contents after every applied chunk, how often an upload of a
page was carried out or dropped, that number when a call last read its page, and the applied chunks when it was issued. -/
structure BufferLedger (Inner : Type) where
  sys : BufferSystem Inner
  applied : Nat
  version : Nat → Store
  landings : Nat → Nat
  seen : Nat → Nat
  began : Nat → Nat

namespace BufferLedger

variable {Inner : Type}

def start (inner : Inner) (clock : Nat) (contents : Store) : BufferLedger Inner :=
  ⟨.start inner clock, 0, fun _ => contents, fun _ => 0, fun _ => 0, fun _ => 0⟩

def note {Value : Type} (values : Nat → Value) (key : Nat) (value : Value) : Nat → Value :=
  fun other => if other = key then value else values other

/-- The running ones of these uploads are carried out, or dropped half way. -/
def landed (ledger : BufferLedger Inner) (uploads : List (Nat × BufferedBackend.WritePhase)) : Nat → Nat :=
  fun page => ledger.landings page + uploads.countP fun upload => upload.1 = page && upload.2.isWriting

/-- A chunk of a write or of a clear is applied. -/
def patched (ledger : BufferLedger Inner) (offset : Nat) (patch : List UInt8) : BufferLedger Inner :=
  { ledger with
    applied := ledger.applied + 1
    version := note ledger.version (ledger.applied + 1) (splice (ledger.version ledger.applied) offset patch) }

end BufferLedger

namespace BufferedBackend
open BufferLedger

variable {Inner : Type} [BlobBackend Inner]

/-- What the next step of a call adds to the ledger. -/
def witness (buffer : BufferedBackend) (index : Nat) (call : BufferCall) (ledger : BufferLedger Inner) :
    BufferLedger Inner :=
  match call.phase, call.pieces with
  | .loading, chunk :: _ => { ledger with seen := note ledger.seen index (ledger.landings chunk.page) }
  | .applying, chunk :: _ => match call.request with
    | .read _ _ => ledger
    | request =>
        let patch := (request.bytes.drop chunk.pos).take chunk.len
        match ledger.sys.world.state.applyPatch chunk.page chunk.pageOffset patch with
        | none => ledger
        | some _ => ledger.patched (chunk.page * buffer.config.pageSize + chunk.pageOffset) patch
  | .flushing uploads, _ => match uploads.findSome? fun upload => upload.2.error? with
    | some _ => { ledger with landings := ledger.landed uploads }
    | none => ledger
  | _, _ => ledger

/-- What a turn adds to the ledger. -/
def annotate (buffer : BufferedBackend) (ledger : BufferLedger Inner) : BufferTurn → BufferLedger Inner
  | .issue _ => { ledger with began := note ledger.began ledger.sys.calls.length ledger.applied }
  | .call index => match ledger.sys.calls[index]? with
    | none => ledger
    | some call => buffer.witness index call ledger
  | .upload index slot => { ledger with landings := ledger.landed (ledger.sys.upload? index slot).toList }
  | .expire index => match ledger.sys.calls[index]? with
    | none => ledger
    | some call => { ledger with landings := ledger.landed call.uploads }

/-- One turn of the system, with its entry in the ledger. -/
def record (buffer : BufferedBackend) (ledger : BufferLedger Inner) (turn : BufferTurn) :
    Option (BufferLedger Inner) :=
  (buffer.step ledger.sys turn).map fun sys => { buffer.annotate ledger turn with sys }

/-- A dirty page is only copied for an upload while no other upload of it is running. -/
def snapshotAlone (buffer : BufferedBackend) (ledger : BufferLedger Inner) : BufferTurn → Bool
  | .upload index slot => match ledger.sys.upload? index slot with
    | some (page, .waiting) => (ledger.sys.world.state.snapshot buffer.config page).isNone ||
        ledger.sys.pending.all fun upload => !(upload.1 = page && upload.2.isWriting)
    | _ => true
  | _ => true

/-- A loaded page is only inserted while no upload of it was carried out since it was read, or where the page became
resident in the meantime. -/
def freshInsert (ledger : BufferLedger Inner) : BufferTurn → Bool
  | .call index => match ledger.sys.calls[index]? with
    | some ⟨_, _, chunk :: _, _, .loaded _⟩ =>
        ledger.sys.world.state.pages.contains chunk.page || ledger.seen index = ledger.landings chunk.page
    | _ => true
  | _ => true

/-- The 64-bit number of the next change does not wrap. -/
def countsOn (ledger : BufferLedger Inner) (_ : BufferTurn) : Bool :=
  ledger.sys.world.state.seqCounter + 1 < 2 ^ 64

/-- At most one flush is in flight. -/
def oneFlush (ledger : BufferLedger Inner) (_ : BufferTurn) : Bool :=
  (ledger.sys.calls.countP BufferCall.isFlushing) ≤ 1

end BufferedBackend
end UblkAzblob

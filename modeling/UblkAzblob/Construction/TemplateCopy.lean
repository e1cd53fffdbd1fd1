import UblkAzblob.Construction.PageBlob

namespace UblkAzblob
open Storage

section Settings

/-- The variables that tune a copy, where they are set, and the number of processors. -/
structure CopyEnv where
  chunkBytes : Option String
  concurrency : Option String
  cpuCount : Nat

/-- The size of one request: whole sectors, at most what the service takes. -/
def copyChunkBytes (env : CopyEnv) : Nat :=
  match env.chunkBytes.bind fun text => parseUnsigned (2 ^ 64) text.toList with
  | some bytes => min (max (bytes / 512 * 512) 512) maxPageRequestBytes
  | none => maxPageRequestBytes

/-- How many requests are in flight at once. -/
def pipelineDepth (env : CopyEnv) : Nat :=
  match env.concurrency.bind fun text => parseUnsigned (2 ^ 64) text.toList with
  | some depth => if 0 < depth then depth else env.cpuCount
  | none => env.cpuCount

/-- A token for the source is minted again after about this many bytes. -/
def batchBytes : Nat := 8 * 1024 * 1024 * 1024

def chunksPerBatch (env : CopyEnv) : Nat := max (batchBytes / copyChunkBytes env) (pipelineDepth env)

end Settings

section Streamed

variable {Source Dest : Type} [BlobBackend Source] [BlobBackend Dest]

def onSource {Value : Type} (action : Action Source Value) : Action (Source × Dest) Value := fun both =>
  let outcome := action both.1
  (outcome.1, (outcome.2, both.2))

def onDest {Value : Type} (action : Action Dest Value) : Action (Source × Dest) Value := fun both =>
  let outcome := action both.2
  (outcome.1, (both.1, outcome.2))

/-- A chunk carries data unless the map of the source says that it is zero. -/
def chunkIsData (ranges : Option (List (Nat × Nat))) (offset len : Nat) : Bool :=
  match ranges with
  | some ranges => rangeIntersects ranges offset len
  | none => true

/-- A chunk without data is cleared, and any other is read and written. -/
def copyStreamedChunk (ranges : Option (List (Nat × Nat))) (offset len : Nat) : Action (Source × Dest) Unit :=
  if chunkIsData ranges offset len then do
    let data ← .withContext s!"read template offset={offset} len={len}" (onSource (BlobBackend.read offset len))
    .withContext s!"write copy offset={offset} len={len}" (onDest (BlobBackend.write offset data))
  else .withContext s!"clear copy offset={offset} len={len}" (onDest (BlobBackend.clear offset len))

/-- The chunks from an offset on; every round advances, so the bytes that are left bound the rounds. -/
def copyStreamedFrom (chunk total : Nat) (ranges : Option (List (Nat × Nat))) : Nat → Nat → Action (Source × Dest) Unit
  | 0, _ => .pure ()
  | rounds + 1, offset =>
      if offset < total then do
        let len := min chunk (total - offset)
        copyStreamedChunk ranges offset len
        copyStreamedFrom chunk total ranges rounds (offset + len)
      else .pure ()

def copyBlobStreamed (env : CopyEnv) (total : Nat) (ranges : Option (List (Nat × Nat))) : Action (Source × Dest) Unit := do
  copyStreamedFrom (copyChunkBytes env) total ranges total 0
  .withContext "flush copied blob" (onDest BlobBackend.flush)

end Streamed

section ServerSide

/-- One request of a copy from a URL. -/
structure CopyChunk where
  offset : Nat
  len : Nat
  isData : Bool

def copyChunk (env : CopyEnv) (total : Nat) (ranges : Option (List (Nat × Nat))) (index : Nat) : CopyChunk :=
  let offset := index * copyChunkBytes env
  let len := min (copyChunkBytes env) (total - offset)
  ⟨offset, len, chunkIsData ranges offset len⟩

/-- The service copies the range from the source, or clears it. -/
def CopyChunk.perform (source : Store) (chunk : CopyChunk) (dest : PageBlob) : PageBlob :=
  if chunk.isData then dest.put chunk.offset (slice source chunk.offset chunk.len)
  else dest.clear chunk.offset chunk.len

/-- The chunks from `batchStart` to `limit` are sent in order, and answered in any order. -/
structure CopyBatch where
  limit : Nat
  next : Nat
  inFlight : List Nat

/-- A copy from a URL; the chunks that the service has performed are history. -/
structure PageCopy where
  dest : PageBlob
  batchStart : Nat
  batch : Option CopyBatch
  performed : List Nat
  outcome : Option (Except Error Unit)

inductive CopyEvent where
  /-- The token of a batch is minted, or not. -/
  | mint (token : Except Error Unit)
  | send
  /-- The service performs a request that was sent; a request that is repeated may be performed again. -/
  | perform (index : Nat)
  | answer (index : Nat)
  | refuse (index : Nat) (error : Error)
  | finishBatch
  | finish

namespace PageCopy

/-- The number of chunks. -/
def chunkCount (env : CopyEnv) (total : Nat) : Nat := (total + copyChunkBytes env - 1) / copyChunkBytes env

def begin (total : Nat) (dest : PageBlob) : PageCopy :=
  ⟨dest, 0, none, [], if total % 512 = 0 then none else some (.error [s!"copy size {total} is not 512-byte aligned"])⟩

/-- The chunks before this one have been sent. -/
def sent (copy : PageCopy) : Nat :=
  match copy.batch with
  | some batch => batch.next
  | none => copy.batchStart

def step (env : CopyEnv) (source : Store) (total : Nat) (ranges : Option (List (Nat × Nat))) (copy : PageCopy) :
    CopyEvent → Option PageCopy
  | .mint token => match copy.outcome, copy.batch, token with
    | none, none, .ok () =>
        if copy.batchStart < chunkCount env total then
          let limit := min (copy.batchStart + chunksPerBatch env) (chunkCount env total)
          some { copy with batch := some ⟨limit, copy.batchStart, []⟩ }
        else none
    | none, none, .error error =>
        if copy.batchStart < chunkCount env total then
          some { copy with outcome := some (.error ("mint copy-source authorization token" :: error)) }
        else none
    | _, _, _ => none
  | .send => match copy.outcome, copy.batch with
    | none, some batch =>
        if batch.next < batch.limit ∧ batch.inFlight.length < pipelineDepth env then
          some { copy with batch := some ⟨batch.limit, batch.next + 1, batch.inFlight ++ [batch.next]⟩ }
        else none
    | _, _ => none
  | .perform index =>
      let chunk := copyChunk env total ranges index
      if index < copy.sent ∧ copy.dest.takes chunk.offset chunk.len then
        some { copy with dest := chunk.perform source copy.dest, performed := copy.performed ++ [index] }
      else none
  | .answer index => match copy.outcome, copy.batch with
    | none, some batch =>
        if index ∈ batch.inFlight ∧ index ∈ copy.performed then
          some { copy with batch := some { batch with inFlight := batch.inFlight.erase index } }
        else none
    | _, _ => none
  | .refuse index error => match copy.outcome, copy.batch with
    | none, some batch =>
        let chunk := copyChunk env total ranges index
        let context := if chunk.isData then s!"put page from url offset={chunk.offset} len={chunk.len}"
          else s!"clear pages offset={chunk.offset} len={chunk.len}"
        if index ∈ batch.inFlight then some { copy with outcome := some (.error (context :: error)) } else none
    | _, _ => none
  | .finishBatch => match copy.outcome, copy.batch with
    | none, some batch =>
        if batch.next = batch.limit ∧ batch.inFlight = [] then
          some { copy with batchStart := batch.limit, batch := none }
        else none
    | _, _ => none
  | .finish => match copy.outcome, copy.batch with
    | none, none =>
        if chunkCount env total ≤ copy.batchStart then some { copy with outcome := some (.ok ()) } else none
    | _, _ => none

end PageCopy
end ServerSide
end UblkAzblob

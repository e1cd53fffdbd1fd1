import UblkAzblob.Construction.Backend
import UblkAzblob.Foundation.TextTable

namespace UblkAzblob
open Storage

/-- A page blob of the storage service. -/
structure PageBlob where
  size : Nat
  data : Store

namespace PageBlob

/-- The service takes whole pages inside the blob. -/
def holds (blob : PageBlob) (offset len : Nat) : Bool :=
  offset % 512 = 0 && len % 512 = 0 && 0 < len && offset + len ≤ blob.size

/-- A write of pages is also limited in its length. -/
def takes (blob : PageBlob) (offset len : Nat) : Bool := blob.holds offset len && len ≤ maxPageRequestBytes

def put (offset : Nat) (payload : List UInt8) (blob : PageBlob) : PageBlob :=
  { blob with data := splice blob.data offset payload }

def clear (offset len : Nat) (blob : PageBlob) : PageBlob := { blob with data := zeroed blob.data offset len }

end PageBlob

/-- An answer of the service that is not a success; a transport error has no status. -/
structure ServiceError where
  status : Option Nat
  message : Error

/-- What becomes of a request; one that fails may still have been performed. -/
inductive ServiceAnswer where
  | served
  | failed (performed : Bool) (error : ServiceError)

structure RetryConfig where
  attempts : Nat
  codes : List String

/-- A pattern is a code, the start of a code before a star, or a star for any code. -/
def codeMatches (code : Nat) (pattern : String) : Bool :=
  if pattern = "*" then true
  else if pattern.toList.getLast? = some '*' then pattern.toList.dropLast.isPrefixOf (decimal code)
  else pattern.toList = decimal code

/-- Transport errors are always worth another attempt. -/
def isRetryable (config : RetryConfig) (error : ServiceError) : Bool :=
  match error.status with
  | some code => config.codes.any (codeMatches code)
  | none => true

/-- The backend of one blob and what becomes of its next requests; the Put Page requests that it has issued are
history. -/
structure PageBlobBackend where
  retry : RetryConfig
  blobName : String
  blob : Option PageBlob
  snapshot : Option String
  answers : List ServiceAnswer
  /-- The answers to the next reads of the validity token and of the page ranges. -/
  tokens : List (Except Error (Option String))
  pageRanges : List (Except Error (Option (List (Nat × Nat))))
  puts : List (Nat × Nat)

namespace PageBlobBackend

/-- One request, which the service performs when the blob is there and can take it. -/
def submit {Value : Type} (accepted : PageBlob → Bool) (effect : PageBlob → Value × PageBlob)
    (backend : PageBlobBackend) : Except ServiceError Value × PageBlobBackend :=
  let after := { backend with answers := backend.answers.drop 1 }
  match backend.answers.head?.getD .served, backend.blob with
  | .failed true error, some blob =>
      (.error error, if accepted blob then { after with blob := some (effect blob).2 } else after)
  | .failed _ error, _ => (.error error, after)
  | .served, none => (.error ⟨some 404, ["The specified blob does not exist."]⟩, after)
  | .served, some blob =>
      if accepted blob then (.ok (effect blob).1, { after with blob := some (effect blob).2 })
      else (.error ⟨some 400, ["The value for one of the HTTP headers is not in the correct format."]⟩, after)

/-- A failed attempt is repeated while it is worth it and attempts are left. -/
def withRetry {Value : Type} (config : RetryConfig)
    (attempt : PageBlobBackend → Except ServiceError Value × PageBlobBackend) :
    Nat → PageBlobBackend → Except ServiceError Value × PageBlobBackend
  | 0, backend => attempt backend
  | left + 1, backend => match attempt backend with
    | (.ok value, after) => (.ok value, after)
    | (.error error, after) => if isRetryable config error then withRetry config attempt left after else (.error error, after)

/-- The attempts of a call, with the context of its error. -/
def call {Value : Type} (op range : String)
    (attempt : PageBlobBackend → Except ServiceError Value × PageBlobBackend) : Action PageBlobBackend Value :=
  fun backend =>
    let name := backend.blobName
    match withRetry backend.retry attempt (backend.retry.attempts - 1) backend with
    | (.ok value, after) => (.ok value, after)
    | (.error error, after) => (.error (s!"{op} '{name}' {range}" :: error.message), after)

def checkAligned (name : String) (value : Nat) : Action PageBlobBackend Unit :=
  .ensure (value % 512 = 0) [s!"{name} {value} is not 512-byte aligned"]

def checkWritable (op : String) : Action PageBlobBackend Unit := fun backend =>
  Action.ensure (backend.snapshot = none) [s!"cannot {op}: backend targets a read-only blob snapshot"] backend

def download (offset len : Nat) : PageBlobBackend → Except ServiceError (List UInt8) × PageBlobBackend :=
  submit (fun blob => blob.holds offset len) fun blob => (slice blob.data offset len, blob)

/-- A Put Page request is recorded as it is issued. -/
def uploadPages (offset : Nat) (payload : List UInt8) (backend : PageBlobBackend) :
    Except ServiceError Unit × PageBlobBackend :=
  submit (fun blob => blob.takes offset payload.length) (fun blob => ((), blob.put offset payload))
    { backend with puts := backend.puts ++ [(offset, payload.length)] }

def clearPages (offset len : Nat) : PageBlobBackend → Except ServiceError Unit × PageBlobBackend :=
  submit (fun blob => blob.holds offset len) fun blob => ((), blob.clear offset len)

def getProperties : PageBlobBackend → Except ServiceError Nat × PageBlobBackend :=
  submit (fun _ => true) fun blob => (blob.size, blob)

def read (offset len : Nat) : Action PageBlobBackend (List UInt8) := do
  checkAligned "offset" offset
  checkAligned "len" len
  call "download blob" s!"offset={offset} len={len}" (download offset len)

def write (offset : Nat) (payload : List UInt8) : Action PageBlobBackend Unit := do
  checkWritable "write"
  checkAligned "offset" offset
  let len := payload.length
  checkAligned "data length" len
  call "upload_pages blob" s!"offset={offset} len={len}" (uploadPages offset payload)

def clear (offset len : Nat) : Action PageBlobBackend Unit := do
  checkWritable "clear"
  checkAligned "offset" offset
  checkAligned "len" len
  call "clear_pages blob" s!"offset={offset} len={len}" (clearPages offset len)

/-- A container that exists already is no error. -/
def createContainer : Action PageBlobBackend Unit := fun backend =>
  let after := { backend with answers := backend.answers.drop 1 }
  match backend.answers.head?.getD .served with
  | .served => (.ok (), after)
  | .failed _ error => (if error.status = some 409 then .ok () else .error ("create container" :: error.message), after)

/-- A new blob is zero, and replaces a blob of the name. -/
def putBlob (size : Nat) : Action PageBlobBackend Unit := fun backend =>
  let after := { backend with answers := backend.answers.drop 1 }
  let made := { after with blob := some ⟨size, fun _ => 0⟩ }
  let name := backend.blobName
  match backend.answers.head?.getD .served with
  | .served => (.ok (), made)
  | .failed performed error => (.error (s!"create page blob '{name}' size={size}" :: error.message),
      if performed then made else after)

/-- A blob that exists is not made again: its size has to be the requested one. -/
def ensureBlob (size : Nat) : Action PageBlobBackend Unit := fun backend =>
  let name := backend.blobName
  match getProperties backend with
  | (.ok existing, after) =>
      (if existing = size then .ok ()
        else .error [s!"blob '{name}' already exists with size {existing}, requested {size}"], after)
  | (.error error, after) =>
      if error.status = some 404 then putBlob size after
      else (.error (s!"check existing blob '{name}' before create" :: error.message), after)

def create (size : Nat) : Action PageBlobBackend Unit := do
  checkWritable "create"
  .ensure (size ≠ 0 ∧ size % 512 = 0) [s!"size must be a non-zero multiple of 512 bytes, got {size}"]
  createContainer
  ensureBlob size

def size : Action PageBlobBackend Nat := fun backend =>
  let name := backend.blobName
  match getProperties backend with
  | (.ok size, after) => (.ok size, after)
  | (.error error, after) => (.error (s!"get_properties for blob '{name}'" :: error.message), after)

/-- A dropped write has issued some of its attempts. -/
def abandonWrite (progress offset : Nat) (payload : List UInt8) (backend : PageBlobBackend) : PageBlobBackend :=
  if backend.snapshot = none ∧ offset % 512 = 0 ∧ payload.length % 512 = 0 then
    Nat.repeat (fun backend => (uploadPages offset payload backend).2) progress backend
  else backend

instance : BlobBackend PageBlobBackend where
  create := create
  read := read
  write := write
  clear := clear
  dataRanges backend := (backend.pageRanges.head?.getD (.ok none), { backend with pageRanges := backend.pageRanges.drop 1 })
  flush := .pure ()
  size := size
  etag backend := (backend.tokens.head?.getD (.ok none), { backend with tokens := backend.tokens.drop 1 })
  abandonWrite := abandonWrite

end PageBlobBackend
end UblkAzblob

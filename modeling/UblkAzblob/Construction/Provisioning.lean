import UblkAzblob.Construction.BlobService
import UblkAzblob.Construction.TemplateCopy
import UblkAzblob.Foundation.Interleaving

namespace UblkAzblob
open Storage

section World

/-- The blobs of the service and their snapshots, which never change. -/
structure BlobWorld where
  blobs : BlobAddress → Option PageBlob
  snapshots : BlobAddress → String → Option PageBlob

namespace BlobWorld

def put (world : BlobWorld) (address : BlobAddress) (blob : Option PageBlob) : BlobWorld :=
  { world with blobs := Function.update world.blobs address blob }

/-- The blob, or the snapshot of it, that an address names. -/
def view (world : BlobWorld) (address : BlobAddress) : Option String → Option PageBlob
  | some snapshot => world.snapshots address snapshot
  | none => world.blobs address

end BlobWorld

/-- What becomes of the requests of one call of the controller. -/
structure ProvisionRun where
  client : ClientLib
  env : CopyEnv
  retry : RetryConfig
  statAnswers : List ServiceAnswer
  createAnswers : List ServiceAnswer
  dataRanges : Except Error (Option (List (Nat × Nat)))
  /-- Whether a token can be minted, where the way to authenticate has tokens. -/
  token : AuthConfig → Except Error Unit
  copyEvents : List CopyEvent
  readAnswers : List ServiceAnswer
  writeAnswers : List ServiceAnswer

/-- A call returns a value or an error of the protocol, and always the world it leaves behind. -/
def RpcAction (Value : Type) := BlobWorld → Except RpcError Value × BlobWorld

namespace RpcAction

variable {Value Other : Type}

def pure (value : Value) : RpcAction Value := fun world => (.ok value, world)

def bind (first : RpcAction Value) (next : Value → RpcAction Other) : RpcAction Other := fun world =>
  match first world with
  | (.ok value, after) => next value after
  | (.error error, after) => (.error error, after)

instance : Monad RpcAction where
  pure := pure
  bind := bind

def fail (error : RpcError) : RpcAction Value := fun world => (.error error, world)

/-- The error of a step is reported under a code, with its context in front. -/
def orFail (code : RpcCode) (context : String) (action : Action BlobWorld Value) : RpcAction Value := fun world =>
  (UblkAzblob.orFail code context (action world).1, (action world).2)

end RpcAction

def ofExcept {Value : Type} (result : Except Error Value) : Action BlobWorld Value := fun world => (result, world)

end World

section Template

def trimSlashes (text : String) : String := String.ofList (text.toList.reverse.dropWhile (· = '/')).reverse

/-- A template with a token of its own is read at its own endpoint, and any other at the endpoint of the driver. -/
def templateService (config : DriverConfig) (tmpl : TemplateBlobRef) (secrets : Params) :
    Except Error (String × AuthConfig) :=
  match tmpl.sas with
  | some sas => .ok (trimSlashes tmpl.serviceUrl ++ "/", .sas sas)
  | none => (selectDriverAuth config tmpl.account secrets).map fun auth => (accountEndpoint config tmpl.account, auth)

def buildTemplateBackend (client : ClientLib) (config : DriverConfig) (tmpl : TemplateBlobRef) (secrets : Params) :
    Except Error BlobAddress := do
  let service ← templateService config tmpl secrets
  contextualize "build template container client" (client service.1 tmpl.container service.2)
  pure ⟨service.1, tmpl.container, tmpl.blob⟩

/-- Only identities have tokens that the service can read a source with. -/
def storageBearerToken (run : ProvisionRun) : AuthConfig → Except Error Bool
  | .sharedKey _ _ => .ok false
  | .sas _ => .ok false
  | auth => match run.token auth with
    | .ok () => .ok true
    | .error error => .error ("acquire storage OAuth token for copy-source-authorization" :: error)

/-- The blob that the URL of a template names. -/
def urlAddress (tmpl : TemplateBlobRef) : BlobAddress := ⟨trimSlashes tmpl.serviceUrl ++ "/", tmpl.container, tmpl.blob⟩

def ProvisionRun.backend (run : ProvisionRun) (answers : List ServiceAnswer) (address : BlobAddress)
    (blob : Option PageBlob) : PageBlobBackend := ⟨run.retry, address.blob, blob, none, answers, [], [], []⟩

def unfinishedCopy : Error := ["the copy has not ended"]

/-- The service copies from one blob to another, as the events of the run tell. -/
def copyPagesFromUrl (run : ProvisionRun) (source dest : BlobAddress) (total : Nat)
    (ranges : Option (List (Nat × Nat))) : Action BlobWorld Unit := fun world =>
  match world.blobs source, world.blobs dest with
  | some original, some blob =>
      match execute (PageCopy.step run.env original.data total ranges) (PageCopy.begin total blob) run.copyEvents with
      | some final => (final.outcome.getD (.error unfinishedCopy), world.put dest (some final.dest))
      | none => (.error unfinishedCopy, world)
  | _, _ => (.error ["The specified resource does not exist."], world)

def streamCopy (run : ProvisionRun) (source dest : BlobAddress) (total : Nat) (ranges : Option (List (Nat × Nat))) :
    Action BlobWorld Unit := fun world =>
  let outcome := copyBlobStreamed run.env total ranges
    (run.backend run.readAnswers source (world.blobs source), run.backend run.writeAnswers dest (world.blobs dest))
  (outcome.1, world.put dest outcome.2.2.blob)

/-- A map of the source that cannot be had is none. -/
def ProvisionRun.ranges (run : ProvisionRun) : Option (List (Nat × Nat)) :=
  match run.dataRanges with
  | .ok ranges => ranges
  | .error _ => none

/-- A source with a token of its own needs no other. -/
def copyToken (run : ProvisionRun) (tmpl : TemplateBlobRef) (auth : AuthConfig) : Action BlobWorld Bool :=
  if tmpl.sas.isSome then ofExcept (.ok false)
  else .withContext "mint copy-source authorization token" (ofExcept (storageBearerToken run auth))

/-- The service copies the template when it can read the source, and the driver does it otherwise. -/
def copyTemplate (run : ProvisionRun) (tmpl : TemplateBlobRef) (source dest : BlobAddress) (auth : AuthConfig)
    (total : Nat) : Action BlobWorld Unit := do
  let token ← copyToken run tmpl auth
  if tmpl.sas.isSome || token then copyPagesFromUrl run (urlAddress tmpl) dest total run.ranges
  else streamCopy run source dest total run.ranges

end Template

section Create

def createBlob (run : ProvisionRun) (address : BlobAddress) (size : Nat) : Action BlobWorld Unit := fun world =>
  let outcome := PageBlobBackend.create size (run.backend run.createAnswers address (world.blobs address))
  (outcome.1, world.put address outcome.2.blob)

def statTemplate (run : ProvisionRun) (tmpl : TemplateBlobRef) (address : BlobAddress) : Action BlobWorld Nat :=
  fun world => ((PageBlobBackend.size (run.backend run.statAnswers address (world.view address tmpl.snapshot))).1, world)

/-- The names of the claim that a request is made for. -/
def pvcName (request : CreateVolumeRequest) : String := (request.parameters "csi.storage.k8s.io/pvc/name").getD ""

def pvcNamespace (request : CreateVolumeRequest) : String :=
  (request.parameters "csi.storage.k8s.io/pvc/namespace").getD ""

def requestedBytes (request : CreateVolumeRequest) : Nat := roundUp512 (max request.requiredBytes 0).toNat

def ownAccount (config : DriverConfig) (request : CreateVolumeRequest) : String :=
  storageAccountFor config request (pvcName request) (pvcNamespace request)

def ownContainer (config : DriverConfig) (request : CreateVolumeRequest) : String :=
  containerFor config request (pvcName request) (pvcNamespace request)

def ownBlob (request : CreateVolumeRequest) : String := blobPath request (pvcName request) (pvcNamespace request)

def ownVolume (config : DriverConfig) (request : CreateVolumeRequest) (size : Nat) (fromTemplate : Bool) : Volume :=
  readWriteVolume config request (ownAccount config request) (ownContainer config request) (ownBlob request) size
    fromTemplate

/-- One call of the controller, with the blobs that it creates and copies. -/
def provision (lib : UrlLib) (config : DriverConfig) (run : ProvisionRun) (request : CreateVolumeRequest) :
    RpcAction Volume :=
  if request.name = "" then .fail ⟨.invalidArgument, "volume name is required"⟩
  else
    let own := ofExcept (buildBackend run.client config (ownAccount config request) (ownContainer config request)
      (ownBlob request) request.secrets)
    match templateUrl request with
    | none => do
        let backend ← .orFail .internal "build backend: " own
        .orFail .internal "create page blob: " (createBlob run backend.1 (requestedBytes request))
        pure (ownVolume config request (requestedBytes request) false)
    | some url => do
        let tmpl ← .orFail .invalidArgument "templateBlobUrl: " (ofExcept (parseBlobUrl lib url))
        let source ← .orFail .internal "build template backend: "
          (ofExcept (buildTemplateBackend run.client config tmpl request.secrets))
        let sourceSize ← .orFail .internal "stat template blob: " (statTemplate run tmpl source)
        if tmpl.snapshot.isSome then pure (readOnlyVolume request tmpl sourceSize)
        else do
          let size := roundUp512 (max sourceSize (requestedBytes request))
          let backend ← .orFail .internal "build backend: " own
          .orFail .internal "create page blob: " (createBlob run backend.1 size)
          .orFail .internal "copy template blob: " (copyTemplate run tmpl source backend.1 backend.2 sourceSize)
          pure (ownVolume config request size true)

end Create
end UblkAzblob

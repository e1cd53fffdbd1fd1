import UblkAzblob.Construction.VolumeMeta

namespace UblkAzblob
open Storage

section BlobUrl

/-- The parts of a URL as the URL library reports them. -/
structure ParsedUrl where
  scheme : String
  host : Option String
  port : Option Nat
  /-- The segments of the path, between its slashes. -/
  pathSegments : List String
  queryPairs : List (String × String)

/-- The URL library and the parser of IP addresses. -/
structure UrlLib where
  parse : String → Except Error ParsedUrl
  isIpAddr : String → Bool
  encodePairs : List (String × String) → String

structure TemplateBlobRef where
  serviceUrl : String
  account : String
  container : String
  blob : String
  snapshot : Option String
  sas : Option String

/-- The account is the first label of a host with several labels that is not an address. -/
def isSubdomainHost (lib : UrlLib) (host : String) : Bool :=
  let isIp := lib.isIpAddr host || (host.toList.head? = some '[' && host.toList.getLast? = some ']')
  !isIp && host.toList.contains '.'

/-- The last snapshot of a query counts. -/
def querySnapshot (pairs : List (String × String)) : Option String :=
  (pairs.reverse.find? fun pair => pair.1 = "snapshot").map Prod.snd

/-- The rest of a query is a token when it has a signature. -/
def querySas (lib : UrlLib) (pairs : List (String × String)) : Option String :=
  let rest := pairs.filter fun pair => pair.1 ≠ "snapshot"
  if rest.any fun pair => pair.1 = "sig" then some (lib.encodePairs rest) else none

def portSuffix : Option Nat → String
  | none => ""
  | some port => s!":{port}"

def parseBlobUrl (lib : UrlLib) (url : String) : Except Error TemplateBlobRef :=
  match lib.parse url with
  | .error error => .error (s!"parse blob URL: {url}" :: error)
  | .ok parsed => match parsed.host with
    | none => .error ["blob URL has no host"]
    | some host =>
        let segments := parsed.pathSegments.filter fun segment => segment ≠ ""
        let snapshot := querySnapshot parsed.queryPairs
        let sas := querySas lib parsed.queryPairs
        let port := portSuffix parsed.port
        let scheme := parsed.scheme
        if isSubdomainHost lib host then
          let account := String.ofList ((fields '.' host.toList).headD [])
          match segments with
          | container :: first :: rest =>
              .ok ⟨s!"{scheme}://{host}{port}", account, container, "/".intercalate (first :: rest), snapshot, sas⟩
          | _ => .error [s!"blob URL missing container/blob path: {url}"]
        else match segments with
          | account :: container :: first :: rest =>
              .ok ⟨s!"{scheme}://{host}{port}/{account}", account, container, "/".intercalate (first :: rest),
                snapshot, sas⟩
          | _ => .error [s!"blob URL missing account/container/blob path: {url}"]

end BlobUrl

section Identity

def makeVolumeId (account container blob : String) : String := s!"{account}/{container}/{blob}"

def roVolumeIdPrefix : String := "ro:"

def makeVolumeIdRo (account container blob : String) : String := s!"{roVolumeIdPrefix}{account}/{container}/{blob}"

/-- Every occurrence of the pattern is replaced, from left to right; the fuel bounds the text. -/
def replaceFrom (pattern replacement : List Char) : Nat → List Char → List Char
  | 0, text => text
  | _ + 1, [] => []
  | fuel + 1, char :: rest =>
      if pattern <+: char :: rest then
        replacement ++ replaceFrom pattern replacement fuel ((char :: rest).drop pattern.length)
      else char :: replaceFrom pattern replacement fuel rest

def replaceAll (pattern replacement : String) (text : List Char) : List Char :=
  replaceFrom pattern.toList replacement.toList (text.length + 1) text

def expandTemplate (template : String) (pvcName pvcNamespace pvName : String) : List Char :=
  replaceAll "${pv.name}" pvName (replaceAll "${pvc.namespace}" pvcNamespace
    (replaceAll "${pvc.name}" pvcName template.toList))

/-- Slashes at the ends are dropped and repeated ones are collapsed. -/
def sanitizePath (path : List Char) : List Char :=
  ['/'].intercalate ((fields '/' (trimBoth (· = '/') (trimBoth FileCacheBackend.isWhitespace path))).filter
    fun segment => segment ≠ [])

def defaultBlobPathTemplate : String := "ublk-azblob-disk/${pv.name}"

end Identity

section Create

/-- The parameters, secrets and contexts of requests. -/
abbrev Params := String → Option String

inductive RpcCode where
  | invalidArgument
  | failedPrecondition
  | internal
  deriving DecidableEq

structure RpcError where
  code : RpcCode
  message : String
  deriving DecidableEq

/-- The messages of an error in one line, as the alternate format prints them. -/
def printError (error : Error) : String := ": ".intercalate error

/-- An error of a step is reported with its context under a code. -/
def orFail {Value : Type} (code : RpcCode) (context : String) : Except Error Value → Except RpcError Value
  | .ok value => .ok value
  | .error error => .error ⟨code, context ++ printError error⟩

structure DriverConfig where
  account : String
  endpoint : String
  defaultContainer : String
  accountKey : Option String
  useMsi : Bool
  msiClientId : Option String
  useWorkloadIdentity : Bool
  workloadIdentityClientId : Option String
  workloadIdentityTenantId : Option String
  workloadIdentityTokenFile : Option String
  spTenantId : Option String
  spClientId : Option String
  spClientSecret : Option String

structure CreateVolumeRequest where
  name : String
  requiredBytes : Int
  parameters : Params
  secrets : Params

structure Volume where
  capacityBytes : Nat
  volumeId : String
  volumeContext : Params

/-- The answers of the storage service to the steps of one request. -/
structure StorageAnswers where
  buildTemplate : Except Error Unit
  statTemplate : Except Error Nat
  buildBackend : Except Error Unit
  createBlob : String → String → String → Nat → Except Error Unit
  copyTemplate : Except Error Unit

/-- The names of the tuning parameters and of the variables they become. -/
def tuningParams : List (String × String) :=
  [("ioConcurrency", "UBLK_IO_CONCURRENCY"), ("downloadConcurrency", "UBLK_DOWNLOAD_CONCURRENCY"),
    ("uploadConcurrency", "UBLK_UPLOAD_CONCURRENCY"), ("downloadBandwidth", "UBLK_DOWNLOAD_BANDWIDTH"),
    ("uploadBandwidth", "UBLK_UPLOAD_BANDWIDTH"), ("pageSize", "UBLK_PAGE_SIZE"),
    ("maxDirtyPages", "UBLK_MAX_DIRTY_PAGES"), ("maxCachedPages", "UBLK_MAX_CACHED_PAGES"),
    ("idleFlushSecs", "UBLK_IDLE_FLUSH_SECS"), ("forceFlushTimeoutSecs", "UBLK_FORCE_FLUSH_TIMEOUT_SECS"),
    ("flushIoTimeoutSecs", "UBLK_FLUSH_IO_TIMEOUT_SECS"), ("flushConcurrency", "UBLK_FLUSH_CONCURRENCY"),
    ("cacheDir", "UBLK_CACHE_DIR"), ("cachePageSize", "UBLK_CACHE_PAGE_SIZE"),
    ("cacheMaxBytes", "UBLK_CACHE_MAX_BYTES"), ("cacheSharePages", "UBLK_CACHE_SHARE_PAGES"),
    ("cacheBlobIdentity", "UBLK_CACHE_BLOB_IDENTITY"), ("cacheWarmup", "UBLK_CACHE_WARMUP"),
    ("cacheWarmupBytes", "UBLK_CACHE_WARMUP_BYTES"),
    ("cacheWarmupConcurrency", "UBLK_CACHE_WARMUP_CONCURRENCY")]

/-- The listed parameters that are present are copied into the context. -/
def forwardParams (parameters : Params) (keys : List String) (context : Params) : Params :=
  keys.foldl (fun context key => match parameters key with
    | some value => Function.update context key (some value)
    | none => context) context

def forwardTuning (parameters : Params) (context : Params) : Params :=
  forwardParams parameters (tuningParams.map Prod.fst) context

def emptyContext : Params := fun _ => none

def insertParam (key value : String) (context : Params) : Params := Function.update context key (some value)

def roundUp512 (size : Nat) : Nat := max ((size + 511) / 512 * 512) 512

/-- A parameter with variables comes before the secret and the default of the driver. -/
def selectedName (parameters secrets : Params) (parameter secret fallback : String)
    (pvcName pvcNamespace pvName : String) : String :=
  match parameters parameter with
  | some template => String.ofList (expandTemplate template pvcName pvcNamespace pvName)
  | none => (secrets secret).getD fallback

def storageAccountFor (config : DriverConfig) (request : CreateVolumeRequest) (pvcName pvcNamespace : String) : String :=
  selectedName request.parameters request.secrets "storageAccount" "AZURE_STORAGE_ACCOUNT" config.account
    pvcName pvcNamespace request.name

def containerFor (config : DriverConfig) (request : CreateVolumeRequest) (pvcName pvcNamespace : String) : String :=
  selectedName request.parameters request.secrets "container" "AZURE_STORAGE_CONTAINER" config.defaultContainer
    pvcName pvcNamespace request.name

/-- The keys that a read-only template volume takes from the parameters. -/
def templateKeys : List String :=
  ["newBlobFsType", "templateBlobFsType", "templateBlobMountArgsOverwrite", "overlay", "overlayScratchDir"]

/-- The snapshot is mounted directly, and its id names only the blob. -/
def readOnlyVolume (request : CreateVolumeRequest) (tmpl : TemplateBlobRef) (sourceSize : Nat) : Volume :=
  let service := String.ofList (tmpl.serviceUrl.toList.reverse.dropWhile (· = '/')).reverse
  let located := insertParam "size" (toString sourceSize) (insertParam "endpoint" (service ++ "/")
    (insertParam "blob" tmpl.blob (insertParam "container" tmpl.container
      (insertParam "account" tmpl.account emptyContext))))
  let dated := match tmpl.snapshot with
    | some snapshot => insertParam "snapshot" snapshot located
    | none => located
  let signed := match tmpl.sas with
    | some sas => insertParam "sasToken" sas dated
    | none => dated
  ⟨sourceSize, makeVolumeIdRo tmpl.account tmpl.container tmpl.blob,
    forwardTuning request.parameters (forwardParams request.parameters templateKeys signed)⟩

/-- The node gets everything it needs to attach the blob of a read-write volume. -/
def readWriteVolume (config : DriverConfig) (request : CreateVolumeRequest) (account container blob : String)
    (size : Nat) (fromTemplate : Bool) : Volume :=
  let endpoint := if "%s".toList <:+: config.endpoint.toList
    then String.ofList (replaceAll "%s" account config.endpoint.toList)
    else s!"https://{account}.blob.core.windows.net/"
  let located := insertParam "size" (toString size) (insertParam "endpoint" endpoint
    (insertParam "account" account (insertParam "blob" blob (insertParam "container" container emptyContext))))
  let marked := if fromTemplate then insertParam "fromTemplate" "true" located else located
  let typed := forwardParams request.parameters ["newBlobFsType"] marked
  let templated := if fromTemplate
    then forwardParams request.parameters ["templateBlobFsType", "templateBlobMountArgsOverwrite"] typed else typed
  let coordinated := forwardParams request.parameters
    ["coordination", "leaseNamespace", "recoveryTimeoutSecs", "leaseDurationSecs"] templated
  ⟨size, makeVolumeId account container blob, forwardTuning request.parameters coordinated⟩

/-- A template that is set and not empty. -/
def templateUrl (request : CreateVolumeRequest) : Option String :=
  (request.parameters "templateBlobUrl").filter fun url => url ≠ ""

/-- The path of the blob of a volume. -/
def blobPath (request : CreateVolumeRequest) (pvcName pvcNamespace : String) : String :=
  String.ofList (sanitizePath (expandTemplate
    ((request.parameters "blobPathTemplate").getD defaultBlobPathTemplate) pvcName pvcNamespace request.name))

def createVolume (lib : UrlLib) (config : DriverConfig) (answers : StorageAnswers) (request : CreateVolumeRequest) :
    Except RpcError Volume := do
  if request.name = "" then throw ⟨.invalidArgument, "volume name is required"⟩
  let requested := roundUp512 (max request.requiredBytes 0).toNat
  let pvcName := (request.parameters "csi.storage.k8s.io/pvc/name").getD ""
  let pvcNamespace := (request.parameters "csi.storage.k8s.io/pvc/namespace").getD ""
  let account := storageAccountFor config request pvcName pvcNamespace
  let container := containerFor config request pvcName pvcNamespace
  let blob := blobPath request pvcName pvcNamespace
  match templateUrl request with
  | none => do
      orFail .internal "build backend: " answers.buildBackend
      orFail .internal "create page blob: " (answers.createBlob account container blob requested)
      pure (readWriteVolume config request account container blob requested false)
  | some url => do
      let tmpl ← orFail .invalidArgument "templateBlobUrl: " (parseBlobUrl lib url)
      orFail .internal "build template backend: " answers.buildTemplate
      let sourceSize ← orFail .internal "stat template blob: " answers.statTemplate
      if tmpl.snapshot.isSome then pure (readOnlyVolume request tmpl sourceSize)
      else do
        let size := roundUp512 (max sourceSize requested)
        orFail .internal "build backend: " answers.buildBackend
        orFail .internal "create page blob: " (answers.createBlob account container blob size)
        orFail .internal "copy template blob: " answers.copyTemplate
        pure (readWriteVolume config request account container blob size true)

end Create
end UblkAzblob

import UblkAzblob.Construction.Controller

namespace UblkAzblob
open Storage

section ChildEnv

/-- The variables of a child process; the last value of a name counts. -/
abbrev ChildEnv := List (String × String)

def envValue (env : ChildEnv) (name : String) : Option String :=
  (env.reverse.find? fun pair => pair.1 = name).map Prod.snd

/-- A node service and the variables that it reads from its own environment. -/
structure NodeConfig where
  nodeId : String
  driver : DriverConfig
  podNamespace : Option String
  inheritedSharePages : Option String
  /-- Whether a path is a directory, or why it cannot be read. -/
  isDir : String → Except Error Bool

/-- The words that turn a switch on, in any case of the letters. -/
def isEnabled (text : String) : Bool :=
  (text.toList.map Char.toLower) ∈ ["true".toList, "1".toList, "yes".toList]

def nonEmpty (text : Option String) : Option String := text.filter fun text => text ≠ ""

/-- The account is in the host or in a segment of the endpoint, or becomes the first segment. -/
def childBlobUrl (lib : UrlLib) (endpoint account container blob : String) (snapshot : Option String) : String :=
  let resolved := replaceAll "%s" account endpoint.toList
  let base := String.ofList (resolved.reverse.dropWhile (· = '/')).reverse
  let accountInHost : Bool := match lib.parse (base ++ "/") with
    | .ok parsed => parsed.host.any (isSubdomainHost lib)
    | .error _ => false
  let accountInPath : Bool := account.toList ∈ fields '/' base.toList
  let url := if accountInHost ∨ accountInPath then s!"{base}/{container}/{blob}"
    else s!"{base}/{account}/{container}/{blob}"
  match snapshot with
  | some snapshot => s!"{url}?snapshot={snapshot}"
  | none => url

def optionalPair (name : String) (value : Option String) : ChildEnv :=
  value.toList.map fun value => (name, value)

/-- The first way of authentication that is configured is passed on. -/
def authEnv (config : DriverConfig) (secrets : Params) : Option ChildEnv :=
  match (secrets "accountKey").or config.accountKey with
  | some key => some [("AZURE_STORAGE_KEY", key)]
  | none =>
      if config.useWorkloadIdentity then
        some ([("AZURE_USE_WORKLOAD_IDENTITY", "1")]
          ++ optionalPair "AZURE_CLIENT_ID" config.workloadIdentityClientId
          ++ optionalPair "AZURE_TENANT_ID" config.workloadIdentityTenantId
          ++ optionalPair "AZURE_FEDERATED_TOKEN_FILE" config.workloadIdentityTokenFile)
      else if config.useMsi ∨ config.msiClientId.isSome then
        some ([("AZURE_USE_MSI", "1")] ++ optionalPair "AZURE_MSI_CLIENT_ID" config.msiClientId)
      else match (secrets "AZURE_TENANT_ID").or config.spTenantId, (secrets "AZURE_CLIENT_ID").or config.spClientId,
          (secrets "AZURE_CLIENT_SECRET").or config.spClientSecret with
        | some tenant, some client, some secret =>
            some [("AZURE_TENANT_ID", tenant), ("AZURE_CLIENT_ID", client), ("AZURE_CLIENT_SECRET", secret)]
        | _, _, _ => none

def noAuthError : Error :=
  ["no auth configured for node publish: provide secret 'accountKey', enable Workload Identity, enable MSI, or "
    ++ "a service principal (AZURE_CLIENT_ID / AZURE_TENANT_ID / AZURE_CLIENT_SECRET)"]

/-- The lease of the cluster is used when the context opts in. -/
def coordinationEnv (node : NodeConfig) (context : Params) : ChildEnv :=
  if (context "coordination").any isEnabled then
    [("UBLK_COORDINATION", "1"), ("UBLK_LEASE_HOLDER", node.nodeId)]
      ++ optionalPair "UBLK_LEASE_NAMESPACE" (nonEmpty ((context "leaseNamespace").or node.podNamespace))
      ++ optionalPair "UBLK_RECOVERY_TIMEOUT_SECS" (nonEmpty (context "recoveryTimeoutSecs"))
      ++ optionalPair "UBLK_LEASE_DURATION_SECS" (nonEmpty (context "leaseDurationSecs"))
  else []

def tuningEnv (context : Params) : ChildEnv :=
  tuningParams.flatMap fun param => optionalPair param.2 (nonEmpty (context param.1))

def cacheSharePages (context : Params) (inherited : Option String) : Bool :=
  ((nonEmpty (context "cacheSharePages")).or (nonEmpty inherited)).any isEnabled

/-- The environment of the child comes from the context, the secrets and the configuration. -/
def childEnv (lib : UrlLib) (node : NodeConfig) (context secrets : Params) (volumeId : String) :
    Except Error ChildEnv :=
  let account := (context "account").getD node.driver.account
  let endpoint := (context "endpoint").getD node.driver.endpoint
  let container := (context "container").getD node.driver.defaultContainer
  match context "blob" with
  | none => .error ["volume context missing 'blob'"]
  | some blob => match authEnv node.driver secrets with
    | none => .error noAuthError
    | some auth =>
        let url := childBlobUrl lib endpoint account container blob (nonEmpty (context "snapshot"))
        let instanceName := if cacheSharePages context node.inheritedSharePages
          then [("UBLK_CACHE_INSTANCE", volumeId)] else []
        .ok ([("UBLK_BLOB_URL", url)] ++ auth ++ coordinationEnv node context
          ++ optionalPair "AZURE_STORAGE_SAS" (nonEmpty (context "sasToken")) ++ tuningEnv context ++ instanceName)

end ChildEnv

section Publish

structure PublishRequest where
  volumeId : String
  targetPath : String
  volumeContext : Params
  secrets : Params
  /-- The capability asks for a raw block device. -/
  rawBlock : Bool

/-- A published volume, with the environment that its child was started with. -/
structure Attached where
  target : String
  env : ChildEnv
  overlay : Option OverlayDirs
  deriving DecidableEq

abbrev AttachedTable := String → Option Attached

inductive FsckMode where
  | off
  | preen
  | force
  deriving DecidableEq

def FsckMode.parse (value : String) : Except Error FsckMode :=
  let word := String.ofList ((FileCacheBackend.trim value).toList.map Char.toLower)
  if word ∈ ["", "false", "off", "no", "none", "0"] then .ok .off
  else if word ∈ ["true", "auto", "preen", "yes", "on", "1"] then .ok .preen
  else if word ∈ ["force", "full"] then .ok .force
  else .error [s!"invalid fsck value \"{word}\"; expected one of false/off, true/preen/auto, or force"]

/-- A directory for the writable layer that the context names has to be there. -/
def checkScratch (node : NodeConfig) (base : String) : Except RpcError Unit :=
  match node.isDir base with
  | .error error => .error ⟨.invalidArgument, s!"overlayScratchDir \"{base}\" is not accessible on this node "
      ++ s!"(must be a pre-created directory): {printError error}"⟩
  | .ok false => .error ⟨.invalidArgument, s!"overlayScratchDir \"{base}\" is not a directory"⟩
  | .ok true => .ok ()

/-- An overlay is stacked only over an immutable snapshot. -/
def publishOverlay (node : NodeConfig) (request : PublishRequest) : Except RpcError (Option OverlayDirs) := do
  let context := request.volumeContext
  if (context "overlay").any isEnabled then
    if nonEmpty (context "snapshot") = none then
      throw ⟨.invalidArgument, "overlay (ephemeral local writes) is only supported for read-only snapshot volumes "
        ++ "(a templateBlobUrl with ?snapshot=)"⟩
    let scratchBase := nonEmpty (context "overlayScratchDir")
    match scratchBase with
    | some base => checkScratch node base
    | none => pure ()
    pure (some (overlayDirs request.targetPath scratchBase request.volumeId))
  else pure none

/-- The checks of a publish before it spawns the child. -/
def preparePublish (lib : UrlLib) (node : NodeConfig) (request : PublishRequest) : Except RpcError Attached := do
  if request.rawBlock then
    throw ⟨.invalidArgument, "raw block volumes are not supported; request a filesystem (Mount) volume"⟩
  let env ← orFail .invalidArgument ""
    (childEnv lib node request.volumeContext request.secrets request.volumeId)
  let overlay ← publishOverlay node request
  let _ ← orFail .invalidArgument "" (FsckMode.parse ((request.volumeContext "fsck").getD ""))
  pure ⟨request.targetPath, env, overlay⟩

/-- The id is the key of the table; the child, its device and the mount are taken to succeed. -/
def nodePublishVolume (lib : UrlLib) (node : NodeConfig) (volumes : AttachedTable) (request : PublishRequest) :
    Except RpcError AttachedTable := do
  if request.volumeId = "" then throw ⟨.invalidArgument, "volume id is required"⟩
  if request.targetPath = "" then throw ⟨.invalidArgument, "target path is required"⟩
  match volumes request.volumeId with
  | some existing =>
      if existing.target = request.targetPath then pure volumes
      else throw ⟨.failedPrecondition, "volume already published at a different target path"⟩
  | none => do
      let attached ← preparePublish lib node request
      pure (Function.update volumes request.volumeId (some attached))

/-- The requests of one node, one after the other. -/
def publishAll (lib : UrlLib) (node : NodeConfig) (requests : List PublishRequest) (volumes : AttachedTable) :
    Except RpcError AttachedTable :=
  requests.foldlM (nodePublishVolume lib node) volumes

end Publish
end UblkAzblob

import UblkAzblob.Construction.Controller
import UblkAzblob.Construction.PageBlob

namespace UblkAzblob
open Storage

section VolumeId

/-- The parts of an id: whether its volume is read-only, the account, the container and the blob. -/
def parseVolumeId (volumeId : String) : Except Error (Bool × String × String × String) :=
  let readOnly : Bool := roVolumeIdPrefix.toList <+: volumeId.toList
  let rest := if readOnly then volumeId.toList.drop roVolumeIdPrefix.length else volumeId.toList
  let parts := splitN '/' 3 rest
  let account := parts.getD 0 []
  let container := parts.getD 1 []
  let blob := parts.getD 2 []
  if account = [] ∨ container = [] ∨ blob = [] then
    .error [s!"malformed volume id '{volumeId}' (expected '[ro:]account/container/blob')"]
  else .ok (readOnly, String.ofList account, String.ofList container, String.ofList blob)

end VolumeId

section Backend

/-- The ways to authenticate against the service. -/
inductive AuthConfig where
  | msi (clientId : Option String)
  | workloadIdentity (clientId tenantId tokenFile : Option String)
  | servicePrincipal (tenantId clientId clientSecret : String)
  | sharedKey (accountName accountKey : String)
  | sas (sasToken : String)
  deriving DecidableEq

def noDriverAuthError : Error :=
  ["no auth configured: provide an account key (secret 'accountKey' or --account-key), enable Workload Identity "
    ++ "(--workload-identity), enable Managed Identity (--msi / --msi-client-id), or a service principal "
    ++ "(AZURE_CLIENT_ID / AZURE_TENANT_ID / AZURE_CLIENT_SECRET)"]

/-- The first way that is configured is used, and the key of a request comes before the key of the driver. -/
def selectDriverAuth (config : DriverConfig) (account : String) (secrets : Params) : Except Error AuthConfig :=
  match (secrets "accountKey").or config.accountKey with
  | some key => .ok (.sharedKey account key)
  | none =>
      if config.useWorkloadIdentity then
        .ok (.workloadIdentity config.workloadIdentityClientId config.workloadIdentityTenantId
          config.workloadIdentityTokenFile)
      else if config.useMsi ∨ config.msiClientId.isSome then .ok (.msi config.msiClientId)
      else match (secrets "AZURE_TENANT_ID").or config.spTenantId, (secrets "AZURE_CLIENT_ID").or config.spClientId,
          (secrets "AZURE_CLIENT_SECRET").or config.spClientSecret with
        | some tenant, some client, some secret => .ok (.servicePrincipal tenant client secret)
        | _, _, _ => .error noDriverAuthError

/-- The endpoint of an account under the configuration of the driver. -/
def accountEndpoint (config : DriverConfig) (account : String) : String :=
  if "%s".toList <:+: config.endpoint.toList then String.ofList (replaceAll "%s" account config.endpoint.toList)
  else s!"https://{account}.blob.core.windows.net/"

/-- A blob of the service, by its endpoint, its container and its name. -/
structure BlobAddress where
  endpoint : String
  container : String
  blob : String
  deriving DecidableEq

/-- The client library builds a client from an endpoint, a container and a way to authenticate. -/
abbrev ClientLib := String → String → AuthConfig → Except Error Unit

/-- The context is put in front of the messages of an error. -/
def contextualize {Value : Type} (context : String) : Except Error Value → Except Error Value
  | .ok value => .ok value
  | .error error => .error (context :: error)

/-- A backend for one blob, with the way it authenticates. -/
def buildBackend (client : ClientLib) (config : DriverConfig) (account container blob : String) (secrets : Params) :
    Except Error (BlobAddress × AuthConfig) := do
  let auth ← selectDriverAuth config account secrets
  let endpoint := accountEndpoint config account
  contextualize "build container client" (client endpoint container auth)
  pure (⟨endpoint, container, blob⟩, auth)

end Backend

section Delete

structure DeleteVolumeRequest where
  volumeId : String
  secrets : Params

/-- A blob that is not there counts as deleted. -/
def deleteBlob (answer : BlobAddress → Except ServiceError Unit) (address : BlobAddress) : Except Error Unit :=
  match answer address with
  | .ok () => .ok ()
  | .error error =>
      if error.status = some 404 then .ok () else .error (s!"delete blob '{address.blob}'" :: error.message)

/-- The result of a call and the blobs that it asked the service to delete. -/
structure DeleteOutcome where
  result : Except RpcError Unit
  deleted : List BlobAddress

/-- A read-only volume shares its blob, so only the other volumes delete theirs. -/
def deleteVolume (client : ClientLib) (answer : BlobAddress → Except ServiceError Unit) (config : DriverConfig)
    (request : DeleteVolumeRequest) : DeleteOutcome :=
  if request.volumeId = "" then ⟨.error ⟨.invalidArgument, "volume id is required"⟩, []⟩
  else match parseVolumeId request.volumeId with
    | .error error => ⟨.error ⟨.invalidArgument, printError error⟩, []⟩
    | .ok (readOnly, account, container, blob) =>
        if readOnly then ⟨.ok (), []⟩
        else match buildBackend client config account container blob request.secrets with
          | .error error => ⟨.error ⟨.internal, "build backend: " ++ printError error⟩, []⟩
          | .ok (address, _) => ⟨orFail .internal "delete page blob: " (deleteBlob answer address), [address]⟩

end Delete
end UblkAzblob

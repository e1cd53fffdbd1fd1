import UblkAzblob.Construction.NodePublish
import UblkAzblob.Construction.Provisioning

namespace UblkAzblob
open Storage

section Delete

/-- The service drops a blob that is there, and answers that it is missing otherwise. -/
def serveDelete (answer : ServiceAnswer) (address : BlobAddress) (world : BlobWorld) :
    Except ServiceError Unit × BlobWorld :=
  match answer with
  | .served =>
      if (world.blobs address).isSome then (.ok (), world.put address none)
      else (.error ⟨some 404, ["The specified blob does not exist."]⟩, world)
  | .failed performed error => (.error error, if performed then world.put address none else world)

/-- What becomes of the request of one call that deletes a volume. -/
structure DeleteRun where
  client : ClientLib
  answer : ServiceAnswer

/-- One call that deletes a volume, with the blob that the service drops for it. -/
def removeVolume (config : DriverConfig) (run : DeleteRun) (request : DeleteVolumeRequest) : RpcAction Unit :=
  fun world =>
    let outcome := deleteVolume run.client (fun address => (serveDelete run.answer address world).1) config request
    (outcome.result, outcome.deleted.foldl (fun world address => (serveDelete run.answer address world).2) world)

end Delete

section Lifecycle

/-- The blob that the child of a volume serves; the child of a snapshot serves none that can be written. -/
def backing (context : Params) : Option BlobAddress :=
  match nonEmpty (context "snapshot") with
  | some _ => none
  | none => do
      let endpoint ← context "endpoint"
      let container ← context "container"
      let blob ← context "blob"
      pure ⟨endpoint, container, blob⟩

/-- A pod writes to the blob of its volume, while it is there. -/
def podWrite (volume : Volume) (content : Store) (world : BlobWorld) : BlobWorld :=
  match backing volume.volumeContext with
  | none => world
  | some address => match world.blobs address with
    | none => world
    | some blob => world.put address (some { blob with data := content })

/-- The calls that reach the controller, and the writes of the pods, to the volumes in the order of their creation. -/
inductive LifecycleEvent where
  | create (run : ProvisionRun) (request : CreateVolumeRequest)
  | delete (run : DeleteRun) (index : Nat) (secrets : Params)
  | write (index : Nat) (content : Store)

/-- The blobs of the service, and the volumes that calls have returned. -/
structure LifecycleState where
  world : BlobWorld
  issued : List Volume

namespace LifecycleState

/-- Only a volume that a call has returned is deleted, by its id, or written to. -/
def step (lib : UrlLib) (config : DriverConfig) (state : LifecycleState) : LifecycleEvent → Option LifecycleState
  | .create run request => match provision lib config run request state.world with
      | (.ok volume, after) => some ⟨after, state.issued ++ [volume]⟩
      | (.error _, after) => some ⟨after, state.issued⟩
  | .delete run index secrets => state.issued[index]?.map fun volume =>
      ⟨(removeVolume config run ⟨volume.volumeId, secrets⟩ state.world).2, state.issued⟩
  | .write index content => state.issued[index]?.map fun volume =>
      ⟨podWrite volume content state.world, state.issued⟩

end LifecycleState
end Lifecycle
end UblkAzblob

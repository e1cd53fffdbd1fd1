import UblkAzblob.Construction.Provisioning
import UblkAzblob.Proof.BlobService
import UblkAzblob.Proof.Delivery
import UblkAzblob.Proof.TemplateCopy

namespace UblkAzblob
open Storage

namespace RpcAction

variable {Value Other : Type} {world after : BlobWorld}

theorem bind_inv {first : RpcAction Value} {next : Value → RpcAction Other} {result : Other}
    (done : (first >>= next) world = (.ok result, after)) :
    ∃ value between, first world = (.ok value, between) ∧ next value between = (.ok result, after) := by
  change bind first next world = _ at done
  unfold bind at done
  cases outcome : first world with
  | mk answer between =>
      rw [outcome] at done
      cases answer with
      | error error => cases done
      | ok value => exact ⟨value, between, rfl, done⟩

theorem orFail_inv {code : RpcCode} {context : String} {action : Action BlobWorld Value} {value : Value}
    (done : RpcAction.orFail code context action world = (.ok value, after)) : action world = (.ok value, after) := by
  unfold RpcAction.orFail at done
  cases outcome : action world with
  | mk answer between =>
      rw [outcome] at done
      cases answer with
      | error error => cases (Prod.mk.inj done).1
      | ok found =>
          obtain ⟨same, rfl⟩ := Prod.mk.inj done
          obtain rfl := Except.ok.inj same
          rfl

/-- A step that succeeds hands its value and its world to the rest. -/
theorem orFail_bind_inv {code : RpcCode} {context : String} {action : Action BlobWorld Value}
    {next : Value → RpcAction Other} {result : Other}
    (done : (RpcAction.orFail code context action >>= next) world = (.ok result, after)) :
    ∃ value between, action world = (.ok value, between) ∧ next value between = (.ok result, after) := by
  obtain ⟨value, between, first, rest⟩ := bind_inv done
  exact ⟨value, between, orFail_inv first, rest⟩

theorem except_bind_inv {code : RpcCode} {context : String} {step : Except Error Value}
    {next : Value → RpcAction Other} {result : Other}
    (done : (RpcAction.orFail code context (ofExcept step) >>= next) world = (.ok result, after)) :
    ∃ value, step = .ok value ∧ next value world = (.ok result, after) := by
  obtain ⟨value, between, first, rest⟩ := orFail_bind_inv done
  obtain ⟨answer, rfl⟩ := Prod.mk.inj first
  exact ⟨value, answer, rest⟩

variable {Inv : BlobWorld → Prop}

theorem bind_keeps {first : RpcAction Value} {next : Value → RpcAction Other} (head : Inv (first world).2)
    (tail : ∀ value after, first world = (.ok value, after) → Inv after → Inv (next value after).2) :
    Inv ((first >>= next) world).2 := by
  change Inv (bind first next world).2
  unfold bind
  cases outcome : first world with
  | mk result after =>
      rw [outcome] at head
      cases result with
      | error error => exact head
      | ok value => exact tail value after outcome head

end RpcAction

section Create

/-- A blob that exists is not reported as missing. -/
def ProvisionRun.Honest (run : ProvisionRun) : Prop :=
  ∀ performed error, .failed performed error ∈ run.createAnswers → error.status ≠ some 404

theorem headAnswer_mem {answers : List ServiceAnswer} {performed : Bool} {error : ServiceError}
    (next : answers.head?.getD .served = .failed performed error) : .failed performed error ∈ answers := by
  cases answers with
  | nil => cases next
  | cons first rest =>
      rw [← show first = .failed performed error from next]
      exact List.mem_cons_self

namespace PageBlobBackend

variable {backend after : PageBlobBackend} {blob : PageBlob} {size : Nat}

/-- The blob is there, and none of the next answers says otherwise. -/
def Present (blob : PageBlob) (backend : PageBlobBackend) : Prop :=
  backend.blob = some blob ∧ ∀ performed error, .failed performed error ∈ backend.answers → error.status ≠ some 404

theorem keeps_createContainer (blob : PageBlob) : Action.Keeps (Present blob) createContainer := by
  intro backend present
  unfold createContainer
  dsimp only
  split
  · exact ⟨present.1, fun performed error member => present.2 performed error (List.mem_of_mem_drop member)⟩
  · exact ⟨present.1, fun performed error member => present.2 performed error (List.mem_of_mem_drop member)⟩

/-- A blob that is there is found with its size, or not at all. -/
theorem getProperties_present (present : Present blob backend) :
    Present blob (getProperties backend).2 ∧ (∀ bytes, (getProperties backend).1 = .ok bytes → bytes = blob.size) ∧
      ∀ error, (getProperties backend).1 = .error error → error.status ≠ some 404 := by
  have rest (performed : Bool) (error : ServiceError) (member : .failed performed error ∈ backend.answers.drop 1) :=
    present.2 performed error (List.mem_of_mem_drop member)
  unfold getProperties submit
  rw [present.1]
  cases next : backend.answers.head?.getD .served with
  | served =>
      refine ⟨⟨rfl, rest⟩, fun bytes same => (Except.ok.inj same).symm, fun error failed => by cases failed⟩
  | failed performed error =>
      have honest := present.2 performed error (headAnswer_mem next)
      cases performed with
      | false =>
          refine ⟨⟨rfl, rest⟩, fun bytes same => (by cases same), fun other failed => ?_⟩
          obtain rfl := Except.error.inj failed
          exact honest
      | true =>
          refine ⟨⟨rfl, rest⟩, fun bytes same => (by cases same), fun other failed => ?_⟩
          obtain rfl := Except.error.inj failed
          exact honest

theorem ensureBlob_present (present : Present blob backend) :
    Present blob (ensureBlob size backend).2 ∧ ((ensureBlob size backend).1 = .ok () → blob.size = size) := by
  obtain ⟨kept, found, honest⟩ := getProperties_present present
  unfold ensureBlob
  dsimp only
  cases outcome : getProperties backend with
  | mk result after =>
      rw [outcome] at kept found honest
      cases result with
      | ok bytes =>
          refine ⟨kept, fun ok => ?_⟩
          dsimp only at ok
          split at ok
          · rename_i same
            exact (found bytes rfl).symm.trans same
          · cases ok
      | error error =>
          dsimp only
          rw [if_neg (honest error rfl)]
          exact ⟨kept, fun ok => by cases ok⟩

/-- A blob that is there is left as it is, and the call succeeds only at its size. -/
theorem create_existing (present : Present blob backend) :
    (create size backend).2.blob = some blob ∧ ((create size backend).1 = .ok () → blob.size = size) := by
  have writable : Action.Keeps (Present blob) (checkWritable "create") := by
    intro state inv
    unfold checkWritable
    exact Action.keeps_ensure _ _ state inv
  have whole : Action.Keeps (Present blob) (create size) := by
    refine Action.keeps_bind writable fun _ _ _ first _ => ?_
    refine Action.keeps_bind (Action.keeps_ensure _ _) (fun _ _ _ second _ => ?_) _ first
    refine Action.keeps_bind (keeps_createContainer blob) (fun _ _ _ third _ => ?_) _ second
    exact (ensureBlob_present third).1
  refine ⟨(whole backend present).1, fun ok => ?_⟩
  have done : create size backend = (.ok (), (create size backend).2) := Prod.ext ok rfl
  obtain ⟨_, _, checked, rest⟩ := Action.bind_inv done
  obtain ⟨_, rfl⟩ := Action.ensure_ok checked
  obtain ⟨_, _, sized, more⟩ := Action.bind_inv rest
  obtain ⟨_, rfl⟩ := Action.ensure_ok sized
  obtain ⟨_, between, container, last⟩ := Action.bind_inv more
  have there := keeps_createContainer blob _ present
  rw [container] at there
  exact (ensureBlob_present there).2 (congrArg Prod.fst last)

/-- A call that succeeds leaves a blob of the size. -/
theorem create_ok (done : create size backend = (.ok (), after)) : ∃ made, after.blob = some made ∧ made.size = size := by
  obtain ⟨_, _, writable, rest⟩ := Action.bind_inv done
  obtain ⟨_, rfl⟩ := Action.ensure_ok writable
  obtain ⟨_, _, sized, more⟩ := Action.bind_inv rest
  obtain ⟨_, rfl⟩ := Action.ensure_ok sized
  obtain ⟨_, between, _, last⟩ := Action.bind_inv more
  unfold ensureBlob at last
  dsimp only at last
  cases properties : getProperties between with
  | mk result left =>
      rw [properties] at last
      cases result with
      | ok existing =>
          obtain ⟨blob, _, kept, sized⟩ := getProperties_ok properties
          obtain ⟨same, rfl⟩ := Prod.mk.inj last
          refine ⟨blob, kept, ?_⟩
          split at same
          · rename_i equal
            exact sized.trans equal
          · cases same
      | error error =>
          dsimp only at last
          split at last
          · unfold putBlob at last
            dsimp only at last
            split at last
            · obtain rfl := (Prod.mk.inj last).2
              exact ⟨_, rfl, rfl⟩
            · cases (Prod.mk.inj last).1
          · cases (Prod.mk.inj last).1

end PageBlobBackend
end Create

section Copy

/-- A streamed copy keeps the size of its destination, even when it fails. -/
theorem copyBlobStreamed_size (env : CopyEnv) (total : Nat) (ranges : Option (List (Nat × Nat))) (size : Nat) :
    Action.Keeps (fun both : PageBlobBackend × PageBlobBackend => both.2.Sized size)
      (copyBlobStreamed env total ranges) := by
  have reads (offset len : Nat) : Action.Keeps (fun both : PageBlobBackend × PageBlobBackend => both.2.Sized size)
      (onSource (BlobBackend.read offset len)) := fun _ kept => kept
  have writes (offset : Nat) (payload : List UInt8) :
      Action.Keeps (fun both : PageBlobBackend × PageBlobBackend => both.2.Sized size)
        (onDest (BlobBackend.write offset payload)) :=
    fun both kept => PageBlobBackend.keeps_write offset payload both.2 kept
  have clears (offset len : Nat) : Action.Keeps (fun both : PageBlobBackend × PageBlobBackend => both.2.Sized size)
      (onDest (BlobBackend.clear offset len)) := fun both kept => PageBlobBackend.keeps_clear offset len both.2 kept
  have chunk (offset len : Nat) : Action.Keeps (fun both : PageBlobBackend × PageBlobBackend => both.2.Sized size)
      (copyStreamedChunk ranges offset len) := by
    unfold copyStreamedChunk
    split
    · refine Action.keeps_bind (Action.keeps_withContext (reads offset len)) fun _ _ _ kept _ => ?_
      exact Action.keeps_withContext (writes offset _) _ kept
    · exact Action.keeps_withContext (clears offset len)
  have rounds (count offset : Nat) : Action.Keeps (fun both : PageBlobBackend × PageBlobBackend => both.2.Sized size)
      (copyStreamedFrom (copyChunkBytes env) total ranges count offset) := by
    induction count generalizing offset with
    | zero => exact fun _ kept => kept
    | succ count ih =>
        rw [copyStreamedFrom]
        split
        · exact Action.keeps_bind (chunk _ _) fun _ _ _ kept _ => ih _ _ kept
        · exact fun _ kept => kept
  have flushes : Action.Keeps (fun both : PageBlobBackend × PageBlobBackend => both.2.Sized size)
      (onDest BlobBackend.flush) := fun _ kept => kept
  exact Action.keeps_bind (rounds _ _) fun _ _ _ kept _ => Action.keeps_withContext flushes _ kept

theorem pageCopy_step_size {env : CopyEnv} {source : Store} {total : Nat} {ranges : Option (List (Nat × Nat))}
    {copy next : PageCopy} {event : CopyEvent} (taken : copy.step env source total ranges event = some next) :
    next.dest.size = copy.dest.size := by
  cases event with
  | perform index =>
      rw [PageCopy.step] at taken
      split at taken
      · obtain rfl := Option.some.inj taken
        unfold CopyChunk.perform
        split <;> rfl
      · cases taken
  | mint token =>
      simp only [PageCopy.step] at taken
      grind
  | send => grind [PageCopy.step]
  | answer index => grind [PageCopy.step]
  | refuse index error => grind [PageCopy.step]
  | finishBatch => grind [PageCopy.step]
  | finish => grind [PageCopy.step]

/-- A copy by the service keeps the size of its destination. -/
theorem pageCopy_size {env : CopyEnv} {source : Store} {total : Nat} {ranges : Option (List (Nat × Nat))}
    {base : PageBlob} {events : List CopyEvent} {final : PageCopy}
    (run : execute (PageCopy.step env source total ranges) (PageCopy.begin total base) events = some final) :
    final.dest.size = base.size := by
  have kept := @execute_preserves _ _ (PageCopy.step env source total ranges)
    (fun copy : PageCopy => copy.dest.size = base.size)
    (fun _ _ _ kept taken => (pageCopy_step_size taken).trans kept)
  exact kept rfl run

end Copy

section World

variable {lib : UrlLib} {config : DriverConfig} {request : CreateVolumeRequest} {run : ProvisionRun}
  {world after : BlobWorld}

/-- The blob that a request resolves to. -/
def ownAddress (config : DriverConfig) (request : CreateVolumeRequest) : BlobAddress :=
  ⟨accountEndpoint config (ownAccount config request), ownContainer config request, ownBlob request⟩

/-- The address that the driver reads a template at. -/
def templateAddress (config : DriverConfig) (tmpl : TemplateBlobRef) : BlobAddress :=
  ⟨if tmpl.sas.isSome then trimSlashes tmpl.serviceUrl ++ "/" else accountEndpoint config tmpl.account,
    tmpl.container, tmpl.blob⟩

theorem buildTemplateBackend_address {client : ClientLib} {tmpl : TemplateBlobRef} {secrets : Params}
    {address : BlobAddress} (built : buildTemplateBackend client config tmpl secrets = .ok address) :
    address = templateAddress config tmpl := by
  obtain ⟨⟨serviceUrl, auth⟩, chosen, rest⟩ := except_bind built
  obtain ⟨_, _, made⟩ := except_bind rest
  obtain rfl := Except.ok.inj made
  unfold templateService at chosen
  unfold templateAddress
  cases sas : tmpl.sas with
  | some token =>
      rw [sas] at chosen
      obtain ⟨rfl, rfl⟩ := Prod.mk.inj (Except.ok.inj chosen)
      rfl
  | none =>
      rw [sas] at chosen
      cases selected : selectDriverAuth config tmpl.account secrets with
      | error error =>
          rw [selected] at chosen
          cases chosen
      | ok auth =>
          rw [selected] at chosen
          obtain ⟨rfl, rfl⟩ := Prod.mk.inj (Except.ok.inj chosen)
          rfl

theorem BlobWorld.put_same {address : BlobAddress} {blob : Option PageBlob} (same : world.blobs address = blob) :
    world.put address blob = world := by
  unfold BlobWorld.put
  rw [← same, Function.update_eq_self]

@[simp] theorem BlobWorld.put_blobs (address : BlobAddress) (blob : Option PageBlob) :
    (world.put address blob).blobs address = blob := Function.update_self _ _ _

theorem BlobWorld.put_other {address other : BlobAddress} {blob : Option PageBlob} (different : other ≠ address) :
    (world.put address blob).blobs other = world.blobs other := Function.update_of_ne different _ _

/-- Where the copy of a template reads it: at its URL when the service copies, else where the driver reads it. -/
def copyAddress (config : DriverConfig) (run : ProvisionRun) (auth : AuthConfig) (tmpl : TemplateBlobRef) : BlobAddress :=
  if tmpl.sas.isSome ∨ storageBearerToken run auth = .ok true then urlAddress tmpl else templateAddress config tmpl

/-- A template that is copied ends up at the start of the blob. -/
theorem copyTemplate_ok {tmpl : TemplateBlobRef} {dest : BlobAddress} {auth : AuthConfig} {total : Nat}
    {blob original : PageBlob} (present : world.blobs dest = some blob)
    (stated : world.blobs (templateAddress config tmpl) = some original) (sized : original.size = total)
    (covers : ∀ source, world.blobs (copyAddress config run auth tmpl) = some source →
      MapCovers run.ranges source.data total)
    (done : copyTemplate run tmpl (templateAddress config tmpl) dest auth total world = (.ok (), after)) :
    ∃ source, world.blobs (copyAddress config run auth tmpl) = some source ∧
      after = world.put dest (some (blob.put 0 (slice source.data 0 total))) := by
  obtain ⟨token, between, minted, rest⟩ := Action.bind_inv done
  have chosen : between = world ∧ ((tmpl.sas.isSome || token) = true ↔
      tmpl.sas.isSome ∨ storageBearerToken run auth = .ok true) := by
    unfold copyToken at minted
    cases signed : tmpl.sas.isSome with
    | true =>
        rw [signed, if_pos rfl] at minted
        exact ⟨(Prod.mk.inj minted).2.symm, by simp⟩
    | false =>
        rw [signed, if_neg (by decide)] at minted
        obtain ⟨answer, rfl⟩ := Prod.mk.inj (Action.withContext_ok minted)
        rw [answer]
        simp
  obtain ⟨rfl, side⟩ := chosen
  split at rest
  · rename_i server
    have url : copyAddress config run auth tmpl = urlAddress tmpl := if_pos (side.mp server)
    rw [url] at covers ⊢
    unfold copyPagesFromUrl at rest
    rw [present] at rest
    cases found : between.blobs (urlAddress tmpl) with
    | none =>
        rw [found] at rest
        cases (Prod.mk.inj rest).1
    | some source =>
        rw [found] at rest
        dsimp only at rest
        split at rest
        · rename_i final ran
          obtain ⟨outcome, rfl⟩ := Prod.mk.inj rest
          cases answer : final.outcome with
          | none =>
              rw [answer] at outcome
              cases outcome
          | some result =>
              rw [answer] at outcome
              obtain rfl : result = .ok () := outcome
              have copied := pageCopy_exact (covers source found) ran answer
              exact ⟨source, rfl, by rw [copied]⟩
        · cases (Prod.mk.inj rest).1
  · rename_i client
    have local' : copyAddress config run auth tmpl = templateAddress config tmpl :=
      if_neg fun server => client (side.mpr server)
    rw [local'] at covers ⊢
    obtain ⟨answer, rfl⟩ := Prod.mk.inj rest
    have reader : (run.backend run.readAnswers (templateAddress config tmpl)
        (between.blobs (templateAddress config tmpl))).blob = some ⟨total, original.data⟩ := by
      change between.blobs _ = _
      rw [stated, ← sized]
    have copied := copyBlobStreamed_exact (covers original stated) reader
      (show (run.backend run.writeAnswers dest (between.blobs dest)).blob = some blob from present) (Prod.ext answer rfl)
    refine ⟨original, stated, ?_⟩
    rw [copied.1]

/-- The template of a request that is copied. -/
def copiedTemplate (lib : UrlLib) (request : CreateVolumeRequest) : Option TemplateBlobRef :=
  (templateUrl request).bind fun url => match parseBlobUrl lib url with
    | .ok tmpl => if tmpl.snapshot.isSome then none else some tmpl
    | .error _ => none

theorem snapshotTemplate_of_copied {tmpl : TemplateBlobRef} (copied : copiedTemplate lib request = some tmpl) :
    snapshotTemplate lib request = none := by
  obtain ⟨url, template, read⟩ := Option.bind_eq_some_iff.mp copied
  rw [snapshotTemplate, template, Option.bind_some]
  cases parse : parseBlobUrl lib url with
  | error error => rfl
  | ok found =>
      rw [parse] at read
      dsimp only at read ⊢
      split at read
      · cases read
      · rename_i unpinned
        exact if_neg unpinned

/-- The ways in which a call succeeds. -/
inductive Provisions (lib : UrlLib) (config : DriverConfig) (run : ProvisionRun) (request : CreateVolumeRequest)
    (world : BlobWorld) (volume : Volume) (after : BlobWorld) : Prop where
  | plain (untemplated : templateUrl request = none)
      (made : createBlob run (ownAddress config request) (requestedBytes request) world = (.ok (), after))
      (returned : volume = ownVolume config request (requestedBytes request) false)
  | snapshot (tmpl : TemplateBlobRef) (name : String) (image : PageBlob)
      (found : snapshotTemplate lib request = some tmpl) (named : tmpl.snapshot = some name)
      (there : world.snapshots (templateAddress config tmpl) name = some image)
      (returned : volume = readOnlyVolume request tmpl image.size) (same : after = world)
  | copied (tmpl : TemplateBlobRef) (original : PageBlob) (auth : AuthConfig) (between : BlobWorld)
      (found : copiedTemplate lib request = some tmpl)
      (selected : selectDriverAuth config (ownAccount config request) request.secrets = .ok auth)
      (there : world.blobs (templateAddress config tmpl) = some original)
      (made : createBlob run (ownAddress config request) (roundUp512 (max original.size (requestedBytes request))) world =
        (.ok (), between))
      (copied : copyTemplate run tmpl (templateAddress config tmpl) (ownAddress config request) auth original.size
        between = (.ok (), after))
      (returned : volume = ownVolume config request (roundUp512 (max original.size (requestedBytes request))) true)

theorem buildBackend_ok {client : ClientLib} {account container blob : String} {secrets : Params}
    {backend : BlobAddress × AuthConfig} (built : buildBackend client config account container blob secrets = .ok backend) :
    backend.1 = ⟨accountEndpoint config account, container, blob⟩ ∧
      selectDriverAuth config account secrets = .ok backend.2 := by
  obtain ⟨auth, selected, rest⟩ := except_bind built
  obtain ⟨_, _, made⟩ := except_bind rest
  obtain rfl := Except.ok.inj made
  exact ⟨rfl, selected⟩

theorem statTemplate_ok {tmpl : TemplateBlobRef} {address : BlobAddress} {size : Nat}
    (done : statTemplate run tmpl address world = (.ok size, after)) :
    (∃ blob, world.view address tmpl.snapshot = some blob ∧ blob.size = size) ∧ after = world := by
  obtain ⟨answer, same⟩ := Prod.mk.inj done
  obtain ⟨blob, there, sized⟩ := PageBlobBackend.size_ok answer
  exact ⟨⟨blob, there, sized⟩, same.symm⟩

theorem provision_ok {volume : Volume} (done : provision lib config run request world = (.ok volume, after)) :
    Provisions lib config run request world volume after := by
  unfold provision at done
  by_cases unnamed : request.name = ""
  · rw [if_pos unnamed] at done
    cases (Prod.mk.inj done).1
  rw [if_neg unnamed] at done
  dsimp only at done
  cases template : templateUrl request with
  | none =>
      rw [template] at done
      obtain ⟨backend, built, rest⟩ := RpcAction.except_bind_inv done
      obtain ⟨_, _, made, last⟩ := RpcAction.orFail_bind_inv rest
      obtain ⟨returned, rfl⟩ := Prod.mk.inj last
      rw [(buildBackend_ok built).1] at made
      exact .plain template made (Except.ok.inj returned).symm
  | some url =>
      rw [template] at done
      obtain ⟨tmpl, read, afterRead⟩ := RpcAction.except_bind_inv done
      obtain ⟨source, templated, afterBuild⟩ := RpcAction.except_bind_inv afterRead
      obtain rfl := buildTemplateBackend_address templated
      obtain ⟨size, _, stat, afterStat⟩ := RpcAction.orFail_bind_inv afterBuild
      obtain ⟨⟨original, there, rfl⟩, rfl⟩ := statTemplate_ok stat
      by_cases pinned : tmpl.snapshot.isSome = true
      · rw [if_pos pinned] at afterStat
        obtain ⟨returned, rfl⟩ := Prod.mk.inj afterStat
        obtain ⟨name, named⟩ := Option.isSome_iff_exists.mp pinned
        rw [named] at there
        refine .snapshot tmpl name original ?_ named there (Except.ok.inj returned).symm rfl
        rw [snapshotTemplate, template, Option.bind_some, read]
        exact if_pos pinned
      · rw [if_neg pinned] at afterStat
        have unpinned : tmpl.snapshot = none := by simpa using pinned
        rw [unpinned] at there
        obtain ⟨backend, built, rest⟩ := RpcAction.except_bind_inv afterStat
        obtain ⟨_, between, made, afterCreate⟩ := RpcAction.orFail_bind_inv rest
        obtain ⟨_, _, copied, last⟩ := RpcAction.orFail_bind_inv afterCreate
        obtain ⟨returned, rfl⟩ := Prod.mk.inj last
        rw [(buildBackend_ok built).1] at made copied
        refine .copied tmpl original backend.2 between ?_ (buildBackend_ok built).2 there made copied
          (Except.ok.inj returned).symm
        rw [copiedTemplate, template, Option.bind_some, read]
        exact if_neg pinned

/-- The answers of a service that serves every step, with the size of the template. -/
def servedAnswers (size : Nat) : StorageAnswers := ⟨.ok (), .ok size, .ok (), fun _ _ _ _ => .ok (), .ok ()⟩

/-- A call that succeeds is a request that the controller serves with these answers. -/
theorem provision_createVolume {volume : Volume} (done : provision lib config run request world = (.ok volume, after)) :
    ∃ answers, createVolume lib config answers request = .ok volume := by
  have named : request.name ≠ "" := by
    intro unnamed
    rw [provision, if_pos unnamed] at done
    cases (Prod.mk.inj done).1
  cases provision_ok done with
  | plain untemplated made returned =>
      refine ⟨servedAnswers 0, ?_⟩
      rw [returned, createVolume, if_neg named, untemplated]
      rfl
  | snapshot tmpl name image found pinned there returned same =>
      obtain ⟨url, template, read⟩ := Option.bind_eq_some_iff.mp found
      refine ⟨servedAnswers image.size, ?_⟩
      split at read
      · rename_i parsed parse
        split at read
        · rename_i taken
          obtain rfl := Option.some.inj read
          rw [returned, createVolume, if_neg named, template]
          simp only [parse]
          exact if_pos taken
        · cases read
      · cases read
  | copied tmpl original auth between found selected stated made copied returned =>
      obtain ⟨url, template, read⟩ := Option.bind_eq_some_iff.mp found
      refine ⟨servedAnswers original.size, ?_⟩
      split at read
      · rename_i parsed parse
        split at read
        · cases read
        · rename_i unpinned
          obtain rfl := Option.some.inj read
          rw [returned, createVolume, if_neg named, template]
          simp only [parse]
          exact if_neg unpinned
      · cases read

/-- The snapshots and the sizes of the blobs are the same. -/
structure SameSizes (base world : BlobWorld) : Prop where
  snapshots : world.snapshots = base.snapshots
  sizes : ∀ address, (world.blobs address).map PageBlob.size = (base.blobs address).map PageBlob.size

variable {base : BlobWorld}

theorem SameSizes.refl (base : BlobWorld) : SameSizes base base := ⟨rfl, fun _ => rfl⟩

/-- A blob that is there stays there with its size. -/
theorem SameSizes.blob (settled : SameSizes base world) {address : BlobAddress} {blob : PageBlob}
    (there : base.blobs address = some blob) : ∃ now, world.blobs address = some now ∧ now.size = blob.size := by
  have same := settled.sizes address
  rw [there, Option.map_some] at same
  obtain ⟨now, found, sized⟩ := Option.map_eq_some_iff.mp same
  exact ⟨now, found, sized⟩

theorem SameSizes.put (settled : SameSizes base world) {address : BlobAddress} {blob next : PageBlob}
    (there : world.blobs address = some blob) (sized : next.size = blob.size) :
    SameSizes base (world.put address (some next)) := by
  refine ⟨settled.snapshots, fun other => ?_⟩
  rw [← settled.sizes other]
  by_cases same : other = address
  · subst same
    rw [BlobWorld.put_blobs, there, Option.map_some, Option.map_some, sized]
  · rw [BlobWorld.put_other same]

/-- A blob that exists is not touched, and the call succeeds only at its size. -/
theorem createBlob_existing (honest : run.Honest) {blob : PageBlob} {address : BlobAddress} {bytes : Nat}
    (there : world.blobs address = some blob) :
    (createBlob run address bytes world).2 = world ∧
      ((createBlob run address bytes world).1 = .ok () → blob.size = bytes) := by
  have present : PageBlobBackend.Present blob (run.backend run.createAnswers address (world.blobs address)) :=
    ⟨there, honest⟩
  obtain ⟨kept, sized⟩ := @PageBlobBackend.create_existing _ _ bytes present
  refine ⟨?_, sized⟩
  unfold createBlob
  dsimp only
  rw [kept]
  exact BlobWorld.put_same there

theorem createBlob_ok {address : BlobAddress} {bytes : Nat}
    (done : createBlob run address bytes world = (.ok (), after)) :
    ∃ blob, after = world.put address (some blob) ∧ blob.size = bytes := by
  obtain ⟨answer, rfl⟩ := Prod.mk.inj done
  obtain ⟨made, there, sized⟩ := PageBlobBackend.create_ok (Prod.ext answer rfl)
  exact ⟨made, by rw [there], sized⟩

/-- A copy keeps the size of the blob, even when it fails. -/
theorem copyTemplate_sizes {dest : BlobAddress} {blob : PageBlob} (there : base.blobs dest = some blob)
    (tmpl : TemplateBlobRef) (source : BlobAddress) (auth : AuthConfig) (total : Nat) :
    Action.Keeps (SameSizes base) (copyTemplate run tmpl source dest auth total) := by
  have token : Action.Keeps (SameSizes base) (copyToken run tmpl auth) := by
    unfold copyToken
    split
    · exact fun _ settled => settled
    · exact Action.keeps_withContext fun _ settled => settled
  refine Action.keeps_bind token fun _ minted world settled _ => ?_
  obtain ⟨now, found, _⟩ := settled.blob there
  split
  · unfold copyPagesFromUrl
    rw [found]
    cases world.blobs (urlAddress tmpl) with
    | none => exact settled
    | some original =>
        dsimp only
        split
        · rename_i final ran
          exact settled.put found (pageCopy_size ran)
        · exact settled
  · unfold streamCopy
    dsimp only
    obtain ⟨left, kept, fits⟩ := copyBlobStreamed_size run.env total run.ranges now.size
      (run.backend run.readAnswers source (world.blobs source),
        run.backend run.writeAnswers dest (world.blobs dest))
      ⟨now, found, rfl⟩
    rw [kept]
    exact settled.put found fits

theorem copyTemplate_sizes_of_put {tmpl : TemplateBlobRef} {source dest : BlobAddress} {auth : AuthConfig} {total : Nat}
    {blob : PageBlob} {result : Except Error Unit}
    (copied : copyTemplate run tmpl source dest auth total (world.put dest (some blob)) = (result, after)) :
    SameSizes (world.put dest (some blob)) after := by
  have sizes := @copyTemplate_sizes run (world.put dest (some blob)) dest blob (BlobWorld.put_blobs dest (some blob))
    tmpl source auth total _ (SameSizes.refl _)
  rw [copied] at sizes
  exact sizes

/-- A call keeps what its creation and its copy keep. -/
theorem provision_keeps {Inv : BlobWorld → Prop}
    (create : snapshotTemplate lib request = none → ∀ bytes,
      Action.Keeps Inv (createBlob run (ownAddress config request) bytes))
    (copy : ∀ tmpl original auth world between, copiedTemplate lib request = some tmpl →
      world.blobs (templateAddress config tmpl) = some original →
      createBlob run (ownAddress config request) (roundUp512 (max original.size (requestedBytes request))) world =
        (.ok (), between) → Inv world → Inv between →
      Inv (copyTemplate run tmpl (templateAddress config tmpl) (ownAddress config request) auth original.size between).2) :
    ∀ world, Inv world → Inv (provision lib config run request world).2 := by
  intro world kept
  unfold provision
  split
  · exact kept
  dsimp only
  cases template : templateUrl request with
  | none =>
      have plain : snapshotTemplate lib request = none := by rw [snapshotTemplate, template]; rfl
      refine RpcAction.bind_keeps kept fun backend opened selected opens => ?_
      rw [(buildBackend_ok (Prod.mk.inj (RpcAction.orFail_inv selected)).1).1]
      exact RpcAction.bind_keeps (create plain _ opened opens) fun _ _ _ made => made
  | some url =>
      refine RpcAction.bind_keeps kept fun tmpl read parsed reads => ?_
      have parses := (Prod.mk.inj (RpcAction.orFail_inv parsed)).1
      refine RpcAction.bind_keeps reads fun source opened chosen opens => ?_
      obtain rfl := buildTemplateBackend_address (Prod.mk.inj (RpcAction.orFail_inv chosen)).1
      refine RpcAction.bind_keeps opens fun sourceSize stated stat states => ?_
      obtain ⟨⟨original, there, rfl⟩, rfl⟩ := statTemplate_ok (RpcAction.orFail_inv stat)
      by_cases pinned : tmpl.snapshot.isSome = true
      · rw [if_pos pinned]
        exact states
      · rw [if_neg pinned]
        have copied : snapshotTemplate lib request = none ∧ copiedTemplate lib request = some tmpl := by
          rw [snapshotTemplate, copiedTemplate, template, Option.bind_some, Option.bind_some, parses]
          exact ⟨if_neg pinned, if_neg pinned⟩
        have unpinned : tmpl.snapshot = none := by simpa using pinned
        rw [unpinned] at there
        refine RpcAction.bind_keeps states fun backend before selected selects => ?_
        obtain ⟨chosenAuth, rfl⟩ := Prod.mk.inj (RpcAction.orFail_inv selected)
        rw [(buildBackend_ok chosenAuth).1]
        refine RpcAction.bind_keeps (create copied.1 _ _ selects) fun _ between created creates => ?_
        refine RpcAction.bind_keeps ?_ fun _ _ _ copies => copies
        exact copy tmpl original backend.2 _ between copied.2 there (RpcAction.orFail_inv created) selects creates

/-- A call for a blob that is there, or for a snapshot, keeps the sizes of all blobs. -/
theorem provision_sizes (honest : run.Honest)
    (there : (base.blobs (ownAddress config request)).isSome ∨ (snapshotTemplate lib request).isSome) :
    ∀ world, SameSizes base world → SameSizes base (provision lib config run request world).2 := by
  have own (plain : snapshotTemplate lib request = none) :
      ∃ blob, base.blobs (ownAddress config request) = some blob := by
    rw [plain, Option.isSome_none, or_iff_left Bool.false_ne_true] at there
    exact Option.isSome_iff_exists.mp there
  refine provision_keeps (fun plain bytes world sizes => ?_) fun tmpl original auth world between copied _ _ _ sizes => ?_
  · obtain ⟨blob, found⟩ := own plain
    obtain ⟨now, present, _⟩ := sizes.blob found
    rw [(createBlob_existing honest present).1]
    exact sizes
  · obtain ⟨blob, found⟩ := own (snapshotTemplate_of_copied copied)
    exact copyTemplate_sizes found tmpl _ auth _ _ sizes

end World

section Repetition

variable {lib : UrlLib} {config : DriverConfig} {request : CreateVolumeRequest} {world after created : BlobWorld}

/-- The pod writes to the blob of its volume, or the request is repeated. -/
inductive VolumeEvent where
  | write (content : Store)
  | again (run : ProvisionRun)

def volumeStep (lib : UrlLib) (config : DriverConfig) (request : CreateVolumeRequest) (world : BlobWorld) :
    VolumeEvent → BlobWorld
  | .write content => match world.blobs (ownAddress config request) with
    | some blob => world.put (ownAddress config request) (some { blob with data := content })
    | none => world
  | .again run => (provision lib config run request world).2

def VolumeEvent.Honest : VolumeEvent → Prop
  | .write _ => True
  | .again run => run.Honest

/-- Writes and repetitions keep the sizes of all blobs. -/
theorem volumeRun_sizes
    (there : (created.blobs (ownAddress config request)).isSome ∨ (snapshotTemplate lib request).isSome)
    {events : List VolumeEvent} (honest : ∀ event ∈ events, event.Honest) (settled : SameSizes created world) :
    SameSizes created (events.foldl (volumeStep lib config request) world) := by
  induction events generalizing world with
  | nil => exact settled
  | cons event rest ih =>
      rw [List.forall_mem_cons] at honest
      refine ih honest.2 ?_
      cases event with
      | write content =>
          simp only [volumeStep]
          split
          · rename_i blob found
            exact settled.put found rfl
          · exact settled
      | again run => exact provision_sizes honest.1 there _ settled

/-- The size that the blob of a request must have, if the request gets a blob of its own. -/
def wantedSize (lib : UrlLib) (config : DriverConfig) (request : CreateVolumeRequest) (world : BlobWorld) : Option Nat :=
  match templateUrl request with
  | none => some (requestedBytes request)
  | some _ => (copiedTemplate lib request).bind fun tmpl => (world.blobs (templateAddress config tmpl)).map
      fun original => roundUp512 (max original.size (requestedBytes request))

/-- A call that has succeeded has left a blob, or names a snapshot. -/
theorem Provisions.there {run : ProvisionRun} {volume : Volume}
    (made : Provisions lib config run request world volume created) :
    (created.blobs (ownAddress config request)).isSome ∨ (snapshotTemplate lib request).isSome := by
  cases made with
  | plain untemplated made returned =>
      obtain ⟨blob, rfl, _⟩ := createBlob_ok made
      exact .inl (by rw [BlobWorld.put_blobs]; rfl)
  | snapshot tmpl name image found named there returned same => exact .inr (by rw [found]; rfl)
  | copied tmpl original auth between found selected there made copied returned =>
      obtain ⟨blob, rfl, _⟩ := createBlob_ok made
      obtain ⟨now, found, _⟩ := (copyTemplate_sizes_of_put copied).blob (BlobWorld.put_blobs _ _)
      exact .inl (by rw [found]; rfl)

/-- A first call keeps the size of the template, even if the template is the blob itself. -/
theorem copied_template_size {run : ProvisionRun} (honest : run.Honest) {tmpl : TemplateBlobRef} {auth : AuthConfig}
    {original : PageBlob} {between : BlobWorld} {bytes : Nat}
    (there : world.blobs (templateAddress config tmpl) = some original)
    (made : createBlob run (ownAddress config request) bytes world = (.ok (), between))
    (copied : copyTemplate run tmpl (templateAddress config tmpl) (ownAddress config request) auth original.size
      between = (.ok (), after)) :
    ∃ now, after.blobs (templateAddress config tmpl) = some now ∧ now.size = original.size := by
  obtain ⟨blob, rfl, _⟩ := createBlob_ok made
  refine (copyTemplate_sizes_of_put copied).blob ?_
  by_cases same : templateAddress config tmpl = ownAddress config request
  · have kept := (@createBlob_existing run world honest original _ bytes (same ▸ there)).1
    rw [made] at kept
    dsimp only at kept
    rw [kept]
    exact there
  · rw [BlobWorld.put_other same]
    exact there

/-- Two calls that succeed return the same volume, as long as the blobs keep their sizes between them. -/
theorem provision_same {first again : ProvisionRun} (honest : first.Honest) {start : BlobWorld}
    {volume repeated : Volume} (made : Provisions lib config first request start volume created)
    (sizes : SameSizes created world) (remade : Provisions lib config again request world repeated after) :
    repeated = volume := by
  cases made with
  | plain untemplated made returned =>
      cases remade with
      | plain _ _ again => rw [returned, again]
      | snapshot tmpl name image found _ _ _ _ =>
          rw [snapshotTemplate, untemplated] at found
          cases found
      | copied tmpl original auth between found _ _ _ _ _ =>
          rw [copiedTemplate, untemplated] at found
          cases found
  | snapshot tmpl name image found named there returned same =>
      cases remade with
      | plain untemplated _ _ =>
          rw [snapshotTemplate, untemplated] at found
          cases found
      | snapshot other otherName otherImage otherFound otherNamed otherThere otherReturned _ =>
          obtain rfl : tmpl = other := Option.some.inj (found.symm.trans otherFound)
          obtain rfl : name = otherName := Option.some.inj (named.symm.trans otherNamed)
          rw [sizes.snapshots, same, there] at otherThere
          obtain rfl := Option.some.inj otherThere
          rw [returned, otherReturned]
      | copied other original auth between otherFound _ _ _ _ _ =>
          rw [snapshotTemplate_of_copied otherFound] at found
          cases found
  | copied tmpl original auth between found selected there made copied returned =>
      cases remade with
      | plain untemplated _ _ =>
          rw [copiedTemplate, untemplated] at found
          cases found
      | snapshot other name image otherFound _ _ _ _ =>
          rw [snapshotTemplate_of_copied found] at otherFound
          cases otherFound
      | copied other otherOriginal otherAuth otherBetween otherFound _ otherThere _ _ otherReturned =>
          obtain rfl : tmpl = other := Option.some.inj (found.symm.trans otherFound)
          obtain ⟨now, nowThere, nowSized⟩ := copied_template_size honest there made copied
          obtain ⟨last, lastThere, lastSized⟩ := sizes.blob nowThere
          obtain rfl : last = otherOriginal := Option.some.inj (lastThere.symm.trans otherThere)
          rw [returned, otherReturned, lastSized, nowSized]

/-- The blob of a copied template still starts with the template. -/
def CopyCurrent (lib : UrlLib) (config : DriverConfig) (run : ProvisionRun) (request : CreateVolumeRequest)
    (world : BlobWorld) : Prop :=
  ∀ tmpl auth original source blob, copiedTemplate lib request = some tmpl →
    selectDriverAuth config (ownAccount config request) request.secrets = .ok auth →
    world.blobs (templateAddress config tmpl) = some original →
    world.blobs (copyAddress config run auth tmpl) = some source → world.blobs (ownAddress config request) = some blob →
    ∀ x < original.size, blob.data x = source.data x

/-- The map that the service gives of a template leaves out only zeros. -/
def Mapped (lib : UrlLib) (config : DriverConfig) (run : ProvisionRun) (request : CreateVolumeRequest)
    (world : BlobWorld) : Prop :=
  ∀ tmpl auth original source, copiedTemplate lib request = some tmpl →
    selectDriverAuth config (ownAccount config request) request.secrets = .ok auth →
    world.blobs (templateAddress config tmpl) = some original →
    world.blobs (copyAddress config run auth tmpl) = some source → MapCovers run.ranges source.data original.size

theorem put_eq_self_iff {blob source : PageBlob} {total : Nat} :
    blob.put 0 (slice source.data 0 total) = blob ↔ ∀ x < total, blob.data x = source.data x := by
  constructor
  · intro same x inside
    have at_x := put_slice_data source.data total blob x
    rw [same, if_pos inside] at at_x
    exact at_x
  · intro current
    have data : (blob.put 0 (slice source.data 0 total)).data = blob.data := by
      funext x
      rw [put_slice_data]
      split
      · rename_i inside
        exact (current x inside).symm
      · rfl
    cases blob
    exact congrArg (PageBlob.mk _) data

/-- A repetition that succeeds changes a blob exactly when it copies a template that the blob no longer starts with. -/
theorem provision_unchanged_iff {run : ProvisionRun} (honest : run.Honest) (mapped : Mapped lib config run request world)
    (there : (world.blobs (ownAddress config request)).isSome ∨ (snapshotTemplate lib request).isSome) {volume : Volume}
    (made : Provisions lib config run request world volume after) :
    after = world ↔ CopyCurrent lib config run request world := by
  cases made with
  | plain untemplated made returned =>
      rw [snapshotTemplate, untemplated, or_iff_left (by simp)] at there
      obtain ⟨blob, found⟩ := Option.isSome_iff_exists.mp there
      have kept := (@createBlob_existing run world honest blob _ (requestedBytes request) found).1
      rw [made] at kept
      refine iff_of_true kept fun tmpl auth original source blob copied => ?_
      rw [copiedTemplate, untemplated] at copied
      cases copied
  | snapshot tmpl name image found named there returned same =>
      refine iff_of_true same fun other auth original source blob copied => ?_
      rw [snapshotTemplate_of_copied copied] at found
      cases found
  | copied tmpl original auth between found selected stated made copied returned =>
      rw [snapshotTemplate_of_copied found, Option.isSome_none, or_iff_left Bool.false_ne_true] at there
      obtain ⟨blob, own⟩ := Option.isSome_iff_exists.mp there
      have kept := (@createBlob_existing run world honest blob _
        (roundUp512 (max original.size (requestedBytes request))) own).1
      rw [made] at kept
      obtain rfl : between = world := kept
      obtain ⟨source, read, rfl⟩ := copyTemplate_ok own stated rfl
        (fun source read => mapped tmpl auth original source found selected stated read) copied
      have unchanged : between.put (ownAddress config request) (some (blob.put 0 (slice source.data 0 original.size))) =
          between ↔ blob.put 0 (slice source.data 0 original.size) = blob := by
        constructor
        · intro same
          have at_own := congrArg (fun world => world.blobs (ownAddress config request)) same
          rw [BlobWorld.put_blobs, own] at at_own
          exact Option.some.inj at_own
        · intro same
          rw [same]
          exact BlobWorld.put_same own
      rw [unchanged, put_eq_self_iff]
      constructor
      · intro current other otherAuth otherOriginal otherSource otherBlob otherFound otherSelected otherStated otherRead
          otherOwn
        obtain rfl : tmpl = other := Option.some.inj (found.symm.trans otherFound)
        obtain rfl : auth = otherAuth := Except.ok.inj (selected.symm.trans otherSelected)
        obtain rfl : original = otherOriginal := Option.some.inj (stated.symm.trans otherStated)
        obtain rfl : source = otherSource := Option.some.inj (read.symm.trans otherRead)
        obtain rfl : blob = otherBlob := Option.some.inj (own.symm.trans otherOwn)
        exact current
      · intro current
        exact current tmpl auth original source blob found selected stated read own

/-- A blob of another size makes the call fail, and nothing changes. -/
theorem provision_mismatch {run : ProvisionRun} (honest : run.Honest) {blob : PageBlob} {bytes : Nat}
    (there : world.blobs (ownAddress config request) = some blob)
    (wanted : wantedSize lib config request world = some bytes) (different : blob.size ≠ bytes) :
    ∃ error, provision lib config run request world = (.error error, world) := by
  have fails (between : BlobWorld) : createBlob run (ownAddress config request) bytes world ≠ (.ok (), between) :=
    fun made => different ((createBlob_existing honest there).2 (congrArg Prod.fst made))
  have copies {tmpl : TemplateBlobRef} {original : PageBlob} (copied : copiedTemplate lib request = some tmpl)
      (stated : world.blobs (templateAddress config tmpl) = some original) :
      bytes = roundUp512 (max original.size (requestedBytes request)) := by
    obtain ⟨url, template, _⟩ := Option.bind_eq_some_iff.mp copied
    rw [wantedSize, template] at wanted
    rw [copied, Option.bind_some, stated] at wanted
    exact (Option.some.inj wanted).symm
  have kept := @provision_keeps lib config request run (fun now => now = world) (fun _ size now same => by
    rw [same]
    exact (createBlob_existing honest there).1)
    (fun tmpl original auth now between copied stated made same _ => by
      rw [same] at stated made
      rw [← copies copied stated] at made
      exact absurd made (fails between)) world rfl
  cases outcome : provision lib config run request world with
  | mk result after =>
      rw [outcome] at kept
      obtain rfl : after = world := kept
      cases result with
      | error error => exact ⟨error, rfl⟩
      | ok volume =>
          cases provision_ok outcome with
          | plain untemplated made returned =>
              rw [wantedSize, untemplated] at wanted
              rw [Option.some.inj wanted] at made
              exact absurd made (fails _)
          | snapshot tmpl name image found named there returned same =>
              obtain ⟨url, template, _⟩ := Option.bind_eq_some_iff.mp found
              rw [wantedSize, template] at wanted
              obtain ⟨other, copied, _⟩ := Option.bind_eq_some_iff.mp wanted
              rw [snapshotTemplate_of_copied copied] at found
              cases found
          | copied tmpl original auth between found selected stated made copied returned =>
              rw [← copies found stated] at made
              exact absurd made (fails _)

/-- A request that is repeated, after any writes of the pod and any earlier repetitions, returns the same volume; it
leaves the blobs as they are exactly when it copies no template or the blob still starts with the template. A blob of
another size makes the request fail without a change. -/
theorem createVolume_repeated_iff (lib : UrlLib) (config : DriverConfig) (request : CreateVolumeRequest) :
    (∀ (first : ProvisionRun) (start created : BlobWorld) (volume : Volume), first.Honest →
      provision lib config first request start = (.ok volume, created) →
      ∀ events : List VolumeEvent, (∀ event ∈ events, event.Honest) → ∀ again : ProvisionRun, again.Honest →
        Mapped lib config again request (events.foldl (volumeStep lib config request) created) →
        ∀ repeated after, provision lib config again request (events.foldl (volumeStep lib config request) created) =
          (.ok repeated, after) → repeated = volume ∧
            (after = events.foldl (volumeStep lib config request) created ↔
              CopyCurrent lib config again request (events.foldl (volumeStep lib config request) created))) ∧
    ∀ (run : ProvisionRun) (world : BlobWorld) (blob : PageBlob) (bytes : Nat), run.Honest →
      world.blobs (ownAddress config request) = some blob → wantedSize lib config request world = some bytes →
      blob.size ≠ bytes → ∃ error, provision lib config run request world = (.error error, world) := by
  refine ⟨fun first start created volume honest succeeded events written again honestly mapped repeated after done => ?_,
    fun run world blob bytes honest there wanted different => provision_mismatch honest there wanted different⟩
  have made := provision_ok succeeded
  have sizes := @volumeRun_sizes lib config request created created made.there events written (SameSizes.refl created)
  refine ⟨provision_same honest made sizes (provision_ok done), ?_⟩
  refine provision_unchanged_iff honestly mapped (made.there.imp_left fun there => ?_) (provision_ok done)
  obtain ⟨blob, found⟩ := Option.isSome_iff_exists.mp there
  obtain ⟨now, present, _⟩ := sizes.blob found
  rw [present]
  rfl

section Samples

def baseUrl : String := "https://images.blob.core.windows.net/golden/base.img"

def baseLib : UrlLib where
  parse url := if url = baseUrl then
    .ok ⟨"https", some "images.blob.core.windows.net", none, ["golden", "base.img"], []⟩
    else .error ["relative URL without a base"]
  isIpAddr _ := false
  encodePairs pairs := "&".intercalate (pairs.map fun pair => pair.1 ++ "=" ++ pair.2)

def plainRequest : CreateVolumeRequest := ⟨"pvc-1", 512, fun _ => none, fun _ => none⟩

def cloneRequest : CreateVolumeRequest :=
  { plainRequest with parameters := fun key => if key = "templateBlobUrl" then some baseUrl else none }

/-- Every request is served. -/
def servedRun : ProvisionRun :=
  ⟨fun _ _ _ => .ok (), sectorEnv, ⟨20, ["408", "429", "5*"]⟩, [], [], .ok none, fun _ => .ok (), [], [], []⟩

/-- A template of one sector of sevens. -/
def baseWorld : BlobWorld where
  blobs address := if address = ⟨"https://images.blob.core.windows.net/", "golden", "base.img"⟩
    then some ⟨512, fun _ => 7⟩ else none
  snapshots _ _ := none

/-- The pod writes nines. -/
def nines : VolumeEvent := .write fun _ => 9

theorem servedRun_honest : servedRun.Honest := fun _ _ member => by cases member

/-- The repetition copies the template again, on top of what the pod has written. -/
theorem clone_overwritten :
    let created := provision baseLib sampleConfig servedRun cloneRequest baseWorld
    let written := volumeStep baseLib sampleConfig cloneRequest created.2 nines
    let repeated := provision baseLib sampleConfig servedRun cloneRequest written
    created.1.isOk = true ∧ repeated.1.isOk = true ∧
      (written.blobs (ownAddress sampleConfig cloneRequest)).map (fun blob => blob.data 0) = some 9 ∧
      (repeated.2.blobs (ownAddress sampleConfig cloneRequest)).map (fun blob => blob.data 0) = some 7 := by
  decide +kernel

theorem createVolume_repeated_plain :
    ∃ volume created after, provision baseLib sampleConfig servedRun plainRequest baseWorld = (.ok volume, created) ∧
      provision baseLib sampleConfig servedRun plainRequest
        (volumeStep baseLib sampleConfig plainRequest created nines) = (.ok volume, after) ∧
      after = volumeStep baseLib sampleConfig plainRequest created nines := by
  have uncopied : copiedTemplate baseLib plainRequest = none := rfl
  have first : (provision baseLib sampleConfig servedRun plainRequest baseWorld).1.isOk = true := by decide +kernel
  have second : (provision baseLib sampleConfig servedRun plainRequest (volumeStep baseLib sampleConfig plainRequest
      (provision baseLib sampleConfig servedRun plainRequest baseWorld).2 nines)).1.isOk = true := by decide +kernel
  cases made : provision baseLib sampleConfig servedRun plainRequest baseWorld with
  | mk result created =>
      rw [made] at first second
      cases result with
      | error error => cases first
      | ok volume =>
          cases remade : provision baseLib sampleConfig servedRun plainRequest
              (volumeStep baseLib sampleConfig plainRequest created nines) with
          | mk result after =>
              rw [remade] at second
              cases result with
              | error error => cases second
              | ok repeated =>
                  obtain ⟨rfl, unchanged⟩ := (createVolume_repeated_iff baseLib sampleConfig plainRequest).1 servedRun
                    baseWorld created volume servedRun_honest made [nines]
                    (fun event member => by rw [List.mem_singleton.mp member]; trivial) servedRun servedRun_honest
                    (fun tmpl auth original source copied => by rw [uncopied] at copied; cases copied) repeated after remade
                  refine ⟨repeated, created, after, rfl, remade, unchanged.mpr ?_⟩
                  intro tmpl auth original source blob copied
                  rw [uncopied] at copied
                  cases copied

end Samples
end Repetition
end UblkAzblob

import UblkAzblob.Construction.NodePublish

namespace UblkAzblob
open Storage

section Context

/-- A forwarded key takes the value of the parameter where there is one. -/
theorem forwardParams_apply (parameters : Params) (keys : List String) (context : Params) (key : String) :
    forwardParams parameters keys context key =
      if key ∈ keys then (parameters key).or (context key) else context key := by
  induction keys generalizing context with
  | nil => simp [forwardParams]
  | cons first rest ih =>
      rw [forwardParams, List.foldl_cons, ← forwardParams, ih]
      cases found : parameters first with
      | none =>
          by_cases same : key = first
          · subst same
            simp [found]
          · simp [same]
      | some value =>
          by_cases same : key = first
          · subst same
            simp [found]
          · simp [same]

theorem insertParam_apply (key value : String) (context : Params) (other : String) :
    insertParam key value context other = if other = key then some value else context other := by
  simp [insertParam, Function.update_apply]

/-- The context of a snapshot names its blob and its timestamp. -/
theorem readOnlyVolume_context (request : CreateVolumeRequest) (tmpl : TemplateBlobRef) (sourceSize : Nat) :
    let context := (readOnlyVolume request tmpl sourceSize).volumeContext
    context "account" = some tmpl.account ∧ context "container" = some tmpl.container ∧
      context "blob" = some tmpl.blob ∧ (context "endpoint").isSome ∧ context "snapshot" = tmpl.snapshot ∧
      context "overlay" = request.parameters "overlay" ∧
      context "overlayScratchDir" = request.parameters "overlayScratchDir" ∧ context "fsck" = none := by
  rcases tmpl with ⟨serviceUrl, account, container, blob, snapshot, sas⟩
  cases snapshot <;> cases sas <;>
    simp [readOnlyVolume, forwardTuning, forwardParams_apply, insertParam_apply, emptyContext, tuningParams,
      templateKeys]

/-- The context of a blob of its own has no snapshot and no overlay. -/
theorem readWriteVolume_context (config : DriverConfig) (request : CreateVolumeRequest)
    (account container blob : String) (size : Nat) (fromTemplate : Bool) :
    let context := (readWriteVolume config request account container blob size fromTemplate).volumeContext
    context "account" = some account ∧ context "container" = some container ∧ context "blob" = some blob ∧
      (context "endpoint").isSome ∧ context "snapshot" = none ∧ context "overlay" = none ∧ context "fsck" = none := by
  cases fromTemplate <;>
    simp [readWriteVolume, forwardTuning, forwardParams_apply, insertParam_apply, emptyContext, tuningParams]

end Context

section Identity

/-- Kubernetes writes names in lower-case letters, digits, hyphens and dots. -/
def KubernetesName (name : String) : Prop :=
  name ≠ "" ∧ ∀ char ∈ name.toList, char ∈ "abcdefghijklmnopqrstuvwxyz0123456789-.".toList

theorem KubernetesName.char {name : String} (valid : KubernetesName name) {char : Char}
    (member : char ∈ name.toList) : FileCacheBackend.isWhitespace char = false ∧ char ≠ '/' := by
  have letters : ("abcdefghijklmnopqrstuvwxyz0123456789-.".toList.all fun char =>
      !FileCacheBackend.isWhitespace char && char ≠ '/') = true := by decide
  have letter := List.all_eq_true.mp letters char (valid.2 char member)
  simpa using letter

/-- The template of the driver expands to a directory and the name of the volume. -/
theorem expandTemplate_default (pvcName pvcNamespace pvName : String) :
    expandTemplate defaultBlobPathTemplate pvcName pvcNamespace pvName =
      "ublk-azblob-disk/".toList ++ pvName.toList := by
  have noClaim : replaceAll "${pvc.name}" pvcName defaultBlobPathTemplate.toList =
      defaultBlobPathTemplate.toList := rfl
  have noNamespace : replaceAll "${pvc.namespace}" pvcNamespace defaultBlobPathTemplate.toList =
      defaultBlobPathTemplate.toList := rfl
  have volume : replaceAll "${pv.name}" pvName defaultBlobPathTemplate.toList =
      "ublk-azblob-disk/".toList ++ (pvName.toList ++ []) := rfl
  rw [expandTemplate, noClaim, noNamespace, volume, List.append_nil]

theorem sanitizePath_default {name : List Char} (filled : name ≠ [])
    (plain : ∀ char ∈ name, FileCacheBackend.isWhitespace char = false ∧ char ≠ '/') :
    sanitizePath ("ublk-azblob-disk/".toList ++ name) = "ublk-azblob-disk/".toList ++ name := by
  have split : "ublk-azblob-disk/".toList ++ name = "ublk-azblob-disk".toList ++ '/' :: name := rfl
  have last {char : Char} (final : ("ublk-azblob-disk/".toList ++ name).getLast? = some char) : char ∈ name := by
    rw [List.getLast?_append_of_ne_nil _ filled] at final
    exact List.mem_of_getLast? final
  have blanks : trimBoth FileCacheBackend.isWhitespace ("ublk-azblob-disk/".toList ++ name) =
      "ublk-azblob-disk/".toList ++ name := by
    apply trimBoth_eq
    · intro char first
      obtain rfl : 'u' = char := by simpa using first
      decide
    · intro char final
      exact (plain char (last final)).1
  have slashes : trimBoth (· = '/') ("ublk-azblob-disk/".toList ++ name) = "ublk-azblob-disk/".toList ++ name := by
    apply trimBoth_eq
    · intro char first
      obtain rfl : 'u' = char := by simpa using first
      decide
    · intro char final
      simpa using (plain char (last final)).2
  have noSlash : '/' ∉ name := fun member => (plain '/' member).2 rfl
  rw [sanitizePath, blanks, slashes, split, fields_append _ (by decide), fields_plain noSlash]
  simp [filled, List.intercalate_cons_cons]

/-- Without a template of its own, a request uses the directory of the driver and its own name. -/
theorem blobPath_default {request : CreateVolumeRequest} (pvcName pvcNamespace : String)
    (default : request.parameters "blobPathTemplate" = none) (valid : KubernetesName request.name) :
    (blobPath request pvcName pvcNamespace).toList = "ublk-azblob-disk".toList ++ '/' :: request.name.toList := by
  have filled : request.name.toList ≠ [] := by simpa using valid.1
  rw [blobPath, default, Option.getD_none, expandTemplate_default,
    sanitizePath_default filled fun char member => valid.char member, String.toList_ofList]
  rfl

/-- The part after the last separator is determined. -/
theorem last_inj {separator : Char} {front back first second : List Char} (plain : separator ∉ first)
    (plainOther : separator ∉ second) (same : front ++ separator :: first = back ++ separator :: second) :
    first = second := by
  have split (start last : List Char) (clear : separator ∉ last) :
      splitOnce separator (start ++ separator :: last).reverse = some (last.reverse, start.reverse) := by
    rw [List.reverse_append, List.reverse_cons, List.append_assoc, List.singleton_append]
    exact splitOnce_append _ (by simpa using clear)
  have both := (split front first plain).symm.trans ((congrArg _ (congrArg _ same)).trans (split back second plainOther))
  simpa using congrArg (Option.map Prod.fst) both

theorem first_inj {separator : Char} {first second rest more : List Char} (plain : separator ∉ first)
    (plainOther : separator ∉ second) (same : first ++ separator :: rest = second ++ separator :: more) :
    first = second ∧ rest = more := by
  have both := (splitOnce_append rest plain).symm.trans ((congrArg _ same).trans (splitOnce_append more plainOther))
  simpa using both

theorem makeVolumeId_toList (account container blob : String) :
    (makeVolumeId account container blob).toList =
      account.toList ++ '/' :: (container.toList ++ '/' :: blob.toList) := by
  simp [makeVolumeId, toString]

theorem makeVolumeIdRo_toList (account container blob : String) :
    (makeVolumeIdRo account container blob).toList =
      "ro:".toList ++ (account.toList ++ '/' :: (container.toList ++ '/' :: blob.toList)) := by
  simp [makeVolumeIdRo, roVolumeIdPrefix, toString]

/-- The id of a read-only volume determines its blob. -/
theorem makeVolumeIdRo_inj {account container blob account' container' blob' : String} (plain : '/' ∉ account.toList)
    (plain' : '/' ∉ account'.toList) (segment : '/' ∉ container.toList) (segment' : '/' ∉ container'.toList)
    (same : makeVolumeIdRo account container blob = makeVolumeIdRo account' container' blob') :
    account = account' ∧ container = container' ∧ blob = blob' := by
  have texts := congrArg String.toList same
  rw [makeVolumeIdRo_toList, makeVolumeIdRo_toList, List.append_cancel_left_eq] at texts
  obtain ⟨accounts, rest⟩ := first_inj plain plain' texts
  obtain ⟨containers, blobs⟩ := first_inj segment segment' rest
  exact ⟨String.toList_inj.mp accounts, String.toList_inj.mp containers, String.toList_inj.mp blobs⟩

/-- An account without a colon is never read as the mark of a read-only volume. -/
theorem makeVolumeId_ne_ro {account : String} (plain : ':' ∉ account.toList) (container blob : String)
    (account' container' blob' : String) :
    makeVolumeId account container blob ≠ makeVolumeIdRo account' container' blob' := by
  intro same
  have texts := congrArg String.toList same
  rw [makeVolumeId_toList, makeVolumeIdRo_toList] at texts
  match account.toList, plain, texts with
  | [], _, texts => simp at texts
  | [_], _, texts => simp at texts
  | [_, _], _, texts => simp at texts
  | first :: second :: third :: _, plain, texts => simp_all

end Identity

section Create

/-- The URL library splits a URL at its slashes: none is left in the host or in a segment of the path. -/
structure UrlLib.Segmented (lib : UrlLib) : Prop where
  host : ∀ {url parsed host}, lib.parse url = .ok parsed → parsed.host = some host → '/' ∉ host.toList
  segments : ∀ {url parsed segment}, lib.parse url = .ok parsed → segment ∈ parsed.pathSegments → '/' ∉ segment.toList

/-- The names of storage accounts have no colon, so the service creates no blob under such a name. -/
def StorageAnswers.AccountNames (answers : StorageAnswers) : Prop :=
  ∀ account container blob size, answers.createBlob account container blob size = .ok () → ':' ∉ account.toList

/-- The template of a request that targets a snapshot. -/
def snapshotTemplate (lib : UrlLib) (request : CreateVolumeRequest) : Option TemplateBlobRef :=
  (templateUrl request).bind fun url => match parseBlobUrl lib url with
    | .ok tmpl => if tmpl.snapshot.isSome then some tmpl else none
    | .error _ => none

theorem mem_of_mem_fields {separator char : Char} {text field : List Char} (inside : char ∈ field)
    (member : field ∈ fields separator text) : char ∈ text := by
  induction text generalizing field with
  | nil =>
      obtain rfl : field = [] := by simpa [fields] using member
      cases inside
  | cons first rest ih =>
      rw [fields] at member
      split at member
      · rcases List.mem_cons.mp member with rfl | later
        · cases inside
        · exact List.mem_cons_of_mem _ (ih inside later)
      · split at member
        · rename_i empty
          exact absurd empty (fields_ne_nil _ _)
        · rename_i head more split
          rcases List.mem_cons.mp member with rfl | later
          · rcases List.mem_cons.mp inside with rfl | tail
            · exact List.mem_cons_self
            · exact List.mem_cons_of_mem _ (ih tail (by simp [split]))
          · exact List.mem_cons_of_mem _ (ih inside (by simp [split, later]))

/-- The account and the container of a template are parts of its URL between slashes. -/
theorem parseBlobUrl_plain {lib : UrlLib} (segmented : lib.Segmented) {url : String} {tmpl : TemplateBlobRef}
    (read : parseBlobUrl lib url = .ok tmpl) : '/' ∉ tmpl.account.toList ∧ '/' ∉ tmpl.container.toList := by
  unfold parseBlobUrl at read
  split at read
  · cases read
  rename_i parsed parse
  split at read
  · cases read
  rename_i host found
  have plain {segment : String} (member : segment ∈ parsed.pathSegments.filter fun segment => segment ≠ "") :
      '/' ∉ segment.toList := segmented.segments parse (List.mem_of_mem_filter member)
  dsimp only at read
  split at read
  · split at read
    · rename_i container first rest segments
      obtain rfl := Except.ok.inj read
      refine ⟨?_, plain (by rw [segments]; exact List.mem_cons_self)⟩
      intro member
      rw [String.toList_ofList] at member
      refine segmented.host parse found (@mem_of_mem_fields '.' _ _ _ member ?_)
      cases labels : fields '.' host.toList with
      | nil => exact absurd labels (fields_ne_nil _ _)
      | cons label more => simp
    · cases read
  · split at read
    · rename_i account container first rest segments
      obtain rfl := Except.ok.inj read
      exact ⟨plain (by rw [segments]; simp), plain (by rw [segments]; simp)⟩
    · cases read

theorem snapshotTemplate_read {lib : UrlLib} {request : CreateVolumeRequest} {tmpl : TemplateBlobRef}
    (found : snapshotTemplate lib request = some tmpl) :
    tmpl.snapshot.isSome ∧ ∃ url, parseBlobUrl lib url = .ok tmpl := by
  obtain ⟨url, _, read⟩ := Option.bind_eq_some_iff.mp found
  split at read
  · rename_i parsed parse
    split at read
    · rename_i snapshot
      obtain rfl := Option.some.inj read
      exact ⟨snapshot, url, parse⟩
    · cases read
  · cases read

theorem except_bind {Failure Value Result : Type} {step : Except Failure Value}
    {next : Value → Except Failure Result} {result : Result} (done : (step >>= next) = .ok result) :
    ∃ value, step = .ok value ∧ next value = .ok result := by
  cases step with
  | error error => cases done
  | ok value => exact ⟨value, rfl, done⟩

theorem orFail_bind {Value Result : Type} {code : RpcCode} {context : String} {step : Except Error Value}
    {next : Value → Except RpcError Result} {result : Result}
    (done : (orFail code context step >>= next) = .ok result) :
    ∃ value, step = .ok value ∧ next value = .ok result := by
  obtain ⟨value, passed, rest⟩ := except_bind done
  cases step with
  | error error => cases passed
  | ok first =>
      obtain rfl := Except.ok.inj passed
      exact ⟨first, rfl, rest⟩

/-- A created volume is a snapshot that is mounted directly, or has a blob of its own, copied when there is a template. -/
theorem createVolume_kinds {lib : UrlLib} {config : DriverConfig} {answers : StorageAnswers}
    {request : CreateVolumeRequest} {volume : Volume} (created : createVolume lib config answers request = .ok volume) :
    (∃ tmpl sourceSize, snapshotTemplate lib request = some tmpl ∧ volume = readOnlyVolume request tmpl sourceSize) ∨
    (snapshotTemplate lib request = none ∧ ∃ pvcName pvcNamespace size,
      answers.createBlob (storageAccountFor config request pvcName pvcNamespace)
        (containerFor config request pvcName pvcNamespace) (blobPath request pvcName pvcNamespace) size = .ok () ∧
      volume = readWriteVolume config request (storageAccountFor config request pvcName pvcNamespace)
        (containerFor config request pvcName pvcNamespace) (blobPath request pvcName pvcNamespace) size
        (templateUrl request).isSome) := by
  unfold createVolume at created
  by_cases unnamed : request.name = ""
  · rw [if_pos unnamed] at created
    cases created
  rw [if_neg unnamed] at created
  dsimp only at created
  split at created
  · rename_i template
    obtain ⟨_, _, created⟩ := orFail_bind created
    obtain ⟨_, made, created⟩ := orFail_bind created
    refine .inr ⟨by rw [snapshotTemplate, template]; rfl, _, _, _, made, ?_⟩
    rw [template]
    exact (Except.ok.inj created).symm
  · rename_i url template
    obtain ⟨tmpl, read, created⟩ := orFail_bind created
    obtain ⟨_, _, created⟩ := orFail_bind created
    obtain ⟨sourceSize, _, created⟩ := orFail_bind created
    have kind : snapshotTemplate lib request = if tmpl.snapshot.isSome then some tmpl else none := by
      rw [snapshotTemplate, template, Option.bind_some, read]
    split at created
    · rename_i snapshot
      rw [if_pos snapshot] at kind
      exact .inl ⟨tmpl, sourceSize, kind, (Except.ok.inj created).symm⟩
    · rename_i copied
      rw [if_neg copied] at kind
      obtain ⟨_, _, created⟩ := orFail_bind created
      obtain ⟨_, made, created⟩ := orFail_bind created
      obtain ⟨_, _, created⟩ := orFail_bind created
      refine .inr ⟨kind, _, _, _, made, ?_⟩
      rw [template]
      exact (Except.ok.inj created).symm

/-- A created volume is a snapshot that is mounted directly, or has a blob of its own. -/
theorem createVolume_cases {lib : UrlLib} {config : DriverConfig} {answers : StorageAnswers}
    {request : CreateVolumeRequest} {volume : Volume} (created : createVolume lib config answers request = .ok volume) :
    (∃ tmpl sourceSize, snapshotTemplate lib request = some tmpl ∧ volume = readOnlyVolume request tmpl sourceSize) ∨
    (snapshotTemplate lib request = none ∧ ∃ pvcName pvcNamespace size fromTemplate,
      answers.createBlob (storageAccountFor config request pvcName pvcNamespace)
        (containerFor config request pvcName pvcNamespace) (blobPath request pvcName pvcNamespace) size = .ok () ∧
      volume = readWriteVolume config request (storageAccountFor config request pvcName pvcNamespace)
        (containerFor config request pvcName pvcNamespace) (blobPath request pvcName pvcNamespace) size
        fromTemplate) := by
  rcases createVolume_kinds created with snapshot | ⟨other, pvcName, pvcNamespace, size, made, volume⟩
  · exact .inl snapshot
  · exact .inr ⟨other, pvcName, pvcNamespace, size, _, made, volume⟩

end Create

section Environment

/-- The child of a volume is pointed at the blob and the snapshot that the context names. -/
def Attached.Serves (lib : UrlLib) (attached : Attached) (context : Params) : Prop :=
  ∃ endpoint account container blob, context "endpoint" = some endpoint ∧ context "account" = some account ∧
    context "container" = some container ∧ context "blob" = some blob ∧
    envValue attached.env "UBLK_BLOB_URL" =
      some (childBlobUrl lib endpoint account container blob (nonEmpty (context "snapshot")))

theorem envValue_first {name value : String} {env : ChildEnv} (other : ∀ pair ∈ env, pair.1 ≠ name) :
    envValue ((name, value) :: env) name = some value := by
  have absent : (env.reverse.find? fun pair => pair.1 = name) = none := by
    simpa [List.find?_eq_none] using other
  rw [envValue, List.reverse_cons, List.find?_append, absent]
  simp

theorem optionalPair_key {name : String} {value : Option String} {pair : String × String}
    (member : pair ∈ optionalPair name value) : pair.1 = name := by
  obtain ⟨text, _, rfl⟩ := List.mem_map.mp member
  rfl

theorem authEnv_key {config : DriverConfig} {secrets : Params} {auth : ChildEnv} {pair : String × String}
    (found : authEnv config secrets = some auth) (member : pair ∈ auth) : pair.1 ≠ "UBLK_BLOB_URL" := by
  unfold authEnv at found
  split at found
  · obtain rfl := Option.some.inj found
    rw [List.mem_singleton.mp member]
    simp
  split at found
  · obtain rfl := Option.some.inj found
    simp only [List.mem_append, List.mem_singleton] at member
    rcases member with ((rfl | client) | tenant) | file
    · decide
    · rw [optionalPair_key client]
      decide
    · rw [optionalPair_key tenant]
      decide
    · rw [optionalPair_key file]
      decide
  split at found
  · obtain rfl := Option.some.inj found
    rcases List.mem_append.mp member with first | client
    · rw [List.mem_singleton.mp first]
      decide
    · rw [optionalPair_key client]
      decide
  split at found
  · obtain rfl := Option.some.inj found
    simp only [List.mem_cons, List.not_mem_nil, or_false] at member
    rcases member with rfl | rfl | rfl <;> simp
  · cases found

theorem coordinationEnv_key {node : NodeConfig} {context : Params} {pair : String × String}
    (member : pair ∈ coordinationEnv node context) : pair.1 ≠ "UBLK_BLOB_URL" := by
  unfold coordinationEnv at member
  split at member
  · simp only [List.mem_append, List.mem_cons, List.not_mem_nil, or_false] at member
    rcases member with (((rfl | rfl) | space) | recovery) | duration
    · decide
    · simp
    · rw [optionalPair_key space]
      decide
    · rw [optionalPair_key recovery]
      decide
    · rw [optionalPair_key duration]
      decide
  · cases member

theorem tuningEnv_key {context : Params} {pair : String × String} (member : pair ∈ tuningEnv context) :
    pair.1 ≠ "UBLK_BLOB_URL" := by
  obtain ⟨param, listed, inside⟩ := List.mem_flatMap.mp member
  rw [optionalPair_key inside]
  have names : ∀ param ∈ tuningParams, param.2 ≠ "UBLK_BLOB_URL" := by decide
  exact names param listed

/-- The URL in the environment is the one that is built from the context. -/
theorem childEnv_ok {lib : UrlLib} {node : NodeConfig} {context secrets : Params} {volumeId : String} {env : ChildEnv}
    {endpoint account container blob : String} (atEndpoint : context "endpoint" = some endpoint)
    (inAccount : context "account" = some account) (inContainer : context "container" = some container)
    (ofBlob : context "blob" = some blob) (built : childEnv lib node context secrets volumeId = .ok env) :
    envValue env "UBLK_BLOB_URL" =
      some (childBlobUrl lib endpoint account container blob (nonEmpty (context "snapshot"))) := by
  unfold childEnv at built
  simp only [atEndpoint, inAccount, inContainer, ofBlob, Option.getD_some] at built
  split at built
  · cases built
  rename_i auth found
  obtain rfl := Except.ok.inj built
  simp only [List.cons_append, List.nil_append]
  apply envValue_first
  intro pair member
  simp only [List.mem_append] at member
  rcases member with (((inAuth | inLease) | inSas) | inTuning) | inInstance
  · exact authEnv_key found inAuth
  · exact coordinationEnv_key inLease
  · rw [optionalPair_key inSas]
    decide
  · exact tuningEnv_key inTuning
  · split at inInstance
    · rw [List.mem_singleton.mp inInstance]
      simp
    · cases inInstance

theorem childEnv_isOk {lib : UrlLib} {node : NodeConfig} {context secrets : Params} {volumeId blob : String}
    (ofBlob : context "blob" = some blob) :
    (∃ env, childEnv lib node context secrets volumeId = .ok env) ↔ (authEnv node.driver secrets).isSome := by
  unfold childEnv
  simp only [ofBlob]
  cases authEnv node.driver secrets with
  | none => simp
  | some auth => simp

end Environment

section Publish

variable {lib : UrlLib} {node : NodeConfig} {request : PublishRequest} {volumes : AttachedTable}

theorem publishOverlay_isOk :
    (∃ overlay, publishOverlay node request = .ok overlay) ↔
      ((request.volumeContext "overlay").any isEnabled = true → nonEmpty (request.volumeContext "snapshot") ≠ none ∧
        ∀ base, nonEmpty (request.volumeContext "overlayScratchDir") = some base → node.isDir base = .ok true) := by
  unfold publishOverlay
  by_cases enabled : (request.volumeContext "overlay").any isEnabled = true
  · by_cases missing : nonEmpty (request.volumeContext "snapshot") = none
    · simp only [enabled, missing, if_true, ne_eq, not_true_eq_false, false_and, imp_false]
      constructor
      · rintro ⟨overlay, done⟩
        cases done
      · exact False.elim
    · simp only [enabled, missing, if_true, if_false, ne_eq, not_false_eq_true, true_and, forall_const]
      cases scratch : nonEmpty (request.volumeContext "overlayScratchDir") with
      | none => simp [pure, Except.pure]
      | some base =>
          cases dir : node.isDir base with
          | error error =>
              simp [checkScratch, dir, bind, Except.bind]
          | ok isDir =>
              cases isDir <;> simp [checkScratch, dir, bind, Except.bind, pure, Except.pure]
  · simp only [enabled, if_false, Bool.false_eq_true, false_implies, iff_true]
    exact ⟨none, rfl⟩

/-- The checks of a publish ask for authentication, a file system and, for an overlay, a snapshot and a directory. -/
theorem preparePublish_isOk {blob : String} (ofBlob : request.volumeContext "blob" = some blob)
    (unchecked : request.volumeContext "fsck" = none) :
    (∃ attached, preparePublish lib node request = .ok attached) ↔
      request.rawBlock = false ∧ (authEnv node.driver request.secrets).isSome ∧
      ∃ overlay, publishOverlay node request = .ok overlay := by
  unfold preparePublish
  rw [← @childEnv_isOk lib node _ request.secrets request.volumeId blob ofBlob]
  cases request.rawBlock with
  | true => simp [throw, throwThe, MonadExceptOf.throw, bind, Except.bind]
  | false =>
      cases childEnv lib node request.volumeContext request.secrets request.volumeId with
      | error error => simp [orFail, bind, Except.bind]
      | ok env =>
          have off : FsckMode.parse "" = .ok .off := by decide
          cases publishOverlay node request with
          | error error => simp [orFail, bind, Except.bind]
          | ok overlay => simp [orFail, bind, Except.bind, unchecked, off, pure, Except.pure]

theorem preparePublish_ok {attached : Attached} (prepared : preparePublish lib node request = .ok attached) :
    attached.target = request.targetPath ∧
      childEnv lib node request.volumeContext request.secrets request.volumeId = .ok attached.env := by
  unfold preparePublish at prepared
  by_cases block : request.rawBlock = true
  · rw [if_pos block] at prepared
    cases prepared
  rw [if_neg block] at prepared
  obtain ⟨env, built, rest⟩ := orFail_bind prepared
  obtain ⟨overlay, _, rest⟩ := except_bind rest
  obtain ⟨mode, _, done⟩ := except_bind rest
  obtain rfl := Except.ok.inj done
  exact ⟨rfl, built⟩

/-- A publish at a target that no volume has takes a free id and passes the checks. -/
theorem nodePublishVolume_ok {after : AttachedTable} (named : request.volumeId ≠ "")
    (placed : request.targetPath ≠ "")
    (elsewhere : ∀ attached, volumes request.volumeId = some attached → attached.target ≠ request.targetPath) :
    nodePublishVolume lib node volumes request = .ok after ↔ volumes request.volumeId = none ∧
      ∃ attached, preparePublish lib node request = .ok attached ∧
        after = Function.update volumes request.volumeId (some attached) := by
  unfold nodePublishVolume
  rw [if_neg named, if_neg placed]
  cases found : volumes request.volumeId with
  | some existing =>
      dsimp only
      rw [if_neg (elsewhere existing found)]
      simp [throw, throwThe, MonadExceptOf.throw]
  | none =>
      cases preparePublish lib node request with
      | error error => simp [bind, Except.bind]
      | ok attached => simp [bind, Except.bind, pure, Except.pure, eq_comm]

/-- Requests with ids and targets of their own that no volume of the table is published at. -/
structure Placeable (volumes : AttachedTable) (requests : List PublishRequest) : Prop where
  named : ∀ request ∈ requests, request.volumeId ≠ ""
  placed : ∀ request ∈ requests, request.targetPath ≠ ""
  targets : (requests.map PublishRequest.targetPath).Nodup
  elsewhere : ∀ volumeId attached, volumes volumeId = some attached →
    attached.target ∉ requests.map PublishRequest.targetPath

theorem Placeable.first {requests : List PublishRequest} {after : AttachedTable}
    (placeable : Placeable volumes (request :: requests)) :
    nodePublishVolume lib node volumes request = .ok after ↔ volumes request.volumeId = none ∧
      ∃ attached, preparePublish lib node request = .ok attached ∧
        after = Function.update volumes request.volumeId (some attached) :=
  nodePublishVolume_ok (placeable.named _ (by simp)) (placeable.placed _ (by simp)) fun attached found same =>
    placeable.elsewhere _ attached found (by simp [same])

theorem Placeable.rest {requests : List PublishRequest} {attached : Attached}
    (placeable : Placeable volumes (request :: requests))
    (prepared : preparePublish lib node request = .ok attached) :
    Placeable (Function.update volumes request.volumeId (some attached)) requests := by
  have targets := placeable.targets
  rw [List.map_cons, List.nodup_cons] at targets
  refine ⟨fun other member => placeable.named other (by simp [member]),
    fun other member => placeable.placed other (by simp [member]), targets.2, ?_⟩
  intro volumeId entry found
  by_cases same : volumeId = request.volumeId
  · rw [same, Function.update_self] at found
    obtain rfl := Option.some.inj found
    rw [(preparePublish_ok prepared).1]
    exact targets.1
  · rw [Function.update_of_ne same] at found
    intro member
    exact placeable.elsewhere volumeId entry found (by simp [member])

/-- A run that succeeds has published every request under an id of its own. -/
theorem publishAll_ok {requests : List PublishRequest} {final : AttachedTable}
    (placeable : Placeable volumes requests) (done : publishAll lib node requests volumes = .ok final) :
    (requests.map PublishRequest.volumeId).Nodup ∧
      (∀ volumeId, volumeId ∉ requests.map PublishRequest.volumeId → final volumeId = volumes volumeId) ∧
      ∀ request ∈ requests, volumes request.volumeId = none ∧
        ∃ attached, preparePublish lib node request = .ok attached ∧ final request.volumeId = some attached := by
  induction requests generalizing volumes with
  | nil =>
      obtain rfl := Except.ok.inj done
      simp
  | cons request rest ih =>
      rw [publishAll, List.foldlM_cons] at done
      obtain ⟨after, published, done⟩ := except_bind done
      obtain ⟨free, attached, prepared, rfl⟩ := placeable.first.mp published
      obtain ⟨ids, kept, entries⟩ := ih (placeable.rest prepared) done
      have fresh : request.volumeId ∉ rest.map PublishRequest.volumeId := by
        intro member
        obtain ⟨other, inside, same⟩ := List.mem_map.mp member
        have taken := (entries other inside).1
        rw [same, Function.update_self] at taken
        cases taken
      refine ⟨List.nodup_cons.mpr ⟨fresh, ids⟩, ?_, ?_⟩
      · intro volumeId outside
        rw [List.map_cons, List.mem_cons, not_or] at outside
        rw [kept volumeId outside.2, Function.update_of_ne outside.1]
      · intro other member
        rcases List.mem_cons.mp member with rfl | inside
        · exact ⟨free, attached, prepared, by rw [kept _ fresh, Function.update_self]⟩
        · obtain ⟨taken, entry⟩ := entries other inside
          have differs : other.volumeId ≠ request.volumeId :=
            fun same => fresh (same ▸ List.mem_map_of_mem inside)
          rw [Function.update_of_ne differs] at taken
          exact ⟨taken, entry⟩

/-- Requests with distinct free ids that pass the checks are all published. -/
theorem publishAll_of_nodup {requests : List PublishRequest} (placeable : Placeable volumes requests)
    (ids : (requests.map PublishRequest.volumeId).Nodup)
    (ready : ∀ request ∈ requests, volumes request.volumeId = none ∧
      ∃ attached, preparePublish lib node request = .ok attached) :
    ∃ final, publishAll lib node requests volumes = .ok final := by
  induction requests generalizing volumes with
  | nil => exact ⟨volumes, rfl⟩
  | cons request rest ih =>
      obtain ⟨free, attached, prepared⟩ := ready request (by simp)
      rw [List.map_cons, List.nodup_cons] at ids
      have published := placeable.first.mpr ⟨free, attached, prepared, rfl⟩
      have later : ∀ other ∈ rest, Function.update volumes request.volumeId (some attached) other.volumeId = none ∧
          ∃ entry, preparePublish lib node other = .ok entry := by
        intro other member
        have differs : other.volumeId ≠ request.volumeId :=
          fun same => ids.1 (same ▸ List.mem_map_of_mem member)
        rw [Function.update_of_ne differs]
        exact ready other (by simp [member])
      obtain ⟨final, done⟩ := ih (placeable.rest prepared) ids.2 later
      refine ⟨final, ?_⟩
      rw [publishAll, List.foldlM_cons, published]
      exact done

end Publish

section Claims

/-- A volume that was created under a name of Kubernetes, with the default path or from a snapshot, and where it is
published. -/
structure Provisioned (lib : UrlLib) (config : DriverConfig) where
  answers : StorageAnswers
  request : CreateVolumeRequest
  volume : Volume
  targetPath : String
  secrets : Params
  rawBlock : Bool
  accountNames : answers.AccountNames
  created : createVolume lib config answers request = .ok volume
  valid : KubernetesName request.name
  located : request.parameters "blobPathTemplate" = none ∨ (snapshotTemplate lib request).isSome
  placed : targetPath ≠ ""

variable {lib : UrlLib} {config : DriverConfig}

namespace Provisioned

def publish (pvc : Provisioned lib config) : PublishRequest :=
  ⟨pvc.volume.volumeId, pvc.targetPath, pvc.volume.volumeContext, pvc.secrets, pvc.rawBlock⟩

theorem publish_volumeContext (pvc : Provisioned lib config) :
    pvc.publish.volumeContext = pvc.volume.volumeContext := rfl

/-- Both are read-only volumes of snapshots of one blob. -/
def SameTemplate (first second : Provisioned lib config) : Prop :=
  ∃ tmpl other, snapshotTemplate lib first.request = some tmpl ∧ snapshotTemplate lib second.request = some other ∧
    tmpl.account = other.account ∧ tmpl.container = other.container ∧ tmpl.blob = other.blob

/-- The node has a way to authenticate, and what the request asks of the node is there. -/
def Ready (node : NodeConfig) (pvc : Provisioned lib config) : Prop :=
  pvc.rawBlock = false ∧ (authEnv node.driver pvc.secrets).isSome ∧
    ∀ tmpl, snapshotTemplate lib pvc.request = some tmpl →
      (pvc.request.parameters "overlay").any isEnabled = true → nonEmpty tmpl.snapshot ≠ none ∧
        ∀ base, nonEmpty (pvc.request.parameters "overlayScratchDir") = some base → node.isDir base = .ok true

theorem sameTemplate_id {first second : Provisioned lib config} (same : SameTemplate first second) :
    first.volume.volumeId = second.volume.volumeId := by
  obtain ⟨tmpl, other, found, foundOther, accounts, containers, blobs⟩ := same
  have readOnly (pvc : Provisioned lib config) (used : TemplateBlobRef)
      (snapshot : snapshotTemplate lib pvc.request = some used) :
      pvc.volume.volumeId = makeVolumeIdRo used.account used.container used.blob := by
    rcases createVolume_cases pvc.created with ⟨source, size, template, volume⟩ | ⟨copied, _⟩
    · obtain rfl := Option.some.inj (snapshot.symm.trans template)
      rw [volume]
      rfl
    · cases snapshot.symm.trans copied
  rw [readOnly first tmpl found, readOnly second other foundOther, accounts, containers, blobs]

/-- Volumes of different names share an id only when they are read-only volumes of one blob. -/
theorem sameTemplate_of_id (segmented : lib.Segmented) {first second : Provisioned lib config}
    (names : first.request.name ≠ second.request.name) (same : first.volume.volumeId = second.volume.volumeId) :
    SameTemplate first second := by
  have defaultPath (pvc : Provisioned lib config) (copied : snapshotTemplate lib pvc.request = none) :
      pvc.request.parameters "blobPathTemplate" = none := by
    rcases pvc.located with path | snapshot
    · exact path
    · rw [copied] at snapshot
      cases snapshot
  rcases createVolume_cases first.created with ⟨tmpl, size, found, volume⟩ | ⟨copied, _, _, size, _, made, volume⟩
  · rcases createVolume_cases second.created with
      ⟨other, otherSize, foundOther, otherVolume⟩ | ⟨_, _, _, _, _, made, otherVolume⟩
    · rw [volume, otherVolume] at same
      obtain ⟨_, url, read⟩ := snapshotTemplate_read found
      obtain ⟨_, otherUrl, readOther⟩ := snapshotTemplate_read foundOther
      obtain ⟨account, container⟩ := parseBlobUrl_plain segmented read
      obtain ⟨otherAccount, otherContainer⟩ := parseBlobUrl_plain segmented readOther
      exact ⟨tmpl, other, found, foundOther, makeVolumeIdRo_inj account otherAccount container otherContainer same⟩
    · rw [volume, otherVolume] at same
      exact absurd same.symm (makeVolumeId_ne_ro (second.accountNames _ _ _ _ made) _ _ _ _ _)
  · rcases createVolume_cases second.created with
      ⟨other, otherSize, _, otherVolume⟩ | ⟨copiedOther, _, _, _, _, _, otherVolume⟩
    · rw [volume, otherVolume] at same
      exact absurd same (makeVolumeId_ne_ro (first.accountNames _ _ _ _ made) _ _ _ _ _)
    · rw [volume, otherVolume] at same
      have texts := congrArg String.toList same
      simp only [readWriteVolume, makeVolumeId_toList, blobPath_default _ _ (defaultPath first copied) first.valid,
        blobPath_default _ _ (defaultPath second copiedOther) second.valid, ← List.cons_append,
        ← List.append_assoc] at texts
      have last := last_inj (fun member => (first.valid.char member).2 rfl)
        (fun member => (second.valid.char member).2 rfl) texts
      exact absurd (String.toList_inj.mp last) names

theorem volumeId_ne_empty (pvc : Provisioned lib config) : pvc.volume.volumeId ≠ "" := by
  intro empty
  have text := congrArg String.toList empty
  rcases createVolume_cases pvc.created with ⟨tmpl, size, _, volume⟩ | ⟨_, _, _, size, _, _, volume⟩
  · rw [volume] at text
    simp [readOnlyVolume, makeVolumeIdRo_toList] at text
  · rw [volume] at text
    simp [readWriteVolume, makeVolumeId_toList] at text

/-- The context that the controller returns has what the node needs. -/
theorem context (pvc : Provisioned lib config) :
    (∃ endpoint account container blob, pvc.volume.volumeContext "endpoint" = some endpoint ∧
      pvc.volume.volumeContext "account" = some account ∧ pvc.volume.volumeContext "container" = some container ∧
      pvc.volume.volumeContext "blob" = some blob) ∧ pvc.volume.volumeContext "fsck" = none := by
  rcases createVolume_cases pvc.created with ⟨tmpl, size, _, volume⟩ | ⟨_, _, _, size, _, _, volume⟩
  · obtain ⟨account, container, blob, endpoint, _, _, _, fsck⟩ := readOnlyVolume_context pvc.request tmpl size
    obtain ⟨url, endpoint⟩ := Option.isSome_iff_exists.mp endpoint
    rw [volume]
    exact ⟨⟨_, _, _, _, endpoint, account, container, blob⟩, fsck⟩
  · obtain ⟨account, container, blob, endpoint, _, _, fsck⟩ := readWriteVolume_context config pvc.request _ _ _ size _
    obtain ⟨url, endpoint⟩ := Option.isSome_iff_exists.mp endpoint
    rw [volume]
    exact ⟨⟨_, _, _, _, endpoint, account, container, blob⟩, fsck⟩

theorem prepared_iff (node : NodeConfig) (pvc : Provisioned lib config) :
    (∃ attached, preparePublish lib node pvc.publish = .ok attached) ↔ pvc.Ready node := by
  obtain ⟨⟨_, _, _, blob, _, _, _, ofBlob⟩, unchecked⟩ := pvc.context
  rw [@preparePublish_isOk lib node pvc.publish blob ofBlob unchecked, publishOverlay_isOk, Ready]
  refine and_congr_right fun _ => and_congr_right fun _ => ?_
  rcases createVolume_cases pvc.created with ⟨tmpl, size, found, volume⟩ | ⟨copied, _, _, size, _, _, volume⟩
  · obtain ⟨_, _, _, _, snapshot, overlay, scratch, _⟩ := readOnlyVolume_context pvc.request tmpl size
    rw [publish_volumeContext, volume, snapshot, overlay, scratch]
    constructor
    · intro ready used template
      obtain rfl := Option.some.inj (found.symm.trans template)
      exact ready
    · intro ready
      exact ready tmpl found
  · have noOverlay : pvc.volume.volumeContext "overlay" = none := by
      rw [volume]
      exact (readWriteVolume_context _ _ _ _ _ _ _).2.2.2.2.2.1
    rw [publish_volumeContext, noOverlay, copied]
    simp

theorem prepared_serves {node : NodeConfig} {pvc : Provisioned lib config} {attached : Attached}
    (prepared : preparePublish lib node pvc.publish = .ok attached) :
    attached.target = pvc.targetPath ∧ attached.Serves lib pvc.volume.volumeContext := by
  obtain ⟨target, built⟩ := preparePublish_ok prepared
  obtain ⟨⟨_, _, _, _, endpoint, account, container, blob⟩, _⟩ := pvc.context
  exact ⟨target, _, _, _, _, endpoint, account, container, blob, childEnv_ok endpoint account container blob built⟩

end Provisioned

/-- Volumes are published side by side, each with its own blob, exactly when no two are snapshots of one blob and the
node can serve each. -/
theorem provisioned_published_iff (segmented : lib.Segmented) (node : NodeConfig) (pvcs : List (Provisioned lib config))
    (names : (pvcs.map fun pvc => pvc.request.name).Nodup) (targets : (pvcs.map fun pvc => pvc.targetPath).Nodup) :
    ((pvcs.map fun pvc => pvc.volume.volumeId).Nodup ∧
      ∃ final, publishAll lib node (pvcs.map Provisioned.publish) (fun _ => none) = .ok final ∧
        ∀ pvc ∈ pvcs, ∃ attached, final pvc.volume.volumeId = some attached ∧ attached.target = pvc.targetPath ∧
          attached.Serves lib pvc.volume.volumeContext) ↔
    (pvcs.Pairwise fun first second => ¬ first.SameTemplate second) ∧ ∀ pvc ∈ pvcs, pvc.Ready node := by
  have ids : (pvcs.map Provisioned.publish).map PublishRequest.volumeId =
      pvcs.map fun pvc => pvc.volume.volumeId := by
    rw [List.map_map]
    rfl
  have placeable : Placeable (fun _ => none) (pvcs.map Provisioned.publish) := by
    refine ⟨?_, ?_, ?_, fun _ _ found => by cases found⟩
    · simpa [Provisioned.publish] using fun pvc _ => pvc.volumeId_ne_empty
    · simpa [Provisioned.publish] using fun pvc _ => pvc.placed
    · rw [List.map_map]
      exact targets
  constructor
  · rintro ⟨distinct, final, done, _⟩
    refine ⟨(List.pairwise_map.mp distinct).imp fun differs same => differs (Provisioned.sameTemplate_id same), ?_⟩
    intro pvc member
    obtain ⟨_, _, entries⟩ := publishAll_ok placeable done
    obtain ⟨_, attached, prepared, _⟩ := entries pvc.publish (List.mem_map_of_mem member)
    exact (pvc.prepared_iff node).mp ⟨attached, prepared⟩
  · rintro ⟨apart, ready⟩
    have distinct : (pvcs.map fun pvc => pvc.volume.volumeId).Nodup := by
      refine List.pairwise_map.mpr ((apart.and (List.pairwise_map.mp names)).imp ?_)
      rintro first second ⟨templates, named⟩ same
      exact templates (Provisioned.sameTemplate_of_id segmented named same)
    have prepared : ∀ request ∈ pvcs.map Provisioned.publish, (fun _ => none : AttachedTable) request.volumeId = none ∧
        ∃ attached, preparePublish lib node request = .ok attached := by
      intro request member
      obtain ⟨pvc, inside, rfl⟩ := List.mem_map.mp member
      exact ⟨rfl, (pvc.prepared_iff node).mpr (ready pvc inside)⟩
    obtain ⟨final, done⟩ := publishAll_of_nodup placeable (ids ▸ distinct) prepared
    refine ⟨distinct, final, done, ?_⟩
    intro pvc member
    obtain ⟨_, _, entries⟩ := publishAll_ok placeable done
    obtain ⟨_, attached, made, found⟩ := entries pvc.publish (List.mem_map_of_mem member)
    exact ⟨attached, found, Provisioned.prepared_serves made⟩

section Samples

def goldenUrl : String := "https://images.blob.core.windows.net/golden/ubuntu.img?snapshot=2024-05-01T10:00:00.0000000Z"

/-- The parts of the URLs of the samples. -/
def sampleUrls : List (String × ParsedUrl) :=
  [(goldenUrl, ⟨"https", some "images.blob.core.windows.net", none, ["golden", "ubuntu.img"],
      [("snapshot", "2024-05-01T10:00:00.0000000Z")]⟩),
    ("https://images.blob.core.windows.net/", ⟨"https", some "images.blob.core.windows.net", none, [""], []⟩),
    ("https://volumes.blob.core.windows.net/", ⟨"https", some "volumes.blob.core.windows.net", none, [""], []⟩)]

def sampleLib : UrlLib where
  parse url := match sampleUrls.find? fun entry => entry.1 = url with
    | some entry => .ok entry.2
    | none => .error ["relative URL without a base"]
  isIpAddr _ := false
  encodePairs pairs := "&".intercalate (pairs.map fun pair => pair.1 ++ "=" ++ pair.2)

def sampleConfig : DriverConfig :=
  ⟨"volumes", "https://volumes.blob.core.windows.net/", "disks", some "a2V5", false, none, false, none, none, none,
    none, none, none⟩

def sampleNode : NodeConfig := ⟨"node-1", sampleConfig, none, none, fun _ => .ok true⟩

def sampleAnswers : StorageAnswers where
  buildTemplate := .ok ()
  statTemplate := .ok 1048576
  buildBackend := .ok ()
  createBlob account _ _ _ := if ':' ∈ account.toList then .error ["the account is not known"] else .ok ()
  copyTemplate := .ok ()

theorem sampleLib_segmented : sampleLib.Segmented := by
  have listed : ∀ entry ∈ sampleUrls, (∀ host ∈ entry.2.host, '/' ∉ host.toList) ∧
      ∀ segment ∈ entry.2.pathSegments, '/' ∉ segment.toList := by decide +kernel
  have known {url : String} {parsed : ParsedUrl} (read : sampleLib.parse url = .ok parsed) :
      ∃ entry ∈ sampleUrls, entry.2 = parsed := by
    unfold sampleLib at read
    dsimp only at read
    split at read
    · rename_i entry found
      exact ⟨entry, List.mem_of_find?_eq_some found, Except.ok.inj read⟩
    · cases read
  constructor
  · intro url parsed host read found
    obtain ⟨entry, member, rfl⟩ := known read
    exact (listed entry member).1 host found
  · intro url parsed segment read inside
    obtain ⟨entry, member, rfl⟩ := known read
    exact (listed entry member).2 segment inside

theorem sampleAnswers_accountNames : sampleAnswers.AccountNames := by
  intro account container blob size made colon
  simp [sampleAnswers, colon] at made

def goldenRequest (name : String) : CreateVolumeRequest :=
  ⟨name, 0, fun key => if key = "templateBlobUrl" then some goldenUrl else none, fun _ => none⟩

def goldenTemplate : TemplateBlobRef :=
  ⟨"https://images.blob.core.windows.net", "images", "golden", "ubuntu.img", some "2024-05-01T10:00:00.0000000Z", none⟩

theorem goldenRequest_created {name : String} (named : name ≠ "") :
    createVolume sampleLib sampleConfig sampleAnswers (goldenRequest name) =
      .ok (readOnlyVolume (goldenRequest name) goldenTemplate 1048576) := by
  rw [createVolume, if_neg (by simpa [goldenRequest] using named)]
  rfl

/-- A claim on the golden image. -/
def goldenClaim (name target : String) (valid : KubernetesName name) (placed : target ≠ "") :
    Provisioned sampleLib sampleConfig :=
  ⟨sampleAnswers, goldenRequest name, readOnlyVolume (goldenRequest name) goldenTemplate 1048576, target,
    fun _ => none, false, sampleAnswers_accountNames, goldenRequest_created valid.1, valid, .inl rfl, placed⟩

def diskRequest (name : String) : CreateVolumeRequest := ⟨name, 1048576, fun _ => none, fun _ => none⟩

theorem diskRequest_created {name : String} (named : name ≠ "") :
    createVolume sampleLib sampleConfig sampleAnswers (diskRequest name) =
      .ok (readWriteVolume sampleConfig (diskRequest name) "volumes" "disks" (blobPath (diskRequest name) "" "")
        (roundUp512 (max (diskRequest name).requiredBytes 0).toNat) false) := by
  have made (blob : String) (size : Nat) : sampleAnswers.createBlob "volumes" "disks" blob size = .ok () := by
    simp [sampleAnswers]
  have account : storageAccountFor sampleConfig (diskRequest name) "" "" = "volumes" := rfl
  have container : containerFor sampleConfig (diskRequest name) "" "" = "disks" := rfl
  have template : templateUrl (diskRequest name) = none := rfl
  have untitled (key : String) : ((diskRequest name).parameters key).getD "" = "" := rfl
  rw [createVolume, if_neg (by simpa [diskRequest] using named)]
  simp only [untitled, account, container, template, made]
  rfl

/-- A claim on a blob of its own. -/
def diskClaim (name target : String) (valid : KubernetesName name) (placed : target ≠ "") :
    Provisioned sampleLib sampleConfig :=
  ⟨sampleAnswers, diskRequest name, _, target, fun _ => none, false, sampleAnswers_accountNames,
    diskRequest_created valid.1, valid, .inl rfl, placed⟩

theorem kubernetesName_of_all {name : String} (filled : name ≠ "")
    (letters : (name.toList.all fun char => char ∈ "abcdefghijklmnopqrstuvwxyz0123456789-.".toList) = true) :
    KubernetesName name := by
  refine ⟨filled, fun char member => ?_⟩
  have letter := List.all_eq_true.mp letters char member
  simpa using letter

theorem firstName_valid : KubernetesName "pvc-a" := kubernetesName_of_all (by decide) (by decide)

theorem secondName_valid : KubernetesName "pvc-b" := kubernetesName_of_all (by decide) (by decide)

/-- Two claims on one snapshot. -/
def goldenPair : List (Provisioned sampleLib sampleConfig) :=
  [goldenClaim "pvc-a" "/pods/a/mount" firstName_valid (by decide),
    goldenClaim "pvc-b" "/pods/b/mount" secondName_valid (by decide)]

/-- A claim on a snapshot and a claim on a blob of its own. -/
def mixedPair : List (Provisioned sampleLib sampleConfig) :=
  [goldenClaim "pvc-a" "/pods/a/mount" firstName_valid (by decide),
    diskClaim "pvc-b" "/pods/b/mount" secondName_valid (by decide)]

theorem ready_of_plain {pvc : Provisioned sampleLib sampleConfig} (mounted : pvc.rawBlock = false)
    (plain : pvc.request.parameters "overlay" = none) : pvc.Ready sampleNode := by
  refine ⟨mounted, ?_, ?_⟩
  · unfold authEnv
    cases pvc.secrets "accountKey" <;> rfl
  · intro tmpl _ overlay
    rw [plain] at overlay
    cases overlay

theorem mixedPair_published :
    ((mixedPair.map fun pvc => pvc.volume.volumeId).Nodup ∧
      ∃ final, publishAll sampleLib sampleNode (mixedPair.map Provisioned.publish) (fun _ => none) = .ok final ∧
        ∀ pvc ∈ mixedPair, ∃ attached, final pvc.volume.volumeId = some attached ∧
          attached.target = pvc.targetPath ∧ attached.Serves sampleLib pvc.volume.volumeContext) := by
  refine (provisioned_published_iff sampleLib_segmented sampleNode mixedPair (by decide) (by decide)).mpr ⟨?_, ?_⟩
  · refine List.pairwise_pair.mpr ?_
    rintro ⟨_, other, _, found, _⟩
    cases found
  · intro pvc member
    rcases List.mem_pair.mp member with rfl | rfl
    · exact ready_of_plain rfl rfl
    · exact ready_of_plain rfl rfl

/-- The second of two claims on one snapshot cannot be published on the node of the first. -/
theorem goldenPair_refused :
    (goldenPair.map fun pvc => pvc.request.name).Nodup ∧ (goldenPair.map fun pvc => pvc.targetPath).Nodup ∧
      (∀ pvc ∈ goldenPair, pvc.Ready sampleNode) ∧ ¬ (goldenPair.map fun pvc => pvc.volume.volumeId).Nodup ∧
      publishAll sampleLib sampleNode (goldenPair.map Provisioned.publish) (fun _ => none) =
        .error ⟨.failedPrecondition, "volume already published at a different target path"⟩ := by
  refine ⟨by decide, by decide, ?_, by decide, rfl⟩
  intro pvc member
  rcases List.mem_pair.mp member with rfl | rfl
  · exact ready_of_plain rfl rfl
  · exact ready_of_plain rfl rfl

end Samples
end Claims
end UblkAzblob

import UblkAzblob.Proof.BufferUploads

namespace UblkAzblob
open Storage

/-- A phase that holds nothing but the chunks that are left. -/
def CallPhase.isPlain : CallPhase → Bool
  | .sized _ => false
  | .loaded _ => false
  | .flushing _ => false
  | _ => true

namespace BufferState

theorem nextSeq_eq {state : BufferState} (counts : state.seqCounter + 1 < 2 ^ 64) :
    state.nextSeq = state.seqCounter + 1 := Nat.mod_eq_of_lt counts

/-- Inserting a loaded page replaces no page, and no dirty page leaves. -/
theorem insertLoaded_pages {config : BufferedConfig} {state : BufferState} {page : Nat} {data : List UInt8}
    (shelved : Shelved config.pageSize state) (length : data.length = config.pageSize)
    (counts : state.seqCounter + 1 < 2 ^ 64) :
    state.seqCounter ≤ (state.insertLoaded config page data).seqCounter ∧
      (∀ other found, (state.insertLoaded config page data).pages.find? other = some found →
        state.pages.find? other = some found ∨
          (state.seqCounter < found.seq ∧ found.seq ≤ (state.insertLoaded config page data).seqCounter)) ∧
      ∀ other found, state.pages.find? other = some found → found.dirty = true →
        (state.insertLoaded config page data).pages.find? other = some found := by
  unfold insertLoaded
  split
  · exact ⟨le_rfl, fun _ _ present => .inl present, fun _ _ present _ => present⟩
  · rename_i absent
    have missing : state.pages.find? page = none := by simpa [OrderedMap.contains] using absent
    have put := put_shelved page ⟨data, false, state.nextSeq⟩ state.nextSeq shelved length
    obtain ⟨_, trimmed⟩ := enforceCacheLimit_trimmed config page put
    have lookup (other : Nat) : (state.pages.insert page ⟨data, false, state.nextSeq⟩).find? other =
        if other = page then some ⟨data, false, state.nextSeq⟩ else state.pages.find? other :=
      OrderedMap.find?_insert _ _ _ _
    have counter := trimmed.seqCounter
    have grows : state.seqCounter < state.nextSeq := by
      rw [nextSeq_eq counts]
      exact Nat.lt_succ_self _
    refine ⟨grows.le.trans_eq counter.symm, fun other found present => ?_, fun other found present dirty => ?_⟩
    · have inserted := (lookup other).symm.trans (trimmed.kept other found present)
      split at inserted
      · obtain rfl := Option.some.inj inserted
        exact .inr ⟨grows, counter.ge⟩
      · exact .inl inserted
    · refine trimmed.pinned other found ((lookup other).trans ?_) (.inl dirty)
      rw [if_neg, present]
      rintro rfl
      rw [missing] at present
      cases present

section Stays

variable {config : BufferedConfig} {state after : BufferState} {page other : Nat}

theorem insert_stays (entry : Page) (resident : state.pages.contains other = true) :
    (state.pages.insert page entry).contains other = true := by
  rw [OrderedMap.contains, OrderedMap.find?_insert]
  split
  · rfl
  · exact resident

/-- Without a limit no page leaves. -/
theorem insertLoaded_stays {data : List UInt8} (unlimited : config.maxCachedPages = 0)
    (resident : state.pages.contains other = true) :
    (state.insertLoaded config page data).pages.contains other = true := by
  unfold insertLoaded
  split
  · exact resident
  · simp only [enforceCacheLimit, if_pos unlimited]
    exact insert_stays _ resident

theorem copyOut_stays {pageOffset len : Nat} {bytes : List UInt8} (unlimited : config.maxCachedPages = 0)
    (copied : state.copyOut config page pageOffset len = some (bytes, after))
    (resident : state.pages.contains other = true) : after.pages.contains other = true := by
  unfold copyOut at copied
  split at copied
  · cases copied
  · simp only [enforceCacheLimit, if_pos unlimited] at copied
    obtain ⟨_, rfl⟩ := Prod.mk.inj (Option.some.inj copied)
    exact resident

theorem applyPatch_stays {pageOffset : Nat} {patch : List UInt8}
    (applied : state.applyPatch page pageOffset patch = some after) (resident : state.pages.contains other = true) :
    after.pages.contains other = true := by
  unfold applyPatch at applied
  split at applied
  · cases applied
  · obtain rfl := Option.some.inj applied
    exact insert_stays _ resident

theorem markClean_stays {seq : Nat} (resident : state.pages.contains other = true) :
    (state.markClean page seq).pages.contains other = true := by
  unfold markClean
  split
  · split
    · exact insert_stays _ resident
    · exact resident
  · exact resident

end Stays

end BufferState

namespace BufferedBackend

section Quiet

variable {Inner : Type} [BlobBackend Inner] [SectorStore Inner]
variable {buffer : BufferedBackend} {device : Nat} {world before after : BufferWorld Inner}

/-- A calm step that keeps the dirty pages and numbers new pages afresh disturbs no upload. -/
theorem Calm.undisturbed (calm : Calm buffer device before after) (counter : before.state.seqCounter ≤ after.state.seqCounter)
    (pages : ∀ page found, after.state.pages.find? page = some found → before.state.pages.find? page = some found ∨
      (before.state.seqCounter < found.seq ∧ found.seq ≤ after.state.seqCounter))
    (dirty : ∀ page found, before.state.pages.find? page = some found → found.dirty = true →
      after.state.pages.find? page = some found)
    (inner : SectorStore.content after.inner = SectorStore.content before.inner) :
    Undisturbed buffer device before after :=
  ⟨counter, fun page found present => (pages page found present).imp (fun held => ⟨found, held, rfl⟩) id,
    fun page found present isDirty => ⟨found, dirty page found present isDirty, isDirty⟩,
    fun _ => .inr fun x inside _ => calm.contents x (Nat.zero_le _) inside, fun x _ => congrFun inner x⟩

/-- An inner call that was only asked leaves everything as it is. -/
structure Untouched (before after : BufferWorld Inner) : Prop where
  state : after.state = before.state
  valid : SectorStore.valid after.inner
  content : SectorStore.content after.inner = SectorStore.content before.inner
  size : SectorStore.size after.inner = SectorStore.size before.inner

theorem Untouched.calm (untouched : Untouched before after) (tidy : Tidy buffer device before) :
    Calm buffer device before after := by
  obtain ⟨same, valid, content, size⟩ := untouched
  refine ⟨⟨valid, size.trans tidy.size, same ▸ tidy.devSize, same ▸ tidy.pages, ?_, same ▸ tidy.lru,
    same ▸ tidy.evictable⟩, fun known => same ▸ known, ?_⟩
  · intro page found present clean x inside own
    rw [same] at present
    rw [content]
    exact tidy.clean page found present clean x inside own
  · intro x _ _
    simp only [BufferedBackend.contents, same, content]

theorem Untouched.undisturbed (untouched : Untouched before after) (tidy : Tidy buffer device before) :
    Undisturbed buffer device before after :=
  (untouched.calm tidy).undisturbed (untouched.state ▸ le_rfl) (fun _ _ present => .inl (untouched.state ▸ present))
    (fun _ _ present _ => untouched.state.symm ▸ present) untouched.content

theorem size_untouched (tidy : Tidy buffer device world) :
    Untouched world (BufferWorld.callInner BlobBackend.size world).2 := by
  obtain ⟨valid, content, size⟩ := SectorStore.size_keeps world.inner tidy.valid
  exact ⟨rfl, valid, content, size⟩

theorem flush_untouched (tidy : Tidy buffer device world) :
    Untouched world (BufferWorld.callInner BlobBackend.flush world).2 := by
  obtain ⟨valid, content, size⟩ := SectorStore.flush_keeps world.inner tidy.valid
  exact ⟨rfl, valid, content, size⟩

/-- Reading a page touches nothing. -/
theorem loadPage_untouched (tidy : Tidy buffer device world) (page devSize : Nat) :
    Untouched world (buffer.loadPage page devSize world).2 := by
  have asked (offset len : Nat) : Action.Keeps (Untouched world)
      (BufferWorld.callInner (@BlobBackend.read Inner _ offset len)) := by
    intro between untouched
    obtain ⟨valid, content, size⟩ := SectorStore.read_keeps between.inner offset len untouched.valid
    exact ⟨untouched.state, valid, content.trans untouched.content, size.trans untouched.size⟩
  have kept : Action.Keeps (Untouched world) (buffer.loadPage page devSize) := by
    unfold loadPage
    dsimp only
    generalize (if 0 < devSize then min (devSize - page * buffer.config.pageSize) buffer.config.pageSize else 0) = readLen
    split
    · refine Action.keeps_bind (Action.keeps_withContext (asked _ _)) fun _ data between untouched _ => ?_
      refine Action.keeps_bind (Action.keeps_ensure _ _) (fun _ _ after checked _ => ?_) between untouched
      exact Action.keeps_pure _ after checked
    · exact Action.keeps_pure _
  exact kept world ⟨rfl, tidy.valid, rfl, rfl⟩

end Quiet

section Invariant

variable {Inner : Type} {buffer : BufferedBackend} {device : Nat}

/-- A chunk is an aligned part of the range of its request, which lies in the device. -/
def ChunkServed (buffer : BufferedBackend) (device : Nat) (request : BlobRequest) (chunk : Chunk) : Prop :=
  ∃ message op offset len, request.guards = some (message, op, offset, len) ∧ ChunkFits buffer device offset chunk ∧
    chunk.pos + chunk.len ≤ len ∧ offset + len ≤ device

theorem chunks_fit {offset len pos : Nat} {pieces : List Chunk} {chunk : Chunk}
    (tiles : Tiles buffer.config.pageSize offset len pos pieces) (posAligned : pos % 512 = 0)
    (offsetAligned : offset % 512 = 0) (lenAligned : len % 512 = 0) (inside : offset + len ≤ device)
    (member : chunk ∈ pieces) : ChunkFits buffer device offset chunk ∧ chunk.pos + chunk.len ≤ len := by
  induction tiles with
  | done => cases member
  | next first rest start within positive bounded cut tail ih =>
      have fits := chunkFits_of_tiles start within positive bounded cut posAligned offsetAligned lenAligned inside
      rcases List.mem_cons.mp member with rfl | later
      · exact ⟨fits, bounded⟩
      · exact ih (by have := fits.lenAligned; omega) later

theorem guards_bytes {request : BlobRequest} {message op : String} {offset len : Nat}
    (guarded : request.guards = some (message, op, offset, len)) :
    (∃ offset len, request = .read offset len) ∨ request.bytes.length = len := by
  cases request with
  | read offset len => exact .inl ⟨offset, len, rfl⟩
  | write offset data =>
      cases guarded
      exact .inr rfl
  | clear offset len =>
      cases guarded
      exact .inr List.length_replicate
  | flush => cases guarded

variable [BlobBackend Inner] [SectorStore Inner]

/-- What a call knows: its chunks lie in the device, and a page that it has loaded is that of the inner store unless an
upload of the page was carried out since. -/
structure Aboard (buffer : BufferedBackend) (device : Nat) (world : BufferWorld Inner) (landings : Nat → Nat) (seen : Nat)
    (call : BufferCall) : Prop where
  sized : ∀ size, call.phase = .sized size → size = device ∧ ∀ message op offset len,
    call.request.guards = some (message, op, offset, len) → offset % 512 = 0 ∧ len % 512 = 0
  known : call.pieces ≠ [] → call.devSize = device ∧ world.state.devSize = device
  chunks : ∀ chunk ∈ call.pieces, ChunkServed buffer device call.request chunk
  fresh : ∀ bytes chunk rest, call.phase = .loaded bytes → call.pieces = chunk :: rest →
    bytes.length = buffer.config.pageSize ∧ seen ≤ landings chunk.page ∧
      (seen = landings chunk.page → Shows buffer device chunk.page bytes (SectorStore.content world.inner))
  distinct : (call.uploads.map Prod.fst).Nodup

/-- What holds between the turns of a run. -/
structure Steady (buffer : BufferedBackend) (device : Nat) (ledger : BufferLedger Inner) : Prop where
  tidy : Tidy buffer device ledger.sys.world
  shelved : BufferState.Shelved buffer.config.pageSize ledger.sys.world.state
  current : AgreeOn 0 device (buffer.contents ledger.sys.world) (ledger.version ledger.applied)
  uploads : Uploading buffer device ledger.sys.world ledger.sys.pending
  calls : ∀ index call, ledger.sys.calls[index]? = some call →
    Aboard buffer device ledger.sys.world ledger.landings (ledger.seen index) call

/-- The inner store changes under a page only when its uploads are counted. -/
def Counted (buffer : BufferedBackend) (device : Nat) (before after : Nat → Nat) (old new : Store) : Prop :=
  ∀ page, before page ≤ after page ∧ (after page = before page → ∀ x, x < device → x / buffer.config.pageSize = page →
    new x = old x)

/-- One call moves, the others stay where they are. -/
structure Progress (buffer : BufferedBackend) (device : Nat) (ledger : BufferLedger Inner) (index : Nat) (call : BufferCall)
    (noted : BufferLedger Inner) (moved : BufferCall × BufferWorld Inner) : Prop where
  tidy : Tidy buffer device moved.2
  shelved : BufferState.Shelved buffer.config.pageSize moved.2.state
  current : AgreeOn 0 device (buffer.contents moved.2) (noted.version noted.applied)
  uploads : Uploading buffer device moved.2 ((ledger.sys.calls.set index moved.1).flatMap BufferCall.uploads)
  known : ledger.sys.world.state.devSize = device → moved.2.state.devSize = device
  counted : Counted buffer device ledger.landings noted.landings (SectorStore.content ledger.sys.world.inner)
    (SectorStore.content moved.2.inner)
  others : ∀ other, other ≠ index → noted.seen other = ledger.seen other
  own : Aboard buffer device moved.2 noted.landings (noted.seen index) moved.1
  versions : ledger.applied ≤ noted.applied ∧ ∀ count, count ≤ ledger.applied → noted.version count = ledger.version count
  ashore : Ashore buffer device call.uploads (SectorStore.content ledger.sys.world.inner)
    (SectorStore.content moved.2.inner)
  copied : ∀ page seq offset bytes, (page, .writing seq offset bytes) ∈ moved.1.uploads →
    (page, .writing seq offset bytes) ∈ call.uploads ∨ (ledger.sys.world.state.pages.contains page = true ∧
      Shows buffer device page bytes (buffer.contents ledger.sys.world))
  tolled : ∀ page, noted.landings page = ledger.landings page ∨ page ∈ writings call.uploads
  stays : buffer.config.maxCachedPages = 0 → ∀ page, ledger.sys.world.state.pages.contains page = true →
    moved.2.state.pages.contains page = true

variable {world after : BufferWorld Inner} {landings more : Nat → Nat} {seen : Nat} {call : BufferCall}

theorem Counted.refl {old : Store} : Counted buffer device landings landings old old :=
  fun _ => ⟨le_rfl, fun _ _ _ _ => rfl⟩

/-- A call that stays where it is still knows what it knew. -/
theorem Aboard.carry (aboard : Aboard buffer device world landings seen call)
    (known : world.state.devSize = device → after.state.devSize = device)
    (counted : Counted buffer device landings more (SectorStore.content world.inner) (SectorStore.content after.inner)) :
    Aboard buffer device after more seen call := by
  refine ⟨aboard.sized, fun some => (aboard.known some).imp id known, aboard.chunks, fun bytes chunk rest loaded pieces => ?_,
    aboard.distinct⟩
  obtain ⟨length, bound, shows⟩ := aboard.fresh bytes chunk rest loaded pieces
  obtain ⟨grown, same⟩ := counted chunk.page
  refine ⟨length, bound.trans grown, fun equal x inside own => ?_⟩
  rw [same (by omega) x inside own]
  exact shows (by omega) x inside own

theorem Aboard.plain {other : BufferCall} {later : Nat} (aboard : Aboard buffer device world landings seen call)
    (plain : other.phase.isPlain = true) (request : other.request = call.request) (devSize : other.devSize = call.devSize)
    (pieces : ∀ chunk ∈ other.pieces, chunk ∈ call.pieces) : Aboard buffer device world landings later other := by
  refine ⟨fun size sized => ?_, fun some => ?_, fun chunk member => ?_, fun bytes chunk rest loaded => ?_, ?_⟩
  · rw [sized] at plain
    cases plain
  · obtain ⟨chunk, rest, shape⟩ := List.exists_cons_of_ne_nil some
    have member := pieces chunk (by rw [shape]; exact List.mem_cons_self)
    rw [devSize]
    exact aboard.known (List.ne_nil_of_mem member)
  · rw [request]
    exact aboard.chunks chunk (pieces chunk member)
  · rw [loaded] at plain
    cases plain
  · unfold BufferCall.uploads
    cases phase : other.phase with
    | flushing uploads =>
        rw [phase] at plain
        cases plain
    | _ => exact List.nodup_nil

theorem Aboard.goOn {rest : List Chunk} {later : Nat} (aboard : Aboard buffer device world landings seen call)
    (pieces : ∀ chunk ∈ rest, chunk ∈ call.pieces) (output : List UInt8) :
    Aboard buffer device world landings later (call.goOn rest output) := by
  refine aboard.plain ?_ rfl rfl pieces
  unfold BufferCall.goOn
  dsimp only
  split
  · rfl
  · rfl

theorem Aboard.fail {later : Nat} (aboard : Aboard buffer device world landings seen call) (error : Error) :
    Aboard buffer device world landings later (call.fail error) :=
  aboard.plain rfl rfl rfl fun _ member => member

end Invariant

section Calls

variable {Inner : Type} [BlobBackend Inner] [SectorStore Inner] {buffer : BufferedBackend} {device index : Nat}
variable {ledger : BufferLedger Inner} {world : BufferWorld Inner} {landings : Nat → Nat} {seen : Nat} {call : BufferCall}

theorem uploads_plain (plain : call.phase.isPlain = true) : call.uploads = [] := by
  unfold BufferCall.uploads
  cases phase : call.phase with
  | flushing uploads =>
      rw [phase] at plain
      cases plain
  | _ => rfl

theorem writings_idle {uploads : List (Nat × WritePhase)} (idle : ∀ upload ∈ uploads, upload.2.isIdle = true) :
    writings uploads = [] := by
  refine List.eq_nil_iff_forall_not_mem.mpr fun page member => ?_
  obtain ⟨seq, offset, bytes, there⟩ := mem_writings.mp member
  exact absurd (idle _ there) Bool.false_ne_true

/-- The uploads of one call stand together among those of all calls. -/
theorem pending_split {calls : List BufferCall} (found : calls[index]? = some call) :
    ∃ front back, calls.flatMap BufferCall.uploads = front ++ (call.uploads ++ back) ∧
      ∀ other, (calls.set index other).flatMap BufferCall.uploads = front ++ (other.uploads ++ back) := by
  obtain ⟨inside, here⟩ := List.getElem?_eq_some_iff.mp found
  refine ⟨(calls.take index).flatMap BufferCall.uploads, (calls.drop (index + 1)).flatMap BufferCall.uploads, ?_,
    fun other => ?_⟩
  · have split := List.take_append_drop index calls
    rw [List.drop_eq_getElem_cons inside, here] at split
    calc calls.flatMap BufferCall.uploads
        = (calls.take index ++ call :: calls.drop (index + 1)).flatMap BufferCall.uploads := by rw [split]
      _ = _ := by rw [List.flatMap_append, List.flatMap_cons]
  · rw [List.set_eq_take_append_cons_drop, if_pos inside, List.flatMap_append, List.flatMap_cons]

/-- A step that disturbs no upload. -/
theorem Steady.quiet (kept : Steady buffer device ledger) (found : ledger.sys.calls[index]? = some call)
    {moved : BufferCall × BufferWorld Inner} (calm : Calm buffer device ledger.sys.world moved.2)
    (step : Undisturbed buffer device ledger.sys.world moved.2)
    (shelved : BufferState.Shelved buffer.config.pageSize moved.2.state) (none : call.uploads = [])
    (waiting : ∀ upload ∈ moved.1.uploads, upload.2.isIdle = true) (seen : Nat → Nat)
    (others : ∀ other, other ≠ index → seen other = ledger.seen other)
    (own : Aboard buffer device moved.2 ledger.landings (ledger.seen index) call →
      Aboard buffer device moved.2 ledger.landings (seen index) moved.1)
    (stays : buffer.config.maxCachedPages = 0 → ∀ page, ledger.sys.world.state.pages.contains page = true →
      moved.2.state.pages.contains page = true) :
    Progress buffer device ledger index call { ledger with seen } moved where
  tidy := calm.tidy
  shelved := shelved
  current := calm.contents.trans kept.current
  uploads := by
    obtain ⟨front, back, split, replaced⟩ := pending_split found
    have uploading := kept.uploads
    rw [BufferSystem.pending, split, none, List.nil_append] at uploading
    rw [replaced]
    refine (uploading.undisturbed step).replaced (fun upload member => ?_) ?_
    · rcases List.mem_append.mp member with early | late
      · exact .inl (List.mem_append_left _ early)
      · rcases List.mem_append.mp late with mine | later
        · exact .inr (waiting upload mine)
        · exact .inl (List.mem_append_right _ later)
    · rw [writings_append, writings_append, writings_idle waiting, List.nil_append, writings_append]
  known := calm.known
  counted page := ⟨le_rfl, fun _ x inside _ => step.inner x inside⟩
  others := others
  own := by
    refine own ((kept.calls index call found).carry calm.known fun page => ⟨le_rfl, fun _ x inside _ => ?_⟩)
    exact step.inner x inside
  versions := ⟨le_rfl, fun _ _ => rfl⟩
  ashore sector inside := by
    have aligned := kept.tidy.deviceAligned
    exact .inl fun x _ high => step.inner x (by omega)
  copied page seq offset bytes member := absurd (waiting _ member) Bool.false_ne_true
  tolled _ := .inl rfl
  stays := stays

/-- A step that changes nothing but the call. -/
theorem Steady.still (kept : Steady buffer device ledger) (found : ledger.sys.calls[index]? = some call) {other : BufferCall}
    (none : call.uploads = []) (waiting : ∀ upload ∈ other.uploads, upload.2.isIdle = true)
    (own : Aboard buffer device ledger.sys.world ledger.landings (ledger.seen index) other) :
    Progress buffer device ledger index call ledger (other, ledger.sys.world) :=
  kept.quiet found (.refl kept.tidy) ((Calm.refl kept.tidy).undisturbed le_rfl (fun _ _ present => .inl present)
    (fun _ _ present _ => present) rfl) kept.shelved none waiting ledger.seen (fun _ _ => rfl) (fun _ => own)
    fun _ _ present => present

/-- A step that only asks the inner store. -/
theorem Steady.asked (kept : Steady buffer device ledger) (found : ledger.sys.calls[index]? = some call)
    {moved : BufferCall × BufferWorld Inner} (untouched : Untouched ledger.sys.world moved.2) (none : call.uploads = [])
    (waiting : ∀ upload ∈ moved.1.uploads, upload.2.isIdle = true) (seen : Nat → Nat)
    (others : ∀ other, other ≠ index → seen other = ledger.seen other)
    (own : Aboard buffer device moved.2 ledger.landings (ledger.seen index) call →
      Aboard buffer device moved.2 ledger.landings (seen index) moved.1) :
    Progress buffer device ledger index call { ledger with seen } moved :=
  kept.quiet found (untouched.calm kept.tidy) (untouched.undisturbed kept.tidy) (untouched.state ▸ kept.shelved) none waiting
    seen others own fun _ _ present => untouched.state.symm ▸ present

theorem plain_waiting {other : BufferCall} (plain : other.phase.isPlain = true) :
    ∀ upload ∈ other.uploads, upload.2.isIdle = true := by
  intro upload member
  rw [uploads_plain plain] at member
  cases member

theorem goOn_plain (call : BufferCall) (rest : List Chunk) (output : List UInt8) :
    (call.goOn rest output).phase.isPlain = true := by
  unfold BufferCall.goOn
  dsimp only
  split
  · rfl
  · rfl

theorem checkInBounds_ok {State : Type} {op : String} {offset len devSize : Nat} {state : State}
    (passed : (checkInBounds op offset len devSize state).1 = .ok ()) : offset + len ≤ devSize := by
  unfold checkInBounds at passed
  split at passed
  · cases passed
  · split at passed
    · cases passed
    · omega

/-- An aligned range is cut into chunks of the device, or refused. -/
theorem openRange_aboard {message op : String} {offset len : Nat}
    (guarded : call.request.guards = some (message, op, offset, len)) (aligned : offset % 512 = 0 ∧ len % 512 = 0)
    (learned : world.state.devSize = device) (aboard : Aboard buffer device world landings seen call) :
    (buffer.openRange call op offset len device world).2 = world ∧
      (buffer.openRange call op offset len device world).1.phase.isPlain = true ∧
      Aboard buffer device world landings seen (buffer.openRange call op offset len device world).1 := by
  unfold openRange
  split
  · exact ⟨rfl, rfl, aboard.fail _⟩
  · rename_i value passed
    have inside := checkInBounds_ok passed
    have fits (chunk : Chunk) (member : chunk ∈ chunks buffer.config.pageSize offset len) :=
      chunks_fit (chunks_tiles buffer.config.pageSize offset len (pageSize_pos buffer)) (Nat.zero_mod 512) aligned.1
        aligned.2 inside member
    refine ⟨rfl, goOn_plain _ _ _, fun size sized => ?_, fun _ => ⟨rfl, learned⟩, fun chunk member => ?_,
      fun bytes chunk rest loaded => ?_, ?_⟩
    · have plain := goOn_plain { call with devSize := device } (chunks buffer.config.pageSize offset len) []
      dsimp only at sized
      rw [sized] at plain
      cases plain
    · exact ⟨message, op, offset, len, guarded, (fits chunk member).1, (fits chunk member).2, inside⟩
    · have plain := goOn_plain { call with devSize := device } (chunks buffer.config.pageSize offset len) []
      dsimp only at loaded
      rw [loaded] at plain
      cases plain
    · dsimp only
      rw [uploads_plain (goOn_plain _ _ _)]
      exact List.nodup_nil

theorem enter_progress (kept : Steady buffer device ledger) (found : ledger.sys.calls[index]? = some call)
    (entering : call.phase = .entering) :
    Progress buffer device ledger index call ledger (buffer.enter call ledger.sys.world) := by
  have aboard := kept.calls index call found
  have none : call.uploads = [] := uploads_plain (by rw [entering]; rfl)
  unfold enter
  split
  · exact kept.still found none (plain_waiting rfl) (aboard.plain rfl rfl rfl fun _ member => member)
  · rename_i message op offset len guarded
    split
    · exact kept.still found none (plain_waiting (goOn_plain _ _ _)) (aboard.goOn (fun _ member => (by cases member)) [])
    · split
      · exact kept.still found none (plain_waiting rfl) (aboard.fail _)
      · rename_i aligned
        split
        · rename_i asked
          have learned : ledger.sys.world.state.devSize = device := kept.tidy.devSize.resolve_left asked
          rw [learned]
          obtain ⟨same, plain, opened⟩ := openRange_aboard guarded (not_not.mp aligned) learned aboard
          rw [show buffer.openRange call op offset len device ledger.sys.world =
            ((buffer.openRange call op offset len device ledger.sys.world).1, ledger.sys.world) from Prod.ext rfl same]
          exact kept.still found none (plain_waiting plain) opened
        · have untouched := size_untouched kept.tidy
          split
          · rename_i error after asked
            rw [asked] at untouched
            exact kept.asked found untouched none (plain_waiting rfl) ledger.seen (fun _ _ => rfl) fun own => own.fail error
          · rename_i size after asked
            rw [asked] at untouched
            have exact' : size = device := by
              have answer := SectorStore.size_exact ledger.sys.world.inner size kept.tidy.valid
                (congrArg Prod.fst asked)
              exact answer.trans kept.tidy.size
            refine kept.asked found untouched none (fun upload member => (by cases member)) ledger.seen (fun _ _ => rfl)
              fun own => ⟨fun other sized => ?_, own.known, own.chunks, fun bytes chunk rest loaded => (by cases loaded),
                List.nodup_nil⟩
            cases sized
            refine ⟨exact', fun message' op' offset' len' guarded' => ?_⟩
            cases guarded.symm.trans guarded'
            exact not_not.mp aligned

/-- The first call that has learnt the size records it. -/
theorem learn_calm {size : Nat} (tidy : Tidy buffer device world) (exact' : size = device) :
    Calm buffer device world (world.update fun state =>
        if state.devSize = 0 then { state with devSize := size } else state) ∧
      (world.update fun state => if state.devSize = 0 then { state with devSize := size } else state).state.devSize =
        device := by
  unfold BufferWorld.update
  dsimp only
  split
  · subst exact'
    refine ⟨⟨⟨tidy.valid, tidy.size, .inr rfl, ?_, tidy.clean, tidy.lru, tidy.evictable⟩, fun _ => rfl, fun _ _ _ => rfl⟩,
      rfl⟩
    intro page found present
    obtain ⟨length, inside, _⟩ := tidy.pages page found present
    exact ⟨length, inside, rfl⟩
  · rename_i known
    exact ⟨.refl tidy, tidy.devSize.resolve_left known⟩

theorem learnSize_progress {size : Nat} (kept : Steady buffer device ledger) (found : ledger.sys.calls[index]? = some call)
    (sized : call.phase = .sized size) :
    Progress buffer device ledger index call ledger (buffer.learnSize call size ledger.sys.world) := by
  have aboard := kept.calls index call found
  obtain ⟨exact', aligned⟩ := aboard.sized size sized
  have none : call.uploads = [] := by
    unfold BufferCall.uploads
    rw [sized]
  obtain ⟨calm, learned⟩ := learn_calm kept.tidy exact'
  unfold learnSize
  dsimp only
  set known : BufferWorld Inner := ledger.sys.world.update fun state =>
    if state.devSize = 0 then { state with devSize := size } else state with knownEq
  have pages : known.state.pages = ledger.sys.world.state.pages ∧ known.state.lru = ledger.sys.world.state.lru ∧
      known.state.seqCounter = ledger.sys.world.state.seqCounter := by
    rw [knownEq]
    unfold BufferWorld.update
    dsimp only
    split
    · exact ⟨rfl, rfl, rfl⟩
    · exact ⟨rfl, rfl, rfl⟩
  have step : Undisturbed buffer device ledger.sys.world known := by
    refine calm.undisturbed pages.2.2.ge (fun page found present => .inl ?_) (fun page found present _ => ?_) rfl
    · rw [← pages.1]
      exact present
    · rw [pages.1]
      exact present
  have shelved : BufferState.Shelved buffer.config.pageSize known.state := by
    rw [knownEq]
    unfold BufferWorld.update
    dsimp only
    split
    · exact ⟨kept.shelved.whole, kept.shelved.lru⟩
    · exact kept.shelved
  split
  · rename_i unguarded
    exact kept.still found none (fun upload member => (by rw [none] at member; cases member)) aboard
  · rename_i message op offset len guarded
    rw [learned]
    have carried := aboard.carry calm.known fun page => ⟨le_rfl, fun _ x inside _ => step.inner x inside⟩
    obtain ⟨same, plain, own⟩ := openRange_aboard guarded (aligned _ _ _ _ guarded) learned carried
    generalize buffer.openRange call op offset len device known = opened at same plain own ⊢
    obtain ⟨other, after⟩ := opened
    obtain rfl : after = known := same
    exact kept.quiet found calm step shelved none (plain_waiting plain) ledger.seen (fun _ _ => rfl) (fun _ => own)
      fun _ _ present => pages.1.symm ▸ present

/-- A patched page is dirty, and every other page stays as it is. -/
theorem applyPatch_undisturbed {page pageOffset : Nat} {patch : List UInt8} {state : BufferState}
    (applied : world.state.applyPatch page pageOffset patch = some state)
    (counts : world.state.seqCounter + 1 < 2 ^ 64) : Undisturbed buffer device world { world with state } := by
  unfold BufferState.applyPatch at applied
  split at applied
  · cases applied
  · rename_i found present
    obtain rfl := Option.some.inj applied
    set patched : Page := ⟨overwrite found.data pageOffset patch, true, world.state.nextSeq⟩ with patchedEq
    have lookup (other : Nat) : (world.state.pages.insert page patched).find? other =
        if other = page then some patched else world.state.pages.find? other := OrderedMap.find?_insert _ _ _ _
    have grows : world.state.seqCounter < world.state.nextSeq := by
      rw [BufferState.nextSeq_eq counts]
      exact Nat.lt_succ_self _
    refine ⟨grows.le, fun other after there => ?_, fun other before there dirty => ?_, fun other => ?_,
      fun _ _ => rfl⟩
    · dsimp only at there
      rw [lookup] at there
      split at there
      · obtain rfl := Option.some.inj there
        exact .inr ⟨grows, le_rfl⟩
      · exact .inl ⟨after, there, rfl⟩
    · dsimp only
      rw [lookup]
      split
      · exact ⟨patched, rfl, rfl⟩
      · exact ⟨before, there, dirty⟩
    · by_cases own : other = page
      · refine .inl ⟨patched, ?_, rfl, grows⟩
        dsimp only
        rw [lookup, if_pos own]
      · refine .inr fun x inside here => ?_
        simp only [BufferedBackend.contents, here, lookup, if_neg own]

/-- A page is read without the lock, and the call notes how often uploads of it were carried out so far. -/
theorem loading_progress {chunk : Chunk} {rest : List Chunk} (kept : Steady buffer device ledger)
    (found : ledger.sys.calls[index]? = some call) (loading : call.phase = .loading) (pieces : call.pieces = chunk :: rest) :
    Progress buffer device ledger index call
      { ledger with seen := BufferLedger.note ledger.seen index (ledger.landings chunk.page) }
      (match buffer.loadPage chunk.page call.devSize ledger.sys.world with
        | (.error error, world) => (call.fail error, world)
        | (.ok bytes, world) => ({ call with phase := .loaded bytes }, world)) := by
  have aboard := kept.calls index call found
  have none : call.uploads = [] := uploads_plain (by rw [loading]; rfl)
  obtain ⟨sized, learned⟩ := aboard.known (by rw [pieces]; exact List.cons_ne_nil _ _)
  obtain ⟨_, _, _, _, _, fits, _, _⟩ := aboard.chunks chunk (by rw [pieces]; exact List.mem_cons_self)
  have others (other : Nat) (different : other ≠ index) :
      BufferLedger.note ledger.seen index (ledger.landings chunk.page) other = ledger.seen other := if_neg different
  have untouched := loadPage_untouched kept.tidy chunk.page call.devSize
  have whole := (loadPage_whole buffer chunk.page call.devSize ledger.sys.world).2
  have bytes := (loadPage_spec kept.tidy fits.inside).2
  rw [← sized] at bytes
  split
  · rename_i error after loaded
    rw [loaded] at untouched
    exact kept.asked found untouched none (plain_waiting rfl) _ others fun own => own.fail error
  · rename_i data after loaded
    rw [loaded] at untouched bytes
    refine kept.asked found untouched none (fun upload member => (by cases member)) _ others fun own =>
      ⟨fun size sized => (by cases sized), own.known, own.chunks, fun other piece later same shape => ?_, List.nodup_nil⟩
    cases same
    obtain ⟨rfl, rfl⟩ := List.cons.inj (pieces.symm.trans shape)
    have seen : BufferLedger.note ledger.seen index (ledger.landings chunk.page) index = ledger.landings chunk.page :=
      if_pos rfl
    refine ⟨whole _ _ loaded, seen.le, fun _ x inside here => ?_⟩
    exact (bytes data rfl).2 x (by rw [sized]; exact inside) here

/-- A loaded page is inserted where it is missing. -/
theorem loaded_progress {chunk : Chunk} {rest : List Chunk} {bytes : List UInt8} (kept : Steady buffer device ledger)
    (found : ledger.sys.calls[index]? = some call) (loaded : call.phase = .loaded bytes) (pieces : call.pieces = chunk :: rest)
    (fresh : ledger.sys.world.state.pages.contains chunk.page = true ∨
      ledger.seen index = ledger.landings chunk.page) (counts : ledger.sys.world.state.seqCounter + 1 < 2 ^ 64) :
    Progress buffer device ledger index call ledger
      ({ call with phase := .applying }, ledger.sys.world.update (.insertLoaded buffer.config chunk.page bytes)) := by
  have aboard := kept.calls index call found
  have none : call.uploads = [] := by
    unfold BufferCall.uploads
    rw [loaded]
  have own : Aboard buffer device ledger.sys.world ledger.landings (ledger.seen index) { call with phase := .applying } :=
    aboard.plain rfl rfl rfl fun _ member => member
  by_cases present : ledger.sys.world.state.pages.contains chunk.page = true
  · rw [show ledger.sys.world.update (.insertLoaded buffer.config chunk.page bytes) = ledger.sys.world by
      simp only [BufferWorld.update, BufferState.insertLoaded, if_pos present]]
    exact kept.still found none (plain_waiting rfl) own
  · obtain ⟨length, _, shows⟩ := aboard.fresh bytes chunk rest loaded pieces
    obtain ⟨_, learned⟩ := aboard.known (by rw [pieces]; exact List.cons_ne_nil _ _)
    obtain ⟨_, _, _, _, _, fits, _, _⟩ := aboard.chunks chunk (by rw [pieces]; exact List.mem_cons_self)
    have calm := (insertLoaded_settled kept.tidy learned fits.inside length (shows (fresh.resolve_left present))).1.calm
    obtain ⟨counter, inserted, dirty⟩ :=
      @BufferState.insertLoaded_pages buffer.config ledger.sys.world.state chunk.page bytes kept.shelved length counts
    exact kept.quiet found calm (calm.undisturbed counter inserted dirty rfl)
      (BufferState.insertLoaded_loaded kept.shelved length).shelved none (plain_waiting rfl) ledger.seen (fun _ _ => rfl)
      (fun own => own.plain rfl rfl rfl fun _ member => member)
      fun unlimited other resident => BufferState.insertLoaded_stays unlimited resident

/-- A copied chunk changes the recency order only. -/
theorem copied_progress {chunk : Chunk} {rest : List Chunk} {bytes output : List UInt8} {state : BufferState}
    (kept : Steady buffer device ledger) (found : ledger.sys.calls[index]? = some call) (plain : call.phase.isPlain = true)
    (pieces : call.pieces = chunk :: rest)
    (copied : ledger.sys.world.state.copyOut buffer.config chunk.page chunk.pageOffset chunk.len = some (bytes, state)) :
    Progress buffer device ledger index call ledger (call.goOn rest output, { ledger.sys.world with state }) := by
  have aboard := kept.calls index call found
  obtain ⟨_, _, _, _, _, fits, _, _⟩ := aboard.chunks chunk (by rw [pieces]; exact List.mem_cons_self)
  obtain ⟨shelved, trimmed⟩ := BufferState.copyOut_trimmed kept.shelved copied
  have calm : Calm buffer device ledger.sys.world { ledger.sys.world with state } := by
    cases present : ledger.sys.world.state.pages.find? chunk.page with
    | none =>
        rw [BufferState.copyOut, present] at copied
        cases copied
    | some resident =>
        obtain ⟨other, same, settled⟩ := copyOut_spec kept.tidy present fits.within
        obtain ⟨_, rfl⟩ := Prod.mk.inj (Option.some.inj (copied.symm.trans same))
        exact settled.calm
  refine kept.quiet found calm (calm.undisturbed trimmed.seqCounter.ge (fun page found there => .inl (trimmed.kept _ _ there))
    (fun page found there dirty => trimmed.pinned _ _ there (.inl dirty)) rfl) shelved (uploads_plain plain)
    (plain_waiting (goOn_plain _ _ _)) ledger.seen (fun _ _ => rfl) (fun own => own.goOn (fun piece member => ?_) _)
    fun unlimited page resident => BufferState.copyOut_stays unlimited copied resident
  rw [pieces]
  exact List.mem_cons_of_mem _ member

/-- An applied chunk is the next version of the contents. -/
theorem patched_progress {chunk : Chunk} {rest : List Chunk} {state : BufferState} (kept : Steady buffer device ledger)
    (found : ledger.sys.calls[index]? = some call) (plain : call.phase.isPlain = true) (pieces : call.pieces = chunk :: rest)
    (writes : ¬ ∃ offset len, call.request = .read offset len)
    (applied : ledger.sys.world.state.applyPatch chunk.page chunk.pageOffset
      ((call.request.bytes.drop chunk.pos).take chunk.len) = some state)
    (counts : ledger.sys.world.state.seqCounter + 1 < 2 ^ 64) :
    Progress buffer device ledger index call
      (ledger.patched (chunk.page * buffer.config.pageSize + chunk.pageOffset)
        ((call.request.bytes.drop chunk.pos).take chunk.len))
      ({ call with phase := .limiting }, { ledger.sys.world with state }) := by
  have aboard := kept.calls index call found
  obtain ⟨message, op, offset, len, guarded, fits, bounded, inside⟩ :=
    aboard.chunks chunk (by rw [pieces]; exact List.mem_cons_self)
  have whole := (guards_bytes guarded).resolve_left writes
  have length : ((call.request.bytes.drop chunk.pos).take chunk.len).length = chunk.len := by
    rw [List.length_take, List.length_drop]
    omega
  have written : Written buffer device (chunk.page * buffer.config.pageSize + chunk.pageOffset)
      ((call.request.bytes.drop chunk.pos).take chunk.len) ledger.sys.world { ledger.sys.world with state } := by
    cases present : ledger.sys.world.state.pages.find? chunk.page with
    | none =>
        rw [BufferState.applyPatch, present] at applied
        cases applied
    | some resident =>
        obtain ⟨other, same, written⟩ := applyPatch_spec ((call.request.bytes.drop chunk.pos).take chunk.len) kept.tidy
          present (by rw [length]; exact fits.within)
          (by rw [length, fits.start]; exact ⟨fits.startAligned, fits.lenAligned⟩)
        obtain rfl := Option.some.inj (applied.symm.trans same)
        exact written
  have step : Undisturbed buffer device ledger.sys.world { ledger.sys.world with state } :=
    applyPatch_undisturbed applied counts
  have none : call.uploads = [] := uploads_plain plain
  refine ⟨written.tidy, (BufferState.applyPatch_patched kept.shelved (by rw [length]; exact fits.within) applied).1, ?_,
    ?_, written.known, fun page => ⟨le_rfl, fun _ _ _ _ => rfl⟩, fun _ _ => rfl, ?_,
    ⟨Nat.le_succ _, fun count bound => ?_⟩, .refl, fun page seq offset bytes member => (by cases member), fun _ => .inl rfl,
    fun _ page resident => BufferState.applyPatch_stays applied resident⟩
  · have version : (ledger.patched (chunk.page * buffer.config.pageSize + chunk.pageOffset)
        ((call.request.bytes.drop chunk.pos).take chunk.len)).version (ledger.applied + 1) =
      splice (ledger.version ledger.applied) (chunk.page * buffer.config.pageSize + chunk.pageOffset)
        ((call.request.bytes.drop chunk.pos).take chunk.len) := if_pos rfl
    refine written.contents.trans ?_
    change AgreeOn 0 device _ (BufferLedger.version _ (ledger.applied + 1))
    rw [version]
    exact splice_congr kept.current _ _
  · obtain ⟨front, back, split, replaced⟩ := pending_split found
    have uploading := kept.uploads
    rw [BufferSystem.pending, split, none] at uploading
    rw [replaced]
    exact uploading.undisturbed step
  · exact ((aboard.carry written.known fun page => ⟨le_rfl, fun _ _ _ _ => rfl⟩).plain rfl rfl rfl
      fun _ member => member)
  · exact if_neg (by omega)

/-- A flush starts with one waiting upload for each of its pages. -/
theorem Aboard.flushing {pages : List Nat} (aboard : Aboard buffer device world landings seen call) (distinct : pages.Nodup) :
    Aboard buffer device world landings seen
      { call with phase := .flushing (pages.map fun page => (page, WritePhase.waiting)) } := by
  refine ⟨fun size sized => (by cases sized), aboard.known, aboard.chunks, fun bytes chunk rest loaded => (by cases loaded), ?_⟩
  change ((pages.map fun page => (page, WritePhase.waiting)).map Prod.fst).Nodup
  rw [map_fst_tagged]
  exact distinct

theorem waiting_idle (pages : List Nat) :
    ∀ upload ∈ pages.map fun page => (page, WritePhase.waiting), upload.2.isIdle = true := by
  intro upload member
  rw [(mem_tagged member).2]
  rfl

theorem limiting_progress {chunk : Chunk} {rest : List Chunk} (kept : Steady buffer device ledger)
    (found : ledger.sys.calls[index]? = some call) (limiting : call.phase = .limiting) (pieces : call.pieces = chunk :: rest) :
    Progress buffer device ledger index call ledger
      (if ledger.sys.world.state.victims buffer.config = [] then (call.goOn rest call.output, ledger.sys.world)
      else ({ call with phase := .flushing ((ledger.sys.world.state.victims buffer.config).map fun page =>
        (page, WritePhase.waiting)) }, ledger.sys.world)) := by
  have aboard := kept.calls index call found
  have none : call.uploads = [] := uploads_plain (by rw [limiting]; rfl)
  split
  · refine kept.still found none (plain_waiting (goOn_plain _ _ _)) (aboard.goOn (fun piece member => ?_) _)
    rw [pieces]
    exact List.mem_cons_of_mem _ member
  · exact kept.still found none (waiting_idle _) (aboard.flushing (BufferState.victims_nodup _ _))

theorem collecting_progress (kept : Steady buffer device ledger) (found : ledger.sys.calls[index]? = some call)
    (collecting : call.phase = .collecting) :
    Progress buffer device ledger index call ledger
      ({ call with phase := if ledger.sys.world.state.dirtyIndices = [] then .syncing
        else .flushing (ledger.sys.world.state.dirtyIndices.map fun page => (page, WritePhase.waiting)) },
        ledger.sys.world) := by
  have aboard := kept.calls index call found
  have none : call.uploads = [] := uploads_plain (by rw [collecting]; rfl)
  by_cases clean : ledger.sys.world.state.dirtyIndices = []
  · rw [if_pos clean]
    exact kept.still found none (plain_waiting rfl) (aboard.plain rfl rfl rfl fun _ member => member)
  · rw [if_neg clean]
    exact kept.still found none (waiting_idle _) (aboard.flushing (BufferState.dirtyIndices_nodup _))

theorem syncing_progress (kept : Steady buffer device ledger) (found : ledger.sys.calls[index]? = some call)
    (syncing : call.phase = .syncing) :
    Progress buffer device ledger index call ledger
      (match BufferWorld.callInner BlobBackend.flush ledger.sys.world with
        | (.error error, world) => (call.fail error, world)
        | (.ok (), world) => (call.goOn [] [], world)) := by
  have none : call.uploads = [] := uploads_plain (by rw [syncing]; rfl)
  have untouched := flush_untouched kept.tidy
  split
  · rename_i error after asked
    rw [asked] at untouched
    exact kept.asked found untouched none (plain_waiting rfl) ledger.seen (fun _ _ => rfl) fun own => own.fail error
  · rename_i after asked
    rw [asked] at untouched
    exact kept.asked found untouched none (plain_waiting (goOn_plain _ _ _)) ledger.seen (fun _ _ => rfl) fun own =>
      own.goOn (fun _ member => (by cases member)) []

omit [BlobBackend Inner] [SectorStore Inner] in
/-- Uploads that come ashore are counted. -/
theorem counted_of_ashore {uploads : List (Nat × WritePhase)} {old new : Store}
    (ashore : Ashore buffer device uploads old new) :
    Counted buffer device ledger.landings (ledger.landed uploads) old new := by
  refine fun page => ⟨Nat.le_add_right _ _, fun same x inside own => ?_⟩
  have none : (uploads.countP fun upload => upload.1 = page && upload.2.isWriting) = 0 := by
    unfold BufferLedger.landed at same
    omega
  rcases ashore.byte inside with unchanged | ⟨seq, offset, bytes, member, _⟩
  · exact unchanged
  · rw [own] at member
    exact absurd (List.countP_eq_zero.mp none _ member) (by simp [WritePhase.isWriting])

omit [BlobBackend Inner] [SectorStore Inner] in
/-- Nothing is counted for a page without a running upload. -/
theorem landed_same (ledger : BufferLedger Inner) (uploads : List (Nat × WritePhase)) (page : Nat) :
    ledger.landed uploads page = ledger.landings page ∨ page ∈ writings uploads := by
  by_cases running : page ∈ writings uploads
  · exact .inr running
  · have none : (uploads.countP fun upload => upload.1 = page && upload.2.isWriting) = 0 := by
      refine List.countP_eq_zero.mpr fun upload member both => running ?_
      obtain ⟨own, writing⟩ := Bool.and_eq_true_iff.mp both
      exact List.mem_map.mpr ⟨upload, List.mem_filter.mpr ⟨member, writing⟩, of_decide_eq_true own⟩
    left
    unfold BufferLedger.landed
    rw [none, Nat.add_zero]

/-- A flush that gives up drops its uploads. -/
theorem dropped_progress {uploads : List (Nat × WritePhase)} {other : BufferCall} {clock : Nat}
    (kept : Steady buffer device ledger) (found : ledger.sys.calls[index]? = some call) (flushing : call.uploads = uploads)
    (plain : other.phase.isPlain = true) (request : other.request = call.request) (devSize : other.devSize = call.devSize)
    (pieces : ∀ chunk ∈ other.pieces, chunk ∈ call.pieces) :
    Progress buffer device ledger index call { ledger with landings := ledger.landed uploads }
      (other, { buffer.dropWrites uploads ledger.sys.world with clock }) := by
  obtain ⟨front, back, split, replaced⟩ := pending_split found
  have pending : Uploading buffer device ledger.sys.world (front ++ (uploads ++ back)) := by
    rw [← flushing, ← split]
    exact kept.uploads
  obtain ⟨calm, gone, ashore⟩ := dropWrites_uploading uploads ledger.sys.world kept.tidy pending
  have counted : Counted buffer device ledger.landings (ledger.landed uploads)
    (SectorStore.content ledger.sys.world.inner)
    (SectorStore.content (buffer.dropWrites uploads ledger.sys.world).inner) := counted_of_ashore ashore
  have same := dropWrites_state buffer uploads ledger.sys.world
  have ticked : Untouched (buffer.dropWrites uploads ledger.sys.world)
    { buffer.dropWrites uploads ledger.sys.world with clock } := ⟨rfl, calm.tidy.valid, rfl, rfl⟩
  have settled := calm.trans (ticked.calm calm.tidy)
  refine ⟨settled.tidy, ?_, settled.contents.trans kept.current, ?_, settled.known, counted,
    fun _ _ => rfl, ?_, ⟨le_rfl, fun _ _ => rfl⟩, flushing ▸ ashore, fun page seq offset bytes member => ?_,
    fun page => ?_, fun _ page resident => ?_⟩
  · change BufferState.Shelved buffer.config.pageSize (buffer.dropWrites uploads ledger.sys.world).state
    rw [same]
    exact kept.shelved
  · rw [replaced, uploads_plain plain]
    exact gone.undisturbed (ticked.undisturbed calm.tidy)
  · have carried : Aboard buffer device { buffer.dropWrites uploads ledger.sys.world with clock } (ledger.landed uploads)
      (ledger.seen index) call := (kept.calls index call found).carry settled.known counted
    exact carried.plain plain request devSize pieces
  · rw [uploads_plain plain] at member
    cases member
  · rw [flushing]
    exact landed_same ledger uploads page
  · change (buffer.dropWrites uploads ledger.sys.world).state.pages.contains page = true
    rw [same]
    exact resident

/-- A flush ends with its first error, or when every upload is done. -/
theorem settle_progress {uploads : List (Nat × WritePhase)} (kept : Steady buffer device ledger)
    (found : ledger.sys.calls[index]? = some call) (flushing : call.phase = .flushing uploads) :
    Progress buffer device ledger index call (buffer.witness index call ledger)
      (buffer.settle call uploads ledger.sys.world) := by
  have aboard := kept.calls index call found
  have mine : call.uploads = uploads := by
    unfold BufferCall.uploads
    rw [flushing]
  have closes (other : BufferCall) (plain : other.phase.isPlain = true)
      (own : Aboard buffer device ledger.sys.world ledger.landings (ledger.seen index) other) :
      Progress buffer device ledger index call ledger (other, ledger.sys.world) := by
    refine ⟨kept.tidy, kept.shelved, kept.current, ?_, id, .refl, fun _ _ => rfl, own,
      ⟨le_rfl, fun _ _ => rfl⟩, .refl, fun page seq offset bytes member => ?_, fun _ => .inl rfl,
      fun _ _ resident => resident⟩
    · obtain ⟨front, back, split, replaced⟩ := pending_split found
      have uploading := kept.uploads
      rw [BufferSystem.pending, split] at uploading
      rw [replaced, uploads_plain plain, List.nil_append]
      refine uploading.replaced (fun upload member => .inl ?_) ?_
      · exact List.mem_append.mpr ((List.mem_append.mp member).imp id (List.mem_append_right _))
      · exact (((List.sublist_append_right _ _).append_left front).filter _).map _
    · rw [uploads_plain plain] at member
      cases member
  unfold settle witness
  rw [flushing]
  dsimp only
  cases failed : uploads.findSome? fun upload => upload.2.error? with
  | some error => exact dropped_progress kept found mine rfl rfl rfl fun _ member => member
  | none =>
      dsimp only
      split
      · split
        · exact closes _ rfl (aboard.plain rfl rfl rfl fun _ member => member)
        · exact closes _ (goOn_plain _ _ _) (aboard.goOn (fun _ member => List.mem_of_mem_drop member) _)
      · obtain ⟨front, back, split, replaced⟩ := pending_split found
        have same : Uploading buffer device ledger.sys.world ((ledger.sys.calls.set index call).flatMap BufferCall.uploads) := by
          rw [replaced, ← split]
          exact kept.uploads
        exact ⟨kept.tidy, kept.shelved, kept.current, same, id, .refl, fun _ _ => rfl, aboard,
          ⟨le_rfl, fun _ _ => rfl⟩, .refl, fun _ _ _ _ member => .inl member, fun _ => .inl rfl,
          fun _ _ resident => resident⟩

/-- Every step of a call keeps the invariant, if it inserts only fresh pages. -/
theorem advance_progress (kept : Steady buffer device ledger) (found : ledger.sys.calls[index]? = some call)
    (fresh : freshInsert ledger (.call index) = true) (counts : ledger.sys.world.state.seqCounter + 1 < 2 ^ 64) :
    Progress buffer device ledger index call (buffer.witness index call ledger) (buffer.advance call ledger.sys.world) := by
  have aboard := kept.calls index call found
  obtain ⟨request, devSize, pieces, output, phase⟩ := call
  have idle (plain : phase.isPlain = true) : Progress buffer device ledger index ⟨request, devSize, pieces, output, phase⟩
      ledger (⟨request, devSize, pieces, output, phase⟩, ledger.sys.world) :=
    kept.still found (uploads_plain plain) (plain_waiting plain) aboard
  cases phase with
  | entering => exact enter_progress kept found rfl
  | sized size => exact learnSize_progress kept found rfl
  | collecting => exact collecting_progress kept found rfl
  | flushing uploads => exact settle_progress kept found rfl
  | syncing => exact syncing_progress kept found rfl
  | returned result => exact idle rfl
  | checking =>
      cases pieces with
      | nil => exact idle rfl
      | cons chunk rest =>
          refine kept.still found (uploads_plain rfl) (plain_waiting ?_) (aboard.plain ?_ rfl rfl fun _ member => member)
          · dsimp only
            split
            · rfl
            · rfl
          · dsimp only
            split
            · rfl
            · rfl
  | loading =>
      cases pieces with
      | nil => exact idle rfl
      | cons chunk rest => exact loading_progress kept found rfl rfl
  | loaded bytes =>
      cases pieces with
      | nil => exact kept.still found rfl (fun upload member => (by cases member)) aboard
      | cons chunk rest =>
          refine loaded_progress kept found rfl rfl ?_ counts
          unfold freshInsert at fresh
          dsimp only at fresh
          rw [found] at fresh
          simpa using fresh
  | applying =>
      cases pieces with
      | nil => exact idle rfl
      | cons chunk rest =>
          have passed : Progress buffer device ledger index ⟨request, devSize, chunk :: rest, output, .applying⟩ ledger
              (⟨request, devSize, chunk :: rest, output, .checking⟩, ledger.sys.world) :=
            kept.still found (uploads_plain rfl) (plain_waiting rfl) (aboard.plain rfl rfl rfl fun _ member => member)
          have writes (writes : ¬ ∃ offset len, request = .read offset len)
              (missed : ledger.sys.world.state.applyPatch chunk.page chunk.pageOffset
                  ((request.bytes.drop chunk.pos).take chunk.len) = none →
                buffer.witness index ⟨request, devSize, chunk :: rest, output, .applying⟩ ledger = ledger ∧
                buffer.advance ⟨request, devSize, chunk :: rest, output, .applying⟩ ledger.sys.world =
                  (⟨request, devSize, chunk :: rest, output, .checking⟩, ledger.sys.world))
              (patched : ∀ state, ledger.sys.world.state.applyPatch chunk.page chunk.pageOffset
                  ((request.bytes.drop chunk.pos).take chunk.len) = some state →
                buffer.witness index ⟨request, devSize, chunk :: rest, output, .applying⟩ ledger =
                  ledger.patched (chunk.page * buffer.config.pageSize + chunk.pageOffset)
                    ((request.bytes.drop chunk.pos).take chunk.len) ∧
                buffer.advance ⟨request, devSize, chunk :: rest, output, .applying⟩ ledger.sys.world =
                  (⟨request, devSize, chunk :: rest, output, .limiting⟩, { ledger.sys.world with state })) :
              Progress buffer device ledger index ⟨request, devSize, chunk :: rest, output, .applying⟩
                (buffer.witness index ⟨request, devSize, chunk :: rest, output, .applying⟩ ledger)
                (buffer.advance ⟨request, devSize, chunk :: rest, output, .applying⟩ ledger.sys.world) := by
            cases applied : ledger.sys.world.state.applyPatch chunk.page chunk.pageOffset
                ((request.bytes.drop chunk.pos).take chunk.len) with
            | none =>
                obtain ⟨noted, moves⟩ := missed applied
                rw [noted, moves]
                exact passed
            | some state =>
                obtain ⟨noted, moves⟩ := patched state applied
                rw [noted, moves]
                exact patched_progress kept found rfl rfl writes applied counts
          cases request with
          | read offset len =>
              simp only [witness, advance, chunkTurn, applyChunk]
              cases copied : ledger.sys.world.state.copyOut buffer.config chunk.page chunk.pageOffset chunk.len with
              | none => exact passed
              | some outcome => exact copied_progress kept found rfl rfl copied
          | write offset data =>
              refine writes (fun reads => (by obtain ⟨_, _, reads⟩ := reads; cases reads)) (fun applied => ?_)
                fun state applied => ?_
              all_goals
                simp only [witness, advance, chunkTurn, applyChunk, applied]
                exact ⟨trivial, trivial⟩
          | clear offset len =>
              refine writes (fun reads => (by obtain ⟨_, _, reads⟩ := reads; cases reads)) (fun applied => ?_)
                fun state applied => ?_
              all_goals
                simp only [witness, advance, chunkTurn, applyChunk, applied]
                exact ⟨trivial, trivial⟩
          | flush =>
              refine writes (fun reads => (by obtain ⟨_, _, reads⟩ := reads; cases reads)) (fun applied => ?_)
                fun state applied => ?_
              all_goals
                simp only [witness, advance, chunkTurn, applyChunk, applied]
                exact ⟨trivial, trivial⟩
  | limiting =>
      cases pieces with
      | nil => exact idle rfl
      | cons chunk rest => exact limiting_progress kept found rfl rfl

omit [SectorStore Inner] in
/-- One step of an upload leaves the pages whole and the recency order exact. -/
theorem flushIndex_shelved {page : Nat} {phase : WritePhase}
    (shelved : BufferState.Shelved buffer.config.pageSize world.state) :
    BufferState.Shelved buffer.config.pageSize (buffer.flushIndex page phase world).2.state := by
  cases phase with
  | waiting =>
      simp only [flushIndex]
      split
      · exact shelved
      · split
        · exact shelved
        · exact shelved
  | writing seq offset bytes =>
      simp only [flushIndex, Action.withContext, BufferWorld.callInner]
      cases (BlobBackend.write offset bytes world.inner).1 with
      | error error => exact shelved
      | ok value => exact shelved
  | written seq => exact (BufferState.markClean_cleaned shelved).1
  | done result => exact shelved

omit [SectorStore Inner] in
theorem flushIndex_stays {page other : Nat} {phase : WritePhase} (resident : world.state.pages.contains other = true) :
    (buffer.flushIndex page phase world).2.state.pages.contains other = true := by
  cases phase with
  | waiting =>
      simp only [flushIndex]
      split
      · exact resident
      · split
        · exact resident
        · exact resident
  | writing seq offset bytes =>
      simp only [flushIndex, Action.withContext, BufferWorld.callInner]
      cases (BlobBackend.write offset bytes world.inner).1 with
      | error error => exact resident
      | ok value => exact resident
  | written seq => exact BufferState.markClean_stays resident
  | done result => exact resident

/-- One upload among those of all calls, and what its step does. -/
theorem upload_uploaded {slot page : Nat} {phase : WritePhase} {request : BlobRequest} {devSize : Nat} {pieces : List Chunk}
    {output : List UInt8} {uploads : List (Nat × WritePhase)} (kept : Steady buffer device ledger)
    (found : ledger.sys.calls[index]? = some ⟨request, devSize, pieces, output, .flushing uploads⟩)
    (there : uploads[slot]? = some (page, phase))
    (alone : phase = .waiting → ledger.sys.world.state.snapshot buffer.config page = none ∨
      page ∉ writings ledger.sys.pending) :
    ∃ front back, (ledger.sys.calls.set index ⟨request, devSize, pieces, output, .flushing
        (uploads.set slot (page, (buffer.flushIndex page phase ledger.sys.world).1))⟩).flatMap BufferCall.uploads =
          front ++ (page, (buffer.flushIndex page phase ledger.sys.world).1) :: back ∧
      Uploaded buffer device ledger.sys.world front back page phase (buffer.flushIndex page phase ledger.sys.world) := by
  obtain ⟨inside, here⟩ := List.getElem?_eq_some_iff.mp there
  obtain ⟨front, back, split, replaced⟩ := pending_split found
  have parts : uploads = uploads.take slot ++ (page, phase) :: uploads.drop (slot + 1) := by
    have split := List.take_append_drop slot uploads
    rw [List.drop_eq_getElem_cons inside, here] at split
    exact split.symm
  have apart : ledger.sys.pending =
      (front ++ uploads.take slot) ++ (page, phase) :: (uploads.drop (slot + 1) ++ back) := by
    rw [BufferSystem.pending, split]
    change front ++ (uploads ++ back) = _
    nth_rewrite 1 [parts]
    simp only [List.append_assoc, List.cons_append]
  refine ⟨front ++ uploads.take slot, uploads.drop (slot + 1) ++ back, ?_, ?_⟩
  · rw [replaced]
    change front ++ (uploads.set slot _ ++ back) = _
    rw [List.set_eq_take_append_cons_drop, if_pos inside]
    simp only [List.append_assoc, List.cons_append]
  · refine flushIndex_uploaded kept.tidy (apart ▸ kept.uploads) fun waiting => (alone waiting).imp id fun free => ?_
    rw [apart, writings_append, writings_cons] at free
    rw [writings_append]
    intro member
    refine free ?_
    rcases List.mem_append.mp member with early | late
    · exact List.mem_append_left _ early
    · refine List.mem_append_right _ ?_
      split
      · exact List.mem_cons_of_mem _ late
      · exact late

/-- A step of an upload keeps the invariant, if it copies its page while no other upload of it is running. -/
theorem upload_progress {slot page : Nat} {phase : WritePhase} {request : BlobRequest} {devSize : Nat} {pieces : List Chunk}
    {output : List UInt8} {uploads : List (Nat × WritePhase)} (kept : Steady buffer device ledger)
    (found : ledger.sys.calls[index]? = some ⟨request, devSize, pieces, output, .flushing uploads⟩)
    (there : uploads[slot]? = some (page, phase))
    (alone : phase = .waiting → ledger.sys.world.state.snapshot buffer.config page = none ∨
      page ∉ writings ledger.sys.pending) :
    Progress buffer device ledger index ⟨request, devSize, pieces, output, .flushing uploads⟩
      { ledger with landings := ledger.landed [(page, phase)] }
      (⟨request, devSize, pieces, output, .flushing
          (uploads.set slot (page, (buffer.flushIndex page phase ledger.sys.world).1))⟩,
        (buffer.flushIndex page phase ledger.sys.world).2) := by
  have aboard := kept.calls index _ found
  obtain ⟨inside, here⟩ := List.getElem?_eq_some_iff.mp there
  obtain ⟨front, back, replaced, moved⟩ := upload_uploaded kept found there alone
  have counted : Counted buffer device ledger.landings (ledger.landed [(page, phase)])
    (SectorStore.content ledger.sys.world.inner)
    (SectorStore.content (buffer.flushIndex page phase ledger.sys.world).2.inner) := counted_of_ashore moved.ashore
  have calm := moved.calm
  refine ⟨calm.tidy, flushIndex_shelved kept.shelved, calm.contents.trans kept.current, ?_, calm.known,
    counted, fun _ _ => rfl, ?_, ⟨le_rfl, fun _ _ => rfl⟩, moved.ashore.mono fun upload member => ?_,
    fun other seq offset bytes member => ?_, fun other => ?_, fun _ other resident => flushIndex_stays resident⟩
  · rw [replaced]
    exact moved.uploading
  · have carried := aboard.carry calm.known counted
    refine ⟨fun size sized => (by cases sized), carried.known, carried.chunks, fun bytes chunk rest loaded => (by cases loaded),
      ?_⟩
    change ((uploads.set slot _).map Prod.fst).Nodup
    have distinct : (uploads.map Prod.fst).Nodup := aboard.distinct
    rw [List.map_set]
    have mapped : slot < (uploads.map Prod.fst).length := by
      rw [List.length_map]
      exact inside
    have own : (uploads.map Prod.fst)[slot] = page := by
      rw [List.getElem_map, here]
    dsimp only
    rw [← own, List.set_getElem_self]
    exact distinct
  · rw [List.mem_singleton.mp member]
    exact List.mem_of_getElem? there
  · rcases List.mem_or_eq_of_mem_set member with old | new
    · exact .inl old
    · obtain ⟨rfl, running⟩ := Prod.mk.inj new
      exact .inr (moved.copied seq offset bytes running.symm)
  · refine (landed_same ledger [(page, phase)] other).imp id fun member => ?_
    obtain ⟨seq, offset, bytes, running⟩ := mem_writings.mp member
    obtain ⟨rfl, rfl⟩ := Prod.mk.inj (List.mem_singleton.mp running)
    exact mem_writings.mpr ⟨seq, offset, bytes, List.mem_of_getElem? there⟩

end Calls

section Runs

variable {Inner : Type} [BlobBackend Inner] [SectorStore Inner] {buffer : BufferedBackend} {device : Nat}
variable {ledger next : BufferLedger Inner}

/-- What a turn does to the history: versions are added, the store takes sectors of running uploads, a new upload carries
the contents, and without a limit no page leaves. -/
structure Evolved (buffer : BufferedBackend) (device : Nat) (before after : BufferLedger Inner) : Prop where
  versions : before.applied ≤ after.applied ∧ ∀ count, count ≤ before.applied → after.version count = before.version count
  ashore : Ashore buffer device before.sys.pending (SectorStore.content before.sys.world.inner)
    (SectorStore.content after.sys.world.inner)
  copied : ∀ page seq offset bytes, (page, .writing seq offset bytes) ∈ after.sys.pending →
    (page, .writing seq offset bytes) ∈ before.sys.pending ∨ (before.sys.world.state.pages.contains page = true ∧
      Shows buffer device page bytes (buffer.contents before.sys.world))
  tolled : ∀ page, after.landings page = before.landings page ∨ page ∈ writings before.sys.pending
  stays : buffer.config.maxCachedPages = 0 → ∀ page, before.sys.world.state.pages.contains page = true →
    after.sys.world.state.pages.contains page = true

theorem Progress.evolved {index : Nat} {call : BufferCall} {noted : BufferLedger Inner}
    {moved : BufferCall × BufferWorld Inner} (progress : Progress buffer device ledger index call noted moved)
    (found : ledger.sys.calls[index]? = some call) :
    Evolved buffer device ledger { noted with sys := ⟨moved.2, ledger.sys.calls.set index moved.1⟩ } := by
  obtain ⟨front, back, split, replaced⟩ := pending_split found
  have mine (upload : Nat × WritePhase) (member : upload ∈ call.uploads) : upload ∈ ledger.sys.pending := by
    rw [BufferSystem.pending, split]
    exact List.mem_append_right _ (List.mem_append_left _ member)
  refine ⟨progress.versions, progress.ashore.mono mine, fun page seq offset bytes member => ?_, fun page => ?_,
    progress.stays⟩
  · change _ ∈ (ledger.sys.calls.set index moved.1).flatMap BufferCall.uploads at member
    rw [replaced] at member
    rcases List.mem_append.mp member with early | late
    · left
      rw [BufferSystem.pending, split]
      exact List.mem_append_left _ early
    · rcases List.mem_append.mp late with own | later
      · exact (progress.copied page seq offset bytes own).imp (mine _) id
      · left
        rw [BufferSystem.pending, split]
        exact List.mem_append_right _ (List.mem_append_right _ later)
  · refine (progress.tolled page).imp id fun member => ?_
    obtain ⟨seq, offset, bytes, running⟩ := mem_writings.mp member
    exact mem_writings.mpr ⟨seq, offset, bytes, mine _ running⟩

/-- A call that has moved leaves the invariant. -/
theorem Steady.moved {index : Nat} {call : BufferCall} {noted : BufferLedger Inner} {moved : BufferCall × BufferWorld Inner}
    (kept : Steady buffer device ledger) (found : ledger.sys.calls[index]? = some call)
    (progress : Progress buffer device ledger index call noted moved) :
    Steady buffer device { noted with sys := ⟨moved.2, ledger.sys.calls.set index moved.1⟩ } := by
  refine ⟨progress.tidy, progress.shelved, progress.current, progress.uploads, fun other call there => ?_⟩
  · have inside : index < ledger.sys.calls.length := (List.getElem?_eq_some_iff.mp found).1
    by_cases own : other = index
    · subst own
      rw [List.getElem?_set_self inside] at there
      obtain rfl := Option.some.inj there
      exact progress.own
    · rw [List.getElem?_set_ne (Ne.symm own)] at there
      change Aboard buffer device moved.2 noted.landings (noted.seen other) call
      rw [progress.others other own]
      exact (kept.calls other call there).carry progress.known progress.counted

omit [BlobBackend Inner] [SectorStore Inner] in
theorem pending_issued (sys : BufferSystem Inner) (request : BlobRequest) :
    ({ sys with calls := sys.calls ++ [.issued request] } : BufferSystem Inner).pending = sys.pending := by
  change (sys.calls ++ [BufferCall.issued request]).flatMap BufferCall.uploads = sys.pending
  rw [List.flatMap_append]
  change sys.pending ++ [] = sys.pending
  rw [List.append_nil]

/-- A new call has nothing to lose. -/
theorem Steady.issued (kept : Steady buffer device ledger) (request : BlobRequest) (began : Nat → Nat) :
    Steady buffer device
      { ledger with sys := { ledger.sys with calls := ledger.sys.calls ++ [.issued request] }, began } := by
  refine ⟨kept.tidy, kept.shelved, kept.current, ?_, fun index call there => ?_⟩
  · dsimp only
    rw [pending_issued]
    exact kept.uploads
  · dsimp only at there
    by_cases old : index < ledger.sys.calls.length
    · rw [List.getElem?_append_left old] at there
      exact kept.calls index call there
    · rw [List.getElem?_append_right (by omega)] at there
      obtain rfl := List.mem_singleton.mp (List.mem_of_getElem? there)
      exact ⟨fun size sized => (by cases sized), fun some => absurd rfl some, fun chunk member => (by cases member),
        fun bytes chunk rest loaded => (by cases loaded), List.nodup_nil⟩

omit [SectorStore Inner] [BlobBackend Inner] in
/-- A page that may be copied has no running upload. -/
theorem alone_of_snapshotAlone {index slot page : Nat} {phase : WritePhase}
    (own : ledger.sys.upload? index slot = some (page, phase))
    (alone : buffer.snapshotAlone ledger (.upload index slot) = true) (waiting : phase = .waiting) :
    ledger.sys.world.state.snapshot buffer.config page = none ∨ page ∉ writings ledger.sys.pending := by
  subst waiting
  unfold snapshotAlone at alone
  dsimp only at alone
  rw [own] at alone
  rcases Bool.or_eq_true_iff.mp alone with nothing | free
  · exact .inl (Option.isNone_iff_eq_none.mp nothing)
  · refine .inr fun member => ?_
    obtain ⟨seq, offset, bytes, running⟩ := mem_writings.mp member
    simpa [WritePhase.isWriting] using List.all_eq_true.mp free _ running

/-- Every turn keeps the invariant, if it copies pages alone and inserts fresh pages. -/
theorem record_kept {turn : BufferTurn} (kept : Steady buffer device ledger)
    (alone : buffer.snapshotAlone ledger turn = true) (fresh : freshInsert ledger turn = true)
    (counts : countsOn ledger turn = true) (taken : buffer.record ledger turn = some next) :
    Steady buffer device next ∧ Evolved buffer device ledger next := by
  obtain ⟨sys, stepped, rfl⟩ := Option.map_eq_some_iff.mp taken
  cases turn with
  | issue request =>
      obtain rfl := Option.some.inj stepped
      refine ⟨kept.issued request _, ⟨le_rfl, fun _ _ => rfl⟩, .refl, fun page seq offset bytes member => .inl ?_,
        fun _ => .inl rfl, fun _ _ resident => resident⟩
      rw [← pending_issued ledger.sys request]
      exact member
  | call index =>
      unfold step at stepped
      unfold annotate
      dsimp only at stepped ⊢
      cases found : ledger.sys.calls[index]? with
      | none =>
          rw [found] at stepped
          cases stepped
      | some call =>
          rw [found] at stepped
          obtain rfl := Option.some.inj stepped
          have progress := advance_progress kept found fresh (of_decide_eq_true counts)
          exact ⟨kept.moved found progress, progress.evolved found⟩
  | upload index slot =>
      unfold step at stepped
      unfold annotate
      dsimp only at stepped ⊢
      split at stepped
      · rename_i request devSize pieces output uploads found
        cases there : uploads[slot]? with
        | none =>
            rw [there] at stepped
            cases stepped
        | some upload =>
            obtain ⟨page, phase⟩ := upload
            rw [there] at stepped
            obtain rfl := Option.some.inj stepped
            have own : ledger.sys.upload? index slot = some (page, phase) := by
              rw [BufferSystem.upload?, found]
              exact there
            rw [own]
            have progress := upload_progress kept found there (alone_of_snapshotAlone own alone)
            exact ⟨kept.moved found progress, progress.evolved found⟩
      · cases stepped
  | expire index =>
      unfold step at stepped
      unfold annotate
      dsimp only at stepped ⊢
      split at stepped
      · rename_i request devSize pieces output uploads found
        split at stepped
        · cases stepped
        · obtain rfl := Option.some.inj stepped
          rw [found]
          have progress (error : Error) (clock : Nat) : Progress buffer device ledger index
              ⟨request, devSize, pieces, output, .flushing uploads⟩ { ledger with landings := ledger.landed uploads }
              (BufferCall.fail ⟨request, devSize, pieces, output, .flushing uploads⟩ error,
                { buffer.dropWrites uploads ledger.sys.world with clock }) :=
            dropped_progress kept found rfl rfl rfl rfl fun _ member => member
          exact ⟨kept.moved found (progress _ _), (progress _ _).evolved found⟩
      · cases stepped

end Runs

end BufferedBackend
end UblkAzblob

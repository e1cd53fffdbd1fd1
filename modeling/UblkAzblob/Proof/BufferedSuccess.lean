import UblkAzblob.Proof.Stack

namespace UblkAzblob
open Storage

/-- A dependable store completes every call inside its bounds. -/
class DependableStore (Inner : Type) [BlobBackend Inner] extends SectorStore Inner where
  size_total : ∀ inner, valid inner → ∃ answer, (BlobBackend.size inner).1 = .ok answer
  read_total : ∀ inner offset len, valid inner → offset % 512 = 0 → len % 512 = 0 →
    offset + len ≤ size inner → ∃ bytes, (BlobBackend.read offset len inner).1 = .ok bytes
  write_total : ∀ inner offset bytes, valid inner → offset % 512 = 0 → bytes.length % 512 = 0 →
    offset + bytes.length ≤ size inner → (BlobBackend.write offset bytes inner).1 = .ok ()
  flush_total : ∀ inner, valid inner → (BlobBackend.flush inner).1 = .ok ()

instance : DependableStore MemBackend where
  size_total _ _ := ⟨_, rfl⟩
  read_total inner offset len _ := ReliableStore.read_total inner offset len
  write_total inner offset bytes _ := ReliableStore.write_total inner offset bytes
  flush_total inner _ := ReliableStore.flush_total inner

/-- A cache over a reliable store is dependable, so a buffer may be put on it. -/
instance {Inner : Type} [BlobBackend Inner] [ReliableStore Inner] : DependableStore (CachedDevice Inner) where
  size_total _ _ := ⟨_, rfl⟩
  read_total := by
    rintro device offset len ⟨geometry, running⟩ offsetAligned lenAligned inside
    have inside : offset + len ≤ device.world.state.devSize := inside
    rw [running.1.devSize] at inside
    exact FileCacheBackend.read_total running.1 fun _ => ⟨offsetAligned, lenAligned, inside⟩
  write_total := by
    rintro device offset bytes ⟨geometry, running⟩ offsetAligned lenAligned inside
    have inside : offset + bytes.length ≤ device.world.state.devSize := inside
    rw [running.1.devSize] at inside
    exact FileCacheBackend.write_total running.1 fun _ => ⟨offsetAligned, lenAligned, inside⟩
  flush_total := by
    rintro device ⟨geometry, running⟩
    exact FileCacheBackend.flush_total running.1.toSound

/-- An accepted call is aligned and stays inside the device, unless it is empty. -/
def BlobRequest.Accepted (device : Nat) : BlobRequest → Prop
  | .read offset len => len ≠ 0 → BufferedBackend.Accepts device offset len
  | .write offset data => data ≠ [] → BufferedBackend.Accepts device offset data.length
  | .clear offset len => len ≠ 0 → BufferedBackend.Accepts device offset len
  | .flush => True

namespace BufferedBackend

/-- No flush runs out of time. -/
def Untimed (buffer : BufferedBackend) : Prop :=
  buffer.config.flushIoTimeoutSecs = 0 ∨ ∀ clock, buffer.executor.timeout clock = none

variable {Inner : Type} [BlobBackend Inner] [DependableStore Inner]
variable {buffer : BufferedBackend} {device : Nat} {world : BufferWorld Inner}

section Loading

theorem devSize_total (tidy : Tidy buffer device world) : (devSize world).1 = .ok device := by
  obtain ⟨answer, same⟩ : ∃ answer, (devSize world).1 = .ok answer := by
    rw [devSize]
    split
    · exact ⟨_, rfl⟩
    · obtain ⟨size, sized⟩ := DependableStore.size_total world.inner tidy.valid
      simp only [Action.bind_apply, BufferWorld.callInner, sized, Action.modify_apply, Action.get_apply]
      exact ⟨_, rfl⟩
  rw [same, ((devSize_spec tidy).2 answer same).1]

theorem loadPage_total {page : Nat} (tidy : Tidy buffer device world)
    (inside : page * buffer.config.pageSize < device) :
    ∃ data, (buffer.loadPage page device world).1 = .ok data := by
  have positive := pageSize_pos buffer
  have aligned := buffer.aligned
  have deviceAligned := tidy.deviceAligned
  have startAligned : page * buffer.config.pageSize % 512 = 0 := by
    rw [Nat.mul_mod, aligned]
    simp
  set len := min (device - page * buffer.config.pageSize) buffer.config.pageSize with lenEq
  have within : page * buffer.config.pageSize + len ≤ SectorStore.size world.inner := by
    rw [tidy.size]
    omega
  obtain ⟨bytes, answer⟩ := DependableStore.read_total world.inner (page * buffer.config.pageSize) len tidy.valid
    startAligned (by omega) within
  have exact := SectorStore.read_exact world.inner _ len bytes tidy.valid startAligned (by omega) within answer
  have width : bytes.length = len := by rw [exact, length_slice]
  simp only [loadPage, if_pos (show 0 < device by omega), ← lenEq, if_pos (show 0 < len by omega),
    Action.bind_apply, Action.withContext, BufferWorld.callInner, answer, Action.ensure_apply, width, if_true]
  exact ⟨_, rfl⟩

theorem ensureResident_total {page : Nat} (tidy : Tidy buffer device world)
    (inside : page * buffer.config.pageSize < device) :
    (buffer.ensureResident page device world).1 = .ok () := by
  rw [ensureResident]
  split
  · rfl
  · obtain ⟨data, loaded⟩ := loadPage_total tidy inside
    rw [Action.bind_apply]
    cases answer : buffer.loadPage page device world with
    | mk outcome after =>
        rw [answer] at loaded
        obtain rfl : outcome = .ok data := loaded
        rfl

/-- The page of a lock section is resident at once, so the section is never retried. -/
theorem withResident_total {Value : Type} {page : Nat} (locked : BufferState → Option (Value × BufferState))
    (tidy : Tidy buffer device world) (known : world.state.devSize = device)
    (inside : page * buffer.config.pageSize < device) :
    ∃ after found, Settled buffer device world after ∧ after.state.pages.find? page = some found ∧
      ∀ value state, locked after.state = some (value, state) →
        buffer.withResident page device locked 1 world = (.ok value, { after with state }) := by
  have total := ensureResident_total tidy inside
  cases answer : buffer.ensureResident page device world with
  | mk outcome after =>
      rw [answer] at total
      obtain rfl : outcome = .ok () := total
      obtain ⟨found, served⟩ := withResident_loaded locked tidy known inside answer
      exact ⟨after, found, served⟩

end Loading

section Flushing

omit [DependableStore Inner] in
/-- The turns that a flush task still needs. -/
def WritePhase.rank : WritePhase → Nat
  | .waiting => 3
  | .writing _ _ _ => 2
  | .written _ => 1
  | .done _ => 0

omit [DependableStore Inner] in
theorem flushIndex_closer (page : Nat) (phase : WritePhase) (world : BufferWorld Inner) :
    (buffer.flushIndex page phase world).1.rank ≤ phase.rank - 1 := by
  cases phase with
  | waiting =>
      simp only [flushIndex]
      split
      · exact Nat.zero_le _
      · split
        · exact Nat.le_succ 1
        · exact Nat.le_refl 2
  | writing seq offset bytes =>
      simp only [flushIndex]
      split
      · exact Nat.le_refl 1
      · exact Nat.zero_le _
  | written seq => exact Nat.le_refl 0
  | done result => exact Nat.le_refl 0

/-- A flush task over a dependable store never fails. -/
theorem flushIndex_total {page : Nat} {phase : WritePhase} (tidy : Tidy buffer device world)
    (ready : WriteReady buffer device world page phase) (running : phase.error? = none) :
    (buffer.flushIndex page phase world).1.error? = none := by
  cases phase with
  | waiting =>
      simp only [flushIndex]
      split
      · rfl
      · split
        · rfl
        · rfl
  | writing seq offset bytes =>
      obtain ⟨found, present, dirty, current, rfl, rfl⟩ := ready
      have placed := placed_of_resident tidy present
      have success := DependableStore.write_total world.inner _ _ tidy.valid placed.startAligned placed.lenAligned
        (placed.inside.trans_eq tidy.size.symm)
      simp only [flushIndex, Action.withContext, BufferWorld.callInner, success]
      rfl
  | written seq => rfl
  | done result => exact running

omit [BlobBackend Inner] [DependableStore Inner] in
/-- A flush that cannot run out of time gives every task its turns. -/
theorem flushOrder_untimed (untimed : buffer.Untimed) (indices : List Nat) (clock : Nat) :
    buffer.flushOrder indices clock = buffer.executor.schedule clock ++ indices.flatMap (List.replicate 3) := by
  rw [flushOrder]
  rcases untimed with never | never
  · cases buffer.executor.timeout clock with
    | none => rfl
    | some steps => exact if_neg (by rw [never]; exact Nat.lt_irrefl 0)
  · rw [never]

theorem flushIndices_total (untimed : buffer.Untimed) {indices : List Nat} (tidy : Tidy buffer device world)
    (distinct : indices.Nodup) : (buffer.flushIndices indices world).1 = .ok () := by
  set started : BufferWorld Inner := { world with clock := world.clock + 1 } with startedEq
  have start : Tidy buffer device started :=
    ⟨tidy.valid, tidy.size, tidy.devSize, tidy.pages, tidy.clean, tidy.lru, tidy.evictable⟩
  obtain ⟨_, _, ready⟩ := interleave_tasks buffer.flushIndex
    (fun tasks => tasks.any fun task => task.2.error?.isSome) (Tidy buffer device)
    (fun world page phase => WriteReady buffer device world page phase ∧ phase.error? = none) (by
      rintro page phase world tidy ⟨ready, running⟩
      obtain ⟨step, moved, others, _⟩ := flushIndex_spec tidy ready
      exact ⟨step.tidy, ⟨moved, flushIndex_total tidy ready running⟩, fun other idle different held =>
        ⟨held.1.frame (others other different), held.2⟩⟩)
    (buffer.flushOrder indices world.clock) (indices.map fun page => (page, .waiting)) started
    (by rw [map_fst_tagged]; exact distinct) start (by
      intro page phase member
      obtain ⟨_, rfl⟩ := mem_tagged member
      exact ⟨trivial, rfl⟩)
  have finishes := @interleave_finishes _ _ _ _ buffer.flushIndex WritePhase.rank flushIndex_closer
    (fun tasks => tasks.any fun task => task.2.error?.isSome) (buffer.flushOrder indices world.clock)
    (indices.map fun page => (page, .waiting)) started (by rw [map_fst_tagged]; exact distinct) (by
      intro page phase member
      obtain ⟨inside, rfl⟩ := mem_tagged member
      rw [flushOrder_untimed untimed, List.count_append]
      exact (le_count_turns 3 inside).trans (Nat.le_add_left _ _))
  simp only [flushIndices, ← startedEq]
  set ended := interleave buffer.flushIndex
    (fun tasks => tasks.any fun task => task.2.error?.isSome) (buffer.flushOrder indices world.clock)
    (indices.map fun page => (page, .waiting)) started
  have unfailed : (ended.1.findSome? fun task => task.2.error?) = none :=
    List.findSome?_eq_none_iff.mpr fun task member => (ready task.1 task.2 member).2
  have unhalted : ¬ (ended.1.any fun task => task.2.error?.isSome) = true := by
    rw [List.any_eq_true]
    rintro ⟨⟨page, phase⟩, member, failed⟩
    rw [(ready page phase member).2] at failed
    cases failed
  have done : (ended.1.all fun task => task.2.isDone) = true := by
    refine List.all_eq_true.mpr fun task member => ?_
    obtain ⟨page, phase⟩ := task
    have spent := finishes.resolve_left unhalted page phase member
    cases phase with
    | done result => rfl
    | _ => cases spent
  rw [unfailed]
  dsimp only
  rw [if_pos done]

theorem enforceDirtyLimit_total (untimed : buffer.Untimed) (tidy : Tidy buffer device world) :
    (buffer.enforceDirtyLimit world).1 = .ok () := by
  simp only [enforceDirtyLimit]
  split
  · rfl
  · exact flushIndices_total untimed tidy (BufferState.victims_nodup _ _)

theorem flush_total (untimed : buffer.Untimed) (tidy : Tidy buffer device world) :
    (buffer.flush world).1 = .ok () := by
  have conclude (after : BufferWorld Inner) (tidy : Tidy buffer device after) :
      (BufferWorld.callInner BlobBackend.flush after).1 = .ok () := DependableStore.flush_total after.inner tidy.valid
  simp only [flush]
  split
  · have total := flushIndices_total untimed tidy (BufferState.dirtyIndices_nodup world.state)
    have settled := (flushIndices_spec tidy (BufferState.dirtyIndices_nodup world.state)).1
    rw [Action.bind_apply]
    cases answer : buffer.flushIndices world.state.dirtyIndices world with
    | mk outcome after =>
        rw [answer] at total settled
        obtain rfl : outcome = .ok () := total
        exact conclude after settled.tidy
  · exact conclude world tidy

end Flushing

section Calling

/-- The checks of an accepted call let it through. -/
theorem guard_total {Value : Type} (message op : String) {offset len : Nat}
    (body : Nat → Action (BufferWorld Inner) Value) (tidy : Tidy buffer device world)
    (accepted : Accepts device offset len) :
    ∃ after, Settled buffer device world after ∧ after.state.devSize = device ∧ (do
        checkAligned message offset len
        let devSize ← devSize
        checkInBounds op offset len devSize
        body devSize : Action (BufferWorld Inner) Value) world = body device after := by
  obtain ⟨offsetAligned, lenAligned, inside⟩ := accepted
  obtain ⟨_, bounded⟩ := SectorStore.aligned world.inner tidy.valid
  rw [tidy.size] at bounded
  have total := devSize_total tidy
  obtain ⟨settled, exact⟩ := devSize_spec tidy
  simp only [Action.bind_apply, checkAligned, Action.ensure_apply, if_pos (And.intro offsetAligned lenAligned)]
  cases answer : devSize world with
  | mk outcome after =>
      rw [answer] at total settled exact
      obtain rfl : outcome = .ok device := total
      refine ⟨after, settled, (exact device rfl).2, ?_⟩
      simp only [checkInBounds]
      rw [if_neg (by omega), if_neg (by omega)]
      rfl

theorem readLoop_total {offset len pos : Nat} {pieces : List Chunk} (result : List UInt8)
    (tiles : Tiles buffer.config.pageSize offset len pos pieces) (posAligned : pos % 512 = 0)
    (offsetAligned : offset % 512 = 0) (lenAligned : len % 512 = 0) (inside : offset + len ≤ device)
    (tidy : Tidy buffer device world) (known : world.state.devSize = device) :
    ∃ bytes, (buffer.readLoop device pieces result world).1 = .ok bytes := by
  induction tiles generalizing result world with
  | done => exact ⟨_, rfl⟩
  | next chunk rest start within positive bounded cut tail ih =>
      have fits := chunkFits_of_tiles start within positive bounded cut posAligned offsetAligned
        lenAligned inside
      obtain ⟨after, found, settled, present, done⟩ := withResident_total
        (BufferState.copyOut buffer.config chunk.page chunk.pageOffset chunk.len) tidy known fits.inside
      obtain ⟨state, copied, copySettled⟩ := copyOut_spec settled.tidy present fits.within
      have upToNow := settled.trans copySettled
      rw [readLoop, Action.bind_ok (done _ _ copied)]
      exact ih _ (by have := fits.lenAligned; omega) upToNow.tidy (upToNow.known known)

theorem read_total {offset len : Nat} (tidy : Tidy buffer device world)
    (accepted : len ≠ 0 → Accepts device offset len) : ∃ bytes, (buffer.read offset len world).1 = .ok bytes := by
  rw [read]
  split
  · exact ⟨_, rfl⟩
  · rename_i nonempty
    have accepted := accepted nonempty
    obtain ⟨after, settled, known, body⟩ := guard_total
      s!"read: offset ({offset}) and len ({len}) must be 512-byte aligned" "read"
      (fun devSize => buffer.readLoop devSize (chunks buffer.config.pageSize offset len) []) tidy accepted
    obtain ⟨offsetAligned, lenAligned, inside⟩ := accepted
    rw [body]
    exact readLoop_total [] (chunks_tiles buffer.config.pageSize offset len (pageSize_pos buffer)) (Nat.zero_mod 512)
      offsetAligned lenAligned inside settled.tidy known

theorem writeChunk_total (untimed : buffer.Untimed) {offset : Nat} {data : List UInt8} {chunk : Chunk}
    (tidy : Tidy buffer device world) (known : world.state.devSize = device)
    (fits : ChunkFits buffer device offset chunk) (bounded : chunk.pos + chunk.len ≤ data.length) :
    (buffer.writeChunk device data chunk world).1 = .ok () := by
  have length : ((data.drop chunk.pos).take chunk.len).length = chunk.len := by
    rw [List.length_take, List.length_drop]
    omega
  obtain ⟨after, found, settled, present, done⟩ := withResident_total (fun state =>
    (state.applyPatch chunk.page chunk.pageOffset ((data.drop chunk.pos).take chunk.len)).map fun state => ((), state))
    tidy known fits.inside
  obtain ⟨state, patched, written⟩ := applyPatch_spec ((data.drop chunk.pos).take chunk.len) settled.tidy present
    (by rw [length]; exact fits.within) (by rw [length, fits.start]; exact ⟨fits.startAligned, fits.lenAligned⟩)
  rw [writeChunk, Action.bind_ok (done () state (by rw [patched]; rfl))]
  exact enforceDirtyLimit_total untimed written.tidy

theorem writeLoop_total (untimed : buffer.Untimed) {offset pos : Nat} {data : List UInt8} {pieces : List Chunk}
    (tiles : Tiles buffer.config.pageSize offset data.length pos pieces) (posAligned : pos % 512 = 0)
    (offsetAligned : offset % 512 = 0) (lenAligned : data.length % 512 = 0)
    (inside : offset + data.length ≤ device) (tidy : Tidy buffer device world)
    (known : world.state.devSize = device) :
    (Action.forEach pieces (buffer.writeChunk device data) world).1 = .ok () := by
  induction tiles generalizing world with
  | done => rfl
  | next chunk rest start within positive bounded cut tail ih =>
      have fits := chunkFits_of_tiles start within positive bounded cut posAligned offsetAligned
        lenAligned inside
      have total := writeChunk_total untimed tidy known fits bounded
      obtain ⟨_, _, written, _⟩ := writeChunk_spec tidy known fits bounded
      rw [Action.forEach_cons, Action.bind_apply]
      cases answer : buffer.writeChunk device data chunk world with
      | mk outcome after =>
          rw [answer] at total written
          obtain rfl : outcome = .ok () := total
          exact ih (by have := fits.lenAligned; omega) written.tidy (written.known known)

/-- An accepted write or clear is completed. -/
theorem guardedWrite_total (untimed : buffer.Untimed) (message op : String) {offset : Nat} {data : List UInt8}
    (tidy : Tidy buffer device world) (accepted : Accepts device offset data.length) :
    ((do
      checkAligned message offset data.length
      buffer.writeRange op offset data : Action (BufferWorld Inner) Unit) world).1 = .ok () := by
  obtain ⟨after, settled, known, body⟩ := guard_total message op (fun devSize =>
    Action.forEach (chunks buffer.config.pageSize offset data.length) (buffer.writeChunk devSize data)) tidy accepted
  obtain ⟨offsetAligned, lenAligned, inside⟩ := accepted
  simp only [writeRange]
  rw [body]
  exact writeLoop_total untimed (chunks_tiles buffer.config.pageSize offset data.length (pageSize_pos buffer))
    (Nat.zero_mod 512) offsetAligned lenAligned inside settled.tidy known

theorem write_total (untimed : buffer.Untimed) {offset : Nat} {data : List UInt8} (tidy : Tidy buffer device world)
    (accepted : data ≠ [] → Accepts device offset data.length) : (buffer.write offset data world).1 = .ok () := by
  rw [write]
  split
  · rfl
  · rename_i nonempty
    exact guardedWrite_total untimed _ _ tidy (accepted nonempty)

theorem clear_total (untimed : buffer.Untimed) {offset len : Nat} (tidy : Tidy buffer device world)
    (accepted : len ≠ 0 → Accepts device offset len) : (buffer.clear offset len world).1 = .ok () := by
  rw [clear]
  split
  · rfl
  · rename_i nonempty
    have whole : Accepts device offset (List.replicate len (0 : UInt8)).length := by
      rw [List.length_replicate]
      exact accepted nonempty
    have total := guardedWrite_total untimed
      s!"clear: offset ({offset}) and len ({len}) must be 512-byte aligned" "clear" tidy whole
    rw [List.length_replicate] at total
    exact total

/-- An accepted call is completed. -/
theorem perform_total (untimed : buffer.Untimed) {request : BlobRequest} (tidy : Tidy buffer device world)
    (accepted : request.Accepted device) : ∃ bytes, (buffer.perform request world).1 = .ok bytes := by
  cases request with
  | read offset len => exact read_total tidy accepted
  | write offset data =>
      rw [perform, unit_outcome, write_total untimed tidy accepted]
      exact ⟨[], rfl⟩
  | clear offset len =>
      rw [perform, unit_outcome, clear_total untimed tidy accepted]
      exact ⟨[], rfl⟩
  | flush =>
      rw [perform, unit_outcome, flush_total untimed tidy]
      exact ⟨[], rfl⟩

theorem answers_total (untimed : buffer.Untimed) {reference : Store} {requests : List BlobRequest}
    {request : BlobRequest} {index : Nat} (refines : Refines buffer device reference world)
    (found : requests[index]? = some request) (accepted : request.Accepted device) :
    ∃ bytes, (buffer.answers requests world)[index]? = some (.ok bytes) := by
  induction requests generalizing reference world index with
  | nil => cases found
  | cons first rest ih =>
      cases index with
      | zero =>
          obtain rfl := Option.some.inj found
          obtain ⟨bytes, done⟩ := perform_total untimed refines.tidy accepted
          exact ⟨bytes, congrArg some done⟩
      | succ index =>
          obtain ⟨next, _, after⟩ := perform_evolves refines first
          exact ih after found

/-- Over a dependable store every accepted call of a run is completed, whatever was called before it. -/
theorem accepted_calls_complete (buffer : BufferedBackend) (untimed : buffer.Untimed) (inner : Inner)
    (valid : SectorStore.valid inner) (clock : Nat) (requests : List BlobRequest) (index : Nat)
    (request : BlobRequest) (found : requests[index]? = some request)
    (accepted : request.Accepted (SectorStore.size inner)) :
    ∃ bytes, (buffer.answers requests (start inner clock))[index]? = some (.ok bytes) :=
  answers_total untimed (start_refines buffer inner clock valid) found accepted

end Calling

end BufferedBackend
end UblkAzblob

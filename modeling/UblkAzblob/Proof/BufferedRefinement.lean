import UblkAzblob.Proof.BufferedFlush
import UblkAzblob.Proof.MemBackend

namespace UblkAzblob
namespace BufferedBackend
open Storage

variable {Inner : Type} [BlobBackend Inner] [SectorStore Inner]
variable {buffer : BufferedBackend} {device : Nat} {world : BufferWorld Inner}

/-- The device size is the size of the inner store. -/
theorem devSize_spec (tidy : Tidy buffer device world) :
    Settled buffer device world (devSize world).2 ∧
      ∀ answer, (devSize world).1 = .ok answer →
        answer = device ∧ (devSize world).2.state.devSize = device := by
  simp only [devSize]
  by_cases asked : world.state.devSize = 0
  · rw [if_neg (by simpa using asked)]
    have keeps := SectorStore.size_keeps world.inner tidy.valid
    have settled := callInner_settled tidy keeps
    have exact := fun answer => SectorStore.size_exact world.inner answer tidy.valid
    simp only [Action.bind_apply]
    cases result : BufferWorld.callInner BlobBackend.size world with
    | mk outcome after =>
        have same : (BlobBackend.size world.inner).1 = outcome := congrArg Prod.fst result
        have sameState : after.state = world.state := (congrArg (·.2.state) result).symm
        rw [result] at settled
        cases outcome with
        | error error => exact ⟨settled, by simp⟩
        | ok size =>
            have sizeEq : size = device := (exact size same).trans tidy.size
            subst sizeEq
            simp only [Action.modify_apply, Action.get_apply, BufferWorld.update, sameState, asked,
              if_true]
            refine ⟨⟨⟨settled.tidy.valid, settled.tidy.size, .inr rfl, ?_, ?_, ?_, ?_⟩, fun _ => rfl, ?_,
              settled.sectors⟩, ?_⟩
            · intro page found present
              obtain ⟨length, inside, _⟩ := tidy.pages page found present
              exact ⟨length, inside, rfl⟩
            · intro page found present
              exact settled.tidy.clean page found (by rw [sameState]; exact present)
            · exact tidy.lru
            · exact tidy.evictable
            · intro x low high
              have shown := settled.contents x low high
              simp only [BufferedBackend.contents, sameState] at shown ⊢
              exact shown
            · rintro answer ⟨⟩
              exact ⟨rfl, trivial⟩
  · rw [if_pos (by simpa using asked)]
    have known : world.state.devSize = device := tidy.devSize.resolve_left asked
    refine ⟨.refl tidy, ?_⟩
    rintro answer ⟨⟩
    exact ⟨known, known⟩

/-- A lock section runs on a world where its page is resident once the load has succeeded. -/
theorem withResident_loaded {Value : Type} {page : Nat} {after : BufferWorld Inner}
    (locked : BufferState → Option (Value × BufferState)) (tidy : Tidy buffer device world)
    (known : world.state.devSize = device) (inside : page * buffer.config.pageSize < device)
    (loaded : buffer.ensureResident page device world = (.ok (), after)) :
    ∃ found, Settled buffer device world after ∧ after.state.pages.find? page = some found ∧
      ∀ value state, locked after.state = some (value, state) →
        buffer.withResident page device locked 1 world = (.ok value, { after with state }) := by
  have ensured := ensureResident_spec tidy known inside
  rw [loaded] at ensured
  obtain ⟨settled, resident⟩ := ensured
  obtain ⟨found, present⟩ := resident rfl
  refine ⟨found, settled, present, ?_⟩
  intro value state done
  rw [withResident, Action.bind_ok loaded]
  simp only [lockedOr, done]

/-- A lock section runs on a world where its page is resident, or the load has failed. -/
theorem withResident_cases {Value : Type} {page : Nat}
    (locked : BufferState → Option (Value × BufferState)) (tidy : Tidy buffer device world)
    (known : world.state.devSize = device) (inside : page * buffer.config.pageSize < device) :
    (∃ error after, buffer.withResident page device locked 1 world = (.error error, after) ∧
        Settled buffer device world after) ∨
      ∃ after found, Settled buffer device world after ∧
        after.state.pages.find? page = some found ∧
        ∀ value state, locked after.state = some (value, state) →
          buffer.withResident page device locked 1 world = (.ok value, { after with state }) := by
  cases answer : buffer.ensureResident page device world with
  | mk outcome after =>
      cases outcome with
      | error error =>
          have settled := (ensureResident_spec tidy known inside).1
          rw [answer] at settled
          refine .inl ⟨error, after, ?_, settled⟩
          rw [withResident, Action.bind_apply, answer]
      | ok value =>
          obtain ⟨found, served⟩ := withResident_loaded locked tidy known inside answer
          exact .inr ⟨after, found, served⟩

/-- A chunk of a resident page is a slice of the contents. -/
theorem copyOut_spec {page pageOffset len : Nat} {found : Page} (tidy : Tidy buffer device world)
    (present : world.state.pages.find? page = some found)
    (within : pageOffset + len ≤ buffer.config.pageSize) :
    ∃ state, world.state.copyOut buffer.config page pageOffset len =
        some (slice (buffer.contents world) (page * buffer.config.pageSize + pageOffset) len, state) ∧
      Settled buffer device world { world with state } := by
  obtain ⟨length, _, _⟩ := tidy.pages page found present
  have bytes : (found.data.drop pageOffset).take len =
      slice (buffer.contents world) (page * buffer.config.pageSize + pageOffset) len := by
    apply bytes_ext (by simp only [List.length_take, List.length_drop, length_slice]; omega)
    intro index inside
    have small : index < len := by simp only [List.length_take] at inside; omega
    obtain ⟨own, rest⟩ := page_split page
      (show pageOffset + index < buffer.config.pageSize by omega)
    rw [byteAt_slice, if_pos small, Nat.add_assoc, BufferedBackend.contents, own, rest]
    simp only [present, byteAt, List.getD_eq_getElem?_getD, List.getElem?_take_of_lt small,
      List.getElem?_drop]
  have touched := touch_settled page (!found.dirty) tidy (by
    intro clean other otherPresent
    obtain rfl := Option.some.inj (present.symm.trans otherPresent)
    simpa using clean)
  have limited := (enforceCacheLimit_settled page touched.tidy).1
  refine ⟨_, ?_, touched.trans limited⟩
  simp only [BufferState.copyOut, present, bytes]
  rfl

/-- A written range shows up in the contents and nowhere else. -/
structure Written (buffer : BufferedBackend) (device offset : Nat) (payload : List UInt8)
    (before after : BufferWorld Inner) : Prop where
  tidy : Tidy buffer device after
  known : before.state.devSize = device → after.state.devSize = device
  contents : AgreeOn 0 device (buffer.contents after) (splice (buffer.contents before) offset payload)
  whole : payload = [] ∨ (offset % 512 = 0 ∧ payload.length % 512 = 0)
  sectors : ∀ allowed, PayloadIn allowed offset payload →
    SectorsIn device allowed (buffer.contents before) →
    SectorsIn device allowed (SectorStore.content before.inner) →
    SectorsIn device allowed (SectorStore.content after.inner)

theorem Settled.written {before after : BufferWorld Inner} (settled : Settled buffer device before after)
    (offset : Nat) : Written buffer device offset [] before after :=
  ⟨settled.tidy, settled.known, by rw [splice_nil]; exact settled.contents, .inl rfl,
    fun allowed _ => settled.sectors allowed⟩

/-- An allowed write keeps the contents allowed. -/
theorem Written.shown {before after : BufferWorld Inner} {offset : Nat} {payload : List UInt8}
    {allowed : Nat → List UInt8 → Prop} (written : Written buffer device offset payload before after)
    (allowedPayload : PayloadIn allowed offset payload)
    (shown : SectorsIn device allowed (buffer.contents before)) :
    SectorsIn device allowed (buffer.contents after) :=
  (shown.splice written.whole allowedPayload).congr written.tidy.deviceAligned written.contents

theorem Written.trans {first middle last : BufferWorld Inner} {offset : Nat} {payload more : List UInt8}
    (head : Written buffer device offset payload first middle)
    (tail : Written buffer device (offset + payload.length) more middle last) :
    Written buffer device offset (payload ++ more) first last := by
  refine ⟨tail.tidy, fun known => tail.known (head.known known), ?_, ?_, ?_⟩
  · rw [← splice_append]
    exact tail.contents.trans (splice_congr head.contents _ _)
  · rcases head.whole with rfl | ⟨offsetAligned, lenAligned⟩
    · simpa using tail.whole
    · rcases tail.whole with rfl | ⟨_, moreAligned⟩
      · simp [offsetAligned, lenAligned]
      · refine .inr ⟨offsetAligned, ?_⟩
        rw [List.length_append]
        omega
  · intro allowed joined shown inner
    obtain ⟨early, late⟩ := joined.append
    exact tail.sectors allowed late (head.shown early shown) (head.sectors allowed early shown inner)

/-- A patch of a resident page is a write of its range. -/
theorem applyPatch_spec {page pageOffset : Nat} (patch : List UInt8) {found : Page}
    (tidy : Tidy buffer device world) (present : world.state.pages.find? page = some found)
    (within : pageOffset + patch.length ≤ buffer.config.pageSize)
    (whole : (page * buffer.config.pageSize + pageOffset) % 512 = 0 ∧ patch.length % 512 = 0) :
    ∃ state, world.state.applyPatch page pageOffset patch = some state ∧
      Written buffer device (page * buffer.config.pageSize + pageOffset) patch world
        { world with state } := by
  obtain ⟨length, inside, known⟩ := tidy.pages page found present
  have fits : pageOffset + patch.length ≤ found.data.length := by omega
  set patched : Page := ⟨overwrite found.data pageOffset patch, true, world.state.nextSeq⟩
    with patchedEq
  set applied : BufferWorld Inner := { world with state := { world.state with
    seqCounter := world.state.nextSeq
    pages := world.state.pages.insert page patched } } with appliedEq
  have lookup (other : Nat) : applied.state.pages.find? other =
      if other = page then some patched else world.state.pages.find? other :=
    OrderedMap.find?_insert _ _ _ _
  have shown : AgreeOn 0 device (buffer.contents applied)
      (splice (buffer.contents world) (page * buffer.config.pageSize + pageOffset) patch) := by
    intro x _ _
    have split := Nat.div_add_mod' x buffer.config.pageSize
    have room := Nat.mod_lt x (pageSize_pos buffer)
    by_cases own : x / buffer.config.pageSize = page
    · rw [own] at split
      simp only [BufferedBackend.contents, lookup, own, if_true, present, splice, patchedEq]
      rw [byteAt_overwrite _ _ _ _ fits]
      by_cases within : pageOffset ≤ x % buffer.config.pageSize ∧
          x % buffer.config.pageSize < pageOffset + patch.length
      · rw [if_pos within, if_pos (by omega)]
        congr 1
        omega
      · rw [if_neg within, if_neg (by omega)]
    · have outside : x < page * buffer.config.pageSize ∨
          page * buffer.config.pageSize + buffer.config.pageSize ≤ x := by
        by_contra inPage
        exact own ((Nat.div_eq_iff (pageSize_pos buffer)).mpr ⟨by omega, by
          have next : (page + 1) * buffer.config.pageSize =
            page * buffer.config.pageSize + buffer.config.pageSize := Nat.succ_mul _ _
          omega⟩)
      rw [splice_outside (by omega)]
      simp only [BufferedBackend.contents, lookup, if_neg own]
      rfl
  have touchedLru (other : Nat) := Lru.touch_evictable _ tidy.lru page false other
  refine ⟨{ world.state with
    seqCounter := world.state.nextSeq
    pages := world.state.pages.insert page patched
    lru := world.state.lru.touch page false }, by simp only [BufferState.applyPatch, present, patchedEq],
    ⟨tidy.valid, tidy.size, tidy.devSize, ?_, ?_, Lru.touch_valid _ tidy.lru page false, ?_⟩, id,
      shown, .inr whole, fun _ _ _ inner => inner⟩
  · intro other otherFound otherPresent
    have otherPresent := (lookup other).symm.trans otherPresent
    split at otherPresent
    · rename_i own
      cases otherPresent
      rw [own]
      exact ⟨(length_overwrite _ _ _ fits).trans length, inside, known⟩
    · exact tidy.pages other otherFound otherPresent
  · intro other otherFound otherPresent clean
    have otherPresent := (lookup other).symm.trans otherPresent
    split at otherPresent
    · cases otherPresent
      cases clean
    · exact tidy.clean other otherFound otherPresent clean
  · intro other evictable otherFound otherPresent
    have evictable := (touchedLru other).mp evictable
    have otherPresent := (lookup other).symm.trans otherPresent
    by_cases own : other = page
    · rw [if_pos own] at evictable
      cases evictable
    · rw [if_neg own] at evictable otherPresent
      exact tidy.evictable other evictable otherFound otherPresent

/-- A chunk of an aligned request in the device stays aligned. -/
structure ChunkFits (buffer : BufferedBackend) (device offset : Nat) (chunk : Chunk) : Prop where
  start : chunk.page * buffer.config.pageSize + chunk.pageOffset = offset + chunk.pos
  within : chunk.pageOffset + chunk.len ≤ buffer.config.pageSize
  inside : chunk.page * buffer.config.pageSize < device
  startAligned : (offset + chunk.pos) % 512 = 0
  lenAligned : chunk.len % 512 = 0

theorem chunkFits_of_tiles {offset len : Nat} {chunk : Chunk}
    (start : chunk.page * buffer.config.pageSize + chunk.pageOffset = offset + chunk.pos)
    (within : chunk.pageOffset + chunk.len ≤ buffer.config.pageSize) (positive : 0 < chunk.len)
    (bounded : chunk.pos + chunk.len ≤ len)
    (cut : chunk.pageOffset + chunk.len = buffer.config.pageSize ∨ chunk.pos + chunk.len = len)
    (posAligned : chunk.pos % 512 = 0) (offsetAligned : offset % 512 = 0) (lenAligned : len % 512 = 0)
    (device' : offset + len ≤ device) : ChunkFits buffer device offset chunk := by
  have aligned := buffer.aligned
  have startAligned : chunk.page * buffer.config.pageSize % 512 = 0 := by
    rw [Nat.mul_mod, aligned]
    simp
  refine ⟨start, within, by omega, by omega, ?_⟩
  rcases cut with atPage | atEnd <;> omega

theorem readLoop_spec {offset len pos : Nat} {pieces : List Chunk} (result : List UInt8)
    (tiles : Tiles buffer.config.pageSize offset len pos pieces) (posAligned : pos % 512 = 0)
    (offsetAligned : offset % 512 = 0) (lenAligned : len % 512 = 0) (inside : offset + len ≤ device)
    (tidy : Tidy buffer device world) (known : world.state.devSize = device) :
    Settled buffer device world (buffer.readLoop device pieces result world).2 ∧
      ∀ bytes, (buffer.readLoop device pieces result world).1 = .ok bytes →
        bytes = result ++ slice (buffer.contents world) (offset + pos) (len - pos) := by
  induction tiles generalizing result world with
  | done =>
      refine ⟨.refl tidy, ?_⟩
      rintro bytes ⟨⟩
      simp [slice]
  | next chunk rest start within positive bounded cut tail ih =>
      have fits := chunkFits_of_tiles start within positive bounded cut posAligned offsetAligned
        lenAligned inside
      simp only [readLoop, Action.bind_apply]
      rcases withResident_cases (BufferState.copyOut buffer.config chunk.page
        chunk.pageOffset chunk.len) tidy known fits.inside with
        ⟨error, after, failed, settled⟩ | ⟨after, found, settled, present, done⟩
      · rw [failed]
        exact ⟨settled, by simp⟩
      · obtain ⟨state, copied, copySettled⟩ := copyOut_spec settled.tidy present fits.within
        rw [done _ _ copied, fits.start]
        have upToNow := settled.trans copySettled
        obtain ⟨finalSettled, rest⟩ := ih (result ++
          slice (buffer.contents after) (offset + chunk.pos) chunk.len)
          (by have := fits.lenAligned; omega) upToNow.tidy (upToNow.known known)
        refine ⟨upToNow.trans finalSettled, ?_⟩
        intro bytes success
        rw [rest bytes success, List.append_assoc]
        have piece : slice (buffer.contents after) (offset + chunk.pos) chunk.len =
            slice (buffer.contents world) (offset + chunk.pos) chunk.len :=
          slice_congr (settled.contents.mono (by omega) (by omega))
        have others : slice (buffer.contents { after with state }) (offset + (chunk.pos + chunk.len))
              (len - (chunk.pos + chunk.len)) =
            slice (buffer.contents world) (offset + (chunk.pos + chunk.len))
              (len - (chunk.pos + chunk.len)) :=
          slice_congr (upToNow.contents.mono (by omega) (by omega))
        rw [piece, others, show len - chunk.pos = chunk.len + (len - (chunk.pos + chunk.len)) by omega,
          ← slice_append, Nat.add_assoc offset]

/-- An accepted request is aligned and stays inside the device. -/
def Accepts (device offset len : Nat) : Prop :=
  offset % 512 = 0 ∧ len % 512 = 0 ∧ offset + len ≤ device

/-- The checks of a data call fail without a visible effect, or let an accepted request through. -/
theorem guard_cases {Value : Type} (message op : String) (offset len : Nat)
    (body : Nat → Action (BufferWorld Inner) Value) (tidy : Tidy buffer device world) :
    (∃ error after, (do
        checkAligned message offset len
        let devSize ← devSize
        checkInBounds op offset len devSize
        body devSize : Action (BufferWorld Inner) Value) world = (.error error, after) ∧
        Settled buffer device world after) ∨
      (Accepts device offset len ∧ ∃ after, Settled buffer device world after ∧
        after.state.devSize = device ∧ (do
        checkAligned message offset len
        let devSize ← devSize
        checkInBounds op offset len devSize
        body devSize : Action (BufferWorld Inner) Value) world = body device after) := by
  obtain ⟨settled, exact⟩ := devSize_spec tidy
  obtain ⟨_, bounded⟩ := SectorStore.aligned world.inner tidy.valid
  rw [tidy.size] at bounded
  simp only [Action.bind_apply, checkAligned, Action.ensure_apply]
  by_cases aligned : offset % 512 = 0 ∧ len % 512 = 0
  · simp only [if_pos aligned]
    cases answer : devSize world with
    | mk outcome after =>
        rw [answer] at settled exact
        cases outcome with
        | error error => exact .inl ⟨error, after, rfl, settled⟩
        | ok size =>
            obtain ⟨rfl, known⟩ := exact size rfl
            simp only [checkInBounds]
            by_cases inside : offset + len ≤ size
            · rw [if_neg (by omega), if_neg (by omega)]
              exact .inr ⟨⟨aligned.1, aligned.2, inside⟩, after, settled, known, rfl⟩
            · by_cases overflow : 2 ^ 64 ≤ offset + len
              · rw [if_pos overflow]
                exact .inl ⟨_, after, rfl, settled⟩
              · rw [if_neg overflow, if_pos (by omega)]
                exact .inl ⟨_, after, rfl, settled⟩
  · simp only [if_neg aligned]
    exact .inl ⟨_, world, rfl, .refl tidy⟩

/-- A read changes nothing visible, and a successful one returns the contents. -/
theorem read_spec (offset len : Nat) (tidy : Tidy buffer device world) :
    Settled buffer device world (buffer.read offset len world).2 ∧
      ∀ bytes, (buffer.read offset len world).1 = .ok bytes →
        bytes = slice (buffer.contents world) offset len ∧ (len ≠ 0 → Accepts device offset len) := by
  rw [read]
  split
  · rename_i empty
    refine ⟨.refl tidy, ?_⟩
    rintro bytes ⟨⟩
    simp [empty, slice]
  · rcases guard_cases s!"read: offset ({offset}) and len ({len}) must be 512-byte aligned"
      "read" offset len (fun devSize =>
        buffer.readLoop devSize (chunks buffer.config.pageSize offset len) []) tidy with
      ⟨error, after, failed, settled⟩ | ⟨accepted, after, settled, known, body⟩
    · rw [failed]
      exact ⟨settled, by simp⟩
    · rw [body]
      obtain ⟨offsetAligned, lenAligned, inside⟩ := accepted
      obtain ⟨finalSettled, exact⟩ := readLoop_spec []
        (chunks_tiles buffer.config.pageSize offset len (pageSize_pos buffer)) (Nat.zero_mod 512)
        offsetAligned lenAligned inside settled.tidy known
      refine ⟨settled.trans finalSettled, fun bytes success =>
        ⟨?_, fun _ => ⟨offsetAligned, lenAligned, inside⟩⟩⟩
      rw [exact bytes success]
      simpa using slice_congr (settled.contents.mono (by omega) (by omega))

/-- A chunk is written as a whole, or not at all when its page cannot be loaded. -/
theorem writeChunk_spec {offset : Nat} {data : List UInt8} {chunk : Chunk}
    (tidy : Tidy buffer device world) (known : world.state.devSize = device)
    (fits : ChunkFits buffer device offset chunk) (bounded : chunk.pos + chunk.len ≤ data.length) :
    ∃ count, (count = 0 ∨ count = chunk.len) ∧
      Written buffer device (offset + chunk.pos) ((data.drop chunk.pos).take count) world
        (buffer.writeChunk device data chunk world).2 ∧
      ((buffer.writeChunk device data chunk world).1 = .ok () → count = chunk.len) := by
  have length : ((data.drop chunk.pos).take chunk.len).length = chunk.len := by
    rw [List.length_take, List.length_drop]
    omega
  simp only [writeChunk, Action.bind_apply]
  rcases withResident_cases (fun state => (state.applyPatch chunk.page chunk.pageOffset
    ((data.drop chunk.pos).take chunk.len)).map fun state => ((), state)) tidy known fits.inside with
    ⟨error, after, failed, settled⟩ | ⟨after, found, settled, present, done⟩
  · rw [failed]
    exact ⟨0, .inl rfl, by simpa using settled.written _, by simp⟩
  · obtain ⟨state, patched, written⟩ := applyPatch_spec
      ((data.drop chunk.pos).take chunk.len) settled.tidy present
      (by rw [length]; exact fits.within)
      (by rw [length, fits.start]; exact ⟨fits.startAligned, fits.lenAligned⟩)
    rw [done () state (by rw [patched]; rfl)]
    rw [fits.start] at written
    have limited := enforceDirtyLimit_settled written.tidy
    refine ⟨chunk.len, .inr rfl, ?_, fun _ => rfl⟩
    simpa using ((settled.written (offset + chunk.pos)).trans written).trans (limited.written _)

/-- The loop writes the rest of the request, or stops after some of its sectors. -/
theorem writeLoop_spec {offset pos : Nat} {data : List UInt8} {pieces : List Chunk}
    (tiles : Tiles buffer.config.pageSize offset data.length pos pieces) (posAligned : pos % 512 = 0)
    (offsetAligned : offset % 512 = 0) (lenAligned : data.length % 512 = 0)
    (inside : offset + data.length ≤ device) (tidy : Tidy buffer device world)
    (known : world.state.devSize = device) :
    ∃ count, count % 512 = 0 ∧ count ≤ data.length - pos ∧
      Written buffer device (offset + pos) ((data.drop pos).take count) world
        (Action.forEach pieces (buffer.writeChunk device data) world).2 ∧
      ((Action.forEach pieces (buffer.writeChunk device data) world).1 = .ok () →
        count = data.length - pos) := by
  induction tiles generalizing world with
  | done => exact ⟨0, rfl, Nat.zero_le _, by simpa using (Settled.refl tidy).written _, by simp⟩
  | next chunk rest start within positive bounded cut tail ih =>
      have fits := chunkFits_of_tiles start within positive bounded cut posAligned offsetAligned
        lenAligned inside
      have aligned := fits.lenAligned
      obtain ⟨first, shape, written, finished⟩ := writeChunk_spec tidy known fits bounded
      simp only [Action.forEach_cons, Action.bind_apply]
      cases answer : buffer.writeChunk device data chunk world with
      | mk outcome after =>
          rw [answer] at written finished
          cases outcome with
          | error error =>
              exact ⟨first, by rcases shape with rfl | rfl <;> omega,
                by rcases shape with rfl | rfl <;> omega, written, by simp⟩
          | ok value =>
              obtain rfl := finished rfl
              obtain ⟨count, countAligned, countBound, more, complete⟩ :=
                ih (by omega) written.tidy (written.known known)
              refine ⟨chunk.len + count, by omega, by omega, ?_, fun success => ?_⟩
              · have length : ((data.drop chunk.pos).take chunk.len).length = chunk.len := by
                  rw [List.length_take, List.length_drop]
                  omega
                rw [List.take_add, List.drop_drop]
                exact written.trans (by rw [length, Nat.add_assoc]; exact more)
              · have := complete success
                omega

/-- A write or clear applies a whole number of leading sectors, and all of them on success. -/
def Applied (buffer : BufferedBackend) (device offset : Nat) (data : List UInt8)
    (before : BufferWorld Inner) (outcome : Except Error Unit × BufferWorld Inner) : Prop :=
  ∃ count, (count = 0 ∨ (offset % 512 = 0 ∧ count % 512 = 0)) ∧ count ≤ data.length ∧
    Written buffer device offset (data.take count) before outcome.2 ∧
    (outcome.1 = .ok () → count = data.length)

theorem guardedWrite_applied (message op : String) (offset : Nat) (data : List UInt8)
    (tidy : Tidy buffer device world) :
    Applied buffer device offset data world ((do
      checkAligned message offset data.length
      buffer.writeRange op offset data : Action (BufferWorld Inner) Unit) world) := by
  simp only [writeRange]
  rcases guard_cases message op offset data.length
    (fun devSize => Action.forEach (chunks buffer.config.pageSize offset data.length)
      (buffer.writeChunk devSize data)) tidy with
    ⟨error, after, failed, settled⟩ | ⟨accepted, after, settled, known, body⟩
  · rw [failed]
    exact ⟨0, .inl rfl, Nat.zero_le _, by simpa using settled.written offset, by simp⟩
  · rw [body]
    obtain ⟨offsetAligned, lenAligned, inside⟩ := accepted
    obtain ⟨count, countAligned, bound, written, finished⟩ := writeLoop_spec
      (chunks_tiles buffer.config.pageSize offset data.length (pageSize_pos buffer))
      (Nat.zero_mod 512) offsetAligned lenAligned inside settled.tidy known
    refine ⟨count, .inr ⟨offsetAligned, countAligned⟩, bound, ?_, finished⟩
    simpa using (settled.written offset).trans (by simpa using written)

theorem applied_nil (tidy : Tidy buffer device world) (offset : Nat) :
    Applied buffer device offset [] world (.ok (), world) :=
  ⟨0, .inl rfl, Nat.zero_le _, (Settled.refl tidy).written offset, fun _ => rfl⟩

theorem write_applied (offset : Nat) (data : List UInt8) (tidy : Tidy buffer device world) :
    Applied buffer device offset data world (buffer.write offset data world) := by
  rw [write]
  split
  · rename_i empty
    rw [empty]
    exact applied_nil tidy offset
  · exact guardedWrite_applied _ _ offset data tidy

theorem clear_applied (offset len : Nat) (tidy : Tidy buffer device world) :
    Applied buffer device offset (List.replicate len 0) world (buffer.clear offset len world) := by
  rw [clear]
  split
  · rename_i empty
    rw [empty]
    exact applied_nil tidy offset
  · have applied := guardedWrite_applied
      s!"clear: offset ({offset}) and len ({len}) must be 512-byte aligned" "clear" offset
      (List.replicate len 0) tidy
    rw [List.length_replicate] at applied
    exact applied

/-- The answers to a run of calls. -/
def answers (buffer : BufferedBackend) : List BlobRequest → BufferWorld Inner → List (Except Error (List UInt8))
  | [], _ => []
  | request :: rest, world =>
      let outcome := buffer.perform request world
      outcome.1 :: buffer.answers rest outcome.2

/-- The buffer shows the reference array. -/
structure Refines (buffer : BufferedBackend) (device : Nat) (reference : Store)
    (world : BufferWorld Inner) : Prop where
  tidy : Tidy buffer device world
  contents : AgreeOn 0 device (buffer.contents world) reference

/-- The answers to a run of calls agree with a reference array that evolves with it. -/
def Explains (buffer : BufferedBackend) (device : Nat) :
    List BlobRequest → Store → BufferWorld Inner → Prop
  | [], _, _ => True
  | request :: rest, reference, world =>
      let outcome := buffer.perform request world
      (∀ offset len bytes, request = .read offset len → outcome.1 = .ok bytes →
        bytes = slice reference offset len) ∧
      (∀ bytes, request = .flush → outcome.1 = .ok bytes →
        AgreeOn 0 device (SectorStore.content outcome.2.inner) reference) ∧
      ∃ next, Evolves request outcome.1 reference next ∧ Explains buffer device rest next outcome.2

variable {reference : Store}

theorem Refines.settled {after : BufferWorld Inner} (refines : Refines buffer device reference world)
    (settled : Settled buffer device world after) : Refines buffer device reference after :=
  ⟨settled.tidy, settled.contents.trans refines.contents⟩

omit [BlobBackend Inner] [SectorStore Inner] in
/-- A call that returns nothing maps its outcome to the empty byte list. -/
theorem unit_outcome {action : Action (BufferWorld Inner) Unit} :
    (do action; pure [] : Action (BufferWorld Inner) (List UInt8)) world =
      ((action world).1.map fun _ => [], (action world).2) := by
  simp only [Action.bind_apply]
  cases action world with
  | mk outcome after => cases outcome <;> rfl

/-- An applied write lands in the reference array, and the buffer shows the result. -/
theorem Refines.lands {offset : Nat} {data : List UInt8} {outcome : Except Error Unit × BufferWorld Inner}
    (refines : Refines buffer device reference world)
    (applied : Applied buffer device offset data world outcome) :
    ∃ next, Lands (outcome.1.map fun _ => []) offset data reference next ∧
      Refines buffer device next outcome.2 := by
  obtain ⟨count, sectors, bound, written, finished⟩ := applied
  refine ⟨splice reference offset (data.take count), ?_, written.tidy,
    written.contents.trans (splice_congr refines.contents _ _)⟩
  obtain ⟨result, after⟩ := outcome
  cases result with
  | error error => exact splice_take_torn reference data sectors bound
  | ok value =>
      change splice reference offset (data.take count) = splice reference offset data
      rw [finished rfl, List.take_length]

/-- One call keeps the refinement of an evolved reference array. -/
theorem perform_evolves (refines : Refines buffer device reference world) (request : BlobRequest) :
    ∃ next, Evolves request (buffer.perform request world).1 reference next ∧
      Refines buffer device next (buffer.perform request world).2 := by
  cases request with
  | read offset len => exact ⟨reference, rfl, refines.settled (read_spec offset len refines.tidy).1⟩
  | write offset data =>
      rw [perform, unit_outcome]
      exact refines.lands (write_applied offset data refines.tidy)
  | clear offset len =>
      rw [perform, unit_outcome]
      exact refines.lands (clear_applied offset len refines.tidy)
  | flush =>
      rw [perform, unit_outcome]
      exact ⟨reference, rfl, refines.settled (flush_spec refines.tidy).1⟩

theorem perform_reads (refines : Refines buffer device reference world) {offset len : Nat}
    {bytes : List UInt8} (success : (buffer.perform (.read offset len) world).1 = .ok bytes) :
    bytes = slice reference offset len := by
  obtain ⟨same, accepted⟩ := (read_spec offset len refines.tidy).2 bytes success
  rw [same]
  apply slice_congr
  intro x low high
  obtain ⟨_, _, inside⟩ := accepted (by omega)
  exact refines.contents x (Nat.zero_le x) (by omega)

theorem perform_flushes (refines : Refines buffer device reference world) {bytes : List UInt8}
    (success : (buffer.perform .flush world).1 = .ok bytes) :
    AgreeOn 0 device (SectorStore.content (buffer.perform .flush world).2.inner) reference := by
  rw [perform, unit_outcome] at success ⊢
  have flushed : (buffer.flush world).1 = .ok () := by
    cases result : (buffer.flush world).1 with
    | error error => simp [result, Except.map] at success
    | ok value => rfl
  exact ((flush_spec refines.tidy).2 flushed).trans refines.contents

theorem explains_of_refines (requests : List BlobRequest)
    (refines : Refines buffer device reference world) : Explains buffer device requests reference world := by
  induction requests generalizing reference world with
  | nil => trivial
  | cons request rest ih =>
      obtain ⟨next, evolves, refinesNext⟩ := perform_evolves refines request
      refine ⟨?_, ?_, next, evolves, ih refinesNext⟩
      · rintro offset len bytes rfl success
        exact perform_reads refines success
      · rintro bytes rfl success
        exact perform_flushes refines success

/-- A new buffer shows its inner store. -/
theorem start_refines (buffer : BufferedBackend) (inner : Inner) (clock : Nat)
    (valid : SectorStore.valid inner) :
    Refines buffer (SectorStore.size inner) (SectorStore.content inner) (start inner clock) where
  tidy := {
    valid := valid
    size := rfl
    devSize := .inl rfl
    pages := by
      intro page found present
      cases present
    clean := by
      intro page found present
      cases present
    lru := Lru.empty_valid
    evictable := fun page known => absurd known (Lru.empty_evictable page) }
  contents := fun _ _ _ => rfl

/-- A buffer over a failing store is a flat byte array; only failed writes are torn. -/
theorem buffer_explains_array (buffer : BufferedBackend) (inner : Inner)
    (valid : SectorStore.valid inner) (clock : Nat) (requests : List BlobRequest) :
    Explains buffer (SectorStore.size inner) requests (SectorStore.content inner)
      (start inner clock) :=
  explains_of_refines requests (start_refines buffer inner clock valid)

/-- This executor runs the tasks of a flush in order and never cuts them off. -/
def steadyExecutor : Executor := ⟨fun _ => [], fun _ => none, fun _ _ => 0⟩

/-- A device that ends inside the second page. -/
theorem buffer_explains_short_page :
    ∃ buffer, new ⟨1024, 2, 2, 0⟩ steadyExecutor = .ok buffer ∧
      Explains buffer 1536 [.write 512 (List.replicate 1024 7), .flush, .read 0 1536] (fun _ => 0)
        (start (⟨1536, fun _ => 0⟩ : MemBackend) 0) ∧
      buffer.answers [.write 512 (List.replicate 1024 7), .flush, .read 0 1536]
          (start (⟨1536, fun _ => 0⟩ : MemBackend) 0) =
        [.ok [], .ok [], .ok (List.replicate 512 0 ++ List.replicate 1024 7)] :=
  ⟨_, rfl, buffer_explains_array _ (⟨1536, fun _ => 0⟩ : MemBackend)
    (show 1536 % 512 = 0 ∧ 1536 < 2 ^ 64 by decide) 0 _, by decide +kernel⟩

end BufferedBackend
end UblkAzblob

import UblkAzblob.Proof.FileCachePages

namespace UblkAzblob
open Storage

/-- A fitting chunk stays inside one page and keeps sector alignment. -/
structure Geometry.Fits (geometry : Geometry) (offset : Nat) (chunk : Chunk) : Prop where
  inside : chunk.page < geometry.numPages
  start : chunk.page * geometry.pageSize + chunk.pageOffset = offset + chunk.pos
  within : chunk.pageOffset + chunk.len ≤ geometry.pageLen chunk.page
  positive : 0 < chunk.len
  startAligned : (offset + chunk.pos) % 512 = 0
  lenAligned : chunk.len % 512 = 0

/-- The chunks of an aligned request in the device fit. -/
theorem Geometry.fits_of_tiles (geometry : Geometry) {offset len : Nat} {chunk : Chunk}
    (start : chunk.page * geometry.pageSize + chunk.pageOffset = offset + chunk.pos)
    (within : chunk.pageOffset + chunk.len ≤ geometry.pageSize) (positive : 0 < chunk.len)
    (bounded : chunk.pos + chunk.len ≤ len)
    (cut : chunk.pageOffset + chunk.len = geometry.pageSize ∨ chunk.pos + chunk.len = len)
    (posAligned : chunk.pos % 512 = 0) (offsetAligned : offset % 512 = 0) (lenAligned : len % 512 = 0)
    (device : offset + len ≤ geometry.devSize) : geometry.Fits offset chunk := by
  have pageAligned := geometry.page_start_aligned chunk.page
  have sizeAligned := geometry.pageAligned
  refine ⟨?_, start, ?_, positive, ?_, ?_⟩
  · rw [geometry.lt_numPages]
    omega
  · simp only [Geometry.pageLen]
    omega
  · omega
  · rcases cut with atPage | atEnd <;> omega

namespace FileCacheBackend

variable {Inner : Type} [BlobBackend Inner] [FlatStore Inner]
variable {cache : FileCacheBackend} {geometry : Geometry} {world : World Inner}

/-- A settled cache is tidy and shows the same contents. -/
structure Settled (cache : FileCacheBackend) (geometry : Geometry) (before after : World Inner) :
    Prop where
  tidy : Tidy cache geometry after
  traces : Traces (Settle geometry) before after

theorem Settled.refl (tidy : Tidy cache geometry world) : Settled cache geometry world world :=
  ⟨tidy, .refl _ _⟩

theorem Settled.trans {first middle last : World Inner} (head : Settled cache geometry first middle)
    (tail : Settled cache geometry middle last) : Settled cache geometry first last :=
  ⟨tail.tidy, head.traces.trans tail.traces⟩

theorem Traces.mono {step other : View → List (Call Inner) → View → Prop} {before after : World Inner}
    (traces : Traces step before after)
    (implies : ∀ first calls last, step first calls last → other first calls last) :
    Traces other before after := by
  obtain ⟨calls, issued, trail⟩ := traces
  exact ⟨calls, issued, trail.mono implies⟩

theorem settled_of_upkeep {after : World Inner} (tidy : Tidy cache geometry after)
    (traces : Traces (Upkeep geometry) world after) : Settled cache geometry world after :=
  ⟨tidy, Traces.mono traces fun _ _ _ => .upkeep⟩

theorem Settled.contents {before after : World Inner} (settled : Settled cache geometry before after)
    (coherent : before.view.Coherent geometry) :
    after.view.Coherent geometry ∧
      AgreeOn 0 geometry.devSize (after.view.contents geometry) (before.view.contents geometry) := by
  obtain ⟨_, _, trail⟩ := settled.traces
  exact settled_contents trail coherent

/-- A chunk is read from the contents, and reading changes nothing visible. -/
theorem readChunk_spec {offset : Nat} {chunk : Chunk} (tidy : Tidy cache geometry world)
    (fits : geometry.Fits offset chunk) :
    Tidy cache geometry (cache.readChunk offset chunk world).2 ∧
      Traces (Upkeep geometry) world (cache.readChunk offset chunk world).2 ∧
      (cache.readChunk offset chunk world).2.view = world.view ∧
      ∀ bytes, (cache.readChunk offset chunk world).1 = .ok bytes →
        bytes = slice (world.view.contents geometry) (offset + chunk.pos) chunk.len := by
  have device := geometry.page_end_le fits.inside
  have start := fits.start
  have within := fits.within
  have samePage (x : Nat) (low : offset + chunk.pos ≤ x) (high : x < offset + chunk.pos + chunk.len) :
      x / geometry.pageSize = chunk.page :=
    ((geometry.mem_page chunk.page x).mp (by omega)).1
  by_cases present : bitGet world.state.present chunk.page
  · have readable : world.disk.data.readExactAt (offset + chunk.pos) chunk.len =
        .ok (slice world.disk.data.bytes (offset + chunk.pos) chunk.len) := by
      rw [File.readExactAt, if_pos (by rw [tidy.dataLen]; omega)]
    simp only [readChunk, if_pos present, readable]
    have exact : slice world.disk.data.bytes (offset + chunk.pos) chunk.len =
        slice (world.view.contents geometry) (offset + chunk.pos) chunk.len := by
      apply slice_congr
      intro x low high
      simp only [View.contents, samePage x low high]
      rw [if_pos (show world.view.present chunk.page = true from present)]
      rfl
    split
    · refine ⟨touch_tidy tidy.toSound fits.inside (by simp) (fun other _ => tidy.evictable other)
        tidy.resident, (touch_quiet _ _ _).traces _, rfl, ?_⟩
      rintro bytes ⟨⟩
      exact exact
    · refine ⟨tidy, .refl _ _, rfl, ?_⟩
      rintro bytes ⟨⟩
      exact exact
  · simp only [readChunk, if_neg present]
    obtain ⟨fetchedTidy, traces, sameView, _, exact⟩ := fetch_spec chunk.page
      (offset + chunk.pos) chunk.len _ _ tidy
    refine ⟨fetchedTidy, traces, sameView, ?_⟩
    intro bytes success
    rw [exact bytes success fits.startAligned fits.lenAligned (by omega)]
    apply slice_congr
    intro x low high
    simp only [View.contents, samePage x low high]
    rw [if_neg (show ¬ world.view.present chunk.page = true from present)]

/-- The loop reads the rest of the request. -/
theorem readLoop_spec {offset len pos : Nat} {pieces : List Chunk} (result : List UInt8)
    (tiles : Tiles geometry.pageSize offset len pos pieces) (posAligned : pos % 512 = 0)
    (offsetAligned : offset % 512 = 0) (lenAligned : len % 512 = 0)
    (device : offset + len ≤ geometry.devSize) (tidy : Tidy cache geometry world) :
    Tidy cache geometry (cache.readLoop offset pieces result world).2 ∧
      Traces (Upkeep geometry) world (cache.readLoop offset pieces result world).2 ∧
      (cache.readLoop offset pieces result world).2.view = world.view ∧
      ∀ bytes, (cache.readLoop offset pieces result world).1 = .ok bytes →
        bytes = result ++ slice (world.view.contents geometry) (offset + pos) (len - pos) := by
  induction tiles generalizing result world with
  | done =>
      refine ⟨tidy, .refl _ _, rfl, ?_⟩
      rintro bytes ⟨⟩
      simp [slice]
  | next chunk rest start within positive bounded cut tail ih =>
      have fits := geometry.fits_of_tiles start within positive bounded cut posAligned offsetAligned
        lenAligned device
      have chunkSpec := readChunk_spec tidy fits
      simp only [readLoop, Action.bind_apply]
      cases answer : cache.readChunk offset chunk world with
      | mk outcome after =>
          rw [answer] at chunkSpec
          obtain ⟨afterTidy, afterTraces, sameView, exact⟩ := chunkSpec
          cases outcome with
          | error error => exact ⟨afterTidy, afterTraces, sameView, by simp⟩
          | ok piece =>
              obtain ⟨finalTidy, finalTraces, finalView, rest⟩ :=
                ih (result ++ piece) (by have := fits.lenAligned; omega) afterTidy
              refine ⟨finalTidy, afterTraces.trans finalTraces, finalView.trans sameView, ?_⟩
              intro bytes success
              rw [rest bytes success, sameView, exact piece rfl, List.append_assoc]
              rw [show len - chunk.pos = chunk.len + (len - (chunk.pos + chunk.len)) by omega,
                ← slice_append, Nat.add_assoc offset]

/-- An accepted request is aligned and stays inside the device. -/
def Accepts (geometry : Geometry) (offset len : Nat) : Prop :=
  offset % 512 = 0 ∧ len % 512 = 0 ∧ offset + len ≤ geometry.devSize

section Guards

variable {Value : Type} {offset len : Nat}

theorem guard_accepts (message op : String) (body : Action (World Inner) Value)
    (tidy : Tidy cache geometry world) (accepted : Accepts geometry offset len) :
    (do
      checkAligned message offset len
      let devSize ← Action.get fun world : World Inner => world.state.devSize
      checkInBounds op offset len devSize
      body : Action (World Inner) Value) world = body world := by
  obtain ⟨offsetAligned, lenAligned, device⟩ := accepted
  have bounded := geometry.devBounded
  simp only [Action.bind_apply, checkAligned, Action.ensure_apply, offsetAligned, lenAligned,
    and_self, if_true, Action.get_apply, checkInBounds, tidy.devSize]
  rw [if_neg (by omega), if_neg (by omega)]
  rfl

theorem guard_rejects (message op : String) (body : Action (World Inner) Value)
    (tidy : Tidy cache geometry world) (rejected : ¬ Accepts geometry offset len) :
    ∃ error, (do
      checkAligned message offset len
      let devSize ← Action.get fun world : World Inner => world.state.devSize
      checkInBounds op offset len devSize
      body : Action (World Inner) Value) world = (.error error, world) := by
  simp only [Action.bind_apply, checkAligned, Action.ensure_apply]
  by_cases aligned : offset % 512 = 0 ∧ len % 512 = 0
  · have outside : geometry.devSize < offset + len := by
      by_contra inside
      exact rejected ⟨aligned.1, aligned.2, by omega⟩
    simp only [if_pos aligned, Action.get_apply, checkInBounds, tidy.devSize]
    by_cases overflow : 2 ^ 64 ≤ offset + len
    · rw [if_pos overflow]
      exact ⟨_, rfl⟩
    · rw [if_neg overflow, if_pos outside]
      exact ⟨_, rfl⟩
  · simp only [if_neg aligned]
    exact ⟨_, rfl⟩

end Guards

/-- A read changes nothing visible, and an accepted one returns the contents. -/
theorem read_spec (offset len : Nat) (tidy : Tidy cache geometry world) :
    Tidy cache geometry (cache.read offset len world).2 ∧
      Traces (Upkeep geometry) world (cache.read offset len world).2 ∧
      (cache.read offset len world).2.view = world.view ∧
      ∀ bytes, (cache.read offset len world).1 = .ok bytes →
        bytes = slice (world.view.contents geometry) offset len ∧
          (len ≠ 0 → Accepts geometry offset len) := by
  rw [read]
  split
  · rename_i empty
    refine ⟨tidy, .refl _ _, rfl, ?_⟩
    rintro bytes ⟨⟩
    simp [empty, slice]
  · by_cases accepted : Accepts geometry offset len
    · rw [guard_accepts _ _ _ tidy accepted, tidy.pageSize]
      obtain ⟨offsetAligned, lenAligned, device⟩ := accepted
      obtain ⟨finalTidy, traces, sameView, exact⟩ := readLoop_spec []
        (chunks_tiles geometry.pageSize offset len geometry.pagePositive) (Nat.zero_mod 512)
        offsetAligned lenAligned device tidy
      exact ⟨finalTidy, traces, sameView, fun bytes success =>
        ⟨by simpa using exact bytes success, fun _ => ⟨offsetAligned, lenAligned, device⟩⟩⟩
    · obtain ⟨error, rejected⟩ := guard_rejects
        s!"read: offset ({offset}) and len ({len}) must be 512-byte aligned" "read"
        (cache.readLoop offset (chunks cache.pageSize offset len) []) tidy accepted
      rw [rejected]
      exact ⟨tidy, .refl _ _, rfl, by simp⟩

/-- A written range shows up in the contents and nowhere else. -/
structure Written (cache : FileCacheBackend) (geometry : Geometry) (offset : Nat)
    (payload : List UInt8) (before after : World Inner) : Prop where
  tidy : Tidy cache geometry after
  traces : Traces (Chore geometry) before after
  contents : before.view.Coherent geometry → AgreeOn 0 geometry.devSize
    (after.view.contents geometry) (splice (before.view.contents geometry) offset payload)

theorem Settled.written {before after : World Inner} (settled : Settled cache geometry before after)
    (offset : Nat) : Written cache geometry offset [] before after where
  tidy := settled.tidy
  traces := Traces.mono settled.traces fun _ _ _ => .settle
  contents coherent := by
    rw [splice_nil]
    exact (settled.contents coherent).2

/-- A page that was current, or is loaded by one of the calls, is current in the end. -/
theorem Traces.current {before after : World Inner} {page : Nat}
    (traces : Traces (Chore geometry) before after)
    (held : before.view.Current geometry page ∨
      ∃ op, ⟨.storeCleanPage page, .data op⟩ ∈ after.calls.drop before.calls.length) :
    after.view.Current geometry page := by
  obtain ⟨calls, issued, trail⟩ := traces
  rw [issued.logged, List.drop_left] at held
  exact trail_current trail held

theorem Traces.coherent {before after : World Inner} (traces : Traces (Chore geometry) before after)
    (coherent : before.view.Coherent geometry) : after.view.Coherent geometry := by
  obtain ⟨_, _, trail⟩ := traces
  exact trail.invariant _ (fun _ _ _ held step => step.coherent held) coherent

theorem Written.trans {first middle last : World Inner} {offset : Nat} {payload more : List UInt8}
    (head : Written cache geometry offset payload first middle)
    (tail : Written cache geometry (offset + payload.length) more middle last) :
    Written cache geometry offset (payload ++ more) first last where
  tidy := tail.tidy
  traces := head.traces.trans tail.traces
  contents coherent := by
    have later := tail.contents (Traces.coherent head.traces coherent)
    rw [← splice_append]
    exact later.trans (splice_congr (head.contents coherent) _ _)

theorem dirtyPageRegion_written {page : Nat} (pageOffset : Nat) (payload : List UInt8)
    (tidy : Tidy cache geometry world) (inside : page < geometry.numPages)
    (ready : world.view.present page = true ∨
      (pageOffset = 0 ∧ payload.length = geometry.pageLen page))
    (fits : pageOffset + payload.length ≤ geometry.pageLen page) :
    Written cache geometry (page * geometry.pageSize + pageOffset) payload world
      (cache.dirtyPageRegion page pageOffset payload world) := by
  obtain ⟨afterTidy, middle, calls, rest, issued, dirties, upkeep⟩ :=
    dirtyPageRegion_spec tidy inside ready fits
  refine ⟨afterTidy, ⟨_, issued, ?_⟩, ?_⟩
  · exact .step (.dirties dirties) (upkeep.mono fun _ _ _ step => .settle (.upkeep step))
  · intro coherent
    have settled := settled_contents (upkeep.mono fun _ _ _ => Settle.upkeep)
      (dirties.coherent coherent)
    exact settled.2.trans dirties.contents

/-- A chunk is written as a whole, or not at all when its page cannot be loaded. -/
theorem writeChunk_spec {offset : Nat} {data : List UInt8} {chunk : Chunk}
    (tidy : Tidy cache geometry world) (fits : geometry.Fits offset chunk)
    (bounded : chunk.pos + chunk.len ≤ data.length) :
    (∃ error after, cache.writeChunk data chunk world = (.error error, after) ∧
        Written cache geometry (offset + chunk.pos) [] world after) ∨
      ∃ after, cache.writeChunk data chunk world = (.ok (), after) ∧
        Written cache geometry (offset + chunk.pos) ((data.drop chunk.pos).take chunk.len)
          world after := by
  have length : ((data.drop chunk.pos).take chunk.len).length = chunk.len := by
    rw [List.length_take, List.length_drop]
    omega
  have within := fits.within
  simp only [writeChunk]
  by_cases whole : chunk.len = cache.pageSize
  · have small : geometry.pageLen chunk.page ≤ geometry.pageSize := by
      simp only [Geometry.pageLen]
      omega
    rw [tidy.pageSize] at whole
    have written := dirtyPageRegion_written chunk.pageOffset
      ((data.drop chunk.pos).take chunk.len) tidy fits.inside (.inr ⟨by omega, by omega⟩)
      (by rw [length]; exact within)
    rw [fits.start] at written
    refine .inr ⟨_, ?_, written⟩
    simp [whole, tidy.pageSize]
  · have ensured := ensurePage_spec tidy fits.inside
    simp only [ne_eq, whole, not_false_eq_true, if_true]
    simp only [Action.bind_apply]
    cases answer : cache.ensurePage chunk.page world with
    | mk outcome after =>
        rw [answer] at ensured
        obtain ⟨afterTidy, traces, present⟩ := ensured
        have settled := settled_of_upkeep afterTidy traces
        cases outcome with
        | error error => exact .inl ⟨error, after, rfl, settled.written _⟩
        | ok len =>
            have written := dirtyPageRegion_written chunk.pageOffset
              ((data.drop chunk.pos).take chunk.len)
              afterTidy fits.inside (.inl (present len rfl)) (by rw [length]; exact within)
            rw [fits.start] at written
            exact .inr ⟨_, rfl, (settled.written (offset + chunk.pos)).trans written⟩

/-- The loop writes the rest of the request, or stops after some of its sectors. -/
theorem writeLoop_spec {offset pos : Nat} (limit : Nat) {data : List UInt8} {pieces : List Chunk}
    (tiles : Tiles geometry.pageSize offset data.length pos pieces) (posAligned : pos % 512 = 0)
    (offsetAligned : offset % 512 = 0) (lenAligned : data.length % 512 = 0)
    (device : offset + data.length ≤ geometry.devSize) (tidy : Tidy cache geometry world) :
    ∃ count, count % 512 = 0 ∧ count ≤ data.length - pos ∧
      Written cache geometry (offset + pos) ((data.drop pos).take count) world
        (Action.forEach (pieces.take limit) (cache.writeChunk data) world).2 ∧
      ((Action.forEach (pieces.take limit) (cache.writeChunk data) world).1 = .ok () →
        pieces.length ≤ limit → count = data.length - pos) := by
  induction tiles generalizing limit world with
  | done =>
      rw [List.take_nil]
      exact ⟨0, rfl, Nat.zero_le _, by simpa using (Settled.refl tidy).written _, by simp⟩
  | next chunk rest start within positive bounded cut tail ih =>
      cases limit with
      | zero => exact ⟨0, rfl, Nat.zero_le _, by simpa using (Settled.refl tidy).written _, by simp⟩
      | succ limit =>
          have fits := geometry.fits_of_tiles start within positive bounded cut posAligned
            offsetAligned lenAligned device
          have aligned := fits.lenAligned
          simp only [List.take_succ_cons, Action.forEach_cons, Action.bind_apply]
          rcases writeChunk_spec tidy fits bounded with
            ⟨error, after, failed, written⟩ | ⟨after, succeeded, written⟩
          · rw [failed]
            exact ⟨0, rfl, Nat.zero_le _, by simpa using written, by simp⟩
          · rw [succeeded]
            obtain ⟨count, countAligned, countBound, more, finished⟩ :=
              ih limit (by omega) written.tidy
            refine ⟨chunk.len + count, by omega, by omega, ?_, fun success enough => ?_⟩
            · have length : ((data.drop chunk.pos).take chunk.len).length = chunk.len := by
                rw [List.length_take, List.length_drop]
                omega
              rw [List.take_add, List.drop_drop]
              exact written.trans (by rw [length, Nat.add_assoc]; exact more)
            · have := finished success (Nat.le_of_succ_le_succ enough)
              omega

/-- A write or clear applies a whole number of leading sectors, and all of them on success. -/
structure Applied (cache : FileCacheBackend) (geometry : Geometry) (offset : Nat)
    (data : List UInt8) (before : World Inner) (outcome : Except Error Unit × World Inner) : Prop where
  leading : ∃ count, count % 512 = 0 ∧ count ≤ data.length ∧
    Written cache geometry offset (data.take count) before outcome.2 ∧
    (outcome.1 = .ok () → count = data.length)
  accepted : outcome.1 = .ok () → data ≠ [] → Accepts geometry offset data.length
  rejected : data ≠ [] → ¬ Accepts geometry offset data.length →
    ∃ error, outcome = (.error error, before)

theorem applied_nil (tidy : Tidy cache geometry world) (offset : Nat) :
    Applied cache geometry offset [] world (.ok (), world) where
  leading := ⟨0, rfl, Nat.zero_le _, (Settled.refl tidy).written offset, fun _ => rfl⟩
  accepted _ nonempty := absurd rfl nonempty
  rejected nonempty := absurd rfl nonempty

theorem guardedWrite_applied (message op : String) (offset : Nat) (data : List UInt8)
    (tidy : Tidy cache geometry world) :
    Applied cache geometry offset data world ((do
      checkAligned message offset data.length
      cache.writeRange op offset data : Action (World Inner) Unit) world) := by
  by_cases accepted : Accepts geometry offset data.length
  · have body := guard_accepts message op
      (Action.forEach (chunks cache.pageSize offset data.length) (cache.writeChunk data))
      tidy accepted
    obtain ⟨offsetAligned, lenAligned, device⟩ := accepted
    rw [tidy.pageSize] at body
    obtain ⟨count, countAligned, bound, written, finished⟩ := writeLoop_spec
      (chunks geometry.pageSize offset data.length).length
      (chunks_tiles geometry.pageSize offset data.length geometry.pagePositive) (Nat.zero_mod 512)
      offsetAligned lenAligned device tidy
    rw [List.take_length] at written finished
    simp only [writeRange, tidy.pageSize]
    rw [body]
    refine ⟨⟨count, countAligned, bound, by simpa using written,
      fun success => finished success le_rfl⟩, ?_, ?_⟩
    · exact fun _ _ => ⟨offsetAligned, lenAligned, device⟩
    · exact fun _ refused => absurd ⟨offsetAligned, lenAligned, device⟩ refused
  · obtain ⟨error, body⟩ := guard_rejects message op
      (Action.forEach (chunks cache.pageSize offset data.length) (cache.writeChunk data))
      tidy accepted
    simp only [writeRange]
    rw [body]
    refine ⟨⟨0, rfl, Nat.zero_le _, by simpa using (Settled.refl tidy).written offset, by simp⟩, ?_, ?_⟩
    · simp
    · exact fun _ _ => ⟨error, rfl⟩

theorem write_applied (offset : Nat) (data : List UInt8) (tidy : Tidy cache geometry world) :
    Applied cache geometry offset data world (cache.write offset data world) := by
  rw [write]
  split
  · rename_i empty
    rw [empty]
    exact applied_nil tidy offset
  · exact guardedWrite_applied _ _ offset data tidy

theorem clear_applied (offset len : Nat) (tidy : Tidy cache geometry world) :
    Applied cache geometry offset (List.replicate len 0) world (cache.clear offset len world) := by
  rw [clear]
  split
  · rename_i empty
    rw [empty]
    exact applied_nil tidy offset
  · have applied := guardedWrite_applied
      s!"clear: offset ({offset}) and len ({len}) must be 512-byte aligned" "clear" offset
      (List.replicate len 0) tidy
    rw [List.length_replicate] at applied
    exact applied

/-- Loading pages one after another settles the cache. -/
theorem ensurePages_settled (pages : List Nat) (inside : ∀ page ∈ pages, page < geometry.numPages)
    (tidy : Tidy cache geometry world) :
    Settled cache geometry world (Action.forEach pages (fun page => do
      let _ ← cache.ensurePage page) world).2 := by
  induction pages generalizing world with
  | nil => exact .refl tidy
  | cons page rest ih =>
      have ensured := ensurePage_spec tidy (inside page List.mem_cons_self)
      simp only [Action.forEach_cons, Action.bind_apply]
      cases answer : cache.ensurePage page world with
      | mk outcome after =>
          rw [answer] at ensured
          obtain ⟨afterTidy, traces, _⟩ := ensured
          have settled := settled_of_upkeep afterTidy traces
          cases outcome with
          | error error => exact settled
          | ok len =>
              exact settled.trans (ih (fun other member => inside other (List.mem_cons_of_mem _ member))
                afterTidy)

/-- The pages of an accepted prefetch are pages of the device. -/
theorem prefetch_inside {offset len page : Nat} (accepted : Accepts geometry offset len)
    (member : page ∈ List.range' (offset / geometry.pageSize)
      ((offset + len + geometry.pageSize - 1) / geometry.pageSize - offset / geometry.pageSize)) :
    page < geometry.numPages := by
  obtain ⟨_, _, device⟩ := accepted
  have positive := geometry.pagePositive
  rw [List.mem_range'_1] at member
  rw [geometry.lt_numPages]
  have below : page < (offset + len + geometry.pageSize - 1) / geometry.pageSize := by omega
  rw [Nat.lt_iff_add_one_le, Nat.le_div_iff_mul_le positive, Nat.add_mul] at below
  omega

/-- A prefetch settles the cache, and a rejected one changes nothing. -/
theorem prefetch_spec (offset len : Nat) (tidy : Tidy cache geometry world) :
    Settled cache geometry world (cache.prefetch offset len world).2 ∧
      (len ≠ 0 → ¬ Accepts geometry offset len →
        ∃ error, cache.prefetch offset len world = (.error error, world)) := by
  rw [prefetch]
  split
  · rename_i empty
    exact ⟨.refl tidy, fun nonempty => absurd empty nonempty⟩
  · by_cases accepted : Accepts geometry offset len
    · rw [guard_accepts _ _ _ tidy accepted]
      refine ⟨ensurePages_settled _ ?_ tidy, fun _ refused => absurd accepted refused⟩
      intro page member
      rw [tidy.pageSize] at member
      exact prefetch_inside accepted member
    · obtain ⟨error, rejected⟩ := guard_rejects
        s!"prefetch: offset ({offset}) and len ({len}) must be 512-byte aligned" "prefetch"
        (Action.forEach (List.range' (offset / cache.pageSize)
          ((offset + len + cache.pageSize - 1) / cache.pageSize - offset / cache.pageSize))
          (fun page => do let _ ← cache.ensurePage page)) tidy accepted
      rw [rejected]
      exact ⟨.refl tidy, fun _ _ => ⟨error, rfl⟩⟩

/-- A warm-up task carries the geometry of its page, and bytes that repeat the inner store. -/
def WarmReady (geometry : Geometry) (view : View) (page : Nat) : WarmPhase → Prop
  | .checking => True
  | .fetching offset len => page < geometry.numPages ∧ offset = page * geometry.pageSize ∧
      len = geometry.pageLen page
  | .storing offset len data => page < geometry.numPages ∧ offset = page * geometry.pageSize ∧
      len = geometry.pageLen page ∧ data = slice view.inner offset len
  | .done _ => True

theorem warmOnePage_spec {page : Nat} {phase : WarmPhase} (tidy : Tidy cache geometry world)
    (ready : WarmReady geometry world.view page phase) :
    Tidy cache geometry (cache.warmOnePage page phase world).2 ∧
      Traces (Upkeep geometry) world (cache.warmOnePage page phase world).2 ∧
      WarmReady geometry (cache.warmOnePage page phase world).2.view page
        (cache.warmOnePage page phase world).1 := by
  cases phase with
  | checking =>
      have len : min cache.pageSize (world.state.devSize - page * cache.pageSize) =
          geometry.pageLen page := pageLen_eq tidy.toSound page
      simp only [warmOnePage, len]
      split
      · exact ⟨tidy, .refl _ _, trivial⟩
      · split
        · exact ⟨tidy, .refl _ _, trivial⟩
        · rename_i nonempty
          refine ⟨tidy, .refl _ _, ?_, by rw [tidy.pageSize], rfl⟩
          rw [geometry.lt_numPages]
          simp only [Geometry.pageLen] at nonempty
          omega
  | fetching offset len =>
      obtain ⟨inside, rfl, rfl⟩ := ready
      have fetched := fetch_spec page (page * geometry.pageSize)
        (geometry.pageLen page) s!"warm-up read page {page}" (fun got =>
          let len := geometry.pageLen page
          s!"inner backend returned {got} bytes for page {page} (expected {len})") tidy
      simp only [warmOnePage]
      cases answer : fetch page (page * geometry.pageSize) (geometry.pageLen page)
          s!"warm-up read page {page}" (fun got =>
            let len := geometry.pageLen page
            s!"inner backend returned {got} bytes for page {page} (expected {len})") world with
      | mk outcome after =>
          rw [answer] at fetched
          obtain ⟨afterTidy, traces, sameView, _, exact⟩ := fetched
          cases outcome with
          | error error => exact ⟨afterTidy, traces, trivial⟩
          | ok data =>
              refine ⟨afterTidy, traces, inside, rfl, rfl, ?_⟩
              rw [sameView]
              exact exact data rfl (geometry.page_start_aligned page) (geometry.pageLen_aligned page)
                (geometry.page_end_le inside)
  | storing offset len data =>
      obtain ⟨inside, rfl, rfl, fresh⟩ := ready
      simp only [warmOnePage]
      split
      · exact ⟨tidy, .refl _ _, trivial⟩
      · rename_i absent
        have stored := storeCleanPage_spec tidy inside (by simpa using absent) fresh
        rw [tidy.pageSize] at stored
        exact ⟨stored.1, stored.2.1, trivial⟩
  | done result => exact ⟨tidy, .refl _ _, trivial⟩

theorem WarmReady.mono {before after : View} {page : Nat} {phase : WarmPhase}
    (ready : WarmReady geometry before page phase) (same : after.inner = before.inner) :
    WarmReady geometry after page phase := by
  cases phase with
  | checking => trivial
  | fetching offset len => exact ready
  | storing offset len data =>
      simp only [WarmReady, same]
      exact ready
  | done result => trivial

theorem upkeep_inner {before after : World Inner} (traces : Traces (Upkeep geometry) before after) :
    after.view.inner = before.view.inner := by
  obtain ⟨_, _, trail⟩ := traces
  exact trail.invariant (fun view => view.inner = before.view.inner)
    (fun _ _ _ held step => step.frame.1.trans held) rfl

/-- A warm-up settles the cache, in whatever order its tasks run. -/
theorem warmup_settled {devSize limitBytes : Nat} (tidy : Tidy cache geometry world) :
    Settled cache geometry world (cache.warmup devSize limitBytes world).2 := by
  rw [warmup]
  dsimp only
  split
  · exact .refl tidy
  · obtain ⟨queriedTidy, queriedView⟩ := callInner_spec .dataRanges tidy
      (FlatStore.ranges_keep world.disk.inner)
    set queried := World.callInner .dataRanges BlobBackend.dataRanges world with queriedEq
    set scheduled := { queried.2 with clock := queried.2.clock + 1 }
    have quiet : Quiet queried.2 scheduled := ⟨rfl, rfl, rfl, rfl, rfl, rfl, rfl⟩
    have start : Settled cache geometry world scheduled := by
      refine ⟨tidy_of_quiet queriedTidy quiet rfl, Traces.trans ⟨_, ⟨rfl, rfl⟩, ?_⟩ (quiet.traces _)⟩
      rw [queriedView]
      exact Trail.single (.pushes (.query world.view _ _ (FlatStore.ranges_keep world.disk.inner).1
        ((FlatStore.ranges_keep world.disk.inner).2.trans tidy.innerSize)))
    refine (interleave_tasks cache.warmOnePage _ (Settled cache geometry world)
      (fun reached page phase => WarmReady geometry reached.view page phase)
      ?_ _ _ scheduled ?_ start ?_).1
    · intro key phase reached settled ready
      obtain ⟨movedTidy, traces, movedReady⟩ := warmOnePage_spec settled.tidy ready
      exact ⟨settled.trans (settled_of_upkeep movedTidy traces), movedReady,
        fun _ _ _ waiting => waiting.mono (upkeep_inner traces)⟩
    · rw [map_fst_tagged]
      exact List.nodup_range.filter _
    · intro page phase member
      obtain ⟨_, rfl⟩ := mem_tagged member
      trivial

end FileCacheBackend
end UblkAzblob

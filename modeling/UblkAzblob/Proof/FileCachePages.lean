import UblkAzblob.Proof.FileCacheTidy

namespace UblkAzblob
namespace FileCacheBackend
open Storage

variable {Inner : Type} [BlobBackend Inner] [FlatStore Inner]
variable {cache : FileCacheBackend} {geometry : Geometry} {world : World Inner}

theorem pageLen_eq (sound : Sound cache geometry world) (page : Nat) :
    cache.pageLen world.state page = geometry.pageLen page := by
  rw [pageLen, Geometry.pageLen, sound.pageSize, sound.devSize]

/-- A tidy cache stays tidy under a quiet change that keeps the eviction order. -/
theorem tidy_of_quiet {after : World Inner} (tidy : Tidy cache geometry world)
    (quiet : Quiet world after) (sameLru : after.state.lru = world.state.lru) :
    Tidy cache geometry after where
  toSound := quiet.sound tidy.toSound (by rw [sameLru]; exact tidy.lru)
  evictable page budgeted evictable := by
    rw [sameLru] at evictable
    rw [quiet.dirty]
    exact tidy.evictable page budgeted evictable
  resident := by
    rw [quiet.present, quiet.dirty]
    exact tidy.resident

/-- A correctly classified access keeps the cache tidy. -/
theorem touch_tidy {page : Nat} {clean : Bool} (sound : Sound cache geometry world)
    (inside : page < geometry.numPages)
    (classified : clean = true → bitGet world.state.dirty page = false)
    (others : ∀ other, other ≠ page → EvictableClean cache geometry world other)
    (resident : ∀ page, bitGet world.state.dirty page = true →
      bitGet world.state.present page = true) :
    Tidy cache geometry (world.touch page clean) where
  toSound := (touch_quiet world page clean).sound sound (Lru.touch_valid _ sound.lru page clean)
  evictable := touch_evictableClean world sound.lru _ inside classified others
  resident := resident

/-- An evicted page turns into a hole with a cleared present bit; a refused punch keeps it. -/
theorem evictPage_spec (budget : CacheBudget) {page : Nat} (tidy : Tidy cache geometry world)
    (inside : page < geometry.numPages) (clean : bitGet world.state.dirty page = false) :
    Tidy cache geometry (cache.evictPage budget page world).2 ∧
      Traces (Upkeep geometry) world (cache.evictPage budget page world).2 ∧
      ∀ other, other ≠ page → (cache.evictPage budget page world).2.view.present other =
        world.view.present other := by
  have len := pageLen_eq tidy.toSound page
  have positive := geometry.pageLen_pos inside
  have asked := ask_quiet world cache.host.punchFails
  have askedTidy := tidy_of_quiet tidy asked rfl
  simp only [evictPage, len, if_neg positive.ne', punchHole]
  by_cases refused : (world.ask cache.host.punchFails).1
  · simp only [if_pos refused, Bool.false_eq_true, if_false]
    have touched := touch_quiet (world.ask cache.host.punchFails).2 page true
    refine ⟨touch_tidy askedTidy.toSound inside (fun _ => clean) (fun other _ =>
      askedTidy.evictable other) askedTidy.resident, ?_, ?_⟩
    · exact (asked.traces _).trans (touched.traces _)
    · intro other _
      rfl
  · simp only [if_neg refused, if_true]
    set start := (world.ask cache.host.punchFails).2 with startEq
    set punched := start.issue (.evictClean page)
      (.data (.punch (page * cache.pageSize) (geometry.pageLen page))) with punchedEq
    have punchedSound : Sound cache geometry punched :=
      issueData_sound askedTidy.toSound _ _ askedTidy.dataLen
    set cleared := writePresentByte (.evictClean page) page (punched.setPresent page false) with clearedEq
    have clearedSound : Sound cache geometry cleared := markPresent_sound punchedSound _ false inside
    have clearedView := markPresent_view punchedSound (.evictClean page) false inside
    have quiet : Quiet cleared ((cleared.dropResident (geometry.pageLen page)).withLocked cache.host
        (budget.release (geometry.pageLen page))).2 := ⟨rfl, rfl, rfl, rfl, rfl, rfl, rfl⟩
    have viewEq : cleared.view = world.view.evict geometry page := by
      rw [clearedEq, clearedView, punchedEq, issueData_view, startEq, asked.view, tidy.pageSize]
      rfl
    have others : ∀ other, other ≠ page → cleared.view.present other = world.view.present other := by
      intro other different
      rw [viewEq]
      exact Function.update_of_ne different _ _
    refine ⟨⟨quiet.sound clearedSound clearedSound.lru, ?_, ?_⟩, ?_, others⟩
    · exact fun other budgeted evictable => tidy.evictable other budgeted evictable
    · intro other dirty
      have different : other ≠ page := by
        rintro rfl
        exact Bool.false_ne_true (clean.symm.trans dirty)
      exact (others other different).trans (tidy.resident other dirty)
    · refine Traces.trans ?_ (quiet.traces _)
      have step : Upkeep geometry _ (_ : List (Call Inner)) _ := .evict world.view page _ inside clean
        (by rw [← viewEq]; exact encodes_byteAt cleared.state.present page)
      rw [← viewEq] at step
      refine ⟨_, ⟨?_, ?_⟩, Trail.single step⟩
      · rw [← tidy.pageSize]
        simp only [clearedEq, punchedEq, startEq, writePresentByte, World.issue, World.setPresent,
          World.ask, presentByteCall, List.append_assoc, List.cons_append, List.nil_append]
      · rw [← tidy.pageSize]
        rfl

/-- A tended cache is tidy, went through upkeep only, and still holds its protected page. -/
structure Tended (cache : FileCacheBackend) (geometry : Geometry) (protect : Nat)
    (before after : World Inner) : Prop where
  tidy : Tidy cache geometry after
  traces : Traces (Upkeep geometry) before after
  kept : after.view.present protect = before.view.present protect

theorem evictLoop_tended (budget : CacheBudget) (budgeted : cache.budget.isSome) (protect : Nat)
    (fuel excess : Nat) (world : World Inner) (tidy : Tidy cache geometry world) :
    Tended cache geometry protect world
      (cache.evictLoop budget (some protect) fuel excess world) := by
  induction fuel generalizing excess world with
  | zero => exact ⟨tidy, .refl _ _, rfl⟩
  | succ fuel ih =>
      rw [evictLoop]
      by_cases enough : excess = 0
      · rw [if_pos enough]
        exact ⟨tidy, .refl _ _, rfl⟩
      rw [if_neg enough]
      cases victim : world.state.lru.popLru (some protect) with
      | mk found next =>
          cases found with
          | none => exact ⟨tidy, .refl _ _, rfl⟩
          | some page =>
              obtain ⟨candidate, unprotected, valid, remaining⟩ := Lru.popLru_spec tidy.lru victim
              obtain ⟨inside, clean⟩ := tidy.evictable page budgeted candidate
              set popped := { world with state := { world.state with lru := next } } with poppedEq
              have quiet : Quiet world popped := ⟨rfl, rfl, rfl, rfl, rfl, rfl, rfl⟩
              have poppedTidy : Tidy cache geometry popped := {
                toSound := quiet.sound tidy.toSound valid
                evictable := fun other budgeted evictable =>
                  tidy.evictable other budgeted ((remaining other).mp evictable).1
                resident := tidy.resident }
              obtain ⟨evictedTidy, trace, others⟩ :=
                evictPage_spec budget poppedTidy inside clean
              have kept := others protect (by rintro rfl; exact unprotected rfl)
              have evicted : Tended cache geometry protect world
                  (cache.evictPage budget page popped).2 :=
                ⟨evictedTidy, (quiet.traces _).trans trace, kept⟩
              dsimp only
              split
              · have rest := ih (excess - cache.pageLen world.state page) _ evicted.tidy
                exact ⟨rest.tidy, evicted.traces.trans rest.traces, rest.kept.trans evicted.kept⟩
              · exact evicted

theorem evictClean_tended (excess protect : Nat) (tidy : Tidy cache geometry world) :
    Tended cache geometry protect world (cache.evictClean excess (some protect) world) := by
  rw [evictClean]
  split
  · exact ⟨tidy, .refl _ _, rfl⟩
  · rename_i budget budgeted
    split
    · exact evictLoop_tended budget (by simp [budgeted]) protect _ excess world tidy
    · exact ⟨tidy, .refl _ _, rfl⟩

/-- Accounting a resident page only tends the cache. -/
theorem accountPresent_tended {page : Nat} (clean : Bool) (diskLen : Nat)
    (sound : Sound cache geometry world) (inside : page < geometry.numPages)
    (classified : clean = true → bitGet world.state.dirty page = false)
    (others : ∀ other, other ≠ page → EvictableClean cache geometry world other)
    (resident : ∀ page, bitGet world.state.dirty page = true →
      bitGet world.state.present page = true)
    (hole : diskLen = 0 → Tidy cache geometry world) :
    Tended cache geometry page world (cache.accountPresent page clean diskLen world) := by
  rw [accountPresent]
  split
  · rename_i unlimited
    refine ⟨⟨sound, ?_, resident⟩, .refl _ _, rfl⟩
    intro other budgeted
    simp [unlimited] at budgeted
  · rename_i budget budgeted
    split
    · rename_i empty
      exact ⟨hole empty, .refl _ _, rfl⟩
    · have touchedTidy := touch_tidy sound inside classified others resident
      have touchedQuiet := touch_quiet world page clean
      dsimp only
      split
      · exact ⟨touchedTidy, touchedQuiet.traces _, rfl⟩
      · have quiet : Quiet (world.touch page clean) (((world.touch page clean).addResident
            diskLen).withLocked cache.host (budget.admitBytes diskLen)).2 :=
          ⟨rfl, rfl, rfl, rfl, rfl, rfl, rfl⟩
        have admittedTidy := tidy_of_quiet touchedTidy quiet rfl
        have traces := (touchedQuiet.traces (Upkeep geometry)).trans (quiet.traces _)
        split
        · exact ⟨admittedTidy, traces, rfl⟩
        · have evicted := evictClean_tended (((world.touch page clean).addResident
            diskLen).withLocked cache.host (budget.admitBytes diskLen)).1 page admittedTidy
          exact ⟨evicted.tidy, traces.trans evicted.traces, evicted.kept⟩

omit [BlobBackend Inner] [FlatStore Inner] in
/-- The stored bytes reach the cache file as a write, or as a hole when they are all zero. -/
theorem storePageData_spec (cache : FileCacheBackend) (world : World Inner) (page offset : Nat) (data : List UInt8)
    (whole : data.length = cache.pageLen world.state page) :
    ∃ start op, Quiet world start ∧ start.state.lru = world.state.lru ∧
      (cache.storePageData page offset data world).2 =
        start.issue (.storeCleanPage page) (.data op) ∧
      (op = .write offset data ∨ (op = .punch offset data.length ∧ ∀ byte ∈ data, byte = 0)) := by
  have asked := ask_quiet world cache.host.punchFails
  simp only [storePageData, punchHole]
  by_cases zero : (data.all (· = 0) && cache.host.punchHoleSupported) = true
  · rw [if_pos zero]
    by_cases refused : (world.ask cache.host.punchFails).1
    · simp only [if_pos refused, Bool.false_eq_true, if_false]
      exact ⟨_, _, asked, rfl, rfl, .inl rfl⟩
    · simp only [if_neg refused, if_true]
      refine ⟨_, _, asked, rfl, rfl, .inr ⟨by rw [whole], ?_⟩⟩
      simpa using (Bool.and_eq_true_iff.mp zero).1
  · rw [if_neg zero]
    exact ⟨world, _, ⟨rfl, rfl, rfl, rfl, rfl, rfl, rfl⟩, rfl, rfl, .inl rfl⟩

/-- A fetched page that repeats the inner store becomes present and clean. -/
theorem storeCleanPage_spec {page : Nat} {data : List UInt8} (tidy : Tidy cache geometry world)
    (inside : page < geometry.numPages) (absent : bitGet world.state.present page = false)
    (fresh : data = slice world.view.inner (page * geometry.pageSize) (geometry.pageLen page)) :
    Tidy cache geometry (cache.storeCleanPage page (page * cache.pageSize) data world) ∧
      Traces (Upkeep geometry) world (cache.storeCleanPage page (page * cache.pageSize) data world) ∧
      (cache.storeCleanPage page (page * cache.pageSize) data world).view.present page = true := by
  have len := pageLen_eq tidy.toSound page
  have whole : data.length = geometry.pageLen page := by rw [fresh, length_slice]
  have clean : bitGet world.state.dirty page = false := by
    by_contra dirty
    rw [Bool.not_eq_false] at dirty
    exact Bool.false_ne_true (absent.symm.trans (tidy.resident page dirty))
  obtain ⟨start, op, quiet, sameLru, storedEq, stores⟩ :=
    storePageData_spec cache world page (page * cache.pageSize) data
      (whole.trans len.symm)
  have startTidy := tidy_of_quiet tidy quiet sameLru
  rw [storeCleanPage, storedEq]
  set stored := start.issue (.storeCleanPage page) (.data op) with storedDef
  have applied : (op.apply start.disk.data).len = geometry.devSize ∧
      (op.apply start.disk.data).bytes =
        splice start.disk.data.bytes (page * geometry.pageSize) data := by
    have fits := geometry.page_end_le inside
    rcases stores with rfl | ⟨rfl, zero⟩
    · simp only [FileOp.apply, startTidy.dataLen, tidy.pageSize, whole, and_true]
      omega
    · simp only [FileOp.apply, startTidy.dataLen, tidy.pageSize, true_and]
      rw [splice_all_zero _ _ _ zero]
  have storedSound : Sound cache geometry stored :=
    issueData_sound startTidy.toSound _ _ applied.1
  set marked := writePresentByte (.storeCleanPage page) page (stored.setPresent page true) with markedDef
  have markedSound : Sound cache geometry marked := markPresent_sound storedSound _ true inside
  have viewEq : marked.view = world.view.load geometry page data := by
    rw [markedDef, markPresent_view storedSound (.storeCleanPage page) true inside, storedDef,
      issueData_view, applied.2, ← quiet.view]
    rfl
  have sameDirty : marked.state.dirty = world.state.dirty := quiet.dirty
  have markedTidy : Tidy cache geometry marked := by
    refine ⟨markedSound, startTidy.evictable, ?_⟩
    intro other dirty
    rw [sameDirty] at dirty
    change marked.view.present other = true
    rw [viewEq]
    by_cases own : other = page
    · simp [View.load, own]
    · exact (Function.update_of_ne own _ _).trans (tidy.resident other dirty)
  have accounted := accountPresent_tended true (if (cache.storePageData page
    (page * cache.pageSize) data world).1 then 0 else cache.pageLen world.state page) markedSound inside (fun _ => by rw [sameDirty]; exact clean)
    (fun other _ => markedTidy.evictable other) markedTidy.resident (fun _ => markedTidy)
  refine ⟨accounted.tidy, Traces.trans ?_ accounted.traces, accounted.kept.trans ?_⟩
  · have step : Upkeep geometry _ (_ : List (Call Inner)) _ := .load world.view page data op _ inside
      absent fresh (by rw [← tidy.pageSize]; exact stores)
      (by rw [← viewEq]; exact encodes_byteAt marked.state.present page)
    rw [← viewEq] at step
    refine ⟨_, ⟨?_, ?_⟩, Trail.single step⟩
    · simp only [markedDef, storedDef, writePresentByte, World.issue, World.setPresent,
        presentByteCall, quiet.calls, List.append_assoc, List.cons_append, List.nil_append]
    · rw [← quiet.disk]
      rfl
  · rw [viewEq]
    simp [View.load]

/-- A call that keeps the contents of the inner store is invisible in the view. -/
theorem callInner_spec {Value : Type} (site : Site) {action : Action Inner Value}
    (tidy : Tidy cache geometry world)
    (keeps : FlatStore.content (action world.disk.inner).2 = FlatStore.content world.disk.inner ∧
      FlatStore.size (action world.disk.inner).2 = FlatStore.size world.disk.inner) :
    Tidy cache geometry (World.callInner site action world).2 ∧
      (World.callInner site action world).2.view = world.view := by
  constructor
  · exact { tidy with innerSize := keeps.2.trans tidy.innerSize }
  · simp only [World.callInner, World.issue, World.view, World.generation, Effect.apply, keeps.1]

/-- A fetch changes nothing, and what it returns is the requested range of the inner store. -/
theorem fetch_spec (page offset len : Nat) (context : String) (wrongLength : Nat → String)
    (tidy : Tidy cache geometry world) :
    Tidy cache geometry (fetch page offset len context wrongLength world).2 ∧
      Traces (Upkeep geometry) world (fetch page offset len context wrongLength world).2 ∧
      (fetch page offset len context wrongLength world).2.view = world.view ∧
      (fetch page offset len context wrongLength world).2.state = world.state ∧
      ∀ data, (fetch page offset len context wrongLength world).1 = .ok data →
        offset % 512 = 0 → len % 512 = 0 → offset + len ≤ geometry.devSize →
        data = slice world.view.inner offset len := by
  have keeps := FlatStore.read_keeps world.disk.inner offset len
  obtain ⟨calledTidy, calledView⟩ := callInner_spec (.fetch page) tidy keeps
  have unchanged : (fetch page offset len context wrongLength world).2 =
      (World.callInner (.fetch page) (BlobBackend.read offset len) world).2 := by
    simp only [fetch, Action.bind_apply, Action.withContext]
    cases answer : World.callInner (.fetch page) (BlobBackend.read offset len) world with
    | mk result after =>
        cases result with
        | error error => rfl
        | ok data =>
            simp only [Action.ensure_apply]
            by_cases exact : data.length = len <;> simp [exact]
  rw [unchanged]
  refine ⟨calledTidy, ⟨_, issue_issues _ _ _, ?_⟩, calledView, rfl, ?_⟩
  · rw [calledView]
    exact Trail.single (.fetch world.view page _ keeps.1 (keeps.2.trans tidy.innerSize))
  · intro data success offsetAligned lenAligned fits
    refine FlatStore.read_exact world.disk.inner offset len data offsetAligned lenAligned ?_ ?_
    · rw [tidy.innerSize]
      exact fits
    · simp only [fetch, Action.bind_apply, Action.withContext, World.callInner] at success
      cases answer : (BlobBackend.read offset len world.disk.inner).1 with
      | error error => simp [answer] at success
      | ok bytes =>
          simp only [answer, Action.ensure_apply] at success
          by_cases exact : bytes.length = len
          · simpa [exact] using success
          · simp [exact] at success

/-- Ensuring a page only tends the cache, and on success the page is present. -/
theorem ensurePage_spec {page : Nat} (tidy : Tidy cache geometry world)
    (inside : page < geometry.numPages) :
    Tidy cache geometry (cache.ensurePage page world).2 ∧
      Traces (Upkeep geometry) world (cache.ensurePage page world).2 ∧
      ∀ len, (cache.ensurePage page world).1 = .ok len →
        (cache.ensurePage page world).2.view.present page = true := by
  have len : min cache.pageSize (world.state.devSize - page * cache.pageSize) =
      geometry.pageLen page := pageLen_eq tidy.toSound page
  simp only [ensurePage, len]
  by_cases present : bitGet world.state.present page
  · rw [if_pos present]
    exact ⟨tidy, .refl _ _, fun _ _ => present⟩
  rw [if_neg present]
  have fetched := fetch_spec page (page * cache.pageSize)
    (geometry.pageLen page) s!"load page {page} from inner backend" (fun got =>
      let pageLen := geometry.pageLen page
      s!"inner backend returned {got} bytes for page {page} (expected {pageLen})") tidy
  simp only [Action.bind_apply]
  cases answer : fetch page (page * cache.pageSize) (geometry.pageLen page)
      s!"load page {page} from inner backend" (fun got =>
        let pageLen := geometry.pageLen page
        s!"inner backend returned {got} bytes for page {page} (expected {pageLen})") world with
  | mk result after =>
      rw [answer] at fetched
      obtain ⟨afterTidy, afterTraces, afterView, afterState, exact⟩ := fetched
      cases result with
      | error error => exact ⟨afterTidy, afterTraces, by simp⟩
      | ok data =>
          have fresh := exact data rfl (by rw [tidy.pageSize]; exact geometry.page_start_aligned page)
            (geometry.pageLen_aligned page)
            (by rw [tidy.pageSize]; exact geometry.page_end_le inside)
          rw [← afterView, tidy.pageSize] at fresh
          obtain ⟨storedTidy, storedTraces, stored⟩ := storeCleanPage_spec afterTidy inside
            (by rw [afterState]; simpa using present) fresh
          exact ⟨storedTidy, afterTraces.trans storedTraces, fun _ _ => stored⟩

/-- A bitmap change is local when it stays in the byte and the bit of one page. -/
structure LocalChange (page : Nat) (before after : List UInt8) : Prop where
  length : after.length = before.length
  bytes : ∀ index, index ≠ page / 8 → byteAt after index = byteAt before index
  bits : ∀ other, other ≠ page → bitGet after other = bitGet before other

theorem localChange_refl (page : Nat) (bitmap : List UInt8) : LocalChange page bitmap bitmap :=
  ⟨rfl, fun _ _ => rfl, fun _ _ => rfl⟩

theorem localChange_bitSet {page : Nat} {bitmap : List UInt8} (value : Bool)
    (inside : page / 8 < bitmap.length) : LocalChange page bitmap (bitSet bitmap page value) where
  length := length_bitSet _ _ _
  bytes _ different := byteAt_bitSet_other _ _ _ _ inside different
  bits other different := by rw [bitGet_bitSet _ _ _ _ inside, if_neg different]

theorem LocalChange.inside {page bound : Nat} {before after : List UInt8}
    (change : LocalChange page before after) (pageInside : page < bound)
    (inside : ∀ other, bitGet before other = true → other < bound) :
    ∀ other, bitGet after other = true → other < bound := by
  intro other set
  by_cases own : other = page
  · rw [own]
    exact pageInside
  · exact inside other (by rw [← change.bits other own]; exact set)

/-- A marked world differs from a sound one in the bits and the generation of one page. -/
structure Marks (page : Nat) (before after : World Inner) : Prop where
  disk : after.disk = before.disk
  devSize : after.state.devSize = before.state.devSize
  numPages : after.state.numPages = before.state.numPages
  lru : after.state.lru = before.state.lru
  generations : after.state.dirtyGen.length = before.state.dirtyGen.length
  present : LocalChange page before.state.present after.state.present
  dirty : LocalChange page before.state.dirty after.state.dirty

/-- Persisting the marked page makes the metadata repeat the bitmaps again. -/
theorem persistMetaBit_sound {page : Nat} {marked : World Inner} (sound : Sound cache geometry world)
    (inside : page < geometry.numPages) (marks : Marks page world marked) :
    Sound cache geometry (persistMetaBit page marked) where
  pageSize := sound.pageSize
  devSize := marks.devSize.trans sound.devSize
  numPages := marks.numPages.trans sound.numPages
  presentLen := marks.present.length.trans sound.presentLen
  dirtyLen := marks.dirty.length.trans sound.dirtyLen
  generations := marks.generations.trans sound.generations
  dataLen := by
    change marked.disk.data.len = _
    rw [marks.disk, sound.dataLen]
  innerSize := by
    change FlatStore.size marked.disk.inner = _
    rw [marks.disk, sound.innerSize]
  presentInside := marks.present.inside inside sound.presentInside
  dirtyInside := marks.dirty.inside inside sound.dirtyInside
  lru := by
    change marked.state.lru.Valid
    rw [marks.lru]
    exact sound.lru
  mirror := by
    have byteInside := geometry.byte_lt_bitmapLen inside
    have first := sound.mirror.writePresent _ byteInside marks.present.bytes
    have second := first.writeDirty _ byteInside marks.dirty.bytes
    rw [← marks.disk] at second
    change Mirrors geometry marked.state.present marked.state.dirty _
    have offset : bitmapBytes marked.state.numPages = geometry.bitmapLen := by
      rw [marks.numPages, sound.numPages, Geometry.bitmapLen]
    simp only [persistMetaBit, writePresentByte, World.issue, Effect.apply, offset]
    exact second

theorem persistMetaBit_view (page : Nat) (world : World Inner) :
    (persistMetaBit page world).view = world.view := rfl

omit [BlobBackend Inner] [FlatStore Inner] in
theorem persistMetaBit_issues (page : Nat) (world : World Inner)
    (numPages : world.state.numPages = geometry.numPages) :
    Issues world [presentByteCall (.persistPresent page) page (byteAt world.state.present (page / 8)),
        dirtyByteCall geometry page (byteAt world.state.dirty (page / 8)),
        ⟨.persistSync page, .metadata .sync⟩] (persistMetaBit page world) := by
  constructor
  · simp [persistMetaBit, writePresentByte, World.issue, presentByteCall, dirtyByteCall,
      Geometry.bitmapLen, numPages]
  · simp [persistMetaBit, writePresentByte, World.issue, presentByteCall, dirtyByteCall,
      Geometry.bitmapLen, numPages]

/-- The dirtied region is one dirtying step, followed by upkeep for the budget. -/
theorem dirtyPageRegion_spec {page pageOffset : Nat} {payload : List UInt8}
    (tidy : Tidy cache geometry world) (inside : page < geometry.numPages)
    (ready : world.view.present page = true ∨
      (pageOffset = 0 ∧ payload.length = geometry.pageLen page))
    (fits : pageOffset + payload.length ≤ geometry.pageLen page) :
    Tidy cache geometry (cache.dirtyPageRegion page pageOffset payload world) ∧
      ∃ middle calls rest,
        Issues world (calls ++ rest) (cache.dirtyPageRegion page pageOffset payload world) ∧
        Dirties geometry page pageOffset payload world.view calls middle ∧
        Trail (Upkeep geometry) middle rest
          (cache.dirtyPageRegion page pageOffset payload world).view := by
  have within := geometry.page_end_le inside
  rw [dirtyPageRegion]
  set written := world.issue (.dirtyPageRegion page)
    (.data (.write (page * cache.pageSize + pageOffset) payload)) with writtenEq
  set synced := written.issue (.dirtyPageRegion page) (.data .sync) with syncedEq
  set marked := ((synced.setPresent page true).setDirty page true).bumpGeneration page with markedEq
  have syncedSound : Sound cache geometry synced := by
    refine { tidy.toSound with dataLen := ?_ }
    change max world.disk.data.len (page * cache.pageSize + pageOffset + payload.length) = _
    rw [tidy.dataLen, tidy.pageSize]
    omega
  have byteInside := geometry.byte_lt_bitmapLen inside
  have presentByte : page / 8 < world.state.present.length := by rw [tidy.presentLen]; exact byteInside
  have dirtyByte : page / 8 < world.state.dirty.length := by rw [tidy.dirtyLen]; exact byteInside
  have marks : Marks page synced marked := {
    disk := rfl
    devSize := rfl
    numPages := rfl
    lru := rfl
    generations := by simp [markedEq, World.bumpGeneration, World.setPresent, World.setDirty]
    present := localChange_bitSet true presentByte
    dirty := localChange_bitSet true dirtyByte }
  have sound := persistMetaBit_sound syncedSound inside marks
  have viewEq : marked.view = world.view.overwritten geometry page pageOffset payload := by
    have inGenerations : page < world.state.dirtyGen.length := by rw [tidy.generations]; exact inside
    refine View.ext ?_ rfl (bitGet_bitSet_update _ _ _ presentByte)
      (bitGet_bitSet_update _ _ _ dirtyByte) ?_
    · change splice _ (page * cache.pageSize + pageOffset) payload = _
      rw [tidy.pageSize]
      rfl
    · funext other
      change (world.state.dirtyGen.modify page fun generation => (generation + 1) % 2 ^ 64).getD other 0 = _
      simp only [View.overwritten, Function.update_apply, World.view, World.generation,
        List.getD_eq_getElem?_getD, List.getElem?_modify]
      by_cases own : other = page
      · simp [own, inGenerations]
      · simp [own, Ne.symm own]
  have resident : ∀ other, bitGet marked.state.dirty other = true →
      bitGet marked.state.present other = true := by
    intro other dirty
    change marked.view.present other = true
    change marked.view.dirty other = true at dirty
    rw [viewEq] at dirty ⊢
    by_cases own : other = page
    · simp [View.overwritten, own]
    · simp only [View.overwritten, Function.update_of_ne own] at dirty ⊢
      exact tidy.resident other dirty
  have others : ∀ other, other ≠ page →
      EvictableClean cache geometry (persistMetaBit page marked) other := by
    intro other different budgeted evictable
    obtain ⟨otherInside, clean⟩ := tidy.evictable other budgeted evictable
    refine ⟨otherInside, ?_⟩
    rw [← clean]
    exact marks.dirty.bits other different
  have positive : cache.pageLen (persistMetaBit page marked).state page ≠ 0 := by
    rw [pageLen_eq sound]
    exact (geometry.pageLen_pos inside).ne'
  have accounted := accountPresent_tended false
    (cache.pageLen (persistMetaBit page marked).state page) sound inside (by simp) others
    resident (fun empty => absurd empty positive)
  obtain ⟨rest, issued, trail⟩ := accounted.traces
  rw [persistMetaBit_view, viewEq] at trail
  have step : Dirties geometry page pageOffset payload _ (_ : List (Call Inner)) _ :=
    .region world.view (byteAt marked.state.present (page / 8))
    (byteAt marked.state.dirty (page / 8)) inside ready fits
    (by rw [← viewEq]; exact encodes_byteAt _ _) (by rw [← viewEq]; exact encodes_byteAt _ _)
  refine ⟨accounted.tidy, _, _, rest, ?_, step, trail⟩
  refine Issues.trans ?_ issued
  have persisted := persistMetaBit_issues page marked tidy.numPages
  have dirtied : Issues world [⟨.dirtyPageRegion page,
      .data (.write (page * geometry.pageSize + pageOffset) payload)⟩,
      ⟨.dirtyPageRegion page, .data .sync⟩] marked := by
    rw [← tidy.pageSize]
    exact ⟨by simp [markedEq, syncedEq, writtenEq, World.issue, World.setPresent, World.setDirty,
      World.bumpGeneration], rfl⟩
  exact dirtied.trans persisted

end FileCacheBackend
end UblkAzblob

import UblkAzblob.Proof.FileCacheBeats
import UblkAzblob.Proof.FileCacheRefinement
import UblkAzblob.Proof.FileCacheRun

namespace UblkAzblob
namespace FileCacheBackend
open Storage

/-- Loading the metadata file would return these two bitmaps. -/
structure Recorded (pageSize devSize numPages : Nat) (present dirty : List UInt8) (metadata : File) :
    Prop where
  reusable : metaReusable pageSize devSize numPages metadata = true
  present : recordedPresent numPages metadata = present
  dirty : recordedDirty numPages metadata = dirty

section Recorded

variable {pageSize devSize numPages : Nat} {present dirty changed bytes : List UInt8} {metadata : File}

theorem recorded_lengths (recorded : Recorded pageSize devSize numPages present dirty metadata) :
    present.length = bitmapBytes numPages ∧ dirty.length = bitmapBytes numPages := by
  rw [← recorded.present, ← recorded.dirty]
  exact ⟨length_slice _ _ _, length_slice _ _ _⟩

/-- A write behind the header keeps the geometry of the file. -/
theorem metaReusable_write (reusable : metaReusable pageSize devSize numPages metadata = true) (index : Nat)
    (bytes : List UInt8) :
    metaReusable pageSize devSize numPages ((FileOp.write (headerSize + index) bytes).apply metadata) = true := by
  have kept (offset len : Nat) (fits : offset + len ≤ headerSize) :
      slice ((FileOp.write (headerSize + index) bytes).apply metadata).bytes offset len =
        slice metadata.bytes offset len := by
    apply slice_congr
    intro x _ below
    exact splice_outside (.inl (by omega))
  simp only [metaReusable, headerMatches, decide_eq_true_eq] at reusable ⊢
  rw [kept 0 8 (by decide), kept 8 4 (by decide), kept 16 8 (by decide), kept 24 8 (by decide)]
  refine ⟨?_, reusable.2⟩
  simp only [FileOp.apply]
  omega

/-- The bytes of a bitmap after a write of one of its bytes. -/
theorem slice_write_byte {offset len index : Nat} {bitmap : List UInt8} (store : Store)
    (before : slice store offset len = bitmap) (sameLength : changed.length = bitmap.length)
    (others : ∀ other, other ≠ index → byteAt changed other = byteAt bitmap other) :
    slice (splice store (offset + index) [byteAt changed index]) offset len = changed := by
  have length : bitmap.length = len := by rw [← before, length_slice]
  apply bytes_ext (by rw [length_slice, sameLength, length])
  intro other inside
  rw [length_slice] at inside
  rw [byteAt_slice, if_pos inside]
  by_cases own : other = index
  · rw [own, splice_inside (by omega) (by simp only [List.length_singleton]; omega)]
    simp [byteAt]
  · rw [splice_outside (by simp only [List.length_singleton]; omega), others other own, ← before,
      byteAt_slice, if_pos inside]

theorem Recorded.writePresent {index : Nat} (recorded : Recorded pageSize devSize numPages present dirty metadata)
    (inside : index < bitmapBytes numPages) (sameLength : changed.length = present.length)
    (others : ∀ other, other ≠ index → byteAt changed other = byteAt present other) :
    Recorded pageSize devSize numPages changed dirty
      ((FileOp.write (headerSize + index) [byteAt changed index]).apply metadata) where
  reusable := metaReusable_write recorded.reusable _ _
  present := slice_write_byte metadata.bytes recorded.present sameLength others
  dirty := by
    rw [← recorded.dirty]
    apply slice_congr
    intro x above _
    exact splice_outside (.inr (by simp only [List.length_singleton]; omega))

theorem Recorded.writeDirty {index : Nat} (recorded : Recorded pageSize devSize numPages present dirty metadata)
    (sameLength : changed.length = dirty.length)
    (others : ∀ other, other ≠ index → byteAt changed other = byteAt dirty other) :
    Recorded pageSize devSize numPages present changed
      ((FileOp.write (headerSize + bitmapBytes numPages + index) [byteAt changed index]).apply metadata) where
  reusable := by
    rw [Nat.add_assoc]
    exact metaReusable_write recorded.reusable _ _
  present := by
    rw [← recorded.present]
    apply slice_congr
    intro x _ below
    exact splice_outside (.inl (by omega))
  dirty := slice_write_byte metadata.bytes recorded.dirty sameLength others

/-- Rewriting the present bitmap as a whole records the new one. -/
theorem Recorded.rewritePresent (recorded : Recorded pageSize devSize numPages present dirty metadata)
    (length : changed.length = bitmapBytes numPages) :
    Recorded pageSize devSize numPages changed dirty ((FileOp.write headerSize changed).apply metadata) where
  reusable := metaReusable_write recorded.reusable 0 changed
  present := by
    apply bytes_ext (by rw [recordedPresent, length_slice, length])
    intro index inside
    rw [recordedPresent, length_slice] at inside
    rw [recordedPresent, byteAt_slice, if_pos inside]
    exact (splice_inside (by omega) (by omega)).trans (by rw [Nat.add_sub_cancel_left])
  dirty := by
    rw [← recorded.dirty]
    apply slice_congr
    intro x above _
    exact splice_outside (.inr (by omega))

/-- Bitmaps recorded for one geometry are not reused for another one. -/
theorem metaReusable_other {otherPage otherDevice otherPages : Nat}
    (reusable : metaReusable pageSize devSize numPages metadata = true)
    (different : ¬ (otherPage = pageSize ∧ otherDevice = devSize)) :
    metaReusable otherPage otherDevice otherPages metadata = false := by
  simp only [metaReusable, headerMatches, decide_eq_true_eq] at reusable
  obtain ⟨_, _, _, samePage, sameDevice⟩ := reusable
  simp only [metaReusable, headerMatches, decide_eq_true_eq, decide_eq_false_iff_not]
  rintro ⟨_, _, _, page, device⟩
  exact different ⟨page.symm.trans samePage, device.symm.trans sameDevice⟩

variable {Inner : Type}

theorem length_blankBitmap (numPages : Nat) : (blankBitmap numPages).length = bitmapBytes numPages :=
  List.length_replicate

theorem writeFullMeta_recorded (world : World Inner) (smallPage : pageSize < 2 ^ 64)
    (smallDevice : devSize < 2 ^ 64) (presentLen : present.length = bitmapBytes numPages)
    (dirtyLen : dirty.length = bitmapBytes numPages) :
    Recorded pageSize devSize numPages present dirty
      (writeFullMeta pageSize devSize numPages present dirty world).disk.metadata := by
  have headerLen : (header pageSize devSize numPages).length = headerSize := rfl
  simp only [writeFullMeta, World.issue, Effect.apply, FileOp.apply, headerLen, presentLen, dirtyLen]
  refine ⟨?_, ?_, ?_⟩
  · simp only [metaReusable, decide_eq_true_eq]
    refine ⟨by omega, headerMatches_header (?_ : _ = header pageSize devSize numPages) smallPage smallDevice⟩
    apply bytes_ext (by rw [length_slice, headerLen])
    intro index inside
    rw [length_slice] at inside
    dsimp only
    rw [byteAt_slice, if_pos inside, splice_outside (.inl (by omega)), splice_outside (.inl (by omega)),
      splice_inside (Nat.zero_le _) (by rw [headerLen]; omega)]
    simp
  · apply bytes_ext (by rw [recordedPresent, length_slice, presentLen])
    intro index inside
    rw [recordedPresent, length_slice] at inside
    rw [recordedPresent, byteAt_slice, if_pos inside]
    dsimp only
    rw [splice_outside (.inl (by omega)),
      splice_inside (by omega) (by omega), Nat.add_sub_cancel_left]
  · apply bytes_ext (by rw [recordedDirty, length_slice, dirtyLen])
    intro index inside
    rw [recordedDirty, length_slice] at inside
    rw [recordedDirty, byteAt_slice, if_pos inside]
    dsimp only
    rw [splice_inside (by omega) (by omega), Nat.add_sub_cancel_left]

/-- Recorded bitmaps are loaded as they are, with their dirty pages counted. -/
theorem loadOrInitMeta_recorded {world : World Inner}
    (recorded : Recorded pageSize devSize numPages present dirty world.disk.metadata) :
    loadOrInitMeta pageSize devSize numPages world =
      ((present, dirty, countPages numPages (bitGet dirty)), world) := by
  rw [loadOrInitMeta, if_pos recorded.reusable, ← recorded.present, ← recorded.dirty]
  rfl

/-- Whatever the file held, it records the bitmaps that were loaded from it. -/
theorem loadOrInitMeta_records (world : World Inner) (smallPage : pageSize < 2 ^ 64)
    (smallDevice : devSize < 2 ^ 64) :
    let loaded := loadOrInitMeta pageSize devSize numPages world
    Recorded pageSize devSize numPages loaded.1.1 loaded.1.2.1 loaded.2.disk.metadata := by
  simp only [loadOrInitMeta]
  split
  · rename_i reusable
    exact ⟨reusable, rfl, rfl⟩
  · exact writeFullMeta_recorded world smallPage smallDevice (length_blankBitmap _) (length_blankBitmap _)

/-- Validation keeps the file in step with the bitmap it returns. -/
theorem validateEtag_records {world : World Inner} (currentEtag : Option String)
    (recorded : Recorded pageSize devSize numPages present dirty world.disk.metadata) :
    let validated := validateEtag numPages currentEtag present dirty world
    Recorded pageSize devSize numPages validated.1 dirty validated.2.disk.metadata := by
  have bound : numPages ≤ 8 * present.length := by
    rw [(recorded_lengths recorded).1, bitmapBytes]
    omega
  have length := (bitGet_dropClean_step numPages present dirty bound).1.trans (recorded_lengths recorded).1
  cases currentEtag with
  | none => exact recorded
  | some current =>
      simp only [validateEtag]
      split
      · simp only [dropCleanPages]
        split
        · rename_i none
          change Recorded pageSize devSize numPages (dropClean numPages present dirty) dirty world.disk.metadata
          rw [dropClean_none none]
          exact recorded
        · exact recorded.rewritePresent length
      · exact recorded

end Recorded

section Mirrored

variable {Inner : Type} {cache : FileCacheBackend} {world : World Inner} {page : Nat}

/-- The metadata file records what memory holds, and only pages of the device can be evicted. -/
structure Mirrored (cache : FileCacheBackend) (world : World Inner) : Prop where
  shaped : cache.Shaped world.state
  recorded : Recorded cache.pageSize world.state.devSize world.state.numPages world.state.present
    world.state.dirty world.disk.metadata
  lru : world.state.lru.Valid
  tracked : ∀ page, world.state.lru.Evictable page → cache.Inside world.state page

theorem Mirrored.byte_lt (mirrored : Mirrored cache world) (inside : cache.Inside world.state page) :
    page / 8 < bitmapBytes world.state.numPages := by
  have below := (inside_iff mirrored.shaped page).mp inside
  rw [bitmapBytes]
  omega

/-- A quiet change keeps the mirror while only pages of the device can be evicted. -/
theorem Mirrored.quiet {after : World Inner} (mirrored : Mirrored cache world) (quiet : Quiet world after)
    (lru : after.state.lru.Valid)
    (tracked : ∀ page, after.state.lru.Evictable page → cache.Inside world.state page) : Mirrored cache after where
  shaped := by
    rw [Shaped, quiet.numPages, quiet.devSize]
    exact mirrored.shaped
  recorded := by
    rw [quiet.numPages, quiet.devSize, quiet.present, quiet.dirty, quiet.disk]
    exact mirrored.recorded
  lru := lru
  tracked page evictable := by
    rw [Inside, quiet.devSize]
    exact tracked page evictable

theorem Mirrored.touch (mirrored : Mirrored cache world) (inside : cache.Inside world.state page)
    (clean : Bool) : Mirrored cache (world.touch page clean) where
  shaped := mirrored.shaped
  recorded := mirrored.recorded
  lru := Lru.touch_valid _ mirrored.lru page clean
  tracked other evictable := by
    rw [World.touch, Lru.touch_evictable _ mirrored.lru] at evictable
    split at evictable
    · rename_i own
      rw [own]
      exact inside
    · exact mirrored.tracked other evictable

/-- Marking a page and writing its present byte keeps the mirror. -/
theorem Mirrored.markPresent (mirrored : Mirrored cache world) (inside : cache.Inside world.state page)
    (site : Site) (value : Bool) : Mirrored cache (writePresentByte site page (world.setPresent page value)) where
  shaped := mirrored.shaped
  recorded := mirrored.recorded.writePresent (mirrored.byte_lt inside) (length_bitSet _ _ _)
    fun _ different => byteAt_bitSet_other _ _ _ _
      (by rw [(recorded_lengths mirrored.recorded).1]; exact mirrored.byte_lt inside) different
  lru := mirrored.lru
  tracked := mirrored.tracked

theorem Mirrored.markDirty (mirrored : Mirrored cache world) (inside : cache.Inside world.state page)
    (site : Site) (value : Bool) :
    Mirrored cache ((world.setDirty page value).issue site (.metadata (.write (headerSize +
      bitmapBytes world.state.numPages + page / 8) [byteAt (bitSet world.state.dirty page value) (page / 8)]))) where
  shaped := mirrored.shaped
  recorded := mirrored.recorded.writeDirty (length_bitSet _ _ _)
    fun _ different => byteAt_bitSet_other _ _ _ _
      (by rw [(recorded_lengths mirrored.recorded).2]; exact mirrored.byte_lt inside) different
  lru := mirrored.lru
  tracked := mirrored.tracked

theorem evictPage_mirrored (budget : CacheBudget) (mirrored : Mirrored cache world)
    (inside : cache.Inside world.state page) : Mirrored cache (cache.evictPage budget page world).2 := by
  have punched : Mirrored cache (World.issue { world with clock := world.clock + 1 } (.evictClean page)
      (.data (.punch (page * cache.pageSize) (cache.pageLen world.state page)))) :=
    ⟨mirrored.shaped, mirrored.recorded, mirrored.lru, mirrored.tracked⟩
  have cleared := punched.markPresent inside (.evictClean page) false
  have touched := mirrored.touch inside true
  rcases evictPage_cases budget world inside with refused | evicted
  · rw [refused]
    exact ⟨touched.shaped, touched.recorded, touched.lru, touched.tracked⟩
  · rw [evicted]
    exact ⟨cleared.shaped, cleared.recorded, cleared.lru, cleared.tracked⟩

theorem evictLoop_mirrored (budget : CacheBudget) (protect : Option Nat) (fuel excess : Nat)
    (mirrored : Mirrored cache world) : Mirrored cache (cache.evictLoop budget protect fuel excess world) := by
  induction fuel generalizing excess world with
  | zero => exact mirrored
  | succ fuel ih =>
      unfold evictLoop
      split
      · exact mirrored
      · cases victim : world.state.lru.popLru protect with
        | mk found lru =>
            cases found with
            | none => exact mirrored
            | some page =>
                obtain ⟨candidate, _, valid, remaining⟩ := Lru.popLru_spec mirrored.lru victim
                have popped : Mirrored cache { world with state := { world.state with lru } } :=
                  ⟨mirrored.shaped, mirrored.recorded, valid, fun other evictable =>
                    mirrored.tracked other ((remaining other).mp evictable).1⟩
                have evicted := evictPage_mirrored budget popped (mirrored.tracked page candidate)
                dsimp only
                split
                · exact ih _ evicted
                · exact evicted

theorem accountPresent_mirrored (clean : Bool) (diskLen : Nat) (mirrored : Mirrored cache world)
    (inside : cache.Inside world.state page) :
    Mirrored cache (cache.accountPresent page clean diskLen world) := by
  unfold accountPresent
  cases cache.budget with
  | none => exact mirrored
  | some budget =>
      dsimp only
      have touched := mirrored.touch inside clean
      split
      · exact mirrored
      · split
        · exact touched
        · split
          · exact ⟨touched.shaped, touched.recorded, touched.lru, touched.tracked⟩
          · unfold evictClean
            split
            · exact ⟨touched.shaped, touched.recorded, touched.lru, touched.tracked⟩
            · split
              · exact evictLoop_mirrored _ _ _ _ ⟨touched.shaped, touched.recorded, touched.lru, touched.tracked⟩
              · exact ⟨touched.shaped, touched.recorded, touched.lru, touched.tracked⟩

theorem storeCleanPage_mirrored (offset : Nat) (data : List UInt8) (mirrored : Mirrored cache world)
    (inside : cache.Inside world.state page) :
    Mirrored cache (cache.storeCleanPage page offset data world) := by
  have stored : Mirrored cache (cache.storePageData page offset data world).2 := by
    unfold storePageData punchHole
    dsimp only
    split
    · split
      · exact ⟨mirrored.shaped, mirrored.recorded, mirrored.lru, mirrored.tracked⟩
      · exact ⟨mirrored.shaped, mirrored.recorded, mirrored.lru, mirrored.tracked⟩
    · exact ⟨mirrored.shaped, mirrored.recorded, mirrored.lru, mirrored.tracked⟩
  have stays : cache.Inside (cache.storePageData page offset data world).2.state page := by
    rw [Inside, (storePageData_local cache world page offset data).shape.1]
    exact inside
  exact accountPresent_mirrored _ _ (stored.markPresent stays _ true) stays

/-- Every beat of an operation keeps the metadata file in step with memory. -/
theorem Beat.mirrored [BlobBackend Inner] {flushing : Bool} {after : World Inner}
    (beat : Beat cache flushing world after) (mirrored : Mirrored cache world) :
    Mirrored cache after := by
  cases beat with
  | query site after queried => exact ⟨mirrored.shaped, mirrored.recorded, mirrored.lru, mirrored.tracked⟩
  | tick => exact ⟨mirrored.shaped, mirrored.recorded, mirrored.lru, mirrored.tracked⟩
  | upload page offset bytes live => exact ⟨mirrored.shaped, mirrored.recorded, mirrored.lru, mirrored.tracked⟩
  | token text live fresh => exact ⟨mirrored.shaped, mirrored.recorded, mirrored.lru, mirrored.tracked⟩
  | store page data inside absent whole => exact storeCleanPage_mirrored _ _ mirrored inside
  | dirty page pageOffset payload inside some fits =>
      unfold dirtyPageRegion
      dsimp only
      refine accountPresent_mirrored _ _ ?_ inside
      have marked := (mirrored.markPresent inside (.persistPresent page) true).markDirty inside
        (.persistDirty page) true
      exact ⟨marked.shaped, marked.recorded, marked.lru, marked.tracked⟩
  | clean page live inside dirty =>
      have persisted : Mirrored cache (persistMetaBit page (world.setDirty page false)) := by
        have same : Recorded cache.pageSize world.state.devSize world.state.numPages world.state.present
            world.state.dirty (FileOp.apply (.write (headerSize + page / 8)
              [byteAt world.state.present (page / 8)]) world.disk.metadata) :=
          mirrored.recorded.writePresent (mirrored.byte_lt inside) rfl fun _ _ => rfl
        have written : Mirrored cache (writePresentByte (.persistPresent page) page world) :=
          ⟨mirrored.shaped, same, mirrored.lru, mirrored.tracked⟩
        have marked := written.markDirty inside (.persistDirty page) false
        exact ⟨marked.shaped, marked.recorded, marked.lru, marked.tracked⟩
      unfold cleaned
      dsimp only
      split
      · exact persisted.touch inside true
      · exact persisted

theorem Glance.mirrored [BlobBackend Inner] {names : Nat → Prop} {after : World Inner} (glance : Glance cache names world after)
    (mirrored : Mirrored cache world) : Mirrored cache after := by
  cases glance with
  | query site after queried => exact ⟨mirrored.shaped, mirrored.recorded, mirrored.lru, mirrored.tracked⟩
  | hit page named inside present budgeted => exact mirrored.touch inside _

end Mirrored

section Run

variable {Inner : Type} {cache : FileCacheBackend} {world : World Inner}

/-- A new device starts with a blank mirror. -/
theorem reinit_mirrored {size : Nat} (smallDevice : size < 2 ^ 64) (smallPage : cache.pageSize < 2 ^ 64)
    (world : World Inner) : Mirrored cache (cache.reinit size world) := by
  unfold reinit
  dsimp only
  set sized := World.issue world .create (.data (.setLen size))
  set start : World Inner := { sized with state := ⟨size, (size + cache.pageSize - 1) / cache.pageSize,
    blankBitmap ((size + cache.pageSize - 1) / cache.pageSize),
    blankBitmap ((size + cache.pageSize - 1) / cache.pageSize),
    List.replicate ((size + cache.pageSize - 1) / cache.pageSize) 0, 0, .empty⟩ }
  have recorded := writeFullMeta_recorded start smallPage smallDevice
    (length_blankBitmap ((size + cache.pageSize - 1) / cache.pageSize)) (length_blankBitmap _)
  have blank : ∀ page, Lru.empty.Evictable page → cache.Inside start.state page :=
    fun page evictable => absurd evictable (Lru.empty_evictable page)
  cases cache.budget with
  | none => exact ⟨rfl, recorded, Lru.empty_valid, blank⟩
  | some budget => exact ⟨rfl, recorded, Lru.empty_valid, blank⟩

/-- Every operation keeps the metadata file in step with memory. -/
theorem operate_mirrored [BlobBackend Inner] (operation : Operation) (smallPage : cache.pageSize < 2 ^ 64)
    (mirrored : Mirrored cache world) : Mirrored cache (cache.operate operation world) := by
  cases operation with
  | serve request =>
      cases request with
      | read offset len =>
          exact (read_glances offset len).invariant (fun _ _ glance => glance.mirrored) mirrored
      | _ =>
          exact (perform_beats mirrored.shaped (by simp) (.inl rfl)).invariant (fun _ _ beat => beat.mirrored)
            mirrored
  | create size =>
      refine Action.keeps_bind (Action.keeps_ensure _ _) (fun _ _ _ kept _ => ?_) world mirrored
      refine Action.keeps_bind (fun before held => ?_) (fun _ _ after _ _ => ?_) _ kept
      · exact ⟨held.shaped, held.recorded, held.lru, held.tracked⟩
      · exact reinit_mirrored size.toNat_lt smallPage after

theorem run_mirrored [BlobBackend Inner] (operations : List Operation) (smallPage : cache.pageSize < 2 ^ 64)
    (mirrored : Mirrored cache world) : Mirrored cache (cache.run operations world) := by
  induction operations generalizing world with
  | nil => exact mirrored
  | cons operation rest ih => exact ih (operate_mirrored operation smallPage mirrored)

/-- Seeding the recency order tracks only the visited pages. -/
theorem seedLru_tracked {pages : List Nat} {Tracked : Nat → Prop} (visited : ∀ page ∈ pages, Tracked page)
    (valid : world.state.lru.Valid) (tracked : ∀ page, world.state.lru.Evictable page → Tracked page) :
    (cache.seedLru pages world).state.lru.Valid ∧
      ∀ page, (cache.seedLru pages world).state.lru.Evictable page → Tracked page := by
  induction pages generalizing world with
  | nil => exact ⟨valid, tracked⟩
  | cons page rest ih =>
      have later : ∀ page ∈ rest, Tracked page := fun other member => visited other (List.mem_cons_of_mem _ member)
      rw [seedLru]
      split
      · set hole := if (!bitGet world.state.dirty page) = true
          then world.ask cache.host.regionIsHole else (false, world) with holeEq
        have sameState : hole.2.state = world.state := by
          rw [holeEq]
          split <;> rfl
        dsimp only
        rw [← holeEq]
        split
        · exact ih later (by rw [sameState]; exact valid) (by rw [sameState]; exact tracked)
        · refine ih later ?_ fun other evictable => ?_
          · change (hole.2.state.lru.touch page _).Valid
            rw [sameState]
            exact Lru.touch_valid _ valid _ _
          · change (hole.2.state.lru.touch page _).Evictable other at evictable
            rw [sameState, Lru.touch_evictable _ valid] at evictable
            split at evictable
            · rename_i own
              rw [own]
              exact visited page List.mem_cons_self
            · exact tracked other evictable
      · exact ih later valid tracked

section Reopen

variable {cfg : FileCacheConfig} {host : Host} {devSize : Nat} {currentEtag : Option String}
variable {disk : Disk Inner} {budgetFile : List Entry} {clock recovered : Nat}

/-- An opened cache holds what its metadata file records. -/
theorem openCache_mirrored (smallPage : cfg.pageSize < 2 ^ 64) (smallDevice : devSize < 2 ^ 64)
    (opened : openCache cfg host devSize currentEtag disk budgetFile clock = .ok (cache, world, recovered)) :
    Mirrored cache world := by
  obtain ⟨registered, quiet, empty, _, samePage, _, _, _, final⟩ := openCache_cases opened
  obtain ⟨sameSize, samePages⟩ : registered.state.devSize = devSize ∧
      registered.state.numPages = (devSize + cfg.pageSize - 1) / cfg.pageSize := by
    obtain ⟨size, pages, _⟩ := validatedWorld_shape cfg.pageSize devSize currentEtag disk budgetFile clock
    exact ⟨quiet.devSize.trans size, quiet.numPages.trans pages⟩
  have start : Mirrored cache registered := {
    shaped := by rw [Shaped, samePages, sameSize, samePage]
    recorded := by
      rw [samePages, sameSize, samePage, quiet.present, quiet.dirty, quiet.disk]
      exact validateEtag_records currentEtag (loadOrInitMeta_records _ smallPage smallDevice)
    lru := by
      rw [empty]
      exact Lru.empty_valid
    tracked := fun page evictable => by
      rw [empty] at evictable
      exact absurd evictable (Lru.empty_evictable page) }
  rcases final with ⟨_, rfl⟩ | ⟨budget, _, _, _, rfl⟩
  · exact start
  · have visited (page : Nat) (member : page ∈ List.range ((devSize + cfg.pageSize - 1) / cfg.pageSize)) :
        cache.Inside registered.state page := by
      rw [inside_iff start.shaped, samePages]
      exact List.mem_range.mp member
    obtain ⟨lru, tracked⟩ := seedLru_tracked visited start.lru start.tracked
    exact start.quiet ((seedLru_quiet cache _ registered).trans (withLocked_quiet _ _ _)) lru tracked

/-- A cache reopened over recorded bitmaps has them again, less the clean pages it does not trust. -/
theorem openCache_recovers {present dirty : List UInt8}
    (recorded : Recorded cfg.pageSize devSize ((devSize + cfg.pageSize - 1) / cfg.pageSize) present dirty
      disk.metadata)
    (opened : openCache cfg host devSize currentEtag disk budgetFile clock = .ok (cache, world, recovered)) :
    world.state.dirty = dirty ∧
      recovered = countPages ((devSize + cfg.pageSize - 1) / cfg.pageSize) (bitGet dirty) ∧
      (trusted currentEtag disk.etag = true → world.state.present = present) := by
  have loaded : loadOrInitMeta cfg.pageSize devSize _ (sizedWorld cfg.pageSize devSize disk budgetFile clock) = _ :=
    loadOrInitMeta_recorded recorded
  obtain ⟨_, _, _, _, _, _, _, counted, _⟩ := openCache_cases opened
  obtain ⟨quiet, _⟩ := openCache_quiet opened
  rw [loaded] at counted
  rw [quiet.dirty, quiet.present, validatedWorld, loaded]
  refine ⟨rfl, counted, fun isTrusted => ?_⟩
  cases currentEtag with
  | none => rfl
  | some current =>
      have same : readRecordedEtag disk.etag = some current := by simpa [trusted] using isTrusted
      have same : readRecordedEtag (sizedWorld cfg.pageSize devSize disk budgetFile clock).disk.etag =
        some current := same
      simp only [validateEtag, same, ne_eq, not_true_eq_false, if_false]

/-- A cache opened with another geometry starts with blank bitmaps. -/
theorem openCache_forgets
    (foreign : metaReusable cfg.pageSize devSize ((devSize + cfg.pageSize - 1) / cfg.pageSize)
      disk.metadata = false)
    (opened : openCache cfg host devSize currentEtag disk budgetFile clock = .ok (cache, world, recovered)) :
    world.state.present = blankBitmap world.state.numPages ∧
      world.state.dirty = blankBitmap world.state.numPages ∧ recovered = 0 := by
  have loaded : loadOrInitMeta cfg.pageSize devSize _ (sizedWorld cfg.pageSize devSize disk budgetFile clock) = _ :=
    loadOrInitMeta_fresh foreign
  obtain ⟨_, _, _, _, _, _, _, counted, _⟩ := openCache_cases opened
  obtain ⟨quiet, _⟩ := openCache_quiet opened
  rw [loaded] at counted
  rw [quiet.numPages, (validatedWorld_shape _ _ _ _ _ _).2.1, quiet.dirty, quiet.present, validatedWorld, loaded]
  refine ⟨?_, rfl, counted⟩
  have kept (dirty : List UInt8) :=
    dropClean_none (countPages_blank ((devSize + cfg.pageSize - 1) / cfg.pageSize) dirty)
  cases currentEtag with
  | none => rfl
  | some current =>
      simp only [validateEtag, dropCleanPages]
      split
      · split
        · exact kept _
        · exact kept _
      · rfl

end Reopen

/-- In every run the metadata file, loaded again, gives the bitmaps in memory, and no other geometry does. -/
theorem metadata_mirrors_memory [BlobBackend Inner] (cfg : FileCacheConfig) {host : Host} (devSize : UInt64)
    {currentEtag : Option String} {disk : Disk Inner} {budgetFile : List Entry} {clock recovered : Nat}
    (smallPage : cfg.pageSize < 2 ^ 64)
    (opened : openCache cfg host devSize.toNat currentEtag disk budgetFile clock = .ok (cache, world, recovered))
    (operations : List Operation) :
    let final := cache.run operations world
    let state := final.state
    let count := countPages state.numPages (bitGet state.dirty)
    metaReusable cache.pageSize state.devSize state.numPages final.disk.metadata = true ∧
      loadOrInitMeta cache.pageSize state.devSize state.numPages final =
        ((state.present, state.dirty, count), final) ∧
      (∀ pageSize otherSize numPages, ¬ (pageSize = cache.pageSize ∧ otherSize = state.devSize) →
        (loadOrInitMeta pageSize otherSize numPages final).1 = (blankBitmap numPages, blankBitmap numPages, 0)) ∧
      ∀ (other : FileCacheConfig) nextHost otherSize etag entries now reopened next found,
        openCache other nextHost otherSize etag final.disk entries now = .ok (reopened, next, found) →
        if other.pageSize = cache.pageSize ∧ otherSize = state.devSize then
          next.state.dirty = state.dirty ∧ found = count ∧
            (trusted etag final.disk.etag = true → next.state.present = state.present)
        else next.state.present = blankBitmap next.state.numPages ∧
          next.state.dirty = blankBitmap next.state.numPages ∧ found = 0 := by
  intro final state count
  have samePage := (openCache_quiet opened).2
  have mirrored := run_mirrored operations (by rw [samePage]; exact smallPage)
    (openCache_mirrored smallPage devSize.toNat_lt opened)
  have recorded := mirrored.recorded
  refine ⟨recorded.reusable, loadOrInitMeta_recorded recorded, ?_, ?_⟩
  · intro pageSize otherSize numPages different
    rw [loadOrInitMeta_fresh (metaReusable_other recorded.reusable different)]
  · intro other nextHost otherSize etag entries now reopened next found again
    split
    · rename_i same
      obtain ⟨samePage, rfl⟩ := same
      have pages : (state.devSize + other.pageSize - 1) / other.pageSize = state.numPages := by
        rw [samePage]
        exact mirrored.shaped.symm
      have recovers := openCache_recovers (by rw [samePage, ← mirrored.shaped]; exact recorded) again
      rw [pages] at recovers
      exact recovers
    · rename_i different
      exact openCache_forgets (metaReusable_other recorded.reusable different) again

/-- The second page of this device is short, and the run replaces the device in the end. -/
theorem metadata_mirrors_memory_short_page :
    ∃ cache world recovered, openCache ⟨"cache", 512, 512⟩ calmHost 1000 none (blankDisk 1024) [] 0 =
        .ok (cache, world, recovered) ∧
      let final := cache.run [.serve (.write 0 (List.replicate 512 7)), .serve .flush, .create 2048] world
      loadOrInitMeta cache.pageSize final.state.devSize final.state.numPages final =
        ((final.state.present, final.state.dirty, countPages final.state.numPages (bitGet final.state.dirty)),
          final) :=
  ⟨_, _, _, rfl, (metadata_mirrors_memory ⟨"cache", 512, 512⟩ 1000 (by decide) rfl _).2.1⟩

end Run
end FileCacheBackend
end UblkAzblob

import UblkAzblob.Proof.FileCacheFlush

namespace UblkAzblob
namespace FileCacheBackend
open Storage

/-- The two bitmaps have the length of the geometry and set no bit beyond it. -/
structure Bitmaps (geometry : Geometry) (present dirty : List UInt8) : Prop where
  presentLen : present.length = geometry.bitmapLen
  dirtyLen : dirty.length = geometry.bitmapLen
  presentInside : ∀ page, bitGet present page = true → page < geometry.numPages
  dirtyInside : ∀ page, bitGet dirty page = true → page < geometry.numPages

theorem bitmaps_blank (geometry : Geometry) :
    Bitmaps geometry (blankBitmap geometry.numPages) (blankBitmap geometry.numPages) where
  presentLen := List.length_replicate
  dirtyLen := List.length_replicate
  presentInside page set := by exact absurd set (by rw [bitGet_blank]; simp)
  dirtyInside page set := by exact absurd set (by rw [bitGet_blank]; simp)

theorem bitGet_dropClean_step (count : Nat) (present dirty : List UInt8)
    (bound : count ≤ 8 * present.length) :
    (dropClean count present dirty).length = present.length ∧
      ∀ page, bitGet (dropClean count present dirty) page =
        (bitGet present page && (bitGet dirty page || decide (count ≤ page))) := by
  induction count with
  | zero => exact ⟨rfl, fun page => by simp [dropClean]⟩
  | succ count ih =>
      obtain ⟨length, bits⟩ := ih (by omega)
      have unfolded : dropClean (count + 1) present dirty =
          if bitGet (dropClean count present dirty) count && !bitGet dirty count
          then bitSet (dropClean count present dirty) count false
          else dropClean count present dirty := by
        simp [dropClean, List.range_succ]
      have inside : count / 8 < (dropClean count present dirty).length := by omega
      rw [unfolded]
      constructor
      · split
        · rw [length_bitSet, length]
        · exact length
      · intro page
        have own : bitGet (dropClean count present dirty) count = bitGet present count := by
          simp [bits]
        rw [own]
        by_cases same : page = count
        · subst same
          split
          · rename_i dropped
            rw [bitGet_bitSet _ _ _ _ inside, if_pos rfl]
            simp_all
          · rename_i kept
            rw [bits]
            cases present : bitGet present page with
            | false => simp
            | true =>
                have dirty : bitGet dirty page = true := by simpa [present] using kept
                simp [dirty]
        · have further : decide (count + 1 ≤ page) = decide (count ≤ page) := by
            rw [decide_eq_decide]
            omega
          rw [further, ← bits]
          split
          · rw [bitGet_bitSet _ _ _ _ inside, if_neg same]
          · rfl

/-- Dropping the clean pages leaves exactly the dirty ones present. -/
theorem bitGet_dropClean {geometry : Geometry} {present dirty : List UInt8}
    (bitmaps : Bitmaps geometry present dirty) (page : Nat) :
    bitGet (dropClean geometry.numPages present dirty) page =
      (bitGet present page && bitGet dirty page) := by
  have bound : geometry.numPages ≤ 8 * present.length := by
    rw [bitmaps.presentLen]
    simp only [Geometry.bitmapLen, bitmapBytes]
    omega
  rw [(bitGet_dropClean_step geometry.numPages present dirty bound).2]
  by_cases inside : page < geometry.numPages
  · simp [show ¬ geometry.numPages ≤ page by omega]
  · have absent : bitGet present page = false := by
      by_contra set
      rw [Bool.not_eq_false] at set
      exact inside (bitmaps.presentInside page set)
    simp [absent]

theorem bitmaps_dropClean {geometry : Geometry} {present dirty : List UInt8}
    (bitmaps : Bitmaps geometry present dirty) :
    Bitmaps geometry (dropClean geometry.numPages present dirty) dirty where
  presentLen := by
    have bound : geometry.numPages ≤ 8 * present.length := by
      rw [bitmaps.presentLen]
      simp only [Geometry.bitmapLen, bitmapBytes]
      omega
    rw [(bitGet_dropClean_step geometry.numPages present dirty bound).1, bitmaps.presentLen]
  dirtyLen := bitmaps.dirtyLen
  presentInside page set := by
    rw [bitGet_dropClean bitmaps, Bool.and_eq_true] at set
    exact bitmaps.presentInside page set.1
  dirtyInside := bitmaps.dirtyInside

/-- Without a present and clean page nothing is dropped. -/
theorem dropClean_none {numPages : Nat} {present dirty : List UInt8}
    (none : countPages numPages (fun page => bitGet present page && !bitGet dirty page) = 0) :
    dropClean numPages present dirty = present := by
  have clean : ∀ page ∈ List.range numPages,
      (bitGet present page && !bitGet dirty page) = false := by
    intro page member
    have empty := List.filter_eq_nil_iff.mp (List.length_eq_zero_iff.mp none) page member
    simpa using empty
  have step (pages : List Nat) (subset : ∀ page ∈ pages, page ∈ List.range numPages) :
      pages.foldl (fun bitmap page =>
        if bitGet bitmap page && !bitGet dirty page then bitSet bitmap page false else bitmap)
        present = present := by
    induction pages with
    | nil => rfl
    | cons page rest ih =>
        rw [List.foldl_cons, clean page (subset page List.mem_cons_self), if_neg (by simp)]
        exact ih fun other member => subset other (List.mem_cons_of_mem _ member)
  exact step _ fun _ member => member

variable {Inner : Type}

/-- The metadata that `writeFullMeta` leaves behind repeats its bitmaps. -/
theorem writeFullMeta_mirrors {geometry : Geometry} {present dirty : List UInt8}
    (bitmaps : Bitmaps geometry present dirty) (world : World Inner) :
    Mirrors geometry present dirty (writeFullMeta geometry.pageSize geometry.devSize
      geometry.numPages present dirty world).disk.metadata := by
  have headerLen : (header geometry.pageSize geometry.devSize geometry.numPages).length = headerSize :=
    rfl
  simp only [writeFullMeta, World.issue, Effect.apply, FileOp.apply, headerLen,
    bitmaps.presentLen, bitmaps.dirtyLen]
  constructor
  · simp only
    omega
  · apply bytes_ext (by simp [headerLen])
    intro index inside
    rw [length_slice] at inside
    dsimp only
    rw [byteAt_slice, if_pos inside, splice_outside (.inl (by omega)), splice_outside (.inl (by omega)),
      splice_inside (Nat.zero_le _) (by rw [headerLen]; omega)]
    simp
  · intro index inside
    dsimp only
    rw [splice_outside (.inl (by omega)), splice_inside (by omega) (by rw [bitmaps.presentLen]; omega),
      Nat.add_sub_cancel_left]
  · intro index inside
    dsimp only
    rw [splice_inside (by omega) (by rw [bitmaps.dirtyLen]; omega), Nat.add_sub_cancel_left]

/-- A metadata file that mirrors the bitmaps of its geometry is reusable. -/
theorem metaReusable_mirrors {geometry : Geometry} {present dirty : List UInt8} {metadata : File}
    (mirrors : Mirrors geometry present dirty metadata) :
    metaReusable geometry.pageSize geometry.devSize geometry.numPages metadata = true := by
  simp only [metaReusable, decide_eq_true_eq]
  exact ⟨mirrors.len.symm.le, headerMatches_header mirrors.intact geometry.pageBounded geometry.devBounded⟩

/-- Matching metadata is reused as it is. -/
theorem loadOrInitMeta_reuse {geometry : Geometry} {present dirty : List UInt8} {world : World Inner}
    (bitmaps : Bitmaps geometry present dirty)
    (mirrors : Mirrors geometry present dirty world.disk.metadata) :
    loadOrInitMeta geometry.pageSize geometry.devSize geometry.numPages world =
      ((present, dirty, countPages geometry.numPages (bitGet dirty)), world) := by
  have reusable := metaReusable_mirrors mirrors
  have samePresent : slice world.disk.metadata.bytes headerSize geometry.bitmapLen = present := by
    apply bytes_ext (by rw [length_slice, bitmaps.presentLen])
    intro index inside
    rw [length_slice] at inside
    rw [byteAt_slice, if_pos inside, mirrors.presentBytes index inside]
  have sameDirty : slice world.disk.metadata.bytes (headerSize + geometry.bitmapLen)
      geometry.bitmapLen = dirty := by
    apply bytes_ext (by rw [length_slice, bitmaps.dirtyLen])
    intro index inside
    rw [length_slice] at inside
    rw [byteAt_slice, if_pos inside, mirrors.dirtyBytes index inside]
  simp only [loadOrInitMeta, if_pos reusable]
  rw [show bitmapBytes geometry.numPages = geometry.bitmapLen from rfl, samePresent, sameDirty]

/-- Clean pages are trusted when the blob has no token or still has the recorded one. -/
def trusted (currentEtag recorded : Option String) : Bool :=
  currentEtag.isNone || decide (readRecordedEtag recorded = currentEtag)

/-- The validated bitmap keeps the dirty pages, and the clean ones while they are trusted. -/
theorem validateEtag_spec {geometry : Geometry} {present dirty : List UInt8} {world : World Inner}
    (currentEtag : Option String) (bitmaps : Bitmaps geometry present dirty)
    (mirrors : Mirrors geometry present dirty world.disk.metadata) :
    let validated := validateEtag geometry.numPages currentEtag present dirty world
    Bitmaps geometry validated.1 dirty ∧
      Mirrors geometry validated.1 dirty validated.2.disk.metadata ∧
      (∀ page, bitGet validated.1 page =
        (bitGet present page && (bitGet dirty page || trusted currentEtag world.disk.etag))) ∧
      validated.2.state = world.state ∧ validated.2.disk.data = world.disk.data ∧
      validated.2.disk.inner = world.disk.inner := by
  cases currentEtag with
  | none => exact ⟨bitmaps, mirrors, fun page => by simp [validateEtag, trusted], rfl, rfl, rfl⟩
  | some current =>
      by_cases same : readRecordedEtag world.disk.etag = some current
      · simp only [validateEtag, same, ne_eq, not_true_eq_false, if_false]
        exact ⟨bitmaps, mirrors, fun page => by simp [trusted, same], rfl, rfl, rfl⟩
      · have untrusted : trusted (some current) world.disk.etag = false := by simp [trusted, same]
        have bits (page : Nat) : bitGet (dropClean geometry.numPages present dirty) page =
            (bitGet present page && (bitGet dirty page || trusted (some current) world.disk.etag)) := by
          rw [bitGet_dropClean bitmaps, untrusted, Bool.or_false]
        simp only [validateEtag, ne_eq, same, not_false_eq_true, if_true, dropCleanPages]
        by_cases dropped : countPages geometry.numPages
            (fun page => bitGet present page && !bitGet dirty page) = 0
        · rw [if_pos dropped]
          refine ⟨bitmaps_dropClean bitmaps, ?_, bits, rfl, rfl, rfl⟩
          change Mirrors geometry (dropClean geometry.numPages present dirty) dirty world.disk.metadata
          rw [dropClean_none dropped]
          exact mirrors
        · rw [if_neg dropped]
          have kept := bitmaps_dropClean bitmaps
          refine ⟨kept, ?_, bits, rfl, rfl, rfl⟩
          simp only [World.issue, Effect.apply, FileOp.apply]
          constructor
          · simp only [mirrors.len, kept.presentLen]
            omega
          · rw [← mirrors.intact]
            apply slice_congr
            intro x _ below
            exact splice_outside (.inl (by omega))
          · intro index inside
            dsimp only
            rw [splice_inside (by omega) (by rw [kept.presentLen]; omega), Nat.add_sub_cancel_left]
          · intro index inside
            dsimp only
            rw [splice_outside (.inr (by rw [kept.presentLen]; omega)), mirrors.dirtyBytes index inside]

/-- Seeding the recency order is a quiet change. -/
theorem seedLru_quiet (cache : FileCacheBackend) (pages : List Nat) (world : World Inner) :
    Quiet world (cache.seedLru pages world) := by
  induction pages generalizing world with
  | nil => exact ⟨rfl, rfl, rfl, rfl, rfl, rfl, rfl⟩
  | cons page rest ih =>
      rw [seedLru]
      set hole := if (!bitGet world.state.dirty page) = true
        then world.ask cache.host.regionIsHole else (false, world) with holeEq
      have asked : Quiet world hole.2 := by
        rw [holeEq]
        split
        · exact ask_quiet world _
        · exact ⟨rfl, rfl, rfl, rfl, rfl, rfl, rfl⟩
      dsimp only
      rw [← holeEq]
      by_cases present : bitGet world.state.present page
      · rw [if_pos present]
        by_cases empty : hole.1
        · rw [if_pos empty]
          exact asked.trans (ih _)
        · rw [if_neg empty]
          have counted : Quiet hole.2 ((hole.2.addResident (cache.pageLen world.state page)).touch page
              (!bitGet world.state.dirty page)) := ⟨rfl, rfl, rfl, rfl, rfl, rfl, rfl⟩
          exact (asked.trans counted).trans (ih _)
      · rw [if_neg present]
        exact ih world

/-- Seeding the recency order makes only clean pages evictable. -/
theorem seedLru_spec (cache : FileCacheBackend) {geometry : Geometry} (pages : List Nat)
    (world : World Inner) (valid : world.state.lru.Valid)
    (presentInside : ∀ page, bitGet world.state.present page = true → page < geometry.numPages)
    (evictable : ∀ page, EvictableClean cache geometry world page) :
    (cache.seedLru pages world).state.lru.Valid ∧
      ∀ page, EvictableClean cache geometry (cache.seedLru pages world) page := by
  induction pages generalizing world with
  | nil => exact ⟨valid, evictable⟩
  | cons page rest ih =>
      rw [seedLru]
      by_cases present : bitGet world.state.present page
      · rw [if_pos present]
        set hole := if (!bitGet world.state.dirty page) = true
          then world.ask cache.host.regionIsHole else (false, world) with holeEq
        have sameState : hole.2.state = world.state := by
          rw [holeEq]
          split <;> rfl
        have holeEvictable : ∀ page, EvictableClean cache geometry hole.2 page := by
          intro other budgeted known
          rw [sameState] at known ⊢
          exact evictable other budgeted known
        dsimp only
        rw [← holeEq]
        split
        · exact ih hole.2 (by rw [sameState]; exact valid) (by rw [sameState]; exact presentInside)
            holeEvictable
        · set counted := hole.2.addResident (cache.pageLen world.state page) with countedEq
          have countedValid : counted.state.lru.Valid := by
            change hole.2.state.lru.Valid
            rw [sameState]
            exact valid
          have countedDirty : counted.state.dirty = world.state.dirty := by
            change hole.2.state.dirty = _
            rw [sameState]
          exact ih (counted.touch page (!bitGet world.state.dirty page))
            (Lru.touch_valid _ countedValid _ _)
            (by change ∀ page, bitGet hole.2.state.present page = true → _
                rw [sameState]; exact presentInside)
            (touch_evictableClean counted countedValid (!bitGet world.state.dirty page)
              (presentInside page present) (by rw [countedDirty]; simp) fun other _ => holeEvictable other)
      · rw [if_neg present]
        exact ih world valid presentInside evictable

/-- Any other metadata is replaced by empty bitmaps. -/
theorem loadOrInitMeta_fresh {pageSize devSize numPages : Nat} {world : World Inner}
    (fresh : metaReusable pageSize devSize numPages world.disk.metadata = false) :
    loadOrInitMeta pageSize devSize numPages world =
      ((blankBitmap numPages, blankBitmap numPages, 0), writeFullMeta pageSize devSize numPages
        (blankBitmap numPages) (blankBitmap numPages) world) := by
  simp only [loadOrInitMeta, fresh, Bool.false_eq_true, if_false]

/-- Loading the metadata touches no other file. -/
theorem loadOrInitMeta_keeps (pageSize devSize numPages : Nat) (world : World Inner) :
    let loaded := (loadOrInitMeta pageSize devSize numPages world).2
    loaded.state = world.state ∧ loaded.disk.data = world.disk.data ∧
      loaded.disk.inner = world.disk.inner ∧ loaded.disk.etag = world.disk.etag := by
  simp only [loadOrInitMeta]
  split
  · exact ⟨rfl, rfl, rfl, rfl⟩
  · exact ⟨rfl, rfl, rfl, rfl⟩

/-- The recorded bitmaps are read back from the metadata file. -/
def recordedPresent (numPages : Nat) (metadata : File) : List UInt8 :=
  slice metadata.bytes headerSize (bitmapBytes numPages)

def recordedDirty (numPages : Nat) (metadata : File) : List UInt8 :=
  slice metadata.bytes (headerSize + bitmapBytes numPages) (bitmapBytes numPages)

/-- Whatever the bitmaps hold, only dirty and trusted pages stay present. -/
theorem validateEtag_bits {numPages : Nat} (currentEtag : Option String) {present : List UInt8}
    (dirty : List UInt8) (world : World Inner) (bound : numPages ≤ 8 * present.length) :
    let validated := validateEtag numPages currentEtag present dirty world
    (∀ page, page < numPages → bitGet validated.1 page =
        (bitGet present page && (bitGet dirty page || trusted currentEtag world.disk.etag))) ∧
      validated.2.disk.data = world.disk.data ∧ validated.2.disk.inner = world.disk.inner := by
  cases currentEtag with
  | none => exact ⟨fun page _ => by simp [validateEtag, trusted], rfl, rfl⟩
  | some current =>
      by_cases same : readRecordedEtag world.disk.etag = some current
      · simp only [validateEtag, same, ne_eq, not_true_eq_false, if_false]
        exact ⟨fun page _ => by simp [trusted, same], rfl, rfl⟩
      · have untrusted : trusted (some current) world.disk.etag = false := by simp [trusted, same]
        have bits := (bitGet_dropClean_step numPages present dirty bound).2
        simp only [validateEtag, ne_eq, same, not_false_eq_true, if_true, dropCleanPages, untrusted]
        split
        all_goals
          refine ⟨fun page inside => ?_, rfl, rfl⟩
          rw [bits]
          simp [show ¬ numPages ≤ page by omega]

/-- Validation leaves the memory of the cache alone. -/
theorem validateEtag_state (numPages : Nat) (currentEtag : Option String) (present dirty : List UInt8)
    (world : World Inner) :
    (validateEtag numPages currentEtag present dirty world).2.state = world.state := by
  cases currentEtag with
  | none => rfl
  | some current =>
      simp only [validateEtag, dropCleanPages]
      split
      · split
        · rfl
        · rfl
      · rfl

theorem validateEtag_inner (numPages : Nat) (currentEtag : Option String) (present dirty : List UInt8)
    (world : World Inner) :
    (validateEtag numPages currentEtag present dirty world).2.disk.inner = world.disk.inner := by
  cases currentEtag with
  | none => rfl
  | some current =>
      simp only [validateEtag, dropCleanPages]
      split
      · split
        · rfl
        · rfl
      · rfl

theorem validateEtag_clock (numPages : Nat) (currentEtag : Option String) (present dirty : List UInt8)
    (world : World Inner) :
    (validateEtag numPages currentEtag present dirty world).2.clock = world.clock := by
  cases currentEtag with
  | none => rfl
  | some current =>
      simp only [validateEtag, dropCleanPages]
      split
      · split
        · rfl
        · rfl
      · rfl

theorem loadOrInitMeta_clock (pageSize devSize numPages : Nat) (world : World Inner) :
    (loadOrInitMeta pageSize devSize numPages world).2.clock = world.clock := by
  simp only [loadOrInitMeta]
  split
  · rfl
  · rfl

/-- The world in which the data file has its length and the metadata is about to be loaded. -/
def sizedWorld (pageSize devSize : Nat) (disk : Disk Inner) (budgetFile : List Entry) (clock : Nat) :
    World Inner :=
  World.issue ⟨⟨devSize, (devSize + pageSize - 1) / pageSize, [], [],
    List.replicate ((devSize + pageSize - 1) / pageSize) 0, 0, .empty⟩, disk, budgetFile, clock, []⟩
    .openCache (.data (.setLen devSize))

/-- The world in which the bitmaps have been loaded and validated. -/
def validatedWorld (pageSize devSize : Nat) (currentEtag : Option String) (disk : Disk Inner)
    (budgetFile : List Entry) (clock : Nat) : World Inner :=
  let numPages := (devSize + pageSize - 1) / pageSize
  let loaded := loadOrInitMeta pageSize devSize numPages (sizedWorld pageSize devSize disk budgetFile clock)
  let validated := validateEtag numPages currentEtag loaded.1.1 loaded.1.2.1 loaded.2
  { validated.2 with state := { validated.2.state with present := validated.1, dirty := loaded.1.2.1 } }

theorem validatedWorld_shape (pageSize devSize : Nat) (currentEtag : Option String) (disk : Disk Inner)
    (budgetFile : List Entry) (clock : Nat) :
    (validatedWorld pageSize devSize currentEtag disk budgetFile clock).state.devSize = devSize ∧
      (validatedWorld pageSize devSize currentEtag disk budgetFile clock).state.numPages =
        (devSize + pageSize - 1) / pageSize ∧
      (validatedWorld pageSize devSize currentEtag disk budgetFile clock).disk.inner = disk.inner := by
  obtain ⟨sameState, _, sameInner, _⟩ := loadOrInitMeta_keeps pageSize devSize ((devSize + pageSize - 1) / pageSize)
    (sizedWorld pageSize devSize disk budgetFile clock)
  unfold validatedWorld
  dsimp only
  rw [validateEtag_state, sameState, validateEtag_inner, sameInner]
  exact ⟨rfl, rfl, rfl⟩

/-- An open registers with the budget and seeds the recency order from the validated bitmaps. -/
theorem openCache_cases {cfg : FileCacheConfig} {host : Host} {devSize : Nat}
    {currentEtag : Option String} {disk : Disk Inner} {budgetFile : List Entry} {clock : Nat}
    {cache : FileCacheBackend} {world : World Inner} {recovered : Nat}
    (opened : openCache cfg host devSize currentEtag disk budgetFile clock =
      .ok (cache, world, recovered)) :
    ∃ registered, Quiet (validatedWorld cfg.pageSize devSize currentEtag disk budgetFile clock) registered ∧
      registered.state.lru = .empty ∧ registered.state.residentBytes = 0 ∧
      cache.pageSize = cfg.pageSize ∧ cache.host = host ∧ devSize ≠ 0 ∧
      recovered = (loadOrInitMeta cfg.pageSize devSize ((devSize + cfg.pageSize - 1) / cfg.pageSize)
        (sizedWorld cfg.pageSize devSize disk budgetFile clock)).1.2.2 ∧
      ((cache.budget = none ∧ world = registered) ∨
        ∃ budget, cache.budget = some budget ∧ budget = ⟨cfg.maxBytes, cfg.name, host.pid⟩ ∧
          registered.clock = clock + 1 ∧ world = ((cache.seedLru (List.range ((devSize + cfg.pageSize - 1) / cfg.pageSize))
            registered).withLocked host (budget.reset (cache.seedLru (List.range
              ((devSize + cfg.pageSize - 1) / cfg.pageSize)) registered).state.residentBytes)).2) := by
  rw [openCache] at opened
  split at opened
  · split at opened
    · cases opened
    · rename_i positive
      dsimp only at opened
      have sizedState := (loadOrInitMeta_keeps cfg.pageSize devSize ((devSize + cfg.pageSize - 1) / cfg.pageSize)
        (sizedWorld cfg.pageSize devSize disk budgetFile clock)).1
      set validated := validateEtag ((devSize + cfg.pageSize - 1) / cfg.pageSize) currentEtag _ _ _
      have validState : validated.2.state = (loadOrInitMeta cfg.pageSize devSize
          ((devSize + cfg.pageSize - 1) / cfg.pageSize)
          (sizedWorld cfg.pageSize devSize disk budgetFile clock)).2.state := validateEtag_state _ _ _ _ _
      cases registration : openBudget host cfg.name cfg.maxBytes validated.2 with
      | error error => simp [registration] at opened
      | ok registered =>
          obtain ⟨budget, registeredWorld⟩ := registered
          simp only [registration, Except.ok.injEq, Prod.mk.injEq] at opened
          obtain ⟨rfl, rfl, rfl⟩ := opened
          set start : World Inner := { registeredWorld with
            state := { registeredWorld.state with
              present := validated.1
              dirty := (loadOrInitMeta cfg.pageSize devSize ((devSize + cfg.pageSize - 1) / cfg.pageSize)
                (sizedWorld cfg.pageSize devSize disk budgetFile clock)).1.2.1 } } with startEq
          have registered : Quiet (validatedWorld cfg.pageSize devSize currentEtag disk budgetFile clock) start ∧
              registeredWorld.state = validated.2.state ∧
              (budget = none ∨ budget = some ⟨cfg.maxBytes, cfg.name, host.pid⟩ ∧
                registeredWorld.clock = validated.2.clock + 1) := by
            simp only [openBudget] at registration
            split at registration
            · cases registration
              exact ⟨⟨rfl, rfl, rfl, rfl, rfl, rfl, rfl⟩, rfl, .inl rfl⟩
            · split at registration
              · cases registration
              · cases registration
                exact ⟨⟨rfl, rfl, rfl, rfl, rfl, rfl, rfl⟩, rfl, .inr ⟨rfl, rfl⟩⟩
          obtain ⟨quiet, sameState, budgets⟩ := registered
          have state := sameState.trans (validState.trans sizedState)
          refine ⟨start, quiet, ?_, ?_, rfl, rfl, positive, rfl, ?_⟩
          · change registeredWorld.state.lru = _
            rw [state]
            rfl
          · change registeredWorld.state.residentBytes = _
            rw [state]
            rfl
          · rcases budgets with rfl | ⟨rfl, ticked⟩
            · exact .inl ⟨rfl, rfl⟩
            · refine .inr ⟨_, rfl, rfl, ?_, rfl⟩
              change registeredWorld.clock = clock + 1
              rw [ticked, validateEtag_clock, loadOrInitMeta_clock]
              rfl
  · cases opened

/-- Registering with the budget and seeding the recency order are quiet. -/
theorem openCache_quiet {cfg : FileCacheConfig} {host : Host} {devSize : Nat}
    {currentEtag : Option String} {disk : Disk Inner} {budgetFile : List Entry} {clock : Nat}
    {cache : FileCacheBackend} {world : World Inner} {recovered : Nat}
    (opened : openCache cfg host devSize currentEtag disk budgetFile clock =
      .ok (cache, world, recovered)) :
    Quiet (validatedWorld cfg.pageSize devSize currentEtag disk budgetFile clock) world ∧
      cache.pageSize = cfg.pageSize := by
  obtain ⟨registered, quiet, _, _, samePage, _, _, _, final⟩ := openCache_cases opened
  refine ⟨?_, samePage⟩
  rcases final with ⟨_, rfl⟩ | ⟨budget, _, _, _, rfl⟩
  · exact quiet
  · exact (quiet.trans (seedLru_quiet _ _ _)).trans (withLocked_quiet _ _ _)

/-- A page that is present and clean after an open was recorded so and is trusted. -/
theorem openCache_recorded {cfg : FileCacheConfig} {host : Host} {devSize : Nat}
    {currentEtag : Option String} {disk : Disk Inner} {budgetFile : List Entry} {clock : Nat}
    {cache : FileCacheBackend} {world : World Inner} {recovered : Nat}
    (opened : openCache cfg host devSize currentEtag disk budgetFile clock =
      .ok (cache, world, recovered)) :
    let numPages := (devSize + cfg.pageSize - 1) / cfg.pageSize
    world.disk.inner = disk.inner ∧
      (∀ x, x < devSize → world.disk.data.bytes x = disk.data.bytes x) ∧
      ∀ page, page < numPages → bitGet world.state.present page = true →
        bitGet world.state.dirty page = false →
        metaReusable cfg.pageSize devSize numPages disk.metadata = true ∧
          trusted currentEtag disk.etag = true ∧
          bitGet (recordedPresent numPages disk.metadata) page = true ∧
          bitGet (recordedDirty numPages disk.metadata) page = false := by
  intro numPages
  obtain ⟨quiet, _⟩ := openCache_quiet opened
  rw [validatedWorld] at quiet
  set sized := sizedWorld cfg.pageSize devSize disk budgetFile clock
  obtain ⟨_, loadedData, loadedInner, loadedEtag⟩ :=
    loadOrInitMeta_keeps cfg.pageSize devSize numPages sized
  set loaded := loadOrInitMeta cfg.pageSize devSize numPages sized with loadedEq
  have length : loaded.1.1.length = bitmapBytes numPages := by
    rw [loadedEq, loadOrInitMeta]
    split
    · exact length_slice _ _ _
    · exact List.length_replicate
  obtain ⟨bits, validData, validInner⟩ := validateEtag_bits currentEtag loaded.1.2.1 loaded.2
    (show numPages ≤ _ by rw [length, bitmapBytes]; omega)
  rw [loadedEtag] at bits
  refine ⟨?_, ?_, ?_⟩
  · rw [quiet.disk]
    exact validInner.trans loadedInner
  · intro x inside
    rw [quiet.disk]
    refine (congrFun (congrArg File.bytes (validData.trans loadedData)) x).trans ?_
    exact if_pos inside
  · intro page inside present clean
    rw [quiet.present] at present
    rw [quiet.dirty] at clean
    have clean : bitGet loaded.1.2.1 page = false := clean
    have present := (bits page inside).symm.trans present
    rw [Bool.and_eq_true, clean, Bool.false_or] at present
    obtain ⟨recorded, isTrusted⟩ := present
    rw [loadedEq, loadOrInitMeta] at recorded clean
    by_cases reusable : metaReusable cfg.pageSize devSize numPages disk.metadata = true
    · have same : metaReusable cfg.pageSize devSize numPages sized.disk.metadata = true := reusable
      simp only [if_pos same] at recorded clean
      exact ⟨reusable, isTrusted, recorded, clean⟩
    · have same : ¬ metaReusable cfg.pageSize devSize numPages sized.disk.metadata = true := reusable
      simp only [if_neg same, bitGet_blank] at recorded
      cases recorded

section Opening

variable [BlobBackend Inner] [FlatStore Inner]

/-- The opened cache holds what the files held, less the clean pages it does not trust. -/
structure Opened (geometry : Geometry) (host : Host) (present dirty : List UInt8) (trusted : Bool)
    (disk : Disk Inner) (cache : FileCacheBackend) (world : World Inner) (recovered : Nat) : Prop where
  sound : Sound cache geometry world
  evictable : ∀ page, EvictableClean cache geometry world page
  sameHost : cache.host = host
  data : AgreeOn 0 geometry.devSize world.disk.data.bytes disk.data.bytes
  inner : world.disk.inner = disk.inner
  presentBits : ∀ page, bitGet world.state.present page =
    (bitGet present page && (bitGet dirty page || trusted))
  dirtyBits : world.state.dirty = dirty
  counted : recovered = 0 → ∀ page, bitGet dirty page = false

/-- Without a recovered page no page is dirty. -/
theorem Opened.clean {geometry : Geometry} {host : Host} {present dirty : List UInt8} {isTrusted : Bool}
    {disk : Disk Inner} {cache : FileCacheBackend} {world : World Inner} {recovered : Nat}
    (opened : Opened geometry host present dirty isTrusted disk cache world recovered)
    (zero : recovered = 0) (page : Nat) : world.view.dirty page = false := by
  change bitGet world.state.dirty page = false
  rw [opened.dirtyBits]
  exact opened.counted zero page

omit [BlobBackend Inner] [FlatStore Inner] in
/-- A bitmap whose count is zero has no bit set. -/
theorem clean_of_count {geometry : Geometry} {present dirty : List UInt8}
    (bitmaps : Bitmaps geometry present dirty)
    (zero : countPages geometry.numPages (bitGet dirty) = 0) (page : Nat) :
    bitGet dirty page = false := by
  by_contra set
  rw [Bool.not_eq_false] at set
  have inside := bitmaps.dirtyInside page set
  have empty := List.length_eq_zero_iff.mp zero
  rw [List.filter_eq_nil_iff] at empty
  exact empty page (List.mem_range.mpr inside) set

/-- The recovered state is sound once its metadata has been loaded. -/
theorem openCache_loaded {geometry : Geometry} {cfg : FileCacheConfig} {host : Host}
    {currentEtag : Option String} {disk : Disk Inner} {budgetFile : List Entry} {clock : Nat}
    {cache : FileCacheBackend} {world loaded : World Inner} {recovered count : Nat}
    {present dirty : List UInt8} (samePage : cfg.pageSize = geometry.pageSize)
    (size : FlatStore.size disk.inner = geometry.devSize) (bitmaps : Bitmaps geometry present dirty)
    (load : loadOrInitMeta geometry.pageSize geometry.devSize geometry.numPages
      (World.issue ⟨⟨geometry.devSize, geometry.numPages, [], [], List.replicate geometry.numPages 0,
        0, .empty⟩, disk, budgetFile, clock, []⟩ .openCache (.data (.setLen geometry.devSize))) =
      ((present, dirty, count), loaded))
    (mirrors : Mirrors geometry present dirty loaded.disk.metadata)
    (counted : count = 0 → ∀ page, bitGet dirty page = false)
    (opened : openCache cfg host geometry.devSize currentEtag disk budgetFile clock =
      .ok (cache, world, recovered)) :
    Opened geometry host present dirty (trusted currentEtag disk.etag) disk cache world recovered := by
  have positive := geometry.devPositive
  obtain ⟨loadedState, loadedData, loadedInner, loadedEtag⟩ := loadOrInitMeta_keeps geometry.pageSize
    geometry.devSize geometry.numPages (World.issue ⟨⟨geometry.devSize, geometry.numPages, [], [],
      List.replicate geometry.numPages 0, 0, .empty⟩, disk, budgetFile, clock, []⟩ .openCache
      (.data (.setLen geometry.devSize)))
  rw [load] at loadedState loadedData loadedInner loadedEtag
  obtain ⟨validBitmaps, validMirrors, bits, validState, validData, validInner⟩ :=
    validateEtag_spec currentEtag bitmaps mirrors
  rw [loadedEtag] at bits
  set validated := validateEtag geometry.numPages currentEtag present dirty loaded with validatedEq
  rw [openCache, dif_pos ⟨by rw [samePage]; exact geometry.pagePositive,
    by rw [samePage]; exact geometry.pageAligned⟩, if_neg positive.ne'] at opened
  simp only [samePage] at opened
  rw [show (geometry.devSize + geometry.pageSize - 1) / geometry.pageSize = geometry.numPages from rfl,
    load] at opened
  dsimp only at opened
  rw [← validatedEq] at opened
  cases registration : openBudget host cfg.name cfg.maxBytes validated.2 with
  | error error => simp [registration] at opened
  | ok registered =>
      obtain ⟨budget, registeredWorld⟩ := registered
      simp only [registration, Except.ok.injEq, Prod.mk.injEq] at opened
      obtain ⟨rfl, rfl, rfl⟩ := opened
      have quiet : Quiet validated.2 registeredWorld ∧
          registeredWorld.state = validated.2.state := by
        simp only [openBudget] at registration
        split at registration
        · cases registration
          exact ⟨⟨rfl, rfl, rfl, rfl, rfl, rfl, rfl⟩, rfl⟩
        · split at registration
          · cases registration
          · cases registration
            exact ⟨withLocked_quiet _ _ _, rfl⟩
      obtain ⟨quiet, sameState⟩ := quiet
      have state : registeredWorld.state = ⟨geometry.devSize, geometry.numPages, [], [],
          List.replicate geometry.numPages 0, 0, .empty⟩ :=
        sameState.trans (validState.trans loadedState)
      set start : World Inner := { registeredWorld with
        state := { registeredWorld.state with present := validated.1, dirty } } with startEq
      set cache : FileCacheBackend := ⟨geometry.pageSize, geometry.pagePositive, geometry.pageAligned,
        budget, host⟩ with cacheEq
      have startData : start.disk.data = (FileOp.setLen geometry.devSize).apply disk.data := by
        change registeredWorld.disk.data = _
        rw [quiet.disk, validData, loadedData]
        rfl
      have startInner : start.disk.inner = disk.inner := by
        change registeredWorld.disk.inner = _
        rw [quiet.disk, validInner, loadedInner]
        rfl
      have sound : Sound cache geometry start := {
        pageSize := rfl
        devSize := by rw [startEq]; simp only [state]
        numPages := by rw [startEq]; simp only [state]
        presentLen := validBitmaps.presentLen
        dirtyLen := validBitmaps.dirtyLen
        generations := by rw [startEq]; simp only [state, List.length_replicate]
        dataLen := by rw [startData]; rfl
        innerSize := by rw [startInner, size]
        presentInside := validBitmaps.presentInside
        dirtyInside := validBitmaps.dirtyInside
        lru := by rw [startEq]; simp only [state]; exact Lru.empty_valid
        mirror := by
          change Mirrors geometry validated.1 dirty registeredWorld.disk.metadata
          rw [quiet.disk]
          exact validMirrors }
      have evictable : ∀ page, EvictableClean cache geometry start page := by
        intro page _ known
        have known : registeredWorld.state.lru.Evictable page := known
        rw [state] at known
        exact absurd known (Lru.empty_evictable page)
      have conclude (final : World Inner) (settled : Quiet start final) (lru : final.state.lru.Valid)
          (clean : ∀ page, EvictableClean cache geometry final page) :
          Opened geometry host present dirty (trusted currentEtag disk.etag) disk cache final count := {
        sound := settled.sound sound lru
        evictable := clean
        sameHost := rfl
        data := by
          intro x _ inside
          rw [settled.disk, startData]
          simp [FileOp.apply, inside]
        inner := by rw [settled.disk, startInner]
        presentBits := by rw [settled.present]; exact bits
        dirtyBits := settled.dirty
        counted := counted }
      cases budget with
      | none => exact conclude start ⟨rfl, rfl, rfl, rfl, rfl, rfl, rfl⟩ sound.lru evictable
      | some budget =>
          obtain ⟨lru, clean⟩ := seedLru_spec cache (List.range geometry.numPages) start sound.lru
            sound.presentInside evictable
          exact conclude _ ((seedLru_quiet cache _ start).trans (withLocked_quiet _ _ _)) lru clean

/-- Matching metadata reopens the recorded pages. -/
theorem openCache_reuse {geometry : Geometry} {cfg : FileCacheConfig} {host : Host}
    {currentEtag : Option String} {disk : Disk Inner} {budgetFile : List Entry} {clock : Nat}
    {cache : FileCacheBackend} {world : World Inner} {recovered : Nat} {present dirty : List UInt8}
    (samePage : cfg.pageSize = geometry.pageSize)
    (size : FlatStore.size disk.inner = geometry.devSize) (bitmaps : Bitmaps geometry present dirty)
    (mirrors : Mirrors geometry present dirty disk.metadata)
    (opened : openCache cfg host geometry.devSize currentEtag disk budgetFile clock =
      .ok (cache, world, recovered)) :
    Opened geometry host present dirty (trusted currentEtag disk.etag) disk cache world recovered :=
  openCache_loaded samePage size bitmaps (loadOrInitMeta_reuse bitmaps mirrors) mirrors
    (clean_of_count bitmaps) opened

/-- Metadata of another shape is replaced, and the cache starts empty. -/
theorem openCache_fresh (geometry : Geometry) {cfg : FileCacheConfig} {host : Host}
    {currentEtag : Option String} {disk : Disk Inner} {budgetFile : List Entry} {clock : Nat}
    {cache : FileCacheBackend} {world : World Inner} {recovered : Nat}
    (samePage : cfg.pageSize = geometry.pageSize)
    (size : FlatStore.size disk.inner = geometry.devSize)
    (fresh : metaReusable geometry.pageSize geometry.devSize geometry.numPages disk.metadata = false)
    (opened : openCache cfg host geometry.devSize currentEtag disk budgetFile clock =
      .ok (cache, world, recovered)) :
    Opened geometry host (blankBitmap geometry.numPages) (blankBitmap geometry.numPages)
      (trusted currentEtag disk.etag) disk cache world recovered :=
  openCache_loaded samePage size (bitmaps_blank geometry) (loadOrInitMeta_fresh fresh)
    (writeFullMeta_mirrors (bitmaps_blank geometry) _) (fun _ page => bitGet_blank _ page) opened

end Opening

end FileCacheBackend
end UblkAzblob

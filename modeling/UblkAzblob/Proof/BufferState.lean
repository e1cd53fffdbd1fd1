import UblkAzblob.Construction.Buffered
import UblkAzblob.Foundation.Tally
import UblkAzblob.Proof.CacheLru

namespace UblkAzblob
namespace BufferState
open Storage

variable {pageSize : Nat} {state : BufferState} {page : Nat}

section Shelf

/-- A resident page that is not dirty. -/
def CleanAt (state : BufferState) (page : Nat) : Prop :=
  ∀ found, state.pages.find? page = some found → found.dirty = false

/-- Every resident page is whole, and the recency order tracks the resident pages and can evict the clean ones. -/
structure Shelved (pageSize : Nat) (state : BufferState) : Prop where
  whole : ∀ page found, state.pages.find? page = some found → found.data.length = pageSize
  lru : state.lru.Tracks (fun page => state.pages.contains page = true) state.CleanAt

def dirtyCount (state : BufferState) : Nat := state.dirtyIndices.length

def residentCount (state : BufferState) : Nat := state.pages.entries.length

theorem empty_shelved (pageSize : Nat) : Shelved pageSize empty where
  whole page found present := by cases present
  lru := Lru.empty_tracks fun page present => by cases present

theorem dirtyCount_tally (state : BufferState) :
    state.dirtyCount = tally (fun entry => if entry.2.dirty then 1 else 0) state.pages.entries := by
  rw [dirtyCount, dirtyIndices, List.length_map, tally_filter_length]

theorem residentCount_tally (state : BufferState) : state.residentCount = tally (fun _ => 1) state.pages.entries := by
  simp [residentCount, tally]

theorem contains_iff : state.pages.contains page = true ↔ ∃ found, state.pages.find? page = some found := by
  rw [OrderedMap.contains, Option.isSome_iff_exists]

theorem dirtyIndices_nodup (state : BufferState) : state.dirtyIndices.Nodup :=
  state.pages.keys_nodup.sublist (List.filter_sublist.map _)

theorem mem_dirty : page ∈ state.dirtyIndices ↔ ∃ found, state.pages.find? page = some found ∧ found.dirty = true := by
  simp only [dirtyIndices, List.mem_map, List.mem_filter, Prod.exists]
  constructor
  · rintro ⟨same, found, ⟨member, dirty⟩, rfl⟩
    exact ⟨found, OrderedMap.find?_eq_some.mpr member, dirty⟩
  · rintro ⟨found, present, dirty⟩
    exact ⟨page, found, ⟨OrderedMap.find?_eq_some.mp present, dirty⟩, rfl⟩

/-- The victims are dirty pages, each once, and as many as there are above the limit. -/
theorem victims_spec (config : BufferedConfig) (state : BufferState) :
    (state.victims config).Nodup ∧ (∀ page ∈ state.victims config, page ∈ state.dirtyIndices) ∧
      (state.victims config).length = state.dirtyCount - config.maxDirtyPages := by
  have keys : ((state.pages.entries.filter fun entry => entry.2.dirty).map fun entry =>
      (entry.2.seq, entry.1)).map Prod.snd = state.dirtyIndices := by
    simp [dirtyIndices, Function.comp_def]
  have count : state.dirtyCount = (state.pages.entries.filter fun entry => entry.2.dirty).length := List.length_map _
  unfold victims
  dsimp only
  split
  · exact ⟨List.nodup_nil, fun page member => (by cases member), by rw [List.length_nil]; omega⟩
  · set byAge := (((state.pages.entries.filter fun entry => entry.2.dirty).map fun entry =>
        (entry.2.seq, entry.1)).mergeSort fun first second =>
      first.1 < second.1 || (first.1 = second.1 && first.2 ≤ second.2))
    have sorted : (byAge.map Prod.snd).Perm state.dirtyIndices := keys ▸ (List.mergeSort_perm _ _).map _
    refine ⟨?_, fun page member => sorted.subset ((List.take_sublist _ _).map _ |>.subset member), ?_⟩
    · exact (sorted.nodup_iff.mpr state.dirtyIndices_nodup).sublist ((List.take_sublist _ _).map _)
    · have whole := sorted.length_eq
      rw [List.length_map] at whole
      rw [List.length_map, List.length_take, whole, ← dirtyCount]
      omega

theorem victims_nodup (config : BufferedConfig) (state : BufferState) : (state.victims config).Nodup :=
  (victims_spec config state).1

/-- The clean pages of a state that can evict at most one page are at most one. -/
theorem resident_pinned {protect : Nat} (shelved : Shelved pageSize state)
    (stuck : state.lru.candidates (some protect) = []) : state.residentCount ≤ state.dirtyCount + 1 := by
  have alone : ∀ entry ∈ state.pages.entries.filter (fun entry => !entry.2.dirty), entry.1 = protect := by
    intro entry member
    obtain ⟨inside, clean⟩ := List.mem_filter.mp member
    have present : state.pages.find? entry.1 = some entry.2 := OrderedMap.find?_eq_some.mpr inside
    obtain ⟨stamp, known⟩ := (shelved.lru.evictable entry.1).mpr ⟨contains_iff.mpr ⟨_, present⟩, by
      intro found same
      obtain rfl := Option.some.inj (present.symm.trans same)
      simpa using clean⟩
    by_contra different
    have candidate : entry.1 ∈ state.lru.candidates (some protect) :=
      List.mem_filter.mpr ⟨List.mem_map.mpr ⟨_, known, rfl⟩, by simpa using different⟩
    rw [stuck] at candidate
    cases candidate
  have few : (state.pages.entries.filter fun entry => !entry.2.dirty).length ≤ 1 := by
    have repeated := List.eq_replicate_of_mem fun key (member : key ∈
        (state.pages.entries.filter fun entry => !entry.2.dirty).map Prod.fst) => by
      obtain ⟨entry, inside, rfl⟩ := List.mem_map.mp member
      exact alone entry inside
    have distinct := state.pages.keys_nodup.sublist (List.filter_sublist (p := fun entry => !entry.2.dirty).map Prod.fst)
    rw [repeated, List.nodup_replicate, List.length_map] at distinct
    exact distinct
  have parts := List.length_eq_length_filter_add (l := state.pages.entries) fun entry => entry.2.dirty
  rw [residentCount, dirtyCount, dirtyIndices, List.length_map]
  omega

end Shelf

section Trim

/-- A trim drops clean pages other than the protected one, and nothing else. -/
structure Trimmed (protect : Nat) (before after : BufferState) : Prop where
  kept : ∀ page found, after.pages.find? page = some found → before.pages.find? page = some found
  pinned : ∀ page found, before.pages.find? page = some found → found.dirty = true ∨ page = protect →
    after.pages.find? page = some found
  dirty : after.dirtyCount = before.dirtyCount
  resident : after.residentCount ≤ before.residentCount
  seqCounter : after.seqCounter = before.seqCounter
  devSize : after.devSize = before.devSize

variable {protect : Nat} {before between after : BufferState}

theorem Trimmed.refl (protect : Nat) (state : BufferState) : Trimmed protect state state :=
  ⟨fun _ _ same => same, fun _ _ same _ => same, rfl, le_rfl, rfl, rfl⟩

theorem Trimmed.trans (head : Trimmed protect before between) (tail : Trimmed protect between after) :
    Trimmed protect before after :=
  ⟨fun page found present => head.kept page found (tail.kept page found present),
    fun page found present reason => tail.pinned page found (head.pinned page found present reason) reason,
    tail.dirty.trans head.dirty, tail.resident.trans head.resident, tail.seqCounter.trans head.seqCounter,
    tail.devSize.trans head.devSize⟩

/-- One eviction. -/
theorem evict_trimmed {victim : Nat} {lru : Lru} (shelved : Shelved pageSize state)
    (popped : state.lru.popLru (some protect) = (some victim, lru)) :
    Shelved pageSize { state with lru, pages := state.pages.erase victim } ∧
      Trimmed protect state { state with lru, pages := state.pages.erase victim } := by
  obtain ⟨resident, clean, unprotected, tracks⟩ := shelved.lru.pop popped
  obtain ⟨own, present⟩ := contains_iff.mp resident
  have isClean := clean own present
  have lookup (other : Nat) : (state.pages.erase victim).find? other =
      if other = victim then none else state.pages.find? other := OrderedMap.find?_erase _ _ _
  have old {other : Nat} {found : Page} (there : (state.pages.erase victim).find? other = some found) :
      other ≠ victim ∧ state.pages.find? other = some found := by
    rw [lookup] at there
    split at there
    · cases there
    · exact ⟨by assumption, there⟩
  refine ⟨⟨fun other found there => shelved.whole other found (old there).2, ?_⟩,
    fun other found there => (old there).2, ?_, ?_, ?_, rfl, rfl⟩
  · refine ⟨tracks.valid, fun other => ?_, fun other => ?_⟩
    · rw [tracks.contains, contains_iff, contains_iff]
      dsimp only
      rw [lookup]
      by_cases same : other = victim
      · simp [same]
      · simp [same]
    · rw [tracks.evictable, contains_iff, contains_iff, CleanAt, CleanAt]
      dsimp only
      rw [lookup]
      by_cases same : other = victim
      · simp [same]
      · simp [same]
  · intro other found there reason
    dsimp only
    rw [lookup, if_neg]
    · exact there
    · rintro rfl
      rcases reason with dirty | same
      · rw [clean found there] at dirty
        cases dirty
      · exact unprotected (congrArg some same)
  · have removed := state.pages.tally_erase (fun entry => if entry.2.dirty then 1 else 0) victim
    rw [OrderedMap.weightAt, present] at removed
    dsimp only at removed
    rw [isClean] at removed
    rw [dirtyCount_tally, dirtyCount_tally]
    simpa using removed
  · rw [residentCount, residentCount]
    exact List.length_filter_le _ _

theorem evictLoop_trimmed (max fuel : Nat) (shelved : Shelved pageSize state) :
    Shelved pageSize (evictLoop max (some protect) fuel state) ∧
      Trimmed protect state (evictLoop max (some protect) fuel state) := by
  induction fuel generalizing state with
  | zero => exact ⟨shelved, .refl protect state⟩
  | succ fuel ih =>
      rw [evictLoop]
      split
      · exact ⟨shelved, .refl protect state⟩
      · split
        · exact ⟨shelved, .refl protect state⟩
        · rename_i victim lru popped
          obtain ⟨kept, trimmed⟩ := evict_trimmed shelved popped
          obtain ⟨rest, others⟩ := ih kept
          exact ⟨rest, trimmed.trans others⟩

/-- The loop only stops above the limit when nothing is left to evict. -/
theorem evictLoop_bounded {max fuel : Nat} (shelved : Shelved pageSize state)
    (enough : (state.lru.candidates (some protect)).length ≤ fuel) :
    (evictLoop max (some protect) fuel state).residentCount ≤
      Nat.max max ((evictLoop max (some protect) fuel state).dirtyCount + 1) := by
  induction fuel generalizing state with
  | zero =>
      have bound := resident_pinned shelved (List.eq_nil_of_length_eq_zero (Nat.le_zero.mp enough))
      exact bound.trans (Nat.le_max_right _ _)
  | succ fuel ih =>
      rw [evictLoop]
      split
      · rename_i fits
        exact Nat.le_trans fits (Nat.le_max_left _ _)
      · rcases state.lru.popLru_candidates (some protect) with ⟨stuck, nothing⟩ | ⟨victim, lru, popped, candidates⟩
        · split
          · exact (resident_pinned shelved stuck).trans (Nat.le_max_right _ _)
          · rename_i victim lru popped
            rw [popped] at nothing
            cases nothing
        · rw [popped]
          dsimp only
          refine ih (evict_trimmed shelved popped).1 ?_
          rw [candidates, List.length_cons] at enough
          exact Nat.le_of_succ_le_succ enough

variable {config : BufferedConfig}

theorem enforceCacheLimit_trimmed (config : BufferedConfig) (protect : Nat) (shelved : Shelved pageSize state) :
    Shelved pageSize (enforceCacheLimit config (some protect) state) ∧
      Trimmed protect state (enforceCacheLimit config (some protect) state) := by
  unfold enforceCacheLimit
  split
  · exact ⟨shelved, .refl protect state⟩
  · exact evictLoop_trimmed _ _ shelved

/-- The resident pages fit the limit, or all but the protected one are dirty. -/
theorem enforceCacheLimit_bounded (protect : Nat) (limited : config.maxCachedPages ≠ 0)
    (shelved : Shelved pageSize state) :
    (enforceCacheLimit config (some protect) state).residentCount ≤
      Nat.max config.maxCachedPages (state.dirtyCount + 1) := by
  rw [← (enforceCacheLimit_trimmed config protect shelved).2.dirty, enforceCacheLimit,
    if_neg limited]
  refine evictLoop_bounded shelved ?_
  rw [Lru.candidates]
  exact (List.length_filter_le _ _).trans_eq (List.length_map _)

end Trim

section LockSections

variable {config : BufferedConfig} {after : BufferState}

/-- A page is put on the shelf, and the recency order learns whether it is clean. -/
theorem put_shelved (page : Nat) (entry : Page) (seqCounter : Nat) (shelved : Shelved pageSize state)
    (length : entry.data.length = pageSize) :
    Shelved pageSize { state with
      seqCounter
      pages := state.pages.insert page entry
      lru := state.lru.touch page (!entry.dirty) } := by
  have lookup (other : Nat) : (state.pages.insert page entry).find? other =
      if other = page then some entry else state.pages.find? other := OrderedMap.find?_insert _ _ _ _
  constructor
  · intro other found present
    dsimp only at present
    rw [lookup] at present
    split at present
    · rw [← Option.some.inj present]
      exact length
    · exact shelved.whole other found present
  · refine (shelved.lru.but page fun other different => ?_).touch ?_ ?_
    · rw [contains_iff, contains_iff, CleanAt, CleanAt]
      dsimp only
      rw [lookup, if_neg different]
      exact ⟨Iff.rfl, Iff.rfl⟩
    · rw [contains_iff]
      dsimp only
      rw [lookup, if_pos rfl]
      exact ⟨entry, rfl⟩
    · rw [CleanAt]
      dsimp only
      rw [lookup, if_pos rfl]
      simp

/-- A replaced page changes the number of the dirty pages by its own dirtiness. -/
theorem dirtyCount_put (state : BufferState) (page : Nat) (entry : Page) (lru : Lru) (seqCounter : Nat) :
    ({ state with seqCounter, pages := state.pages.insert page entry, lru } : BufferState).dirtyCount +
        state.pages.weightAt (fun entry => if entry.2.dirty then 1 else 0) page =
      state.dirtyCount + if entry.dirty then 1 else 0 := by
  rw [dirtyCount_tally, dirtyCount_tally]
  exact state.pages.tally_insert (fun entry => if entry.2.dirty then 1 else 0) page entry

theorem residentCount_put (state : BufferState) (page : Nat) (entry : Page) (lru : Lru) (seqCounter : Nat) :
    ({ state with seqCounter, pages := state.pages.insert page entry, lru } : BufferState).residentCount +
      state.pages.weightAt (fun _ => 1) page = state.residentCount + 1 := by
  rw [residentCount_tally, residentCount_tally]
  exact state.pages.tally_insert (fun _ => 1) page entry

/-- A loaded page joins the shelf clean, and the shelf is trimmed around it. -/
structure Loaded (config : BufferedConfig) (page : Nat) (before after : BufferState) : Prop where
  shelved : Shelved config.pageSize after
  resident : after.pages.contains page = true
  dirty : after.dirtyCount = before.dirtyCount
  bounded : config.maxCachedPages ≠ 0 → after.residentCount ≤ Nat.max config.maxCachedPages (before.dirtyCount + 1) ∨
    after.residentCount ≤ before.residentCount
  devSize : after.devSize = before.devSize

theorem insertLoaded_loaded {data : List UInt8} (shelved : Shelved config.pageSize state)
    (length : data.length = config.pageSize) : Loaded config page state (state.insertLoaded config page data) := by
  unfold insertLoaded
  split
  · rename_i present
    exact ⟨shelved, present, rfl, fun _ => .inr le_rfl, rfl⟩
  · rename_i absent
    have missing : state.pages.find? page = none := by simpa [OrderedMap.contains] using absent
    have put := put_shelved page ⟨data, false, state.nextSeq⟩ state.nextSeq shelved length
    have same := dirtyCount_put state page ⟨data, false, state.nextSeq⟩ (state.lru.touch page true)
      state.nextSeq
    rw [OrderedMap.weightAt, missing] at same
    obtain ⟨kept, trimmed⟩ := enforceCacheLimit_trimmed config page put
    have own : (state.pages.insert page ⟨data, false, state.nextSeq⟩).find? page =
        some ⟨data, false, state.nextSeq⟩ := (OrderedMap.find?_insert _ _ _ _).trans (if_pos rfl)
    refine ⟨kept, contains_iff.mpr ⟨_, trimmed.pinned page _ own (.inr rfl)⟩, trimmed.dirty.trans same, fun limited => ?_,
      trimmed.devSize⟩
    have bound := enforceCacheLimit_bounded page limited put
    exact .inl (bound.trans_eq (congrArg (fun count => Nat.max config.maxCachedPages (count + 1)) same))

/-- A copied page becomes the most recent one. -/
theorem copyOut_trimmed {pageOffset len : Nat} {bytes : List UInt8} (shelved : Shelved config.pageSize state)
    (copied : state.copyOut config page pageOffset len = some (bytes, after)) :
    Shelved config.pageSize after ∧ Trimmed page state after := by
  unfold copyOut at copied
  split at copied
  · cases copied
  · rename_i found present
    obtain ⟨rfl, rfl⟩ := Prod.mk.inj (Option.some.inj copied)
    have touched : Shelved config.pageSize { state with lru := state.lru.touch page (!found.dirty) } := by
      refine ⟨shelved.whole, Lru.TracksBut.touch (shelved.lru.but page fun other _ => ⟨Iff.rfl, Iff.rfl⟩) ?_ ?_⟩
      · exact contains_iff.mpr ⟨found, present⟩
      · rw [CleanAt]
        dsimp only
        rw [present]
        simp
    obtain ⟨kept, trimmed⟩ := enforceCacheLimit_trimmed config page touched
    exact ⟨kept, trimmed.kept, trimmed.pinned, trimmed.dirty, trimmed.resident, trimmed.seqCounter, trimmed.devSize⟩

/-- A patched page is dirty, and no other page changes. -/
structure Patched (page : Nat) (before after : BufferState) : Prop where
  dirty : after.dirtyCount ≤ before.dirtyCount + 1
  resident : after.residentCount = before.residentCount
  others : ∀ other, other ≠ page → after.pages.find? other = before.pages.find? other
  devSize : after.devSize = before.devSize

theorem applyPatch_patched {pageOffset : Nat} {patch : List UInt8} (shelved : Shelved config.pageSize state)
    (fits : pageOffset + patch.length ≤ config.pageSize) (applied : state.applyPatch page pageOffset patch = some after) :
    Shelved config.pageSize after ∧ Patched page state after := by
  unfold applyPatch at applied
  split at applied
  · cases applied
  · rename_i found present
    obtain rfl := Option.some.inj applied
    have whole := shelved.whole page found present
    have length : (overwrite found.data pageOffset patch).length = config.pageSize := by
      rw [length_overwrite _ _ _ (by omega), whole]
    have counted := dirtyCount_put state page ⟨overwrite found.data pageOffset patch, true, state.nextSeq⟩
      (state.lru.touch page false) state.nextSeq
    have resident := residentCount_put state page ⟨overwrite found.data pageOffset patch, true, state.nextSeq⟩
      (state.lru.touch page false) state.nextSeq
    rw [OrderedMap.weightAt, present] at resident
    refine ⟨put_shelved page ⟨_, true, _⟩ _ shelved length, ?_, Nat.succ.inj resident, ?_, rfl⟩
    · simp only [if_true] at counted
      exact Nat.le_trans (Nat.le_add_right _ _) counted.le
    · intro other different
      exact (OrderedMap.find?_insert _ _ _ _).trans (if_neg different)

/-- A dirty page is copied with its number. -/
theorem snapshot_dirty {found : Page} (config : BufferedConfig) (present : state.pages.find? page = some found)
    (dirty : found.dirty = true) : ∃ offset bytes, state.snapshot config page = some (found.seq, offset, bytes) := by
  unfold snapshot
  rw [present]
  dsimp only
  rw [if_pos dirty]
  exact ⟨_, _, rfl⟩

/-- A page turns clean and keeps its bytes and its number, and no other page changes. -/
structure Cleaned (page seq : Nat) (before after : BufferState) : Prop where
  dirty : after.dirtyCount ≤ before.dirtyCount
  counted : ∀ found, before.pages.find? page = some found → found.dirty = true → found.seq = seq →
    after.dirtyCount + 1 = before.dirtyCount
  resident : after.residentCount = before.residentCount
  others : ∀ other, other ≠ page → after.pages.find? other = before.pages.find? other
  devSize : after.devSize = before.devSize

theorem markClean_cleaned {seq : Nat} (shelved : Shelved pageSize state) :
    Shelved pageSize (state.markClean page seq) ∧ Cleaned page seq state (state.markClean page seq) := by
  unfold markClean
  split
  · rename_i found present
    split
    · rename_i unchanged
      have counted := dirtyCount_put state page { found with dirty := false } (state.lru.touch page true) state.seqCounter
      have resident := residentCount_put state page { found with dirty := false } (state.lru.touch page true) state.seqCounter
      rw [OrderedMap.weightAt, present] at counted resident
      refine ⟨put_shelved page ⟨_, false, _⟩ _ shelved (shelved.whole page found present), ?_, ?_,
        Nat.succ.inj resident, ?_, rfl⟩
      · exact Nat.le_trans (Nat.le_add_right _ _) counted.le
      · intro same there dirty _
        obtain rfl := Option.some.inj (present.symm.trans there)
        simpa [dirty] using counted
      · intro other different
        exact (OrderedMap.find?_insert _ _ _ _).trans (if_neg different)
    · rename_i changed
      refine ⟨shelved, le_rfl, ?_, rfl, fun _ _ => rfl, rfl⟩
      intro same there _ equal
      obtain rfl := Option.some.inj (present.symm.trans there)
      exact absurd equal changed
  · rename_i missing
    refine ⟨shelved, le_rfl, ?_, rfl, fun _ _ => rfl, rfl⟩
    intro same there
    rw [missing] at there
    cases there

end LockSections

end BufferState

namespace BufferedBackend
open Storage

theorem new_config {config : BufferedConfig} {executor : Executor} {buffer : BufferedBackend}
    (made : new config executor = .ok buffer) : buffer.config = config := by
  unfold new at made
  dsimp only at made
  split at made
  · split at made
    · split at made
      · rw [← Except.ok.inj made]
      · cases made
    · cases made
  · cases made

variable {Inner : Type} [BlobBackend Inner]

/-- A load leaves the pages alone and fills a whole page. -/
theorem loadPage_whole (buffer : BufferedBackend) (page devSize : Nat) (world : BufferWorld Inner) :
    (buffer.loadPage page devSize world).2.state = world.state ∧
      ∀ data after, buffer.loadPage page devSize world = (.ok data, after) → data.length = buffer.config.pageSize := by
  have short : (if 0 < devSize then min (devSize - page * buffer.config.pageSize) buffer.config.pageSize else 0) ≤
      buffer.config.pageSize := by
    split
    · exact Nat.min_le_right _ _
    · exact Nat.zero_le _
  unfold loadPage
  dsimp only
  generalize (if 0 < devSize then min (devSize - page * buffer.config.pageSize) buffer.config.pageSize else 0) =
    readLen at short ⊢
  by_cases reads : 0 < readLen
  · rw [if_pos reads]
    refine ⟨?_, fun data after loaded => ?_⟩
    · rw [Action.bind_apply, Action.withContext, BufferWorld.callInner]
      cases (BlobBackend.read (page * buffer.config.pageSize) readLen world.inner).1 with
      | error error => rfl
      | ok data =>
          simp only [Action.bind_apply, Action.ensure_apply]
          by_cases whole : data.length = readLen
          · rw [if_pos whole]
            rfl
          · rw [if_neg whole]
    · obtain ⟨bytes, between, _, loaded⟩ := Action.bind_inv loaded
      obtain ⟨_, checked, passed, loaded⟩ := Action.bind_inv loaded
      obtain rfl := Except.ok.inj (Prod.mk.inj loaded).1
      rw [List.length_append, List.length_replicate, (Action.ensure_ok passed).1]
      omega
  · rw [if_neg reads]
    refine ⟨rfl, fun data after loaded => ?_⟩
    obtain rfl := Except.ok.inj (Prod.mk.inj loaded).1
    exact List.length_replicate

/-- Dropped writes touch only the inner backend. -/
theorem dropWrites_state (buffer : BufferedBackend) (tasks : List (Nat × WritePhase)) (world : BufferWorld Inner) :
    (buffer.dropWrites tasks world).state = world.state := by
  induction tasks generalizing world with
  | nil => rfl
  | cons task rest ih =>
      obtain ⟨page, phase⟩ := task
      cases phase with
      | waiting => exact ih world
      | writing seq offset bytes => exact ih _
      | written seq => exact ih world
      | done result => exact ih world

end BufferedBackend
end UblkAzblob

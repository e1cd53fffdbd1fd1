import UblkAzblob.Proof.BufferState
import UblkAzblob.Proof.BufferedTidy

namespace UblkAzblob
namespace BufferedBackend
open Storage

variable {Inner : Type} [BlobBackend Inner] [SectorStore Inner]
variable {buffer : BufferedBackend} {device : Nat} {world : BufferWorld Inner}

/-- The stored part of a page ends at the end of the device. -/
def pageLen (buffer : BufferedBackend) (device page : Nat) : Nat :=
  min buffer.config.pageSize (device - page * buffer.config.pageSize)

theorem mem_page (buffer : BufferedBackend) (device page x : Nat) :
    (page * buffer.config.pageSize ≤ x ∧ x < page * buffer.config.pageSize + buffer.pageLen device page) ↔
      x / buffer.config.pageSize = page ∧ x < device := by
  have positive := pageSize_pos buffer
  rw [Nat.div_eq_iff positive]
  simp only [pageLen]
  have next : (page + 1) * buffer.config.pageSize =
      page * buffer.config.pageSize + buffer.config.pageSize := Nat.succ_mul _ _
  omega

/-- A flush task holds the bytes of a dirty page, or has already stored them. -/
def WriteReady (buffer : BufferedBackend) (device : Nat) (world : BufferWorld Inner) (page : Nat) :
    WritePhase → Prop
  | .waiting => True
  | .writing seq offset bytes => ∃ found, world.state.pages.find? page = some found ∧
      found.dirty = true ∧ found.seq = seq ∧ offset = page * buffer.config.pageSize ∧
      bytes = found.data.take (buffer.pageLen device page)
  | .written seq => ∃ found, world.state.pages.find? page = some found ∧
      found.dirty = true ∧ found.seq = seq ∧ ∀ x, x < device → x / buffer.config.pageSize = page →
        byteAt found.data (x % buffer.config.pageSize) = SectorStore.content world.inner x
  | .done (.ok ()) => ∀ found, world.state.pages.find? page = some found → found.dirty = false
  | .done (.error _) => True

/-- Two worlds look alike on one page. -/
structure SamePage (buffer : BufferedBackend) (device page : Nat) (before after : BufferWorld Inner) :
    Prop where
  found : after.state.pages.find? page = before.state.pages.find? page
  inner : ∀ x, x < device → x / buffer.config.pageSize = page →
    SectorStore.content after.inner x = SectorStore.content before.inner x

theorem WriteReady.frame {page : Nat} {phase : WritePhase} {after : BufferWorld Inner}
    (same : SamePage buffer device page world after) (ready : WriteReady buffer device world page phase) :
    WriteReady buffer device after page phase := by
  cases phase with
  | waiting => trivial
  | writing seq offset bytes =>
      simp only [WriteReady, same.found]
      exact ready
  | written seq =>
      obtain ⟨found, present, dirty, current, stored⟩ := ready
      refine ⟨found, same.found.trans present, dirty, current, ?_⟩
      intro x inside own
      rw [same.inner x inside own]
      exact stored x inside own
  | done result =>
      cases result with
      | error error => trivial
      | ok value =>
          simp only [WriteReady, same.found]
          exact ready

/-- A page write is aligned and stays inside the device. -/
structure Placed (buffer : BufferedBackend) (device page : Nat) (bytes : List UInt8) : Prop where
  length : bytes.length = buffer.pageLen device page
  startAligned : page * buffer.config.pageSize % 512 = 0
  lenAligned : bytes.length % 512 = 0
  inside : page * buffer.config.pageSize + bytes.length ≤ device

theorem placed_of_resident {page : Nat} {found : Page} (tidy : Tidy buffer device world)
    (present : world.state.pages.find? page = some found) :
    Placed buffer device page (found.data.take (buffer.pageLen device page)) := by
  obtain ⟨length, inside, _⟩ := tidy.pages page found present
  have aligned := buffer.aligned
  obtain ⟨deviceAligned, _⟩ := SectorStore.aligned world.inner tidy.valid
  rw [tidy.size] at deviceAligned
  have startAligned : page * buffer.config.pageSize % 512 = 0 := by rw [Nat.mul_mod, aligned]; simp
  have taken : (found.data.take (buffer.pageLen device page)).length = buffer.pageLen device page := by
    rw [List.length_take, length]
    simp only [pageLen]
    omega
  refine ⟨taken, startAligned, ?_, ?_⟩
  · rw [taken]
    simp only [pageLen]
    omega
  · rw [taken]
    simp only [pageLen]
    omega

/-- The stored part of a resident page is a slice of the contents. -/
theorem resident_slice {page : Nat} {found : Page} (tidy : Tidy buffer device world)
    (present : world.state.pages.find? page = some found) :
    found.data.take (buffer.pageLen device page) =
      slice (buffer.contents world) (page * buffer.config.pageSize) (buffer.pageLen device page) := by
  have placed := placed_of_resident tidy present
  apply bytes_ext (by rw [placed.length, length_slice])
  intro index inside
  rw [placed.length] at inside
  have fits : index < buffer.config.pageSize := by simp only [pageLen] at inside; omega
  obtain ⟨own, rest⟩ := page_split page fits
  rw [byteAt_slice, if_pos inside, BufferedBackend.contents, own, rest]
  simp only [present, byteAt, List.getD_eq_getElem?_getD, List.getElem?_take_of_lt inside]

/-- A page write that ends in any mixture of sectors settles the buffer while the page is dirty. -/
theorem torn_settled {page : Nat} {found : Page} {inner : Inner} {keep : Nat → Bool}
    (tidy : Tidy buffer device world) (present : world.state.pages.find? page = some found)
    (dirty : found.dirty = true) (valid : SectorStore.valid inner)
    (size : SectorStore.size inner = SectorStore.size world.inner)
    (mixed : SectorStore.content inner = torn keep (SectorStore.content world.inner)
      (splice (SectorStore.content world.inner) (page * buffer.config.pageSize)
        (found.data.take (buffer.pageLen device page)))) :
    Settled buffer device world { world with inner } ∧
      ∀ other, other ≠ page → SamePage buffer device other world { world with inner } := by
  have placed := placed_of_resident tidy present
  have others : ∀ x, x < device → x / buffer.config.pageSize ≠ page →
      SectorStore.content inner x = SectorStore.content world.inner x := by
    intro x _ different
    have outside := (mem_page buffer device page x).not.mpr (by simp [different])
    rw [mixed, torn_outside (by rw [placed.length]; omega)]
  refine ⟨settled_of_inner tidy valid (size.trans tidy.size) present dirty others ?_, ?_⟩
  · intro allowed shown inner
    rw [mixed]
    refine inner.torn (inner.splice (.inr ⟨placed.startAligned, placed.lenAligned⟩) ?_)
    rw [resident_slice tidy present]
    exact shown.slice (by rw [← placed.length]; exact placed.inside)
  intro other different
  exact ⟨rfl, fun x inside own => others x inside (by rw [own]; exact different)⟩

/-- A stored page may turn clean. -/
theorem markClean_settled {page seq : Nat} {found : Page} (tidy : Tidy buffer device world)
    (present : world.state.pages.find? page = some found) (current : found.seq = seq)
    (stored : ∀ x, x < device → x / buffer.config.pageSize = page →
      byteAt found.data (x % buffer.config.pageSize) = SectorStore.content world.inner x) :
    Settled buffer device world (world.update (.markClean page seq)) ∧
      (∀ other, other ≠ page →
        SamePage buffer device other world (world.update (.markClean page seq))) ∧
      ∀ after, (world.update (.markClean page seq)).state.pages.find? page = some after →
        after.dirty = false := by
  have unfolded : world.update (.markClean page seq) = { world with state := { world.state with
      pages := world.state.pages.insert page { found with dirty := false }
      lru := world.state.lru.touch page true } } := by
    simp only [BufferWorld.update, BufferState.markClean, present, current, if_true]
  set cleaned : BufferWorld Inner := { world with state := { world.state with
    pages := world.state.pages.insert page { found with dirty := false } } } with cleanedEq
  have lookup (other : Nat) : cleaned.state.pages.find? other =
      if other = page then some { found with dirty := false } else world.state.pages.find? other :=
    OrderedMap.find?_insert _ _ _ _
  have settled : Settled buffer device world cleaned := by
    refine ⟨⟨tidy.valid, tidy.size, tidy.devSize, ?_, ?_, tidy.lru, ?_⟩, id, ?_,
      fun _ _ inner => inner⟩
    · intro other otherFound otherPresent
      rw [lookup] at otherPresent
      split at otherPresent
      · rename_i own
        cases otherPresent
        rw [own]
        exact tidy.pages page found present
      · exact tidy.pages other otherFound otherPresent
    · intro other otherFound otherPresent clean
      rw [lookup] at otherPresent
      split at otherPresent
      · rename_i own
        cases otherPresent
        rw [own]
        exact stored
      · exact tidy.clean other otherFound otherPresent clean
    · intro other known otherFound otherPresent
      rw [lookup] at otherPresent
      split at otherPresent
      · cases otherPresent
        rfl
      · exact tidy.evictable other known otherFound otherPresent
    · intro x _ _
      simp only [BufferedBackend.contents, lookup]
      by_cases own : x / buffer.config.pageSize = page
      · rw [if_pos own, own, present]
      · rw [if_neg own]
  have touched := touch_settled page true settled.tidy (by
    intro _ other otherPresent
    rw [lookup, if_pos rfl] at otherPresent
    cases otherPresent
    rfl)
  rw [unfolded]
  refine ⟨settled.trans touched, ?_, ?_⟩
  · intro other different
    exact ⟨(lookup other).trans (if_neg different), fun _ _ _ => rfl⟩
  · intro after afterPresent
    have own := (lookup page).symm.trans afterPresent
    rw [if_pos rfl] at own
    cases own
    rfl

/-- Every page that is dirty afterwards was dirty before. -/
def DirtyBefore (before after : BufferWorld Inner) : Prop :=
  ∀ page found, after.state.pages.find? page = some found → found.dirty = true →
    ∃ earlier, before.state.pages.find? page = some earlier ∧ earlier.dirty = true

omit [BlobBackend Inner] [SectorStore Inner] in
theorem DirtyBefore.refl (world : BufferWorld Inner) : DirtyBefore world world :=
  fun _ found present dirty => ⟨found, present, dirty⟩

omit [BlobBackend Inner] [SectorStore Inner] in
theorem DirtyBefore.trans {first middle last : BufferWorld Inner} (head : DirtyBefore first middle)
    (tail : DirtyBefore middle last) : DirtyBefore first last := by
  intro page found present dirty
  obtain ⟨earlier, held, wasDirty⟩ := tail page found present dirty
  exact head page earlier held wasDirty

/-- One step of a flush task settles the buffer and leaves every other page alone. -/
theorem flushIndex_spec {page : Nat} {phase : WritePhase} (tidy : Tidy buffer device world)
    (ready : WriteReady buffer device world page phase) :
    Settled buffer device world (buffer.flushIndex page phase world).2 ∧
      WriteReady buffer device (buffer.flushIndex page phase world).2 page
        (buffer.flushIndex page phase world).1 ∧
      (∀ other, other ≠ page →
        SamePage buffer device other world (buffer.flushIndex page phase world).2) ∧
      DirtyBefore world (buffer.flushIndex page phase world).2 := by
  have unchanged (phase : WritePhase) (ready : WriteReady buffer device world page phase) :
      Settled buffer device world world ∧ WriteReady buffer device world page phase ∧
        (∀ other, other ≠ page → SamePage buffer device other world world) ∧
        DirtyBefore world world :=
    ⟨.refl tidy, ready, fun _ _ => ⟨rfl, fun _ _ _ => rfl⟩, .refl world⟩
  cases phase with
  | waiting =>
      simp only [flushIndex, BufferState.snapshot]
      cases present : world.state.pages.find? page with
      | none => exact unchanged _ (by simp [WriteReady, present])
      | some found =>
          by_cases dirty : found.dirty
          · obtain ⟨length, inside, known⟩ := tidy.pages page found present
            have writeLen : (if 0 < world.state.devSize then
                min found.data.length (world.state.devSize - page * buffer.config.pageSize)
                else found.data.length) = buffer.pageLen device page := by
              rw [if_pos (by omega), length, known, pageLen]
            have placed := placed_of_resident tidy present
            simp only [if_pos dirty, writeLen]
            rw [if_neg]
            · exact unchanged _ ⟨found, present, dirty, rfl, rfl, rfl⟩
            · have positive := pageSize_pos buffer
              rw [placed.length, pageLen]
              omega
          · simp only [if_neg dirty]
            refine unchanged _ ?_
            intro other otherPresent
            rw [present] at otherPresent
            cases otherPresent
            simpa using dirty
  | writing seq offset bytes =>
      obtain ⟨found, present, dirty, current, rfl, rfl⟩ := ready
      have placed := placed_of_resident tidy present
      have inBounds : page * buffer.config.pageSize +
          (found.data.take (buffer.pageLen device page)).length ≤ SectorStore.size world.inner := by
        rw [tidy.size]
        exact placed.inside
      obtain ⟨valid, size⟩ := SectorStore.write_keeps world.inner _ _ tidy.valid placed.startAligned
        placed.lenAligned inBounds
      obtain ⟨keep, mixed⟩ := SectorStore.write_torn world.inner _ _ tidy.valid placed.startAligned
        placed.lenAligned inBounds
      have success := SectorStore.write_ok world.inner _ _ tidy.valid placed.startAligned
        placed.lenAligned inBounds
      obtain ⟨settled, others⟩ := torn_settled tidy present dirty valid size mixed
      simp only [flushIndex, Action.withContext, BufferWorld.callInner]
      cases answer : (BlobBackend.write (page * buffer.config.pageSize)
          (found.data.take (buffer.pageLen device page)) world.inner).1 with
      | error error => exact ⟨settled, trivial, others, fun _ found held dirty => ⟨found, held, dirty⟩⟩
      | ok value =>
          refine ⟨settled, ⟨found, present, dirty, current, ?_⟩, others,
            fun _ found held dirty => ⟨found, held, dirty⟩⟩
          intro x inside own
          obtain ⟨low, high⟩ := (mem_page buffer device page x).mpr ⟨own, inside⟩
          have split := Nat.div_add_mod' x buffer.config.pageSize
          rw [own] at split
          have within : x % buffer.config.pageSize < buffer.pageLen device page := by omega
          dsimp only
          rw [success answer, splice_inside low (by rw [placed.length]; exact high)]
          rw [show x - page * buffer.config.pageSize = x % buffer.config.pageSize by omega]
          simp only [byteAt, List.getD_eq_getElem?_getD, List.getElem?_take_of_lt within]
  | written seq =>
      obtain ⟨found, present, dirty, current, stored⟩ := ready
      obtain ⟨settled, others, clean⟩ := markClean_settled tidy present current stored
      refine ⟨settled, clean, others, ?_⟩
      intro other after held stillDirty
      by_cases own : other = page
      · subst own
        exact absurd stillDirty (by rw [clean after held]; simp)
      · exact ⟨after, (others other own).found.symm.trans held, stillDirty⟩
  | done result => exact unchanged _ ready

/-- Dropped writes of dirty pages settle the buffer and leave its pages alone. -/
theorem dropWrites_settled (tasks : List (Nat × WritePhase)) (world : BufferWorld Inner)
    (tidy : Tidy buffer device world)
    (ready : ∀ page seq offset bytes, (page, .writing seq offset bytes) ∈ tasks →
      WriteReady buffer device world page (.writing seq offset bytes)) :
    Settled buffer device world (buffer.dropWrites tasks world) := by
  induction tasks generalizing world with
  | nil => exact .refl tidy
  | cons task rest ih =>
      obtain ⟨page, phase⟩ := task
      have later (page : Nat) (seq offset : Nat) (bytes : List UInt8)
          (member : (page, .writing seq offset bytes) ∈ rest) :=
        ready page seq offset bytes (List.mem_cons_of_mem _ member)
      cases phase with
      | waiting => exact ih world tidy later
      | written seq => exact ih world tidy later
      | done result => exact ih world tidy later
      | writing seq offset bytes =>
          obtain ⟨found, present, dirty, _, rfl, rfl⟩ :=
            ready page seq offset bytes List.mem_cons_self
          have placed := placed_of_resident tidy present
          obtain ⟨valid, size, keep, mixed⟩ := SectorStore.abandon_torn world.inner
            (buffer.executor.progress world.clock page) _ _ tidy.valid placed.startAligned
            placed.lenAligned (by rw [tidy.size]; exact placed.inside)
          have settled := (torn_settled tidy present dirty valid size mixed).1
          simp only [dropWrites]
          exact settled.trans (ih _ settled.tidy later)

/-- A flush of some pages settles the buffer; after a successful one these pages are clean. -/
theorem flushIndices_spec {indices : List Nat} (tidy : Tidy buffer device world)
    (distinct : indices.Nodup) :
    Settled buffer device world (buffer.flushIndices indices world).2 ∧
      ((buffer.flushIndices indices world).1 = .ok () →
        DirtyBefore world (buffer.flushIndices indices world).2 ∧ ∀ page ∈ indices, ∀ found,
          (buffer.flushIndices indices world).2.state.pages.find? page = some found →
            found.dirty = false) := by
  set started : BufferWorld Inner := { world with clock := world.clock + 1 } with startedEq
  have start : Settled buffer device world started :=
    ⟨⟨tidy.valid, tidy.size, tidy.devSize, tidy.pages, tidy.clean, tidy.lru, tidy.evictable⟩, id,
      fun _ _ _ => rfl, fun _ _ inner => inner⟩
  obtain ⟨⟨settled, fewer⟩, keys, ready⟩ := interleave_tasks buffer.flushIndex
    (fun tasks => tasks.any fun task => task.2.error?.isSome)
    (fun world => Settled buffer device started world ∧ DirtyBefore started world)
    (fun world page phase => WriteReady buffer device world page phase) (by
      rintro page phase world ⟨settled, fewer⟩ ready
      obtain ⟨step, moved, others, undirtied⟩ := flushIndex_spec settled.tidy ready
      exact ⟨⟨settled.trans step, fewer.trans undirtied⟩, moved, fun other idle different held =>
        held.frame (others other different)⟩)
    (buffer.flushOrder indices world.clock) (indices.map fun page => (page, .waiting)) started
    (by rw [map_fst_tagged]; exact distinct) ⟨.refl start.tidy, .refl started⟩ (by
      intro page phase member
      obtain ⟨_, rfl⟩ := mem_tagged member
      trivial)
  rw [map_fst_tagged] at keys
  simp only [flushIndices, ← startedEq]
  set ended := interleave buffer.flushIndex
    (fun tasks => tasks.any fun task => task.2.error?.isSome) (buffer.flushOrder indices world.clock)
    (indices.map fun page => (page, .waiting)) started
  have dropped : Settled buffer device ended.2 (buffer.dropWrites ended.1 ended.2) :=
    dropWrites_settled _ _ settled.tidy fun page seq offset bytes member => ready page _ member
  cases failed : ended.1.findSome? fun task => task.2.error? with
  | some error => exact ⟨start.trans (settled.trans dropped), by simp⟩
  | none =>
      dsimp only
      split
      · rename_i finished
        refine ⟨start.trans settled, fun _ => ⟨fewer, fun page member found present => ?_⟩⟩
        rw [← keys] at member
        obtain ⟨⟨key, phase⟩, inside, same⟩ := List.mem_map.mp member
        obtain rfl : key = page := same
        have ended := List.all_eq_true.mp finished _ inside
        have held := ready key phase inside
        have noError := List.findSome?_eq_none_iff.mp failed _ inside
        cases phase with
        | waiting => cases ended
        | writing seq offset bytes => cases ended
        | written seq => cases ended
        | done result =>
            cases result with
            | error error => cases noError
            | ok value => exact held found present
      · exact ⟨start.trans (settled.trans dropped), by simp⟩

theorem enforceDirtyLimit_settled (tidy : Tidy buffer device world) :
    Settled buffer device world (buffer.enforceDirtyLimit world).2 := by
  simp only [enforceDirtyLimit]
  split
  · exact .refl tidy
  · exact (flushIndices_spec tidy (BufferState.victims_nodup _ _)).1

/-- A successful flush leaves no dirty page, and then the inner store shows the contents. -/
theorem flush_spec (tidy : Tidy buffer device world) :
    Settled buffer device world (buffer.flush world).2 ∧
      ((buffer.flush world).1 = .ok () → AgreeOn 0 device
        (SectorStore.content (buffer.flush world).2.inner) (buffer.contents world)) := by
  have conclude (after : BufferWorld Inner) (settled : Settled buffer device world after)
      (clean : ∀ page found, after.state.pages.find? page = some found → found.dirty = false) :
      Settled buffer device world (BufferWorld.callInner BlobBackend.flush after).2 ∧
        ((BufferWorld.callInner BlobBackend.flush after).1 = .ok () → AgreeOn 0 device
          (SectorStore.content (BufferWorld.callInner BlobBackend.flush after).2.inner)
          (buffer.contents world)) := by
    have keeps := SectorStore.flush_keeps after.inner settled.tidy.valid
    refine ⟨settled.trans (callInner_settled settled.tidy keeps), fun _ => ?_⟩
    refine AgreeOn.trans ?_ settled.contents
    intro x _ inside
    rw [show SectorStore.content (BufferWorld.callInner BlobBackend.flush after).2.inner =
      SectorStore.content after.inner from keeps.2.1, BufferedBackend.contents]
    cases present : after.state.pages.find? (x / buffer.config.pageSize) with
    | none => rfl
    | some found =>
        exact (settled.tidy.clean _ found present (clean _ found present) x inside rfl).symm
  simp only [flush]
  split
  · obtain ⟨settled, cleaned⟩ := flushIndices_spec tidy (BufferState.dirtyIndices_nodup world.state)
    simp only [Action.bind_apply]
    cases answer : buffer.flushIndices world.state.dirtyIndices world with
    | mk outcome after =>
        rw [answer] at settled cleaned
        cases outcome with
        | error error => exact ⟨settled, by simp⟩
        | ok value =>
            obtain ⟨fewer, clean⟩ := cleaned rfl
            refine conclude after settled ?_
            intro page found present
            by_contra dirty
            rw [Bool.not_eq_false] at dirty
            obtain ⟨earlier, held, wasDirty⟩ := fewer page found present dirty
            exact Bool.false_ne_true
              ((clean page (BufferState.mem_dirty.mpr ⟨_, held, wasDirty⟩) found present).symm.trans dirty)
  · rename_i none
    refine conclude world (.refl tidy) ?_
    intro page found present
    by_contra dirty
    rw [Bool.not_eq_false] at dirty
    have member := BufferState.mem_dirty.mpr ⟨_, present, dirty⟩
    rw [not_not.mp none] at member
    cases member

/-- A successful flush ends with a successful flush of the inner store. -/
theorem flush_reaches (tidy : Tidy buffer device world) (success : (buffer.flush world).1 = .ok ()) :
    ∃ inner, SectorStore.valid inner ∧ SectorStore.size inner = device ∧
      BlobBackend.flush inner = (.ok (), (buffer.flush world).2.inner) := by
  have conclude (after : BufferWorld Inner) (settled : Settled buffer device world after)
      (flushed : (BufferWorld.callInner BlobBackend.flush after).1 = .ok ()) :
      ∃ inner, SectorStore.valid inner ∧ SectorStore.size inner = device ∧
        BlobBackend.flush inner =
          (.ok (), (BufferWorld.callInner BlobBackend.flush after).2.inner) :=
    ⟨after.inner, settled.tidy.valid, settled.tidy.size, Prod.ext flushed rfl⟩
  simp only [flush] at success ⊢
  split
  · rename_i some
    obtain ⟨settled, _⟩ := flushIndices_spec tidy (BufferState.dirtyIndices_nodup world.state)
    simp only [if_pos some, Action.bind_apply] at success ⊢
    cases answer : buffer.flushIndices world.state.dirtyIndices world with
    | mk outcome after =>
        rw [answer] at settled success
        cases outcome with
        | error error => cases success
        | ok value => exact conclude after settled success
  · rename_i none
    simp only [if_neg none] at success
    exact conclude world (.refl tidy) success

end BufferedBackend
end UblkAzblob

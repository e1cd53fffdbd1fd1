import UblkAzblob.Construction.Buffered
import UblkAzblob.Proof.CacheLru
import UblkAzblob.Proof.SectorStore

namespace UblkAzblob
namespace BufferedBackend
open Storage

variable {Inner : Type} [BlobBackend Inner] [SectorStore Inner]

/-- The contents are read from the resident pages, and from the inner store elsewhere. -/
def contents (buffer : BufferedBackend) (world : BufferWorld Inner) : Store := fun x =>
  match world.state.pages.find? (x / buffer.config.pageSize) with
  | some found => byteAt found.data (x % buffer.config.pageSize)
  | none => SectorStore.content world.inner x

/-- The clean pages of a tidy buffer repeat the inner store, and only clean pages are evictable. -/
structure Tidy (buffer : BufferedBackend) (device : Nat) (world : BufferWorld Inner) : Prop where
  valid : SectorStore.valid world.inner
  size : SectorStore.size world.inner = device
  devSize : world.state.devSize = 0 ∨ world.state.devSize = device
  pages : ∀ page found, world.state.pages.find? page = some found →
    found.data.length = buffer.config.pageSize ∧ page * buffer.config.pageSize < device ∧
      world.state.devSize = device
  clean : ∀ page found, world.state.pages.find? page = some found → found.dirty = false →
    ∀ x, x < device → x / buffer.config.pageSize = page →
      byteAt found.data (x % buffer.config.pageSize) = SectorStore.content world.inner x
  lru : world.state.lru.Valid
  evictable : ∀ page, world.state.lru.Evictable page → ∀ found,
    world.state.pages.find? page = some found → found.dirty = false

/-- A settled buffer is tidy and shows the same contents; the inner store may have taken over some
sectors of them. -/
structure Settled (buffer : BufferedBackend) (device : Nat) (before after : BufferWorld Inner) :
    Prop where
  tidy : Tidy buffer device after
  known : before.state.devSize = device → after.state.devSize = device
  contents : AgreeOn 0 device (buffer.contents after) (buffer.contents before)
  sectors : ∀ allowed, SectorsIn device allowed (buffer.contents before) →
    SectorsIn device allowed (SectorStore.content before.inner) →
    SectorsIn device allowed (SectorStore.content after.inner)

variable {buffer : BufferedBackend} {device : Nat} {world : BufferWorld Inner}

theorem Settled.refl (tidy : Tidy buffer device world) : Settled buffer device world world :=
  ⟨tidy, id, fun _ _ _ => rfl, fun _ _ inner => inner⟩

theorem Tidy.deviceAligned (tidy : Tidy buffer device world) : device % 512 = 0 := by
  rw [← tidy.size]
  exact (SectorStore.aligned world.inner tidy.valid).1

theorem Settled.trans {first middle last : BufferWorld Inner} (head : Settled buffer device first middle)
    (tail : Settled buffer device middle last) : Settled buffer device first last :=
  ⟨tail.tidy, fun known => tail.known (head.known known), tail.contents.trans head.contents,
    fun allowed shown inner => tail.sectors allowed (shown.congr head.tidy.deviceAligned head.contents)
      (head.sectors allowed shown inner)⟩

/-- The inner store may change under a dirty page, which hides it. -/
theorem settled_of_inner {page : Nat} {found : Page} {inner : Inner} (tidy : Tidy buffer device world)
    (valid : SectorStore.valid inner) (size : SectorStore.size inner = device)
    (resident : world.state.pages.find? page = some found) (dirty : found.dirty = true)
    (others : ∀ x, x < device → x / buffer.config.pageSize ≠ page →
      SectorStore.content inner x = SectorStore.content world.inner x)
    (sectors : ∀ allowed, SectorsIn device allowed (buffer.contents world) →
      SectorsIn device allowed (SectorStore.content world.inner) →
      SectorsIn device allowed (SectorStore.content inner)) :
    Settled buffer device world { world with inner } := by
  refine ⟨⟨valid, size, tidy.devSize, tidy.pages, ?_, tidy.lru, tidy.evictable⟩, id, ?_, sectors⟩
  · intro other otherFound present clean x inside own
    have different : other ≠ page := by
      rintro rfl
      obtain rfl := Option.some.inj (resident.symm.trans present)
      exact Bool.false_ne_true (clean.symm.trans dirty)
    rw [tidy.clean other otherFound present clean x inside own]
    exact (others x inside (by rw [own]; exact different)).symm
  · intro x _ inside
    simp only [BufferedBackend.contents]
    cases lookup : world.state.pages.find? (x / buffer.config.pageSize) with
    | some other => rfl
    | none =>
        refine others x inside ?_
        intro own
        rw [own, resident] at lookup
        cases lookup

/-- Eviction removes clean pages only. -/
theorem evictLoop_settled (buffer : BufferedBackend) (max : Nat) (protect fuel : Nat) (world : BufferWorld Inner)
    (tidy : Tidy buffer device world) :
    Settled buffer device world
        (world.update (BufferState.evictLoop max (some protect) fuel)) ∧
      (world.update (BufferState.evictLoop max (some protect) fuel)).state.pages.find? protect =
        world.state.pages.find? protect := by
  induction fuel generalizing world with
  | zero => exact ⟨.refl tidy, rfl⟩
  | succ fuel ih =>
      simp only [BufferWorld.update, BufferState.evictLoop]
      split
      · exact ⟨.refl tidy, rfl⟩
      cases victim : world.state.lru.popLru (some protect) with
      | mk found next =>
          cases found with
          | none => exact ⟨.refl tidy, rfl⟩
          | some page =>
              obtain ⟨candidate, unprotected, valid, remaining⟩ := Lru.popLru_spec tidy.lru victim
              set evicted : BufferWorld Inner := { world with state :=
                { world.state with lru := next, pages := world.state.pages.erase page } } with evictedEq
              have lookup (other : Nat) : evicted.state.pages.find? other =
                  if other = page then none else world.state.pages.find? other :=
                OrderedMap.find?_erase _ _ _
              have lookupSome {other : Nat} {found : Page}
                  (present : evicted.state.pages.find? other = some found) :
                  world.state.pages.find? other = some found := by
                rw [lookup] at present
                split at present
                · cases present
                · exact present
              have settled : Settled buffer device world evicted := by
                refine ⟨⟨tidy.valid, tidy.size, tidy.devSize,
                  fun other found present => tidy.pages other found (lookupSome present),
                  fun other found present => tidy.clean other found (lookupSome present), valid,
                  fun other known found present => tidy.evictable other
                    ((remaining other).mp known).1 found (lookupSome present)⟩, id, ?_,
                  fun _ _ inner => inner⟩
                intro x _ inside
                simp only [BufferedBackend.contents, lookup]
                by_cases own : x / buffer.config.pageSize = page
                · rw [if_pos own]
                  cases present : world.state.pages.find? (x / buffer.config.pageSize) with
                  | none => rfl
                  | some found =>
                      rw [own] at present
                      exact (tidy.clean page found present
                        (tidy.evictable page candidate found present) x inside own).symm
                · rw [if_neg own]
              obtain ⟨rest, kept⟩ := ih evicted settled.tidy
              refine ⟨settled.trans rest, kept.trans ?_⟩
              rw [lookup, if_neg]
              rintro rfl
              exact unprotected rfl

theorem enforceCacheLimit_settled (protect : Nat) (tidy : Tidy buffer device world) :
    Settled buffer device world
        (world.update (BufferState.enforceCacheLimit buffer.config (some protect))) ∧
      (world.update (BufferState.enforceCacheLimit buffer.config
        (some protect))).state.pages.find? protect = world.state.pages.find? protect := by
  by_cases unlimited : buffer.config.maxCachedPages = 0
  · simp only [BufferWorld.update, BufferState.enforceCacheLimit, if_pos unlimited]
    exact ⟨.refl tidy, trivial⟩
  · have evicted := evictLoop_settled buffer buffer.config.maxCachedPages protect
      world.state.lru.evictable.entries.length world tidy
    simp only [BufferWorld.update, BufferState.enforceCacheLimit, if_neg unlimited]
    exact evicted

theorem pageSize_pos (buffer : BufferedBackend) : 0 < buffer.config.pageSize := by
  have := buffer.positive
  omega

/-- A reclassified page keeps the buffer tidy. -/
theorem touch_settled (page : Nat) (clean : Bool) (tidy : Tidy buffer device world)
    (classified : clean = true → ∀ found, world.state.pages.find? page = some found →
      found.dirty = false) :
    Settled buffer device world
      (world.update fun state => { state with lru := state.lru.touch page clean }) := by
  refine ⟨⟨tidy.valid, tidy.size, tidy.devSize, tidy.pages, tidy.clean,
    Lru.touch_valid _ tidy.lru page clean, ?_⟩, id, fun _ _ _ => rfl, fun _ _ inner => inner⟩
  intro other known found present
  have known := (Lru.touch_evictable _ tidy.lru page clean other).mp known
  by_cases own : other = page
  · rw [if_pos own] at known
    rw [own] at present
    exact classified known found present
  · rw [if_neg own] at known
    exact tidy.evictable other known found present

/-- A page whose bytes repeat the inner store may be inserted as a clean page. -/
theorem insertLoaded_settled {page : Nat} {data : List UInt8} (tidy : Tidy buffer device world)
    (known : world.state.devSize = device) (inside : page * buffer.config.pageSize < device)
    (length : data.length = buffer.config.pageSize)
    (fresh : ∀ x, x < device → x / buffer.config.pageSize = page →
      byteAt data (x % buffer.config.pageSize) = SectorStore.content world.inner x) :
    Settled buffer device world (world.update (.insertLoaded buffer.config page data)) ∧
      ∃ found, (world.update (.insertLoaded buffer.config page data)).state.pages.find? page =
        some found := by
  simp only [BufferWorld.update, BufferState.insertLoaded]
  split
  · rename_i present
    exact ⟨.refl tidy, Option.isSome_iff_exists.mp present⟩
  · rename_i absent
    have missing : world.state.pages.find? page = none := by
      simpa [OrderedMap.contains] using absent
    set inserted : BufferWorld Inner := { world with state := { world.state with
      seqCounter := world.state.nextSeq
      pages := world.state.pages.insert page ⟨data, false, world.state.nextSeq⟩ } } with insertedEq
    have lookup (other : Nat) : inserted.state.pages.find? other =
        if other = page then some ⟨data, false, world.state.nextSeq⟩
        else world.state.pages.find? other := OrderedMap.find?_insert _ _ _ _
    have insertedSettled : Settled buffer device world inserted := by
      refine ⟨⟨tidy.valid, tidy.size, tidy.devSize, ?_, ?_, tidy.lru, ?_⟩, id, ?_,
        fun _ _ inner => inner⟩
      · intro other found present
        rw [lookup] at present
        split at present
        · rename_i own
          cases present
          rw [own]
          exact ⟨length, inside, known⟩
        · exact tidy.pages other found present
      · intro other found present clean
        rw [lookup] at present
        split at present
        · rename_i own
          cases present
          rw [own]
          exact fresh
        · exact tidy.clean other found present clean
      · intro other known found present
        rw [lookup] at present
        split at present
        · cases present
          rfl
        · exact tidy.evictable other known found present
      · intro x _ device
        simp only [BufferedBackend.contents, lookup]
        by_cases own : x / buffer.config.pageSize = page
        · rw [if_pos own, own, missing]
          exact fresh x device own
        · rw [if_neg own]
    have touched := touch_settled page true insertedSettled.tidy (by
      intro _ found present
      rw [lookup, if_pos rfl] at present
      cases present
      rfl)
    obtain ⟨limited, kept⟩ := enforceCacheLimit_settled page touched.tidy
    have resident : inserted.state.pages.find? page =
        some ⟨data, false, world.state.nextSeq⟩ := by
      rw [lookup, if_pos rfl]
    exact ⟨insertedSettled.trans (touched.trans limited), _, kept.trans resident⟩

/-- An inner call that keeps the contents settles the buffer. -/
theorem callInner_settled {Value : Type} {action : Action Inner Value} (tidy : Tidy buffer device world)
    (keeps : SectorStore.valid (action world.inner).2 ∧
      SectorStore.content (action world.inner).2 = SectorStore.content world.inner ∧
      SectorStore.size (action world.inner).2 = SectorStore.size world.inner) :
    Settled buffer device world (BufferWorld.callInner action world).2 := by
  obtain ⟨valid, content, size⟩ := keeps
  refine ⟨⟨valid, size.trans tidy.size, tidy.devSize, tidy.pages, ?_, tidy.lru, tidy.evictable⟩, id,
    ?_, fun _ _ inner => by rw [BufferWorld.callInner, content]; exact inner⟩
  · intro page found present clean x inside own
    rw [tidy.clean page found present clean x inside own]
    exact (congrFun content x).symm
  · intro x _ _
    simp only [BufferedBackend.contents, BufferWorld.callInner, content]

/-- Loading a page changes nothing, and its bytes repeat the inner store. -/
theorem loadPage_spec {page : Nat} (tidy : Tidy buffer device world)
    (inside : page * buffer.config.pageSize < device) :
    Settled buffer device world (buffer.loadPage page device world).2 ∧
      ∀ data, (buffer.loadPage page device world).1 = .ok data →
        data.length = buffer.config.pageSize ∧
        ∀ x, x < device → x / buffer.config.pageSize = page → byteAt data (x % buffer.config.pageSize) =
          SectorStore.content (buffer.loadPage page device world).2.inner x := by
  have positive := pageSize_pos buffer
  have aligned := buffer.aligned
  obtain ⟨deviceAligned, _⟩ := SectorStore.aligned world.inner tidy.valid
  rw [tidy.size] at deviceAligned
  have startAligned : page * buffer.config.pageSize % 512 = 0 := by rw [Nat.mul_mod, aligned]; simp
  set len := min (device - page * buffer.config.pageSize) buffer.config.pageSize with lenEq
  have keeps := SectorStore.read_keeps world.inner (page * buffer.config.pageSize) len tidy.valid
  have settled := callInner_settled tidy keeps
  have exact := fun bytes => SectorStore.read_exact world.inner (page * buffer.config.pageSize) len bytes
    tidy.valid startAligned (by omega) (by rw [tidy.size]; omega)
  simp only [loadPage, if_pos (show 0 < device by omega), ← lenEq, if_pos (show 0 < len by omega),
    Action.bind_apply, Action.withContext]
  cases answer : BufferWorld.callInner (BlobBackend.read (page * buffer.config.pageSize) len) world with
  | mk outcome after =>
      have same : outcome = (BlobBackend.read (page * buffer.config.pageSize) len world.inner).1 :=
        (congrArg Prod.fst answer).symm
      have sameContent : SectorStore.content after.inner = SectorStore.content world.inner := by
        rw [← show _ = after.inner from congrArg (·.2.inner) answer]
        exact keeps.2.1
      rw [answer] at settled
      cases outcome with
      | error error => exact ⟨settled, by simp⟩
      | ok bytes =>
          have bytesEq := exact bytes same.symm
          have bytesLen : bytes.length = len := by rw [bytesEq, length_slice]
          simp only [Action.ensure_apply, bytesLen, if_true]
          refine ⟨settled, ?_⟩
          rintro data ⟨⟩
          constructor
          · rw [List.length_append, List.length_replicate, bytesLen]
            omega
          · intro x device own
            have split := Nat.div_add_mod' x buffer.config.pageSize
            rw [own] at split
            have room := Nat.mod_lt x positive
            have within : x % buffer.config.pageSize < len := by omega
            rw [byteAt, List.getD_eq_getElem?_getD, List.getElem?_append_left (by omega),
              ← List.getD_eq_getElem?_getD, ← byteAt, bytesEq, byteAt_slice, if_pos within, split]
            exact (congrFun sameContent x).symm

/-- A resident page stays or becomes resident, and the contents stay the same. -/
theorem ensureResident_spec {page : Nat} (tidy : Tidy buffer device world)
    (known : world.state.devSize = device) (inside : page * buffer.config.pageSize < device) :
    Settled buffer device world (buffer.ensureResident page device world).2 ∧
      ((buffer.ensureResident page device world).1 = .ok () →
        ∃ found, (buffer.ensureResident page device world).2.state.pages.find? page = some found) := by
  simp only [ensureResident]
  split
  · rename_i present
    exact ⟨.refl tidy, fun _ => Option.isSome_iff_exists.mp present⟩
  · have loaded := loadPage_spec tidy inside
    simp only [Action.bind_apply]
    cases answer : buffer.loadPage page device world with
    | mk outcome after =>
        rw [answer] at loaded
        obtain ⟨settled, fresh⟩ := loaded
        cases outcome with
        | error error => exact ⟨settled, by simp⟩
        | ok data =>
            obtain ⟨length, bytes⟩ := fresh data rfl
            obtain ⟨inserted, found, resident⟩ :=
              insertLoaded_settled settled.tidy (settled.known known) inside length bytes
            exact ⟨settled.trans inserted, fun _ => ⟨found, resident⟩⟩

end BufferedBackend
end UblkAzblob

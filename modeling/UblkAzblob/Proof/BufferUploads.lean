import UblkAzblob.Construction.BufferLedger
import UblkAzblob.Proof.BufferedRefinement

namespace UblkAzblob
namespace BufferedBackend
open Storage

section Calm

variable {Inner : Type} [BlobBackend Inner] [SectorStore Inner]

/-- The bytes of a page are those of a store, as far as the device goes. -/
def Shows (buffer : BufferedBackend) (device page : Nat) (bytes : List UInt8) (store : Store) : Prop :=
  ∀ x, x < device → x / buffer.config.pageSize = page → byteAt bytes (x % buffer.config.pageSize) = store x

/-- A calm step keeps the buffer tidy and its contents. -/
structure Calm (buffer : BufferedBackend) (device : Nat) (before after : BufferWorld Inner) : Prop where
  tidy : Tidy buffer device after
  known : before.state.devSize = device → after.state.devSize = device
  contents : AgreeOn 0 device (buffer.contents after) (buffer.contents before)

variable {buffer : BufferedBackend} {device : Nat} {world before after : BufferWorld Inner}

theorem Settled.calm (settled : Settled buffer device before after) : Calm buffer device before after :=
  ⟨settled.tidy, settled.known, settled.contents⟩

theorem Calm.refl (tidy : Tidy buffer device world) : Calm buffer device world world :=
  ⟨tidy, id, fun _ _ _ => rfl⟩

theorem Calm.trans {between : BufferWorld Inner} (head : Calm buffer device before between)
    (tail : Calm buffer device between after) : Calm buffer device before after :=
  ⟨tail.tidy, fun known => tail.known (head.known known), tail.contents.trans head.contents⟩

/-- The inner store may take over the contents, and it may change in any way under a dirty page. -/
theorem calm_of_inner {inner : Inner} (tidy : Tidy buffer device world) (valid : SectorStore.valid inner)
    (size : SectorStore.size inner = device)
    (changed : ∀ x, x < device → SectorStore.content inner x = SectorStore.content world.inner x ∨
      SectorStore.content inner x = buffer.contents world x ∨
      ∃ found, world.state.pages.find? (x / buffer.config.pageSize) = some found ∧ found.dirty = true) :
    Calm buffer device world { world with inner } := by
  refine ⟨⟨valid, size, tidy.devSize, tidy.pages, ?_, tidy.lru, tidy.evictable⟩, id, ?_⟩
  · intro page found present clean x inside own
    have shown : buffer.contents world x = byteAt found.data (x % buffer.config.pageSize) := by
      simp only [BufferedBackend.contents, own, present]
    rcases changed x inside with same | taken | ⟨other, there, dirty⟩
    · rw [tidy.clean page found present clean x inside own]
      exact same.symm
    · exact shown.symm.trans taken.symm
    · rw [own] at there
      obtain rfl := Option.some.inj (present.symm.trans there)
      exact absurd (clean.symm.trans dirty) Bool.false_ne_true
  · intro x _ inside
    cases lookup : world.state.pages.find? (x / buffer.config.pageSize) with
    | some found => simp only [BufferedBackend.contents, lookup]
    | none =>
        have shown : buffer.contents world x = SectorStore.content world.inner x := by
          simp only [BufferedBackend.contents, lookup]
        have after : buffer.contents { world with inner } x = SectorStore.content inner x := by
          simp only [BufferedBackend.contents, lookup]
        rcases changed x inside with same | taken | ⟨found, there, _⟩
        · rw [after, same, shown]
        · rw [after, taken]
        · rw [lookup] at there
          cases there

/-- A calm step that leaves the inner store alone may patch a page, which is dirty then, and drop clean pages. -/
structure Undisturbed (buffer : BufferedBackend) (device : Nat) (before after : BufferWorld Inner) : Prop where
  counter : before.state.seqCounter ≤ after.state.seqCounter
  pages : ∀ page found, after.state.pages.find? page = some found →
    (∃ earlier, before.state.pages.find? page = some earlier ∧ earlier.seq = found.seq) ∨
      (before.state.seqCounter < found.seq ∧ found.seq ≤ after.state.seqCounter)
  dirty : ∀ page found, before.state.pages.find? page = some found → found.dirty = true →
    ∃ later, after.state.pages.find? page = some later ∧ later.dirty = true
  shown : ∀ page, (∃ found, after.state.pages.find? page = some found ∧ found.dirty = true ∧
      before.state.seqCounter < found.seq) ∨
    ∀ x, x < device → x / buffer.config.pageSize = page → buffer.contents after x = buffer.contents before x
  inner : ∀ x, x < device → SectorStore.content after.inner x = SectorStore.content before.inner x

end Calm

section Uploads

variable {Inner : Type} [BlobBackend Inner] [SectorStore Inner]

/-- The pages whose upload is running. -/
def writings (uploads : List (Nat × WritePhase)) : List Nat :=
  (uploads.filter fun upload => upload.2.isWriting).map Prod.fst

/-- A running upload carries the contents of its page, or the page is dirty again. -/
structure Carries (buffer : BufferedBackend) (device : Nat) (world : BufferWorld Inner) (page seq offset : Nat)
    (bytes : List UInt8) : Prop where
  start : offset = page * buffer.config.pageSize
  placed : Placed buffer device page bytes
  issued : seq ≤ world.state.seqCounter
  current : (∃ found, world.state.pages.find? page = some found ∧ found.dirty = true) ∨
    Shows buffer device page bytes (buffer.contents world)
  older : ∀ found, world.state.pages.find? page = some found → seq ≤ found.seq ∧
    (found.seq = seq → Shows buffer device page bytes (buffer.contents world))

/-- A finished upload has stored the contents of its page, unless the page was changed since. -/
structure Stored (buffer : BufferedBackend) (device : Nat) (world : BufferWorld Inner) (page seq : Nat) : Prop where
  issued : seq ≤ world.state.seqCounter
  older : ∀ found, world.state.pages.find? page = some found → seq ≤ found.seq ∧
    (found.seq = seq → ∀ x, x < device → x / buffer.config.pageSize = page →
      buffer.contents world x = SectorStore.content world.inner x)

/-- The uploads in flight: at most one of a page is running, and it is younger than the finished ones. -/
structure Uploading (buffer : BufferedBackend) (device : Nat) (world : BufferWorld Inner)
    (pending : List (Nat × WritePhase)) : Prop where
  numbered : ∀ page found, world.state.pages.find? page = some found → found.seq ≤ world.state.seqCounter
  running : ∀ page seq offset bytes, (page, .writing seq offset bytes) ∈ pending →
    Carries buffer device world page seq offset bytes
  finished : ∀ page seq, (page, .written seq) ∈ pending → Stored buffer device world page seq
  ordered : ∀ page seq offset bytes older, (page, .writing seq offset bytes) ∈ pending →
    (page, .written older) ∈ pending → older ≤ seq
  alone : (writings pending).Nodup

variable {buffer : BufferedBackend} {device : Nat} {world before after : BufferWorld Inner}
variable {pending front back uploads : List (Nat × WritePhase)} {page : Nat}

theorem writings_append (first second : List (Nat × WritePhase)) :
    writings (first ++ second) = writings first ++ writings second := by
  rw [writings, List.filter_append, List.map_append]
  rfl

theorem writings_cons (page : Nat) (phase : WritePhase) (rest : List (Nat × WritePhase)) :
    writings ((page, phase) :: rest) = if phase.isWriting then page :: writings rest else writings rest := by
  rw [writings, List.filter_cons]
  split
  · rfl
  · rfl

theorem mem_writings : page ∈ writings uploads ↔
    ∃ seq offset bytes, (page, WritePhase.writing seq offset bytes) ∈ uploads := by
  rw [writings, List.mem_map]
  constructor
  · rintro ⟨⟨other, phase⟩, member, rfl⟩
    obtain ⟨inside, running⟩ := List.mem_filter.mp member
    cases phase with
    | writing seq offset bytes => exact ⟨seq, offset, bytes, inside⟩
    | waiting => cases running
    | written seq => cases running
    | done result => cases running
  · rintro ⟨seq, offset, bytes, member⟩
    exact ⟨_, List.mem_filter.mpr ⟨member, rfl⟩, rfl⟩

/-- An upload that is neither running nor finished. -/
def WritePhase.isIdle : WritePhase → Bool
  | .writing _ _ _ => false
  | .written _ => false
  | _ => true

theorem Uploading.undisturbed (uploading : Uploading buffer device before pending)
    (step : Undisturbed buffer device before after) : Uploading buffer device after pending := by
  refine ⟨fun page found present => ?_, fun page seq offset bytes member => ?_, fun page seq member => ?_,
    uploading.ordered, uploading.alone⟩
  · rcases step.pages page found present with ⟨earlier, held, same⟩ | ⟨_, bound⟩
    · rw [← same]
      exact (uploading.numbered page earlier held).trans step.counter
    · exact bound
  · have carries := uploading.running page seq offset bytes member
    refine ⟨carries.start, carries.placed, carries.issued.trans step.counter, ?_, fun found present => ?_⟩
    · rcases carries.current with ⟨found, held, dirty⟩ | shows
      · exact .inl (step.dirty page found held dirty)
      · rcases step.shown page with ⟨found, held, dirty, _⟩ | same
        · exact .inl ⟨found, held, dirty⟩
        · exact .inr fun x inside own => (shows x inside own).trans (same x inside own).symm
    · rcases step.pages page found present with ⟨earlier, held, same⟩ | ⟨fresh, _⟩
      · obtain ⟨older, current⟩ := carries.older earlier held
        refine ⟨older.trans_eq same, fun equal => ?_⟩
        have shows := current (same.trans equal)
        rcases step.shown page with ⟨patched, there, _, fresh⟩ | unchanged
        · obtain rfl := Option.some.inj (present.symm.trans there)
          have bound := uploading.numbered page earlier held
          omega
        · exact fun x inside own => (shows x inside own).trans (unchanged x inside own).symm
      · have issued := carries.issued
        exact ⟨by omega, fun equal => by omega⟩
  · have stored := uploading.finished page seq member
    refine ⟨stored.issued.trans step.counter, fun found present => ?_⟩
    rcases step.pages page found present with ⟨earlier, held, same⟩ | ⟨fresh, _⟩
    · obtain ⟨older, current⟩ := stored.older earlier held
      refine ⟨older.trans_eq same, fun equal => ?_⟩
      have shows := current (same.trans equal)
      rcases step.shown page with ⟨patched, there, _, fresh⟩ | unchanged
      · obtain rfl := Option.some.inj (present.symm.trans there)
        have bound := uploading.numbered page earlier held
        omega
      · intro x inside own
        rw [unchanged x inside own, shows x inside own, step.inner x inside]
    · have issued := stored.issued
      exact ⟨by omega, fun equal => by omega⟩

/-- Uploads may end, and waiting ones may join. -/
theorem Uploading.replaced {others : List (Nat × WritePhase)} (uploading : Uploading buffer device world pending)
    (kept : ∀ upload ∈ others, upload ∈ pending ∨ upload.2.isIdle = true)
    (fewer : (writings others).Sublist (writings pending)) : Uploading buffer device world others := by
  have running (page seq offset : Nat) (bytes : List UInt8) (member : (page, .writing seq offset bytes) ∈ others) :
      (page, .writing seq offset bytes) ∈ pending :=
    (kept (page, .writing seq offset bytes) member).resolve_right fun same => (by cases same)
  have finished (page seq : Nat) (member : (page, .written seq) ∈ others) : (page, .written seq) ∈ pending :=
    (kept (page, .written seq) member).resolve_right fun same => (by cases same)
  exact ⟨uploading.numbered, fun page seq offset bytes member => uploading.running _ _ _ _ (running _ _ _ _ member),
    fun page seq member => uploading.finished _ _ (finished _ _ member),
    fun page seq offset bytes older member earlier =>
      uploading.ordered _ _ _ _ _ (running _ _ _ _ member) (finished _ _ earlier),
    uploading.alone.sublist fewer⟩

theorem Uploading.drop (phase : WritePhase) (uploading : Uploading buffer device world (front ++ (page, phase) :: back)) :
    Uploading buffer device world (front ++ back) := by
  refine uploading.replaced (fun upload member => .inl ?_) ?_
  · rcases List.mem_append.mp member with early | late
    · exact List.mem_append_left _ early
    · exact List.mem_append_right _ (List.mem_cons_of_mem _ late)
  · exact (((List.sublist_cons_self _ _).append_left front).filter _).map _

/-- A waiting or a done upload may stand anywhere. -/
theorem Uploading.idle {phase : WritePhase} (uploading : Uploading buffer device world (front ++ back))
    (idle : phase.isIdle = true) : Uploading buffer device world (front ++ (page, phase) :: back) := by
  refine uploading.replaced (fun upload member => ?_) ?_
  · rcases List.mem_append.mp member with early | late
    · exact .inl (List.mem_append_left _ early)
    · rcases List.mem_cons.mp late with rfl | later
      · exact .inr idle
      · exact .inl (List.mem_append_right _ later)
  · have still : phase.isWriting = false := by
      cases phase with
      | writing seq offset bytes => cases idle
      | waiting => rfl
      | written seq => rfl
      | done result => rfl
    rw [writings_append, writings_cons, still, writings_append]
    exact List.Sublist.refl _

/-- A page that is copied has no other upload running, and its copy is younger than the finished ones. -/
theorem Uploading.copied {seq offset : Nat} {bytes : List UInt8} (uploading : Uploading buffer device world (front ++ back))
    (carries : Carries buffer device world page seq offset bytes)
    (youngest : ∀ older, (page, .written older) ∈ front ++ back → older ≤ seq) (free : page ∉ writings (front ++ back)) :
    Uploading buffer device world (front ++ (page, .writing seq offset bytes) :: back) := by
  have split (upload : Nat × WritePhase) (member : upload ∈ front ++ (page, .writing seq offset bytes) :: back) :
      upload = (page, .writing seq offset bytes) ∨ upload ∈ front ++ back := by
    rcases List.mem_append.mp member with early | late
    · exact .inr (List.mem_append_left _ early)
    · exact (List.mem_cons.mp late).imp id (List.mem_append_right _)
  refine ⟨uploading.numbered, fun other seq' offset' bytes' member => ?_, fun other seq' member => ?_,
    fun other seq' offset' bytes' older member earlier => ?_, ?_⟩
  · rcases split _ member with same | there
    · cases same
      exact carries
    · exact uploading.running _ _ _ _ there
  · rcases split _ member with same | there
    · cases same
    · exact uploading.finished _ _ there
  · rcases split _ earlier with same | old
    · cases same
    · rcases split _ member with same | there
      · cases same
        exact youngest older old
      · exact uploading.ordered _ _ _ _ _ there old
  · have alone := uploading.alone
    rw [writings_append] at alone free ⊢
    rw [writings_cons]
    exact List.perm_middle.nodup_iff.mpr (List.nodup_cons.mpr ⟨free, alone⟩)

/-- An upload that was carried out has no other upload of its page running. -/
theorem Uploading.stored {seq : Nat} (uploading : Uploading buffer device world (front ++ back))
    (stored : Stored buffer device world page seq) (free : page ∉ writings (front ++ back)) :
    Uploading buffer device world (front ++ (page, .written seq) :: back) := by
  have split (upload : Nat × WritePhase) (member : upload ∈ front ++ (page, .written seq) :: back) :
      upload = (page, .written seq) ∨ upload ∈ front ++ back := by
    rcases List.mem_append.mp member with early | late
    · exact .inr (List.mem_append_left _ early)
    · exact (List.mem_cons.mp late).imp id (List.mem_append_right _)
  refine ⟨uploading.numbered, fun other seq' offset' bytes' member => ?_, fun other seq' member => ?_,
    fun other seq' offset' bytes' older member earlier => ?_, ?_⟩
  · rcases split _ member with same | there
    · cases same
    · exact uploading.running _ _ _ _ there
  · rcases split _ member with same | there
    · cases same
      exact stored
    · exact uploading.finished _ _ there
  · rcases split _ member with same | there
    · cases same
    · rcases split _ earlier with same | old
      · cases same
        exact absurd (mem_writings.mpr ⟨_, _, _, there⟩) free
      · exact uploading.ordered _ _ _ _ _ there old
  · have alone := uploading.alone
    rw [writings_append] at alone ⊢
    rw [writings_cons]
    exact alone

theorem Uploading.free {phase : WritePhase} (uploading : Uploading buffer device world (front ++ (page, phase) :: back))
    (running : phase.isWriting = true) : page ∉ writings (front ++ back) := by
  have alone := uploading.alone
  rw [writings_append, writings_cons, running] at alone
  rw [writings_append]
  exact (List.nodup_cons.mp (List.perm_middle.nodup_iff.mp alone)).1

end Uploads

section Landings

/-- Every sector of a store is as before, or it was taken from a running upload of its page. -/
def Ashore (buffer : BufferedBackend) (device : Nat) (uploads : List (Nat × WritePhase)) (before after : Store) : Prop :=
  ∀ sector, 512 * sector < device → AgreeOn (512 * sector) (512 * sector + 512) after before ∨
    ∃ seq offset bytes, (512 * sector / buffer.config.pageSize, .writing seq offset bytes) ∈ uploads ∧
      ∀ x, 512 * sector ≤ x → x < 512 * sector + 512 → after x = byteAt bytes (x % buffer.config.pageSize)

variable {buffer : BufferedBackend} {device : Nat} {uploads others : List (Nat × WritePhase)} {old new last : Store}

theorem Ashore.refl : Ashore buffer device uploads old old := fun _ _ => .inl fun _ _ _ => rfl

theorem Ashore.mono (ashore : Ashore buffer device uploads old new) (more : ∀ upload ∈ uploads, upload ∈ others) :
    Ashore buffer device others old new := by
  intro sector inside
  refine (ashore sector inside).imp id ?_
  rintro ⟨seq, offset, bytes, member, taken⟩
  exact ⟨seq, offset, bytes, more _ member, taken⟩

theorem Ashore.trans (head : Ashore buffer device uploads old new) (tail : Ashore buffer device uploads new last) :
    Ashore buffer device uploads old last := by
  intro sector inside
  rcases tail sector inside with same | taken
  · rcases head sector inside with before | ⟨seq, offset, bytes, member, taken⟩
    · exact .inl (same.trans before)
    · exact .inr ⟨seq, offset, bytes, member, fun x low high => (same x low high).trans (taken x low high)⟩
  · exact .inr taken

/-- A page consists of whole sectors. -/
theorem sector_page (buffer : BufferedBackend) {sector x : Nat} (low : 512 * sector ≤ x) (high : x < 512 * sector + 512) :
    x / buffer.config.pageSize = 512 * sector / buffer.config.pageSize := by
  have whole : buffer.config.pageSize = 512 * (buffer.config.pageSize / 512) := by
    have aligned := buffer.aligned
    omega
  rw [whole, ← Nat.div_div_eq_div_mul, ← Nat.div_div_eq_div_mul]
  congr 1
  omega

/-- What a byte of the store may be after uploads were carried out. -/
theorem Ashore.byte (ashore : Ashore buffer device uploads old new) {x : Nat} (inside : x < device) :
    new x = old x ∨ ∃ seq offset bytes, (x / buffer.config.pageSize, .writing seq offset bytes) ∈ uploads ∧
      new x = byteAt bytes (x % buffer.config.pageSize) := by
  have low : 512 * (x / 512) ≤ x := by omega
  have high : x < 512 * (x / 512) + 512 := by omega
  rw [sector_page buffer low high]
  rcases ashore (x / 512) (by omega) with same | ⟨seq, offset, bytes, member, taken⟩
  · exact .inl (same x low high)
  · exact .inr ⟨seq, offset, bytes, member, taken x low high⟩

/-- A torn write of a page comes ashore in whole sectors. -/
theorem ashore_of_torn {page seq offset : Nat} {bytes : List UInt8} {keep : Nat → Bool} (aligned : device % 512 = 0)
    (placed : Placed buffer device page bytes) :
    Ashore buffer device [(page, .writing seq offset bytes)] old
      (torn keep old (splice old (page * buffer.config.pageSize) bytes)) := by
  intro sector inside
  have uniform (x : Nat) (low : 512 * sector ≤ x) (high : x < 512 * sector + 512) : x / 512 = sector := by omega
  by_cases kept : keep sector = true
  · by_cases own : 512 * sector / buffer.config.pageSize = page
    · refine .inr ⟨seq, offset, bytes, by rw [own]; exact List.mem_singleton.mpr rfl, fun x low high => ?_⟩
      have here : x / buffer.config.pageSize = page := (sector_page buffer low high).trans own
      obtain ⟨first, last⟩ := (mem_page buffer device page x).mpr ⟨here, by omega⟩
      have split := Nat.div_add_mod' x buffer.config.pageSize
      rw [here] at split
      simp only [torn, uniform x low high, kept, if_true]
      rw [splice_inside first (by rw [placed.length]; exact last)]
      congr 1
      omega
    · refine .inl fun x low high => torn_outside ?_
      have elsewhere : ¬ x / buffer.config.pageSize = page := by
        rw [sector_page buffer low high]
        exact own
      have outside := (mem_page buffer device page x).not.mpr fun here => elsewhere here.1
      rw [placed.length]
      omega
  · refine .inl fun x low high => ?_
    simp only [torn, uniform x low high, kept, if_false, Bool.false_eq_true]

variable {Inner : Type} [BlobBackend Inner] [SectorStore Inner] {world : BufferWorld Inner}
variable {front back : List (Nat × WritePhase)} {page seq offset : Nat} {bytes : List UInt8}

/-- A running upload that is carried out, wholly or in part, changes the contents nowhere. -/
theorem Uploading.landed {inner : Inner} (tidy : Tidy buffer device world)
    (uploading : Uploading buffer device world (front ++ (page, .writing seq offset bytes) :: back))
    (valid : SectorStore.valid inner) (size : SectorStore.size inner = device)
    (ashore : Ashore buffer device [(page, .writing seq offset bytes)] (SectorStore.content world.inner)
      (SectorStore.content inner)) :
    Calm buffer device world { world with inner } ∧ Uploading buffer device { world with inner } (front ++ back) := by
  have carries := uploading.running page seq offset bytes (List.mem_append_right _ List.mem_cons_self)
  have byte (x : Nat) (inside : x < device) : SectorStore.content inner x = SectorStore.content world.inner x ∨
      x / buffer.config.pageSize = page ∧
        SectorStore.content inner x = byteAt bytes (x % buffer.config.pageSize) := by
    refine (ashore.byte inside).imp id ?_
    rintro ⟨_, _, _, member, taken⟩
    cases List.mem_singleton.mp member
    exact ⟨rfl, taken⟩
  have calm : Calm buffer device world { world with inner } := by
    refine calm_of_inner tidy valid size fun x inside => (byte x inside).imp id ?_
    rintro ⟨own, taken⟩
    rcases carries.current with ⟨found, present, dirty⟩ | shows
    · exact .inr ⟨found, own ▸ present, dirty⟩
    · exact .inl (taken.trans (shows x inside own))
  have rest := uploading.drop
  refine ⟨calm, rest.numbered, fun other seq' offset' bytes' member => ?_, fun other seq' member => ?_, rest.ordered,
    rest.alone⟩
  · have others := rest.running other seq' offset' bytes' member
    have shown (shows : Shows buffer device other bytes' (buffer.contents world)) :
        Shows buffer device other bytes' (buffer.contents { world with inner }) :=
      fun x inside own => (shows x inside own).trans (calm.contents x (Nat.zero_le _) inside).symm
    exact ⟨others.start, others.placed, others.issued, others.current.imp id shown, fun found present =>
      ⟨(others.older found present).1, fun equal => shown ((others.older found present).2 equal)⟩⟩
  · have stored := rest.finished other seq' member
    refine ⟨stored.issued, fun found present => ⟨(stored.older found present).1, fun equal x inside own => ?_⟩⟩
    rw [calm.contents x (Nat.zero_le _) inside]
    rcases byte x inside with same | ⟨here, taken⟩
    · exact ((stored.older found present).2 equal x inside own).trans same.symm
    · obtain rfl : other = page := own.symm.trans here
      have ordered := uploading.ordered other seq offset bytes seq' (List.mem_append_right _ List.mem_cons_self) (by
        rcases List.mem_append.mp member with early | late
        · exact List.mem_append_left _ early
        · exact List.mem_append_right _ (List.mem_cons_of_mem _ late))
      obtain ⟨older, current⟩ := carries.older found present
      have shows := current (by omega)
      exact ((shows x inside own).symm.trans taken.symm)

/-- Dropped uploads come ashore one after the other. -/
theorem dropWrites_uploading (tasks : List (Nat × WritePhase)) (world : BufferWorld Inner) (tidy : Tidy buffer device world)
    (uploading : Uploading buffer device world (front ++ (tasks ++ back))) :
    Calm buffer device world (buffer.dropWrites tasks world) ∧
      Uploading buffer device (buffer.dropWrites tasks world) (front ++ back) ∧
      Ashore buffer device tasks (SectorStore.content world.inner)
        (SectorStore.content (buffer.dropWrites tasks world).inner) := by
  induction tasks generalizing world with
  | nil => exact ⟨.refl tidy, uploading, .refl⟩
  | cons task rest ih =>
      obtain ⟨page, phase⟩ := task
      have later {before after : Store} (ashore : Ashore buffer device rest before after) :
          Ashore buffer device ((page, phase) :: rest) before after :=
        ashore.mono fun upload member => List.mem_cons_of_mem _ member
      have skipped : Calm buffer device world (buffer.dropWrites rest world) ∧
          Uploading buffer device (buffer.dropWrites rest world) (front ++ back) ∧
          Ashore buffer device ((page, phase) :: rest) (SectorStore.content world.inner)
            (SectorStore.content (buffer.dropWrites rest world).inner) := by
        obtain ⟨calm, gone, ashore⟩ := ih world tidy uploading.drop
        exact ⟨calm, gone, later ashore⟩
      cases phase with
      | waiting => exact skipped
      | written seq => exact skipped
      | done result => exact skipped
      | writing seq offset bytes =>
          have carries := uploading.running page seq offset bytes (List.mem_append_right _ List.mem_cons_self)
          obtain ⟨rfl, placed⟩ := And.intro carries.start carries.placed
          obtain ⟨valid, size, keep, mixed⟩ := SectorStore.abandon_torn world.inner
            (buffer.executor.progress world.clock page) _ _ tidy.valid placed.startAligned placed.lenAligned
            (by rw [tidy.size]; exact placed.inside)
          have torn := @ashore_of_torn buffer device (SectorStore.content world.inner) page seq
            (page * buffer.config.pageSize) bytes keep tidy.deviceAligned placed
          rw [← mixed] at torn
          obtain ⟨calm, gone⟩ := uploading.landed tidy valid (size.trans tidy.size) torn
          obtain ⟨rest, final, ashore⟩ := ih _ calm.tidy gone
          refine ⟨calm.trans rest, final, (torn.mono fun upload member => ?_).trans (later ashore)⟩
          rw [List.mem_singleton.mp member]
          exact List.mem_cons_self

end Landings

section Turns

variable {Inner : Type} [BlobBackend Inner] [SectorStore Inner] {buffer : BufferedBackend} {device : Nat}
variable {world : BufferWorld Inner} {front back : List (Nat × WritePhase)} {page : Nat}

/-- A resident page shows its part of the contents. -/
theorem shows_of_resident {found : Page} (tidy : Tidy buffer device world)
    (present : world.state.pages.find? page = some found) :
    Shows buffer device page (found.data.take (buffer.pageLen device page)) (buffer.contents world) := by
  intro x inside own
  obtain ⟨low, high⟩ := (mem_page buffer device page x).mpr ⟨own, inside⟩
  have split := Nat.div_add_mod' x buffer.config.pageSize
  rw [own] at split
  rw [resident_slice tidy present, byteAt_slice, if_pos (by omega)]
  congr 1

/-- A snapshot is taken of a dirty page, and it is not empty. -/
theorem snapshot_spec {seq offset : Nat} {bytes : List UInt8} (tidy : Tidy buffer device world)
    (taken : world.state.snapshot buffer.config page = some (seq, offset, bytes)) :
    ∃ found, world.state.pages.find? page = some found ∧ found.dirty = true ∧ found.seq = seq ∧
      offset = page * buffer.config.pageSize ∧ bytes = found.data.take (buffer.pageLen device page) ∧ bytes.length ≠ 0 := by
  unfold BufferState.snapshot at taken
  split at taken
  · rename_i found present
    split at taken
    · rename_i dirty
      obtain ⟨length, inside, known⟩ := tidy.pages page found present
      have writeLen : (if 0 < world.state.devSize then
          min found.data.length (world.state.devSize - page * buffer.config.pageSize)
          else found.data.length) = buffer.pageLen device page := by
        rw [if_pos (by omega), length, known, pageLen]
      dsimp only at taken
      rw [writeLen] at taken
      obtain ⟨rfl, rest⟩ := Prod.mk.inj (Option.some.inj taken)
      obtain ⟨rfl, rfl⟩ := Prod.mk.inj rest
      refine ⟨found, present, dirty, rfl, rfl, rfl, ?_⟩
      have positive := pageSize_pos buffer
      rw [(placed_of_resident tidy present).length, pageLen]
      omega
    · cases taken
  · cases taken

/-- A page turns clean under the other uploads: a younger one that still runs carries the same bytes. -/
theorem markClean_uploading {seq : Nat} (tidy : Tidy buffer device world)
    (uploading : Uploading buffer device world (front ++ (page, .written seq) :: back)) :
    Calm buffer device world (world.update (.markClean page seq)) ∧
      Uploading buffer device (world.update (.markClean page seq)) (front ++ back) := by
  have stored := uploading.finished page seq (List.mem_append_right _ List.mem_cons_self)
  have rest := uploading.drop
  cases present : world.state.pages.find? page with
  | none =>
      have same : world.update (.markClean page seq) = world := by
        simp only [BufferWorld.update, BufferState.markClean, present]
      rw [same]
      exact ⟨.refl tidy, rest⟩
  | some found =>
      by_cases current : found.seq = seq
      · have shown (x : Nat) (inside : x < device) (own : x / buffer.config.pageSize = page) :
            byteAt found.data (x % buffer.config.pageSize) = SectorStore.content world.inner x := by
          have same := (stored.older found present).2 current x inside own
          rw [BufferedBackend.contents, own, present] at same
          exact same
        obtain ⟨settled, _, _⟩ := markClean_settled tidy present current shown
        have calm := settled.calm
        have lookup (other : Nat) : (world.update (.markClean page seq)).state.pages.find? other =
            if other = page then some { found with dirty := false } else world.state.pages.find? other := by
          simp only [BufferWorld.update, BufferState.markClean, present, current, if_true]
          exact OrderedMap.find?_insert _ _ _ _
        have counter : (world.update (.markClean page seq)).state.seqCounter = world.state.seqCounter := by
          simp only [BufferWorld.update, BufferState.markClean, present, current, if_true]
        have earlier (other : Nat) (after : Page)
            (there : (world.update (.markClean page seq)).state.pages.find? other = some after) :
            ∃ before, world.state.pages.find? other = some before ∧ before.seq = after.seq := by
          rw [lookup] at there
          split at there
          · rename_i own
            obtain rfl := Option.some.inj there
            exact ⟨found, own ▸ present, rfl⟩
          · exact ⟨after, there, rfl⟩
        have shows {other : Nat} {bytes : List UInt8} (shown : Shows buffer device other bytes (buffer.contents world)) :
            Shows buffer device other bytes (buffer.contents (world.update (.markClean page seq))) :=
          fun x inside own => (shown x inside own).trans (calm.contents x (Nat.zero_le _) inside).symm
        refine ⟨calm, fun other after there => ?_, fun other seq' offset' bytes' member => ?_,
          fun other seq' member => ?_, rest.ordered, rest.alone⟩
        · obtain ⟨before, held, same⟩ := earlier other after there
          rw [counter, ← same]
          exact rest.numbered other before held
        · have carries := rest.running other seq' offset' bytes' member
          refine ⟨carries.start, carries.placed, counter ▸ carries.issued, ?_, fun after there => ?_⟩
          · by_cases own : other = page
            · subst own
              have ordered := uploading.ordered other seq' offset' bytes' seq (by
                rcases List.mem_append.mp member with early | late
                · exact List.mem_append_left _ early
                · exact List.mem_append_right _ (List.mem_cons_of_mem _ late))
                (List.mem_append_right _ List.mem_cons_self)
              obtain ⟨older, same⟩ := carries.older found present
              exact .inr (shows (same (by omega)))
            · refine carries.current.imp ?_ shows
              rintro ⟨held, there, dirty⟩
              exact ⟨held, (lookup other).trans ((if_neg own).trans there), dirty⟩
          · obtain ⟨before, held, same⟩ := earlier other after there
            obtain ⟨older, unchanged⟩ := carries.older before held
            exact ⟨older.trans_eq same, fun equal => shows (unchanged (same.trans equal))⟩
        · have finished := rest.finished other seq' member
          refine ⟨counter ▸ finished.issued, fun after there => ?_⟩
          obtain ⟨before, held, same⟩ := earlier other after there
          obtain ⟨older, unchanged⟩ := finished.older before held
          refine ⟨older.trans_eq same, fun equal x inside own => ?_⟩
          rw [calm.contents x (Nat.zero_le _) inside]
          exact unchanged (same.trans equal) x inside own
      · have same : world.update (.markClean page seq) = world := by
          simp only [BufferWorld.update, BufferState.markClean, present, if_neg current]
        rw [same]
        exact ⟨.refl tidy, rest⟩

/-- What one step of an upload does. -/
structure Uploaded (buffer : BufferedBackend) (device : Nat) (world : BufferWorld Inner)
    (front back : List (Nat × WritePhase)) (page : Nat) (phase : WritePhase) (moved : WritePhase × BufferWorld Inner) :
    Prop where
  calm : Calm buffer device world moved.2
  uploading : Uploading buffer device moved.2 (front ++ (page, moved.1) :: back)
  ashore : Ashore buffer device [(page, phase)] (SectorStore.content world.inner) (SectorStore.content moved.2.inner)
  copied : ∀ seq offset bytes, moved.1 = .writing seq offset bytes →
    world.state.pages.contains page = true ∧ Shows buffer device page bytes (buffer.contents world)
  carried : ∀ seq offset bytes, phase = .writing seq offset bytes → moved.1.error? = none →
    Shows buffer device page bytes (SectorStore.content moved.2.inner)
  spared : phase = .waiting → moved.1.isWriting = true ∨ (moved.2 = world ∧ moved.1 = .done (.ok ()) ∧
    world.state.snapshot buffer.config page = none)
  ended : phase.isWriting = true → page ∉ writings (front ++ (page, moved.1) :: back)

/-- A snapshot is taken only while no other upload of the page is running. -/
theorem flushIndex_uploaded {phase : WritePhase} (tidy : Tidy buffer device world)
    (uploading : Uploading buffer device world (front ++ (page, phase) :: back))
    (alone : phase = .waiting → world.state.snapshot buffer.config page = none ∨ page ∉ writings (front ++ back)) :
    Uploaded buffer device world front back page phase (buffer.flushIndex page phase world) := by
  cases phase with
  | waiting =>
      simp only [flushIndex]
      cases taken : world.state.snapshot buffer.config page with
      | none =>
          exact ⟨.refl tidy, uploading.drop.idle rfl, .refl, fun _ _ _ same => (by cases same),
            fun _ _ _ same => (by cases same), fun _ => .inr ⟨rfl, rfl, taken⟩, fun running => (by cases running)⟩
      | some snapshot =>
          obtain ⟨seq, offset, bytes⟩ := snapshot
          obtain ⟨found, present, dirty, rfl, rfl, rfl, filled⟩ := snapshot_spec tidy taken
          have shows := shows_of_resident tidy present
          simp only [if_neg filled]
          refine ⟨.refl tidy, uploading.drop.copied ⟨rfl, placed_of_resident tidy present,
            uploading.numbered page found present, .inl ⟨found, present, dirty⟩, ?_⟩ ?_ ?_, .refl, ?_,
            fun _ _ _ same => (by cases same), fun _ => .inl rfl, fun running => (by cases running)⟩
          · intro other there
            obtain rfl := Option.some.inj (present.symm.trans there)
            exact ⟨le_rfl, fun _ => shows⟩
          · intro older member
            exact ((uploading.drop.finished page older member).older found present).1
          · refine (alone rfl).resolve_left fun nothing => ?_
            rw [taken] at nothing
            cases nothing
          · rintro _ _ _ ⟨⟩
            exact ⟨BufferState.contains_iff.mpr ⟨found, present⟩, shows⟩
  | writing seq offset bytes =>
      have carries := uploading.running page seq offset bytes (List.mem_append_right _ List.mem_cons_self)
      obtain ⟨rfl, placed⟩ := And.intro carries.start carries.placed
      have inBounds : page * buffer.config.pageSize + bytes.length ≤ SectorStore.size world.inner := by
        rw [tidy.size]
        exact placed.inside
      obtain ⟨valid, size⟩ := SectorStore.write_keeps world.inner _ bytes tidy.valid placed.startAligned
        placed.lenAligned inBounds
      obtain ⟨keep, mixed⟩ := SectorStore.write_torn world.inner _ bytes tidy.valid placed.startAligned
        placed.lenAligned inBounds
      have success := SectorStore.write_ok world.inner _ bytes tidy.valid placed.startAligned placed.lenAligned inBounds
      have torn := @ashore_of_torn buffer device (SectorStore.content world.inner) page seq
        (page * buffer.config.pageSize) bytes keep tidy.deviceAligned placed
      rw [← mixed] at torn
      obtain ⟨calm, rest⟩ := uploading.landed tidy valid (size.trans tidy.size) torn
      have ended (phase : WritePhase) (idle : phase.isWriting = false) : page ∉ writings (front ++ (page, phase) :: back) := by
        rw [writings_append, writings_cons, idle, if_neg Bool.false_ne_true, ← writings_append]
        exact uploading.free rfl
      simp only [flushIndex, Action.withContext, BufferWorld.callInner]
      cases answer : (BlobBackend.write (page * buffer.config.pageSize) bytes world.inner).1 with
      | error error =>
          exact ⟨calm, rest.idle rfl, torn, fun _ _ _ same => (by cases same), fun _ _ _ _ fine => (by cases fine),
            fun waiting => (by cases waiting), fun _ => ended _ rfl⟩
      | ok value =>
          have shows : Shows buffer device page bytes
              (SectorStore.content (BlobBackend.write (page * buffer.config.pageSize) bytes world.inner).2) := by
            intro x inside own
            obtain ⟨low, high⟩ := (mem_page buffer device page x).mpr ⟨own, inside⟩
            have split := Nat.div_add_mod' x buffer.config.pageSize
            rw [own] at split
            rw [success answer, splice_inside low (by rw [placed.length]; exact high)]
            congr 1
            omega
          refine ⟨calm, rest.stored ⟨carries.issued, fun found present => ?_⟩ (uploading.free rfl), torn,
            fun _ _ _ same => (by cases same), ?_, fun waiting => (by cases waiting), fun _ => ended _ rfl⟩
          · obtain ⟨older, current⟩ := carries.older found present
            refine ⟨older, fun equal x inside own => ?_⟩
            rw [calm.contents x (Nat.zero_le _) inside]
            exact (current equal x inside own).symm.trans (shows x inside own)
          · rintro _ _ _ ⟨⟩ _
            exact shows
  | written seq =>
      obtain ⟨calm, rest⟩ := markClean_uploading tidy uploading
      exact ⟨calm, rest.idle rfl, .refl, fun _ _ _ same => (by cases same), fun _ _ _ same => (by cases same),
        fun waiting => (by cases waiting), fun running => (by cases running)⟩
  | done result =>
      exact ⟨.refl tidy, uploading, .refl, fun _ _ _ same => (by cases same), fun _ _ _ same => (by cases same),
        fun waiting => (by cases waiting), fun running => (by cases running)⟩

end Turns

end BufferedBackend
end UblkAzblob

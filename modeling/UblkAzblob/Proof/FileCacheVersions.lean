import UblkAzblob.Construction.FileCacheConcurrent
import UblkAzblob.Proof.FileCacheRefinement
import UblkAzblob.Proof.PowerLoss

namespace UblkAzblob
open Storage

/-- Two stores agree on the bytes of a page. -/
def AgreePage (geometry : Geometry) (page : Nat) (first second : Store) : Prop :=
  ∀ x, x < geometry.devSize → x / geometry.pageSize = page → first x = second x

namespace AgreePage

variable {geometry : Geometry} {page : Nat} {first second third : Store}

theorem symm (agree : AgreePage geometry page first second) : AgreePage geometry page second first :=
  fun x device own => (agree x device own).symm

theorem trans (left : AgreePage geometry page first second) (right : AgreePage geometry page second third) :
    AgreePage geometry page first third :=
  fun x device own => (left x device own).trans (right x device own)

theorem of_agreeOn (agree : AgreeOn 0 geometry.devSize first second) : AgreePage geometry page first second :=
  fun x device _ => agree x (Nat.zero_le x) device

/-- Stores that agree on a page give it the same bytes. -/
theorem slice_eq (agree : AgreePage geometry page first second) :
    slice first (page * geometry.pageSize) (geometry.pageLen page) =
      slice second (page * geometry.pageSize) (geometry.pageLen page) := by
  apply slice_congr
  intro x low high
  obtain ⟨own, device⟩ := (geometry.mem_page page x).mp ⟨low, high⟩
  exact agree x device own

/-- Copying the bytes of a page makes the stores agree on it. -/
theorem of_splice (geometry : Geometry) (page : Nat) (store source : Store) :
    AgreePage geometry page (splice store (page * geometry.pageSize)
      (slice source (page * geometry.pageSize) (geometry.pageLen page))) source := by
  intro x device own
  rw [splice_slice, if_pos ((geometry.mem_page page x).mpr ⟨own, device⟩)]

end AgreePage

namespace FileCacheBackend

variable {Inner : Type} [BlobBackend Inner] [FlatStore Inner]
variable {cache : FileCacheBackend} {geometry : Geometry} {landed : Nat → Nat} {sys : Sys Inner}

/-- The cache shows the newest version of every page, and the inner store shows the one before `landed`;
nothing is known of a page that was dirty from the start and has not been uploaded yet. -/
structure Consistent (cache : FileCacheBackend) (geometry : Geometry) (landed : Nat → Nat)
    (sys : Sys Inner) : Prop where
  tidy : Tidy cache geometry sys.world
  current : ∀ page, AgreePage geometry page (sys.world.view.contents geometry)
    (sys.versions page (sys.world.view.generation page))
  stored : ∀ page generation, landed page = generation + 1 →
    AgreePage geometry page sys.world.view.inner (sys.versions page generation)
  performed : ∀ page, landed page ≤ sys.newest page + 1
  bounded : ∀ page, sys.newest page ≤ sys.world.view.generation page
  settled : ∀ page, sys.world.view.dirty page = false → landed page = sys.world.view.generation page + 1

/-- A clean page has the same bytes in the cache and in the inner store. -/
theorem Consistent.synced (consistent : Consistent cache geometry landed sys) {page : Nat}
    (newest : landed page = sys.world.view.generation page + 1) :
    AgreePage geometry page (sys.world.view.contents geometry) sys.world.view.inner :=
  (consistent.current page).trans (consistent.stored page _ newest).symm

theorem contents_of_present {view : View} {page : Nat} (present : view.present page = true) :
    AgreePage geometry page (view.contents geometry) view.data := by
  intro x _ own
  rw [View.contents, if_pos (by rw [own]; exact present)]

theorem Consistent.coherent (consistent : Consistent cache geometry landed sys) :
    sys.world.view.Coherent geometry where
  clean x device present clean := by
    rw [← contents_of_present present x device rfl]
    exact consistent.synced (consistent.settled _ clean) x device rfl
  resident := consistent.tidy.resident

/-- Upkeep changes neither the inner store nor the dirty pages nor the generations. -/
theorem upkeep_frame {before after : View} {calls : List (Call Inner)}
    (trail : Trail (Upkeep geometry) before calls after) :
    after.inner = before.inner ∧ after.dirty = before.dirty ∧ after.generation = before.generation := by
  refine trail.invariant (fun view => view.inner = before.inner ∧ view.dirty = before.dirty ∧
    view.generation = before.generation) ?_ ⟨rfl, rfl, rfl⟩
  rintro first calls last ⟨inner, dirty, generation⟩ step
  obtain ⟨sameInner, sameDirty, sameGeneration⟩ := step.frame
  exact ⟨sameInner.trans inner, sameDirty.trans dirty, sameGeneration.trans generation⟩

/-- A step of one call keeps what the other calls rely on. -/
structure Moves (geometry : Geometry) (id : Nat) (landed reached : Nat → Nat) (sys next : Sys Inner) :
    Prop where
  traces : Traces (Motion geometry) sys.world next.world
  versions : ∀ page generation, generation ≤ sys.world.view.generation page →
    next.versions page generation = sys.versions page generation
  generation : ∀ page, sys.world.view.generation page ≤ next.world.view.generation page
  landed : ∀ page, landed page ≤ reached page
  landings : ∀ page, sys.landings page ≤ next.landings page
  inner : ∀ page, next.landings page = sys.landings page →
    AgreePage geometry page next.world.view.inner sys.world.view.inner
  locked : ∀ other, other ≠ id → sys.holder = some other → next.holder = some other ∧
    next.world.view.present = sys.world.view.present ∧
    next.world.view.generation = sys.world.view.generation

theorem Moves.refl (id : Nat) (sys : Sys Inner) : Moves geometry id landed landed sys sys where
  traces := .refl _ _
  versions _ _ _ := rfl
  generation _ := le_rfl
  landed _ := le_rfl
  landings _ := le_rfl
  inner _ _ := fun _ _ _ => rfl
  locked _ _ held := ⟨held, rfl, rfl⟩

theorem Moves.trans {id : Nat} {middle last : Nat → Nat} {between next : Sys Inner}
    (head : Moves geometry id landed middle sys between) (tail : Moves geometry id middle last between next) :
    Moves geometry id landed last sys next where
  traces := head.traces.trans tail.traces
  versions page generation old :=
    (tail.versions page generation (old.trans (head.generation page))).trans
      (head.versions page generation old)
  generation page := (head.generation page).trans (tail.generation page)
  landed page := (head.landed page).trans (tail.landed page)
  landings page := (head.landings page).trans (tail.landings page)
  inner page same := by
    have first := head.landings page
    have second := tail.landings page
    exact (tail.inner page (by omega)).trans (head.inner page (by omega))
  locked other different held := by
    obtain ⟨still, present, generation⟩ := head.locked other different held
    obtain ⟨kept, presentAfter, generationAfter⟩ := tail.locked other different still
    exact ⟨kept, presentAfter.trans present, generationAfter.trans generation⟩

/-- A call may change the pages when no other call holds the lock. -/
def OpenTo (sys : Sys Inner) (id : Nat) : Prop := sys.holder = none ∨ sys.holder = some id

omit [BlobBackend Inner] [FlatStore Inner] in
theorem OpenTo.excludes {id other : Nat} (free : OpenTo sys id) (different : other ≠ id)
    (held : sys.holder = some other) : False := by
  rcases free with none | own
  · rw [none] at held
    cases held
  · rw [own] at held
    exact different (Option.some.inj held).symm

/-- Upkeep keeps the system consistent. -/
theorem Consistent.upkeep (consistent : Consistent cache geometry landed sys) {after : World Inner}
    {id : Nat} (tidy : Tidy cache geometry after) (traces : Traces (Upkeep geometry) sys.world after)
    (locked : OpenTo sys id ∨ after.view.present = sys.world.view.present) :
    Consistent cache geometry landed { sys with world := after } ∧
      Moves geometry id landed landed sys { sys with world := after } := by
  have contents := ((settled_of_upkeep tidy traces).contents consistent.coherent).2
  obtain ⟨calls, issued, trail⟩ := traces
  obtain ⟨inner, dirty, generation⟩ := upkeep_frame trail
  constructor
  · refine ⟨tidy, fun page => ?_, fun page version => ?_, consistent.performed, fun page => ?_,
      fun page => ?_⟩
    · change AgreePage geometry page (after.view.contents geometry)
        (sys.versions page (after.view.generation page))
      rw [generation]
      exact (AgreePage.of_agreeOn contents).trans (consistent.current page)
    · change _ → AgreePage geometry page after.view.inner _
      rw [inner]
      exact consistent.stored page version
    · change _ ≤ after.view.generation page
      rw [generation]
      exact consistent.bounded page
    · change after.view.dirty page = false → _ = after.view.generation page + 1
      rw [dirty, generation]
      exact consistent.settled page
  · refine ⟨⟨calls, issued, trail.mono fun _ _ _ step => .chore (.settle (.upkeep step))⟩,
      fun _ _ _ => rfl, fun page => ?_, fun _ => le_rfl, fun _ => le_rfl, fun page _ => ?_, ?_⟩
    · change _ ≤ after.view.generation page
      rw [generation]
    · change AgreePage geometry page after.view.inner sys.world.view.inner
      rw [inner]
      exact fun _ _ _ => rfl
    · intro other different held
      rcases locked with free | present
      · exact absurd held fun held => free.excludes different held
      · exact ⟨held, present, generation⟩

/-- A dirtied chunk gives its page a new version. -/
theorem Consistent.dirtyChunk (consistent : Consistent cache geometry landed sys) {id offset : Nat}
    {data : List UInt8} {chunk : Chunk} (fits : geometry.Fits offset chunk)
    (bounded : chunk.pos + chunk.len ≤ data.length) (free : OpenTo sys id)
    (counts : sys.world.view.generation chunk.page + 1 < 2 ^ 64)
    (ready : sys.world.view.present chunk.page = true ∨ chunk.len = geometry.pageSize) :
    Consistent cache geometry landed (cache.dirtyChunk data chunk sys) ∧
      Moves geometry id landed landed sys (cache.dirtyChunk data chunk sys) ∧
      AgreeOn 0 geometry.devSize ((cache.dirtyChunk data chunk sys).world.view.contents geometry)
        (splice (sys.world.view.contents geometry) (offset + chunk.pos)
          ((data.drop chunk.pos).take chunk.len)) ∧
      (cache.dirtyChunk data chunk sys).world.view.generation =
        Function.update sys.world.view.generation chunk.page (sys.world.view.generation chunk.page + 1) := by
  have length : ((data.drop chunk.pos).take chunk.len).length = chunk.len := by
    rw [List.length_take, List.length_drop]
    omega
  have within := fits.within
  have small : geometry.pageLen chunk.page ≤ geometry.pageSize := by
    simp only [Geometry.pageLen]
    omega
  set payload := (data.drop chunk.pos).take chunk.len with payloadEq
  have whole : sys.world.view.present chunk.page = true ∨
      (chunk.pageOffset = 0 ∧ payload.length = geometry.pageLen chunk.page) := by
    rcases ready with present | full
    · exact .inl present
    · exact .inr ⟨by omega, by omega⟩
  have inPage : chunk.pageOffset + payload.length ≤ geometry.pageLen chunk.page := by
    rw [length]
    exact within
  obtain ⟨tidy, middle, calls, rest, issued, dirties, trail⟩ :=
    dirtyPageRegion_spec consistent.tidy fits.inside whole inPage
  have written := (dirtyPageRegion_written chunk.pageOffset payload consistent.tidy fits.inside whole
    inPage).contents consistent.coherent
  set after := cache.dirtyPageRegion chunk.page chunk.pageOffset payload sys.world with afterEq
  obtain ⟨inner, dirty, generation⟩ := upkeep_frame trail
  have middleEq : middle = sys.world.view.overwritten geometry chunk.page chunk.pageOffset payload := by
    cases dirties
    rfl
  rw [middleEq] at inner dirty generation
  have bumped : after.view.generation = Function.update sys.world.view.generation chunk.page
      (sys.world.view.generation chunk.page + 1) := by
    rw [generation, View.overwritten, Nat.mod_eq_of_lt counts]
  have samePage := consistent.tidy.pageSize
  have moved : cache.dirtyChunk data chunk sys = { sys with
      world := after
      versions := Function.update sys.versions chunk.page (Function.update (sys.versions chunk.page)
        (sys.world.view.generation chunk.page + 1) (splice (sys.versions chunk.page
          (sys.world.view.generation chunk.page))
          (chunk.page * geometry.pageSize + chunk.pageOffset) payload)) } := by
    rw [FileCacheBackend.dirtyChunk, samePage]
    rfl
  have older (page version : Nat) (old : version ≤ sys.world.view.generation page) :
      (cache.dirtyChunk data chunk sys).versions page version = sys.versions page version := by
    rw [moved]
    by_cases own : page = chunk.page
    · subst own
      dsimp only
      rw [Function.update_self, Function.update_of_ne (by omega)]
    · dsimp only
      rw [Function.update_of_ne own]
  refine ⟨⟨?_, ?_, ?_, ?_, ?_, ?_⟩, ⟨?_, older, ?_, fun _ => le_rfl, ?_, ?_, ?_⟩, ?_, ?_⟩
  · rw [moved]
    exact tidy
  · intro page
    by_cases own : page = chunk.page
    · subst own
      refine AgreePage.trans (AgreePage.of_agreeOn (by rw [moved]; exact written)) ?_
      rw [moved]
      dsimp only
      rw [bumped, Function.update_self, Function.update_self, Function.update_self]
      intro x device inOwn
      simp only [splice]
      split
      · rfl
      · exact consistent.current _ x device inOwn
    · have same : (cache.dirtyChunk data chunk sys).world.view.generation page =
          sys.world.view.generation page := by
        rw [moved]
        dsimp only
        rw [bumped, Function.update_of_ne own]
      rw [same, older page _ le_rfl]
      refine AgreePage.trans ?_ (consistent.current page)
      intro x device inOther
      rw [moved]
      refine (written x (Nat.zero_le x) device).trans (splice_outside ?_)
      have outside := (geometry.mem_page chunk.page x).not.mpr (by rw [inOther]; simp [own])
      omega
  · intro page version same
    have early := consistent.performed page
    have late := consistent.bounded page
    rw [older page _ (by omega), moved]
    change AgreePage geometry page after.view.inner _
    rw [inner]
    exact consistent.stored page version same
  · rw [moved]
    exact consistent.performed
  · intro page
    rw [moved]
    change sys.newest page ≤ after.view.generation page
    rw [bumped, Function.update_apply]
    have := consistent.bounded page
    split
    · rename_i own
      subst own
      omega
    · exact this
  · intro page clean
    rw [moved] at clean ⊢
    change after.view.dirty page = false at clean
    change landed page = after.view.generation page + 1
    have other : page ≠ chunk.page := by
      rintro rfl
      rw [dirty] at clean
      simp [View.overwritten] at clean
    rw [bumped, Function.update_of_ne other]
    refine consistent.settled page ?_
    rw [dirty] at clean
    simpa [View.overwritten, other] using clean
  · rw [moved]
    exact ⟨_, issued, .step (.chore (.dirties dirties))
      (trail.mono fun _ _ _ step => .chore (.settle (.upkeep step)))⟩
  · intro page
    rw [moved]
    change _ ≤ after.view.generation page
    rw [bumped, Function.update_apply]
    split
    · rename_i own
      subst own
      omega
    · exact le_rfl
  · rw [moved]
    exact fun _ => le_rfl
  · intro page _
    rw [moved]
    change AgreePage geometry page after.view.inner _
    rw [inner]
    exact fun _ _ _ => rfl
  · intro other different held
    exact absurd held fun held => free.excludes different held
  · rw [moved, ← fits.start]
    exact written
  · rw [moved]
    exact bumped

/-- A step that does not show in the view keeps the system consistent. -/
theorem Consistent.sameView (consistent : Consistent cache geometry landed sys) {after : World Inner}
    (id : Nat) (tidy : Tidy cache geometry after) (traces : Traces (Motion geometry) sys.world after)
    (same : after.view = sys.world.view) :
    Consistent cache geometry landed { sys with world := after } ∧
      Moves geometry id landed landed sys { sys with world := after } := by
  constructor
  · refine ⟨tidy, fun page => ?_, fun page version => ?_, consistent.performed, fun page => ?_,
      fun page => ?_⟩
    all_goals dsimp only; rw [same]
    · exact consistent.current page
    · exact consistent.stored page version
    · exact consistent.bounded page
    · exact consistent.settled page
  · refine ⟨traces, fun _ _ _ => rfl, fun page => ?_, fun _ => le_rfl, fun _ => le_rfl,
      fun page _ => ?_, fun other _ held => ⟨held, ?_, ?_⟩⟩
    all_goals dsimp only; rw [same]
    exact fun _ _ _ => rfl

/-- A pushed world that shows the same view is a motion. -/
theorem Pushed.motion {world after : World Inner} (pushed : Pushed cache geometry world after) :
    Traces (Motion geometry) world after :=
  Traces.mono pushed.traces fun _ _ _ step => .chore (.settle (.pushes step))

/-- A performed upload is counted. -/
def uploadedSys (page generation : Nat) (after : World Inner) (sys : Sys Inner) : Sys Inner :=
  { sys with
    world := after
    newest := Function.update sys.newest page (max (sys.newest page) generation)
    landings := Function.update sys.landings page (sys.landings page + 1) }

/-- An upload in order brings the inner store to its version, or fails without effect. -/
theorem Consistent.upload (consistent : Consistent cache geometry landed sys) (id : Nat)
    {page generation : Nat} (inside : page < geometry.numPages)
    (old : generation ≤ sys.world.view.generation page) (inOrder : sys.newest page ≤ generation)
    {outcome : Except Error Unit} {after : World Inner}
    (performed : World.callInner (.upload page) (BlobBackend.write (page * geometry.pageSize)
      (slice (sys.versions page generation) (page * geometry.pageSize) (geometry.pageLen page)))
      sys.world = (outcome, after)) :
    ∃ reached, Consistent cache geometry reached (uploadedSys page generation after sys) ∧
      Moves geometry id landed reached sys (uploadedSys page generation after sys) ∧
      (outcome = .ok () → generation < reached page) := by
  set bytes := slice (sys.versions page generation) (page * geometry.pageSize) (geometry.pageLen page)
    with bytesEq
  obtain ⟨outcomeEq, afterEq⟩ := Prod.mk.inj performed
  have size : FlatStore.size after.disk.inner = geometry.devSize := by
    rw [← afterEq]
    exact (FlatStore.write_size _ _ _).trans consistent.tidy.innerSize
  have tidy : Tidy cache geometry after := by
    rw [← afterEq] at size ⊢
    exact { consistent.tidy with innerSize := size }
  have logged : Issues sys.world [⟨.upload page, .inner after.disk.inner⟩] after := by
    rw [← afterEq]
    exact issue_issues _ _ _
  have view : after.view = { sys.world.view with inner := FlatStore.content after.disk.inner } := by
    rw [← afterEq]
    rfl
  have effect : FlatStore.content after.disk.inner = sys.world.view.inner ∧ outcome ≠ .ok () ∨
      FlatStore.content after.disk.inner =
        splice sys.world.view.inner (page * geometry.pageSize) bytes := by
    rw [← afterEq]
    cases answer : (BlobBackend.write (page * geometry.pageSize) bytes sys.world.disk.inner).1 with
    | ok done => exact .inr (FlatStore.write_ok _ _ _ answer)
    | error error =>
        rcases FlatStore.write_error _ _ _ _ answer with unchanged | applied
        · refine .inl ⟨unchanged, ?_⟩
          rw [← outcomeEq]
          rw [answer]
          simp
        · exact .inr applied
  have pastLanded := consistent.performed page
  have elsewhere (x : Nat) (device : x < geometry.devSize) (different : x / geometry.pageSize ≠ page) :
      FlatStore.content after.disk.inner x = sys.world.view.inner x := by
    have outside := (geometry.mem_page page x).not.mpr (by simp [different])
    rcases effect with ⟨unchanged, _⟩ | applied
    · rw [unchanged]
    · rw [applied, bytesEq, splice_slice, if_neg outside]
  have motion : Motion geometry sys.world.view [⟨.upload page, .inner after.disk.inner⟩] after.view := by
    rw [view]
    by_cases dirty : sys.world.view.dirty page = true
    · exact .land sys.world.view page after.disk.inner dirty elsewhere size
    · have newest := consistent.settled page (by simpa using dirty)
      have same : FlatStore.content after.disk.inner = sys.world.view.inner := by
        rcases effect with ⟨unchanged, _⟩ | applied
        · exact unchanged
        · have bound := consistent.bounded page
          have own := consistent.stored page generation (by omega)
          rw [applied, bytesEq, ← own.slice_eq]
          funext x
          rw [splice_slice, ite_self]
      have step := Pushes.query sys.world.view (.upload page) after.disk.inner same size
      rw [same]
      exact .chore (.settle (.pushes step))
  have moves (reached : Nat → Nat) (further : ∀ other, landed other ≤ reached other) :
      Moves geometry id landed reached sys (uploadedSys page generation after sys) := by
    refine ⟨⟨_, logged, Trail.single motion⟩, fun _ _ _ => rfl, fun other => ?_, further, fun other => ?_,
      fun other same => ?_, fun other _ held => ⟨held, ?_, ?_⟩⟩
    · change _ ≤ after.view.generation other
      rw [view]
    · change _ ≤ Function.update sys.landings page _ other
      rw [Function.update_apply]
      split
      · rename_i own
        rw [own]
        omega
      · exact le_rfl
    · have different : other ≠ page := by
        rintro rfl
        simp [uploadedSys] at same
      change AgreePage geometry other after.view.inner _
      rw [view]
      intro x device own
      exact elsewhere x device (by rw [own]; exact different)
    · change after.view.present = _
      rw [view]
    · change after.view.generation = _
      rw [view]
  have consistentAfter (reached : Nat → Nat)
      (stored : ∀ other version, reached other = version + 1 →
        AgreePage geometry other (FlatStore.content after.disk.inner) (sys.versions other version))
      (bounded : reached page ≤ max (sys.newest page) generation + 1)
      (others : ∀ other, other ≠ page → reached other = landed other)
      (own : sys.world.view.dirty page = false → reached page = sys.world.view.generation page + 1) :
      Consistent cache geometry reached (uploadedSys page generation after sys) := by
    refine ⟨tidy, fun other => ?_, fun other version => ?_, fun other => ?_, fun other => ?_,
      fun other => ?_⟩
    · change AgreePage geometry other (after.view.contents geometry)
        (sys.versions other (after.view.generation other))
      rw [view]
      refine AgreePage.trans ?_ (consistent.current other)
      intro x device inOther
      simp only [View.contents]
      split
      · rfl
      · rename_i absent
        have clean : sys.world.view.dirty (x / geometry.pageSize) = false := by
          by_contra dirty
          rw [Bool.not_eq_false] at dirty
          exact absent (consistent.tidy.resident _ dirty)
        by_cases same : x / geometry.pageSize = page
        · rcases effect with ⟨unchanged, _⟩ | applied
          · rw [unchanged]
          · have newest := consistent.settled page (same ▸ clean)
            have bound := consistent.bounded page
            have agrees := consistent.stored page generation (by omega)
            rw [applied, bytesEq, AgreePage.of_splice geometry page _ _ x device same]
            exact (agrees x device same).symm
        · exact elsewhere x device same
    · change _ → AgreePage geometry other after.view.inner _
      rw [view]
      exact stored other version
    · change _ ≤ Function.update sys.newest page _ other + 1
      by_cases same : other = page
      · rw [same, Function.update_self]
        exact bounded
      · rw [Function.update_of_ne same, others other same]
        exact consistent.performed other
    · change Function.update sys.newest page _ other ≤ after.view.generation other
      rw [view]
      by_cases same : other = page
      · rw [same, Function.update_self]
        exact max_le (consistent.bounded page) old
      · rw [Function.update_of_ne same]
        exact consistent.bounded other
    · change after.view.dirty other = false → reached other = after.view.generation other + 1
      rw [view]
      intro clean
      by_cases same : other = page
      · rw [same] at clean ⊢
        exact own clean
      · rw [others other same]
        exact consistent.settled other clean
  rcases effect with ⟨unchanged, failed⟩ | applied
  · refine ⟨landed, consistentAfter landed ?_ ?_ (fun _ _ => rfl) (consistent.settled page),
      moves landed fun _ => le_rfl, fun success => absurd success failed⟩
    · intro other version
      rw [unchanged]
      exact consistent.stored other version
    · omega
  · refine ⟨Function.update landed page (generation + 1), consistentAfter _ ?_ ?_ ?_ ?_, moves _ ?_, ?_⟩
    · intro other version number
      by_cases same : other = page
      · subst same
        rw [Function.update_self] at number
        obtain rfl : generation = version := by omega
        rw [applied]
        exact AgreePage.of_splice geometry other _ _
      · rw [Function.update_of_ne same] at number
        refine AgreePage.trans ?_ (consistent.stored other version number)
        intro x device own
        exact elsewhere x device (by rw [own]; exact same)
    · rw [Function.update_self]
      omega
    · exact fun other different => Function.update_of_ne different _ _
    · intro clean
      have newest := consistent.settled page clean
      have bound := consistent.bounded page
      rw [Function.update_self]
      omega
    · intro other
      rw [Function.update_apply]
      split
      · rename_i own
        rw [own]
        omega
      · exact le_rfl
    · intro _
      rw [Function.update_self]
      exact Nat.lt_succ_self generation

/-- A page whose newest version has landed may be marked clean. -/
theorem Consistent.cleaned (consistent : Consistent cache geometry landed sys) {id page : Nat}
    (inside : page < geometry.numPages) (newest : landed page = sys.world.view.generation page + 1)
    (free : OpenTo sys id) :
    let after := if cache.budget.isSome
      then (persistMetaBit page (sys.world.setDirty page false)).touch page true
      else persistMetaBit page (sys.world.setDirty page false)
    Consistent cache geometry landed { sys with world := after } ∧
      Moves geometry id landed landed sys { sys with world := after } := by
  intro after
  have synced (dirty : sys.world.view.dirty page = true) : PageSynced geometry sys.world.view page := by
    intro x device own
    rw [← contents_of_present (consistent.tidy.resident page dirty) x device own]
    exact consistent.synced newest x device own
  obtain ⟨pushed, view⟩ := cleaned_pushed consistent.tidy.toSound inside synced
  have view : after.view = sys.world.view.cleaned page := view
  constructor
  · refine ⟨pushed.tidy consistent.tidy, fun other => ?_, fun other version => ?_, consistent.performed,
      fun other => ?_, fun other => ?_⟩
    all_goals dsimp only; rw [view]
    · exact consistent.current other
    · exact consistent.stored other version
    · exact consistent.bounded other
    · intro clean
      by_cases own : other = page
      · rw [own]
        exact newest
      · exact consistent.settled other (by simpa [View.cleaned, own] using clean)
  · refine ⟨pushed.motion, fun _ _ _ => rfl, fun other => ?_, fun _ => le_rfl, fun _ => le_rfl,
      fun other _ => ?_, fun other different held => absurd held fun held => free.excludes different held⟩
    all_goals dsimp only; rw [view]
    · exact le_rfl
    · exact fun _ _ _ => rfl

end FileCacheBackend
end UblkAzblob

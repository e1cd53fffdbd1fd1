import UblkAzblob.Proof.FileCacheVersions

namespace UblkAzblob
open Storage

/-- Writes and clears change the contents. -/
def Request.updates : Request → Bool
  | .write _ _ => true
  | .clear _ _ => true
  | _ => false

namespace FileCacheBackend

variable {Inner : Type} [BlobBackend Inner] [FlatStore Inner]
variable {cache : FileCacheBackend} {geometry : Geometry} {landed : Nat → Nat} {sys : Sys Inner}

section Readiness

/-- The bytes fetched for an absent page are its newest version. -/
def Loaded (geometry : Geometry) (sys : Sys Inner) (page : Nat) (bytes : List UInt8) : Prop :=
  page < geometry.numPages ∧ sys.world.view.present page = false ∧
    bytes = slice (sys.versions page (sys.world.view.generation page)) (page * geometry.pageSize)
      (geometry.pageLen page)

/-- The bytes of the newest versions, which are those that the cache shows. -/
def showing (geometry : Geometry) (sys : Sys Inner) : Store := fun x =>
  sys.versions (x / geometry.pageSize) (sys.world.view.generation (x / geometry.pageSize)) x

theorem Consistent.showing (consistent : Consistent cache geometry landed sys) :
    AgreeOn 0 geometry.devSize (sys.world.view.contents geometry) (showing geometry sys) :=
  fun x _ device => consistent.current _ x device rfl

/-- The remaining chunks tile the rest of an accepted range. -/
structure Pieces (geometry : Geometry) (offset len pos : Nat) (rest : List Chunk) : Prop where
  tiles : Tiles geometry.pageSize offset len pos rest
  aligned : pos % 512 = 0
  accepted : Accepts geometry offset len

/-- An upload carries a version of its page, and a performed one has landed. -/
def TaskReady (geometry : Geometry) (landed : Nat → Nat) (sys : Sys Inner) (page : Nat) :
    FlushPhase → Prop
  | .waiting => True
  | .uploading offset generation bytes => offset = page * geometry.pageSize ∧
      generation ≤ sys.world.view.generation page ∧
      bytes = slice (sys.versions page generation) (page * geometry.pageSize) (geometry.pageLen page)
  | .uploaded generation => generation < landed page
  | .done _ => True

/-- A warm-up task that has fetched its page knows how to tell whether it was uploaded since. -/
def WarmTaskReady (geometry : Geometry) (sys : Sys Inner) (page : Nat) : WarmPhase × Nat → Prop
  | (.checking, _) => True
  | (.fetching offset len, _) => page < geometry.numPages ∧ offset = page * geometry.pageSize ∧
      len = geometry.pageLen page
  | (.storing offset len data, seen) => page < geometry.numPages ∧ offset = page * geometry.pageSize ∧
      len = geometry.pageLen page ∧ seen ≤ sys.landings page ∧
      (sys.landings page = seen → data = slice sys.world.view.inner offset len)
  | (.done _, _) => True

/-- What a call in flight relies on. -/
def Ready (geometry : Geometry) (landed : Nat → Nat) (sys : Sys Inner) (id : Nat) (request : Request) :
    Phase → Prop
  | .waiting => True
  | .updating rest fetched => request.updates = true ∧ sys.holder = some id ∧
      (∃ pos, Pieces geometry request.payload.1 request.payload.2.length pos rest) ∧
      ∀ bytes, fetched = some bytes → ∃ chunk more, rest = chunk :: more ∧
        Loaded geometry sys chunk.page bytes
  | .reading rest result => sys.holder = some id ∧
      ∃ offset len pos, request = .read offset len ∧ Pieces geometry offset len pos rest ∧
        result = slice (showing geometry sys) offset pos
  | .prefetching rest fetched => (∃ offset len, request = .prefetch offset len) ∧
      (∀ page ∈ rest, page < geometry.numPages) ∧
      ∀ bytes, fetched = some bytes → sys.holder = some id ∧ ∃ page more, rest = page :: more ∧
        Loaded geometry sys page bytes
  | .flushing tasks _ => request = .flush ∧ (tasks.map Prod.fst).Nodup ∧
      ∀ page phase, (page, phase) ∈ tasks → page < geometry.numPages ∧
        TaskReady geometry landed sys page phase
  | .syncing _ => request = .flush
  | .tagging => request = .flush
  | .warming tasks => (∃ devSize limitBytes, request = .warmup devSize limitBytes) ∧
      (tasks.map Prod.fst).Nodup ∧
      ∀ page task, (page, task) ∈ tasks → WarmTaskReady geometry sys page task
  | .returned _ => True

variable {id other : Nat} {reached : Nat → Nat} {next : Sys Inner}

theorem Loaded.frame {page : Nat} {bytes : List UInt8} (loaded : Loaded geometry sys page bytes)
    (moves : Moves geometry id landed reached sys next) (different : other ≠ id)
    (held : sys.holder = some other) : Loaded geometry next page bytes := by
  obtain ⟨inside, absent, same⟩ := loaded
  obtain ⟨_, present, generation⟩ := moves.locked other different held
  refine ⟨inside, by rw [present]; exact absent, ?_⟩
  rw [generation, moves.versions page _ le_rfl]
  exact same

theorem TaskReady.frame {page : Nat} {phase : FlushPhase} (ready : TaskReady geometry landed sys page phase)
    (moves : Moves geometry id landed reached sys next) : TaskReady geometry reached next page phase := by
  cases phase with
  | waiting => trivial
  | uploading offset generation bytes =>
      obtain ⟨start, old, same⟩ := ready
      refine ⟨start, old.trans (moves.generation page), ?_⟩
      rw [moves.versions page generation old]
      exact same
  | uploaded generation => exact lt_of_lt_of_le ready (moves.landed page)
  | done result => trivial

theorem WarmTaskReady.frame {page : Nat} {task : WarmPhase × Nat} (ready : WarmTaskReady geometry sys page task)
    (moves : Moves geometry id landed reached sys next) : WarmTaskReady geometry next page task := by
  obtain ⟨phase, seen⟩ := task
  cases phase with
  | checking => trivial
  | fetching offset len => exact ready
  | storing offset len data =>
      obtain ⟨inside, rfl, rfl, early, fresh⟩ := ready
      have later := moves.landings page
      refine ⟨inside, rfl, rfl, early.trans later, fun same => ?_⟩
      rw [(moves.inner page (by omega)).slice_eq]
      exact fresh (by omega)
  | done result => trivial

/-- A step of one call leaves every other call ready. -/
theorem Ready.frame {request : Request} {phase : Phase}
    (ready : Ready geometry landed sys other request phase)
    (moves : Moves geometry id landed reached sys next) (different : other ≠ id) :
    Ready geometry reached next other request phase := by
  cases phase with
  | waiting => trivial
  | updating rest fetched =>
      obtain ⟨named, held, pieces, loaded⟩ := ready
      refine ⟨named, (moves.locked other different held).1, pieces, fun bytes same => ?_⟩
      obtain ⟨chunk, more, start, kept⟩ := loaded bytes same
      exact ⟨chunk, more, start, kept.frame moves different held⟩
  | reading rest result =>
      obtain ⟨held, offset, len, pos, named, pieces, read⟩ := ready
      obtain ⟨still, _, generation⟩ := moves.locked other different held
      have same : showing geometry next = showing geometry sys := by
        funext x
        rw [showing, showing, generation, moves.versions _ _ le_rfl]
      exact ⟨still, offset, len, pos, named, pieces, by rw [same]; exact read⟩
  | prefetching rest fetched =>
      obtain ⟨named, inside, loaded⟩ := ready
      refine ⟨named, inside, fun bytes same => ?_⟩
      obtain ⟨held, page, more, start, kept⟩ := loaded bytes same
      exact ⟨(moves.locked other different held).1, page, more, start, kept.frame moves different held⟩
  | flushing tasks failed =>
      obtain ⟨named, distinct, tasksReady⟩ := ready
      refine ⟨named, distinct, fun page phase member => ?_⟩
      obtain ⟨inside, taskReady⟩ := tasksReady page phase member
      exact ⟨inside, taskReady.frame moves⟩
  | syncing flushedAny => exact ready
  | tagging => exact ready
  | warming tasks =>
      obtain ⟨named, distinct, tasksReady⟩ := ready
      exact ⟨named, distinct, fun page task member => (tasksReady page task member).frame moves⟩
  | returned result => trivial

/-- A running system is consistent, and every call in flight is ready for its next step. -/
structure Running (cache : FileCacheBackend) (geometry : Geometry) (landed : Nat → Nat)
    (sys : Sys Inner) : Prop where
  consistent : Consistent cache geometry landed sys
  ready : ∀ id job, sys.jobs[id]? = some job → Ready geometry landed sys id job.request job.phase

/-- A turn ends in a running system when the call that took it is ready again. -/
theorem Running.turned (running : Running cache geometry landed sys) {job : Job}
    (consistent : Consistent cache geometry reached next)
    (moves : Moves geometry id landed reached sys next) (jobs : next.jobs = sys.jobs.set id job)
    (own : Ready geometry reached next id job.request job.phase) :
    Running cache geometry reached next := by
  refine ⟨consistent, fun other found member => ?_⟩
  rw [jobs, List.getElem?_set] at member
  split at member
  · rename_i same
    split at member
    · obtain rfl := Option.some.inj member
      rw [← same]
      exact own
    · cases member
  · rename_i different
    exact (running.ready other found member).frame moves fun same => different same.symm

end Readiness

section Tasks

variable {id page : Nat}

/-- Once a task is done its page has landed at the floor or later. -/
def TaskCovers (landed : Nat → Nat) (floor page : Nat) : FlushPhase → Prop
  | .waiting => True
  | .uploading _ generation _ => floor ≤ generation
  | .uploaded generation => floor ≤ generation
  | .done (.ok _) => floor < landed page
  | .done (.error _) => True

theorem TaskCovers.mono {landed reached : Nat → Nat} {floor : Nat} {phase : FlushPhase}
    (covers : TaskCovers landed floor page phase) (further : ∀ page, landed page ≤ reached page) :
    TaskCovers reached floor page phase := by
  cases phase with
  | done result =>
      cases result with
      | ok value => exact lt_of_lt_of_le covers (further page)
      | error error => trivial
  | _ => exact covers

/-- What a step of a flush task leaves behind. -/
structure FlushMoved (cache : FileCacheBackend) (geometry : Geometry) (landed : Nat → Nat) (id page : Nat)
    (sys next : Sys Inner) (phase moved : FlushPhase) : Prop where
  step : ∃ reached, Consistent cache geometry reached next ∧
    Moves geometry id landed reached sys next ∧ TaskReady geometry reached next page moved ∧
    ∀ floor, floor ≤ sys.world.view.generation page → TaskCovers landed floor page phase →
      TaskCovers reached floor page moved

theorem flushMoved_same {phase moved : FlushPhase} (consistent : Consistent cache geometry landed sys)
    (ready : TaskReady geometry landed sys page moved)
    (covers : ∀ floor, floor ≤ sys.world.view.generation page → TaskCovers landed floor page phase →
      TaskCovers landed floor page moved) :
    FlushMoved cache geometry landed id page sys sys phase moved :=
  ⟨landed, consistent, .refl id sys, ready, covers⟩

/-- A step of a flush task snapshots, uploads or cleans its page. -/
theorem flushPage_moved {phase : FlushPhase} (consistent : Consistent cache geometry landed sys)
    (inside : page < geometry.numPages) (ready : TaskReady geometry landed sys page phase)
    (free : phase.locks = true → sys.holder = none)
    (inOrder : ∀ offset generation bytes, phase = .uploading offset generation bytes →
      sys.newest page ≤ generation) :
    FlushMoved cache geometry landed id page sys
      { noteLanding page phase sys with world := (cache.flushPage page phase sys.world).2 } phase
      (cache.flushPage page phase sys.world).1 := by
  have sound := consistent.tidy.toSound
  cases phase with
  | waiting =>
      have len : min cache.pageSize (sys.world.state.devSize - page * cache.pageSize) =
          geometry.pageLen page := pageLen_eq sound page
      have device := geometry.page_end_le inside
      simp only [flushPage, len, noteLanding]
      by_cases clean : bitGet sys.world.state.dirty page = false
      · rw [if_pos (by simp [clean])]
        refine flushMoved_same consistent trivial fun floor below _ => ?_
        change floor < landed page
        rw [consistent.settled page clean]
        exact Nat.lt_succ_of_le below
      rw [if_neg (by simpa using clean), if_neg (geometry.pageLen_pos inside).ne', File.readExactAt,
        if_pos (by rw [sound.dataLen, sound.pageSize]; exact device), sound.pageSize]
      refine flushMoved_same consistent ⟨rfl, le_rfl, ?_⟩ fun floor below _ => below
      have present := consistent.tidy.resident page (by simpa using clean)
      exact ((contents_of_present present).symm.trans (consistent.current page)).slice_eq
  | uploading offset generation bytes =>
      obtain ⟨rfl, old, rfl⟩ := ready
      simp only [flushPage, Action.withContext]
      cases answer : World.callInner (.upload page) (BlobBackend.write (page * geometry.pageSize)
          (slice (sys.versions page generation) (page * geometry.pageSize) (geometry.pageLen page)))
          sys.world with
      | mk outcome after =>
          obtain ⟨reached, consistentAfter, moves, success⟩ :=
            consistent.upload id inside old (inOrder _ _ _ rfl) answer
          cases outcome with
          | error error => exact ⟨reached, consistentAfter, moves, trivial, fun _ _ _ => trivial⟩
          | ok value => exact ⟨reached, consistentAfter, moves, success rfl, fun _ _ covers => covers⟩
  | uploaded generation =>
      have open' : OpenTo sys id := .inl (free rfl)
      simp only [flushPage, noteLanding]
      by_cases changed : sys.world.generation page ≠ generation
      · rw [if_pos changed]
        exact flushMoved_same consistent trivial fun floor _ covers => lt_of_le_of_lt covers ready
      · rw [if_neg changed]
        have same : sys.world.view.generation page = generation := not_not.mp changed
        have newest : landed page = sys.world.view.generation page + 1 := by
          have performed := consistent.performed page
          have bounded := consistent.bounded page
          have reached : generation < landed page := ready
          omega
        obtain ⟨consistentAfter, moves⟩ := consistent.cleaned inside newest open'
        exact ⟨landed, consistentAfter, moves, trivial, fun floor _ covers => lt_of_le_of_lt covers ready⟩
  | done result => exact flushMoved_same consistent trivial fun _ _ covers => covers

/-- A step of a warm-up task keeps the system consistent when the page it stores was not uploaded since
its fetch. -/
theorem warmCollect_moved {task : WarmPhase × Nat} (consistent : Consistent cache geometry landed sys)
    (ready : WarmTaskReady geometry sys page task) (free : task.1.locks = true → sys.holder = none)
    (fresh : ∀ offset len data, task.1 = .storing offset len data →
      bitGet sys.world.state.present page = true ∨ sys.landings page = task.2) :
    Consistent cache geometry landed
        { sys with world := (cache.warmCollect sys.landings page task sys.world).2 } ∧
      Moves geometry id landed landed sys
        { sys with world := (cache.warmCollect sys.landings page task sys.world).2 } ∧
      WarmTaskReady geometry { sys with world := (cache.warmCollect sys.landings page task sys.world).2 }
        page (cache.warmCollect sys.landings page task sys.world).1 ∧
      (cache.warmCollect sys.landings page task sys.world).2.view.dirty = sys.world.view.dirty ∧
      (cache.warmCollect sys.landings page task sys.world).2.generation = sys.world.generation := by
  obtain ⟨phase, seen⟩ := task
  have tidy := consistent.tidy
  have unchanged (moved : WarmPhase × Nat) (movedReady : WarmTaskReady geometry sys page moved) :
      Consistent cache geometry landed { sys with world := sys.world } ∧
        Moves geometry id landed landed sys { sys with world := sys.world } ∧
        WarmTaskReady geometry { sys with world := sys.world } page moved ∧
        sys.world.view.dirty = sys.world.view.dirty ∧ sys.world.generation = sys.world.generation :=
    ⟨consistent, .refl id sys, movedReady, rfl, rfl⟩
  cases phase with
  | checking =>
      have plain : WarmReady geometry sys.world.view page .checking := trivial
      obtain ⟨_, _, moved⟩ := warmOnePage_spec tidy plain
      simp only [warmCollect, warmOnePage] at moved ⊢
      split
      · exact unchanged _ trivial
      · split
        · exact unchanged _ trivial
        · rename_i absent nonempty
          rw [if_neg absent, if_neg nonempty] at moved
          exact unchanged _ moved
  | fetching offset len =>
      have plain : WarmReady geometry sys.world.view page (.fetching offset len) := ready
      obtain ⟨movedTidy, traces, moved⟩ := warmOnePage_spec tidy plain
      obtain ⟨inside, rfl, rfl⟩ := ready
      have sameView : (cache.warmOnePage page (.fetching (page * geometry.pageSize) (geometry.pageLen page))
          sys.world).2.view = sys.world.view := by
        simp only [warmOnePage]
        have fetched := fetch_spec page (page * geometry.pageSize) (geometry.pageLen page)
          s!"warm-up read page {page}" (fun got =>
            let len := geometry.pageLen page
            s!"inner backend returned {got} bytes for page {page} (expected {len})") tidy
        split <;> (rename_i answer; rw [answer] at fetched; exact fetched.2.2.1)
      obtain ⟨consistentAfter, moves⟩ := consistent.sameView id movedTidy
        (Traces.mono traces fun _ _ _ step => .chore (.settle (.upkeep step))) sameView
      refine ⟨consistentAfter, moves, ?_, congrArg View.dirty sameView, congrArg View.generation sameView⟩
      simp only [warmCollect]
      cases next : (cache.warmOnePage page (.fetching (page * geometry.pageSize) (geometry.pageLen page))
          sys.world).1 with
      | checking => trivial
      | fetching offset len => rw [next] at moved; exact moved
      | storing offset len data =>
          rw [next] at moved
          obtain ⟨_, sameOffset, sameLen, sameData⟩ := moved
          exact ⟨inside, sameOffset, sameLen, le_rfl, fun _ => sameData⟩
      | done result => trivial
  | storing offset len data =>
      obtain ⟨inside, rfl, rfl, early, known⟩ := ready
      simp only [warmCollect, warmOnePage]
      by_cases present : bitGet sys.world.state.present page = true
      · rw [if_pos present]
        exact unchanged _ trivial
      · rw [if_neg present]
        have same := (fresh _ _ _ rfl).resolve_left present
        have stored := storeCleanPage_spec tidy inside (by simpa using present) (known same)
        rw [tidy.pageSize] at stored
        obtain ⟨consistentAfter, moves⟩ := consistent.upkeep stored.1 stored.2.1 (.inl (.inl (free rfl)))
        obtain ⟨_, _, trail⟩ := stored.2.1
        exact ⟨consistentAfter, moves, trivial, (upkeep_frame trail).2⟩
  | done result => exact unchanged _ trivial

end Tasks

end FileCacheBackend
end UblkAzblob

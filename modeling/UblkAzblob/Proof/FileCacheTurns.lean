import UblkAzblob.Foundation.UpdateLog
import UblkAzblob.Proof.FileCacheJobs

namespace UblkAzblob
open Storage

namespace FileCacheBackend

variable {Inner : Type} {cache : FileCacheBackend} {geometry : Geometry} {landed : Nat → Nat}
variable {sys next : Sys Inner} {id : Nat}

section Chronicle

/-- The part of a write or clear that its call has applied so far. -/
def Job.applied : Job → List Update
  | ⟨request, .updating rest _⟩ =>
      let done := (rest.head?.map Chunk.pos).getD request.payload.2.length
      [(request.payload.1, request.payload.2.take done, true)]
  | _ => []

/-- The updates that returned, and the applied part of the one that holds the lock. -/
def chronicle (sys : Sys Inner) : List Update :=
  sys.history ++ ((sys.holder.bind fun id => sys.jobs[id]?).elim [] Job.applied)

theorem chronicle_unlocked (free : sys.holder = none) : chronicle sys = sys.history := by
  simp [chronicle, free]

theorem chronicle_own {job : Job} (held : sys.holder = some id) (found : sys.jobs[id]? = some job) :
    chronicle sys = sys.history ++ Job.applied job := by
  simp [chronicle, held, found]

theorem chronicle_idle {job : Job} (free : OpenTo sys id) (found : sys.jobs[id]? = some job)
    (idle : Job.applied job = []) : chronicle sys = sys.history := by
  rcases free with none | own
  · exact chronicle_unlocked none
  · rw [chronicle_own own found, idle, List.append_nil]

/-- A turn of another call leaves the applied part of an update as it is. -/
theorem chronicle_other {other : Nat} {job : Job} (held : sys.holder = some other) (different : other ≠ id)
    (still : next.holder = some other) (jobs : next.jobs = sys.jobs.set id job)
    (history : next.history = sys.history) : chronicle next = chronicle sys := by
  simp only [chronicle, held, still, history, Option.bind_some, jobs,
    List.getElem?_set_ne (Ne.symm different)]

theorem getElem?_set_found {job found : Job} {jobs : List Job} (was : jobs[id]? = some found) :
    (jobs.set id job)[id]? = some job := by
  have inside : id < jobs.length := (List.getElem?_eq_some_iff.mp was).1
  simp [inside]

/-- A turn of a call that applies no update keeps the chronicle. -/
theorem chronicle_turn {before job : Job} (found : sys.jobs[id]? = some before)
    (idleBefore : Job.applied before = []) (idle : Job.applied job = [])
    (jobs : next.jobs = sys.jobs.set id job) (history : next.history = sys.history)
    (holder : next.holder = sys.holder ∨ OpenTo sys id ∧ OpenTo next id) :
    chronicle next = chronicle sys := by
  have foundAfter : next.jobs[id]? = some job := by rw [jobs]; exact getElem?_set_found found
  have own (free : OpenTo sys id) (freeAfter : OpenTo next id) : chronicle next = chronicle sys := by
    rw [chronicle_idle freeAfter foundAfter idle, chronicle_idle free found idleBefore, history]
  rcases holder with same | ⟨free, freeAfter⟩
  · cases held : sys.holder with
    | none => exact own (.inl held) (.inl (same.trans held))
    | some other =>
        by_cases mine : other = id
        · subst mine
          exact own (.inr held) (.inr (same.trans held))
        · exact chronicle_other held mine (same.trans held) jobs history
  · exact own free freeAfter

/-- How a turn changes the versions and the chronicle. -/
inductive Tale (geometry : Geometry) (sys next : Sys Inner) : Prop where
  | calm (versions : next.versions = sys.versions)
      (generation : next.world.generation = sys.world.generation)
      (told : chronicle next = chronicle sys)
  | began (offset : Nat) (versions : next.versions = sys.versions)
      (generation : next.world.generation = sys.world.generation)
      (told : chronicle next = chronicle sys ++ [(offset, [], true)])
  | wrote (log : List Update) (offset done : Nat) (data : List UInt8) (page len : Nat)
      (sameLog : log = sys.history) (fits : done + len ≤ data.length)
      (inPage : ∀ x, offset + done ≤ x → x < offset + done + len → x / geometry.pageSize = page)
      (versions : next.versions = Function.update sys.versions page (Function.update (sys.versions page)
        (sys.world.generation page + 1) (splice (sys.versions page (sys.world.generation page))
          (offset + done) ((data.drop done).take len))))
      (generation : next.world.generation =
        Function.update sys.world.generation page (sys.world.generation page + 1))
      (before : chronicle sys = log ++ [(offset, data.take done, true)])
      (told : chronicle next = log ++ [(offset, data.take (done + len), true)])
  | gaveUp (log : List Update) (offset done : Nat) (data : List UInt8) (sameLog : log = sys.history)
      (versions : next.versions = sys.versions)
      (generation : next.world.generation = sys.world.generation)
      (before : chronicle sys = log ++ [(offset, data.take done, true)])
      (told : chronicle next = log ++ [(offset, data, false)])

end Chronicle

section Relabelling

theorem finish_holder (request : Request) (result : Except Error (List UInt8)) (other : Nat)
    (different : other ≠ id) (held : next.holder = some other) :
    (next.finish id request result).holder = some other := by
  simp only [Sys.finish, held]
  rw [if_neg fun same => different (Option.some.inj same)]

theorem finish_open {request : Request} (free : OpenTo sys id) (result : Except Error (List UInt8)) :
    (sys.finish id request result).holder = none := by
  rcases free with none | own
  · simp [Sys.finish, none]
  · simp [Sys.finish, own]

/-- A call that returns either had the lock to itself or leaves it where it is. -/
theorem finish_lock {request : Request} (sys : Sys Inner) (result : Except Error (List UInt8)) :
    (sys.finish id request result).holder = sys.holder ∨
      OpenTo sys id ∧ OpenTo (sys.finish id request result) id := by
  by_cases own : sys.holder = some id
  · exact .inr ⟨.inr own, .inl (finish_open (.inr own) result)⟩
  · exact .inl (if_neg own)

variable [BlobBackend Inner] [FlatStore Inner] {reached : Nat → Nat} {request : Request}

/-- Consistency depends only on the world, the versions and the landed generations. -/
theorem Consistent.relabel (consistent : Consistent cache geometry landed sys) (world : next.world = sys.world)
    (versions : next.versions = sys.versions) (newest : next.newest = sys.newest) :
    Consistent cache geometry landed next := by
  obtain ⟨tidy, current, stored, performed, bounded, settled⟩ := consistent
  refine ⟨?_, ?_, ?_, ?_, ?_, ?_⟩
  all_goals simpa only [world, versions, newest]

/-- A call may pass the lock on when no other call holds it. -/
theorem Moves.relabel {final : Sys Inner} (moves : Moves geometry id landed reached sys next)
    (world : final.world = next.world) (versions : final.versions = next.versions)
    (landings : final.landings = next.landings)
    (holder : ∀ other, other ≠ id → next.holder = some other → final.holder = some other) :
    Moves geometry id landed reached sys final := by
  obtain ⟨traces, oldVersions, generation, landedOn, oldLandings, inner, locked⟩ := moves
  refine ⟨?_, ?_, ?_, landedOn, ?_, ?_, ?_⟩
  · rw [world]
    exact traces
  · rw [versions]
    exact oldVersions
  · rw [world]
    exact generation
  · rw [landings]
    exact oldLandings
  · rw [landings, world]
    exact inner
  · intro other different held
    rw [world]
    obtain ⟨still, same⟩ := locked other different held
    exact ⟨holder other different still, same⟩

theorem Consistent.enter (consistent : Consistent cache geometry landed sys) (phase : Phase) :
    Consistent cache geometry landed (sys.enter id request phase) :=
  consistent.relabel rfl rfl rfl

theorem Moves.enter (moves : Moves geometry id landed reached sys next) (phase : Phase) :
    Moves geometry id landed reached sys (next.enter id request phase) :=
  moves.relabel rfl rfl rfl fun _ _ held => held

theorem Consistent.finish (consistent : Consistent cache geometry landed sys)
    (result : Except Error (List UInt8)) :
    Consistent cache geometry landed (sys.finish id request result) :=
  consistent.relabel rfl rfl rfl

theorem Moves.finish (moves : Moves geometry id landed reached sys next)
    (result : Except Error (List UInt8)) :
    Moves geometry id landed reached sys (next.finish id request result) :=
  moves.relabel rfl rfl rfl (finish_holder request result)

theorem Consistent.finishUpdate (consistent : Consistent cache geometry landed sys)
    (result : Except Error Unit) :
    Consistent cache geometry landed (sys.finishUpdate id request result) :=
  consistent.relabel rfl rfl rfl

theorem Moves.finishUpdate (moves : Moves geometry id landed reached sys next)
    (result : Except Error Unit) :
    Moves geometry id landed reached sys (next.finishUpdate id request result) :=
  moves.relabel rfl rfl rfl (finish_holder request (result.map fun _ => []))

end Relabelling

section Turns

variable [BlobBackend Inner] [FlatStore Inner] {reached : Nat → Nat} {request : Request}

/-- Every page of the device has landed past its floor. -/
def AllPast (geometry : Geometry) (landed floor : Nat → Nat) : Prop :=
  ∀ page, page < geometry.numPages → floor page < landed page

/-- A flush lets no page fall behind the floor that held when it began. -/
def JobCovers (geometry : Geometry) (landed floor : Nat → Nat) : Job → Prop
  | ⟨.flush, .flushing tasks failed⟩ =>
      (∀ page phase, (page, phase) ∈ tasks → TaskCovers landed (floor page) page phase) ∧
      (∀ page, page < geometry.numPages → page ∉ tasks.map Prod.fst → floor page < landed page) ∧
      (failed = none → ∀ page error, (page, .done (.error error)) ∉ tasks)
  | ⟨.flush, .syncing _⟩ => AllPast geometry landed floor
  | ⟨.flush, .tagging⟩ => AllPast geometry landed floor
  | ⟨.flush, .returned (.ok _)⟩ => AllPast geometry landed floor
  | _ => True

/-- A flush carries the copy of a page that it is uploading. -/
def Job.carries (page generation : Nat) : Job → Prop
  | ⟨_, .flushing tasks _⟩ => ∃ offset bytes, (page, .uploading offset generation bytes) ∈ tasks
  | _ => False

/-- A turn performs an upload that its flush carried, or performs none and may copy a page. -/
inductive Landing (sys next : Sys Inner) (before job : Job) : Prop where
  | calm (newest : next.newest = sys.newest)
      (copies : ∀ page generation, Job.carries page generation job →
        Job.carries page generation before ∨ sys.newest page ≤ generation)
  | performed (page generation : Nat) (carried : Job.carries page generation before)
      (newest : next.newest = Function.update sys.newest page (max (sys.newest page) generation))
      (copies : ∀ other version, Job.carries other version job → other ≠ page ∧ Job.carries other version before)

/-- How a turn changes the uploads in flight. -/
structure Flight (sys next : Sys Inner) (before job : Job) : Prop where
  flies : job.inFlight = true → before.inFlight = true ∨ before = ⟨.flush, .waiting⟩
  landing : Landing sys next before job

omit [BlobBackend Inner] [FlatStore Inner] in
/-- A call that is no flush in flight carries no copy. -/
theorem Flight.plain {before job : Job} (newest : next.newest = sys.newest) (idle : job.inFlight = false) :
    Flight sys next before job := by
  refine ⟨fun flies => absurd (idle.symm.trans flies) Bool.false_ne_true, .calm newest fun page generation carries => ?_⟩
  obtain ⟨request, phase⟩ := job
  cases phase with
  | flushing tasks failed => cases idle
  | _ => exact carries.elim

/-- What a turn of a call leads to. -/
structure Turn (cache : FileCacheBackend) (geometry : Geometry) (landed : Nat → Nat) (id : Nat)
    (sys next : Sys Inner) (before job : Job) (reached : Nat → Nat) : Prop where
  consistent : Consistent cache geometry reached next
  moves : Moves geometry id landed reached sys next
  jobs : next.jobs = sys.jobs.set id job
  named : job.request = before.request
  ready : Ready geometry reached next id job.request job.phase
  tale : Tale geometry sys next
  grows : sys.history.length ≤ next.history.length
  flight : Flight sys next before job
  covers : ∀ floor, (∀ page, floor page ≤ sys.world.generation page) →
    JobCovers geometry landed floor before → JobCovers geometry reached floor job
  answers : ∀ offset len bytes, job = ⟨.read offset len, .returned (.ok bytes)⟩ →
    bytes = slice (showing geometry next) offset len ∧ (len ≠ 0 → chronicle next = next.history)

/-- A call that returns without a result for its caller. -/
theorem Turn.finished {was : Phase} (found : sys.jobs[id]? = some ⟨request, was⟩)
    (consistent : Consistent cache geometry reached next) (moves : Moves geometry id landed reached sys next)
    (jobs : next.jobs = sys.jobs) (holder : next.holder = sys.holder) (history : next.history = sys.history)
    (versions : next.versions = sys.versions) (newest : next.newest = sys.newest)
    (generation : next.world.generation = sys.world.generation)
    (idle : Job.applied ⟨request, was⟩ = []) {result : Except Error (List UInt8)}
    (covers : ∀ floor, (∀ page, floor page ≤ sys.world.generation page) →
      JobCovers geometry landed floor ⟨request, was⟩ →
      JobCovers geometry reached floor ⟨request, .returned result⟩)
    (answers : ∀ offset len bytes, request = .read offset len → result = .ok bytes →
      bytes = slice (showing geometry next) offset len ∧ (len ≠ 0 → OpenTo sys id)) :
    Turn cache geometry landed id sys (next.finish id request result) ⟨request, was⟩
      ⟨request, .returned result⟩ reached where
  consistent := consistent.finish result
  moves := moves.finish result
  jobs := congrArg (List.set · id _) jobs
  named := rfl
  ready := trivial
  tale := by
    refine .calm versions generation ?_
    refine chronicle_turn found idle rfl (congrArg (List.set · id _) jobs) history ?_
    rw [← holder, OpenTo, ← holder]
    exact finish_lock next result
  grows := by
    change _ ≤ next.history.length
    rw [history]
  flight := .plain newest rfl
  covers := covers
  answers := by
    rintro offset len bytes ⟨⟩
    obtain ⟨same, free⟩ := answers offset len bytes rfl rfl
    refine ⟨same, fun nonempty => chronicle_unlocked (finish_open ?_ _)⟩
    rw [OpenTo, holder]
    exact free nonempty

/-- A call that goes on without an update of its own. -/
theorem Turn.entered {was : Phase} (found : sys.jobs[id]? = some ⟨request, was⟩)
    (consistent : Consistent cache geometry reached next) (moves : Moves geometry id landed reached sys next)
    (jobs : next.jobs = sys.jobs) (history : next.history = sys.history)
    (holder : next.holder = sys.holder ∨ OpenTo sys id ∧ OpenTo next id)
    (versions : next.versions = sys.versions) (generation : next.world.generation = sys.world.generation)
    (idle : Job.applied ⟨request, was⟩ = []) {phase : Phase}
    (idleAfter : Job.applied ⟨request, phase⟩ = []) (unfinished : ∀ result, phase ≠ .returned result)
    (ready : Ready geometry reached (next.enter id request phase) id request phase)
    (flight : Flight sys (next.enter id request phase) ⟨request, was⟩ ⟨request, phase⟩)
    (covers : ∀ floor, (∀ page, floor page ≤ sys.world.generation page) →
      JobCovers geometry landed floor ⟨request, was⟩ → JobCovers geometry reached floor ⟨request, phase⟩) :
    Turn cache geometry landed id sys (next.enter id request phase) ⟨request, was⟩ ⟨request, phase⟩ reached where
  consistent := consistent.enter phase
  moves := moves.enter phase
  jobs := congrArg (List.set · id _) jobs
  named := rfl
  ready := ready
  tale := .calm versions generation
    (chronicle_turn found idle idleAfter (congrArg (List.set · id _) jobs) history holder)
  grows := by
    change _ ≤ next.history.length
    rw [history]
  flight := flight
  covers := covers
  answers := by
    rintro offset len bytes same
    exact absurd (congrArg Job.phase same) (unfinished _)

omit [BlobBackend Inner] [FlatStore Inner] in
theorem jobCovers_other {floor : Nat → Nat} (other : request ≠ .flush) (phase : Phase) :
    JobCovers geometry landed floor ⟨request, phase⟩ := by
  cases request with
  | flush => exact absurd rfl other
  | _ => trivial

omit [BlobBackend Inner] [FlatStore Inner] in
theorem jobCovers_updates {floor : Nat → Nat} (updates : request.updates = true) (phase : Phase) :
    JobCovers geometry landed floor ⟨request, phase⟩ :=
  jobCovers_other (by rintro rfl; cases updates) phase

/-- A call that moves the lock to itself keeps what the others rely on. -/
theorem Moves.lock (free : sys.holder = none) :
    Moves geometry id landed landed sys { sys with holder := some id } :=
  (Moves.refl id sys).relabel rfl rfl rfl fun other _ held => by rw [free] at held; cases held

/-- A query of the inner store keeps the system consistent. -/
theorem Consistent.query (consistent : Consistent cache geometry landed sys) (id : Nat) {Value : Type}
    (site : Site) {action : Action Inner Value}
    (keeps : FlatStore.content (action sys.world.disk.inner).2 = FlatStore.content sys.world.disk.inner ∧
      FlatStore.size (action sys.world.disk.inner).2 = FlatStore.size sys.world.disk.inner) :
    Consistent cache geometry landed { sys with world := (World.callInner site action sys.world).2 } ∧
      Moves geometry id landed landed sys { sys with world := (World.callInner site action sys.world).2 } := by
  obtain ⟨tidy, view⟩ := callInner_spec site consistent.tidy keeps
  exact consistent.sameView id tidy (query_pushed site consistent.tidy.toSound keeps).motion view

/-- An accepted range is cut into pieces. -/
theorem pieces_of_accepted {offset len : Nat} (accepted : Accepts geometry offset len) :
    Pieces geometry offset len 0 (chunks geometry.pageSize offset len) :=
  ⟨chunks_tiles _ _ _ geometry.pagePositive, rfl, accepted⟩

/-- The first remaining chunk tells how much of the range is done. -/
theorem Pieces.head {offset len pos : Nat} {rest : List Chunk} (pieces : Pieces geometry offset len pos rest) :
    (rest.head?.map Chunk.pos).getD len = pos := by
  obtain ⟨tiles, _, _⟩ := pieces
  cases tiles with
  | done => rfl
  | next chunk rest start within positive bounded cut tail => rfl

theorem accepts_of_checks {op : String} {offset len : Nat} {done : Unit}
    (tidy : Tidy cache geometry sys.world) (aligned : offset % 512 = 0 ∧ len % 512 = 0)
    (checked : (checkInBounds op offset len sys.world.state.devSize sys.world).1 = .ok done) :
    Accepts geometry offset len := by
  refine ⟨aligned.1, aligned.2, ?_⟩
  rw [checkInBounds, tidy.devSize] at checked
  split at checked
  · cases checked
  · split at checked
    · cases checked
    · omega

/-- A flush that begins owes nothing for a page that is clean. -/
theorem beginFlush_covers (consistent : Consistent cache geometry landed sys) (floor : Nat → Nat)
    (below : ∀ page, floor page ≤ sys.world.generation page) :
    JobCovers geometry landed floor
      ⟨.flush, .flushing ((dirtyPages sys.world.state).map fun page => (page, .waiting)) none⟩ := by
  refine ⟨?_, ?_, ?_⟩
  · intro page phase member
    obtain ⟨_, rfl⟩ := mem_tagged member
    trivial
  · intro page inside absent
    rw [map_fst_tagged, mem_dirtyPages consistent.tidy.toSound, Bool.not_eq_true] at absent
    rw [consistent.settled page absent]
    exact Nat.lt_succ_of_le (below page)
  · intro _ page error member
    cases (mem_tagged member).2

omit [BlobBackend Inner] [FlatStore Inner] in
/-- A flush that begins has copied no page yet. -/
theorem beginFlush_flight (newest : next.newest = sys.newest) :
    Flight sys next ⟨.flush, .waiting⟩
      ⟨.flush, .flushing ((dirtyPages sys.world.state).map fun page => (page, .waiting)) none⟩ := by
  refine ⟨fun _ => .inr rfl, .calm newest ?_⟩
  intro page generation ⟨offset, bytes, member⟩
  cases (mem_tagged member).2

theorem beginFlush_ready (id : Nat) (consistent : Consistent cache geometry landed sys) :
    Ready geometry landed sys id .flush
      (.flushing ((dirtyPages sys.world.state).map fun page => (page, .waiting)) none) := by
  refine ⟨rfl, ?_, ?_⟩
  · rw [map_fst_tagged]
    exact List.nodup_range.filter _
  · intro page phase member
    obtain ⟨dirty, rfl⟩ := mem_tagged member
    rw [mem_dirtyPages consistent.tidy.toSound] at dirty
    exact ⟨consistent.tidy.dirtyInside page dirty, trivial⟩

/-- A waiting call that returns at once. -/
theorem beginFinish_turn (consistent : Consistent cache geometry landed sys)
    (found : sys.jobs[id]? = some ⟨request, .waiting⟩) (result : Except Error (List UInt8))
    (other : request ≠ .flush)
    (empty : ∀ offset len bytes, request = .read offset len → result = .ok bytes → len = 0 ∧ bytes = []) :
    Turn cache geometry landed id sys (sys.finish id request result) ⟨request, .waiting⟩
      ⟨request, .returned result⟩ landed := by
  refine .finished found consistent (.refl id sys) rfl rfl rfl rfl rfl rfl rfl
    (fun _ _ _ => jobCovers_other other _) fun offset len bytes named answer => ?_
  obtain ⟨rfl, rfl⟩ := empty offset len bytes named answer
  exact ⟨rfl, fun nonempty => absurd rfl nonempty⟩

/-- A write or clear takes the lock before its first chunk. -/
theorem beginUpdate_turn (consistent : Consistent cache geometry landed sys)
    (found : sys.jobs[id]? = some ⟨request, .waiting⟩) (free : sys.holder = none)
    (updates : request.updates = true)
    (accepted : Accepts geometry request.payload.1 request.payload.2.length) :
    let phase := Phase.updating (chunks geometry.pageSize request.payload.1 request.payload.2.length) none
    Turn cache geometry landed id sys ({ sys with holder := some id }.enter id request phase)
      ⟨request, .waiting⟩ ⟨request, phase⟩ landed := by
  intro phase
  have pieces := pieces_of_accepted accepted
  refine ⟨consistent.relabel rfl rfl rfl, (Moves.lock free).enter phase, rfl, rfl,
    ⟨updates, rfl, ⟨0, pieces⟩, nofun⟩, ?_, le_rfl, .plain rfl rfl, fun _ _ _ => jobCovers_updates updates _,
    fun _ _ _ same => by cases congrArg Job.phase same⟩
  refine .began request.payload.1 rfl rfl ?_
  rw [chronicle_unlocked free, chronicle_own rfl (getElem?_set_found found)]
  change sys.history ++ [(_, request.payload.2.take _, true)] = _
  rw [pieces.head, List.take_zero]

/-- A call takes its first turn. -/
theorem beginCall_turn (consistent : Consistent cache geometry landed sys)
    (found : sys.jobs[id]? = some ⟨request, .waiting⟩) (taken : cache.beginCall id request sys = some next) :
    ∃ job reached, Turn cache geometry landed id sys next ⟨request, .waiting⟩ job reached := by
  have samePage := consistent.tidy.pageSize
  unfold beginCall at taken
  cases guarded : request.guards with
  | some guard =>
      obtain ⟨message, op, offset, len⟩ := guard
      have other : request ≠ .flush := by
        rintro rfl
        cases guarded
      simp only [guarded] at taken
      split at taken
      · rename_i empty
        obtain rfl := Option.some.inj taken
        refine ⟨_, _, beginFinish_turn consistent found _ other fun _ _ _ named answer => ?_⟩
        subst named
        cases guarded
        cases answer
        exact ⟨empty, rfl⟩
      · split at taken
        · obtain rfl := Option.some.inj taken
          exact ⟨_, _, beginFinish_turn consistent found _ other nofun⟩
        · rename_i nonempty aligned
          split at taken
          · cases taken
          · rename_i free
            have free : sys.holder = none := by simpa using free
            split at taken
            · obtain rfl := Option.some.inj taken
              exact ⟨_, _, beginFinish_turn consistent found _ other nofun⟩
            · rename_i checked
              have accepted := accepts_of_checks consistent.tidy (not_not.mp aligned) checked
              rw [samePage] at taken
              cases request with
              | read start size =>
                  cases guarded
                  obtain rfl := Option.some.inj taken
                  have locked : Consistent cache geometry landed { sys with holder := some id } :=
                    consistent.relabel rfl rfl rfl
                  refine ⟨⟨.read offset len, .reading _ []⟩, landed, Turn.entered found locked
                    (Moves.lock free) rfl rfl (.inr ⟨.inl free, .inr rfl⟩) rfl rfl rfl rfl nofun ?_ (.plain rfl rfl)
                    fun _ _ _ => trivial⟩
                  exact ⟨rfl, offset, len, 0, rfl, pieces_of_accepted accepted, rfl⟩
              | prefetch start size =>
                  cases guarded
                  obtain rfl := Option.some.inj taken
                  refine ⟨⟨.prefetch offset len, .prefetching _ none⟩, landed, Turn.entered found consistent
                    (.refl id sys) rfl rfl (.inl rfl) rfl rfl rfl rfl nofun ?_ (.plain rfl rfl) fun _ _ _ => trivial⟩
                  exact ⟨⟨offset, len, rfl⟩, fun page member => prefetch_inside accepted member, nofun⟩
              | write start data =>
                  cases guarded
                  obtain rfl := Option.some.inj taken
                  exact ⟨_, _, beginUpdate_turn consistent found free rfl accepted⟩
              | clear start size =>
                  cases guarded
                  obtain rfl := Option.some.inj taken
                  have length : (Request.clear offset len).payload.2.length = len := List.length_replicate
                  have turn := beginUpdate_turn consistent found free rfl (by rw [length]; exact accepted)
                  rw [length] at turn
                  exact ⟨_, _, turn⟩
              | warmup deviceSize limitBytes => cases guarded
              | flush => cases guarded
  | none =>
      simp only [guarded] at taken
      cases request with
      | warmup deviceSize limitBytes =>
          simp only at taken
          split at taken
          · obtain rfl := Option.some.inj taken
            exact ⟨_, _, beginFinish_turn consistent found _ nofun nofun⟩
          · obtain rfl := Option.some.inj taken
            obtain ⟨queried, moves⟩ := consistent.query id .dataRanges
              (FlatStore.ranges_keep sys.world.disk.inner)
            refine ⟨⟨.warmup deviceSize limitBytes, .warming _⟩, landed, Turn.entered found queried moves
              rfl rfl (.inl rfl) rfl rfl rfl rfl nofun ?_ (.plain rfl rfl) fun _ _ _ => trivial⟩
            refine ⟨⟨_, _, rfl⟩, ?_, ?_⟩
            · rw [map_fst_tagged]
              exact List.nodup_range.filter _
            · intro page task member
              obtain ⟨_, rfl⟩ := mem_tagged member
              trivial
      | flush =>
          simp only at taken
          split at taken
          · cases taken
          · obtain rfl := Option.some.inj taken
            have ready := beginFlush_ready id consistent
            exact ⟨⟨.flush, .flushing _ none⟩, landed, Turn.entered found consistent (.refl id sys) rfl rfl
              (.inl rfl) rfl rfl rfl rfl nofun ready (beginFlush_flight rfl)
              fun floor below _ => beginFlush_covers consistent floor below⟩
      | _ => cases guarded

end Turns

end FileCacheBackend
end UblkAzblob

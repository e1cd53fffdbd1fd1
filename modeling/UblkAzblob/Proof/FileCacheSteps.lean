import UblkAzblob.Proof.FileCacheTurns

namespace UblkAzblob
open Storage

namespace FileCacheBackend

variable {Inner : Type} [BlobBackend Inner] [FlatStore Inner]
variable {cache : FileCacheBackend} {geometry : Geometry} {landed : Nat → Nat}
variable {sys next : Sys Inner} {id : Nat} {request : Request}

section Pieces

variable {offset len pos : Nat} {chunk : Chunk} {rest : List Chunk}

/-- The next chunk of a range lies in one page, and the rest follows it. -/
theorem Pieces.step (pieces : Pieces geometry offset len pos (chunk :: rest)) :
    chunk.pos = pos ∧ geometry.Fits offset chunk ∧ chunk.pos + chunk.len ≤ len ∧
      Pieces geometry offset len (pos + chunk.len) rest := by
  obtain ⟨tiles, aligned, offsetAligned, lenAligned, device⟩ := pieces
  cases tiles with
  | next chunk rest start within positive bounded cut tail =>
      have fits := geometry.fits_of_tiles start within positive bounded cut aligned offsetAligned
        lenAligned device
      have chunkAligned := fits.lenAligned
      exact ⟨rfl, fits, bounded, tail, by omega, offsetAligned, lenAligned, device⟩

theorem Pieces.whole (pieces : Pieces geometry offset len pos []) : pos = len := by
  obtain ⟨tiles, _, _⟩ := pieces
  cases tiles
  rfl

theorem applied_updating (pieces : Pieces geometry request.payload.1 request.payload.2.length pos rest)
    (fetched : Option (List UInt8)) :
    Job.applied ⟨request, .updating rest fetched⟩ = [(request.payload.1, request.payload.2.take pos, true)] := by
  change [(_, request.payload.2.take _, true)] = _
  rw [pieces.head]

end Pieces

section Fetches

variable {page : Nat} {world : World Inner}

/-- A locked fetch changes nothing visible, and returns the page of the inner store. -/
theorem fetchPage_spec (tidy : Tidy cache geometry world) (inside : page < geometry.numPages) :
    Tidy cache geometry (cache.fetchPage page world).2 ∧
      Traces (Upkeep geometry) world (cache.fetchPage page world).2 ∧
      (cache.fetchPage page world).2.view = world.view ∧
      ∀ bytes, (cache.fetchPage page world).1 = .ok bytes →
        bytes = slice world.view.inner (page * geometry.pageSize) (geometry.pageLen page) := by
  have len : min cache.pageSize (world.state.devSize - page * cache.pageSize) =
      geometry.pageLen page := pageLen_eq tidy.toSound page
  simp only [fetchPage, len]
  obtain ⟨fetched, traces, same, _, exact⟩ := fetch_spec page (page * cache.pageSize) (geometry.pageLen page)
    s!"load page {page} from inner backend" (fun got =>
      let pageLen := geometry.pageLen page
      s!"inner backend returned {got} bytes for page {page} (expected {pageLen})") tidy
  refine ⟨fetched, traces, same, fun bytes success => ?_⟩
  rw [← tidy.pageSize]
  refine exact bytes success ?_ (geometry.pageLen_aligned page) ?_
  · rw [tidy.pageSize]
    exact geometry.page_start_aligned page
  · rw [tidy.pageSize]
    exact geometry.page_end_le inside

/-- The bytes of an absent page in the inner store are its newest version. -/
theorem loaded_of_absent (consistent : Consistent cache geometry landed sys) (inside : page < geometry.numPages)
    (absent : sys.world.view.present page = false) :
    Loaded geometry sys page
      (slice sys.world.view.inner (page * geometry.pageSize) (geometry.pageLen page)) := by
  refine ⟨inside, absent, AgreePage.slice_eq ?_⟩
  refine AgreePage.trans ?_ (consistent.current page)
  intro x device own
  rw [View.contents, own, if_neg (by rw [absent]; exact Bool.false_ne_true)]

/-- A locked fetch keeps the system consistent and loads an absent page. -/
theorem Consistent.fetched (consistent : Consistent cache geometry landed sys) (id : Nat)
    (inside : page < geometry.numPages) :
    Consistent cache geometry landed { sys with world := (cache.fetchPage page sys.world).2 } ∧
      Moves geometry id landed landed sys { sys with world := (cache.fetchPage page sys.world).2 } ∧
      (cache.fetchPage page sys.world).2.view = sys.world.view ∧
      ∀ bytes, (cache.fetchPage page sys.world).1 = .ok bytes → sys.world.view.present page = false →
        Loaded geometry { sys with world := (cache.fetchPage page sys.world).2 } page bytes := by
  obtain ⟨tidy, traces, same, exact⟩ := fetchPage_spec consistent.tidy inside
  obtain ⟨after, moves⟩ := consistent.sameView id tidy
    (Traces.mono traces fun _ _ _ step => .chore (.settle (.upkeep step))) same
  refine ⟨after, moves, same, fun bytes success absent => ?_⟩
  have loaded := loaded_of_absent after inside (by rw [same]; exact absent)
  rw [same] at loaded
  rw [exact bytes success]
  exact loaded

/-- Storing the loaded bytes of an absent page keeps the system consistent. -/
theorem Consistent.storedPage (consistent : Consistent cache geometry landed sys) {bytes : List UInt8}
    (loaded : Loaded geometry sys page bytes) (free : OpenTo sys id) :
    let stored := cache.storeCleanPage page (page * cache.pageSize) bytes sys.world
    Consistent cache geometry landed { sys with world := stored } ∧
      Moves geometry id landed landed sys { sys with world := stored } ∧
      stored.view.present page = true ∧ stored.generation = sys.world.generation := by
  intro stored
  obtain ⟨inside, absent, same⟩ := loaded
  have clean : sys.world.view.dirty page = false := by
    by_contra dirty
    rw [Bool.not_eq_false] at dirty
    exact Bool.false_ne_true (absent.symm.trans (consistent.tidy.resident page dirty))
  have current := (consistent.stored page _ (consistent.settled page clean)).slice_eq
  have spec := storeCleanPage_spec consistent.tidy inside absent (same.trans current.symm)
  obtain ⟨after, moves⟩ := consistent.upkeep spec.1 spec.2.1 (.inl free)
  refine ⟨after, moves, spec.2.2, ?_⟩
  obtain ⟨calls, _, trail⟩ := spec.2.1
  exact (upkeep_frame trail).2.2

end Fetches

section Updates

variable {chunk : Chunk} {rest : List Chunk} {fetched : Option (List UInt8)} {pos : Nat}

omit [BlobBackend Inner] [FlatStore Inner] in
/-- A call that holds the lock gives it back when it returns. -/
theorem finishUpdate_unlocked (held : sys.holder = some id) (request : Request) (result : Except Error Unit) :
    (sys.finishUpdate id request result).holder = none := by
  simp [Sys.finishUpdate, Sys.finish, held]

omit [BlobBackend Inner] [FlatStore Inner] in
theorem finishUpdate_grows (sys : Sys Inner) (id : Nat) (request : Request) (result : Except Error Unit) :
    sys.history.length ≤ (sys.finishUpdate id request result).history.length := by
  change _ ≤ (sys.history ++ [_]).length
  rw [List.length_append]
  omega

/-- What a turn of a write or clear must show, whatever it does to its page. -/
theorem Turn.update {was phase : Phase} (updates : request.updates = true)
    (consistent : Consistent cache geometry landed next) (moves : Moves geometry id landed landed sys next)
    (jobs : next.jobs = sys.jobs.set id ⟨request, phase⟩)
    (ready : Ready geometry landed next id request phase) (tale : Tale geometry sys next)
    (grows : sys.history.length ≤ next.history.length) (newest : next.newest = sys.newest)
    (idle : Job.inFlight ⟨request, phase⟩ = false) :
    Turn cache geometry landed id sys next ⟨request, was⟩ ⟨request, phase⟩ landed where
  consistent := consistent
  moves := moves
  jobs := jobs
  named := rfl
  ready := ready
  tale := tale
  grows := grows
  flight := .plain newest idle
  covers _ _ _ := jobCovers_updates updates _
  answers := by
    rintro offset len bytes same
    cases congrArg Job.request same
    cases updates

/-- A chunk is written into its page, which carries its update on or completes it. -/
theorem writeTurn {stored : World Inner} (found : sys.jobs[id]? = some ⟨request, .updating (chunk :: rest) fetched⟩)
    (held : sys.holder = some id) (updates : request.updates = true)
    (pieces : Pieces geometry request.payload.1 request.payload.2.length pos (chunk :: rest))
    (consistent : Consistent cache geometry landed { sys with world := stored })
    (moves : Moves geometry id landed landed sys { sys with world := stored })
    (generation : stored.generation = sys.world.generation)
    (counts : sys.world.generation chunk.page + 1 < 2 ^ 64)
    (ready : stored.view.present chunk.page = true ∨ chunk.len = geometry.pageSize) :
    let written := cache.dirtyChunk request.payload.2 chunk { sys with world := stored }
    ∃ job, Turn cache geometry landed id sys
      (if rest = [] then written.finishUpdate id request (.ok ()) else written.enter id request (.updating rest none))
      ⟨request, .updating (chunk :: rest) fetched⟩ job landed := by
  intro written
  obtain ⟨start, fits, bounded, tail⟩ := pieces.step
  have room : stored.generation chunk.page + 1 < 2 ^ 64 := by rw [generation]; exact counts
  obtain ⟨after, dirtied, _, bumped⟩ := consistent.dirtyChunk fits bounded (.inr held) room ready
  have moved := moves.trans dirtied
  have before : chronicle sys = sys.history ++ [(request.payload.1, request.payload.2.take pos, true)] := by
    rw [chronicle_own held found, applied_updating pieces]
  have inPage (x : Nat) (low : request.payload.1 + pos ≤ x) (high : x < request.payload.1 + pos + chunk.len) :
      x / geometry.pageSize = chunk.page := by
    have position := fits.start
    have within := fits.within
    rw [start] at position
    exact ((geometry.mem_page chunk.page x).mp (by omega)).1
  have versions : written.versions = Function.update sys.versions chunk.page
      (Function.update (sys.versions chunk.page) (sys.world.generation chunk.page + 1)
        (splice (sys.versions chunk.page (sys.world.generation chunk.page)) (request.payload.1 + pos)
          ((request.payload.2.drop pos).take chunk.len))) := by
    have position := fits.start
    rw [start] at position
    simp only [written, FileCacheBackend.dirtyChunk, generation]
    rw [consistent.tidy.pageSize, position, start]
  have generations : written.world.generation =
      Function.update sys.world.generation chunk.page (sys.world.generation chunk.page + 1) := by
    have shown : written.world.generation = Function.update stored.generation chunk.page
        (stored.generation chunk.page + 1) := bumped
    rw [shown, generation]
  have fitting : pos + chunk.len ≤ request.payload.2.length := by
    rw [← start]
    exact bounded
  by_cases last : rest = []
  · subst last
    have whole := tail.whole
    refine ⟨⟨request, .returned (.ok [])⟩, ?_⟩
    rw [if_pos rfl]
    refine .update updates (after.finishUpdate _) (moved.finishUpdate _) rfl trivial ?_
      (finishUpdate_grows written id request _) rfl rfl
    refine .wrote sys.history request.payload.1 pos request.payload.2 chunk.page chunk.len rfl fitting inPage versions
      generations before ?_
    have own : written.holder = some id := held
    have unlocked := finishUpdate_unlocked own request (.ok ())
    rw [chronicle_unlocked unlocked, whole, List.take_length]
    rfl
  · refine ⟨⟨request, .updating rest none⟩, ?_⟩
    rw [if_neg last]
    refine .update updates (after.enter _) (moved.enter _) rfl ⟨updates, held, ⟨_, tail⟩,
      (by rintro _ ⟨⟩)⟩ ?_ le_rfl rfl rfl
    refine .wrote sys.history request.payload.1 pos request.payload.2 chunk.page chunk.len rfl fitting inPage versions
      generations before ?_
    have told : chronicle (written.enter id request (.updating rest none)) =
        sys.history ++ Job.applied ⟨request, .updating rest none⟩ := chronicle_own held (getElem?_set_found found)
    rw [told, applied_updating tail]

/-- A write or clear takes its next turn. -/
theorem updateTurn_turn (running : Consistent cache geometry landed sys)
    (found : sys.jobs[id]? = some ⟨request, .updating (chunk :: rest) fetched⟩)
    (ready : Ready geometry landed sys id request (.updating (chunk :: rest) fetched))
    (counts : sys.world.generation chunk.page + 1 < 2 ^ 64) :
    ∃ job, Turn cache geometry landed id sys (cache.updateTurn id request chunk rest fetched sys)
      ⟨request, .updating (chunk :: rest) fetched⟩ job landed := by
  obtain ⟨updates, held, ⟨pos, pieces⟩, loaded⟩ := ready
  obtain ⟨start, fits, bounded, tail⟩ := pieces.step
  have before : chronicle sys = sys.history ++ [(request.payload.1, request.payload.2.take pos, true)] := by
    rw [chronicle_own held found, applied_updating pieces]
  cases fetched with
  | some bytes =>
      obtain ⟨first, more, same, own⟩ := loaded bytes rfl
      obtain ⟨rfl, rfl⟩ := List.cons.inj same
      obtain ⟨stored, moves, present, generation⟩ := running.storedPage own (.inr held)
      exact writeTurn found held updates pieces stored moves generation counts (.inl present)
  | none =>
      by_cases partly : chunk.len ≠ cache.pageSize ∧ bitGet sys.world.state.present chunk.page = false
      · obtain ⟨consistent, moves, same, exact⟩ := running.fetched id fits.inside
        simp only [updateTurn, if_pos partly]
        cases answer : cache.fetchPage chunk.page sys.world with
        | mk outcome world =>
            rw [answer] at consistent moves same exact
            have generation : world.generation = sys.world.generation := congrArg View.generation same
            cases outcome with
            | ok bytes =>
                refine ⟨⟨request, .updating (chunk :: rest) (some bytes)⟩, ?_⟩
                refine .update updates (consistent.enter _) (moves.enter _) rfl ⟨updates, held, ⟨pos, pieces⟩, ?_⟩ ?_
                  le_rfl rfl rfl
                · intro fetched known
                  obtain rfl := Option.some.inj known
                  exact ⟨chunk, rest, rfl, exact bytes rfl partly.2⟩
                · refine .calm rfl generation ?_
                  rw [before, ← applied_updating pieces (some bytes)]
                  exact chronicle_own held (getElem?_set_found found)
            | error error =>
                refine ⟨⟨request, .returned (.error error)⟩, ?_⟩
                refine .update updates (consistent.finishUpdate _) (moves.finishUpdate _) rfl trivial ?_
                  (finishUpdate_grows sys id request (.error error)) rfl rfl
                refine .gaveUp sys.history request.payload.1 pos request.payload.2 rfl rfl generation before ?_
                exact chronicle_unlocked (finishUpdate_unlocked held request (.error error))
      · simp only [updateTurn, if_neg partly]
        refine writeTurn found held updates pieces running (.refl id sys) rfl counts ?_
        rw [not_and_or, not_not, Bool.not_eq_false] at partly
        rcases partly with full | present
        · exact .inr (full.trans running.tidy.pageSize)
        · exact .inl present

/-- A write or clear whose chunks are all written returns. -/
theorem updated_turn (running : Consistent cache geometry landed sys)
    (found : sys.jobs[id]? = some ⟨request, .updating [] fetched⟩)
    (ready : Ready geometry landed sys id request (.updating [] fetched)) :
    Turn cache geometry landed id sys (sys.finishUpdate id request (.ok ())) ⟨request, .updating [] fetched⟩
      ⟨request, .returned (.ok [])⟩ landed := by
  obtain ⟨updates, held, ⟨pos, pieces⟩, loaded⟩ := ready
  refine .update updates (running.finishUpdate _) (Moves.finishUpdate (.refl id sys) _) rfl trivial
    (.calm rfl rfl ?_) (finishUpdate_grows sys id request _) rfl rfl
  rw [chronicle_unlocked (finishUpdate_unlocked held request _), chronicle_own held found, applied_updating pieces,
    pieces.whole, List.take_length]
  rfl

end Updates

section Reads

variable {chunk : Chunk} {rest : List Chunk} {result : List UInt8} {offset : Nat}

/-- A read takes its next turn. -/
theorem readTurn_turn {len : Nat} (running : Consistent cache geometry landed sys)
    (found : sys.jobs[id]? = some ⟨.read offset len, .reading (chunk :: rest) result⟩)
    (ready : Ready geometry landed sys id (.read offset len) (.reading (chunk :: rest) result)) :
    ∃ job, Turn cache geometry landed id sys (cache.readTurn id (.read offset len) offset chunk rest result sys)
      ⟨.read offset len, .reading (chunk :: rest) result⟩ job landed := by
  obtain ⟨held, _, _, pos, named, pieces, sofar⟩ := ready
  obtain ⟨rfl, rfl⟩ := Request.read.inj named
  obtain ⟨start, fits, bounded, tail⟩ := pieces.step
  have device := geometry.page_end_le fits.inside
  have position := fits.start
  have within := fits.within
  obtain ⟨tidy, traces, same, exact⟩ := readChunk_spec running.tidy fits
  simp only [readTurn]
  cases answer : cache.readChunk offset chunk sys.world with
  | mk outcome world =>
      rw [answer] at tidy traces same exact
      obtain ⟨consistent, moves⟩ := running.sameView id tidy
        (Traces.mono traces fun _ _ _ step => .chore (.settle (.upkeep step))) same
      have generation : world.generation = sys.world.generation := congrArg View.generation same
      have shown : showing geometry { sys with world } = showing geometry sys := by
        funext x
        rw [showing, showing, same]
      cases outcome with
      | error error =>
          exact ⟨_, .finished found consistent moves rfl rfl rfl rfl rfl generation rfl (fun _ _ _ => trivial)
            (by rintro _ _ _ _ ⟨⟩)⟩
      | ok bytes =>
          have read : result ++ bytes = slice (showing geometry { sys with world }) offset (pos + chunk.len) := by
            rw [shown, ← slice_append, ← sofar, exact bytes rfl, start]
            refine congrArg (result ++ ·) (slice_congr fun x low high => ?_)
            exact running.showing x (Nat.zero_le x) (by omega)
          dsimp only
          by_cases last : rest = []
          · subst last
            rw [if_pos rfl]
            refine ⟨_, .finished found consistent moves rfl rfl rfl rfl rfl generation rfl (fun _ _ _ => trivial) ?_⟩
            intro from' size returned named' outcome'
            obtain ⟨rfl, rfl⟩ := Request.read.inj named'
            obtain rfl := Except.ok.inj outcome'
            refine ⟨?_, fun _ => .inr held⟩
            rw [read, tail.whole]
          · rw [if_neg last]
            exact ⟨_, .entered found consistent moves rfl rfl (.inl rfl) rfl generation rfl rfl (by rintro _ ⟨⟩)
              ⟨held, offset, len, _, rfl, tail, read⟩ (.plain rfl rfl) fun _ _ _ => trivial⟩

/-- A read whose chunks are all read returns. -/
theorem read_turn (running : Consistent cache geometry landed sys)
    (found : sys.jobs[id]? = some ⟨request, .reading [] result⟩)
    (ready : Ready geometry landed sys id request (.reading [] result)) :
    Turn cache geometry landed id sys (sys.finish id request (.ok result)) ⟨request, .reading [] result⟩
      ⟨request, .returned (.ok result)⟩ landed := by
  obtain ⟨held, start, len, pos, rfl, pieces, sofar⟩ := ready
  refine .finished found running (.refl id sys) rfl rfl rfl rfl rfl rfl rfl (fun _ _ _ => trivial) ?_
  intro from' size returned named outcome
  obtain ⟨rfl, rfl⟩ := Request.read.inj named
  obtain rfl := Except.ok.inj outcome
  refine ⟨?_, fun _ => .inr held⟩
  rw [sofar, pieces.whole]

end Reads

section Prefetches

variable {page : Nat} {rest : List Nat} {fetched : Option (List UInt8)}

/-- A system in which the lock has been passed on is as consistent as before. -/
theorem Consistent.passed (consistent : Consistent cache geometry landed sys) (holder : Option Nat) :
    Consistent cache geometry landed { sys with holder } :=
  consistent.relabel rfl rfl rfl

/-- A call may take or drop the lock when no other call holds it. -/
theorem Moves.passed {reached : Nat → Nat} (moves : Moves geometry id landed reached sys next) (free : OpenTo next id)
    (holder : Option Nat) : Moves geometry id landed reached sys { next with holder } :=
  moves.relabel rfl rfl rfl fun _ different held => absurd held fun held => free.excludes different held

/-- A prefetch takes its next turn. -/
theorem prefetchTurn_turn (running : Consistent cache geometry landed sys)
    (found : sys.jobs[id]? = some ⟨request, .prefetching (page :: rest) fetched⟩)
    (ready : Ready geometry landed sys id request (.prefetching (page :: rest) fetched))
    (taken : cache.prefetchTurn id request page rest fetched sys = some next) :
    ∃ job, Turn cache geometry landed id sys next ⟨request, .prefetching (page :: rest) fetched⟩ job landed := by
  obtain ⟨⟨offset, len, rfl⟩, inside, loaded⟩ := ready
  have later (other : Nat) (member : other ∈ rest) : other < geometry.numPages :=
    inside other (List.mem_cons_of_mem page member)
  cases fetched with
  | some bytes =>
      obtain ⟨held, first, more, same, own⟩ := loaded bytes rfl
      obtain ⟨rfl, rfl⟩ := List.cons.inj same
      obtain ⟨stored, moves, _, generation⟩ := running.storedPage own (.inr held)
      obtain rfl := Option.some.inj taken
      exact ⟨_, .entered found (stored.passed none) (moves.passed (.inr held) none) rfl rfl
        (.inr ⟨.inr held, .inl rfl⟩) rfl generation rfl rfl (by rintro _ ⟨⟩) ⟨⟨offset, len, rfl⟩, later,
          (by rintro _ ⟨⟩)⟩
        (.plain rfl rfl) fun _ _ _ => trivial⟩
  | none =>
      simp only [prefetchTurn] at taken
      by_cases locked : sys.holder.isSome
      · rw [if_pos locked] at taken
        cases taken
      rw [if_neg locked] at taken
      have free : sys.holder = none := by simpa using locked
      by_cases present : bitGet sys.world.state.present page
      · rw [if_pos present] at taken
        obtain rfl := Option.some.inj taken
        exact ⟨_, .entered found running (.refl id sys) rfl rfl (.inl rfl) rfl rfl rfl rfl (by rintro _ ⟨⟩)
          ⟨⟨offset, len, rfl⟩, later, (by rintro _ ⟨⟩)⟩ (.plain rfl rfl) fun _ _ _ => trivial⟩
      rw [if_neg present] at taken
      have absent : bitGet sys.world.state.present page = false := by simpa using present
      obtain ⟨consistent, moves, same, exact⟩ := running.fetched id (inside page List.mem_cons_self)
      cases answer : cache.fetchPage page sys.world with
      | mk outcome world =>
          rw [answer] at consistent moves same exact taken
          have generation : world.generation = sys.world.generation := congrArg View.generation same
          cases outcome with
          | error error =>
              obtain rfl := Option.some.inj taken
              exact ⟨_, .finished found consistent moves rfl rfl rfl rfl rfl generation rfl (fun _ _ _ => trivial)
                (by rintro _ _ _ ⟨⟩)⟩
          | ok bytes =>
              obtain rfl := Option.some.inj taken
              refine ⟨_, .entered found (consistent.passed (some id)) (moves.passed (.inl free) (some id)) rfl rfl
                (.inr ⟨.inl free, .inr rfl⟩) rfl generation rfl rfl (by rintro _ ⟨⟩) ⟨⟨offset, len, rfl⟩, inside, ?_⟩
                (.plain rfl rfl) fun _ _ _ => trivial⟩
              intro known same
              obtain rfl := Option.some.inj same
              exact ⟨rfl, page, rest, rfl, exact bytes rfl absent⟩

/-- A prefetch whose pages are all visited returns. -/
theorem prefetched_turn (running : Consistent cache geometry landed sys)
    (found : sys.jobs[id]? = some ⟨request, .prefetching [] fetched⟩)
    (ready : Ready geometry landed sys id request (.prefetching [] fetched)) :
    Turn cache geometry landed id sys (sys.finish id request (.ok [])) ⟨request, .prefetching [] fetched⟩
      ⟨request, .returned (.ok [])⟩ landed := by
  obtain ⟨⟨offset, len, rfl⟩, _, _⟩ := ready
  exact .finished found running (.refl id sys) rfl rfl rfl rfl rfl rfl rfl (fun _ _ _ => trivial) (by rintro _ _ _ ⟨⟩)

end Prefetches

section Flushes

variable {page : Nat} {tasks : List (Nat × FlushPhase)} {failed : Option Error}

omit [FlatStore Inner] in
/-- A step of a flush task leaves the generations as they are. -/
theorem flushPage_generation (page : Nat) (phase : FlushPhase) (world : World Inner) :
    (cache.flushPage page phase world).2.generation = world.generation := by
  cases phase with
  | waiting =>
      simp only [flushPage]
      split
      · rfl
      · split
        · rfl
        · split <;> rfl
  | uploading offset generation bytes =>
      cases answer : (BlobBackend.write offset bytes world.disk.inner).1 <;>
        simp only [flushPage, Action.withContext, World.callInner, answer] <;> rfl
  | uploaded generation =>
      simp only [flushPage]
      split
      · rfl
      · split <;> rfl
  | done result => rfl

omit [BlobBackend Inner] [FlatStore Inner] in
theorem noteLanding_frame (page : Nat) (phase : FlushPhase) (sys : Sys Inner) :
    (noteLanding page phase sys).jobs = sys.jobs ∧ (noteLanding page phase sys).holder = sys.holder ∧
      (noteLanding page phase sys).history = sys.history ∧
      (noteLanding page phase sys).versions = sys.versions := by
  cases phase <;> exact ⟨rfl, rfl, rfl, rfl⟩

/-- A flush whose tasks are done returns the first error, or goes on to sync. -/
theorem flushed_turn (running : Consistent cache geometry landed sys)
    (found : sys.jobs[id]? = some ⟨request, .flushing tasks failed⟩)
    (ready : Ready geometry landed sys id request (.flushing tasks failed))
    (finished : (tasks.all fun task => task.2.isDone) = true) :
    ∃ job, Turn cache geometry landed id sys (match failed with
      | some error => sys.finish id request (.error error)
      | none => sys.enter id request (.syncing (tasks ≠ [])))
      ⟨request, .flushing tasks failed⟩ job landed := by
  obtain ⟨rfl, _, _⟩ := ready
  cases failed with
  | some error =>
      exact ⟨_, .finished found running (.refl id sys) rfl rfl rfl rfl rfl rfl rfl (fun _ _ _ => trivial)
        (by rintro _ _ _ _ ⟨⟩)⟩
  | none =>
      refine ⟨_, .entered found running (.refl id sys) rfl rfl (.inl rfl) rfl rfl rfl rfl (by rintro _ ⟨⟩) rfl
        ⟨fun _ => .inl rfl, .calm rfl fun _ _ carries => carries.elim⟩ ?_⟩
      intro floor _ ⟨covers, others, clean⟩ page inside
      by_cases member : page ∈ tasks.map Prod.fst
      · obtain ⟨⟨_, phase⟩, own, rfl⟩ := List.mem_map.mp member
        have done := List.all_eq_true.mp finished _ own
        have covered := covers _ _ own
        cases phase with
        | done result =>
            cases result with
            | ok value => exact covered
            | error error => exact absurd own (clean rfl _ error)
        | waiting => cases done
        | uploading offset generation bytes => cases done
        | uploaded generation => cases done
      · exact others page inside member

omit [FlatStore Inner] in
/-- A flush task copies its page only at its first step, with the generation of that moment. -/
theorem flushPage_copies {phase : FlushPhase} {world : World Inner} {offset generation : Nat} {bytes : List UInt8}
    (copied : (cache.flushPage page phase world).1 = .uploading offset generation bytes) :
    phase = .waiting ∧ generation = world.generation page := by
  cases phase with
  | waiting =>
      simp only [flushPage] at copied
      split at copied
      · cases copied
      · split at copied
        · cases copied
        · split at copied
          · cases copied
          · obtain ⟨_, rfl, _⟩ := FlushPhase.uploading.inj copied
            exact ⟨rfl, rfl⟩
  | uploading offset generation bytes =>
      simp only [flushPage] at copied
      split at copied <;> cases copied
  | uploaded generation =>
      simp only [flushPage] at copied
      split at copied <;> cases copied
  | done result => cases copied

/-- A step of a flush task performs the upload of its page, or copies the page. -/
theorem flushTask_landing {phase : FlushPhase} {before after : List (Nat × FlushPhase)} {error : Option Error}
    (running : Consistent cache geometry landed sys)
    (distinct : ((before ++ (page, phase) :: after).map Prod.fst).Nodup)
    (newest : next.newest = (noteLanding page phase sys).newest) :
    Landing sys next ⟨.flush, .flushing (before ++ (page, phase) :: after) failed⟩
      ⟨.flush, .flushing (before ++ (page, (cache.flushPage page phase sys.world).1) :: after) error⟩ := by
  have placed {other : Nat} {task : FlushPhase}
      (member : (other, task) ∈ before ++ (page, (cache.flushPage page phase sys.world).1) :: after) :
      (other, task) ∈ before ++ after ∨ other = page ∧ task = (cache.flushPage page phase sys.world).1 := by
    rcases List.mem_append.mp member with early | late
    · exact .inl (List.mem_append_left _ early)
    rcases List.mem_cons.mp late with own | later
    · exact .inr (Prod.mk.inj own)
    · exact .inl (List.mem_append_right _ later)
  have kept {other : Nat} {task : FlushPhase} (member : (other, task) ∈ before ++ after) :
      other ≠ page ∧ (other, task) ∈ before ++ (page, phase) :: after := by
    rw [List.map_append, List.map_cons, List.nodup_append, List.nodup_cons] at distinct
    obtain ⟨_, ⟨notAfter, _⟩, apart⟩ := distinct
    rcases List.mem_append.mp member with early | late
    · exact ⟨apart _ (List.mem_map.mpr ⟨_, early, rfl⟩) _ List.mem_cons_self, List.mem_append_left _ early⟩
    · refine ⟨?_, List.mem_append_right _ (List.mem_cons_of_mem _ late)⟩
      rintro rfl
      exact notAfter (List.mem_map.mpr ⟨_, late, rfl⟩)
  have calm (quiet : (noteLanding page phase sys).newest = sys.newest) :
      Landing sys next ⟨.flush, .flushing (before ++ (page, phase) :: after) failed⟩
        ⟨.flush, .flushing (before ++ (page, (cache.flushPage page phase sys.world).1) :: after) error⟩ := by
    refine .calm (newest.trans quiet) ?_
    intro other version ⟨offset, bytes, member⟩
    rcases placed member with elsewhere | ⟨rfl, copied⟩
    · exact .inl ⟨offset, bytes, (kept elsewhere).2⟩
    · obtain ⟨_, rfl⟩ := flushPage_copies copied.symm
      exact .inr (running.bounded other)
  cases phase with
  | uploading offset generation bytes =>
      refine .performed page generation ⟨offset, bytes, by simp⟩ newest ?_
      intro other version ⟨start, copy, member⟩
      rcases placed member with elsewhere | ⟨_, copied⟩
      · exact ⟨(kept elsewhere).1, start, copy, (kept elsewhere).2⟩
      · cases (flushPage_copies copied.symm).1
  | waiting => exact calm rfl
  | uploaded generation => exact calm rfl
  | done result => exact calm rfl

/-- A task of a flush takes its next step. -/
theorem flushTask_turn {phase : FlushPhase} (running : Consistent cache geometry landed sys)
    (found : sys.jobs[id]? = some ⟨request, .flushing tasks failed⟩)
    (ready : Ready geometry landed sys id request (.flushing tasks failed))
    (there : tasks.lookup page = some phase) (free : phase.locks = true → sys.holder = none)
    (inOrder : ∀ offset generation bytes, phase = .uploading offset generation bytes →
      sys.newest page ≤ generation) :
    let moved := advance cache.flushCollect page tasks (sys.world, failed)
    ∃ job reached, Turn cache geometry landed id sys
      ({ noteLanding page phase sys with world := moved.2.1 }.enter id request (.flushing moved.1 moved.2.2))
      ⟨request, .flushing tasks failed⟩ job reached := by
  intro moved
  obtain ⟨rfl, distinct, tasksReady⟩ := ready
  obtain ⟨before, after, rfl, step⟩ := advance_lookup there (sys.world, failed)
  obtain ⟨inside, taskReady⟩ := tasksReady page phase (by simp)
  have progress : FlushMoved cache geometry landed id page sys _ phase _ :=
    flushPage_moved running inside taskReady free inOrder
  obtain ⟨reached, consistent, moves, movedReady, movedCovers⟩ := progress.step
  set world := (cache.flushPage page phase sys.world).2 with worldEq
  set next := (cache.flushPage page phase sys.world).1 with nextEq
  have movedEq : moved = (before ++ (page, next) :: after, (world, failed.or next.error?)) := step
  obtain ⟨jobs, holder, history, versions⟩ := noteLanding_frame page phase sys
  have keys : (before ++ (page, next) :: after).map Prod.fst = (before ++ (page, phase) :: after).map Prod.fst := by
    simp
  have others {other : Nat} {task : FlushPhase} (member : (other, task) ∈ before ++ (page, next) :: after) :
      (other, task) ∈ before ++ (page, phase) :: after ∨ other = page ∧ task = next := by
    rcases List.mem_append.mp member with early | late
    · exact .inl (List.mem_append_left _ early)
    rcases List.mem_cons.mp late with own | later
    · exact .inr (Prod.mk.inj own)
    · exact .inl (List.mem_append_right _ (List.mem_cons_of_mem _ later))
  rw [movedEq]
  refine ⟨_, reached, .entered found consistent moves jobs history (.inl holder) versions
    (flushPage_generation page phase sys.world) rfl rfl (by rintro _ ⟨⟩) ⟨rfl, ?_, ?_⟩ ?_ ?_⟩
  · rw [keys]
    exact distinct
  · intro other task member
    rcases others member with kept | ⟨rfl, rfl⟩
    · obtain ⟨otherInside, otherReady⟩ := tasksReady other task kept
      exact ⟨otherInside, otherReady.frame (moves.enter _)⟩
    · exact ⟨inside, movedReady⟩
  · exact ⟨fun _ => .inl rfl, flushTask_landing running distinct rfl⟩
  · intro floor below ⟨covers, covered, clean⟩
    refine ⟨?_, ?_, ?_⟩
    · intro other task member
      rcases others member with kept | ⟨rfl, rfl⟩
      · exact (covers other task kept).mono moves.landed
      · exact movedCovers _ (below other) (covers other phase (by simp))
    · intro other otherInside absent
      rw [keys] at absent
      exact lt_of_lt_of_le (covered other otherInside absent) (moves.landed other)
    · intro unfailed other error member
      obtain ⟨none, fine⟩ := Option.or_eq_none_iff.mp unfailed
      rcases others member with kept | ⟨_, ended⟩
      · exact clean none other error kept
      · rw [← ended] at fine
        cases fine

/-- A flush takes its next turn. -/
theorem flushTurn_turn (running : Consistent cache geometry landed sys)
    (found : sys.jobs[id]? = some ⟨request, .flushing tasks failed⟩)
    (ready : Ready geometry landed sys id request (.flushing tasks failed))
    (taken : cache.flushTurn id request page tasks failed sys = some next)
    (inOrder : ∀ offset generation bytes, tasks.lookup page = some (.uploading offset generation bytes) →
      sys.newest page ≤ generation) :
    ∃ job reached, Turn cache geometry landed id sys next ⟨request, .flushing tasks failed⟩ job reached := by
  unfold flushTurn at taken
  split at taken
  · rename_i finished
    obtain ⟨job, turn⟩ := flushed_turn running found ready finished
    cases failed with
    | none =>
        obtain rfl := Option.some.inj taken
        exact ⟨job, landed, turn⟩
    | some error =>
        obtain rfl := Option.some.inj taken
        exact ⟨job, landed, turn⟩
  · split at taken
    · cases taken
    · rename_i phase there
      split at taken
      · cases taken
      · rename_i unlocked
        obtain rfl := Option.some.inj taken
        refine flushTask_turn running found ready there ?_ ?_
        · intro locks
          simpa [locks] using unlocked
        · rintro offset generation bytes rfl
          exact inOrder offset generation bytes there

/-- The inner backend is flushed after every page has been uploaded. -/
theorem syncTurn_turn {flushedAny : Bool} (running : Consistent cache geometry landed sys)
    (found : sys.jobs[id]? = some ⟨request, .syncing flushedAny⟩)
    (ready : Ready geometry landed sys id request (.syncing flushedAny)) :
    ∃ job, Turn cache geometry landed id sys (syncTurn id request flushedAny sys)
      ⟨request, .syncing flushedAny⟩ job landed := by
  obtain rfl : request = .flush := ready
  obtain ⟨consistent, moves⟩ := running.query id .innerFlush (FlatStore.flush_keeps sys.world.disk.inner)
  rw [syncTurn]
  cases answer : World.callInner .innerFlush BlobBackend.flush sys.world with
  | mk outcome world =>
      have generation : world.generation = sys.world.generation := by
        rw [show world = (World.callInner .innerFlush BlobBackend.flush sys.world).2 by rw [answer]]
        rfl
      rw [answer] at consistent moves
      cases outcome with
      | error error =>
          exact ⟨_, .finished found consistent moves rfl rfl rfl rfl rfl generation rfl (fun _ _ _ => trivial)
            (by rintro _ _ _ _ ⟨⟩)⟩
      | ok value =>
          cases flushedAny with
          | true =>
              exact ⟨_, .entered found consistent moves rfl rfl (.inl rfl) rfl generation rfl rfl (by rintro _ ⟨⟩) rfl
                ⟨fun _ => .inl rfl, .calm rfl fun _ _ carries => carries.elim⟩ fun _ _ past => past⟩
          | false =>
              exact ⟨_, .finished found consistent moves rfl rfl rfl rfl rfl generation rfl (fun _ _ past => past)
                (by rintro _ _ _ ⟨⟩)⟩

/-- A flush that uploaded something records the new token and returns. -/
theorem tagging_turn (running : Consistent cache geometry landed sys)
    (found : sys.jobs[id]? = some ⟨request, .tagging⟩) (ready : Ready geometry landed sys id request .tagging) :
    Turn cache geometry landed id sys
      ({ sys with world := (recordEtag sys.world).2 }.finish id request (.ok [])) ⟨request, .tagging⟩
      ⟨request, .returned (.ok [])⟩ landed := by
  obtain rfl : request = .flush := ready
  have pushed := recordEtag_pushed running.tidy.toSound
  have same := recordEtag_view sys.world
  obtain ⟨consistent, moves⟩ := running.sameView id (pushed.tidy running.tidy) pushed.motion same
  exact .finished found consistent moves rfl rfl rfl rfl rfl (congrArg View.generation same) rfl
    (fun _ _ past => past) (by rintro _ _ _ ⟨⟩)

end Flushes

section Warmups

variable {page : Nat} {tasks : List (Nat × WarmPhase × Nat)}

/-- A task of a warm-up takes its next step. -/
theorem warmTask_turn {task : WarmPhase × Nat} (running : Consistent cache geometry landed sys)
    (found : sys.jobs[id]? = some ⟨request, .warming tasks⟩)
    (ready : Ready geometry landed sys id request (.warming tasks))
    (there : tasks.lookup page = some task) (free : task.1.locks = true → sys.holder = none)
    (fresh : ∀ offset len data, task.1 = .storing offset len data →
      bitGet sys.world.state.present page = true ∨ sys.landings page = task.2) :
    let moved := advance (cache.warmCollect sys.landings) page tasks sys.world
    moved.2.view.dirty = sys.world.view.dirty ∧
      ∃ job, Turn cache geometry landed id sys ({ sys with world := moved.2 }.enter id request (.warming moved.1))
        ⟨request, .warming tasks⟩ job landed := by
  intro moved
  obtain ⟨⟨devSize, limitBytes, rfl⟩, distinct, tasksReady⟩ := ready
  obtain ⟨before, after, rfl, step⟩ := advance_lookup there sys.world
  have own := tasksReady page task (by simp)
  obtain ⟨consistent, moves, movedReady, dirty, generation⟩ :
      Consistent cache geometry landed
          { sys with world := (cache.warmCollect sys.landings page task sys.world).2 } ∧
        Moves geometry id landed landed sys
          { sys with world := (cache.warmCollect sys.landings page task sys.world).2 } ∧ _ :=
    warmCollect_moved running own free fresh
  set world := (cache.warmCollect sys.landings page task sys.world).2 with worldEq
  set next := (cache.warmCollect sys.landings page task sys.world).1 with nextEq
  have movedEq : moved = (before ++ (page, next) :: after, world) := step
  rw [movedEq]
  refine ⟨dirty, _, .entered found consistent moves rfl rfl (.inl rfl) rfl generation rfl rfl (by rintro _ ⟨⟩)
    ⟨⟨devSize, limitBytes, rfl⟩, ?_, ?_⟩ (.plain rfl rfl) fun _ _ _ => trivial⟩
  · have keys : (before ++ (page, next) :: after).map Prod.fst = (before ++ (page, task) :: after).map Prod.fst := by
      simp
    rw [keys]
    exact distinct
  · intro other moving member
    have kept (old : (other, moving) ∈ before ++ (page, task) :: after) :
        WarmTaskReady geometry { sys with world } other moving := (tasksReady other moving old).frame moves
    rcases List.mem_append.mp member with early | late
    · exact kept (List.mem_append_left _ early)
    rcases List.mem_cons.mp late with same | later
    · obtain ⟨rfl, rfl⟩ := Prod.mk.inj same
      exact movedReady
    · exact kept (List.mem_append_right _ (List.mem_cons_of_mem _ later))

/-- A warm-up takes its next turn, which leaves the dirty pages as they are. -/
theorem warmTurn_turn (running : Consistent cache geometry landed sys)
    (found : sys.jobs[id]? = some ⟨request, .warming tasks⟩)
    (ready : Ready geometry landed sys id request (.warming tasks))
    (taken : cache.warmTurn id request page tasks sys = some next)
    (fresh : ∀ offset len data seen, tasks.lookup page = some (.storing offset len data, seen) →
      bitGet sys.world.state.present page = true ∨ sys.landings page = seen) :
    next.world.view.dirty = sys.world.view.dirty ∧
      ∃ job, Turn cache geometry landed id sys next ⟨request, .warming tasks⟩ job landed := by
  unfold warmTurn at taken
  split at taken
  · obtain rfl := Option.some.inj taken
    obtain ⟨⟨devSize, limitBytes, rfl⟩, _, _⟩ := ready
    exact ⟨rfl, _, .finished found running (.refl id sys) rfl rfl rfl rfl rfl rfl rfl (fun _ _ _ => trivial)
      (by rintro _ _ _ ⟨⟩)⟩
  · split at taken
    · cases taken
    · rename_i task there
      split at taken
      · cases taken
      · rename_i unlocked
        obtain rfl := Option.some.inj taken
        refine warmTask_turn running found ready there ?_ ?_
        · intro locks
          simpa [locks] using unlocked
        · intro offset len data storing
          obtain ⟨phase, seen⟩ := task
          obtain rfl : phase = .storing offset len data := storing
          exact fresh offset len data seen there

end Warmups

end FileCacheBackend
end UblkAzblob

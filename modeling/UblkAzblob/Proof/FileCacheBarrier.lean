import UblkAzblob.Proof.FileCacheSystem

namespace UblkAzblob
open Storage

namespace FileCacheBackend

variable {Inner : Type} [BlobBackend Inner] [FlatStore Inner]
variable {cache : FileCacheBackend} {geometry : Geometry} {landed reached : Nat → Nat}
variable {sys next : Sys Inner} {id count : Nat} {content : Store}

section Launch

/-- The files start afresh, or the clean pages that they record repeat the inner store. -/
def Inherits (geometry : Geometry) (disk : Disk Inner) : Prop :=
  metaReusable geometry.pageSize geometry.devSize geometry.numPages disk.metadata = false ∨
    ∃ present dirty, Bitmaps geometry present dirty ∧ Mirrors geometry present dirty disk.metadata ∧
      (Disk.view disk present dirty).Coherent geometry

variable {cfg : FileCacheConfig} {host : Host} {currentEtag : Option String} {disk : Disk Inner}
variable {budgetFile : List Entry} {clock : Nat} {world : World Inner} {recovered : Nat}

omit [BlobBackend Inner] [FlatStore Inner] in
/-- No page has been written since the cache was opened. -/
theorem openCache_generation {devSize : Nat}
    (opened : openCache cfg host devSize currentEtag disk budgetFile clock = .ok (cache, world, recovered))
    (page : Nat) : world.generation page = 0 := by
  have quiet := (openCache_quiet opened).1
  have kept := (loadOrInitMeta_keeps cfg.pageSize devSize ((devSize + cfg.pageSize - 1) / cfg.pageSize)
    (sizedWorld cfg.pageSize devSize disk budgetFile clock)).1
  rw [World.generation, quiet.dirtyGen]
  simp only [validatedWorld, validateEtag_state, kept]
  simp [sizedWorld, World.issue, List.getD_eq_getElem?_getD, List.getElem?_replicate]
  split <;> rfl

theorem openCache_inherits (samePage : cfg.pageSize = geometry.pageSize)
    (size : FlatStore.size disk.inner = geometry.devSize) (inherits : Inherits geometry disk)
    (opened : openCache cfg host geometry.devSize currentEtag disk budgetFile clock = .ok (cache, world, recovered)) :
    Tidy cache geometry world ∧ world.view.Coherent geometry := by
  rcases inherits with fresh | ⟨present, dirty, bitmaps, mirrors, coherent⟩
  · have refines := opened_fresh (openCache_fresh geometry samePage size fresh opened)
    exact ⟨refines.tidy, refines.coherent⟩
  · have refines := opened_refines (openCache_reuse samePage size bitmaps mirrors opened) coherent
    exact ⟨refines.tidy, refines.coherent⟩

/-- An opened cache runs, and shows its contents. -/
theorem launch_running (tidy : Tidy cache geometry world) (coherent : world.view.Coherent geometry)
    (unwritten : ∀ page, world.generation page = 0) :
    Running cache geometry (fun page => if world.view.dirty page then 0 else 1)
        (launch (world.view.contents geometry) world) ∧
      Telling geometry (world.view.contents geometry) (launch (world.view.contents geometry) world) := by
  refine ⟨⟨⟨tidy, fun page x _ _ => rfl, ?_, ?_, fun page => Nat.zero_le _, ?_⟩, fun id job found => (by cases found)⟩,
    fun x => rfl⟩
  · intro page generation known x device own
    change world.view.inner x = world.view.contents geometry x
    rw [View.contents]
    split
    · rename_i present
      by_cases dirty : world.view.dirty page
      · rw [if_pos dirty] at known
        cases known
      · exact (coherent.clean x device present (by rw [own]; simpa using dirty)).symm
    · rfl
  · intro page
    split
    · exact Nat.zero_le _
    · exact le_rfl
  · intro page clean
    have clean : world.view.dirty page = false := clean
    change _ = world.generation page + 1
    rw [if_neg (by rw [clean]; exact Bool.false_ne_true), unwritten]

end Launch

section Pledges

/-- A flush that was waiting when the first updates had returned keeps them from being lost. -/
structure Pledge (geometry : Geometry) (content : Store) (count id : Nat) (landed : Nat → Nat)
    (sys : Sys Inner) : Prop where
  early : count ≤ sys.history.length
  keeps : ∃ phase, sys.jobs[id]? = some ⟨.flush, phase⟩ ∧ (phase = .waiting ∨
    ∃ floor, Since geometry content count floor sys ∧ JobCovers geometry landed floor ⟨.flush, phase⟩)

omit [BlobBackend Inner] [FlatStore Inner] in
/-- A call that arrives adds nothing to the chronicle. -/
theorem chronicle_called (sys : Sys Inner) (request : Request) :
    chronicle { sys with jobs := sys.jobs ++ [⟨request, .waiting⟩] } = chronicle sys := by
  simp only [chronicle]
  cases held : sys.holder with
  | none => rfl
  | some id =>
      simp only [Option.bind_some, List.getElem?_append]
      split
      · rfl
      · rename_i outside
        rw [List.getElem?_eq_none (Nat.le_of_not_lt outside), List.getElem?_singleton]
        split <;> rfl

theorem Telling.called (telling : Telling geometry content sys) (request : Request) :
    Telling geometry content { sys with jobs := sys.jobs ++ [⟨request, .waiting⟩] } := by
  intro x
  rw [chronicle_called]
  exact telling x

omit [BlobBackend Inner] [FlatStore Inner] in
theorem Since.called {floor : Nat → Nat} (since : Since geometry content count floor sys) (request : Request) :
    Since geometry content count floor { sys with jobs := sys.jobs ++ [⟨request, .waiting⟩] } := by
  obtain ⟨early, reached, recent⟩ := since
  refine ⟨early, reached, fun x generation above below => ?_⟩
  rw [chronicle_called]
  exact recent x generation above below

omit [BlobBackend Inner] [FlatStore Inner] in
theorem Pledge.called (pledge : Pledge geometry content count id landed sys) (request : Request) :
    Pledge geometry content count id landed { sys with jobs := sys.jobs ++ [⟨request, .waiting⟩] } := by
  obtain ⟨early, phase, found, kept⟩ := pledge
  have inside := (List.getElem?_eq_some_iff.mp found).1
  refine ⟨early, phase, ?_, kept.imp_right ?_⟩
  · rw [List.getElem?_append_left inside]
    exact found
  · rintro ⟨floor, since, covers⟩
    exact ⟨floor, since.called request, covers⟩

/-- A turn keeps the pledge of a flush, whether it is that flush's own or another call's. -/
theorem Pledge.turned (pledge : Pledge geometry content count id landed sys) (telling : Telling geometry content sys)
    {other : Nat} {before job : Job} (found : sys.jobs[other]? = some before)
    (turn : Turn cache geometry landed other sys next before job reached) :
    Pledge geometry content count id reached next := by
  obtain ⟨early, phase, there, kept⟩ := pledge
  have late := telling.told turn.tale
  refine ⟨early.trans turn.grows, ?_⟩
  by_cases own : other = id
  · subst own
    obtain rfl := Option.some.inj (found.symm.trans there)
    obtain ⟨request, after⟩ := job
    obtain rfl : request = .flush := turn.named
    refine ⟨after, ?_, .inr ?_⟩
    · rw [turn.jobs]
      exact getElem?_set_found found
    · rcases kept with rfl | ⟨floor, since, covers⟩
      · have since := since_now telling early
        exact ⟨_, since.told late turn.tale turn.grows, turn.covers _ since.reached trivial⟩
      · exact ⟨floor, since.told late turn.tale turn.grows, turn.covers floor since.reached covers⟩
  · refine ⟨phase, ?_, kept.imp_right ?_⟩
    · rw [turn.jobs, List.getElem?_set_ne own]
      exact there
    · rintro ⟨floor, since, covers⟩
      exact ⟨floor, since.told late turn.tale turn.grows, covers.mono turn.moves.landed⟩

/-- A flush that succeeded has brought the first updates to the inner store. -/
theorem Pledge.kept {bytes : List UInt8} (pledge : Pledge geometry content count id landed sys)
    (running : Running cache geometry landed sys)
    (returned : sys.jobs[id]? = some ⟨.flush, .returned (.ok bytes)⟩) {x : Nat} (device : x < geometry.devSize) :
    Recent content (chronicle sys) count x (FlatStore.content sys.world.disk.inner x) := by
  obtain ⟨_, phase, found, kept⟩ := pledge
  obtain rfl : phase = .returned (.ok bytes) := congrArg Job.phase (Option.some.inj (found.symm.trans returned))
  rcases kept with waiting | ⟨floor, since, covers⟩
  · cases waiting
  · exact since.inner running.consistent covers device

end Pledges

section Barrier

/-- Without warm-ups no call in flight is one. -/
def Unwarmed (sys : Sys Inner) : Prop :=
  ∀ (id : Nat) (job : Job), sys.jobs[id]? = some job →
    ∀ devSize limitBytes, job.request ≠ .warmup devSize limitBytes

theorem freshStore_of_unwarmed (unwarmed : Unwarmed sys) (running : Running cache geometry landed sys)
    (event : Event) : freshStore sys event = true := by
  cases event with
  | call request => rfl
  | turn id page =>
      unfold freshStore
      dsimp only
      split
      · rename_i request tasks found
        obtain ⟨⟨devSize, limitBytes, same⟩, _⟩ := running.ready id _ found
        exact absurd same (unwarmed id _ found devSize limitBytes)
      · rfl

omit [BlobBackend Inner] [FlatStore Inner] in
theorem Unwarmed.called (unwarmed : Unwarmed sys) {request : Request} (plain : noWarmup (.call request) = true) :
    Unwarmed { sys with jobs := sys.jobs ++ [⟨request, .waiting⟩] } := by
  intro id job found devSize limitBytes
  rw [List.getElem?_append] at found
  split at found
  · exact unwarmed id job found devSize limitBytes
  · rw [List.getElem?_singleton] at found
    split at found
    · obtain rfl := Option.some.inj found
      rintro rfl
      cases plain
    · cases found

theorem Unwarmed.turned (unwarmed : Unwarmed sys) {before job : Job} (found : sys.jobs[id]? = some before)
    (turn : Turn cache geometry landed id sys next before job reached) : Unwarmed next := by
  intro other later there devSize limitBytes
  rw [turn.jobs, List.getElem?_set] at there
  split at there
  · split at there
    · obtain rfl := Option.some.inj there
      rw [turn.named]
      exact unwarmed id before found devSize limitBytes
    · cases there
  · exact unwarmed other later there devSize limitBytes

/-- While the uploads of every page are performed in order, the cache runs and a flush keeps its pledge. -/
structure Guarded (cache : FileCacheBackend) (geometry : Geometry) (content : Store) (landed : Nat → Nat)
    (sys : Sys Inner) : Prop where
  running : Running cache geometry landed sys
  telling : Telling geometry content sys
  unwarmed : Unwarmed sys

theorem Guarded.step (guarded : Guarded cache geometry content landed sys) {event : Event}
    (ordered : (inOrder sys event && noWarmup event && countsOn sys event) = true)
    (taken : cache.step sys event = some next) :
    ∃ reached, Guarded cache geometry content reached next ∧ ∀ count id,
      Pledge geometry content count id landed sys → Pledge geometry content count id reached next := by
  obtain ⟨running, telling, unwarmed⟩ := guarded
  rw [Bool.and_eq_true, Bool.and_eq_true] at ordered
  have fresh := freshStore_of_unwarmed unwarmed running event
  rcases step_cases taken with ⟨request, rfl, rfl⟩ | ⟨id, page, before, rfl, found⟩
  · exact ⟨landed, ⟨running.called request, telling.called request, unwarmed.called ordered.1.2⟩,
      fun count id pledge => pledge.called request⟩
  · obtain ⟨job, reached, turn⟩ := running.turn found ordered.1.1 fresh ordered.2 taken
    exact ⟨reached, ⟨turn.running running, telling.told turn.tale, unwarmed.turned found turn⟩,
      fun count id pledge => pledge.turned telling found turn⟩

theorem Guarded.run (guarded : Guarded cache geometry content landed sys) {events : List Event}
    (ordered : along cache.step (fun sys event => inOrder sys event && noWarmup event && countsOn sys event)
      sys events = true)
    (run : execute cache.step sys events = some next) :
    ∃ reached, Guarded cache geometry content reached next ∧ ∀ count id,
      Pledge geometry content count id landed sys → Pledge geometry content count id reached next := by
  refine @execute_invariant _ _ _ _ (fun later => ∃ reached, Guarded cache geometry content reached later ∧
    ∀ count id, Pledge geometry content count id landed sys → Pledge geometry content count id reached later)
    ?_ _ _ _ ⟨landed, guarded, fun _ _ => id⟩ ordered run
  rintro middle event last ⟨reached, now, kept⟩ allowed taken
  obtain ⟨further, after, pledged⟩ := now.step allowed taken
  exact ⟨further, after, fun count id pledge => pledged count id (kept count id pledge)⟩

variable {cfg : FileCacheConfig} {host : Host} {currentEtag : Option String} {budgetFile : List Entry}
variable {clock recovered : Nat} {world : World Inner}

/-- While uploads of one page are performed in the order of their copies, a clean page repeats the inner store,
and after a flush that succeeded the store has every write that had returned before the flush began. -/
theorem cache_flush_barrier (geometry : Geometry) (samePage : cfg.pageSize = geometry.pageSize) (disk : Disk Inner)
    (size : FlatStore.size disk.inner = geometry.devSize) (inherits : Inherits geometry disk)
    (opened : openCache cfg host geometry.devSize currentEtag disk budgetFile clock = .ok (cache, world, recovered))
    {earlier later : List Event} {between final : Sys Inner}
    (ordered : along cache.step (fun sys event => inOrder sys event && noWarmup event && countsOn sys event)
      (launch (world.view.contents geometry) world) earlier = true)
    (run : execute cache.step (launch (world.view.contents geometry) world) earlier = some between)
    (orderedLater : along cache.step (fun sys event => inOrder sys event && noWarmup event && countsOn sys event)
      between later = true)
    (runLater : execute cache.step between later = some final) :
    (∀ x, x < geometry.devSize → bitGet final.world.state.present (x / geometry.pageSize) = true →
      bitGet final.world.state.dirty (x / geometry.pageSize) = false →
      final.world.disk.data.bytes x = FlatStore.content final.world.disk.inner x) ∧
    ∀ (id : Nat) (bytes : List UInt8), between.jobs[id]? = some ⟨.flush, .waiting⟩ →
      final.jobs[id]? = some ⟨.flush, .returned (.ok bytes)⟩ → ∀ x, x < geometry.devSize →
        Recent (world.view.contents geometry) (chronicle final) between.history.length x
          (FlatStore.content final.world.disk.inner x) := by
  obtain ⟨tidy, coherent⟩ := openCache_inherits samePage size inherits opened
  obtain ⟨started, told⟩ := launch_running tidy coherent (openCache_generation opened)
  have start : Guarded cache geometry (world.view.contents geometry) _ (launch (world.view.contents geometry) world) :=
    ⟨started, told, fun id job found => (by cases found)⟩
  obtain ⟨landed, guarded, _⟩ := start.run ordered run
  obtain ⟨reached, last, kept⟩ := guarded.run orderedLater runLater
  refine ⟨fun x device present clean => last.running.consistent.coherent.clean x device present clean, ?_⟩
  intro id bytes waiting returned x device
  exact (kept _ id ⟨le_rfl, .waiting, waiting, .inl rfl⟩).kept last.running returned device

end Barrier

section Example

theorem kilobyte_positive : 0 < 1024 := by decide

theorem kilobyte_aligned : 1024 % 512 = 0 := by decide

/-- A device of two pages. -/
def twoPages : Geometry :=
  ⟨512, 1024, by decide, by decide, kilobyte_positive, kilobyte_aligned, by decide, by decide⟩

/-- The end of two runs passes a test. -/
theorem runs_pass {State Action : Type} {step : State → Action → Option State} {start : State} {first second : List Action}
    (test : State → State → Bool)
    (passes : ((execute step start first).any fun between => (execute step between second).any (test between)) = true) :
    ∃ between final, execute step start first = some between ∧ execute step between second = some final ∧
      test between final = true := by
  obtain ⟨between, run, rest⟩ := (Option.any_eq_true _ _).mp passes
  obtain ⟨final, runLater, passed⟩ := (Option.any_eq_true _ _).mp rest
  exact ⟨between, final, run, runLater, passed⟩

/-- A cache of two pages under a limit, which is opened on a blank disk. -/
def smallCache (maxBytes : Nat) : FileCacheBackend :=
  ⟨512, by decide, by decide, if maxBytes = 0 then none else some ⟨maxBytes, "cache", 1⟩, calmHost⟩

def smallWorld (maxBytes : Nat) : World MemBackend :=
  match openCache ⟨"cache", 512, maxBytes⟩ calmHost 1024 none (blankDisk 1024) [] 0 with
  | .ok (_, world, _) => world
  | .error _ => validatedWorld 512 1024 none (blankDisk 1024) [] 0

/-- Nothing has been called on the small cache. -/
def smallStart (maxBytes : Nat) : Sys MemBackend :=
  launch ((smallWorld maxBytes).view.contents twoPages) (smallWorld maxBytes)

/-- A page is written, and a flush that is waiting will upload it. -/
def writeThenFlush : List Event :=
  [.call (.write 0 (List.replicate 512 1)), .turn 0 0, .turn 0 0, .call .flush]

/-- The page is written again between its copy and its upload. -/
def writeMeanwhile : List Event :=
  [.turn 1 0, .turn 1 0, .call (.write 0 (List.replicate 512 2)), .turn 2 0, .turn 2 0] ++ List.replicate 5 (.turn 1 0)

/-- The uploads of both runs are performed in order, and the flush succeeds. -/
def flushSucceeds (between final : Sys MemBackend) : Bool :=
  along (smallCache 0).step (fun sys event => inOrder sys event && noWarmup event && countsOn sys event)
      (smallStart 0) writeThenFlush &&
    along (smallCache 0).step (fun sys event => inOrder sys event && noWarmup event && countsOn sys event)
      between writeMeanwhile &&
    match (final.jobs[1]? : Option Job) with
    | some ⟨.flush, .returned (.ok _)⟩ => true
    | _ => false

theorem flush_barrier_write_meanwhile :
    openCache ⟨"cache", 512, 0⟩ calmHost 1024 none (blankDisk 1024) [] 0 = .ok (smallCache 0, smallWorld 0, 0) ∧
      ∃ between final, execute (smallCache 0).step (smallStart 0) writeThenFlush = some between ∧
        execute (smallCache 0).step between writeMeanwhile = some final ∧ flushSucceeds between final = true ∧
        ∀ (id : Nat) (bytes : List UInt8), between.jobs[id]? = some ⟨.flush, .waiting⟩ →
          final.jobs[id]? = some ⟨.flush, .returned (.ok bytes)⟩ → ∀ x, x < 1024 →
            Recent ((smallWorld 0).view.contents twoPages) (chronicle final) between.history.length x
              (FlatStore.content final.world.disk.inner x) := by
  obtain ⟨between, final, run, runLater, passed⟩ := runs_pass flushSucceeds
    (show ((execute (smallCache 0).step (smallStart 0) writeThenFlush).any fun between =>
      (execute (smallCache 0).step between writeMeanwhile).any (flushSucceeds between)) = true by decide +kernel)
  have both := passed
  rw [flushSucceeds, Bool.and_eq_true, Bool.and_eq_true] at both
  refine ⟨rfl, between, final, run, runLater, passed, ?_⟩
  have opened : openCache ⟨"cache", 512, 0⟩ calmHost twoPages.devSize none (blankDisk 1024) [] 0 =
    .ok (smallCache 0, smallWorld 0, 0) := rfl
  exact (cache_flush_barrier twoPages rfl (blankDisk 1024) rfl (.inl rfl) opened both.1.1 run both.1.2 runLater).2

/-- A flush copies a page, the page is written again, and a second flush is waiting. -/
def copiedThenWritten : List Event :=
  writeThenFlush ++ [.turn 1 0, .turn 1 0, .call (.write 0 (List.replicate 512 2)), .turn 2 0, .turn 2 0, .call .flush]

/-- The second flush uploads the page before the first one does, and both return. -/
def crossedUploads : List Event :=
  List.replicate 4 (.turn 3 0) ++ [.turn 1 0] ++ List.replicate 3 (.turn 3 0) ++ List.replicate 4 (.turn 1 0)

def hasReturned : Phase → Bool
  | .returned _ => true
  | _ => false

/-- Every call has returned, the second flush with success, and the page is clean, but the inner store holds the
older bytes. -/
def holdsOlder (between final : Sys MemBackend) : Bool :=
  match (between.jobs[3]? : Option Job), (final.jobs[3]? : Option Job) with
  | some ⟨.flush, .waiting⟩, some ⟨.flush, .returned (.ok _)⟩ =>
      final.jobs.all (fun job => hasReturned job.phase) && bitGet final.world.state.present 0 &&
        bitGet final.world.state.dirty 0 = false && final.world.disk.data.bytes 0 = 2 &&
        final.world.disk.inner.data 0 = 1 && between.history.length = 2 &&
        chronicle final = [(0, List.replicate 512 1, true), (0, List.replicate 512 2, true)]
  | _, _ => false

theorem flush_barrier_crossed_uploads :
    openCache ⟨"cache", 512, 0⟩ calmHost 1024 none (blankDisk 1024) [] 0 = .ok (smallCache 0, smallWorld 0, 0) ∧
      ∃ between final bytes, execute (smallCache 0).step (smallStart 0) copiedThenWritten = some between ∧
        execute (smallCache 0).step between crossedUploads = some final ∧
        final.jobs.all (fun job => hasReturned job.phase) = true ∧
        bitGet final.world.state.present 0 = true ∧ bitGet final.world.state.dirty 0 = false ∧
        final.world.disk.data.bytes 0 ≠ final.world.disk.inner.data 0 ∧
        between.jobs[3]? = some ⟨.flush, .waiting⟩ ∧ final.jobs[3]? = some ⟨.flush, .returned (.ok bytes)⟩ ∧
        ¬ Recent ((smallWorld 0).view.contents twoPages) (chronicle final) between.history.length 0
          (final.world.disk.inner.data 0) := by
  obtain ⟨between, final, run, runLater, passed⟩ := runs_pass holdsOlder
    (show ((execute (smallCache 0).step (smallStart 0) copiedThenWritten).any fun between =>
      (execute (smallCache 0).step between crossedUploads).any (holdsOlder between)) = true by decide +kernel)
  unfold holdsOlder at passed
  split at passed
  · rename_i bytes waiting returned
    simp only [Bool.and_eq_true, decide_eq_true_eq] at passed
    obtain ⟨⟨⟨⟨⟨⟨ended, present⟩, clean⟩, newer⟩, older⟩, count⟩, told⟩ := passed
    refine ⟨rfl, between, final, bytes, run, runLater, ended, present, clean, ?_, waiting, returned, ?_⟩
    · rw [newer, older]
      decide
    · rintro ⟨first, enough, inside, after⟩
      rw [told] at inside after
      obtain rfl : first = 2 := by
        rw [count] at enough
        exact le_antisymm inside enough
      have whole (earlier later : Update) : List.take 2 [earlier, later] = [earlier] ++ [later] := rfl
      have covered : 0 ≤ 0 ∧ 0 < 0 + (List.replicate 512 (2 : UInt8)).length := by
        rw [List.length_replicate]
        omega
      rw [older, whole, after_append_one, if_pos covered] at after
      rcases after with same | ⟨incomplete, _⟩
      · exact absurd same (by decide +kernel)
      · cases incomplete
  · cases passed

end Example


end FileCacheBackend
end UblkAzblob

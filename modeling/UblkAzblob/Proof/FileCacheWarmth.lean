import UblkAzblob.Proof.FileCacheBarrier

namespace UblkAzblob
open Storage

namespace FileCacheBackend

variable {Inner : Type} [BlobBackend Inner] [FlatStore Inner]
variable {cache : FileCacheBackend} {geometry : Geometry} {landed reached : Nat → Nat}
variable {sys next : Sys Inner} {id : Nat} {content : Store}

section Alone

/-- At most one flush is in flight, and no copy that it carries has been overtaken. -/
structure Alone (sys : Sys Inner) : Prop where
  single : ∀ (first second : Nat) (one other : Job), sys.jobs[first]? = some one → sys.jobs[second]? = some other →
    one.inFlight = true → other.inFlight = true → first = second
  ahead : ∀ (id : Nat) (job : Job) (page generation : Nat), sys.jobs[id]? = some job →
    Job.carries page generation job → sys.newest page ≤ generation

omit [BlobBackend Inner] [FlatStore Inner] in
theorem inFlight_of_carries {page generation : Nat} {job : Job} (carries : Job.carries page generation job) :
    job.inFlight = true := by
  obtain ⟨request, phase⟩ := job
  cases phase with
  | flushing tasks failed => rfl
  | _ => exact carries.elim

omit [BlobBackend Inner] [FlatStore Inner] in
theorem Alone.called (alone : Alone sys) (request : Request) :
    Alone { sys with jobs := sys.jobs ++ [⟨request, .waiting⟩] } := by
  have old {id : Nat} {job : Job} (found : (sys.jobs ++ [⟨request, .waiting⟩])[id]? = some job)
      (flies : job.inFlight = true) : sys.jobs[id]? = some job := by
    rw [List.getElem?_append] at found
    split at found
    · exact found
    · rw [List.getElem?_singleton] at found
      split at found
      · obtain rfl := Option.some.inj found
        cases flies
      · cases found
  refine ⟨fun first second one other foundOne foundOther flies flown => ?_, fun id job page generation found carries => ?_⟩
  · exact alone.single first second one other (old foundOne flies) (old foundOther flown) flies flown
  · exact alone.ahead id job page generation (old found (inFlight_of_carries carries)) carries

/-- A turn of the only flush performs its uploads one page at a time. -/
theorem Alone.turned (alone : Alone sys) {page : Nat} {before job : Job} (found : sys.jobs[id]? = some before)
    (single : oneFlush sys (.turn id page) = true)
    (turn : Turn cache geometry landed id sys next before job reached) : Alone next := by
  have others {other : Nat} {later : Job} (there : next.jobs[other]? = some later) :
      other = id ∧ later = job ∨ other ≠ id ∧ sys.jobs[other]? = some later := by
    rw [turn.jobs, List.getElem?_set] at there
    split at there
    · rename_i same
      split at there
      · exact .inl ⟨same.symm, (Option.some.inj there).symm⟩
      · cases there
    · rename_i different
      exact .inr ⟨fun same => different same.symm, there⟩
  have lonely {other : Nat} {later : Job} (there : sys.jobs[other]? = some later) (different : other ≠ id)
      (flies : job.inFlight = true) (flown : later.inFlight = true) : False := by
    rcases turn.flight.flies flies with flying | rfl
    · exact different (alone.single other id later before there found flown flying)
    · simp only [oneFlush, found] at single
      have idle := List.all_eq_true.mp single later (List.mem_of_getElem? there)
      rw [flown] at idle
      cases idle
  constructor
  · intro first second one other foundOne foundOther flies flown
    rcases others foundOne with ⟨rfl, rfl⟩ | ⟨firstOther, oneThere⟩
    · rcases others foundOther with ⟨rfl, _⟩ | ⟨secondOther, otherThere⟩
      · rfl
      · exact (lonely otherThere secondOther flies flown).elim
    · rcases others foundOther with ⟨rfl, rfl⟩ | ⟨_, otherThere⟩
      · exact (lonely oneThere firstOther flown flies).elim
      · exact alone.single first second one other oneThere otherThere flies flown
  · intro other later page' generation there carries
    cases turn.flight.landing with
    | calm newest copies =>
        rw [newest]
        rcases others there with ⟨rfl, rfl⟩ | ⟨_, old⟩
        · rcases copies page' generation carries with carried | ahead
          · exact alone.ahead other before page' generation found carried
          · exact ahead
        · exact alone.ahead other later page' generation old carries
    | performed landing version carried newest copies =>
        rcases others there with ⟨rfl, rfl⟩ | ⟨different, old⟩
        · obtain ⟨elsewhere, stillCarried⟩ := copies page' generation carries
          rw [newest, Function.update_of_ne elsewhere]
          exact alone.ahead other before page' generation found stillCarried
        · exact absurd (alone.single other id later before old found (inFlight_of_carries carries)
            (inFlight_of_carries carried)) different

omit [BlobBackend Inner] [FlatStore Inner] in
/-- A lone flush performs its uploads in order. -/
theorem inOrder_of_alone (alone : Alone sys) (event : Event) : inOrder sys event = true := by
  cases event with
  | call request => rfl
  | turn id page =>
      unfold inOrder
      dsimp only
      split
      · rename_i request tasks failed found
        split
        · rename_i offset generation bytes there
          obtain ⟨before, after, rfl, _⟩ := List.lookup_eq_some_iff.mp there
          exact decide_eq_true (alone.ahead id _ page generation found ⟨offset, bytes, by simp⟩)
        · rfl
      · rfl

end Alone

section Warmth

/-- Under at most one flush, and warm-ups that store nothing stale, the cache runs and shows every update. -/
structure Warm (cache : FileCacheBackend) (geometry : Geometry) (content : Store) (landed : Nat → Nat)
    (sys : Sys Inner) : Prop where
  running : Running cache geometry landed sys
  telling : Telling geometry content sys
  alone : Alone sys

theorem Warm.turn (warm : Warm cache geometry content landed sys) {page : Nat} {before : Job}
    (found : sys.jobs[id]? = some before)
    (allowed : (oneFlush sys (.turn id page) && freshStore sys (.turn id page) && countsOn sys (.turn id page)) = true)
    (taken : cache.step sys (.turn id page) = some next) :
    ∃ job reached, Turn cache geometry landed id sys next before job reached ∧
      Warm cache geometry content reached next := by
  rw [Bool.and_eq_true, Bool.and_eq_true] at allowed
  obtain ⟨job, reached, turn⟩ := warm.running.turn found (inOrder_of_alone warm.alone _) allowed.1.2 allowed.2 taken
  exact ⟨job, reached, turn, turn.running warm.running, warm.telling.told turn.tale,
    warm.alone.turned found allowed.1.1 turn⟩

theorem Warm.run (warm : Warm cache geometry content landed sys) {events : List Event}
    (allowed : along cache.step (fun sys event => oneFlush sys event && freshStore sys event && countsOn sys event)
      sys events = true)
    (run : execute cache.step sys events = some next) : ∃ reached, Warm cache geometry content reached next := by
  refine @execute_invariant _ _ _ _ (fun later => ∃ reached, Warm cache geometry content reached later)
    ?_ _ _ _ ⟨landed, warm⟩ allowed run
  rintro middle event last ⟨reached, now⟩ condition taken
  rcases step_cases taken with ⟨request, rfl, rfl⟩ | ⟨id, page, before, rfl, found⟩
  · exact ⟨reached, now.running.called request, now.telling.called request, now.alone.called request⟩
  · obtain ⟨_, further, _, after⟩ := now.turn found condition taken
    exact ⟨further, after⟩

/-- A warm-up never makes a dirty page present, so what it stores repeats the inner store. -/
theorem Warm.stored (warm : Warm cache geometry content landed sys) {page : Nat} {request : Request}
    {tasks : List (Nat × WarmPhase × Nat)} (found : sys.jobs[id]? = some ⟨request, .warming tasks⟩)
    (allowed : (oneFlush sys (.turn id page) && freshStore sys (.turn id page) && countsOn sys (.turn id page)) = true)
    (taken : cache.step sys (.turn id page) = some next) {x : Nat} (device : x < geometry.devSize)
    (absent : bitGet sys.world.state.present (x / geometry.pageSize) = false)
    (present : bitGet next.world.state.present (x / geometry.pageSize) = true) :
    next.world.disk.data.bytes x = FlatStore.content next.world.disk.inner x := by
  have ready := warm.running.ready id _ found
  obtain ⟨_, _, _, after⟩ := warm.turn found allowed taken
  rw [Bool.and_eq_true, Bool.and_eq_true] at allowed
  simp only [step, found] at taken
  obtain ⟨dirty, _⟩ := warmTurn_turn warm.running.consistent found ready taken fun offset len data seen there => by
    simpa [freshStore, found, there] using allowed.1.2
  refine after.running.consistent.coherent.clean x device present ?_
  rw [dirty]
  by_contra set
  rw [Bool.not_eq_false] at set
  exact Bool.false_ne_true (absent.symm.trans (warm.running.consistent.tidy.resident _ set))

variable {cfg : FileCacheConfig} {host : Host} {currentEtag : Option String} {budgetFile : List Entry}
variable {clock recovered : Nat} {world : World Inner}

/-- While no page is uploaded between its fetch and its store by a warm-up, what a warm-up makes present repeats the
inner store, and a read returns what the updates that returned have left. -/
theorem warm_pages_current (geometry : Geometry) (samePage : cfg.pageSize = geometry.pageSize) (disk : Disk Inner)
    (size : FlatStore.size disk.inner = geometry.devSize) (inherits : Inherits geometry disk)
    (opened : openCache cfg host geometry.devSize currentEtag disk budgetFile clock = .ok (cache, world, recovered))
    {events : List Event}
    (allowed : along cache.step (fun sys event => oneFlush sys event && freshStore sys event && countsOn sys event)
      (launch (world.view.contents geometry) world) events = true)
    (run : execute cache.step (launch (world.view.contents geometry) world) events = some sys) {page : Nat}
    (allowedLast : (oneFlush sys (.turn id page) && freshStore sys (.turn id page) && countsOn sys (.turn id page)) = true)
    (taken : cache.step sys (.turn id page) = some next) :
    (∀ request tasks, sys.jobs[id]? = some ⟨request, .warming tasks⟩ → ∀ x, x < geometry.devSize →
      bitGet sys.world.state.present (x / geometry.pageSize) = false →
      bitGet next.world.state.present (x / geometry.pageSize) = true →
      next.world.disk.data.bytes x = FlatStore.content next.world.disk.inner x) ∧
    ∀ offset len bytes, next.jobs[id]? = some ⟨.read offset len, .returned (.ok bytes)⟩ → bytes.length = len ∧
      ∀ x, offset ≤ x → x < offset + len →
        After (world.view.contents geometry) next.history x (byteAt bytes (x - offset)) := by
  obtain ⟨tidy, coherent⟩ := openCache_inherits samePage size inherits opened
  obtain ⟨started, told⟩ := launch_running tidy coherent (openCache_generation opened)
  have start : Warm cache geometry (world.view.contents geometry) _ (launch (world.view.contents geometry) world) :=
    ⟨started, told, fun first second one other found => (by cases found), fun id job page generation found => (by cases found)⟩
  obtain ⟨landed, warm⟩ := start.run allowed run
  refine ⟨fun request tasks found x device absent present => warm.stored found allowedLast taken device absent present, ?_⟩
  intro offset len bytes returned
  obtain ⟨_, _⟩ | ⟨id', page', before, same, found⟩ := step_cases taken
  · rename_i same
    cases same.1
  · obtain ⟨rfl, rfl⟩ := Event.turn.inj same
    obtain ⟨job, reached, turn, after⟩ := warm.turn found allowedLast taken
    have mine : next.jobs[id]? = some job := by
      rw [turn.jobs]
      exact getElem?_set_found found
    obtain ⟨rfl, complete⟩ := turn.answers offset len bytes (Option.some.inj (mine.symm.trans returned))
    refine ⟨length_slice _ _ _, fun x low high => ?_⟩
    have shown := after.telling x
    rw [complete (by omega)] at shown
    rw [byteAt_slice, if_pos (by omega), Nat.add_sub_of_le low]
    exact shown

end Warmth

section Example

/-- A page is stored by a warm-up while the other page is written, and a read of it has begun. -/
def warmThenRead : List Event :=
  [.call (.warmup 1024 512), .turn 0 0, .turn 0 0, .turn 0 0, .call (.write 512 (List.replicate 512 2)), .turn 1 0,
    .turn 1 0, .turn 0 0, .call (.read 0 512), .turn 2 0]

/-- The last turn of the read is allowed and returns bytes. -/
def readReturns (between final : Sys MemBackend) : Bool :=
  along (smallCache 512).step (fun sys event => oneFlush sys event && freshStore sys event && countsOn sys event) (smallStart 512)
      warmThenRead &&
    (oneFlush between (.turn 2 0) && freshStore between (.turn 2 0) && countsOn between (.turn 2 0)) &&
    match (final.jobs[2]? : Option Job) with
    | some ⟨.read 0 512, .returned (.ok _)⟩ => true
    | _ => false

theorem warm_pages_current_warm_then_read :
    openCache ⟨"cache", 512, 512⟩ calmHost 1024 none (blankDisk 1024) [] 0 = .ok (smallCache 512, smallWorld 512, 0) ∧
      ∃ between final, execute (smallCache 512).step (smallStart 512) warmThenRead = some between ∧
        (smallCache 512).step between (.turn 2 0) = some final ∧ readReturns between final = true ∧
        ∀ offset len bytes, final.jobs[2]? = some ⟨.read offset len, .returned (.ok bytes)⟩ → bytes.length = len ∧
          ∀ x, offset ≤ x → x < offset + len →
            After ((smallWorld 512).view.contents twoPages) final.history x (byteAt bytes (x - offset)) := by
  obtain ⟨between, final, run, last, passed⟩ := runs_pass readReturns
    (show ((execute (smallCache 512).step (smallStart 512) warmThenRead).any fun between =>
      (execute (smallCache 512).step between [.turn 2 0]).any (readReturns between)) = true by decide +kernel)
  obtain ⟨reached, taken, same⟩ := Option.bind_eq_some_iff.mp last
  obtain rfl := Option.some.inj same
  have both := passed
  rw [readReturns, Bool.and_eq_true, Bool.and_eq_true] at both
  refine ⟨rfl, between, reached, run, taken, passed, ?_⟩
  have opened : openCache ⟨"cache", 512, 512⟩ calmHost twoPages.devSize none (blankDisk 1024) [] 0 =
    .ok (smallCache 512, smallWorld 512, 0) := rfl
  exact (warm_pages_current twoPages rfl (blankDisk 1024) rfl (.inl rfl) opened both.1.1 run both.1.2 taken).2

/-- A page is fetched by a warm-up, and then written, uploaded and evicted by a write of the other page. -/
def writtenMeanwhile : List Event :=
  [.call (.warmup 1024 512), .turn 0 0, .turn 0 0, .turn 0 0] ++
    [.call (.write 0 (List.replicate 512 1)), .turn 1 0, .turn 1 0] ++
    .call .flush :: List.replicate 7 (.turn 2 0) ++
    [.call (.write 512 (List.replicate 512 2)), .turn 3 0, .turn 3 0]

/-- The warm-up makes the page present with the bytes from before the write. -/
def storesStale (between final : Sys MemBackend) : Bool :=
  match (between.jobs[0]? : Option Job) with
  | some ⟨_, .warming _⟩ =>
      along (smallCache 512).step oneFlush (smallStart 512) writtenMeanwhile &&
        bitGet between.world.state.present 0 = false && bitGet final.world.state.present 0 &&
        final.world.disk.data.bytes 0 = 0 && final.world.disk.inner.data 0 = 1
  | _ => false

/-- A read of the page returns the bytes from before the write. -/
def readsStale (_ final : Sys MemBackend) : Bool :=
  match (final.jobs[4]? : Option Job) with
  | some ⟨.read 0 512, .returned (.ok bytes)⟩ => byteAt bytes 0 = 0 &&
      final.history = [(0, List.replicate 512 1, true), (512, List.replicate 512 2, true)]
  | _ => false

theorem warm_pages_current_overtaken :
    openCache ⟨"cache", 512, 512⟩ calmHost 1024 none (blankDisk 1024) [] 0 = .ok (smallCache 512, smallWorld 512, 0) ∧
      (∃ between final request tasks, execute (smallCache 512).step (smallStart 512) writtenMeanwhile = some between ∧
        along (smallCache 512).step oneFlush (smallStart 512) writtenMeanwhile = true ∧
        execute (smallCache 512).step between [.turn 0 0] = some final ∧
        between.jobs[0]? = some ⟨request, .warming tasks⟩ ∧ bitGet between.world.state.present 0 = false ∧
        bitGet final.world.state.present 0 = true ∧
        final.world.disk.data.bytes 0 ≠ final.world.disk.inner.data 0) ∧
      ∃ between final bytes, execute (smallCache 512).step (smallStart 512) (writtenMeanwhile ++ [.turn 0 0]) =
          some between ∧
        execute (smallCache 512).step between [.call (.read 0 512), .turn 4 0, .turn 4 0] = some final ∧
        final.jobs[4]? = some ⟨.read 0 512, .returned (.ok bytes)⟩ ∧
        ¬ After ((smallWorld 512).view.contents twoPages) final.history 0 (byteAt bytes 0) := by
  refine ⟨rfl, ?_, ?_⟩
  · obtain ⟨between, final, run, last, passed⟩ := runs_pass storesStale
      (show ((execute (smallCache 512).step (smallStart 512) writtenMeanwhile).any fun between =>
        (execute (smallCache 512).step between [.turn 0 0]).any (storesStale between)) = true by decide +kernel)
    unfold storesStale at passed
    split at passed
    · rename_i request tasks found
      simp only [Bool.and_eq_true, decide_eq_true_eq] at passed
      obtain ⟨⟨⟨⟨single, absent⟩, present⟩, stale⟩, newer⟩ := passed
      refine ⟨between, final, request, tasks, run, single, last, found, absent, present, ?_⟩
      rw [stale, newer]
      decide
    · cases passed
  · obtain ⟨between, final, run, later, passed⟩ := runs_pass readsStale
      (show ((execute (smallCache 512).step (smallStart 512) (writtenMeanwhile ++ [.turn 0 0])).any fun between =>
        (execute (smallCache 512).step between [.call (.read 0 512), .turn 4 0, .turn 4 0]).any (readsStale between)) =
          true by decide +kernel)
    unfold readsStale at passed
    split at passed
    · rename_i bytes returned
      simp only [Bool.and_eq_true, decide_eq_true_eq] at passed
      refine ⟨between, final, bytes, run, later, returned, fun after => ?_⟩
      have split (first second : Update) : [first, second] = [first] ++ [second] := rfl
      have apart : ¬ (512 ≤ 0 ∧ 0 < 512 + (List.replicate 512 (2 : UInt8)).length) := by omega
      have covered : 0 ≤ 0 ∧ 0 < 0 + (List.replicate 512 (1 : UInt8)).length := by
        rw [List.length_replicate]
        omega
      rw [passed.1, passed.2, split, after_append_one, if_neg apart, ← List.nil_append [_], after_append_one,
        if_pos covered] at after
      rcases after with same | ⟨incomplete, _⟩
      · exact absurd same (by decide +kernel)
      · cases incomplete
    · cases passed

end Example

end FileCacheBackend
end UblkAzblob

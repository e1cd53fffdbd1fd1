import UblkAzblob.Construction.FlushTimer
import UblkAzblob.Proof.BufferBounds
import UblkAzblob.Proof.BufferState
import UblkAzblob.Proof.BufferedRefinement

namespace UblkAzblob
open Storage

variable {Inner : Type} [BlobBackend Inner]
variable {buffer : BufferedBackend} {timers : FlushTimers}

namespace BufferedBackend

section Dirt

variable {world : BufferWorld Inner}

theorem evictLoop_pages {max : Nat} {protect : Option Nat} {fuel page : Nat} {state : BufferState} {found : Page}
    (present : (BufferState.evictLoop max protect fuel state).pages.find? page = some found) :
    state.pages.find? page = some found := by
  induction fuel generalizing state with
  | zero => exact present
  | succ fuel inductionHypothesis =>
      rw [BufferState.evictLoop] at present
      split at present
      · exact present
      · split at present
        · exact present
        · have kept := inductionHypothesis present
          rw [OrderedMap.find?_erase] at kept
          split at kept
          · cases kept
          · exact kept

theorem enforceCacheLimit_pages {config : BufferedConfig} {protect : Option Nat} {page : Nat} {state : BufferState}
    {found : Page} (present : (BufferState.enforceCacheLimit config protect state).pages.find? page = some found) :
    state.pages.find? page = some found := by
  rw [BufferState.enforceCacheLimit] at present
  split at present
  · exact present
  · exact evictLoop_pages present

omit [BlobBackend Inner] in
/-- A loaded page is clean, and a copy changes no page. -/
theorem insertLoaded_dirt (page : Nat) (data : List UInt8) (config : BufferedConfig) (world : BufferWorld Inner) :
    DirtyBefore world (world.update (.insertLoaded config page data)) := by
  intro other found present dirty
  rw [BufferWorld.update, BufferState.insertLoaded] at present
  split at present
  · exact ⟨found, present, dirty⟩
  · have kept := enforceCacheLimit_pages present
    rw [OrderedMap.find?_insert] at kept
    split at kept
    · obtain rfl := Option.some.inj kept
      cases dirty
    · exact ⟨found, kept, dirty⟩

theorem ensureResident_dirt (buffer : BufferedBackend) (page devSize : Nat) (world : BufferWorld Inner) :
    DirtyBefore world (buffer.ensureResident page devSize world).2 := by
  rw [ensureResident]
  split
  · exact .refl world
  · have same := (loadPage_whole buffer page devSize world).1
    rw [Action.bind_apply]
    rcases loaded : buffer.loadPage page devSize world with ⟨answer, after⟩
    rw [loaded] at same
    have quiet : DirtyBefore world after := by
      intro other found present dirty
      rw [same] at present
      exact ⟨found, present, dirty⟩
    cases answer with
    | error error => exact quiet
    | ok data => exact quiet.trans (insertLoaded_dirt page data buffer.config after)

/-- The lock section runs on pages that were loaded without a new dirty one, or it never runs. -/
theorem withResident_dirt {Value : Type} (buffer : BufferedBackend) (page devSize fuel : Nat)
    (locked : BufferState → Option (Value × BufferState)) (world : BufferWorld Inner) :
    (∃ error after, buffer.withResident page devSize locked fuel world = (.error error, after) ∧
        DirtyBefore world after) ∨
      ∃ before value state, DirtyBefore world before ∧ locked before.state = some (value, state) ∧
        buffer.withResident page devSize locked fuel world = (.ok value, { before with state }) := by
  induction fuel generalizing world with
  | zero => exact .inl ⟨_, world, rfl, .refl world⟩
  | succ fuel inductionHypothesis =>
      rw [withResident, Action.bind_apply]
      have loads := ensureResident_dirt buffer page devSize world
      rcases loaded : buffer.ensureResident page devSize world with ⟨answer, after⟩
      rw [loaded] at loads
      cases answer with
      | error error => exact .inl ⟨error, after, rfl, loads⟩
      | ok value =>
          dsimp only
          rw [lockedOr]
          cases section' : locked after.state with
          | some result =>
              obtain ⟨value, state⟩ := result
              exact .inr ⟨after, value, state, loads, section', rfl⟩
          | none =>
              rcases inductionHypothesis after with ⟨error, last, failed, quiet⟩ |
                ⟨before, value, state, quiet, taken, done⟩
              · exact .inl ⟨error, last, failed, loads.trans quiet⟩
              · exact .inr ⟨before, value, state, loads.trans quiet, taken, done⟩

omit [BlobBackend Inner] in
/-- A copy out of a page makes no page dirty. -/
theorem copyOut_dirt {config : BufferedConfig} {page pageOffset len : Nat} {bytes : List UInt8} {state : BufferState}
    (copied : world.state.copyOut config page pageOffset len = some (bytes, state)) :
    DirtyBefore world { world with state } := by
  intro other found present dirty
  rw [BufferState.copyOut] at copied
  cases held : world.state.pages.find? page with
  | none =>
      rw [held] at copied
      cases copied
  | some entry =>
      rw [held] at copied
      obtain ⟨_, rfl⟩ := Prod.mk.inj (Option.some.inj copied)
      have kept := enforceCacheLimit_pages present
      exact ⟨found, kept, dirty⟩

theorem readLoop_dirt (devSize : Nat) (pieces : List Chunk) (result : List UInt8) (world : BufferWorld Inner) :
    DirtyBefore world (buffer.readLoop devSize pieces result world).2 := by
  induction pieces generalizing result world with
  | nil => exact .refl world
  | cons chunk rest inductionHypothesis =>
      rw [readLoop, Action.bind_apply]
      rcases withResident_dirt buffer chunk.page devSize 1
        (BufferState.copyOut buffer.config chunk.page chunk.pageOffset chunk.len) world with
        ⟨error, after, failed, quiet⟩ | ⟨before, bytes, state, quiet, copied, done⟩
      · rw [failed]
        exact quiet
      · rw [done]
        exact (quiet.trans (copyOut_dirt copied)).trans (inductionHypothesis (result ++ bytes) _)

theorem devSize_dirt (world : BufferWorld Inner) : DirtyBefore world (devSize world).2 := by
  intro page found present dirty
  refine ⟨found, ?_, dirty⟩
  rw [devSize] at present
  split at present
  · exact present
  · rw [Action.bind_apply] at present
    rcases asked : BufferWorld.callInner BlobBackend.size world with ⟨answer, after⟩
    have same : after.state = world.state := (congrArg (·.2.state) asked).symm
    rw [asked] at present
    cases answer with
    | error error =>
        rw [← same]
        exact present
    | ok size =>
        rw [← same]
        simp only [Action.bind_apply, Action.modify_apply, Action.get_apply, BufferWorld.update] at present
        split at present
        · exact present
        · exact present

theorem checkInBounds_same {State : Type} (op : String) (offset len devSize : Nat) (state : State) :
    (checkInBounds op offset len devSize state).2 = state := by
  rw [checkInBounds]
  split
  · rfl
  · split
    · rfl
    · rfl

/-- A read makes no page dirty. -/
theorem read_dirt (offset len : Nat) (world : BufferWorld Inner) :
    DirtyBefore world (buffer.read offset len world).2 := by
  suffices kept : Action.Keeps (DirtyBefore world) (buffer.read offset len) from kept world (.refl world)
  unfold read
  split
  · exact Action.keeps_pure []
  · refine Action.keeps_bind (Action.keeps_ensure _ _) fun _ _ first quiet _ => ?_
    refine Action.keeps_bind (fun middle before => before.trans (devSize_dirt middle)) ?_ first quiet
    intro _ size second quiet _
    refine Action.keeps_bind ?_ ?_ second quiet
    · intro middle before
      rw [checkInBounds_same]
      exact before
    · intro _ _ third quiet _
      exact quiet.trans (readLoop_dirt size _ [] third)

omit [BlobBackend Inner] in
/-- A buffer whose dirty pages were dirty before has none where there was none. -/
theorem DirtyBefore.none {before after : BufferWorld Inner} (quiet : DirtyBefore before after)
    (clean : before.state.dirtyIndices = []) : after.state.dirtyIndices = [] := by
  rw [List.eq_nil_iff_forall_not_mem]
  intro page member
  obtain ⟨found, present, dirty⟩ := BufferState.mem_dirty.mp member
  obtain ⟨earlier, held, wasDirty⟩ := quiet page found present dirty
  have listed := BufferState.mem_dirty.mpr ⟨earlier, held, wasDirty⟩
  rw [clean] at listed
  cases listed

end Dirt

section Erasure

/-- The timed action does what the plain one does, and takes no time. -/
def Erases {Value : Type} (plain : Action (BufferWorld Inner) Value) (timed : Action (TimedBuffer Inner) Value) : Prop :=
  ∀ start, (timed start).1 = (plain start.world).1 ∧ (timed start).2.world = (plain start.world).2 ∧
    (timed start).2.now = start.now

omit [BlobBackend Inner]

theorem erases_lift {Value : Type} (plain : Action (BufferWorld Inner) Value) : Erases plain (TimedBuffer.lift plain) :=
  fun _ => ⟨rfl, rfl, rfl⟩

theorem erases_pure {Value : Type} (value : Value) :
    Erases (pure value : Action (BufferWorld Inner) Value) (pure value) :=
  fun _ => ⟨rfl, rfl, rfl⟩

theorem erases_ensure (condition : Prop) [Decidable condition] (error : Error) :
    Erases (Action.ensure condition error : Action (BufferWorld Inner) Unit) (Action.ensure condition error) := by
  intro start
  rw [Action.ensure_apply, Action.ensure_apply]
  split
  · exact ⟨rfl, rfl, rfl⟩
  · exact ⟨rfl, rfl, rfl⟩

theorem erases_checkInBounds (op : String) (offset len devSize : Nat) :
    Erases (checkInBounds op offset len devSize : Action (BufferWorld Inner) Unit) (checkInBounds op offset len devSize) := by
  intro start
  unfold checkInBounds
  split
  · exact ⟨rfl, rfl, rfl⟩
  · split
    · exact ⟨rfl, rfl, rfl⟩
    · exact ⟨rfl, rfl, rfl⟩

theorem erases_bind {First Second : Type} {plain : Action (BufferWorld Inner) First}
    {timed : Action (TimedBuffer Inner) First} {plainNext : First → Action (BufferWorld Inner) Second}
    {timedNext : First → Action (TimedBuffer Inner) Second} (head : Erases plain timed)
    (tail : ∀ value, Erases (plainNext value) (timedNext value)) : Erases (plain >>= plainNext) (timed >>= timedNext) := by
  intro start
  obtain ⟨answer, world, now⟩ := head start
  rw [Action.bind_apply, Action.bind_apply]
  rcases ran : timed start with ⟨outcome, after⟩
  rcases plainRan : plain start.world with ⟨plainOutcome, plainAfter⟩
  rw [ran, plainRan] at answer world
  rw [ran] at now
  obtain rfl : outcome = plainOutcome := answer
  obtain rfl : after.world = plainAfter := world
  cases outcome with
  | error error => exact ⟨rfl, rfl, now⟩
  | ok value =>
      obtain ⟨answer, world, later⟩ := tail value after
      exact ⟨answer, world, later.trans now⟩

/-- A stamp is not seen by the plain buffer. -/
theorem erases_stamp {Value : Type} {plain : Action (BufferWorld Inner) Value}
    {timed : Action (TimedBuffer Inner) Value} {stamp : TimedBuffer Inner → TimedBuffer Inner}
    (unseen : ∀ start, (stamp start).world = start.world ∧ (stamp start).now = start.now) (erases : Erases plain timed) :
    Erases plain (Action.modify stamp >>= fun _ => timed) := by
  intro start
  obtain ⟨answer, world, now⟩ := erases (stamp start)
  rw [(unseen start).1] at answer world
  exact ⟨answer, world, now.trans (unseen start).2⟩

theorem erases_stamped {plain : Action (BufferWorld Inner) Unit} {timed : Action (TimedBuffer Inner) Unit}
    {stamp : TimedBuffer Inner → TimedBuffer Inner}
    (unseen : ∀ start, (stamp start).world = start.world ∧ (stamp start).now = start.now) (erases : Erases plain timed) :
    Erases plain (timed >>= fun _ => Action.modify stamp) := by
  intro start
  obtain ⟨answer, world, now⟩ := erases start
  rw [Action.bind_apply]
  rcases ran : timed start with ⟨outcome, after⟩
  rw [ran] at answer world now
  cases outcome with
  | error error => exact ⟨answer, world, now⟩
  | ok value => exact ⟨answer, (unseen after).1.trans world, (unseen after).2.trans now⟩

theorem erases_forEach {Item : Type} {items : List Item} {plain : Item → Action (BufferWorld Inner) Unit}
    {timed : Item → Action (TimedBuffer Inner) Unit} (round : ∀ item, Erases (plain item) (timed item)) :
    Erases (Action.forEach items plain) (Action.forEach items timed) := by
  induction items with
  | nil => exact erases_pure ()
  | cons item rest inductionHypothesis => exact erases_bind (round item) fun _ => inductionHypothesis

end Erasure

section Timed

theorem timedWriteRange_erases (op : String) (offset : Nat) (data : List UInt8) :
    Erases (buffer.writeRange op offset data : Action (BufferWorld Inner) Unit)
      (buffer.timedWriteRange op offset data) := by
  apply erases_bind (erases_lift devSize)
  intro size
  apply erases_bind (erases_checkInBounds op offset data.length size)
  intro _
  apply erases_forEach
  intro chunk
  apply erases_bind (erases_lift _)
  intro _
  unfold TimedBuffer.stampWrite
  apply erases_stamp
  · exact fun _ => ⟨rfl, rfl⟩
  · exact erases_lift buffer.enforceDirtyLimit

theorem timedFlush_erases (buffer : BufferedBackend) :
    Erases (buffer.flush : Action (BufferWorld Inner) Unit) buffer.timedFlush := by
  intro start
  have inner : Erases (BufferWorld.callInner BlobBackend.flush : Action (BufferWorld Inner) Unit)
      (TimedBuffer.lift (BufferWorld.callInner BlobBackend.flush)) := erases_lift _
  unfold flush timedFlush
  dsimp only
  by_cases dirty : start.world.state.dirtyIndices ≠ []
  · rw [if_pos dirty, if_pos dirty]
    refine erases_bind ?_ (fun _ => inner) start
    unfold timedFlushIndices TimedBuffer.stampFlush
    apply erases_stamped
    · exact fun _ => ⟨rfl, rfl⟩
    · exact erases_lift _
  · rw [if_neg dirty, if_neg dirty]
    exact inner start

/-- The instants are kept beside the buffer and change nothing in what it does. -/
theorem timedPerform_erases (request : BlobRequest) :
    Erases (buffer.perform request : Action (BufferWorld Inner) (List UInt8)) (buffer.timedPerform request) := by
  cases request with
  | read offset len => exact erases_lift _
  | write offset data =>
      apply erases_bind ?_ fun _ => erases_pure []
      unfold write timedWrite
      split
      · exact erases_pure ()
      · exact erases_bind (erases_ensure _ _) fun _ => timedWriteRange_erases "write" offset data
  | clear offset len =>
      apply erases_bind ?_ fun _ => erases_pure []
      unfold clear timedClear
      split
      · exact erases_pure ()
      · exact erases_bind (erases_ensure _ _) fun _ => timedWriteRange_erases "clear" offset _
  | flush => exact erases_bind (timedFlush_erases buffer) fun _ => erases_pure []

end Timed

section Stamps

/-- What a call does to the instants: a page turns dirty only at a write, and a flush leaves no page dirty. -/
structure Stamped (start after : TimedBuffer Inner) : Prop where
  now : after.now = start.now
  write : after.lastWrite = start.lastWrite ∨ after.lastWrite = some start.now
  flush : after.lastFlush = start.lastFlush ∨ after.lastFlush = some start.now ∧ after.hasDirty = false
  dirt : after.hasDirty = true → start.hasDirty = true ∨ after.lastWrite = some start.now

omit [BlobBackend Inner] in
theorem hasDirty_eq_false {timed : TimedBuffer Inner} :
    timed.hasDirty = false ↔ timed.world.state.dirtyIndices = [] := by
  simp [TimedBuffer.hasDirty]

omit [BlobBackend Inner] in
theorem Stamped.refl (start : TimedBuffer Inner) : Stamped start start :=
  ⟨rfl, .inl rfl, .inl rfl, fun dirty => .inl dirty⟩

omit [BlobBackend Inner] in
theorem Stamped.quiet {start : TimedBuffer Inner} {world : BufferWorld Inner} (quiet : DirtyBefore start.world world) :
    Stamped start { start with world } := by
  refine ⟨rfl, .inl rfl, .inl rfl, fun dirty => .inl ?_⟩
  by_contra clean
  rw [Bool.not_eq_true, hasDirty_eq_false] at clean
  exact absurd (dirty.symm.trans (hasDirty_eq_false.mpr (quiet.none clean))) (by decide)

/-- A write that has patched no page yet made none dirty. -/
def Writing (start after : TimedBuffer Inner) : Prop :=
  after.now = start.now ∧ after.lastFlush = start.lastFlush ∧
    (after.lastWrite = some start.now ∨ after.lastWrite = start.lastWrite ∧ DirtyBefore start.world after.world)

omit [BlobBackend Inner] in
theorem Writing.refl (start : TimedBuffer Inner) : Writing start start := ⟨rfl, rfl, .inr ⟨rfl, .refl _⟩⟩

omit [BlobBackend Inner] in
theorem Writing.loads {start between : TimedBuffer Inner} {world : BufferWorld Inner} (writing : Writing start between)
    (quiet : DirtyBefore between.world world) : Writing start { between with world } := by
  obtain ⟨now, flush, write⟩ := writing
  refine ⟨now, flush, ?_⟩
  rcases write with stamped | ⟨same, clean⟩
  · exact .inl stamped
  · exact .inr ⟨same, clean.trans quiet⟩

omit [BlobBackend Inner] in
theorem Writing.stamped {start after : TimedBuffer Inner} (writing : Writing start after) : Stamped start after := by
  obtain ⟨now, flush, write⟩ := writing
  refine ⟨now, ?_, .inl flush, fun dirty => ?_⟩
  · rcases write with stamped | ⟨same, _⟩
    · exact .inr stamped
    · exact .inl same
  · rcases write with stamped | ⟨_, quiet⟩
    · exact .inr stamped
    · left
      by_contra clean
      rw [Bool.not_eq_true, hasDirty_eq_false] at clean
      exact absurd (dirty.symm.trans (hasDirty_eq_false.mpr (quiet.none clean))) (by decide)

/-- A chunk is stamped once its page is patched. -/
theorem timedWriteChunk_writing (start : TimedBuffer Inner) (devSize : Nat) (data : List UInt8) (chunk : Chunk) :
    Action.Keeps (Writing start) (buffer.timedWriteChunk devSize data chunk) := by
  intro between writing
  rw [timedWriteChunk, Action.bind_apply, TimedBuffer.lift]
  rcases withResident_dirt buffer chunk.page devSize 1 (fun state =>
    (state.applyPatch chunk.page chunk.pageOffset ((data.drop chunk.pos).take chunk.len)).map
      fun state => ((), state)) between.world with
    ⟨error, after, failed, quiet⟩ | ⟨before, value, state, _, _, done⟩
  · rw [failed]
    exact writing.loads quiet
  · rw [done]
    dsimp only
    rw [TimedBuffer.stampWrite, Action.bind_apply, Action.modify_apply]
    exact ⟨writing.1, writing.2.1, .inl (congrArg some writing.1)⟩

theorem timedWriteRange_writing (start : TimedBuffer Inner) (op : String) (offset : Nat) (data : List UInt8) :
    Action.Keeps (Writing start) (buffer.timedWriteRange op offset data) := by
  unfold timedWriteRange
  refine Action.keeps_bind (fun between writing => writing.loads (devSize_dirt between.world)) ?_
  intro _ size first writing _
  refine Action.keeps_bind ?_ ?_ first writing
  · intro between before
    rw [checkInBounds_same]
    exact before
  · intro _ _ second writing _
    exact Action.keeps_forEach (fun chunk _ => timedWriteChunk_writing start size data chunk) second writing

theorem timedWrite_writing (start : TimedBuffer Inner) (offset : Nat) (data : List UInt8) :
    Action.Keeps (Writing start) (buffer.timedWrite offset data) := by
  unfold timedWrite
  split
  · exact Action.keeps_pure ()
  · exact Action.keeps_bind (Action.keeps_ensure _ _) fun _ _ after writing _ =>
      timedWriteRange_writing start "write" offset data after writing

theorem timedClear_writing (start : TimedBuffer Inner) (offset len : Nat) :
    Action.Keeps (Writing start) (buffer.timedClear offset len) := by
  unfold timedClear
  split
  · exact Action.keeps_pure ()
  · exact Action.keeps_bind (Action.keeps_ensure _ _) fun _ _ after writing _ =>
      timedWriteRange_writing start "clear" offset _ after writing

omit [BlobBackend Inner] in
theorem unit_after {action : Action (TimedBuffer Inner) Unit} (start : TimedBuffer Inner) :
    ((do action; pure [] : Action (TimedBuffer Inner) (List UInt8)) start).2 = (action start).2 := by
  rw [Action.bind_apply]
  rcases action start with ⟨outcome, after⟩
  cases outcome with
  | error error => rfl
  | ok value => rfl

variable [SectorStore Inner] {device : Nat}

/-- Pages that were all flushed are clean. -/
theorem flushIndices_clean {world : BufferWorld Inner} (tidy : Tidy buffer device world)
    (flushed : (buffer.flushIndices world.state.dirtyIndices world).1 = .ok ()) :
    (buffer.flushIndices world.state.dirtyIndices world).2.state.dirtyIndices = [] := by
  obtain ⟨fewer, clean⟩ := (flushIndices_spec tidy (BufferState.dirtyIndices_nodup world.state)).2 flushed
  rw [List.eq_nil_iff_forall_not_mem]
  intro page member
  obtain ⟨found, present, dirty⟩ := BufferState.mem_dirty.mp member
  obtain ⟨earlier, held, wasDirty⟩ := fewer page found present dirty
  have cleaned := clean page (BufferState.mem_dirty.mpr ⟨earlier, held, wasDirty⟩) found present
  exact absurd (dirty.symm.trans cleaned) (by decide)

/-- A flush that returns leaves no page dirty, and its instant is set once all pages are clean. -/
theorem timedFlush_stamped {start : TimedBuffer Inner} (tidy : Tidy buffer device start.world) :
    Stamped start (buffer.timedFlush start).2 ∧
      ((buffer.timedFlush start).1 = .ok () → (buffer.timedFlush start).2.hasDirty = false) := by
  unfold timedFlush
  dsimp only
  by_cases dirty : start.world.state.dirtyIndices ≠ []
  · have was : start.hasDirty = true := by
      rw [TimedBuffer.hasDirty, decide_eq_true_iff]
      exact dirty
    rw [if_pos dirty, Action.bind_apply, timedFlushIndices, Action.bind_apply, TimedBuffer.lift]
    have clean := flushIndices_clean tidy
    rcases flushed : buffer.flushIndices start.world.state.dirtyIndices start.world with ⟨answer, after⟩
    rw [flushed] at clean
    cases answer with
    | error error => exact ⟨⟨rfl, .inl rfl, .inl rfl, fun _ => .inl was⟩, fun done => (by cases done)⟩
    | ok value =>
        have none : after.state.dirtyIndices = [] := clean rfl
        have cleaned (inner : Inner) : TimedBuffer.hasDirty (⟨{ after with inner }, start.lastWrite, some start.now,
            start.now⟩ : TimedBuffer Inner) = false := hasDirty_eq_false.mpr none
        exact ⟨⟨rfl, .inl rfl, .inr ⟨rfl, cleaned _⟩, fun _ => .inl was⟩, fun _ => cleaned _⟩
  · rw [if_neg dirty]
    rw [not_not] at dirty
    have clean (inner : Inner) : TimedBuffer.hasDirty (⟨{ start.world with inner }, start.lastWrite, start.lastFlush,
        start.now⟩ : TimedBuffer Inner) = false := hasDirty_eq_false.mpr dirty
    refine ⟨⟨rfl, .inl rfl, .inl rfl, fun now => ?_⟩, fun _ => clean _⟩
    exact absurd (now.symm.trans (clean _)) (by decide)

theorem timedPerform_stamped {start : TimedBuffer Inner} (request : BlobRequest)
    (tidy : Tidy buffer device start.world) : Stamped start (buffer.timedPerform request start).2 := by
  cases request with
  | read offset len => exact Stamped.quiet (read_dirt offset len start.world)
  | write offset data =>
      rw [timedPerform, unit_after]
      exact (timedWrite_writing start offset data start (.refl start)).stamped
  | clear offset len =>
      rw [timedPerform, unit_after]
      exact (timedClear_writing start offset len start (.refl start)).stamped
  | flush =>
      rw [timedPerform, unit_after]
      exact (timedFlush_stamped tidy).1

end Stamps

section Starvation

variable {buffer : BufferedBackend} {contents : Store} {world : BufferWorld MemBackend}

/-- One page is resident, and it is dirty. -/
def Soaked (buffer : BufferedBackend) (world : BufferWorld MemBackend) : Prop :=
  ∃ page : Page, world.state.pages.entries = [(0, page)] ∧ page.dirty = true ∧
    world.state.devSize = buffer.config.pageSize

theorem chunks_whole {size : Nat} (positive : 0 < size) : chunks size 0 size = [⟨0, 0, 0, size⟩] := by
  obtain ⟨less, rfl⟩ : ∃ less, size = less + 1 := ⟨size - 1, by omega⟩
  rw [chunks, chunksFrom, if_pos positive]
  simp only [Nat.zero_add, Nat.zero_mod, Nat.zero_div, Nat.sub_zero, Nat.min_self]
  cases less with
  | zero => rfl
  | succ less => rw [chunksFrom, if_neg (Nat.lt_irrefl _)]

theorem insert_alone {map : OrderedMap Nat Page} (old new : Page)
    (alone : map.entries = [(0, old)] ∨ map.entries = []) : (map.insert 0 new).entries = [(0, new)] := by
  show map.entries.filter _ ++ (0, new) :: map.entries.filter _ = _
  rcases alone with alone | alone
  · rw [alone]
    simp
  · rw [alone]
    simp

/-- A page that is patched alone is the only dirty page, and no other page has to be flushed. -/
theorem patch_soaks (buffer : BufferedBackend) (world : BufferWorld MemBackend) {page : Page} (data : List UInt8) (alone : world.state.pages.entries = [(0, page)])
    (known : world.state.devSize = buffer.config.pageSize) :
    ∃ state, world.state.applyPatch 0 0 data = some state ∧ Soaked buffer { world with state } ∧
      buffer.enforceDirtyLimit { world with state } = (.ok (), { world with state }) := by
  have present : world.state.pages.find? 0 = some page := by
    rw [OrderedMap.find?, alone]
    rfl
  rw [BufferState.applyPatch, present]
  have entries := insert_alone page ⟨overwrite page.data 0 data, true, world.state.nextSeq⟩ (.inl alone)
  refine ⟨_, rfl, ⟨_, entries, rfl, known⟩, ?_⟩
  have few : (BufferState.victims buffer.config { world.state with
      seqCounter := world.state.nextSeq
      pages := world.state.pages.insert 0 ⟨overwrite page.data 0 data, true, world.state.nextSeq⟩
      lru := world.state.lru.touch 0 false }) = [] := by
    rw [BufferState.victims, entries]
    have positive := buffer.dirtyPositive
    rw [if_pos]
    show 1 ≤ buffer.config.maxDirtyPages
    omega
  rw [enforceDirtyLimit]
  exact if_pos few

theorem memRead_whole {size : Nat} (aligned : size % 512 = 0) (data : Store) :
    MemBackend.read 0 size ⟨size, data⟩ = (.ok (slice data 0 size), ⟨size, data⟩) := by
  simp [MemBackend.read, MemBackend.checkAlignment, MemBackend.checkEnd, Action.ensure_apply, aligned]

/-- One page is within every limit. -/
theorem enforceCacheLimit_alone (buffer : BufferedBackend) {state : BufferState} {page : Page} (alone : state.pages.entries = [(0, page)]) :
    BufferState.enforceCacheLimit buffer.config (some 0) state = state := by
  rw [BufferState.enforceCacheLimit]
  split
  · rfl
  · rename_i limited
    have room : state.pages.entries.length ≤ buffer.config.maxCachedPages := by
      rw [alone]
      have positive := buffer.dirtyPositive
      have enough := buffer.cachedEnough.resolve_left limited
      show 1 ≤ buffer.config.maxCachedPages
      omega
    cases state.lru.evictable.entries.length with
    | zero => rfl
    | succ fuel => rw [BufferState.evictLoop, if_pos room]

/-- The first page is loaded from the store, or is there already. -/
theorem ensureResident_alone (world : BufferWorld MemBackend) (inner : world.inner = ⟨buffer.config.pageSize, contents⟩)
    (known : world.state.devSize = buffer.config.pageSize)
    (alone : world.state.pages.entries = [] ∨ ∃ page : Page, world.state.pages.entries = [(0, page)]) :
    ∃ state page, buffer.ensureResident 0 buffer.config.pageSize world = (.ok (), { world with state }) ∧
      state.pages.entries = [(0, page)] ∧ state.devSize = buffer.config.pageSize := by
  rw [ensureResident]
  rcases alone with empty | ⟨page, alone⟩
  · have absent : world.state.pages.contains 0 = false := by
      rw [OrderedMap.contains, OrderedMap.find?, empty]
      rfl
    have loads : buffer.loadPage 0 buffer.config.pageSize world =
        (.ok (slice contents 0 buffer.config.pageSize ++ List.replicate 0 0), world) := by
      have called : BufferWorld.callInner (BlobBackend.read 0 buffer.config.pageSize) world =
          (.ok (slice contents 0 buffer.config.pageSize), world) := by
        rw [BufferWorld.callInner, inner]
        show ((MemBackend.read 0 _ ⟨_, _⟩).1, { world with inner := (MemBackend.read 0 _ ⟨_, _⟩).2 }) = _
        rw [memRead_whole buffer.aligned, ← inner]
      rw [loadPage]
      simp only [Nat.zero_mul, Nat.sub_zero, Nat.min_self, if_pos (pageSize_pos buffer), Action.bind_apply,
        Action.withContext, called, Action.ensure_apply, length_slice, Nat.sub_self, if_true]
      rfl
    rw [if_neg (by rw [absent]; decide), Action.bind_ok loads]
    let loaded : Page := ⟨slice contents 0 buffer.config.pageSize ++ List.replicate 0 0, false, world.state.nextSeq⟩
    let state : BufferState := { world.state with
      seqCounter := world.state.nextSeq
      pages := world.state.pages.insert 0 loaded
      lru := world.state.lru.touch 0 true }
    have entries : state.pages.entries = [(0, loaded)] := insert_alone loaded loaded (.inr empty)
    refine ⟨state, loaded, ?_, entries, known⟩
    rw [Action.modify_apply, BufferWorld.update, BufferState.insertLoaded, if_neg (by rw [absent]; decide)]
    have same := enforceCacheLimit_alone buffer entries
    dsimp only
    rw [same]
  · have present : world.state.pages.contains 0 = true := by
      rw [OrderedMap.contains, OrderedMap.find?, alone]
      rfl
    rw [if_pos present]
    exact ⟨world.state, page, rfl, alone, known⟩

/-- The size of the device is asked for at the first call. -/
theorem devSize_alone (inner : world.inner = ⟨buffer.config.pageSize, contents⟩)
    (known : world.state.devSize = 0 ∨ world.state.devSize = buffer.config.pageSize) :
    devSize world = (.ok buffer.config.pageSize,
      { world with state := { world.state with devSize := buffer.config.pageSize } }) := by
  have positive := pageSize_pos buffer
  rw [devSize]
  rcases known with unknown | known
  · have asked : BufferWorld.callInner BlobBackend.size world = (.ok buffer.config.pageSize, world) := by
      have answer : BlobBackend.size world.inner = (.ok buffer.config.pageSize, world.inner) := by
        rw [inner]
        rfl
      rw [BufferWorld.callInner, answer]
    rw [if_neg (by simpa using unknown), Action.bind_ok asked]
    simp only [Action.bind_apply, Action.modify_apply, Action.get_apply, BufferWorld.update, unknown, if_true]
  · rw [if_pos (by omega), ← known]

/-- A whole page is written into the buffer, and the store is left alone. -/
theorem timedWrite_soaks {data : List UInt8} (length : data.length = buffer.config.pageSize)
    (bounded : buffer.config.pageSize < 2 ^ 64) {timed : TimedBuffer MemBackend}
    (inner : timed.world.inner = ⟨buffer.config.pageSize, contents⟩)
    (known : timed.world.state.devSize = 0 ∨ timed.world.state.devSize = buffer.config.pageSize)
    (alone : timed.world.state.pages.entries = [] ∨ ∃ page : Page, timed.world.state.pages.entries = [(0, page)]) :
    ∃ world, (buffer.timedPerform (.write 0 data) timed).2 = { timed with world, lastWrite := some timed.now } ∧
      world.inner = ⟨buffer.config.pageSize, contents⟩ ∧ Soaked buffer world := by
  have positive := pageSize_pos buffer
  have filled : data ≠ [] := by
    rintro rfl
    rw [List.length_nil] at length
    omega
  set sized : BufferWorld MemBackend :=
    { timed.world with state := { timed.world.state with devSize := buffer.config.pageSize } } with sizedEq
  have asked : devSize timed.world = (.ok buffer.config.pageSize, sized) := devSize_alone inner known
  obtain ⟨loaded, page, loads, entries, knownAfter⟩ :=
    ensureResident_alone sized inner rfl alone
  obtain ⟨state, patched, soaked, limited⟩ := patch_soaks buffer { sized with state := loaded }
    ((data.drop 0).take buffer.config.pageSize) entries knownAfter
  refine ⟨{ sized with state }, ?_, inner, soaked⟩
  have resident : buffer.withResident 0 buffer.config.pageSize (fun state =>
      (state.applyPatch 0 0 ((data.drop 0).take buffer.config.pageSize)).map fun state => ((), state)) 1 sized =
      (.ok (), { sized with state }) := by
    rw [withResident, Action.bind_ok loads, lockedOr]
    dsimp only at patched ⊢
    rw [patched]
    rfl
  rw [timedPerform, unit_after, timedWrite, if_neg filled]
  have accepted : (checkAligned (s!"write: offset ({0}) and data.len() ({data.length}) must be 512-byte aligned") 0
      data.length : Action (TimedBuffer MemBackend) Unit) timed = (.ok (), timed) := by
    rw [checkAligned, Action.ensure_apply, if_pos ⟨rfl, length ▸ buffer.aligned⟩]
  have fits : (checkInBounds "write" 0 data.length buffer.config.pageSize : Action (TimedBuffer MemBackend) Unit)
      { timed with world := sized } = (.ok (), { timed with world := sized }) := by
    rw [checkInBounds, if_neg (by omega), if_neg (by omega)]
    rfl
  have first : TimedBuffer.lift devSize timed = (.ok buffer.config.pageSize, { timed with world := sized }) := by
    rw [TimedBuffer.lift, asked]
  rw [Action.bind_ok accepted, timedWriteRange, Action.bind_ok first, Action.bind_ok fits, length,
    chunks_whole positive, Action.forEach_cons, Action.bind_apply, timedWriteChunk, Action.bind_apply, TimedBuffer.lift]
  dsimp only
  rw [resident]
  dsimp only
  rw [TimedBuffer.stampWrite, Action.bind_apply, Action.modify_apply]
  dsimp only
  rw [TimedBuffer.lift]
  dsimp only at limited ⊢
  rw [limited]
  rfl

end Starvation
end BufferedBackend

namespace Ticker

open BufferedBackend FlushTimers

variable [SectorStore Inner] {device interval late : Nat} {ticker : Ticker Inner}

/-- While a page is dirty, the task wakes soon after the timeout that is set. -/
structure OnTime (buffer : BufferedBackend) (device : Nat) (timers : FlushTimers) (interval late : Nat)
    (ticker : Ticker Inner) : Prop where
  refines : ∃ reference, Refines buffer device reference ticker.timed.world
  awake : ticker.timed.now ≤ ticker.wakeAt + late
  asleep : ticker.wakeAt ≤ ticker.timed.now + interval
  since : ticker.dirtySince.isSome = ticker.timed.hasDirty
  written : ∀ since, ticker.dirtySince = some since → ∃ write, ticker.timed.lastWrite = some write ∧ since ≤ write ∧
    write ≤ ticker.timed.now
  flushed : ∀ flush, ticker.timed.lastFlush = some flush → flush ≤ ticker.timed.now ∧
    ∀ since, ticker.dirtySince = some since → flush ≤ since
  idle : 0 < timers.idleFlushSecs → ∀ since write, ticker.dirtySince = some since →
    ticker.timed.lastWrite = some write → ticker.wakeAt ≤ write + seconds timers.idleFlushSecs + interval
  force : 0 < timers.forceFlushTimeoutSecs → ∀ since write, ticker.dirtySince = some since →
    ticker.timed.lastWrite = some write → ticker.wakeAt ≤
      (if ticker.timed.lastFlush.isSome then since else write) + seconds timers.forceFlushTimeoutSecs + interval

omit [BlobBackend Inner] [SectorStore Inner] in
theorem observe_clean {after : TimedBuffer Inner} (clean : after.hasDirty = false) :
    (ticker.observe after).dirtySince = none := by
  rw [observe, clean]
  rfl

/-- Where no page is dirty, nothing is due. -/
theorem OnTime.clean (refines : ∃ reference, Refines buffer device reference ticker.timed.world)
    (awake : ticker.timed.now ≤ ticker.wakeAt + late) (asleep : ticker.wakeAt ≤ ticker.timed.now + interval)
    (none : ticker.dirtySince = none) (clean : ticker.timed.hasDirty = false)
    (flushed : ∀ flush, ticker.timed.lastFlush = some flush → flush ≤ ticker.timed.now) :
    OnTime buffer device timers interval late ticker where
  refines := refines
  awake := awake
  asleep := asleep
  since := by rw [none, clean]; rfl
  written := by simp [none]
  flushed flush found := ⟨flushed flush found, by simp [none]⟩
  idle := by simp [none]
  force := by simp [none]

theorem OnTime.observe {after : TimedBuffer Inner} (onTime : OnTime buffer device timers interval late ticker)
    (stamped : Stamped ticker.timed after) (refines : ∃ reference, Refines buffer device reference after.world) :
    OnTime buffer device timers interval late (ticker.observe after) := by
  have awake : after.now ≤ ticker.wakeAt + late := stamped.now ▸ onTime.awake
  have asleep : ticker.wakeAt ≤ after.now + interval := stamped.now ▸ onTime.asleep
  have flushed (flush : Nat) (found : after.lastFlush = some flush) : flush ≤ after.now := by
    rw [stamped.now]
    rcases stamped.flush with same | ⟨here, _⟩
    · exact (onTime.flushed flush (same ▸ found)).1
    · exact (Option.some.inj (here.symm.trans found)).ge
  cases dirty : after.hasDirty with
  | false => exact .clean refines awake asleep (observe_clean dirty) dirty flushed
  | true =>
      have same : after.lastFlush = ticker.timed.lastFlush := by
        rcases stamped.flush with same | ⟨_, clean⟩
        · exact same
        · exact absurd (dirty.symm.trans clean) (by decide)
      have observed : (ticker.observe after).dirtySince = some (ticker.dirtySince.getD after.now) := by
        rw [Ticker.observe, dirty]
        rfl
      cases before : ticker.dirtySince with
      | none =>
          have clean : ticker.timed.hasDirty = false := by
            rw [← onTime.since, before]
            rfl
          have write : after.lastWrite = some after.now := by
            rcases stamped.dirt dirty with was | written
            · exact absurd (was.symm.trans clean) (by decide)
            · rw [stamped.now]
              exact written
          rw [before] at observed
          constructor
          case refines => exact refines
          case awake => exact awake
          case asleep => exact asleep
          case since =>
            rw [observed]
            exact dirty.symm
          case written =>
            intro since found
            obtain rfl := Option.some.inj (observed.symm.trans found)
            exact ⟨after.now, write, le_rfl, le_rfl⟩
          case flushed =>
            intro flush found
            refine ⟨flushed flush found, fun since there => ?_⟩
            obtain rfl := Option.some.inj (observed.symm.trans there)
            exact flushed flush found
          case idle =>
            intro _ since last found there
            obtain rfl := Option.some.inj (write.symm.trans there)
            exact asleep.trans (by omega)
          case force =>
            intro _ since last found there
            obtain rfl := Option.some.inj (observed.symm.trans found)
            obtain rfl := Option.some.inj (write.symm.trans there)
            show ticker.wakeAt ≤ (if after.lastFlush.isSome then after.now else after.now) + _ + interval
            rw [ite_self]
            exact asleep.trans (by omega)
      | some first =>
          rw [before] at observed
          obtain ⟨write, wrote, early, late'⟩ := onTime.written first before
          constructor
          case refines => exact refines
          case awake => exact awake
          case asleep => exact asleep
          case since =>
            rw [observed]
            exact dirty.symm
          case written =>
            intro since found
            obtain rfl := Option.some.inj (observed.symm.trans found)
            show ∃ write, after.lastWrite = some write ∧ first ≤ write ∧ write ≤ after.now
            rw [stamped.now]
            rcases stamped.write with unchanged | now
            · exact ⟨write, unchanged.trans wrote, early, late'⟩
            · exact ⟨ticker.timed.now, now, early.trans late', le_rfl⟩
          case flushed =>
            intro flush found
            refine ⟨flushed flush found, fun since there => ?_⟩
            obtain rfl := Option.some.inj (observed.symm.trans there)
            exact (onTime.flushed flush (same ▸ found)).2 first before
          case idle =>
            intro set since last _ there
            rcases stamped.write with unchanged | now
            · exact onTime.idle set first last before (unchanged ▸ there)
            · obtain rfl := Option.some.inj (now.symm.trans there)
              exact onTime.asleep.trans (by omega)
          case force =>
            intro set since last found there
            obtain rfl := Option.some.inj (observed.symm.trans found)
            have bound := onTime.force set first write before wrote
            show ticker.wakeAt ≤ (if after.lastFlush.isSome then first else last) + _ + interval
            rw [same]
            rcases stamped.write with unchanged | now
            · obtain rfl := Option.some.inj (wrote.symm.trans (unchanged ▸ there))
              exact bound
            · obtain rfl := Option.some.inj (now.symm.trans there)
              split at bound
              · rename_i some
                rw [if_pos some]
                exact bound
              · rename_i none
                rw [if_neg none]
                exact onTime.asleep.trans (by omega)

/-- A task that flushes leaves no page dirty, and one that does not has found no timeout expired. -/
theorem background_cases {timed : TimedBuffer Inner} (tidy : BufferedBackend.Tidy buffer device timed.world)
    (done : (buffer.background timers timed).1 = .ok ()) :
    Stamped timed (buffer.background timers timed).2 ∧
      ((buffer.background timers timed).2.hasDirty = false ∨ (buffer.background timers timed).2 = timed ∧
        timed.idleTrigger timers = false ∧ timed.forceTrigger timers = false) := by
  obtain ⟨stamped, cleans⟩ := timedFlush_stamped tidy
  unfold background at done ⊢
  by_cases idle : timed.idleTrigger timers = true
  · rw [if_pos idle] at done ⊢
    exact ⟨stamped, .inl (cleans done)⟩
  · rw [if_neg idle] at done ⊢
    by_cases force : timed.forceTrigger timers = true
    · rw [if_pos force] at done ⊢
      exact ⟨stamped, .inl (cleans done)⟩
    · rw [if_neg force]
      exact ⟨.refl timed, .inr ⟨rfl, Bool.not_eq_true _ ▸ idle, Bool.not_eq_true _ ▸ force⟩⟩

omit [BlobBackend Inner] [SectorStore Inner] in
/-- A dirty page whose idle timeout is not over was written lately. -/
theorem idleTrigger_off {timed : TimedBuffer Inner} {write : Nat} (off : timed.idleTrigger timers = false)
    (dirty : timed.hasDirty = true) (set : 0 < timers.idleFlushSecs) (wrote : timed.lastWrite = some write) :
    timed.now < write + seconds timers.idleFlushSecs := by
  rw [TimedBuffer.idleTrigger, if_pos set, wrote] at off
  dsimp only at off
  rw [dirty, Bool.and_true, TimedBuffer.expired, decide_eq_false_iff_not] at off
  omega

omit [BlobBackend Inner] [SectorStore Inner] in
theorem forceTrigger_off {timed : TimedBuffer Inner} {write : Nat} (off : timed.forceTrigger timers = false)
    (dirty : timed.hasDirty = true) (set : 0 < timers.forceFlushTimeoutSecs) (wrote : timed.lastWrite = some write) :
    timed.now < timed.lastFlush.getD write + seconds timers.forceFlushTimeoutSecs := by
  rw [TimedBuffer.forceTrigger, if_pos set, wrote] at off
  cases flush : timed.lastFlush with
  | none =>
      rw [flush] at off
      dsimp only at off
      rw [dirty, Bool.and_true, TimedBuffer.expired, decide_eq_false_iff_not] at off
      rw [Option.getD_none]
      omega
  | some instant =>
      rw [flush] at off
      dsimp only at off
      rw [dirty, Bool.and_true, TimedBuffer.expired, decide_eq_false_iff_not] at off
      rw [Option.getD_some]
      omega

theorem OnTime.wake (onTime : OnTime buffer device timers interval late ticker)
    (done : (buffer.background timers ticker.timed).1 = .ok ()) :
    OnTime buffer device timers interval late
      ((ticker.observe (buffer.background timers ticker.timed).2).sleep (ticker.timed.now + interval)) := by
  obtain ⟨reference, refines⟩ := onTime.refines
  obtain ⟨stamped, outcome⟩ := background_cases refines.tidy done
  have after : ∃ reference, Refines buffer device reference (buffer.background timers ticker.timed).2.world := by
    have flushed : Refines buffer device reference (buffer.timedFlush ticker.timed).2.world := by
      rw [(timedFlush_erases buffer ticker.timed).2.1]
      exact refines.settled (flush_spec refines.tidy).1
    refine ⟨reference, ?_⟩
    rw [background]
    split
    · exact flushed
    · split
      · exact flushed
      · exact refines
  have observed := onTime.observe stamped after
  rcases outcome with clean | ⟨same, idleOff, forceOff⟩
  · apply OnTime.clean
    case refines => exact observed.refines
    case awake =>
      show (buffer.background timers ticker.timed).2.now ≤ ticker.timed.now + interval + late
      rw [stamped.now]
      omega
    case asleep =>
      show ticker.timed.now + interval ≤ (buffer.background timers ticker.timed).2.now + interval
      rw [stamped.now]
    case none => exact observe_clean clean
    case clean => exact clean
    case flushed => exact fun flush found => (observed.flushed flush found).1
  · rw [same] at observed ⊢
    constructor
    case refines => exact observed.refines
    case awake =>
      show ticker.timed.now ≤ ticker.timed.now + interval + late
      omega
    case asleep => exact le_rfl
    case since => exact observed.since
    case written => exact observed.written
    case flushed => exact observed.flushed
    case idle =>
      intro set since write found wrote
      have dirty : ticker.timed.hasDirty = true := by
        show (ticker.observe ticker.timed).timed.hasDirty = true
        rw [← observed.since, show (ticker.observe ticker.timed).dirtySince = some since from found]
        rfl
      have bound := idleTrigger_off idleOff dirty set wrote
      show ticker.timed.now + interval ≤ write + seconds timers.idleFlushSecs + interval
      omega
    case force =>
      intro set since write found wrote
      have dirty : ticker.timed.hasDirty = true := by
        show (ticker.observe ticker.timed).timed.hasDirty = true
        rw [← observed.since, show (ticker.observe ticker.timed).dirtySince = some since from found]
        rfl
      have bound := forceTrigger_off forceOff dirty set wrote
      show ticker.timed.now + interval ≤ (if ticker.timed.lastFlush.isSome then since else write) +
        seconds timers.forceFlushTimeoutSecs + interval
      cases flush : ticker.timed.lastFlush with
      | none =>
          rw [flush, Option.getD_none] at bound
          rw [if_neg (by simp)]
          omega
      | some instant =>
          rw [flush, Option.getD_some] at bound
          have early := (observed.flushed instant flush).2 since found
          rw [if_pos Option.isSome_some]
          omega

/-- A step keeps the task on time when what it flushes can be written. -/
theorem step_onTime {event : TickerEvent} {next : Ticker Inner} (spawned : timers.checkInterval = some interval)
    (onTime : OnTime buffer device timers interval late ticker) (allowed : writable buffer timers ticker event = true)
    (taken : step buffer timers late ticker event = some next) : OnTime buffer device timers interval late next := by
  cases event with
  | call request =>
      obtain rfl := Option.some.inj taken
      obtain ⟨reference, refines⟩ := onTime.refines
      obtain ⟨after, _, refinesAfter⟩ := perform_evolves refines request
      apply onTime.observe (timedPerform_stamped request refines.tidy)
      refine ⟨after, ?_⟩
      rw [(timedPerform_erases request ticker.timed).2.1]
      exact refinesAfter
  | pass span =>
      rw [step, spawned] at taken
      dsimp only at taken
      split at taken
      · rename_i bounded
        obtain rfl := Option.some.inj taken
        have later : ticker.timed.now ≤ (ticker.pass span).timed.now := Nat.le_add_right _ _
        constructor
        case refines => exact onTime.refines
        case awake => exact bounded
        case asleep => exact onTime.asleep.trans (Nat.add_le_add_right later interval)
        case since => exact onTime.since
        case written =>
          intro since found
          obtain ⟨write, wrote, early, before⟩ := onTime.written since found
          exact ⟨write, wrote, early, before.trans later⟩
        case flushed =>
          intro flush found
          exact ⟨(onTime.flushed flush found).1.trans later, (onTime.flushed flush found).2⟩
        case idle => exact onTime.idle
        case force => exact onTime.force
      · cases taken
  | wake =>
      rw [step, spawned] at taken
      dsimp only at taken
      split at taken
      · obtain rfl := Option.some.inj taken
        apply onTime.wake
        rw [writable] at allowed
        cases answer : (buffer.background timers ticker.timed).1 with
        | ok value => rfl
        | error error =>
            rw [answer] at allowed
            cases allowed
      · cases taken

/-- In every run whose background flushes succeed, either the inner store holds what the device shows, or a page has
    been dirty for a bounded time: since the last write when the device goes idle, and since it turned dirty once a
    flush has succeeded; before the first flush, the longer timeout too counts from the last write. -/
theorem background_flush_bounds (buffer : BufferedBackend) (timers : FlushTimers) (inner : Inner)
    (valid : SectorStore.valid inner) (clock now late interval : Nat) (spawned : timers.checkInterval = some interval)
    (events : List TickerEvent) (final : Ticker Inner)
    (allowed : along (step buffer timers late) (writable buffer timers) (start timers inner clock now) events = true)
    (run : execute (step buffer timers late) (start timers inner clock now) events = some final) :
    (final.dirtySince = none ∧ AgreeOn 0 (SectorStore.size inner) (SectorStore.content final.timed.world.inner)
        (buffer.contents final.timed.world)) ∨
      ∃ since write, final.dirtySince = some since ∧ final.timed.lastWrite = some write ∧ since ≤ write ∧
        (0 < timers.idleFlushSecs → final.timed.now ≤ write + seconds timers.idleFlushSecs + interval + late) ∧
        (0 < timers.forceFlushTimeoutSecs → final.timed.now ≤ (if final.timed.lastFlush.isSome then since else write) +
          seconds timers.forceFlushTimeoutSecs + interval + late) := by
  have onTime : OnTime buffer (SectorStore.size inner) timers interval late final := by
    refine execute_invariant ?_ ?_ allowed run
    · intro ticker event next before condition taken
      exact step_onTime spawned before condition taken
    · apply OnTime.clean ⟨_, start_refines buffer inner clock valid⟩
      case awake =>
        show now ≤ now + timers.checkInterval.getD 0 + late
        omega
      case asleep =>
        show now + timers.checkInterval.getD 0 ≤ now + interval
        rw [spawned, Option.getD_some]
      case none => rfl
      case clean => exact hasDirty_eq_false.mpr rfl
      case flushed =>
        intro flush found
        cases found
  cases since : final.dirtySince with
  | none =>
      refine .inl ⟨rfl, ?_⟩
      have clean : final.timed.hasDirty = false := by
        rw [← onTime.since, since]
        rfl
      rw [hasDirty_eq_false] at clean
      obtain ⟨reference, refines⟩ := onTime.refines
      intro x _ inside
      rw [contents]
      cases present : final.timed.world.state.pages.find? (x / buffer.config.pageSize) with
      | none => rfl
      | some found =>
          refine (refines.tidy.clean _ found present ?_ x inside rfl).symm
          by_contra dirty
          rw [Bool.not_eq_false] at dirty
          have listed := BufferState.mem_dirty.mpr ⟨found, present, dirty⟩
          rw [clean] at listed
          cases listed
  | some first =>
      obtain ⟨write, wrote, early, _⟩ := onTime.written first since
      refine .inr ⟨first, write, rfl, wrote, early, fun set => ?_, fun set => ?_⟩
      · exact onTime.awake.trans (Nat.add_le_add_right (onTime.idle set first write since wrote) late)
      · exact onTime.awake.trans (Nat.add_le_add_right (onTime.force set first write since wrote) late)

/-- One write, and three looks at the buffer. -/
def quietEvents : List TickerEvent :=
  [.call (.write 0 (List.replicate 512 7)), .pass (seconds 7), .wake, .pass (seconds 7), .wake, .pass (seconds 7), .wake]

/-- The device is idle for long enough at the third look. -/
theorem background_flush_bounds_quiet :
    ∃ final, execute (step narrowBuffer FlushTimers.default 0)
        (start FlushTimers.default (⟨512, fun _ => 0⟩ : MemBackend) 0 0) quietEvents = some final ∧
      AgreeOn 0 512 (SectorStore.content final.timed.world.inner) (narrowBuffer.contents final.timed.world) := by
  have clean : (execute (step narrowBuffer FlushTimers.default 0)
      (start FlushTimers.default (⟨512, fun _ => 0⟩ : MemBackend) 0 0) quietEvents).any
      (fun final => final.dirtySince = none) = true := by decide +kernel
  rw [Option.any_eq_true] at clean
  obtain ⟨final, run, none⟩ := clean
  refine ⟨final, run, ?_⟩
  rcases background_flush_bounds narrowBuffer FlushTimers.default (⟨512, fun _ => 0⟩ : MemBackend)
    (show 512 % 512 = 0 ∧ 512 < 2 ^ 64 by decide) 0 0 0 (seconds 7) rfl quietEvents final (by decide +kernel) run with
    ⟨_, agree⟩ | ⟨since, _, found, _⟩
  · exact agree
  · rw [of_decide_eq_true none] at found
    cases found

section Starvation

variable {buffer : BufferedBackend} {contents : Store} {timers : FlushTimers} {interval : Nat}

/-- The page is written, and the task looks after the time it sleeps. -/
def rewriteRound (data : List UInt8) (interval : Nat) : List TickerEvent := [.call (.write 0 data), .pass interval, .wake]

/-- No flush was made: the store is as it was, and the page is dirty since the first round. -/
structure Starved (buffer : BufferedBackend) (contents : Store) (interval rounds : Nat) (ticker : Ticker MemBackend) :
    Prop where
  now : ticker.timed.now = rounds * interval
  asleep : ticker.wakeAt = ticker.timed.now + interval
  flush : ticker.timed.lastFlush = none
  inner : ticker.timed.world.inner = ⟨buffer.config.pageSize, contents⟩
  page : rounds = 0 ∧ ticker.timed.world.state = .empty ∧ ticker.dirtySince = none ∨
    0 < rounds ∧ Soaked buffer ticker.timed.world ∧ ticker.dirtySince = some 0

theorem Starved.round {rounds : Nat} {data : List UInt8} {ticker : Ticker MemBackend}
    (spawned : timers.checkInterval = some interval)
    (idleLate : 0 < timers.idleFlushSecs → interval < seconds timers.idleFlushSecs)
    (forceLate : interval < seconds timers.forceFlushTimeoutSecs) (length : data.length = buffer.config.pageSize)
    (bounded : buffer.config.pageSize < 2 ^ 64) (starved : Starved buffer contents interval rounds ticker) :
    ∃ next, execute (step buffer timers 0) ticker (rewriteRound data interval) = some next ∧
      Starved buffer contents interval (rounds + 1) next := by
  have known : ticker.timed.world.state.devSize = 0 ∨ ticker.timed.world.state.devSize = buffer.config.pageSize := by
    rcases starved.page with ⟨_, empty, _⟩ | ⟨_, ⟨page, _, _, known⟩, _⟩
    · left
      rw [empty]
      rfl
    · exact .inr known
  have alone : ticker.timed.world.state.pages.entries = [] ∨
      ∃ page : Page, ticker.timed.world.state.pages.entries = [(0, page)] := by
    rcases starved.page with ⟨_, empty, _⟩ | ⟨_, ⟨page, entries, _, _⟩, _⟩
    · left
      rw [empty]
      rfl
    · exact .inr ⟨page, entries⟩
  have first : ticker.dirtySince.getD ticker.timed.now = 0 := by
    rcases starved.page with ⟨none, _, since⟩ | ⟨_, _, since⟩
    · rw [since, Option.getD_none, starved.now, none, Nat.zero_mul]
    · rw [since, Option.getD_some]
  obtain ⟨world, wrote, inner, soaked⟩ := timedWrite_soaks length bounded starved.inner known alone
  have dirty (timed : TimedBuffer MemBackend) (same : timed.world = world) : timed.hasDirty = true := by
    obtain ⟨page, entries, dirty, _⟩ := soaked
    rw [TimedBuffer.hasDirty, same, BufferState.dirtyIndices, entries]
    simp [dirty]
  set written : TimedBuffer MemBackend := { ticker.timed with world, lastWrite := some ticker.timed.now } with writtenEq
  set later : TimedBuffer MemBackend := { written with now := ticker.timed.now + interval } with laterEq
  have called : step buffer timers 0 ticker (.call (.write 0 data)) = some ⟨written, ticker.wakeAt, some 0⟩ := by
    rw [step, wrote, observe, dirty written rfl, if_pos rfl]
    show some (⟨written, ticker.wakeAt, some (ticker.dirtySince.getD ticker.timed.now)⟩ : Ticker MemBackend) = _
    rw [first]
  have passed : step buffer timers 0 ⟨written, ticker.wakeAt, some 0⟩ (.pass interval) =
      some ⟨later, ticker.wakeAt, some 0⟩ := by
    rw [step, spawned]
    dsimp only
    rw [if_pos]
    · rfl
    · show ticker.timed.now + interval ≤ ticker.wakeAt + 0
      rw [starved.asleep]
      exact le_rfl
  have idleOff : later.idleTrigger timers = false := by
    rw [TimedBuffer.idleTrigger]
    split
    · rename_i set
      show (TimedBuffer.expired later timers.idleFlushSecs ticker.timed.now && later.hasDirty) = false
      rw [TimedBuffer.expired, decide_eq_false, Bool.false_and]
      show ¬ seconds timers.idleFlushSecs ≤ ticker.timed.now + interval - ticker.timed.now
      have late := idleLate set
      omega
    · rfl
  have forceOff : later.forceTrigger timers = false := by
    rw [TimedBuffer.forceTrigger]
    split
    · rw [show later.lastFlush = none from starved.flush]
      show (TimedBuffer.expired later timers.forceFlushTimeoutSecs ticker.timed.now && later.hasDirty) = false
      rw [TimedBuffer.expired, decide_eq_false, Bool.false_and]
      show ¬ seconds timers.forceFlushTimeoutSecs ≤ ticker.timed.now + interval - ticker.timed.now
      omega
    · rfl
  have woke : step buffer timers 0 ⟨later, ticker.wakeAt, some 0⟩ .wake =
      some ⟨later, ticker.timed.now + interval + interval, some 0⟩ := by
    have quiet : buffer.background timers later = (.ok (), later) := by
      rw [background, if_neg (by rw [idleOff]; decide), if_neg (by rw [forceOff]; decide)]
    rw [step, spawned]
    dsimp only
    rw [if_pos (le_of_eq starved.asleep), quiet, observe, dirty later rfl, if_pos rfl]
    rfl
  refine ⟨⟨later, ticker.timed.now + interval + interval, some 0⟩, ?_, ?_⟩
  · rw [rewriteRound, execute, called, Option.bind_some, execute, passed, Option.bind_some, execute, woke]
    rfl
  · constructor
    case now =>
      show ticker.timed.now + interval = (rounds + 1) * interval
      rw [starved.now, Nat.add_mul, Nat.one_mul]
    case asleep => rfl
    case flush => exact starved.flush
    case inner => exact inner
    case page => exact .inr ⟨Nat.succ_pos rounds, soaked, rfl⟩

/-- Before the first flush, a page that is written anew each time before the task looks is never flushed. -/
theorem force_flush_starves (buffer : BufferedBackend) (timers : FlushTimers) (interval : Nat)
    (spawned : timers.checkInterval = some interval)
    (idleLate : 0 < timers.idleFlushSecs → interval < seconds timers.idleFlushSecs)
    (forceLate : interval < seconds timers.forceFlushTimeoutSecs) (data : List UInt8)
    (length : data.length = buffer.config.pageSize) (bounded : buffer.config.pageSize < 2 ^ 64) (contents : Store)
    (clock rounds : Nat) :
    ∃ final, execute (step buffer timers 0)
        (start timers (⟨buffer.config.pageSize, contents⟩ : MemBackend) clock 0)
        (List.replicate rounds (rewriteRound data interval)).flatten = some final ∧
      final.timed.now = rounds * interval ∧ final.timed.lastFlush = none ∧
      final.timed.world.inner = ⟨buffer.config.pageSize, contents⟩ ∧ (0 < rounds → final.dirtySince = some 0) := by
  suffices goes : ∀ before ticker, Starved buffer contents interval before ticker →
      ∃ final, execute (step buffer timers 0) ticker (List.replicate rounds (rewriteRound data interval)).flatten =
        some final ∧ Starved buffer contents interval (before + rounds) final by
    have begins : Starved buffer contents interval 0
        (start timers (⟨buffer.config.pageSize, contents⟩ : MemBackend) clock 0) := by
      constructor
      case now => exact (Nat.zero_mul interval).symm
      case asleep =>
        show 0 + timers.checkInterval.getD 0 = 0 + interval
        rw [spawned, Option.getD_some]
      case flush => rfl
      case inner => rfl
      case page => exact .inl ⟨rfl, rfl, rfl⟩
    obtain ⟨final, run, starved⟩ := goes 0 _ begins
    rw [Nat.zero_add] at starved
    refine ⟨final, run, starved.now, starved.flush, starved.inner, fun some => ?_⟩
    rcases starved.page with ⟨none, _, _⟩ | ⟨_, _, since⟩
    · omega
    · exact since
  induction rounds with
  | zero =>
      intro before ticker starved
      exact ⟨ticker, rfl, starved⟩
  | succ rounds inductionHypothesis =>
      intro before ticker starved
      obtain ⟨next, round, starvedNext⟩ := starved.round spawned idleLate forceLate length bounded
      obtain ⟨final, run, last⟩ := inductionHypothesis (before + 1) next starvedNext
      refine ⟨final, ?_, ?_⟩
      · rw [List.replicate_succ, List.flatten_cons, execute_append, round]
        exact run
      · rwa [Nat.add_assoc, Nat.add_comm 1 rounds] at last

/-- The default timeouts look each seven seconds. -/
theorem force_flush_starves_default :
    ∃ buffer final, new ⟨512, 1, 0, 0⟩ steadyExecutor = .ok buffer ∧
      execute (step buffer FlushTimers.default 0)
        (start FlushTimers.default (⟨buffer.config.pageSize, fun _ => 0⟩ : MemBackend) 0 0)
        (List.replicate 1000 (rewriteRound (List.replicate 512 7) (seconds 7))).flatten = some final ∧
      final.timed.now = 1000 * seconds 7 ∧ final.timed.lastFlush = none ∧ final.dirtySince = some 0 := by
  obtain ⟨final, run, now, flush, _, since⟩ := force_flush_starves ⟨⟨512, 1, 0, 0⟩, by decide, by decide, by decide,
    .inl rfl, steadyExecutor⟩ FlushTimers.default (seconds 7) rfl (fun _ => by decide +kernel) (by decide +kernel)
    (List.replicate 512 7) List.length_replicate (by decide) (fun _ => 0) 0 1000
  exact ⟨_, final, rfl, run, now, flush, since (by decide)⟩

end Starvation
end Ticker
end UblkAzblob

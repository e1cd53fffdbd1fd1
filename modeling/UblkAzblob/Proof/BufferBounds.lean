import UblkAzblob.Construction.BufferedConcurrent
import UblkAzblob.Proof.BufferState

namespace UblkAzblob
namespace BufferedBackend
open Storage

section Phases

variable {Inner : Type}

/-- An upload that is not done is one of a dirty page, and it has taken the current bytes of its page. -/
def UploadReady (state : BufferState) (page : Nat) : WritePhase → Prop
  | .waiting => page ∈ state.dirtyIndices
  | .writing seq _ _ => ∃ found, state.pages.find? page = some found ∧ found.dirty = true ∧ found.seq = seq
  | .written seq => ∃ found, state.pages.find? page = some found ∧ found.dirty = true ∧ found.seq = seq
  | .done _ => False

/-- Between its lock sections a call leaves one dirty page too many only while it is about to upload one. -/
def Within (config : BufferedConfig) (state : BufferState) (call : BufferCall) : Prop :=
  match call.phase with
  | .loaded bytes => bytes.length = config.pageSize ∧ state.dirtyCount ≤ config.maxDirtyPages
  | .limiting => state.dirtyCount ≤ config.maxDirtyPages + 1
  | .flushing uploads => state.dirtyCount ≤ config.maxDirtyPages ∨
      state.dirtyCount = config.maxDirtyPages + 1 ∧
        ∃ page phase, uploads = [(page, phase)] ∧ UploadReady state page phase
  | _ => state.dirtyCount ≤ config.maxDirtyPages

/-- What holds whenever the lock is free while one call runs. -/
structure Served (buffer : BufferedBackend) (world : BufferWorld Inner) (call : BufferCall) : Prop where
  shelved : BufferState.Shelved buffer.config.pageSize world.state
  resident : world.state.residentCount ≤ buffer.config.maxCachedPages + 1
  within : Within buffer.config world.state call
  pieces : ∀ chunk ∈ call.pieces, chunk.pageOffset + chunk.len ≤ buffer.config.pageSize

variable {buffer : BufferedBackend} {world : BufferWorld Inner} {call : BufferCall}

/-- A call that holds nothing needs only that the dirty pages fit. -/
theorem Served.plain {other : BufferCall} (served : Served buffer world call)
    (fits : world.state.dirtyCount ≤ buffer.config.maxDirtyPages) (pieces : ∀ chunk ∈ other.pieces, chunk ∈ call.pieces)
    (light : Within buffer.config world.state other ↔ world.state.dirtyCount ≤ buffer.config.maxDirtyPages) :
    Served buffer world other :=
  ⟨served.shelved, served.resident, light.mpr fits, fun chunk member => served.pieces chunk (pieces chunk member)⟩

theorem Within.dirty {config : BufferedConfig} {state : BufferState} (within : Within config state call) :
    state.dirtyCount ≤ config.maxDirtyPages + 1 := by
  unfold Within at within
  split at within
  · exact within.2.trans (Nat.le_succ _)
  · exact within
  · rcases within with fits | ⟨full, _⟩
    · exact fits.trans (Nat.le_succ _)
    · exact full.le
  · exact within.trans (Nat.le_succ _)

theorem within_goOn (config : BufferedConfig) (state : BufferState) (call : BufferCall) (rest : List Chunk)
    (output : List UInt8) : Within config state (call.goOn rest output) ↔ state.dirtyCount ≤ config.maxDirtyPages := by
  unfold BufferCall.goOn Within
  by_cases done : rest = []
  · simp [done]
  · simp [done]

end Phases

section Steps

variable {Inner : Type} {buffer : BufferedBackend} {world : BufferWorld Inner} {call : BufferCall}

/-- The answer of an inner call changes no page. -/
theorem Served.framed {after : BufferWorld Inner} (served : Served buffer world call) (same : after.state = world.state) :
    Served buffer after call := by
  obtain ⟨shelved, resident, within, pieces⟩ := served
  exact ⟨same ▸ shelved, same ▸ resident, same ▸ within, pieces⟩

theorem openRange_served (served : Served buffer world call)
    (fits : world.state.dirtyCount ≤ buffer.config.maxDirtyPages) (op : String) (offset len devSize : Nat) :
    Served buffer (buffer.openRange call op offset len devSize world).2
      (buffer.openRange call op offset len devSize world).1 := by
  unfold openRange
  split
  · exact served.plain fits (fun _ member => member) Iff.rfl
  · have positive := buffer.positive
    exact ⟨served.shelved, served.resident, (within_goOn ..).mpr fits, fun chunk member =>
      ((chunks_tiles buffer.config.pageSize offset len (by omega)).bounds member).2.1⟩

theorem enter_served [BlobBackend Inner] (served : Served buffer world call)
    (fits : world.state.dirtyCount ≤ buffer.config.maxDirtyPages) :
    Served buffer (buffer.enter call world).2 (buffer.enter call world).1 := by
  unfold enter
  split
  · exact served.plain fits (fun _ member => member) Iff.rfl
  · split
    · exact served.plain fits (fun chunk member => (by cases member)) (within_goOn ..)
    · split
      · exact served.plain fits (fun _ member => member) Iff.rfl
      · split
        · exact openRange_served served fits _ _ _ _
        · split
          · rename_i error after asked
            have same : after.state = world.state := (congrArg (fun outcome => outcome.2.state) asked).symm
            exact (served.framed same).plain (same ▸ fits) (fun _ member => member) Iff.rfl
          · rename_i size after asked
            have same : after.state = world.state := (congrArg (fun outcome => outcome.2.state) asked).symm
            exact (served.framed same).plain (same ▸ fits) (fun _ member => member) Iff.rfl

theorem learnSize_served (served : Served buffer world call)
    (fits : world.state.dirtyCount ≤ buffer.config.maxDirtyPages) {size : Nat} (sized : call.phase = .sized size) :
    Served buffer (buffer.learnSize call size world).2 (buffer.learnSize call size world).1 := by
  unfold learnSize
  dsimp only
  have known : Served buffer (world.update fun state => if state.devSize = 0 then { state with devSize := size } else state)
      call ∧ (world.update fun state => if state.devSize = 0 then { state with devSize := size } else
        state).state.dirtyCount ≤ buffer.config.maxDirtyPages := by
    unfold BufferWorld.update
    dsimp only
    split
    · refine ⟨⟨⟨served.shelved.whole, served.shelved.lru⟩, served.resident, ?_, served.pieces⟩, fits⟩
      rw [Within, sized]
      exact fits
    · exact ⟨served, fits⟩
  split
  · exact served
  · exact openRange_served known.1 known.2 _ _ _ _

/-- A chunk is copied out of its page, or patched into it and then one more page may be dirty. -/
theorem applyChunk_served {chunk : Chunk} {rest : List Chunk} (served : Served buffer world call)
    (fits : world.state.dirtyCount ≤ buffer.config.maxDirtyPages) (pieces : call.pieces = chunk :: rest) :
    Served buffer (buffer.applyChunk call chunk rest world).2 (buffer.applyChunk call chunk rest world).1 := by
  have later : ∀ piece ∈ rest, piece.pageOffset + piece.len ≤ buffer.config.pageSize := fun piece member =>
    served.pieces piece (by rw [pieces]; exact List.mem_cons_of_mem _ member)
  have own : chunk.pageOffset + chunk.len ≤ buffer.config.pageSize :=
    served.pieces chunk (by rw [pieces]; exact List.mem_cons_self)
  unfold applyChunk
  split
  · split
    · exact served.plain fits (fun _ member => member) Iff.rfl
    · rename_i bytes state copied
      obtain ⟨shelved, trimmed⟩ := BufferState.copyOut_trimmed served.shelved copied
      exact ⟨shelved, trimmed.resident.trans served.resident, (within_goOn ..).mpr (trimmed.dirty.trans_le fits), later⟩
  · split
    · exact served.plain fits (fun _ member => member) Iff.rfl
    · rename_i applied
      obtain ⟨shelved, patched⟩ := BufferState.applyPatch_patched served.shelved
        ((Nat.add_le_add_left (List.length_take_le _ _) _).trans own) applied
      exact ⟨shelved, patched.resident.trans_le served.resident, patched.dirty.trans (Nat.succ_le_succ fits),
        served.pieces⟩

/-- A victim is flushed as soon as there is one dirty page too many. -/
theorem limiting_served (rest : List Chunk) (served : Served buffer world call)
    (limiting : call.phase = .limiting) (later : ∀ chunk ∈ rest, chunk ∈ call.pieces) :
    Served buffer world (if world.state.victims buffer.config = [] then call.goOn rest call.output
      else { call with phase := .flushing ((world.state.victims buffer.config).map fun page => (page, .waiting)) }) := by
  obtain ⟨_, dirty, count⟩ := BufferState.victims_spec buffer.config world.state
  have near : world.state.dirtyCount ≤ buffer.config.maxDirtyPages + 1 := by
    have within := served.within
    rw [Within, limiting] at within
    exact within
  split
  · rename_i none
    rw [none, List.length_nil] at count
    exact served.plain (by omega) later (within_goOn ..)
  · rename_i above
    obtain ⟨page, rest, victims⟩ := List.exists_cons_of_ne_nil above
    rw [victims, List.length_cons] at count
    obtain rfl : rest = [] := List.eq_nil_of_length_eq_zero (by omega)
    rw [victims] at dirty ⊢
    exact ⟨served.shelved, served.resident, .inr ⟨by rw [List.length_nil] at count; omega, page, .waiting, rfl,
      dirty page List.mem_cons_self⟩, served.pieces⟩

variable [BlobBackend Inner]

theorem chunkTurn_served {chunk : Chunk} {rest : List Chunk}
    (enough : buffer.config.maxDirtyPages ≤ buffer.config.maxCachedPages) (limited : buffer.config.maxCachedPages ≠ 0) (served : Served buffer world call) (pieces : call.pieces = chunk :: rest) :
    Served buffer (buffer.chunkTurn call chunk rest world).2 (buffer.chunkTurn call chunk rest world).1 := by
  have within := served.within
  unfold Within at within
  unfold chunkTurn
  split
  · rename_i checking
    rw [checking] at within
    by_cases present : world.state.pages.contains chunk.page = true
    · rw [if_pos present]
      exact served.plain within (fun _ member => member) Iff.rfl
    · rw [if_neg present]
      exact served.plain within (fun _ member => member) Iff.rfl
  · rename_i loading
    rw [loading] at within
    obtain ⟨same, whole⟩ := loadPage_whole buffer chunk.page call.devSize world
    split
    · rename_i error after loaded
      rw [loaded] at same
      exact (served.framed same).plain (same ▸ within) (fun _ member => member) Iff.rfl
    · rename_i bytes after loaded
      rw [loaded] at same
      dsimp only at same
      exact ⟨same ▸ served.shelved, same ▸ served.resident, ⟨whole bytes after loaded, same ▸ within⟩, served.pieces⟩
  · rename_i bytes loaded
    rw [loaded] at within
    obtain ⟨length, fits⟩ := within
    have inserted : BufferState.Loaded buffer.config chunk.page world.state
        (world.state.insertLoaded buffer.config chunk.page bytes) :=
      BufferState.insertLoaded_loaded served.shelved length
    refine ⟨inserted.shelved, ?_, inserted.dirty.trans_le fits, served.pieces⟩
    rcases inserted.bounded limited with bound | bound
    · refine bound.trans (Nat.max_le.mpr ⟨Nat.le_succ _, Nat.succ_le_succ (fits.trans enough)⟩)
    · exact bound.trans served.resident
  · rename_i applying
    rw [applying] at within
    exact applyChunk_served served within pieces
  · rename_i limiting
    have limited := limiting_served rest served limiting fun chunk member => by
      rw [pieces]
      exact List.mem_cons_of_mem _ member
    dsimp only
    split at limited
    · rename_i none
      rw [if_pos none]
      exact limited
    · rename_i victims
      rw [if_neg victims]
      exact limited
  · exact served

/-- A flush that ends has left no dirty page too many. -/
theorem settle_served {uploads : List (Nat × WritePhase)} (served : Served buffer world call)
    (flushing : call.phase = .flushing uploads) :
    Served buffer (buffer.settle call uploads world).2 (buffer.settle call uploads world).1 := by
  have within := served.within
  rw [Within, flushing] at within
  unfold settle
  split
  · rename_i error failed
    have fits : world.state.dirtyCount ≤ buffer.config.maxDirtyPages := by
      rcases within with fits | ⟨_, page, phase, rfl, ready⟩
      · exact fits
      · cases phase with
        | done result => exact ready.elim
        | _ => cases failed
    have same := dropWrites_state buffer uploads world
    exact (served.framed same).plain (same ▸ fits) (fun _ member => member) Iff.rfl
  · split
    · rename_i finished
      have fits : world.state.dirtyCount ≤ buffer.config.maxDirtyPages := by
        rcases within with fits | ⟨_, page, phase, rfl, ready⟩
        · exact fits
        · cases phase with
          | done result => exact ready.elim
          | _ => cases finished
      split
      · exact served.plain fits (fun _ member => member) Iff.rfl
      · exact served.plain fits (fun _ member => List.mem_of_mem_drop member) (within_goOn ..)
    · exact served

/-- Every step of the running call keeps what holds whenever the lock is free. -/
theorem advance_served (enough : buffer.config.maxDirtyPages ≤ buffer.config.maxCachedPages)
    (limited : buffer.config.maxCachedPages ≠ 0) (served : Served buffer world call) :
    Served buffer (buffer.advance call world).2 (buffer.advance call world).1 := by
  have within := served.within
  unfold Within at within
  unfold advance
  split
  · rename_i entering
    rw [entering] at within
    exact enter_served served within
  · rename_i size sized
    rw [sized] at within
    exact learnSize_served served within sized
  · rename_i collecting
    rw [collecting] at within
    dsimp only
    by_cases clean : world.state.dirtyIndices = []
    · rw [if_pos clean]
      exact served.plain within (fun _ member => member) Iff.rfl
    · rw [if_neg clean]
      exact ⟨served.shelved, served.resident, .inl within, served.pieces⟩
  · rename_i uploads flushing
    exact settle_served served flushing
  · rename_i syncing
    rw [syncing] at within
    split
    · rename_i error after asked
      have same : after.state = world.state := (congrArg (fun outcome => outcome.2.state) asked).symm
      exact (served.framed same).plain (same ▸ within) (fun _ member => member) Iff.rfl
    · rename_i after asked
      have same : after.state = world.state := (congrArg (fun outcome => outcome.2.state) asked).symm
      exact (served.framed same).plain (same ▸ within) (fun _ member => (by cases member)) (within_goOn ..)
  · exact served
  · split
    · exact served
    · rename_i chunk rest pieces
      exact chunkTurn_served enough limited served pieces

/-- An upload that succeeds leaves its page dirty until it turns the page clean. -/
theorem flushIndex_served {uploads : List (Nat × WritePhase)} {slot page : Nat} {phase : WritePhase}
    (served : Served buffer world call) (flushing : call.phase = .flushing uploads)
    (found : uploads[slot]? = some (page, phase)) (succeeds : (buffer.flushIndex page phase world).1.error? = none) :
    Served buffer (buffer.flushIndex page phase world).2
      { call with phase := .flushing (uploads.set slot (page, (buffer.flushIndex page phase world).1)) } := by
  have within := served.within
  rw [Within, flushing] at within
  have cleaned (seq : Nat) : BufferState.Shelved buffer.config.pageSize (world.state.markClean page seq) ∧
      BufferState.Cleaned page seq world.state (world.state.markClean page seq) :=
    BufferState.markClean_cleaned served.shelved
  have shape : BufferState.Shelved buffer.config.pageSize (buffer.flushIndex page phase world).2.state ∧
      (buffer.flushIndex page phase world).2.state.residentCount = world.state.residentCount ∧
      (buffer.flushIndex page phase world).2.state.dirtyCount ≤ world.state.dirtyCount := by
    cases phase with
    | waiting =>
        simp only [flushIndex]
        split
        · exact ⟨served.shelved, rfl, le_rfl⟩
        · split
          · exact ⟨served.shelved, rfl, le_rfl⟩
          · exact ⟨served.shelved, rfl, le_rfl⟩
    | writing seq offset bytes =>
        simp only [flushIndex, Action.withContext, BufferWorld.callInner]
        cases (BlobBackend.write offset bytes world.inner).1 with
        | error error => exact ⟨served.shelved, rfl, le_rfl⟩
        | ok value => exact ⟨served.shelved, rfl, le_rfl⟩
    | written seq => exact ⟨(cleaned seq).1, (cleaned seq).2.resident, (cleaned seq).2.dirty⟩
    | done result => exact ⟨served.shelved, rfl, le_rfl⟩
  obtain ⟨shelved, resident, fewer⟩ := shape
  refine ⟨shelved, resident.trans_le served.resident, ?_, served.pieces⟩
  rcases within with fits | ⟨full, own, underway, rfl, ready⟩
  · exact .inl (fewer.trans fits)
  · obtain rfl : slot = 0 := by
      by_contra other
      rw [List.getElem?_eq_none (by rw [List.length_singleton]; omega)] at found
      cases found
    obtain ⟨rfl, rfl⟩ := Prod.mk.inj (Option.some.inj found)
    cases underway with
    | waiting =>
        obtain ⟨resident, present, dirty⟩ := BufferState.mem_dirty.mp ready
        obtain ⟨offset, bytes, taken⟩ := BufferState.snapshot_dirty buffer.config present dirty
        simp only [flushIndex, taken]
        split
        · exact .inr ⟨full, own, _, rfl, resident, present, dirty, rfl⟩
        · exact .inr ⟨full, own, _, rfl, resident, present, dirty, rfl⟩
    | writing seq offset bytes =>
        simp only [flushIndex, Action.withContext, BufferWorld.callInner] at succeeds ⊢
        cases answer : (BlobBackend.write offset bytes world.inner).1 with
        | error error =>
            rw [answer] at succeeds
            cases succeeds
        | ok value => exact .inr ⟨full, own, .written seq, rfl, ready⟩
    | written seq =>
        obtain ⟨resident, present, dirty, same⟩ := ready
        have one := (cleaned seq).2.counted resident present dirty same
        exact .inl (by
          change (world.state.markClean own seq).dirtyCount ≤ buffer.config.maxDirtyPages
          omega)
    | done result => exact ready.elim

end Steps

section Runs

variable {Inner : Type} {buffer : BufferedBackend} {sys next : BufferSystem Inner}

/-- Every call but the running one has returned, and no dirty page is too many when all have. -/
structure Bounded (buffer : BufferedBackend) (sys : BufferSystem Inner) : Prop where
  shelved : BufferState.Shelved buffer.config.pageSize sys.world.state
  resident : sys.world.state.residentCount ≤ buffer.config.maxCachedPages + 1
  settled : sys.idle = true → sys.world.state.dirtyCount ≤ buffer.config.maxDirtyPages
  running : ∀ call ∈ sys.calls, call.isDone = false → Served buffer sys.world call
  alone : ∀ (first second : Nat) (call other : BufferCall), sys.calls[first]? = some call →
    sys.calls[second]? = some other → call.isDone = false → other.isDone = false → first = second

/-- A step of the running call keeps the bounds. -/
theorem Bounded.moved {index : Nat} {call after : BufferCall} {world : BufferWorld Inner} (bounded : Bounded buffer sys)
    (found : sys.calls[index]? = some call) (active : call.isDone = false) (served : Served buffer world after) :
    Bounded buffer ⟨world, sys.calls.set index after⟩ := by
  have inside : index < sys.calls.length := (List.getElem?_eq_some_iff.mp found).1
  have others (position : Nat) (other : BufferCall) (there : (sys.calls.set index after)[position]? = some other)
      (different : position ≠ index) : other.isDone = true := by
    rw [List.getElem?_set_ne different.symm] at there
    by_contra running
    exact different (bounded.alone position index other call there found (by simpa using running) active)
  refine ⟨served.shelved, served.resident, fun idle => ?_, fun other member running => ?_, ?_⟩
  · have done := List.all_eq_true.mp idle after (List.mem_set inside _)
    have within := served.within
    unfold Within at within
    unfold BufferCall.isDone at done
    split at done
    · rename_i result returned
      rw [returned] at within
      exact within
    · cases done
  · obtain ⟨position, there⟩ := List.mem_iff_getElem?.mp member
    by_cases same : position = index
    · subst same
      rw [List.getElem?_set_self inside] at there
      obtain rfl := Option.some.inj there
      exact served
    · rw [others position other there same] at running
      cases running
  · intro first second one other thereFirst thereSecond runsFirst runsSecond
    have own (position : Nat) (runner : BufferCall) (there : (sys.calls.set index after)[position]? = some runner)
        (runs : runner.isDone = false) : position = index := by
      by_contra different
      rw [others position runner there different] at runs
      cases runs
    rw [own first one thereFirst runsFirst, own second other thereSecond runsSecond]

theorem start_bounded (buffer : BufferedBackend) (inner : Inner) (clock : Nat) :
    Bounded buffer (BufferSystem.start inner clock) where
  shelved := BufferState.empty_shelved _
  resident := Nat.zero_le _
  settled _ := Nat.zero_le _
  running _ member := by cases member
  alone first second call other found := by cases found

/-- A call is only issued when the calls before it have returned. -/
theorem Bounded.issued (bounded : Bounded buffer sys) (idle : sys.idle = true) (request : BlobRequest) :
    Bounded buffer { sys with calls := sys.calls ++ [.issued request] } := by
  have done (call : BufferCall) (member : call ∈ sys.calls) : call.isDone = true := List.all_eq_true.mp idle call member
  have last (position : Nat) (call : BufferCall) (there : (sys.calls ++ [.issued request])[position]? = some call)
      (runs : call.isDone = false) : position = sys.calls.length := by
    have inside := (List.getElem?_eq_some_iff.mp there).1
    rw [List.length_append, List.length_singleton] at inside
    by_contra different
    rw [List.getElem?_append_left (by omega)] at there
    rw [done call (List.mem_of_getElem? there)] at runs
    cases runs
  refine ⟨bounded.shelved, bounded.resident, fun _ => bounded.settled idle, fun call member runs => ?_, ?_⟩
  · rcases List.mem_append.mp member with old | new
    · rw [done call old] at runs
      cases runs
    · obtain rfl := List.mem_singleton.mp new
      exact ⟨bounded.shelved, bounded.resident, bounded.settled idle, fun chunk member => (by cases member)⟩
  · intro first second call other thereFirst thereSecond runsFirst runsSecond
    rw [last first call thereFirst runsFirst, last second other thereSecond runsSecond]

theorem step_bounded [BlobBackend Inner] (enough : buffer.config.maxDirtyPages ≤ buffer.config.maxCachedPages)
    (limited : buffer.config.maxCachedPages ≠ 0) {turn : BufferTurn} (bounded : Bounded buffer sys)
    (allowed : buffer.serial sys turn = true) (taken : buffer.step sys turn = some next) : Bounded buffer next := by
  cases turn with
  | issue request =>
      obtain rfl := Option.some.inj taken
      exact bounded.issued allowed request
  | call index =>
      unfold step at taken
      dsimp only at taken
      cases found : sys.calls[index]? with
      | none =>
          rw [found] at taken
          cases taken
      | some call =>
          rw [found] at taken
          obtain rfl := Option.some.inj taken
          by_cases active : call.isDone = false
          · exact bounded.moved found active
              (advance_served enough limited (bounded.running call (List.mem_of_getElem? found) active))
          · have still : buffer.advance call sys.world = (call, sys.world) := by
              unfold BufferCall.isDone at active
              split at active
              · rename_i result returned
                unfold advance
                rw [returned]
              · exact absurd rfl active
            obtain ⟨inside, same⟩ := List.getElem?_eq_some_iff.mp found
            rw [still, ← same, List.set_getElem_self inside]
            exact bounded
  | upload index slot =>
      unfold step at taken
      unfold serial at allowed
      dsimp only at taken allowed
      split at taken
      · rename_i request devSize pieces output uploads found
        rw [found] at allowed
        dsimp only at allowed
        cases own : uploads[slot]? with
        | none =>
            rw [own] at taken
            cases taken
        | some upload =>
            obtain ⟨page, phase⟩ := upload
            rw [own] at taken allowed
            obtain rfl := Option.some.inj taken
            have served := bounded.running _ (List.mem_of_getElem? found) rfl
            exact bounded.moved found rfl (flushIndex_served served rfl own (Option.isNone_iff_eq_none.mp allowed))
      · cases taken
  | expire index => cases allowed

/-- The memory of a buffer stays bounded while its calls come one at a time and their uploads succeed: at every release
of the lock at most one dirty page and one resident page are too many, no dirty page is when no call runs, and the
recency order is exact. -/
theorem memory_bounded [BlobBackend Inner] {config : BufferedConfig} {executor : Executor}
    (made : new config executor = .ok buffer) (limited : 0 < config.maxCachedPages) (inner : Inner) (clock : Nat)
    {turns : List BufferTurn} (serial : along buffer.step buffer.serial (BufferSystem.start inner clock) turns = true)
    (run : execute buffer.step (BufferSystem.start inner clock) turns = some sys) :
    sys.world.state.dirtyCount ≤ config.maxDirtyPages + 1 ∧
      sys.world.state.residentCount ≤ config.maxCachedPages + 1 ∧
      (sys.idle = true → sys.world.state.dirtyCount ≤ config.maxDirtyPages) ∧
      (∀ page, sys.world.state.lru.contains page = true ↔ sys.world.state.pages.contains page = true) ∧
      (∀ page, sys.world.state.lru.Evictable page ↔
        ∃ found, sys.world.state.pages.find? page = some found ∧ found.dirty = false) ∧
      ∀ page found, sys.world.state.pages.find? page = some found → found.data.length = config.pageSize := by
  have same := new_config made
  obtain rfl := same
  have enough := buffer.cachedEnough.resolve_left (by omega)
  have bounded : Bounded buffer sys := execute_invariant
    (fun _ _ _ inv allowed taken => step_bounded enough (by omega) inv allowed taken) (start_bounded buffer inner clock)
    serial run
  refine ⟨?_, bounded.resident, bounded.settled, bounded.shelved.lru.contains, fun page => ?_, bounded.shelved.whole⟩
  · by_cases idle : sys.idle = true
    · exact (bounded.settled idle).trans (Nat.le_succ _)
    · obtain ⟨call, member, runs⟩ : ∃ call ∈ sys.calls, ¬ call.isDone = true := by
        simpa [BufferSystem.idle] using idle
      exact (bounded.running call member (by simpa using runs)).within.dirty
  · rw [bounded.shelved.lru.evictable, BufferState.contains_iff]
    constructor
    · rintro ⟨⟨found, present⟩, clean⟩
      exact ⟨found, present, clean found present⟩
    · rintro ⟨found, present, clean⟩
      refine ⟨⟨found, present⟩, fun other there => ?_⟩
      obtain rfl := Option.some.inj (present.symm.trans there)
      exact clean

/-- A buffer that may keep one dirty page. -/
def narrowBuffer : BufferedBackend :=
  ⟨⟨512, 1, 1, 0⟩, by decide, by decide, by decide, by decide, ⟨fun _ => [], fun _ => none, fun _ _ => 0⟩⟩

/-- A page is written by one call and flushed by the next. -/
def writeThenFlush : List BufferTurn :=
  [.issue (.write 512 (List.replicate 512 7))] ++ List.replicate 7 (.call 0) ++
    [.issue .flush, .call 1, .call 1] ++ List.replicate 3 (.upload 1 0) ++ [.call 1, .call 1]

theorem memory_bounded_write_then_flush :
    ∃ sys, execute narrowBuffer.step (BufferSystem.start (⟨1024, fun _ => 0⟩ : MemBackend) 0) writeThenFlush = some sys ∧
      sys.idle = true ∧ sys.world.state.dirtyCount ≤ 1 ∧ sys.world.state.residentCount ≤ 2 := by
  obtain ⟨sys, run⟩ := Option.isSome_iff_exists.mp (show (execute narrowBuffer.step
    (BufferSystem.start (⟨1024, fun _ => 0⟩ : MemBackend) 0) writeThenFlush).isSome = true by decide +kernel)
  have idle : sys.idle = true := by
    have all : ((execute narrowBuffer.step (BufferSystem.start (⟨1024, fun _ => 0⟩ : MemBackend) 0) writeThenFlush).map
      BufferSystem.idle) = some true := by decide +kernel
    rw [run] at all
    exact Option.some.inj all
  have bounds := @memory_bounded MemBackend narrowBuffer sys _ ⟨512, 1, 1, 0⟩ _ rfl (by decide) ⟨1024, fun _ => 0⟩ 0
    writeThenFlush (by decide +kernel) run
  exact ⟨sys, run, idle, bounds.2.2.1 idle, bounds.2.1⟩

end Runs

end BufferedBackend
end UblkAzblob

import UblkAzblob.Construction.FileCacheSession
import UblkAzblob.Proof.FileCacheOpen
import UblkAzblob.Proof.MemBackend

namespace UblkAzblob
open Storage

namespace Request

/-- The byte range that a call names. -/
def range : Request → Option (Nat × Nat)
  | .read offset len => some (offset, len)
  | .write offset data => some (offset, data.length)
  | .clear offset len => some (offset, len)
  | .prefetch offset len => some (offset, len)
  | .warmup _ _ => none
  | .flush => none

/-- A rejected call names a non-empty range that is misaligned or leaves the device. -/
def Rejected (devSize : Nat) (request : Request) : Prop :=
  ∃ offset len, request.range = some (offset, len) ∧ len ≠ 0 ∧
    ¬ (offset % 512 = 0 ∧ len % 512 = 0 ∧ offset + len ≤ devSize)

instance (devSize : Nat) (request : Request) : Decidable (request.Rejected devSize) :=
  match found : request.range with
  | none => .isFalse fun ⟨_, _, named, _⟩ => by simp [found] at named
  | some (offset, len) => decidable_of_iff
      (len ≠ 0 ∧ ¬ (offset % 512 = 0 ∧ len % 512 = 0 ∧ offset + len ≤ devSize))
      ⟨fun bad => ⟨offset, len, found, bad⟩, fun ⟨_, _, named, bad⟩ => by
        obtain ⟨rfl, rfl⟩ := Prod.mk.inj (Option.some.inj (found.symm.trans named))
        exact bad⟩

/-- The reference array is changed by the writes and clears that are not rejected. -/
def update (devSize : Nat) (reference : Store) (request : Request) : Store :=
  if request.Rejected devSize then reference
  else match request with
    | .write offset data => splice reference offset data
    | .clear offset len => zeroed reference offset len
    | _ => reference

end Request

namespace FileCacheBackend

variable {Inner : Type} {cache : FileCacheBackend} {geometry : Geometry} {world : World Inner}

section Totality

variable [BlobBackend Inner] [ReliableStore Inner]

theorem fetch_total (page offset len : Nat) (context : String) (wrongLength : Nat → String)
    (tidy : Tidy cache geometry world) (offsetAligned : offset % 512 = 0) (lenAligned : len % 512 = 0)
    (device : offset + len ≤ geometry.devSize) :
    ∃ data, (fetch page offset len context wrongLength world).1 = .ok data := by
  have inside : offset + len ≤ FlatStore.size world.disk.inner := by rw [tidy.innerSize]; exact device
  obtain ⟨bytes, answer⟩ :=
    ReliableStore.read_total world.disk.inner offset len offsetAligned lenAligned inside
  have exact := FlatStore.read_exact world.disk.inner offset len bytes offsetAligned lenAligned inside
    answer
  refine ⟨bytes, ?_⟩
  simp only [fetch, Action.bind_apply, Action.withContext, World.callInner, answer, Action.ensure_apply]
  rw [if_pos (by rw [exact, length_slice])]
  rfl

theorem ensurePage_total {page : Nat} (tidy : Tidy cache geometry world)
    (inside : page < geometry.numPages) : ∃ len, (cache.ensurePage page world).1 = .ok len := by
  have len : min cache.pageSize (world.state.devSize - page * cache.pageSize) =
      geometry.pageLen page := pageLen_eq tidy.toSound page
  simp only [ensurePage, len]
  split
  · exact ⟨_, rfl⟩
  · obtain ⟨data, success⟩ := fetch_total page (page * cache.pageSize)
      (geometry.pageLen page) s!"load page {page} from inner backend" (fun got =>
        let pageLen := geometry.pageLen page
        s!"inner backend returned {got} bytes for page {page} (expected {pageLen})") tidy
      (by rw [tidy.pageSize]; exact geometry.page_start_aligned page) (geometry.pageLen_aligned page)
      (by rw [tidy.pageSize]; exact geometry.page_end_le inside)
    refine ⟨geometry.pageLen page, ?_⟩
    simp only [Action.bind_apply]
    cases answer : fetch page (page * cache.pageSize) (geometry.pageLen page)
        s!"load page {page} from inner backend" (fun got =>
          let pageLen := geometry.pageLen page
          s!"inner backend returned {got} bytes for page {page} (expected {pageLen})") world with
    | mk outcome after =>
        rw [answer] at success
        obtain rfl : outcome = .ok data := success
        rfl

theorem readChunk_total {offset : Nat} {chunk : Chunk} (tidy : Tidy cache geometry world)
    (fits : geometry.Fits offset chunk) :
    ∃ bytes, (cache.readChunk offset chunk world).1 = .ok bytes := by
  have device := geometry.page_end_le fits.inside
  have start := fits.start
  have within := fits.within
  simp only [readChunk]
  split
  · rw [File.readExactAt, if_pos (by rw [tidy.dataLen]; omega)]
    exact ⟨_, rfl⟩
  · exact fetch_total _ _ _ _ _ tidy fits.startAligned fits.lenAligned (by omega)

theorem readLoop_total {offset len pos : Nat} {pieces : List Chunk} {result : List UInt8}
    (tiles : Tiles geometry.pageSize offset len pos pieces) (posAligned : pos % 512 = 0)
    (offsetAligned : offset % 512 = 0) (lenAligned : len % 512 = 0)
    (device : offset + len ≤ geometry.devSize) (tidy : Tidy cache geometry world) :
    ∃ bytes, (cache.readLoop offset pieces result world).1 = .ok bytes := by
  induction tiles generalizing result world with
  | done => exact ⟨_, rfl⟩
  | next chunk rest start within positive bounded cut tail ih =>
      have fits := geometry.fits_of_tiles start within positive bounded cut posAligned offsetAligned
        lenAligned device
      have afterTidy := (readChunk_spec tidy fits).1
      obtain ⟨piece, success⟩ := readChunk_total tidy fits
      simp only [readLoop, Action.bind_apply]
      cases answer : cache.readChunk offset chunk world with
      | mk outcome after =>
          rw [answer] at success afterTidy
          obtain rfl : outcome = .ok piece := success
          exact ih (by have := fits.lenAligned; omega) afterTidy

theorem writeLoop_total {offset pos : Nat} {data : List UInt8} {pieces : List Chunk}
    (tiles : Tiles geometry.pageSize offset data.length pos pieces) (posAligned : pos % 512 = 0)
    (offsetAligned : offset % 512 = 0) (lenAligned : data.length % 512 = 0)
    (device : offset + data.length ≤ geometry.devSize) (tidy : Tidy cache geometry world) :
    (Action.forEach pieces (cache.writeChunk data) world).1 = .ok () := by
  induction tiles generalizing world with
  | done => rfl
  | next chunk rest start within positive bounded cut tail ih =>
      have fits := geometry.fits_of_tiles start within positive bounded cut posAligned offsetAligned
        lenAligned device
      simp only [Action.forEach_cons, Action.bind_apply]
      rcases writeChunk_spec tidy fits bounded with
        ⟨error, after, failed, _⟩ | ⟨after, succeeded, written⟩
      · obtain ⟨len, success⟩ := ensurePage_total tidy fits.inside
        exfalso
        simp only [writeChunk] at failed
        split at failed
        · simp only [Action.bind_apply] at failed
          cases answer : cache.ensurePage chunk.page world with
          | mk outcome middle =>
              rw [answer] at success failed
              obtain rfl : outcome = .ok len := success
              cases failed
        · cases failed
      · rw [succeeded]
        exact ih (by have := fits.lenAligned; omega) written.tidy

theorem ensurePages_total (pages : List Nat) (inside : ∀ page ∈ pages, page < geometry.numPages)
    (tidy : Tidy cache geometry world) :
    (Action.forEach pages (fun page => do let _ ← cache.ensurePage page) world).1 = .ok () := by
  induction pages generalizing world with
  | nil => rfl
  | cons page rest ih =>
      have afterTidy := (ensurePage_spec tidy (inside page List.mem_cons_self)).1
      obtain ⟨len, success⟩ := ensurePage_total tidy (inside page List.mem_cons_self)
      simp only [Action.forEach_cons, Action.bind_apply]
      cases answer : cache.ensurePage page world with
      | mk outcome after =>
          rw [answer] at success afterTidy
          obtain rfl : outcome = .ok len := success
          exact ih (fun other member => inside other (List.mem_cons_of_mem _ member)) afterTidy

/-- A flush task over a reliable store never fails. -/
theorem flushPage_total {page : Nat} {phase : FlushPhase} (sound : Sound cache geometry world)
    (ready : FlushReady geometry world.view page phase) (running : phase.error? = none) :
    (cache.flushPage page phase world).1.error? = none := by
  cases phase with
  | waiting =>
      have len : min cache.pageSize (world.state.devSize - page * cache.pageSize) =
          geometry.pageLen page := pageLen_eq sound page
      simp only [flushPage, len]
      split
      · rfl
      · split
        · rfl
        · rename_i dirty nonempty
          have inside : page < geometry.numPages := sound.dirtyInside page (by simpa using dirty)
          rw [File.readExactAt, if_pos (by
            rw [sound.dataLen, sound.pageSize]; exact geometry.page_end_le inside)]
          rfl
  | uploading offset generation bytes =>
      obtain ⟨inside, rfl, _, _, rfl⟩ := ready
      have success := ReliableStore.write_total world.disk.inner (page * geometry.pageSize)
        (slice world.view.data (page * geometry.pageSize) (geometry.pageLen page))
        (geometry.page_start_aligned page) (by rw [length_slice]; exact geometry.pageLen_aligned page)
        (by rw [length_slice, show ReliableStore.toFlatStore.size world.disk.inner = geometry.devSize
              from sound.innerSize]; exact geometry.page_end_le inside)
      simp only [flushPage, Action.withContext, World.callInner, success]
      rfl
  | uploaded generation =>
      simp only [flushPage]
      split <;> rfl
  | done result => exact running

theorem flush_total (sound : Sound cache geometry world) : (cache.flush world).1 = .ok () := by
  set scheduled := { world with clock := world.clock + 1 } with scheduledEq
  have quiet : Quiet world scheduled := ⟨rfl, rfl, rfl, rfl, rfl, rfl, rfl⟩
  have scheduledSound : Sound cache geometry scheduled := quiet.sound sound sound.lru
  rw [flush]
  rw [← scheduledEq, show dirtyPages world.state = dirtyPages scheduled.state from rfl]
  have reached := interleave_tasks cache.flushCollect (fun _ => false)
    (fun progress => Pushed cache geometry scheduled progress.1 ∧ progress.2 = none)
    (CollectReady geometry) (by
      rintro page phase progress ⟨pushed, none⟩ ready
      obtain ⟨step, moved, others⟩ := flushCollect_spec page phase progress pushed ready
      refine ⟨⟨step, ?_⟩, moved, others⟩
      simp only [flushCollect, none, Option.none_or]
      exact flushPage_total pushed.sound ready.1 (ready.2 none))
    (cache.host.schedule world.clock ++ (dirtyPages scheduled.state).flatMap (List.replicate 3))
    ((dirtyPages scheduled.state).map fun page => (page, .waiting)) (scheduled, none)
    (by rw [map_fst_tagged]; exact List.nodup_range.filter _) ⟨.refl scheduledSound, rfl⟩ (by
      intro page phase member
      obtain ⟨_, rfl⟩ := mem_tagged member
      exact ⟨trivial, fun _ => rfl⟩)
  set result := interleave cache.flushCollect (fun _ => false)
    (cache.host.schedule world.clock ++ (dirtyPages scheduled.state).flatMap (List.replicate 3))
    ((dirtyPages scheduled.state).map fun page => (page, .waiting)) (scheduled, none)
  rw [reached.1.2]
  simp only [Action.bind_apply, World.callInner, ReliableStore.flush_total]
  split
  · simp only [recordEtag]
    split <;> rfl
  · rfl

/-- An accepted write or clear succeeds. -/
theorem guardedWrite_total (message op : String) (offset : Nat) (data : List UInt8)
    (tidy : Tidy cache geometry world) (accepted : Accepts geometry offset data.length) :
    ((do
      checkAligned message offset data.length
      cache.writeRange op offset data : Action (World Inner) Unit) world).1 = .ok () := by
  have body := guard_accepts message op
    (Action.forEach (chunks cache.pageSize offset data.length) (cache.writeChunk data))
    tidy accepted
  obtain ⟨offsetAligned, lenAligned, device⟩ := accepted
  simp only [writeRange]
  rw [body, tidy.pageSize]
  exact writeLoop_total (chunks_tiles geometry.pageSize offset data.length geometry.pagePositive)
    (Nat.zero_mod 512) offsetAligned lenAligned device tidy

theorem write_total {offset : Nat} {data : List UInt8} (tidy : Tidy cache geometry world)
    (accepted : data ≠ [] → Accepts geometry offset data.length) :
    (cache.write offset data world).1 = .ok () := by
  rw [write]
  split
  · rfl
  · rename_i nonempty
    exact guardedWrite_total _ _ _ _ tidy (accepted nonempty)

theorem clear_total {offset len : Nat} (tidy : Tidy cache geometry world)
    (accepted : len ≠ 0 → Accepts geometry offset len) : (cache.clear offset len world).1 = .ok () := by
  rw [clear]
  split
  · rfl
  · rename_i nonempty
    have success := guardedWrite_total
      s!"clear: offset ({offset}) and len ({len}) must be 512-byte aligned" "clear" offset
      (List.replicate len 0) tidy
      (by rw [List.length_replicate]; exact accepted nonempty)
    rw [List.length_replicate] at success
    exact success

theorem read_total {offset len : Nat} (tidy : Tidy cache geometry world)
    (accepted : len ≠ 0 → Accepts geometry offset len) :
    ∃ bytes, (cache.read offset len world).1 = .ok bytes := by
  rw [read]
  split
  · exact ⟨_, rfl⟩
  · rename_i nonempty
    rw [guard_accepts _ _ _ tidy (accepted nonempty), tidy.pageSize]
    obtain ⟨offsetAligned, lenAligned, device⟩ := accepted nonempty
    exact readLoop_total (chunks_tiles geometry.pageSize offset len geometry.pagePositive)
      (Nat.zero_mod 512) offsetAligned lenAligned device tidy

theorem prefetch_total {offset len : Nat} (tidy : Tidy cache geometry world)
    (accepted : len ≠ 0 → Accepts geometry offset len) :
    (cache.prefetch offset len world).1 = .ok () := by
  rw [prefetch]
  split
  · rfl
  · rename_i nonempty
    rw [guard_accepts _ _ _ tidy (accepted nonempty)]
    refine ensurePages_total _ ?_ tidy
    intro page member
    rw [tidy.pageSize] at member
    exact prefetch_inside (accepted nonempty) member

end Totality

section Reference

variable [BlobBackend Inner] [FlatStore Inner]

/-- The cache shows the reference array and keeps its invariants. -/
structure Refines (cache : FileCacheBackend) (geometry : Geometry) (reference : Store)
    (world : World Inner) : Prop where
  tidy : Tidy cache geometry world
  coherent : world.view.Coherent geometry
  contents : AgreeOn 0 geometry.devSize (world.view.contents geometry) reference

variable {reference : Store}

theorem Refines.settled {after : World Inner} (refines : Refines cache geometry reference world)
    (settled : Settled cache geometry world after) : Refines cache geometry reference after where
  tidy := settled.tidy
  coherent := (settled.contents refines.coherent).1
  contents := (settled.contents refines.coherent).2.trans refines.contents

/-- A completed write or clear changes the reference array in the same way. -/
theorem Refines.applied {offset : Nat} {data : List UInt8} {outcome : Except Error Unit × World Inner}
    (refines : Refines cache geometry reference world)
    (applied : Applied cache geometry offset data world outcome) (success : outcome.1 = .ok ()) :
    Refines cache geometry (splice reference offset data) outcome.2 := by
  obtain ⟨count, _, _, written, finished⟩ := applied.leading
  rw [finished success, List.take_length] at written
  exact ⟨written.tidy, Traces.coherent written.traces refines.coherent,
    (written.contents refines.coherent).trans (splice_congr refines.contents _ _)⟩

/-- After a flush that cleaned every page the inner store shows the contents. -/
theorem Refines.inner {reference : Store} (refines : Refines cache geometry reference world)
    (clean : ∀ page, world.view.dirty page = false) :
    AgreeOn 0 geometry.devSize (FlatStore.content world.disk.inner) reference := by
  refine AgreeOn.trans ?_ refines.contents
  intro x _ device
  rw [View.contents]
  split
  · rename_i present
    exact (refines.coherent.clean x device present (clean _)).symm
  · rfl

/-- The view of the files before they are opened. -/
def Disk.view (disk : Disk Inner) (present dirty : List UInt8) : View where
  data := disk.data.bytes
  inner := FlatStore.content disk.inner
  present := bitGet present
  dirty := bitGet dirty
  generation := fun _ => 0

section Opened

variable {host : Host} {disk : Disk Inner} {present dirty : List UInt8} {isTrusted : Bool} {recovered : Nat}

/-- An open makes no page resident that was not recorded as present. -/
theorem opened_present {page : Nat}
    (opened : Opened geometry host present dirty isTrusted disk cache world recovered)
    (set : world.view.present page = true) : bitGet present page = true := by
  have set : bitGet world.state.present page = true := set
  rw [opened.presentBits, Bool.and_eq_true] at set
  exact set.1

/-- A page that was current before an open is current after it. -/
theorem opened_current {page : Nat}
    (opened : Opened geometry host present dirty isTrusted disk cache world recovered)
    (current : (Disk.view disk present dirty).Current geometry page) : world.view.Current geometry page := by
  intro x device inPage set clean
  have clean : bitGet world.state.dirty page = false := clean
  rw [opened.dirtyBits] at clean
  have sameInner : world.view.inner = FlatStore.content disk.inner :=
    congrArg FlatStore.content opened.inner
  rw [sameInner]
  exact (opened.data x (Nat.zero_le x) device).trans
    (current x device inPage (opened_present opened set) clean)

/-- A cache opened on coherent files shows what they held. -/
theorem opened_refines (opened : Opened geometry host present dirty isTrusted disk cache world recovered)
    (coherent : (Disk.view disk present dirty).Coherent geometry) :
    Refines cache geometry ((Disk.view disk present dirty).contents geometry) world := by
  have dirtyBits (page : Nat) : bitGet world.state.dirty page = bitGet dirty page := by
    rw [opened.dirtyBits]
  have resident (page : Nat) (set : bitGet world.state.dirty page = true) :
      bitGet world.state.present page = true := by
    rw [dirtyBits] at set
    have recorded : bitGet present page = true := coherent.resident page set
    rw [opened.presentBits, recorded, set]
    rfl
  have sameInner : world.view.inner = FlatStore.content disk.inner :=
    congrArg FlatStore.content opened.inner
  refine ⟨⟨opened.sound, opened.evictable, resident⟩,
    View.coherent_of_current (fun page => opened_current opened (coherent.current page)) resident, ?_⟩
  intro x _ device
  have sameData : world.view.data x = disk.data.bytes x := opened.data x (Nat.zero_le x) device
  simp only [View.contents, sameInner, sameData]
  by_cases now : world.view.present (x / geometry.pageSize)
  · have before : (Disk.view disk present dirty).present (x / geometry.pageSize) = true :=
      opened_present opened now
    rw [if_pos now, if_pos before]
    rfl
  · rw [if_neg now]
    split
    · rename_i before
      have clean : bitGet dirty (x / geometry.pageSize) = false := by
        by_contra set
        rw [Bool.not_eq_false, ← dirtyBits] at set
        exact now (resident _ set)
      exact (coherent.clean x device before clean).symm
    · rfl

end Opened

/-- A freshly opened cache shows the inner store. -/
theorem opened_fresh {host : Host} {disk : Disk Inner} {isTrusted : Bool} {recovered : Nat}
    (opened : Opened geometry host (blankBitmap geometry.numPages) (blankBitmap geometry.numPages)
      isTrusted disk cache world recovered) :
    Refines cache geometry (FlatStore.content disk.inner) world := by
  have blank (page : Nat) : bitGet (blankBitmap geometry.numPages) page = false := bitGet_blank _ page
  have refines := opened_refines opened ⟨fun x _ present => by simp [Disk.view, blank] at present,
    fun page dirty => by simp [Disk.view, blank] at dirty⟩
  have contents : (Disk.view disk (blankBitmap geometry.numPages)
      (blankBitmap geometry.numPages)).contents geometry = FlatStore.content disk.inner := by
    funext x
    simp [View.contents, Disk.view, blank]
  rw [contents] at refines
  exact refines

omit [BlobBackend Inner] [FlatStore Inner] in
/-- An opened cache has a valid geometry. -/
theorem openCache_geometry {cfg : FileCacheConfig} {host : Host} {devSize : Nat}
    {currentEtag : Option String} {disk : Disk Inner} {budgetFile : List Entry} {clock : Nat}
    {answer : FileCacheBackend × World Inner × Nat}
    (opened : openCache cfg host devSize currentEtag disk budgetFile clock = .ok answer) :
    (0 < cfg.pageSize ∧ cfg.pageSize % 512 = 0) ∧ 0 < devSize := by
  rw [openCache] at opened
  split at opened
  · rename_i valid
    split at opened
    · cases opened
    · exact ⟨valid, by omega⟩
  · cases opened

end Reference

section Refinement

variable [BlobBackend Inner] [ReliableStore Inner]

variable {reference : Store}

/-- A conforming answer is an error without effect, or what the reference array says. -/
structure Conforms (devSize : Nat) (reference : Store) (request : Request) (before : World Inner)
    (outcome : Except Error (List UInt8) × World Inner) : Prop where
  rejects : request.Rejected devSize → ∃ error, outcome = (.error error, before)
  succeeds : ¬ request.Rejected devSize → ∃ bytes, outcome.1 = .ok bytes
  reads : ∀ offset len bytes, request = .read offset len → outcome.1 = .ok bytes →
    bytes = slice reference offset len
  flushes : ∀ bytes, request = .flush → outcome.1 = .ok bytes →
    AgreeOn 0 devSize (FlatStore.content outcome.2.disk.inner) reference ∧
      ∀ page, bitGet outcome.2.state.dirty page = false

omit [BlobBackend Inner] [ReliableStore Inner] in
/-- A call that returns nothing maps its outcome to the empty byte list. -/
theorem unit_outcome {action : Action (World Inner) Unit} :
    (do action; pure [] : Action (World Inner) (List UInt8)) world =
      ((action world).1.map fun _ => [], (action world).2) := by
  simp only [Action.bind_apply]
  cases action world with
  | mk outcome after => cases outcome <;> rfl

theorem accepts_of_not_rejected {request : Request} {offset len : Nat}
    (named : request.range = some (offset, len)) (legal : ¬ request.Rejected geometry.devSize)
    (nonempty : len ≠ 0) : Accepts geometry offset len := by
  by_contra refused
  exact legal ⟨offset, len, named, nonempty, refused⟩

/-- A slice of an agreeing store is the slice of the reference. -/
theorem slice_of_contents {store : Store} {offset len : Nat}
    (agree : AgreeOn 0 geometry.devSize store reference)
    (accepted : len ≠ 0 → Accepts geometry offset len) :
    slice store offset len = slice reference offset len := by
  apply slice_congr
  intro x low high
  obtain ⟨_, _, device⟩ := accepted (by omega)
  exact agree x (Nat.zero_le x) (by omega)

theorem perform_read (refines : Refines cache geometry reference world) (offset len : Nat) :
    Refines cache geometry reference (cache.read offset len world).2 ∧
      Conforms geometry.devSize reference (.read offset len) world (cache.read offset len world) := by
  obtain ⟨afterTidy, traces, sameView, exact⟩ := read_spec offset len refines.tidy
  refine ⟨refines.settled (settled_of_upkeep afterTidy traces), ?_, ?_, ?_, by simp⟩
  · rintro ⟨_, _, ⟨⟩, nonempty, refused⟩
    rw [read, if_neg nonempty]
    exact guard_rejects _ _ _ refines.tidy refused
  · exact fun legal => read_total refines.tidy (accepts_of_not_rejected rfl legal)
  · rintro _ _ bytes ⟨⟩ success
    obtain ⟨same, accepted⟩ := exact bytes success
    rw [same]
    exact slice_of_contents refines.contents accepted

theorem perform_unit {request : Request} {action : Action (World Inner) Unit}
    (notRead : ∀ offset len, request ≠ .read offset len) (notFlush : request ≠ .flush)
    (rejects : request.Rejected geometry.devSize → ∃ error, action world = (.error error, world))
    (succeeds : ¬ request.Rejected geometry.devSize → (action world).1 = .ok ()) :
    Conforms geometry.devSize reference request world
      ((do action; pure [] : Action (World Inner) (List UInt8)) world) := by
  rw [unit_outcome]
  refine ⟨?_, ?_, fun offset len _ same => absurd same (notRead offset len),
    fun _ same => absurd same notFlush⟩
  · intro rejected
    obtain ⟨error, failed⟩ := rejects rejected
    exact ⟨error, by rw [failed]; rfl⟩
  · intro legal
    exact ⟨[], by rw [succeeds legal]; rfl⟩

/-- A write or clear keeps the refinement, whether it is rejected or completed. -/
theorem perform_applied (request : Request) {offset : Nat} {data : List UInt8}
    {action : Action (World Inner) Unit} (refines : Refines cache geometry reference world)
    (named : request.range = some (offset, data.length))
    (applied : Applied cache geometry offset data world (action world))
    (total : ¬ request.Rejected geometry.devSize → (action world).1 = .ok ()) :
    Refines cache geometry (if request.Rejected geometry.devSize then reference
        else splice reference offset data) (action world).2 ∧
      (request.Rejected geometry.devSize → ∃ error, action world = (.error error, world)) := by
  by_cases rejected : request.Rejected geometry.devSize
  · have failed : ∃ error, action world = (.error error, world) := by
      obtain ⟨_, _, range, nonempty, refused⟩ := rejected
      obtain ⟨rfl, rfl⟩ := Prod.mk.inj (Option.some.inj (named.symm.trans range))
      exact applied.rejected (by simpa using nonempty) refused
    obtain ⟨error, unchanged⟩ := failed
    rw [if_pos rejected, unchanged]
    exact ⟨refines, fun _ => ⟨error, rfl⟩⟩
  · rw [if_neg rejected]
    exact ⟨refines.applied applied (total rejected), fun bad => absurd bad rejected⟩

/-- Every call conforms to the reference array and keeps refining it. -/
theorem perform_refines (refines : Refines cache geometry reference world) (request : Request) :
    Refines cache geometry (request.update geometry.devSize reference) (cache.perform request world).2 ∧
      Conforms geometry.devSize reference request world (cache.perform request world) := by
  cases request with
  | read offset len =>
      obtain ⟨after, conforms⟩ := perform_read refines offset len
      exact ⟨by simpa [Request.update, perform] using after, conforms⟩
  | write offset data =>
      have total (legal : ¬ (Request.write offset data).Rejected geometry.devSize) :
          (cache.write offset data world).1 = .ok () :=
        write_total refines.tidy fun nonempty =>
          accepts_of_not_rejected rfl legal (by simpa using nonempty)
      obtain ⟨after, rejects⟩ := perform_applied (.write offset data) refines rfl
        (write_applied offset data refines.tidy) total
      refine ⟨?_, perform_unit (by simp) (by simp) rejects total⟩
      rw [perform, unit_outcome]
      exact after
  | clear offset len =>
      have total (legal : ¬ (Request.clear offset len).Rejected geometry.devSize) :
          (cache.clear offset len world).1 = .ok () :=
        clear_total refines.tidy fun nonempty => accepts_of_not_rejected rfl legal nonempty
      obtain ⟨after, rejects⟩ := perform_applied (.clear offset len) refines
        (by simp [Request.range]) (clear_applied offset len refines.tidy) total
      refine ⟨?_, perform_unit (by simp) (by simp) rejects total⟩
      rw [perform, unit_outcome]
      rw [splice_replicate] at after
      exact after
  | prefetch offset len =>
      obtain ⟨settled, rejects⟩ := prefetch_spec offset len refines.tidy
      refine ⟨?_, perform_unit (by simp) (by simp) ?_ ?_⟩
      · rw [perform, unit_outcome]
        simpa [Request.update] using refines.settled settled
      · rintro ⟨_, _, ⟨⟩, nonempty, refused⟩
        exact rejects nonempty refused
      · exact fun legal => prefetch_total refines.tidy fun nonempty =>
          accepts_of_not_rejected rfl legal nonempty
  | warmup devSize limitBytes =>
      refine ⟨?_, perform_unit (by simp) (by simp) ?_ ?_⟩
      · rw [perform, unit_outcome]
        simpa [Request.update] using refines.settled (warmup_settled refines.tidy)
      · rintro ⟨_, _, ⟨⟩, _⟩
      · intro _
        rw [warmup]
        dsimp only
        split <;> rfl
  | flush =>
      obtain ⟨pushed, clean⟩ := flush_spec refines.tidy.toSound
      have success : (cache.flush world).1 = .ok () := flush_total refines.tidy.toSound
      have after := refines.settled (pushed.settled refines.tidy)
      rw [perform, unit_outcome]
      refine ⟨by simpa [Request.update] using after, ?_, ?_, by simp, ?_⟩
      · rintro ⟨_, _, ⟨⟩, _⟩
      · exact fun _ => ⟨[], by rw [success]; rfl⟩
      · intro _ _ _
        exact ⟨after.inner (clean success), clean success⟩

theorem session_refines (refines : Refines cache geometry reference world) (requests : List Request) :
    Refines cache geometry (requests.foldl (Request.update geometry.devSize) reference)
      (cache.session requests world) := by
  induction requests generalizing reference world with
  | nil => exact refines
  | cons request rest ih => exact ih (perform_refines refines request).1

/-- A cache over a reliable store is a flat byte array, call after call. -/
theorem session_conforms (cfg : FileCacheConfig) {host : Host} {devSize : Nat}
    {currentEtag : Option String} (disk : Disk Inner) {budgetFile : List Entry} {clock : Nat}
    {cache : FileCacheBackend} {world : World Inner} {recovered : Nat}
    (pageBounded : cfg.pageSize < 2 ^ 64) (devBounded : devSize < 2 ^ 64)
    (devAligned : devSize % 512 = 0) (size : FlatStore.size disk.inner = devSize)
    (fresh : metaReusable cfg.pageSize devSize ((devSize + cfg.pageSize - 1) / cfg.pageSize)
      disk.metadata = false)
    (opened : openCache cfg host devSize currentEtag disk budgetFile clock =
      .ok (cache, world, recovered))
    (requests : List Request) (request : Request) :
    Conforms devSize
      (requests.foldl (Request.update devSize) (FlatStore.content disk.inner)) request
      (cache.session requests world) (cache.perform request (cache.session requests world)) := by
  obtain ⟨⟨pagePositive, pageAligned⟩, devPositive⟩ := openCache_geometry opened
  let geometry : Geometry := ⟨cfg.pageSize, devSize, pagePositive, pageAligned, devPositive,
    devAligned, pageBounded, devBounded⟩
  have start := opened_fresh (openCache_fresh geometry rfl size fresh opened)
  exact (perform_refines (session_refines start requests) request).2

end Refinement

section Example

/-- This host is alone on its machine, and its filesystem punches holes without fail. -/
def calmHost : Host where
  pid := 1
  interfere _ entries := entries
  pidAlive _ _ := true
  punchFails _ := false
  punchHoleSupported := true
  regionIsHole _ := false
  schedule _ := []

/-- Before the first start there are no cache files. -/
def blankDisk (size : Nat) : Disk MemBackend :=
  ⟨.empty, .empty, none, ⟨size, fun _ => 0⟩⟩

/-- A call is misplaced when its range, empty or not, is misaligned or leaves the device. -/
def Misplaced (devSize : Nat) (request : Request) : Prop :=
  ∃ offset len, request.range = some (offset, len) ∧
    ¬ (offset % 512 = 0 ∧ len % 512 = 0 ∧ offset + len ≤ devSize)

/-- An empty misaligned read succeeds. -/
theorem empty_misplaced_read_succeeds :
    ∃ cache world recovered, openCache ⟨"cache", 512, 0⟩ calmHost 1024 none (blankDisk 1024) [] 0 =
        .ok (cache, world, recovered) ∧
      ¬ (∀ request, Misplaced 1024 request →
        ∃ error, cache.perform request world = (.error error, world)) := by
  refine ⟨_, _, _, rfl, ?_⟩
  intro rejects
  obtain ⟨error, failed⟩ := rejects (.read 1 0) ⟨1, 0, rfl, by decide⟩
  cases failed

/-- The write of a page under a budget of one page, a read of another page and a flush conform. -/
theorem session_conforms_two_pages :
    ∃ cache world recovered, openCache ⟨"cache", 512, 512⟩ calmHost 1024 none (blankDisk 1024) [] 0 =
        .ok (cache, world, recovered) ∧
      let requests := [Request.write 0 (List.replicate 512 7), .prefetch 512 512]
      Conforms 1024 (requests.foldl (Request.update 1024) fun _ => 0) .flush
        (cache.session requests world) (cache.perform .flush (cache.session requests world)) :=
  ⟨_, _, _, rfl, session_conforms ⟨"cache", 512, 512⟩ (blankDisk 1024) (by decide)
    (by decide) (by decide) rfl (by decide) rfl _ .flush⟩

end Example

end FileCacheBackend
end UblkAzblob

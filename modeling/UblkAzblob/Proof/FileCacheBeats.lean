import UblkAzblob.Construction.FileCacheSession
import UblkAzblob.Proof.Bitmap
import Mathlib.Logic.Relation

namespace UblkAzblob
namespace FileCacheBackend
open Storage

variable {Inner : Type}

/-- A page of the device starts before its end. -/
def Inside (cache : FileCacheBackend) (state : CacheState) (page : Nat) : Prop :=
  page * cache.pageSize < state.devSize

/-- The page count covers the device. -/
def Shaped (cache : FileCacheBackend) (state : CacheState) : Prop :=
  state.numPages = (state.devSize + cache.pageSize - 1) / cache.pageSize

theorem inside_iff {cache : FileCacheBackend} {state : CacheState} (shaped : cache.Shaped state)
    (page : Nat) : cache.Inside state page ↔ page < state.numPages := by
  have positive := cache.positive
  rw [shaped, Inside, Nat.lt_iff_add_one_le (m := page), Nat.le_div_iff_mul_le positive, Nat.add_mul]
  omega

/-- The page of a chunk in the device lies in the device. -/
theorem inside_of_chunk {cache : FileCacheBackend} {state : CacheState} {offset len : Nat} {chunk : Chunk}
    (member : chunk ∈ chunks cache.pageSize offset len) (device : offset + len ≤ state.devSize) :
    cache.Inside state chunk.page := by
  obtain ⟨start, _, positive, bounded⟩ :=
    (chunks_tiles cache.pageSize offset len cache.positive).bounds member
  unfold Inside
  omega

theorem pageLen_pos {cache : FileCacheBackend} {state : CacheState} {page : Nat}
    (inside : cache.Inside state page) : 0 < cache.pageLen state page := by
  have positive := cache.positive
  unfold Inside at inside
  unfold pageLen
  omega

/-- The victim's hole is punched and its present byte cleared, or the punch is refused. -/
theorem evictPage_cases {cache : FileCacheBackend} {page : Nat} (budget : CacheBudget) (world : World Inner)
    (inside : cache.Inside world.state page) :
    let len := cache.pageLen world.state page
    let asked : World Inner := { world with clock := world.clock + 1 }
    cache.evictPage budget page world = (false, asked.touch page true) ∨
      cache.evictPage budget page world = (true, (((writePresentByte (.evictClean page) page
        ((asked.issue (.evictClean page) (.data (.punch (page * cache.pageSize) len))).setPresent page
          false)).dropResident len).withLocked cache.host (budget.release len)).2) := by
  have positive := pageLen_pos inside
  simp only [evictPage, if_neg positive.ne', punchHole]
  by_cases refused : (world.ask cache.host.punchFails).1
  · left
    simp only [if_pos refused, Bool.false_eq_true, if_false]
    rfl
  · right
    simp only [if_neg refused, if_true]
    rfl

/-- A page is stored as a punched hole or as a write. -/
theorem storePageData_cases (cache : FileCacheBackend) (page offset : Nat) (data : List UInt8)
    (world : World Inner) :
    ∃ now, let asked : World Inner := { world with clock := now }
      cache.storePageData page offset data world = (true, asked.issue (.storeCleanPage page)
          (.data (.punch offset (cache.pageLen world.state page)))) ∨
        cache.storePageData page offset data world =
          (false, asked.issue (.storeCleanPage page) (.data (.write offset data))) := by
  simp only [storePageData, punchHole]
  split
  · refine ⟨world.clock + 1, ?_⟩
    by_cases refused : (world.ask cache.host.punchFails).1
    · right
      simp only [if_pos refused, Bool.false_eq_true, if_false]
      rfl
    · left
      simp only [if_neg refused, if_true]
      rfl
  · exact ⟨world.clock, .inr rfl⟩

/-- After its upload a page is marked clean, unless it was written in the meantime. -/
def cleaned (cache : FileCacheBackend) (page : Nat) (world : World Inner) : World Inner :=
  let persisted := persistMetaBit page (world.setDirty page false)
  if cache.budget.isSome then persisted.touch page true else persisted

/-- A query asks the inner backend and changes none of its contents. -/
inductive Queried [BlobBackend Inner] (before : Inner) : Inner → Prop where
  | read (offset len : Nat) : Queried before (BlobBackend.read offset len before).2
  | dataRanges : Queried before (BlobBackend.dataRanges before).2
  | flush : Queried before (BlobBackend.flush before).2
  | etag : Queried before (BlobBackend.etag before).2

/-- A beat is one effect of an operation; only a flush uploads pages, cleans them and records a token. -/
inductive Beat [BlobBackend Inner] (cache : FileCacheBackend) (flushing : Bool) :
    World Inner → World Inner → Prop where
  | query (world : World Inner) (site : Site) (after : Inner) (queried : Queried world.disk.inner after) :
      Beat cache flushing world (world.issue site (.inner after))
  | tick (world : World Inner) : Beat cache flushing world { world with clock := world.clock + 1 }
  | store (world : World Inner) (page : Nat) (data : List UInt8) (inside : cache.Inside world.state page)
      (absent : bitGet world.state.present page = false)
      (whole : data.length = cache.pageLen world.state page) :
      Beat cache flushing world (cache.storeCleanPage page (page * cache.pageSize) data world)
  | dirty (world : World Inner) (page pageOffset : Nat) (payload : List UInt8)
      (inside : cache.Inside world.state page) (some : payload ≠ [])
      (fits : pageOffset + payload.length ≤ cache.pageLen world.state page) :
      Beat cache flushing world (cache.dirtyPageRegion page pageOffset payload world)
  | upload (world : World Inner) (page offset : Nat) (bytes : List UInt8) (live : flushing = true) :
      Beat cache flushing world
        (world.issue (.upload page) (.inner (BlobBackend.write offset bytes world.disk.inner).2))
  | clean (world : World Inner) (page : Nat) (live : flushing = true) (inside : cache.Inside world.state page)
      (dirty : bitGet world.state.dirty page = true) : Beat cache flushing world (cache.cleaned page world)
  | token (world : World Inner) (text : String) (live : flushing = true)
      (fresh : text = "" ∨ ∃ before, BlobBackend.etag before = (.ok (some text), world.disk.inner)) :
      Beat cache flushing world (world.issue .persistEtag (.etag (some text)))

/-- A glance is one effect of a read, which renews the recency of the resident pages it names. -/
inductive Glance [BlobBackend Inner] (cache : FileCacheBackend) (names : Nat → Prop) :
    World Inner → World Inner → Prop where
  | query (world : World Inner) (site : Site) (after : Inner) (queried : Queried world.disk.inner after) :
      Glance cache names world (world.issue site (.inner after))
  | hit (world : World Inner) (page : Nat) (named : names page) (inside : cache.Inside world.state page)
      (present : bitGet world.state.present page = true) (budgeted : cache.budget.isSome) :
      Glance cache names world (world.touch page (!bitGet world.state.dirty page))

/-- The device keeps its size between two worlds. -/
def SameShape (before after : World Inner) : Prop :=
  after.state.devSize = before.state.devSize ∧ after.state.numPages = before.state.numPages

theorem SameShape.refl (world : World Inner) : SameShape world world := ⟨rfl, rfl⟩

theorem SameShape.trans {first middle last : World Inner} (head : SameShape first middle)
    (tail : SameShape middle last) : SameShape first last :=
  ⟨tail.1.trans head.1, tail.2.trans head.2⟩

/-- A local change keeps the device, the inner backend and the recorded token. -/
structure Local (before after : World Inner) : Prop where
  shape : SameShape before after
  inner : after.disk.inner = before.disk.inner
  etag : after.disk.etag = before.disk.etag

theorem Local.refl (world : World Inner) : Local world world := ⟨.refl world, rfl, rfl⟩

theorem Local.trans {first middle last : World Inner} (head : Local first middle) (tail : Local middle last) :
    Local first last :=
  ⟨head.shape.trans tail.shape, tail.inner.trans head.inner, tail.etag.trans head.etag⟩

section Local

variable (cache : FileCacheBackend) (world : World Inner)

theorem punchHole_local (site : Site) (offset len : Nat) :
    Local world (cache.punchHole site offset len world).2 := by
  unfold punchHole
  dsimp only
  split
  · exact ⟨.refl world, rfl, rfl⟩
  · exact ⟨.refl world, rfl, rfl⟩

theorem evictPage_local (budget : CacheBudget) (page : Nat) :
    Local world (cache.evictPage budget page world).2 := by
  unfold evictPage
  dsimp only
  set punched := if cache.pageLen world.state page = 0 then (true, world) else
    cache.punchHole (.evictClean page) (page * cache.pageSize) (cache.pageLen world.state page) world with punchedEq
  have unchanged : Local world punched.2 := by
    rw [punchedEq]
    split
    · exact .refl world
    · exact punchHole_local cache world _ _ _
  cases punched.1 with
  | false => exact ⟨unchanged.shape, unchanged.inner, unchanged.etag⟩
  | true => exact ⟨unchanged.shape, unchanged.inner, unchanged.etag⟩

theorem evictLoop_local (budget : CacheBudget) (protect : Option Nat) (fuel excess : Nat) :
    Local world (cache.evictLoop budget protect fuel excess world) := by
  induction fuel generalizing excess world with
  | zero => exact .refl world
  | succ fuel ih =>
      unfold evictLoop
      split
      · exact .refl world
      · cases world.state.lru.popLru protect with
        | mk found lru =>
            cases found with
            | none => exact .refl world
            | some page =>
                have evicted := evictPage_local cache { world with state := { world.state with lru } } budget page
                have popped : Local world { world with state := { world.state with lru } } := ⟨.refl world, rfl, rfl⟩
                dsimp only
                split
                · exact (popped.trans evicted).trans (ih _ _)
                · exact popped.trans evicted

theorem accountPresent_local (page : Nat) (clean : Bool) (diskLen : Nat) :
    Local world (cache.accountPresent page clean diskLen world) := by
  unfold accountPresent
  cases cache.budget with
  | none => exact .refl world
  | some budget =>
      dsimp only
      split
      · exact .refl world
      · split
        · exact ⟨.refl world, rfl, rfl⟩
        · split
          · exact ⟨.refl world, rfl, rfl⟩
          · unfold evictClean
            split
            · exact ⟨.refl world, rfl, rfl⟩
            · split
              · have admitted : Local world (World.withLocked cache.host (budget.admitBytes diskLen)
                    ((world.touch page clean).addResident diskLen)).2 := ⟨.refl world, rfl, rfl⟩
                exact admitted.trans (evictLoop_local cache _ _ _ _ _)
              · exact ⟨.refl world, rfl, rfl⟩

theorem storePageData_local (page offset : Nat) (data : List UInt8) :
    Local world (cache.storePageData page offset data world).2 := by
  obtain ⟨now, punched | written⟩ := storePageData_cases cache page offset data world
  · rw [punched]
    exact ⟨.refl world, rfl, rfl⟩
  · rw [written]
    exact ⟨.refl world, rfl, rfl⟩

theorem storeCleanPage_local (page offset : Nat) (data : List UInt8) :
    Local world (cache.storeCleanPage page offset data world) := by
  have stored := storePageData_local cache world page offset data
  have marked : Local world (writePresentByte (.storeCleanPage page) page
      ((cache.storePageData page offset data world).2.setPresent page true)) :=
    ⟨stored.shape, stored.inner, stored.etag⟩
  exact marked.trans (accountPresent_local cache _ _ _ _)

theorem dirtyPageRegion_local (page pageOffset : Nat) (payload : List UInt8) :
    Local world (cache.dirtyPageRegion page pageOffset payload world) := by
  obtain ⟨shape, inner, etag⟩ := accountPresent_local cache (persistMetaBit page
    (((((world.issue (.dirtyPageRegion page) (.data (.write (page * cache.pageSize + pageOffset) payload))).issue
      (.dirtyPageRegion page) (.data .sync)).setPresent page true).setDirty page true).bumpGeneration page))
    page false (cache.pageLen world.state page)
  exact ⟨shape, inner, etag⟩

theorem cleaned_local (page : Nat) : Local world (cache.cleaned page world) := by
  unfold cleaned
  dsimp only
  split
  · exact ⟨.refl world, rfl, rfl⟩
  · exact ⟨.refl world, rfl, rfl⟩

end Local

section Chains

variable [BlobBackend Inner]

variable {cache : FileCacheBackend} {flushing : Bool} {start world : World Inner}

theorem Beat.shape {before after : World Inner} (beat : Beat cache flushing before after) :
    SameShape before after := by
  cases beat with
  | query site after queried => exact .refl before
  | tick => exact .refl before
  | store page data inside absent whole => exact (storeCleanPage_local cache before _ _ _).shape
  | dirty page pageOffset payload inside some fits => exact (dirtyPageRegion_local cache before _ _ _).shape
  | upload page offset bytes live => exact .refl before
  | clean page live inside dirty => exact (cleaned_local cache before page).shape
  | token text live fresh => exact .refl before

/-- The world is reached from the start by beats. -/
def Beats (cache : FileCacheBackend) (flushing : Bool) : World Inner → World Inner → Prop :=
  Relation.ReflTransGen (Beat cache flushing)

theorem Beats.shape (beats : Beats cache flushing start world) : SameShape start world := by
  induction beats with
  | refl => exact .refl start
  | tail _ beat ih => exact ih.trans beat.shape

theorem Beats.inside (beats : Beats cache flushing start world) {page : Nat}
    (inside : cache.Inside start.state page) : cache.Inside world.state page := by
  unfold Inside
  rw [beats.shape.1]
  exact inside

theorem Beats.pageLen (beats : Beats cache flushing start world) (page : Nat) :
    cache.pageLen world.state page = cache.pageLen start.state page := by
  rw [FileCacheBackend.pageLen, beats.shape.1, FileCacheBackend.pageLen]

/-- An invariant of every beat holds wherever the beats lead. -/
theorem Beats.invariant {Inv : World Inner → Prop} (beats : Beats cache flushing start world)
    (preserved : ∀ before after, Beat cache flushing before after → Inv before → Inv after)
    (initial : Inv start) : Inv world := by
  induction beats with
  | refl => exact initial
  | tail _ beat ih => exact preserved _ _ beat ih

theorem Glance.shape {names : Nat → Prop} {before after : World Inner}
    (glance : Glance cache names before after) : SameShape before after := by
  cases glance with
  | query site after queried => exact .refl before
  | hit page named inside present budgeted => exact .refl before

/-- The world is reached from the start by glances. -/
def Glances (cache : FileCacheBackend) (names : Nat → Prop) : World Inner → World Inner → Prop :=
  Relation.ReflTransGen (Glance cache names)

theorem Glances.shape {names : Nat → Prop} (glances : Glances cache names start world) :
    SameShape start world := by
  induction glances with
  | refl => exact .refl start
  | tail _ glance ih => exact ih.trans glance.shape

theorem Glances.invariant {names : Nat → Prop} {Inv : World Inner → Prop}
    (glances : Glances cache names start world)
    (preserved : ∀ before after, Glance cache names before after → Inv before → Inv after)
    (initial : Inv start) : Inv world := by
  induction glances with
  | refl => exact initial
  | tail _ glance ih => exact preserved _ _ glance ih

end Chains

/-- The guards of a request change nothing, and its body runs only inside the device. -/
theorem guard_keeps {Value : Type} {Inv : World Inner → Prop} (message op : String) (offset len : Nat)
    {body : Action (World Inner) Value}
    (runs : ∀ world, Inv world → offset % 512 = 0 ∧ len % 512 = 0 → offset + len ≤ world.state.devSize →
      Inv (body world).2) :
    Action.Keeps Inv (do
      checkAligned message offset len
      let devSize ← Action.get fun world : World Inner => world.state.devSize
      checkInBounds op offset len devSize
      body : Action (World Inner) Value) := by
  refine Action.keeps_bind (Action.keeps_ensure _ _) fun _ _ world inv passed => ?_
  have aligned := (Action.ensure_ok passed).1
  simp only [Action.bind_apply, Action.get_apply, checkInBounds]
  by_cases overflow : 2 ^ 64 ≤ offset + len
  · simp only [if_pos overflow]
    exact inv
  · by_cases outside : world.state.devSize < offset + len
    · simp only [if_neg overflow, if_pos outside]
      exact inv
    · simp only [if_neg overflow, if_neg outside]
      exact runs world inv aligned (by omega)

section Requests

variable [BlobBackend Inner] {cache : FileCacheBackend} {flushing : Bool} {start world : World Inner}

/-- A fetch makes one call on the inner backend and returns as many bytes as were asked for. -/
theorem fetch_call (page offset len : Nat) (context : String) (wrongLength : Nat → String)
    (world : World Inner) :
    ∃ after, Queried world.disk.inner after ∧
      (fetch page offset len context wrongLength world).2 = world.issue (.fetch page) (.inner after) ∧
      ∀ data, (fetch page offset len context wrongLength world).1 = .ok data → data.length = len := by
  refine ⟨(BlobBackend.read offset len world.disk.inner).2, .read offset len, ?_⟩
  simp only [fetch, Action.bind_apply, Action.withContext, World.callInner]
  cases (BlobBackend.read offset len world.disk.inner).1 with
  | error error => exact ⟨rfl, by simp⟩
  | ok bytes =>
      simp only [Action.ensure_apply]
      by_cases exact : bytes.length = len
      · simp [exact]
      · simp [exact]

theorem ensurePage_beats {page : Nat} (inside : cache.Inside start.state page) :
    Action.Keeps (Beats cache flushing start) (cache.ensurePage page) := by
  intro world beats
  simp only [ensurePage]
  by_cases present : bitGet world.state.present page
  · rw [if_pos present]
    exact beats
  · rw [if_neg present]
    set len := min cache.pageSize (world.state.devSize - page * cache.pageSize) with lenEq
    obtain ⟨after, queried, called, whole⟩ := fetch_call page (page * cache.pageSize) len
      s!"load page {page} from inner backend"
      (fun got => s!"inner backend returned {got} bytes for page {page} (expected {len})") world
    have fetched : Beats cache flushing start (world.issue (.fetch page) (.inner after)) :=
      beats.tail (.query _ _ _ queried)
    simp only [Action.bind_apply]
    cases outcome : fetch page (page * cache.pageSize) len s!"load page {page} from inner backend"
        (fun got => s!"inner backend returned {got} bytes for page {page} (expected {len})") world with
    | mk result reached =>
        rw [outcome] at called whole
        obtain rfl : reached = _ := called
        cases result with
        | error error => exact fetched
        | ok data =>
            exact fetched.tail (.store _ page data (fetched.inside inside) (Bool.not_eq_true _ ▸ present)
              (whole data rfl))

theorem writeChunk_beats {offset : Nat} {data : List UInt8} {chunk : Chunk}
    (member : chunk ∈ chunks cache.pageSize offset data.length)
    (device : offset + data.length ≤ start.state.devSize) :
    Action.Keeps (Beats cache flushing start) (cache.writeChunk data chunk) := by
  have inside := inside_of_chunk member device
  obtain ⟨from_, within, positive, bounded⟩ :=
    (chunks_tiles cache.pageSize offset data.length cache.positive).bounds member
  have dirties : Action.Keeps (Beats cache flushing start) (.modify (cache.dirtyPageRegion chunk.page
      chunk.pageOffset ((data.drop chunk.pos).take chunk.len))) := by
    intro world beats
    have length : ((data.drop chunk.pos).take chunk.len).length = chunk.len := by
      rw [List.length_take, List.length_drop]
      omega
    refine beats.tail (.dirty _ _ _ _ (beats.inside inside) ?_ ?_)
    · intro empty
      rw [empty] at length
      simp only [List.length_nil] at length
      omega
    · rw [beats.pageLen, length, FileCacheBackend.pageLen]
      omega
  unfold writeChunk
  split
  · exact Action.keeps_bind (ensurePage_beats inside) fun _ _ after beats _ => dirties after beats
  · exact dirties

theorem writeRange_beats (op : String) (offset : Nat) (data : List UInt8) :
    Action.Keeps (Beats cache flushing start) (cache.writeRange op offset data) := by
  intro world beats
  simp only [writeRange, Action.bind_apply, Action.get_apply, checkInBounds]
  by_cases overflow : 2 ^ 64 ≤ offset + data.length
  · simp only [if_pos overflow]
    exact beats
  · by_cases outside : world.state.devSize < offset + data.length
    · simp only [if_neg overflow, if_pos outside]
      exact beats
    · simp only [if_neg overflow, if_neg outside]
      have device : offset + data.length ≤ start.state.devSize := by
        rw [← beats.shape.1]
        omega
      exact Action.keeps_forEach (fun chunk member => writeChunk_beats member device) world beats

theorem write_beats (offset : Nat) (data : List UInt8) :
    Action.Keeps (Beats cache flushing start) (cache.write offset data) := by
  unfold write
  split
  · exact Action.keeps_pure _
  · exact Action.keeps_bind (Action.keeps_ensure _ _) fun _ _ after beats _ => writeRange_beats _ _ _ after beats

theorem clear_beats (offset len : Nat) : Action.Keeps (Beats cache flushing start) (cache.clear offset len) := by
  unfold clear
  split
  · exact Action.keeps_pure _
  · exact Action.keeps_bind (Action.keeps_ensure _ _) fun _ _ after beats _ => writeRange_beats _ _ _ after beats

theorem prefetch_beats (offset len : Nat) : Action.Keeps (Beats cache flushing start) (cache.prefetch offset len) := by
  have positive := cache.positive
  unfold prefetch
  split
  · exact Action.keeps_pure _
  · refine guard_keeps _ _ _ _ fun world beats _ device => ?_
    refine Action.keeps_forEach (fun page member => ?_) world beats
    obtain ⟨low, high⟩ := List.mem_range'_1.mp member
    have covered : page * cache.pageSize < offset + len := by
      have below : page < (offset + len + cache.pageSize - 1) / cache.pageSize := by omega
      rw [Nat.lt_iff_add_one_le, Nat.le_div_iff_mul_le positive, Nat.add_mul] at below
      omega
    have inside : cache.Inside start.state page := by
      unfold Inside
      rw [← beats.shape.1]
      omega
    exact Action.keeps_bind (ensurePage_beats inside) fun _ _ after beats _ => beats

/-- A warm-up task that has not finished works on a whole page of the device. -/
def WarmSized (cache : FileCacheBackend) (state : CacheState) (page : Nat) : WarmPhase → Prop
  | .fetching offset len =>
      offset = page * cache.pageSize ∧ len = cache.pageLen state page ∧ cache.Inside state page
  | .storing offset len data =>
      offset = page * cache.pageSize ∧ len = cache.pageLen state page ∧ cache.Inside state page ∧
        data.length = len
  | _ => True

theorem warmOnePage_beats (page : Nat) (phase : WarmPhase) (beats : Beats cache flushing start world)
    (ready : cache.WarmSized start.state page phase) :
    Beats cache flushing start (cache.warmOnePage page phase world).2 ∧
      cache.WarmSized start.state page (cache.warmOnePage page phase world).1 := by
  cases phase with
  | checking =>
      simp only [warmOnePage]
      split
      · exact ⟨beats, trivial⟩
      · split
        · exact ⟨beats, trivial⟩
        · rename_i some
          refine ⟨beats, rfl, beats.pageLen page, ?_⟩
          rw [beats.shape.1] at some
          unfold Inside
          omega
  | fetching offset len =>
      obtain ⟨rfl, rfl, inside⟩ := ready
      obtain ⟨after, queried, called, whole⟩ := fetch_call page (page * cache.pageSize) (cache.pageLen start.state page)
        s!"warm-up read page {page}" (fun got =>
          s!"inner backend returned {got} bytes for page {page} (expected {cache.pageLen start.state page})") world
      simp only [warmOnePage]
      cases outcome : fetch page (page * cache.pageSize) (cache.pageLen start.state page)
          s!"warm-up read page {page}" (fun got =>
            s!"inner backend returned {got} bytes for page {page} (expected {cache.pageLen start.state page})")
          world with
      | mk result reached =>
          rw [outcome] at called whole
          obtain rfl : reached = _ := called
          cases result with
          | error error => exact ⟨beats.tail (.query _ _ _ queried), trivial⟩
          | ok data => exact ⟨beats.tail (.query _ _ _ queried), rfl, rfl, inside, whole data rfl⟩
  | storing offset len data =>
      obtain ⟨rfl, rfl, inside, whole⟩ := ready
      simp only [warmOnePage]
      split
      · exact ⟨beats, trivial⟩
      · rename_i absent
        exact ⟨beats.tail (.store _ page data (beats.inside inside) (Bool.not_eq_true _ ▸ absent)
          (by rw [beats.pageLen, whole])), trivial⟩
  | done result => exact ⟨beats, trivial⟩

theorem warmup_beats (devSize limitBytes : Nat) :
    Action.Keeps (Beats cache flushing start) (cache.warmup devSize limitBytes) := by
  intro world beats
  simp only [warmup]
  split
  · exact beats
  · have queried : Beats cache flushing start (World.callInner .dataRanges BlobBackend.dataRanges world).2 :=
      beats.tail (.query _ _ _ .dataRanges)
    have ticked := queried.tail (.tick _)
    exact (interleave_tasks cache.warmOnePage _ (Beats cache flushing start)
      (fun _ page phase => cache.WarmSized start.state page phase)
      (fun page phase world good ready =>
        have moved := warmOnePage_beats page phase good ready
        ⟨moved.1, moved.2, fun _ _ _ waiting => waiting⟩)
      _ _ _ (by rw [map_fst_tagged]; exact List.nodup_range.filter _) ticked
      (fun page phase member => by rw [(mem_tagged member).2]; trivial)).1

/-- A flush task that took a snapshot works on a page that stays dirty until it is cleaned. -/
def FlushDirty (cache : FileCacheBackend) (start : CacheState) (state : CacheState) (page : Nat) : FlushPhase → Prop
  | .uploading _ _ _ => cache.Inside start page ∧ bitGet state.dirty page = true
  | .uploaded _ => cache.Inside start page ∧ bitGet state.dirty page = true
  | _ => cache.Inside start page

theorem flushPage_beats (page : Nat) (phase : FlushPhase) (beats : Beats cache true start world)
    (ready : cache.FlushDirty start.state world.state page phase) :
    Beats cache true start (cache.flushPage page phase world).2 ∧
      cache.FlushDirty start.state (cache.flushPage page phase world).2.state page
        (cache.flushPage page phase world).1 ∧
      ∀ other, other ≠ page →
        bitGet (cache.flushPage page phase world).2.state.dirty other = bitGet world.state.dirty other := by
  cases phase with
  | waiting =>
      have inside : cache.Inside start.state page := ready
      simp only [flushPage]
      split
      · exact ⟨beats, inside, fun _ _ => rfl⟩
      · rename_i dirty
        split
        · exact ⟨beats, inside, fun _ _ => rfl⟩
        · split
          · exact ⟨beats, inside, fun _ _ => rfl⟩
          · exact ⟨beats, ⟨inside, by simpa using dirty⟩, fun _ _ => rfl⟩
  | uploading offset generation bytes =>
      simp only [flushPage, Action.withContext, World.callInner]
      cases (BlobBackend.write offset bytes world.disk.inner).1 with
      | error error => exact ⟨beats.tail (.upload _ _ _ _ rfl), ready.1, fun _ _ => rfl⟩
      | ok value => exact ⟨beats.tail (.upload _ _ _ _ rfl), ready, fun _ _ => rfl⟩
  | uploaded generation =>
      simp only [flushPage]
      split
      · exact ⟨beats, ready.1, fun _ _ => rfl⟩
      · refine ⟨beats.tail (.clean _ page rfl (beats.inside ready.1) ready.2), ready.1, ?_⟩
        intro other different
        have kept := bitGet_bitSet_other world.state.dirty false different
        split
        · exact kept
        · exact kept
  | done result => exact ⟨beats, ready, fun _ _ => rfl⟩

theorem flush_beats (shaped : cache.Shaped start.state) : Action.Keeps (Beats cache true start) cache.flush := by
  intro world beats
  have ticked : Beats cache true start { world with clock := world.clock + 1 } := beats.tail (.tick _)
  have uploads := (interleave_tasks cache.flushCollect (fun _ => false)
    (fun progress : World Inner × Option Error => Beats cache true start progress.1)
    (fun progress page phase => cache.FlushDirty start.state progress.1.state page phase)
    (fun page phase progress good ready =>
      have moved := flushPage_beats page phase good ready
      ⟨moved.1, moved.2.1, fun other task different held => by
        cases task with
        | waiting => exact held
        | uploading offset generation bytes => exact ⟨held.1, (moved.2.2 other different).trans held.2⟩
        | uploaded generation => exact ⟨held.1, (moved.2.2 other different).trans held.2⟩
        | done result => exact held⟩)
    (cache.host.schedule world.clock ++ (dirtyPages world.state).flatMap (List.replicate 3))
    ((dirtyPages world.state).map fun page => (page, .waiting))
    ({ world with clock := world.clock + 1 }, none)
    (by rw [map_fst_tagged]; exact List.nodup_range.filter _) ticked
    (fun page phase member => by
      obtain ⟨listed, rfl⟩ := mem_tagged member
      have inside := List.mem_range.mp (List.mem_filter.mp listed).1
      rw [beats.shape.2] at inside
      exact (inside_iff shaped page).mpr inside)).1
  unfold flush
  dsimp only
  split
  · exact uploads
  · refine Action.keeps_bind ?_ (fun _ _ after reached _ => ?_) _ uploads
    · exact fun world reached => reached.tail (.query _ _ _ .flush)
    · split
      · unfold recordEtag
        simp only [World.callInner]
        have asked : Beats cache true start (after.issue .innerEtag (.inner (BlobBackend.etag after.disk.inner).2)) :=
          reached.tail (.query _ _ _ .etag)
        split
        · rename_i called
          obtain ⟨answer, rfl⟩ := Prod.mk.inj called
          exact (asked.tail (.token _ "" rfl (.inl rfl))).tail
            (.token _ _ rfl (.inr ⟨after.disk.inner, Prod.ext answer rfl⟩))
        · rename_i called
          obtain ⟨_, rfl⟩ := Prod.mk.inj called
          exact asked
      · exact reached

/-- A flush without a dirty page only asks the inner backend to flush. -/
theorem flush_clean (clean : dirtyPages start.state = []) : Beats cache false start (cache.flush start).2 := by
  have ticked : Beats cache false start { start with clock := start.clock + 1 } := .single (.tick start)
  have idle (schedule : List Nat) (progress : World Inner × Option Error) :
      interleave cache.flushCollect (fun _ => false) schedule [] progress = ([], progress) := by
    induction schedule with
    | nil => rfl
    | cons turn rest ih => simpa [interleave, advance] using ih
  simp only [flush, clean, List.flatMap_nil, List.map_nil, idle]
  refine Action.keeps_bind ?_ (fun _ _ after reached _ => ?_) _ ticked
  · exact fun world reached => Relation.ReflTransGen.tail reached (.query _ _ _ .flush)
  · simpa using reached

/-- A request that is no flush, or finds nothing to upload. -/
def Quiescent (state : CacheState) (request : Request) : Prop :=
  request = .flush → dirtyPages state = []

/-- Every request other than a read is a chain of beats, in which only a flush touches the blob. -/
theorem perform_beats {request : Request} (shaped : cache.Shaped start.state)
    (writes : ∀ offset len, request ≠ .read offset len)
    (flushes : flushing = true ∨ Quiescent start.state request) :
    Beats cache flushing start (cache.perform request start).2 := by
  have done {action : Action (World Inner) Unit} (beats : Beats cache flushing start (action start).2) :
      Beats cache flushing start ((do action; pure [] : Action (World Inner) (List UInt8)) start).2 := by
    rw [Action.bind_apply]
    cases outcome : action start with
    | mk result after =>
        rw [outcome] at beats
        cases result with
        | error error => exact beats
        | ok value => exact beats
  cases request with
  | read offset len => exact absurd rfl (writes offset len)
  | write offset data => exact done (write_beats offset data start .refl)
  | clear offset len => exact done (clear_beats offset len start .refl)
  | prefetch offset len => exact done (prefetch_beats offset len start .refl)
  | warmup devSize limitBytes => exact done (warmup_beats devSize limitBytes start .refl)
  | flush =>
      apply done
      cases flushing with
      | true => exact flush_beats shaped start .refl
      | false => exact flush_clean ((flushes.resolve_left Bool.false_ne_true) rfl)

/-- An accepted read names the pages of its range. -/
def Named (cache : FileCacheBackend) (devSize offset len page : Nat) : Prop :=
  (offset % 512 = 0 ∧ len % 512 = 0 ∧ offset + len ≤ devSize) ∧
    ∃ chunk ∈ chunks cache.pageSize offset len, chunk.page = page

theorem readChunk_glances {names : Nat → Prop} {chunk : Chunk} (offset : Nat) (named : names chunk.page)
    (inside : cache.Inside world.state chunk.page) :
    Glances cache names world (cache.readChunk offset chunk world).2 := by
  simp only [readChunk]
  by_cases present : bitGet world.state.present chunk.page
  · rw [if_pos present]
    split
    · exact .refl
    · split
      · rename_i budgeted
        exact .single (.hit world chunk.page named inside present budgeted)
      · exact .refl
  · rw [if_neg present]
    obtain ⟨after, queried, called, _⟩ := fetch_call chunk.page (offset + chunk.pos) chunk.len
      s!"read offset={offset + chunk.pos} len={chunk.len}" (fun got =>
        s!"inner backend returned {got} bytes for read offset={offset + chunk.pos} len={chunk.len}") world
    rw [called]
    exact .single (.query world _ after queried)

/-- A read is a chain of glances at the pages it names. -/
theorem read_glances (offset len : Nat) :
    Glances cache (cache.Named start.state.devSize offset len) start (cache.read offset len start).2 := by
  have loop {names : Nat → Prop} (pieces : List Chunk) (result : List UInt8)
      (members : ∀ chunk ∈ pieces, names chunk.page ∧ cache.Inside start.state chunk.page) :
      Action.Keeps (Glances cache names start) (cache.readLoop offset pieces result) := by
    induction pieces generalizing result with
    | nil => exact Action.keeps_pure _
    | cons chunk rest ih =>
        refine Action.keeps_bind (fun world glances => ?_) fun _ bytes after glances _ =>
          ih _ (fun other later => members other (List.mem_cons_of_mem _ later)) after glances
        obtain ⟨named, inside⟩ := members chunk List.mem_cons_self
        rw [Inside, ← glances.shape.1] at inside
        exact Relation.ReflTransGen.trans glances (readChunk_glances offset named inside)
  unfold read
  split
  · exact .refl
  · refine guard_keeps _ _ _ _ (fun world glances aligned device => ?_) start .refl
    rw [glances.shape.1] at device
    exact loop _ [] (fun chunk member => ⟨⟨⟨aligned.1, aligned.2, device⟩, chunk, member, rfl⟩,
      inside_of_chunk member device⟩) world glances

end Requests
end FileCacheBackend
end UblkAzblob

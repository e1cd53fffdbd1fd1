import UblkAzblob.Construction.Mounts
import UblkAzblob.Proof.BudgetFile
import UblkAzblob.Proof.MetadataMirror

namespace UblkAzblob
open Storage VersionedBlob FileCacheBackend

/-- The etag call returns the token of the current revision, and no call sets the revision back. -/
class EtagStore (Inner : Type) [BlobBackend Inner] [FlatStore Inner] extends VersionedBlob Inner where
  sized : ∀ inner : Inner, length inner = FlatStore.size inner
  queried : ∀ before after : Inner, Queried before after → revision after = revision before
  written : ∀ (inner : Inner) offset bytes,
    revision inner ≤ revision (BlobBackend.write offset bytes inner).2
  live : ∀ (before after : Inner) text, BlobBackend.etag before = (.ok (some text), after) →
    text = token (revision after)
  /-- Stripping white space from the token of one revision never gives the token of another. -/
  distinct : ∀ first second, trim (token first) = token second → first = second

namespace MountSys

variable {Inner : Type} [BlobBackend Inner] [FlatStore Inner] [EtagStore Inner]

/-- The recorded token is not of a later revision, and of an earlier one unless the clean pages are checked. -/
def Dated (checked : Bool) (disk : Disk Inner) : Prop :=
  ∀ past, readRecordedEtag disk.etag = some (token Inner past) →
    past ≤ revision disk.inner ∧ (checked = false → past < revision disk.inner)

section Tokens

variable {checked flushing : Bool} {cache : FileCacheBackend} {before after world : World Inner}

theorem Dated.local (dated : Dated checked before.disk) (same : Local before after) :
    Dated checked after.disk := by
  unfold Dated
  rw [same.inner, same.etag]
  exact dated

theorem Dated.queried {site : Site} {moved : Inner} (dated : Dated checked world.disk)
    (queried : Queried world.disk.inner moved) : Dated checked (world.issue site (.inner moved)).disk := by
  have same : revision moved = revision world.disk.inner := EtagStore.queried _ _ queried
  intro past recorded
  change past ≤ revision moved ∧ (checked = false → past < revision moved)
  rw [same]
  exact dated past recorded

/-- A text that was written to the token file is read back without the white space around it. -/
theorem readRecordedEtag_some {text read : String} (recorded : readRecordedEtag (some text) = some read) :
    read = trim text := by
  simp only [readRecordedEtag] at recorded
  split at recorded
  · cases recorded
  · exact (Option.some.inj recorded).symm

/-- The token of the current revision is dated. -/
theorem dated_live {disk : Disk Inner} (live : disk.etag = some (token Inner (revision disk.inner))) :
    Dated true disk := by
  intro past recorded
  rw [live] at recorded
  have stripped : trim (token Inner (revision disk.inner)) = token Inner past :=
    (readRecordedEtag_some recorded).symm
  obtain rfl := EtagStore.distinct _ _ stripped
  exact ⟨Nat.le_refl _, fun unchecked => absurd unchecked (by decide)⟩

/-- No beat dates the token too late; an unchecked mount must not flush. -/
theorem Beat.dated (beat : Beat cache flushing before after) (safe : checked = true ∨ flushing = false)
    (dated : Dated checked before.disk) : Dated checked after.disk := by
  cases beat with
  | query site moved queried => exact dated.queried queried
  | tick => exact dated
  | store page data inside absent whole => exact dated.local (storeCleanPage_local cache before _ _ _)
  | dirty page pageOffset payload inside some fits => exact dated.local (dirtyPageRegion_local cache before _ _ _)
  | upload page offset bytes live =>
      obtain rfl := safe.resolve_right (by rw [live]; decide)
      intro past recorded
      have bound := (dated past recorded).1
      exact ⟨bound.trans (EtagStore.written _ _ _), fun unchecked => absurd unchecked (by decide)⟩
  | clean page live inside dirty => exact dated.local (cleaned_local cache before page)
  | token text live fresh =>
      obtain rfl := safe.resolve_right (by rw [live]; decide)
      rcases fresh with rfl | ⟨asked, answer⟩
      · intro past recorded
        have blank : readRecordedEtag (some "") = none := by decide
        have recorded : readRecordedEtag (some "") = some (token Inner past) := recorded
        rw [blank] at recorded
        cases recorded
      · exact dated_live (congrArg some (EtagStore.live _ _ _ answer))

theorem Glance.dated {names : Nat → Prop} (glance : Glance cache names before after)
    (dated : Dated checked before.disk) : Dated checked after.disk := by
  cases glance with
  | query site moved queried => exact dated.queried queried
  | hit page named inside present budgeted => exact dated

theorem perform_dated {request : Request} (shaped : cache.Shaped world.state)
    (safe : checked = true ∨ Quiescent world.state request) (dated : Dated checked world.disk) :
    Dated checked (cache.perform request world).2.disk := by
  have beats (writes : ∀ offset len, request ≠ .read offset len) :
      Dated checked (cache.perform request world).2.disk := by
    have run : Beats cache checked world (cache.perform request world).2 := perform_beats shaped writes safe
    refine run.invariant (fun _ _ beat => Beat.dated beat ?_) dated
    cases checked with
    | true => exact .inl rfl
    | false => exact .inr rfl
  cases request with
  | read offset len =>
      exact (read_glances offset len).invariant (fun _ _ glance => Glance.dated glance) dated
  | _ => exact beats (by simp)

end Tokens

section Invariant

variable {checked : Bool} {stale : Nat → Bool} {cache : FileCacheBackend} {world : World Inner}
variable {disk : Disk Inner}

/-- The files of a mount that has ended can be opened again. -/
structure Closed (checked : Bool) (stale : Nat → Bool) (disk : Disk Inner) : Prop where
  dated : Dated checked disk
  aligned : FlatStore.size disk.inner % 512 = 0
  bounded : FlatStore.size disk.inner < 2 ^ 64
  recorded : (∀ pageSize devSize numPages, metaReusable pageSize devSize numPages disk.metadata = false) ∨
    ∃ (geometry : Geometry) (present dirty : List UInt8), Bitmaps geometry present dirty ∧
      Mirrors geometry present dirty disk.metadata ∧
      (∀ page, bitGet dirty page = true → bitGet present page = true) ∧
      ∀ page, checked = true ∨ stale page = false → (Disk.view disk present dirty).Current geometry page

/-- A running mount is tidy, and its pages repeat the blob unless they are stale. -/
structure Mounted (checked : Bool) (stale : Nat → Bool) (cache : FileCacheBackend) (world : World Inner) :
    Prop where
  dated : Dated checked world.disk
  tidy : ∃ geometry, Tidy cache geometry world ∧
    ∀ page, checked = true ∨ stale page = false → world.view.Current geometry page

/-- A blob without cache files is closed. -/
theorem start_closed {blob : Inner} (aligned : FlatStore.size blob % 512 = 0)
    (bounded : FlatStore.size blob < 2 ^ 64) : Closed true (start blob).stale (start blob).disk where
  dated := by
    intro past recorded
    cases recorded
  aligned := aligned
  bounded := bounded
  recorded := by
    refine .inl fun pageSize devSize numPages => ?_
    have short : ¬ headerSize + 2 * bitmapBytes numPages ≤ 0 := by
      simp only [headerSize]
      omega
    simp [metaReusable, start, File.empty, short]

omit [EtagStore Inner] in
/-- A page that is not clean is current. -/
theorem current_of_unclean {geometry : Geometry} {page : Nat} (unclean : ¬ isClean world page = true) :
    world.view.Current geometry page := by
  intro x _ _ present clean
  have present : bitGet world.state.present page = true := present
  have clean : bitGet world.state.dirty page = false := clean
  exact absurd (by simp [isClean, present, clean]) unclean

omit [EtagStore Inner] in
/-- A call leaves every page current that is not stale after it. -/
theorem staleAfter_current {geometry : Geometry} {after : World Inner} {page : Nat}
    (traces : Traces (Chore geometry) world after) (fresh : staleAfter stale world after page = false)
    (current : stale page = false → world.view.Current geometry page) : after.view.Current geometry page := by
  by_cases cleanBefore : isClean world page = true
  · by_cases cleanAfter : isClean after page = true
    · by_cases fetched : (after.calls.drop world.calls.length).any (stores page) = true
      · obtain ⟨⟨site, effect⟩, issued, stored⟩ := List.any_eq_true.mp fetched
        refine Traces.current traces (.inr ?_)
        cases site with
        | storeCleanPage own =>
            cases effect with
            | data op =>
                obtain rfl : own = page := beq_iff_eq.mp stored
                exact ⟨op, issued⟩
            | _ => cases stored
        | _ => cases stored
      · refine Traces.current traces (.inl (current ?_))
        simpa [staleAfter, cleanBefore, cleanAfter, fetched] using fresh
    · exact current_of_unclean cleanAfter
  · exact Traces.current traces (.inl (current_of_unclean cleanBefore))

/-- Without a stale clean page the cache is checked. -/
theorem Mounted.settle (mounted : Mounted checked stale cache world)
    (fresh : ((List.range world.state.numPages).all fun page => !(stale page && isClean world page)) = true) :
    Mounted true stale cache world := by
  obtain ⟨geometry, tidy, current⟩ := mounted.tidy
  refine ⟨fun past recorded => ⟨(mounted.dated past recorded).1, by simp⟩, geometry, tidy, fun page _ => ?_⟩
  by_cases known : isClean world page = true
  · have inside : page ∈ List.range world.state.numPages := by
      rw [List.mem_range, tidy.numPages]
      exact tidy.presentInside page (Bool.and_eq_true_iff.mp known).1
    have notStale : stale page = false := by simpa [known] using List.all_eq_true.mp fresh page inside
    exact current page (.inr notStale)
  · exact current_of_unclean known

/-- A served call keeps the mount, unless it uploads pages of an unchecked cache. -/
theorem Mounted.serve {request : Request} (mounted : Mounted checked stale cache world)
    (safe : checked = true ∨ Quiescent world.state request) :
    Mounted checked (staleAfter stale world (cache.perform request world).2) cache
      (cache.perform request world).2 := by
  obtain ⟨geometry, tidy, current⟩ := mounted.tidy
  obtain ⟨after, traces⟩ := perform_traces tidy request
  refine ⟨perform_dated ?_ safe mounted.dated, geometry, after, fun page known => ?_⟩
  · rw [Shaped, tidy.numPages, tidy.devSize, tidy.pageSize]
    rfl
  · rcases known with sure | fresh
    · exact Traces.current traces (.inl (current page (.inl sure)))
    · exact staleAfter_current traces fresh fun notStale => current page (.inr notStale)

/-- The files of a mount that ends are closed. -/
theorem Mounted.unmount (mounted : Mounted checked stale cache world) : Closed checked stale world.disk := by
  obtain ⟨geometry, tidy, current⟩ := mounted.tidy
  refine ⟨mounted.dated, ?_, ?_, .inr ⟨geometry, world.state.present, world.state.dirty, ?_, tidy.mirror,
    tidy.resident, current⟩⟩
  · rw [tidy.innerSize]
    exact geometry.devAligned
  · rw [tidy.innerSize]
    exact geometry.devBounded
  · exact ⟨tidy.presentLen, tidy.dirtyLen, tidy.presentInside, tidy.dirtyInside⟩

/-- Another client changes the blob, and its revision grows. -/
theorem Closed.modify {after : Inner} (closed : Closed checked stale disk)
    (grows : revision disk.inner < revision after) (aligned : FlatStore.size after % 512 = 0)
    (bounded : FlatStore.size after < 2 ^ 64) : Closed false (fun _ => true) { disk with inner := after } where
  dated := by
    intro past recorded
    have bound := (closed.dated past recorded).1
    exact ⟨(bound.trans_lt grows).le, fun _ => bound.trans_lt grows⟩
  aligned := aligned
  bounded := bounded
  recorded := by
    refine closed.recorded.imp id ?_
    intro ⟨geometry, present, dirty, bitmaps, mirrors, resident, _⟩
    exact ⟨geometry, present, dirty, bitmaps, mirrors, resident, fun _ known => absurd known (by decide)⟩

section Mount

variable {cfg : FileCacheConfig} {host : Host} {currentEtag : Option String} {budgetFile : List Entry}
variable {clock recovered : Nat}

omit [BlobBackend Inner] [FlatStore Inner] [EtagStore Inner] in
/-- An open records the token it is given. -/
theorem openCache_etag {devSize : Nat}
    (opened : openCache cfg host devSize currentEtag disk budgetFile clock = .ok (cache, world, recovered)) :
    world.disk.etag = currentEtag.orElse fun _ => disk.etag := by
  obtain ⟨quiet, _⟩ := openCache_quiet opened
  rw [quiet.disk, validatedWorld]
  cases currentEtag with
  | none =>
      exact (loadOrInitMeta_keeps _ _ _ _).2.2.2
  | some current => rfl

/-- The recorded bitmaps of the same geometry are recovered, and any others are forgotten. -/
theorem Closed.opens (closed : Closed checked stale disk) (small : cfg.pageSize < 2 ^ 64)
    (opened : openCache cfg host (FlatStore.size disk.inner) currentEtag disk budgetFile clock =
      .ok (cache, world, recovered)) :
    ∃ (geometry : Geometry) (present dirty : List UInt8),
      Opened geometry host present dirty (trusted currentEtag disk.etag) disk cache world recovered ∧
      (∀ page, bitGet dirty page = true → bitGet present page = true) ∧
      ∀ page, checked = true ∨ stale page = false → (Disk.view disk present dirty).Current geometry page := by
  obtain ⟨⟨pagePositive, pageAligned⟩, devPositive⟩ := openCache_geometry opened
  let geometry : Geometry := ⟨cfg.pageSize, FlatStore.size disk.inner, pagePositive, pageAligned, devPositive,
    closed.aligned, small, closed.bounded⟩
  have blank (fresh : metaReusable geometry.pageSize geometry.devSize geometry.numPages disk.metadata = false) :
      ∃ (geometry : Geometry) (present dirty : List UInt8),
        Opened geometry host present dirty (trusted currentEtag disk.etag) disk cache world recovered ∧
        (∀ page, bitGet dirty page = true → bitGet present page = true) ∧
        ∀ page, checked = true ∨ stale page = false → (Disk.view disk present dirty).Current geometry page := by
    refine ⟨geometry, _, _, openCache_fresh geometry rfl rfl fresh opened, fun _ set => set, fun page _ => ?_⟩
    intro x _ _ present
    simp [Disk.view, bitGet_blank] at present
  rcases closed.recorded with unusable | ⟨recorded, present, dirty, bitmaps, mirrors, resident, current⟩
  · exact blank (unusable _ _ _)
  · by_cases same : geometry.pageSize = recorded.pageSize ∧ geometry.devSize = recorded.devSize
    · have size : FlatStore.size disk.inner = recorded.devSize := same.2
      rw [size] at opened
      exact ⟨recorded, present, dirty, openCache_reuse same.1 size bitmaps mirrors opened, resident, current⟩
    · exact blank (metaReusable_other (metaReusable_mirrors mirrors) same)

/-- A mount finds its clean pages checked when it is given the token of the blob. -/
theorem Closed.mount {withToken : Bool} (closed : Closed checked stale disk) (small : cfg.pageSize < 2 ^ 64)
    (given : currentEtag = if withToken then some (token Inner (revision disk.inner)) else none)
    (opened : openCache cfg host (FlatStore.size disk.inner) currentEtag disk budgetFile clock =
      .ok (cache, world, recovered)) :
    Mounted (withToken || checked) (fun page => !withToken && stale page) cache world ∧
      world.disk.inner = disk.inner := by
  obtain ⟨geometry, present, dirty, reopened, resident, current⟩ := closed.opens small opened
  have dirtyBits (page : Nat) : bitGet world.state.dirty page = bitGet dirty page := by rw [reopened.dirtyBits]
  have tidy : Tidy cache geometry world := by
    refine ⟨reopened.sound, reopened.evictable, fun page set => ?_⟩
    rw [dirtyBits] at set
    rw [reopened.presentBits, resident page set, set]
    rfl
  have token := openCache_etag opened
  refine ⟨?_, reopened.inner⟩
  cases withToken with
  | false =>
      obtain rfl : currentEtag = none := given
      have same : Dated checked world.disk := by
        unfold Dated
        rw [token, reopened.inner]
        exact closed.dated
      exact ⟨same, geometry, tidy, fun page known => opened_current reopened (current page known)⟩
  | true =>
      obtain rfl : currentEtag = some _ := given
      refine ⟨dated_live (by rw [token, reopened.inner]; rfl), geometry, tidy, fun page _ => ?_⟩
      by_cases reused : trusted (some (VersionedBlob.token Inner (revision disk.inner))) disk.etag = true
      · have recorded : readRecordedEtag disk.etag = some (VersionedBlob.token Inner (revision disk.inner)) := by
          simpa [trusted] using reused
        have sure : checked = true := by
          by_contra unsure
          exact absurd ((closed.dated _ recorded).2 (by simpa using unsure)) (Nat.lt_irrefl _)
        exact opened_current reopened (current page (.inl sure))
      · -- An untrusted open keeps only the dirty pages.
        intro x _ _ set clean
        have set : bitGet world.state.present page = true := set
        have clean : bitGet world.state.dirty page = false := clean
        rw [Bool.not_eq_true] at reused
        rw [dirtyBits] at clean
        simp [reopened.presentBits, reused, clean] at set

end Mount

/-- A mount that has not ended is running, and otherwise the files are closed. -/
def Steady (sys : MountSys Inner) : Prop :=
  ∃ checked, match sys.running with
    | none => Closed checked sys.stale sys.disk
    | some (cache, world) => Mounted checked sys.stale cache world

theorem step_steady {sys next : MountSys Inner} {event : MountEvent Inner} (steady : Steady sys)
    (condition : uploadsChecked sys event = true) (taken : step sys event = some next) : Steady next := by
  obtain ⟨disk, running, stale⟩ := sys
  cases running with
  | none =>
      obtain ⟨checked, closed⟩ : ∃ checked, Closed checked stale disk := steady
      cases event with
      | modify after =>
          simp only [step] at taken
          split at taken
          · rename_i legal
            obtain rfl := Option.some.inj taken
            rw [EtagStore.sized] at legal
            exact ⟨false, closed.modify legal.1 legal.2.1 legal.2.2⟩
          · cases taken
      | mount cfg host withToken budgetFile clock =>
          simp only [step, EtagStore.sized] at taken
          split at taken
          · rename_i small
            split at taken
            · cases taken
            · rename_i opened
              obtain rfl := Option.some.inj taken
              exact ⟨_, (closed.mount small rfl opened).1⟩
          · cases taken
      | serve request => cases taken
      | unmount => cases taken
  | some mount =>
      obtain ⟨cache, world⟩ := mount
      obtain ⟨checked, mounted⟩ : ∃ checked, Mounted checked stale cache world := steady
      cases event with
      | modify after => cases taken
      | mount cfg host withToken budgetFile clock => cases taken
      | serve request =>
          obtain rfl := Option.some.inj taken
          by_cases flushes : request = .flush
          · subst flushes
            simp only [uploadsChecked, Bool.or_eq_true, decide_eq_true_eq] at condition
            rcases condition with clean | fresh
            · exact ⟨checked, mounted.serve (.inr fun _ => clean)⟩
            · exact ⟨true, (mounted.settle fresh).serve (.inl rfl)⟩
          · exact ⟨checked, mounted.serve (.inr fun flushed => absurd flushed flushes)⟩
      | unmount =>
          obtain rfl := Option.some.inj taken
          exact ⟨checked, mounted.unmount⟩

/-- After every history of mounts, an open that is given the blob's token has clean pages that repeat the blob. -/
theorem validated_clean_pages_current (blob : Inner) (aligned : FlatStore.size blob % 512 = 0)
    (bounded : FlatStore.size blob < 2 ^ 64) (events : List (MountEvent Inner)) (sys : MountSys Inner)
    (condition : along step uploadsChecked (start blob) events = true)
    (run : execute step (start blob) events = some sys) (cfg : FileCacheConfig) (host : Host)
    (budgetFile : List Entry) (clock : Nat) (next : MountSys Inner) (cache : FileCacheBackend)
    (world : World Inner) (mounts : step sys (.mount cfg host true budgetFile clock) = some next)
    (up : next.running = some (cache, world)) :
    ∀ x, x < world.state.devSize → bitGet world.state.present (x / cache.pageSize) = true →
      bitGet world.state.dirty (x / cache.pageSize) = false →
      world.disk.data.bytes x = FlatStore.content sys.disk.inner x := by
  have initial : Steady (start blob) := ⟨true, start_closed aligned bounded⟩
  have steady : Steady sys := execute_invariant (fun _ _ _ => step_steady) initial condition run
  obtain ⟨disk, running, stale⟩ := sys
  cases running with
  | some mount => cases mounts
  | none =>
      obtain ⟨checked, closed⟩ : ∃ checked, Closed checked stale disk := steady
      simp only [step, EtagStore.sized] at mounts
      split at mounts
      · rename_i small
        split at mounts
        · cases mounts
        · rename_i opened
          obtain rfl := Option.some.inj mounts
          obtain ⟨rfl, rfl⟩ := Prod.mk.inj (Option.some.inj up)
          obtain ⟨mounted, sameInner⟩ := closed.mount small rfl opened
          obtain ⟨geometry, tidy, current⟩ := mounted.tidy
          intro x inside present clean
          rw [tidy.devSize] at inside
          rw [tidy.pageSize] at present clean
          rw [← sameInner]
          exact current _ (.inl rfl) x inside rfl present clean
      · cases mounts

end Invariant
end MountSys

/-- An in-memory blob that counts its mutations. -/
structure TaggedBlob where
  mem : MemBackend
  revision : Nat

namespace TaggedBlob

variable {Value : Type}

def query (action : Action MemBackend Value) : Action TaggedBlob Value := fun blob =>
  ((action blob.mem).1, ⟨(action blob.mem).2, blob.revision⟩)

/-- A successful mutation gives the blob a new revision. -/
def mutate (action : Action MemBackend Value) : Action TaggedBlob Value := fun blob =>
  ((action blob.mem).1, ⟨(action blob.mem).2, match (action blob.mem).1 with
    | .ok _ => blob.revision + 1
    | .error _ => blob.revision⟩)

def tag (revision : Nat) : String := String.ofList (decimal revision)

instance : BlobBackend TaggedBlob where
  create size := mutate (MemBackend.create size)
  read offset len := query (MemBackend.read offset len)
  write offset payload := mutate (MemBackend.write offset payload)
  clear offset len := mutate (MemBackend.clear offset len)
  dataRanges := query (.pure none)
  flush := query (.pure ())
  size := query (.get (·.size))
  etag blob := (.ok (some (tag blob.revision)), blob)
  abandonWrite progress offset payload blob :=
    if progress = 0 then blob else (mutate (MemBackend.write offset payload) blob).2

instance : FlatStore TaggedBlob where
  content blob := blob.mem.data
  size blob := blob.mem.size
  read_keeps blob := FlatStore.read_keeps blob.mem
  read_exact blob := FlatStore.read_exact blob.mem
  write_size blob := FlatStore.write_size blob.mem
  write_ok blob := FlatStore.write_ok blob.mem
  write_error blob := FlatStore.write_error blob.mem
  flush_keeps _ := ⟨rfl, rfl⟩
  etag_keeps _ := ⟨rfl, rfl⟩
  ranges_keep _ := ⟨rfl, rfl⟩

/-- A tag is read back as it was written. -/
theorem trim_tag (revision : Nat) : FileCacheBackend.trim (tag revision) = tag revision := by
  have digits {char : Char} (member : char ∈ decimal revision) :
      FileCacheBackend.isWhitespace char = false :=
    CacheBudget.isWhitespace_of_isDigit (isDigit_of_mem_decimal member)
  have plain : trimBoth FileCacheBackend.isWhitespace (decimal revision) = decimal revision :=
    trimBoth_eq (fun _ first => digits (List.mem_of_head? first)) fun _ last => digits (List.mem_of_getLast? last)
  rw [trimBoth] at plain
  rw [FileCacheBackend.trim, tag, String.toList_ofList, plain]

instance : EtagStore TaggedBlob where
  revision := revision
  token := tag
  length blob := blob.mem.size
  sized _ := rfl
  queried before after queried := by
    cases queried <;> rfl
  written blob offset bytes := by
    change blob.revision ≤ (mutate (MemBackend.write offset bytes) blob).2.revision
    simp only [mutate]
    split
    · exact Nat.le_succ _
    · exact Nat.le_refl _
  live before after text answer := by
    obtain ⟨tagged, rfl⟩ := Prod.mk.inj answer
    exact (Option.some.inj (Except.ok.inj tagged)).symm
  distinct first second same := by
    rw [trim_tag, tag, tag, String.ofList_inj] at same
    have back := congrArg (Nat.ofDigitChars 10 · 0) same
    simpa [decimal, Nat.ofDigitChars_ten_toDigits] using back

section Histories

open MountSys

def mountOnce (withToken : Bool) (requests : List Request) : List (MountEvent TaggedBlob) :=
  .mount ⟨"cache", 512, 0⟩ calmHost withToken [] 0 :: requests.map .serve ++ [.unmount]

def firstBlob : TaggedBlob := ⟨⟨1024, fun _ => 0⟩, 1⟩

/-- Another client has written the first page. -/
def changedBlob : TaggedBlob := ⟨⟨1024, splice (fun _ => 0) 0 (List.replicate 512 7)⟩, 2⟩

/-- The cache is filled, the blob changes, and the next mount cannot read the token but uploads a page. -/
def unvalidatedFlush : List (MountEvent TaggedBlob) :=
  mountOnce true [.prefetch 0 512] ++ [.modify changedBlob] ++
    mountOnce false [.write 512 (List.replicate 512 5), .flush]

/-- The same upload waits for a mount that has read the token. -/
def validatedFlush : List (MountEvent TaggedBlob) :=
  mountOnce true [.prefetch 0 512] ++ [.modify changedBlob] ++
    mountOnce false [.write 512 (List.replicate 512 5)] ++ mountOnce true [.flush]

/-- The test holds of the system before a last mount with a token and of the mount that is then running. -/
def remounted (events : List (MountEvent TaggedBlob))
    (test : MountSys TaggedBlob → FileCacheBackend → World TaggedBlob → Bool) : Bool :=
  (execute step (start firstBlob) events).any fun sys =>
    (step sys (.mount ⟨"cache", 512, 0⟩ calmHost true [] 0)).any fun next =>
      next.running.any fun mount => test sys mount.1 mount.2

theorem remounted_spec {events : List (MountEvent TaggedBlob)}
    {test : MountSys TaggedBlob → FileCacheBackend → World TaggedBlob → Bool} (shown : remounted events test = true) :
    ∃ sys next cache world, execute step (start firstBlob) events = some sys ∧
      step sys (.mount ⟨"cache", 512, 0⟩ calmHost true [] 0) = some next ∧
      next.running = some (cache, world) ∧ test sys cache world = true := by
  obtain ⟨sys, run, shown⟩ := (Option.any_eq_true _ _).mp shown
  obtain ⟨next, mounts, shown⟩ := (Option.any_eq_true _ _).mp shown
  obtain ⟨⟨cache, world⟩, up, shown⟩ := (Option.any_eq_true _ _).mp shown
  exact ⟨sys, next, cache, world, run, mounts, up, shown⟩

/-- A flush of an unvalidated mount records the token of a blob that the clean pages do not repeat. -/
theorem unvalidated_flush_keeps_stale_page :
    ∃ sys next cache world, execute step (start firstBlob) unvalidatedFlush = some sys ∧
      step sys (.mount ⟨"cache", 512, 0⟩ calmHost true [] 0) = some next ∧
      next.running = some (cache, world) ∧
      FileCacheBackend.readRecordedEtag sys.disk.etag = sys.currentEtag true ∧ 0 < world.state.devSize ∧
      bitGet world.state.present (0 / cache.pageSize) = true ∧
      bitGet world.state.dirty (0 / cache.pageSize) = false ∧
      world.disk.data.bytes 0 = 0 ∧ FlatStore.content sys.disk.inner 0 = 7 := by
  obtain ⟨sys, next, cache, world, run, mounts, up, shown⟩ := remounted_spec
    (show remounted unvalidatedFlush (fun sys cache world => decide (
      FileCacheBackend.readRecordedEtag sys.disk.etag = sys.currentEtag true ∧ 0 < world.state.devSize ∧
      bitGet world.state.present (0 / cache.pageSize) = true ∧
      bitGet world.state.dirty (0 / cache.pageSize) = false ∧
      world.disk.data.bytes 0 = 0 ∧ FlatStore.content sys.disk.inner 0 = 7)) = true by decide +kernel)
  exact ⟨sys, next, cache, world, run, mounts, up, of_decide_eq_true shown⟩

/-- After a validated flush the uploaded page is clean and repeats the blob. -/
theorem validated_clean_pages_current_flushed :
    ∃ sys next cache world, execute step (start firstBlob) validatedFlush = some sys ∧
      step sys (.mount ⟨"cache", 512, 0⟩ calmHost true [] 0) = some next ∧
      next.running = some (cache, world) ∧
      world.disk.data.bytes 512 = FlatStore.content sys.disk.inner 512 := by
  have condition : along step uploadsChecked (start firstBlob) validatedFlush = true := by decide +kernel
  obtain ⟨sys, next, cache, world, run, mounts, up, shown⟩ := remounted_spec
    (show remounted validatedFlush (fun _ cache world => decide (512 < world.state.devSize ∧
      bitGet world.state.present (512 / cache.pageSize) = true ∧
      bitGet world.state.dirty (512 / cache.pageSize) = false)) = true by decide +kernel)
  obtain ⟨inside, present, clean⟩ := of_decide_eq_true shown
  exact ⟨sys, next, cache, world, run, mounts, up, validated_clean_pages_current firstBlob (by decide) (by decide)
    validatedFlush sys condition run _ _ _ _ next cache world mounts up 512 inside present clean⟩

end Histories
end TaggedBlob
end UblkAzblob

import UblkAzblob.Proof.DiskImage
import UblkAzblob.Proof.FileCacheRun

namespace UblkAzblob
open Storage FileCacheBackend

variable {Inner : Type}

/-- A call exposes a page when the page may be recorded as clean while its bytes are not the blob's. The present byte
of a page is written for an overwrite and for a flush, and only the former follows a call of the overwrite. -/
def exposes (before : Option (Call Inner)) (call : Call Inner) (page : Nat) : Prop :=
  match call.site, call.effect with
  | .dirtyPageRegion own, _ => page = own
  | .persistPresent own, _ => page = own ∧ before.map Call.site = some (.dirtyPageRegion own)
  | .evictClean own, .data _ => page = own
  | .create, .inner _ => True
  | .create, .data _ => True
  | .writeHeader, _ => True
  | _, _ => False

/-- A page is exposed when the last call before the kill left it so. -/
def Exposed (calls : List (Call Inner)) (page : Nat) : Prop :=
  ∃ call ∈ calls.getLast?, exposes calls.dropLast.getLast? call page

instance (before : Option (Call Inner)) (call : Call Inner) (page : Nat) : Decidable (exposes before call page) := by
  unfold exposes
  split <;> infer_instance

instance (calls : List (Call Inner)) (page : Nat) : Decidable (Exposed calls page) :=
  inferInstanceAs (Decidable (∃ call ∈ calls.getLast?, exposes calls.dropLast.getLast? call page))

/-- An earlier call does not matter to what the later ones expose. -/
theorem exposed_append {calls rest : List (Call Inner)} {page : Nat} (exposed : Exposed rest page) :
    Exposed (calls ++ rest) page := by
  obtain ⟨call, last, exposing⟩ := exposed
  have some : rest ≠ [] := by
    rintro rfl
    cases last
  refine ⟨call, by rw [List.getLast?_append, last]; rfl, ?_⟩
  rw [List.dropLast_append_of_ne_nil some]
  cases earlier : rest.dropLast.getLast? with
  | some before =>
      rw [earlier] at exposing
      rwa [List.getLast?_append, earlier]
  | none =>
      rw [earlier] at exposing
      unfold exposes at exposing ⊢
      split at exposing <;> simp_all

section Images

variable [BlobBackend Inner] [FlatStore Inner]

/-- The metadata file records the page as present and not dirty. -/
def RecordedClean (pageSize : Nat) (disk : Disk Inner) (page : Nat) : Prop :=
  let numPages := (FlatStore.size disk.inner + pageSize - 1) / pageSize
  bitGet (recordedPresent numPages disk.metadata) page = true ∧
    bitGet (recordedDirty numPages disk.metadata) page = false

/-- Every page that the files record as clean, and that is not exempt, has the blob's bytes. -/
def Trustworthy (pageSize : Nat) (exempt : Nat → Prop) (disk : Disk Inner) : Prop :=
  let devSize := FlatStore.size disk.inner
  metaReusable pageSize devSize ((devSize + pageSize - 1) / pageSize) disk.metadata = true →
    ∀ x, x < devSize → ¬ exempt (x / pageSize) → RecordedClean pageSize disk (x / pageSize) →
      disk.data.bytes x = FlatStore.content disk.inner x

variable {geometry : Geometry} {before after view : View} {disk : Disk Inner}
variable {calls inside : List (Call Inner)}

/-- Files that depict a view are as trustworthy as the view is coherent. -/
theorem Depicts.trustworthy {exempt : Nat → Prop} (depicts : Depicts geometry view disk)
    (clean : ∀ x, x < geometry.devSize → ¬ exempt (x / geometry.pageSize) →
      view.present (x / geometry.pageSize) = true → view.dirty (x / geometry.pageSize) = false →
      view.data x = view.inner x) : Trustworthy geometry.pageSize exempt disk := by
  rintro _ x device kept ⟨present, dirty⟩
  rw [depicts.size] at device
  have pages : (FlatStore.size disk.inner + geometry.pageSize - 1) / geometry.pageSize =
      geometry.numPages := by
    rw [depicts.size, Geometry.numPages]
  have page := geometry.page_lt device
  rw [pages, bitGet_recordedPresent depicts.records page] at present
  rw [pages, bitGet_recordedDirty depicts.records page] at dirty
  rw [depicts.data, depicts.inner]
  exact clean x device kept present dirty

/-- Files that record no page are trustworthy. -/
theorem trustworthy_of_blank {pageSize : Nat} {exempt : Nat → Prop} (positive : 0 < pageSize)
    (blank : ∀ page, page < (FlatStore.size disk.inner + pageSize - 1) / pageSize →
      bitGet (recordedPresent ((FlatStore.size disk.inner + pageSize - 1) / pageSize) disk.metadata)
        page = false) : Trustworthy pageSize exempt disk := by
  rintro _ x device _ ⟨present, _⟩
  have page : x / pageSize < (FlatStore.size disk.inner + pageSize - 1) / pageSize := by
    have := Nat.div_mul_le_self x pageSize
    rw [Nat.lt_iff_add_one_le, Nat.le_div_iff_mul_le positive, Nat.add_mul]
    omega
  rw [blank _ page] at present
  cases present

/-- Away from the page of a step, a cut through it leaves what was there. -/
theorem Depicts.cut (page : Nat) {exempt : Nat → Prop} (depicts : Depicts geometry view disk)
    (coherent : before.Coherent geometry)
    (others : ∀ x, x < geometry.devSize → x / geometry.pageSize ≠ page →
      view.data x = before.data x ∧ view.inner x = before.inner x)
    (bits : ∀ other, other ≠ page → view.present other = before.present other ∧
      view.dirty other = before.dirty other)
    (own : ¬ exempt page → view.present page = true → view.dirty page = true) :
    Trustworthy geometry.pageSize exempt disk := by
  refine depicts.trustworthy ?_
  intro x device kept present clean
  by_cases same : x / geometry.pageSize = page
  · rw [same] at kept present clean
    exact absurd (own kept present) (by rw [clean]; simp)
  · obtain ⟨data, inner⟩ := others x device same
    obtain ⟨samePresent, sameDirty⟩ := bits _ same
    rw [data, inner]
    exact coherent.clean x device (samePresent.symm.trans present) (sameDirty.symm.trans clean)

omit [BlobBackend Inner] [FlatStore Inner] in
theorem prefix_singleton {call : Call Inner} (cut : inside <+: [call]) (some : inside ≠ []) :
    inside = [call] := by
  rcases List.prefix_cons_iff.mp cut with rfl | ⟨rest, rfl, more⟩
  · exact absurd rfl some
  · rw [List.prefix_nil.mp more]

/-- A cut through a step leaves trustworthy files, except for the page that it exposes. -/
theorem Upkeep.cut (step : Upkeep geometry before calls after) (coherent : before.Coherent geometry)
    (depicts : Depicts geometry before disk) (cut : inside <+: calls) (some : inside ≠ []) :
    Trustworthy geometry.pageSize (Exposed inside) (replay inside disk) := by
  have whole : Trustworthy geometry.pageSize (Exposed calls) (replay calls disk) :=
    (step.depicts depicts).trustworthy fun x device _ => (step.coherent coherent).clean x device
  cases step with
  | fetch page moved same sized =>
      rw [prefix_singleton cut some]
      exact whole
  | load page bytes op byte inPage absent fresh stores bits =>
      rcases List.prefix_cons_iff.mp cut with rfl | ⟨rest, rfl, more⟩
      · exact absurd rfl some
      by_cases last : rest = []
      · rw [last]
        have outside := geometry.mem_page page
        have stored : Depicts geometry { before with
            data := splice before.data (page * geometry.pageSize) bytes }
            (replay [⟨.storeCleanPage page, .data op⟩] disk) := by
          refine { depicts with data := ?_ }
          change (op.apply disk.data).bytes = _
          rw [stored_bytes disk.data stores, depicts.data]
        refine stored.cut page coherent ?_ (fun _ _ => ⟨rfl, rfl⟩) ?_
        · intro x device different
          refine ⟨?_, rfl⟩
          have := (outside x).not.mpr (by simp [different])
          exact splice_outside (by rw [fresh, length_slice]; omega)
        · intro _ present
          exact absurd present (by change ¬ before.present page = true; rw [absent]; simp)
      · rw [prefix_singleton more last]
        exact whole
  | evict page byte inPage clean bits =>
      rcases List.prefix_cons_iff.mp cut with rfl | ⟨rest, rfl, more⟩
      · exact absurd rfl some
      by_cases last : rest = []
      · rw [last]
        have punched : Depicts geometry { before with
            data := zeroed before.data (page * geometry.pageSize) (geometry.pageLen page) }
            (replay [⟨.evictClean page, .data (.punch (page * geometry.pageSize)
              (geometry.pageLen page))⟩] disk) := by
          refine { depicts with data := ?_ }
          change zeroed disk.data.bytes _ _ = _
          rw [depicts.data]
        refine punched.cut page coherent ?_ (fun _ _ => ⟨rfl, rfl⟩) ?_
        · intro x device different
          have := (geometry.mem_page page x).not.mpr (by simp [different])
          exact ⟨if_neg this, rfl⟩
        · exact fun hidden => absurd ⟨_, rfl, rfl⟩ hidden
      · rw [prefix_singleton more last]
        exact whole

theorem Dirties.cut {page pageOffset : Nat} {payload : List UInt8}
    (step : Dirties geometry page pageOffset payload before calls after)
    (coherent : before.Coherent geometry) (depicts : Depicts geometry before disk)
    (cut : inside <+: calls) (some : inside ≠ []) :
    Trustworthy geometry.pageSize (Exposed inside) (replay inside disk) := by
  have whole : Trustworthy geometry.pageSize (Exposed calls) (replay calls disk) :=
    (step.depicts depicts).trustworthy fun x device _ => (step.coherent coherent).clean x device
  obtain ⟨presentByte, dirtyByte, inPage, ready, fits, presentBits, dirtyBits⟩ := step
  set bytes := splice before.data (page * geometry.pageSize + pageOffset) payload with bytesEq
  have others (x : Nat) (_ : x < geometry.devSize) (different : x / geometry.pageSize ≠ page) :
      bytes x = before.data x := by
    have := (geometry.mem_page page x).not.mpr (by simp [different])
    exact splice_outside (by omega)
  have written : Depicts geometry { before with data := bytes } (replay [⟨.dirtyPageRegion page,
      .data (.write (page * geometry.pageSize + pageOffset) payload)⟩] disk) := by
    refine { depicts with data := ?_ }
    change splice disk.data.bytes _ _ = _
    rw [depicts.data]
  have present := written.records.writePresent inPage presentBits (update_other_byte _ _ _)
  rcases List.prefix_cons_iff.mp cut with rfl | ⟨first, rfl, afterWrite⟩
  · exact absurd rfl some
  rcases List.prefix_cons_iff.mp afterWrite with rfl | ⟨second, rfl, afterSync⟩
  · exact written.cut page coherent (fun x device different => ⟨others x device different, rfl⟩)
      (fun _ _ => ⟨rfl, rfl⟩) fun hidden => absurd ⟨_, rfl, rfl⟩ hidden
  rcases List.prefix_cons_iff.mp afterSync with rfl | ⟨third, rfl, afterPresent⟩
  · exact written.cut page coherent (fun x device different => ⟨others x device different, rfl⟩)
      (fun _ _ => ⟨rfl, rfl⟩) fun hidden => absurd ⟨_, rfl, rfl⟩ hidden
  rcases List.prefix_cons_iff.mp afterPresent with rfl | ⟨fourth, rfl, afterDirty⟩
  · refine Depicts.cut page (show Depicts geometry { before with
        data := bytes, present := Function.update before.present page true } _ from
      ⟨written.data, written.inner, written.size, present⟩) coherent
      (fun x device different => ⟨others x device different, rfl⟩)
      (fun other different => ⟨Function.update_of_ne different _ _, rfl⟩) ?_
    exact fun hidden => absurd ⟨_, rfl, rfl, rfl⟩ hidden
  by_cases last : fourth = []
  · rw [last]
    refine Depicts.cut page (show Depicts geometry { before with
        data := bytes
        present := Function.update before.present page true
        dirty := Function.update before.dirty page true } _ from
      ⟨written.data, written.inner, written.size,
        present.writeDirty inPage dirtyBits (update_other_byte _ _ _)⟩) coherent
      (fun x device different => ⟨others x device different, rfl⟩) (fun other different =>
        ⟨Function.update_of_ne different _ _, Function.update_of_ne different _ _⟩) ?_
    exact fun _ _ => Function.update_self _ _ _
  · rw [prefix_singleton afterDirty last]
    exact whole

theorem Cleans.cut {page : Nat} (step : Cleans geometry page before calls after)
    (coherent : before.Coherent geometry) (depicts : Depicts geometry before disk)
    (cut : inside <+: calls) (some : inside ≠ []) :
    Trustworthy geometry.pageSize (Exposed inside) (replay inside disk) := by
  have coherentAfter := step.coherent coherent
  have whole : Trustworthy geometry.pageSize (Exposed calls) (replay calls disk) :=
    (step.depicts depicts).trustworthy fun x device _ => coherentAfter.clean x device
  obtain ⟨presentByte, dirtyByte, inPage, same, presentBits, dirtyBits⟩ := step
  have present := depicts.records.writePresent inPage presentBits fun _ _ => rfl
  rcases List.prefix_cons_iff.mp cut with rfl | ⟨first, rfl, afterPresent⟩
  · exact absurd rfl some
  rcases List.prefix_cons_iff.mp afterPresent with rfl | ⟨second, rfl, afterDirty⟩
  · exact Depicts.trustworthy (show Depicts geometry before _ from
      ⟨depicts.data, depicts.inner, depicts.size, present⟩) fun x device _ => coherent.clean x device
  by_cases last : second = []
  · rw [last]
    exact Depicts.trustworthy (show Depicts geometry (before.cleaned page) _ from
      ⟨depicts.data, depicts.inner, depicts.size,
        present.writeDirty inPage dirtyBits (update_other_byte _ _ _)⟩)
      fun x device _ => coherentAfter.clean x device
  · rw [prefix_singleton afterDirty last]
    exact whole

theorem Pushes.cut (step : Pushes geometry before calls after) (coherent : before.Coherent geometry)
    (depicts : Depicts geometry before disk) (cut : inside <+: calls) (some : inside ≠ []) :
    Trustworthy geometry.pageSize (Exposed inside) (replay inside disk) := by
  have whole : Trustworthy geometry.pageSize (Exposed calls) (replay calls disk) :=
    (step.depicts depicts).trustworthy fun x device _ => (step.coherent coherent).clean x device
  cases step with
  | upload _ page moved inPage dirty landed sized =>
      rw [prefix_singleton cut some]
      exact whole
  | cleans step => exact step.cut coherent depicts cut some
  | token _ contents =>
      rw [prefix_singleton cut some]
      exact whole
  | query _ site moved same sized =>
      rw [prefix_singleton cut some]
      exact whole

theorem Chore.cut (step : Chore geometry before calls after) (coherent : before.Coherent geometry)
    (depicts : Depicts geometry before disk) (cut : inside <+: calls) (some : inside ≠ []) :
    Trustworthy geometry.pageSize (Exposed inside) (replay inside disk) := by
  cases step with
  | settle step =>
      cases step with
      | upkeep step => exact step.cut coherent depicts cut some
      | pushes step => exact step.cut coherent depicts cut some
  | dirties step => exact step.cut coherent depicts cut some

theorem Trustworthy.mono {pageSize : Nat} {exempt more : Nat → Prop}
    (trustworthy : Trustworthy pageSize exempt disk) (weaker : ∀ page, exempt page → more page) :
    Trustworthy pageSize more disk :=
  fun reusable x device kept => trustworthy reusable x device fun hidden => kept (weaker _ hidden)

/-- A cut through a trail of steps leaves trustworthy files, except for an exposed page. -/
theorem trail_cut (trail : Trail (Chore geometry) before calls after)
    (coherent : before.Coherent geometry) (depicts : Depicts geometry before disk)
    (cut : inside <+: calls) :
    Trustworthy geometry.pageSize (Exposed inside) (replay inside disk) := by
  obtain ⟨early, middle, rest, walked, rfl, position⟩ := trail.cut cut
  obtain ⟨coherentMiddle, depictsMiddle⟩ := trail_depicts walked coherent depicts
  rw [replay_append]
  by_cases boundary : rest = []
  · rw [boundary]
    exact depictsMiddle.trustworthy fun x device _ => coherentMiddle.clean x device
  · rcases position with empty | ⟨whole, next, step, within⟩
    · exact absurd empty boundary
    · exact (step.cut coherentMiddle depictsMiddle within boundary).mono fun _ => exposed_append

/-- A cut inside calls that all expose every page promises nothing. -/
theorem trustworthy_of_exposing (pageSize : Nat) (all : ∀ call ∈ calls, ∀ before page, exposes before call page)
    (cut : inside <+: calls) (some : inside ≠ []) :
    Trustworthy pageSize (Exposed inside) (replay inside disk) := by
  intro _ x _ kept
  have last := List.getLast?_eq_some_getLast some
  exact absurd ⟨_, last, all _ (cut.subset (List.getLast_mem some)) _ _⟩ kept

/-- No page is recorded in the first bytes of the metadata file. -/
def Unrecorded (geometry : Geometry) (disk : Disk Inner) : Prop :=
  FlatStore.size disk.inner = geometry.devSize ∧
    ∀ index, index < geometry.bitmapLen → disk.metadata.bytes (headerSize + index) = 0

theorem Unrecorded.trustworthy {exempt : Nat → Prop} (unrecorded : Unrecorded geometry disk) :
    Trustworthy geometry.pageSize exempt disk := by
  obtain ⟨size, zero⟩ := unrecorded
  refine trustworthy_of_blank geometry.pagePositive ?_
  rw [size, show (geometry.devSize + geometry.pageSize - 1) / geometry.pageSize = geometry.numPages from rfl]
  intro page inPage
  have byte : page / 8 < bitmapBytes geometry.numPages := geometry.byte_lt_bitmapLen inPage
  rw [recordedPresent, bitGet_slice _ _ _ _ byte, zero _ byte]
  simp [byteBit]

/-- These calls record no page after the present bitmap has been blanked. -/
def Recordless (geometry : Geometry) (call : Call Inner) : Prop :=
  ∀ disk, Unrecorded geometry disk → Unrecorded geometry (call.effect.apply disk)

theorem unrecorded_replay (all : ∀ call ∈ calls, Recordless geometry call)
    (unrecorded : Unrecorded geometry disk) : Unrecorded geometry (replay calls disk) := by
  induction calls generalizing disk with
  | nil => exact unrecorded
  | cons call rest ih =>
      exact ih (fun other member => all other (List.mem_cons_of_mem _ member))
        (all call List.mem_cons_self disk unrecorded)

omit [BlobBackend Inner] [FlatStore Inner] in
theorem prefix_append_cases {early first second : List (Call Inner)} (cut : early <+: first ++ second) :
    early <+: first ∨ ∃ more, early = first ++ more ∧ more <+: second := by
  rcases List.prefix_or_prefix_of_prefix cut (List.prefix_append first second) with
    inside | ⟨more, rfl⟩
  · exact .inl inside
  · exact .inr ⟨more, rfl, (List.prefix_append_right_inj first).mp cut⟩

/-- A cut while blank metadata is written leaves stale bits exposed, or no bits at all. -/
theorem blankMeta_cut (lead tail : List (Call Inner))
    (exposing : ∀ call ∈ lead, ∀ before page, exposes before call page)
    (sized : FlatStore.size (replay lead disk).inner = geometry.devSize)
    (recordless : ∀ call ∈ tail, Recordless geometry call)
    (cut : inside <+: lead ++ blankMeta geometry ++ tail) (some : inside ≠ []) :
    Trustworthy geometry.pageSize (Exposed inside) (replay inside disk) := by
  have blankLen : (blankBitmap geometry.numPages).length = geometry.bitmapLen := List.length_replicate
  set stale : List (Call Inner) := lead ++ (blankMeta geometry).take 2 with staleEq
  set settled : List (Call Inner) := (blankMeta geometry).drop 3 ++ tail with settledEq
  have order : lead ++ blankMeta geometry ++ tail = stale ++
      ⟨.writePresentBitmap, .metadata (.write headerSize (blankBitmap geometry.numPages))⟩ :: settled := by
    simp [staleEq, settledEq, blankMeta]
  have staleExposing : ∀ call ∈ stale, ∀ before page, exposes before call page := by
    intro call member before page
    rcases List.mem_append.mp member with early | late
    · exact exposing call early before page
    · simp only [blankMeta, List.take_succ_cons, List.take_zero, List.mem_cons, List.not_mem_nil,
        or_false] at late
      rcases late with rfl | rfl <;> trivial
  rw [order] at cut
  rcases prefix_append_cases cut with early | ⟨more, rfl, later⟩
  · exact trustworthy_of_exposing _ staleExposing early some
  rcases List.prefix_cons_iff.mp later with rfl | ⟨rest, rfl, settling⟩
  · rw [List.append_nil] at some ⊢
    exact trustworthy_of_exposing _ staleExposing (List.prefix_refl _) some
  rw [replay_append, replay_cons]
  refine (unrecorded_replay ?_ ?_).trustworthy
  · intro call member
    rcases List.mem_append.mp (settling.subset member) with late | late
    · simp only [blankMeta, List.drop_succ_cons, List.drop_zero, List.mem_cons, List.not_mem_nil,
        or_false] at late
      rcases late with rfl | rfl
      · rintro image ⟨size, zero⟩
        refine ⟨size, fun index inBitmap => ?_⟩
        simp only [Effect.apply, FileOp.apply, blankLen]
        rw [splice_outside (by omega)]
        exact zero index inBitmap
      · exact fun image unrecorded => unrecorded
    · exact recordless call late
  · refine ⟨?_, fun index inBitmap => ?_⟩
    · rw [staleEq, replay_append]
      exact sized
    · simp only [Effect.apply, FileOp.apply]
      rw [splice_inside (by omega) (by rw [blankLen]; omega)]
      exact byteAt_replicate _ _

end Images

namespace FileCacheBackend

section Runs

variable [BlobBackend Inner] [CreatableStore Inner] {cache : FileCacheBackend} {world : World Inner}

/-- Every cut of the log leaves trustworthy files, except for the page that it exposes. -/
structure Auditable (pageSize : Nat) (disk : Disk Inner) (world : World Inner) : Prop where
  replayed : world.disk = replay world.calls disk
  cuts : ∀ early, early <+: world.calls → Trustworthy pageSize (Exposed early) (replay early disk)

/-- The log stays auditable when every cut of the new calls is trustworthy. -/
theorem Auditable.issues {pageSize : Nat} {disk : Disk Inner} {after : World Inner}
    {calls : List (Call Inner)} (auditable : Auditable pageSize disk world)
    (issued : Issues world calls after)
    (fresh : ∀ inside, inside <+: calls → inside ≠ [] →
      Trustworthy pageSize (Exposed inside) (replay inside world.disk)) :
    Auditable pageSize disk after where
  replayed := by rw [issued.disk, issued.logged, replay_append, auditable.replayed]
  cuts early cut := by
    rw [issued.logged] at cut
    rcases prefix_append_cases cut with old | ⟨inside, rfl, recent⟩
    · exact auditable.cuts early old
    by_cases boundary : inside = []
    · rw [boundary, List.append_nil]
      exact auditable.cuts _ (List.prefix_refl _)
    · rw [replay_append, ← auditable.replayed]
      exact (fresh inside recent boundary).mono fun _ => exposed_append

/-- A running cache is coherent, and so is every cut of its log, except for exposed pages. -/
def Audited (cache : FileCacheBackend) (pageSize : Nat) (disk : Disk Inner) (world : World Inner) : Prop :=
  ∃ geometry : Geometry, geometry.pageSize = pageSize ∧ Tidy cache geometry world ∧
    world.view.Coherent geometry ∧ Auditable pageSize disk world

theorem renewal_cut {geometry : Geometry} {moved : Inner} {disk : Disk Inner}
    {inside : List (Call Inner)} (sized : FlatStore.size moved = geometry.devSize)
    (cut : inside <+: renewal geometry moved) (some : inside ≠ []) :
    Trustworthy geometry.pageSize (Exposed inside) (replay inside disk) := by
  refine blankMeta_cut [⟨.create, .inner moved⟩, ⟨.create, .data (.setLen geometry.devSize)⟩]
    [⟨.create, .etag none⟩] ?_ sized ?_ cut some
  · intro call member before page
    simp only [List.mem_cons, List.not_mem_nil, or_false] at member
    rcases member with rfl | rfl <;> trivial
  · intro call member
    obtain rfl := List.mem_singleton.mp member
    exact fun _ unrecorded => unrecorded

theorem operate_audited {pageSize : Nat} {disk : Disk Inner}
    (audited : Audited cache pageSize disk world) (operation : Operation) :
    Audited cache pageSize disk (cache.operate operation world) := by
  obtain ⟨geometry, rfl, tidy, coherent, auditable⟩ := audited
  rcases operate_cases tidy operation with
    ⟨after, calls, issued, trail⟩ | ⟨renewed, samePage, renewal⟩
  · refine ⟨geometry, rfl, after, (trail_depicts trail coherent tidy.toSound.depicts).1, ?_⟩
    exact auditable.issues issued fun inside cut _ => trail_cut trail coherent tidy.toSound.depicts cut
  · obtain ⟨moved, sized, issued⟩ := renewal.issued
    refine ⟨renewed, samePage, renewal.tidy, coherent_of_absent renewal.tidy renewal.absent, ?_⟩
    refine auditable.issues issued fun inside cut some => ?_
    rw [← samePage]
    exact renewal_cut sized cut some

theorem run_audited {pageSize : Nat} {disk : Disk Inner}
    (audited : Audited cache pageSize disk world) (operations : List Operation) :
    Audited cache pageSize disk (cache.run operations world) := by
  induction operations generalizing world with
  | nil => exact audited
  | cons operation rest ih => exact ih (operate_audited audited operation)

/-- A cache that starts without usable metadata is audited from its first call. -/
theorem openCache_audited (geometry : Geometry) {cfg : FileCacheConfig} {host : Host}
    {etag : Option String} {disk : Disk Inner} {budgetFile : List Entry} {clock recovered : Nat}
    (samePage : cfg.pageSize = geometry.pageSize)
    (size : FlatStore.size disk.inner = geometry.devSize)
    (fresh : metaReusable geometry.pageSize geometry.devSize geometry.numPages disk.metadata = false)
    (opened : openCache cfg host geometry.devSize etag disk budgetFile clock =
      .ok (cache, world, recovered)) :
    Audited cache geometry.pageSize disk world := by
  have start := opened_fresh (openCache_fresh geometry samePage size fresh opened)
  obtain ⟨logged, landed⟩ := openCache_issues geometry samePage fresh opened
  refine ⟨geometry, rfl, start.tidy, start.coherent, by rw [logged]; exact landed, ?_⟩
  intro early cut
  have unusable (image : Disk Inner) (sameMeta : image.metadata = disk.metadata)
      (sameInner : image.inner = disk.inner) (exempt : Nat → Prop) :
      Trustworthy geometry.pageSize exempt image := by
    intro reusable
    rw [sameMeta, sameInner, size] at reusable
    exact absurd reusable (by
      rw [show (geometry.devSize + geometry.pageSize - 1) / geometry.pageSize = geometry.numPages
        from rfl, fresh]
      simp)
  rw [logged, freshStart, List.append_assoc, List.singleton_append] at cut
  rcases List.prefix_cons_iff.mp cut with rfl | ⟨rest, rfl, more⟩
  · exact unusable disk rfl rfl _
  by_cases boundary : rest = []
  · rw [boundary]
    apply unusable
    · rfl
    · rfl
  · rw [← List.singleton_append, replay_append]
    refine Trustworthy.mono ?_ fun _ => exposed_append
    refine blankMeta_cut [] (tokenCalls etag) (fun _ member => absurd member List.not_mem_nil) size ?_
      more boundary
    intro call member
    cases etag with
    | none => exact absurd member List.not_mem_nil
    | some current =>
        simp only [tokenCalls, List.mem_cons, List.not_mem_nil, or_false] at member
        rcases member with rfl | rfl <;> exact fun _ unrecorded => unrecorded

/-- A kill leaves trustworthy files, except for a page exposed in the middle of an operation. -/
theorem Audited.killed {pageSize : Nat} {disk : Disk Inner} (audited : Audited cache pageSize disk world)
    (kill : Nat) : Trustworthy pageSize
      (fun page => kill < world.calls.length ∧ Exposed (world.calls.take kill) page)
      (replay (world.calls.take kill) disk) := by
  obtain ⟨geometry, rfl, tidy, coherent, auditable⟩ := audited
  by_cases inside : kill < world.calls.length
  · exact (auditable.cuts _ (List.take_prefix _ _)).mono fun page hidden => ⟨inside, hidden⟩
  · rw [List.take_of_length_le (by omega), ← auditable.replayed]
    exact tidy.toSound.depicts.trustworthy fun x device _ => coherent.clean x device

/-- After a kill, a page that comes back clean has the blob's bytes, unless it was exposed while recorded as clean. -/
theorem kill_leaves_coherent_cache (cfg again : FileCacheConfig) {host hostAgain : Host} {devSize : Nat}
    {etag etagAgain : Option String} (disk : Disk Inner) {budgetFile budgetAgain : List Entry}
    {clock clockAgain : Nat} {cache reopened : FileCacheBackend} {world recovered : World Inner}
    {count countAgain : Nat}
    (pageBounded : cfg.pageSize < 2 ^ 64) (devBounded : devSize < 2 ^ 64)
    (devAligned : devSize % 512 = 0) (size : FlatStore.size disk.inner = devSize)
    (fresh : metaReusable cfg.pageSize devSize ((devSize + cfg.pageSize - 1) / cfg.pageSize)
      disk.metadata = false)
    (opened : openCache cfg host devSize etag disk budgetFile clock = .ok (cache, world, count))
    (operations : List Operation) (kill : Nat) (samePage : again.pageSize = cfg.pageSize) :
    let issued := (cache.run operations world).calls.take kill
    let left := replay issued disk
    let leftSize := FlatStore.size left.inner
    openCache again hostAgain leftSize etagAgain left budgetAgain clockAgain =
        .ok (reopened, recovered, countAgain) →
      ∀ page,
        (kill < (cache.run operations world).calls.length →
          metaReusable cfg.pageSize leftSize ((leftSize + cfg.pageSize - 1) / cfg.pageSize)
            left.metadata = true → trusted etagAgain left.etag = true →
          ¬ (RecordedClean cfg.pageSize left page ∧ Exposed issued page)) →
        bitGet recovered.state.present page = true → bitGet recovered.state.dirty page = false →
        ∀ x, x < leftSize → x / cfg.pageSize = page →
          recovered.disk.data.bytes x = FlatStore.content recovered.disk.inner x := by
  intro issued left leftSize reopening page covered present clean x device own
  obtain ⟨⟨pagePositive, pageAligned⟩, devPositive⟩ := openCache_geometry opened
  let geometry : Geometry := ⟨cfg.pageSize, devSize, pagePositive, pageAligned, devPositive,
    devAligned, pageBounded, devBounded⟩
  have start : Audited cache cfg.pageSize disk world := openCache_audited geometry rfl size fresh opened
  have trustworthy : Trustworthy cfg.pageSize
      (fun page => kill < (cache.run operations world).calls.length ∧ Exposed issued page) left :=
    (run_audited start operations).killed kill
  obtain ⟨inner, data, recorded⟩ := openCache_recorded reopening
  rw [samePage] at recorded
  have inside : page < (leftSize + cfg.pageSize - 1) / cfg.pageSize := by
    rw [← own, Nat.lt_iff_add_one_le, Nat.le_div_iff_mul_le pagePositive, Nat.add_mul]
    have := Nat.div_mul_le_self x cfg.pageSize
    omega
  obtain ⟨reusable, isTrusted, wasPresent, wasClean⟩ := recorded page inside present clean
  rw [data x device, inner]
  have wasRecorded : RecordedClean cfg.pageSize left page := ⟨wasPresent, wasClean⟩
  rw [← own] at covered wasRecorded
  exact trustworthy reusable x device
    (fun hidden => covered hidden.1 reusable isTrusted ⟨wasRecorded, hidden.2⟩) wasRecorded

end Runs

section Example

/-- These operations load a page and then overwrite it. -/
def overwriteLoaded : List Operation :=
  [.serve (.prefetch 0 512), .serve (.write 0 (List.replicate 512 7))]

/-- A kill between the overwrite of a clean page and its dirty bit leaves a wrong clean page. -/
theorem kill_inside_overwrite_breaks_page :
    ∃ cache world count, openCache ⟨"cache", 512, 0⟩ calmHost 512 none (blankDisk 512) [] 0 =
        .ok (cache, world, count) ∧
      ∃ reopened recovered again, openCache ⟨"cache", 512, 0⟩ calmHost 512 none
          (replay ((cache.run overwriteLoaded world).calls.take 10) (blankDisk 512)) [] 0 =
          .ok (reopened, recovered, again) ∧
        bitGet recovered.state.present 0 = true ∧ bitGet recovered.state.dirty 0 = false ∧
        recovered.disk.data.bytes 0 ≠ FlatStore.content recovered.disk.inner 0 := by
  refine ⟨_, _, _, rfl, _, _, _, rfl, ?_⟩
  decide +kernel

/-- A kill after the page has been loaded leaves the blob's bytes. -/
theorem kill_after_load_leaves_coherent_page :
    ∃ cache world count, openCache ⟨"cache", 512, 0⟩ calmHost 512 none (blankDisk 512) [] 0 =
        .ok (cache, world, count) ∧
      ∃ reopened recovered again, openCache ⟨"cache", 512, 0⟩ calmHost 512 none
          (replay ((cache.run overwriteLoaded world).calls.take 9) (blankDisk 512)) [] 0 =
          .ok (reopened, recovered, again) ∧
        bitGet recovered.state.present 0 = true ∧ bitGet recovered.state.dirty 0 = false ∧
        ∀ x, x < 512 → recovered.disk.data.bytes x = FlatStore.content recovered.disk.inner x := by
  obtain ⟨cache, world, count, opened, reopened, recovered, again, reopening, present, clean, hidden,
      size⟩ : ∃ cache world count, openCache ⟨"cache", 512, 0⟩ calmHost 512 none (blankDisk 512) [] 0 =
          .ok (cache, world, count) ∧
        ∃ reopened recovered again, openCache ⟨"cache", 512, 0⟩ calmHost 512 none
            (replay ((cache.run overwriteLoaded world).calls.take 9) (blankDisk 512)) [] 0 =
            .ok (reopened, recovered, again) ∧
          bitGet recovered.state.present 0 = true ∧ bitGet recovered.state.dirty 0 = false ∧
          ¬ Exposed ((cache.run overwriteLoaded world).calls.take 9) 0 ∧
          FlatStore.size (replay ((cache.run overwriteLoaded world).calls.take 9)
            (blankDisk 512)).inner = 512 := by
    refine ⟨_, _, _, rfl, _, _, _, rfl, ?_⟩
    decide +kernel
  refine ⟨cache, world, count, opened, reopened, recovered, again, reopening, present, clean, ?_⟩
  intro x inside
  refine kill_leaves_coherent_cache ⟨"cache", 512, 0⟩ ⟨"cache", 512, 0⟩ (blankDisk 512) (by decide)
    (by decide) (by decide) rfl (by decide) opened overwriteLoaded 9 rfl (by rw [size]; exact reopening) 0
    (fun _ _ _ exposed => hidden exposed.2) present clean x (by rw [size]; exact inside) (Nat.div_eq_of_lt inside)

end Example
end FileCacheBackend
end UblkAzblob

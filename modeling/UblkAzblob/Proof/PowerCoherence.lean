import UblkAzblob.Proof.FileCacheRun
import UblkAzblob.Proof.PowerLoss

namespace UblkAzblob
open Storage FileCacheBackend

variable {Inner : Type}

/-- The marks name the newest update of a byte of the data file, and the newest one that survives. -/
structure ByteMarks where
  newest : Option Site
  surviving : Option Site
  stamp : Nat

/-- A sync saves the newest update; a new length forgets all of them. -/
def ByteMarks.note (outage : Outage) (x : Nat) (marks : ByteMarks) (call : Call Inner) : ByteMarks :=
  match call.effect with
  | .data .sync => ⟨marks.newest, marks.newest, marks.stamp + 1⟩
  | .data (.setLen _) => ⟨none, none, marks.stamp + 1⟩
  | .data op =>
      if op.touches x then
        ⟨some call.site,
          if outage.sectors marks.stamp (x / 512) then some call.site else marks.surviving,
          marks.stamp + 1⟩
      else { marks with stamp := marks.stamp + 1 }
  | _ => { marks with stamp := marks.stamp + 1 }

def ByteMarks.noteAll (outage : Outage) (x : Nat) (marks : ByteMarks) (calls : List (Call Inner)) : ByteMarks :=
  calls.foldl (note outage x) marks

/-- An update vouches for a byte when it stored the page, rather than punched it out. -/
def vouches : Option Site → Bool
  | some (.storeCleanPage _) => true
  | some (.dirtyPageRegion _) => true
  | _ => false

/-- The newest surviving update of a byte stored its page. -/
def Vouched (outage : Outage) (calls : List (Call Inner)) (x : Nat) : Prop :=
  vouches (ByteMarks.noteAll outage x ⟨none, none, 0⟩ calls).surviving = true

instance (outage : Outage) (calls : List (Call Inner)) (x : Nat) : Decidable (Vouched outage calls x) :=
  inferInstanceAs (Decidable (_ = true))

section Steps

/-- Where a clean byte is vouched for, the blob has it too. -/
structure Faithful (outage : Outage) (geometry : Geometry) (view : View) (ledger : Ledger)
    (marks : Nat → ByteMarks) : Prop where
  stamps : ∀ x, (marks x).stamp = ledger.stamp
  survives : ∀ x, x < geometry.devSize → view.dirty (x / geometry.pageSize) = false →
    vouches (marks x).surviving = true → (ledger.crashData outage).bytes x = view.inner x
  holds : ∀ x, x < geometry.devSize → view.dirty (x / geometry.pageSize) = false →
    vouches (marks x).newest = true → view.data x = view.inner x

variable {outage : Outage} {geometry : Geometry} {before after : View} {disk : Disk Inner}
variable {ledger : Ledger} {marks : Nat → ByteMarks} {calls : List (Call Inner)}

/-- The marks after more calls. -/
def noted (outage : Outage) (marks : Nat → ByteMarks) (calls : List (Call Inner)) : Nat → ByteMarks :=
  fun x => ByteMarks.noteAll outage x (marks x) calls

theorem noted_append (first second : List (Call Inner)) :
    noted outage marks (first ++ second) = noted outage (noted outage marks first) second := by
  funext x
  exact List.foldl_append

theorem Faithful.aside (faithful : Faithful outage geometry before ledger marks) {call : Call Inner}
    (inner : Store) (outside : ∀ op, call.effect ≠ .data op ∧ call.effect ≠ .metadata op)
    (clean : ∀ x, x < geometry.devSize → before.dirty (x / geometry.pageSize) = false →
      inner x = before.inner x) :
    Faithful outage geometry { before with inner } (ledger.noteAll [call]) (noted outage marks [call]) := by
  obtain ⟨site, effect⟩ := call
  have rest : Faithful outage geometry { before with inner }
      { ledger with stamp := ledger.stamp + 1 } fun x => { marks x with stamp := (marks x).stamp + 1 } := by
    refine ⟨fun x => by simp [faithful.stamps], ?_, ?_⟩
    · intro x device untouched vouched
      exact (faithful.survives x device untouched vouched).trans (clean x device untouched).symm
    · intro x device untouched vouched
      exact (faithful.holds x device untouched vouched).trans (clean x device untouched).symm
  cases effect with
  | data op => exact absurd rfl (outside op).1
  | metadata op => exact absurd rfl (outside op).2
  | etag contents => exact rest
  | inner moved => exact rest

/-- The marks of a byte after an unsynced update and its present byte. -/
theorem noted_unsynced {site : Site} {op : FileOp} (unsynced : op ≠ .sync) (sized : ∀ len, op ≠ .setLen len)
    (page : Nat) (byte : UInt8) (x : Nat) :
    noted outage marks ([⟨site, .data op⟩, presentByteCall site page byte] : List (Call Inner)) x =
      if op.touches x then
        ⟨some site, if outage.sectors (marks x).stamp (x / 512) then some site else (marks x).surviving,
          (marks x).stamp + 2⟩
      else { marks x with stamp := (marks x).stamp + 2 } := by
  cases op with
  | sync => exact absurd rfl unsynced
  | setLen len => exact absurd rfl (sized len)
  | write offset bytes =>
      simp only [noted, ByteMarks.noteAll, List.foldl_cons, List.foldl_nil, ByteMarks.note, presentByteCall]
      split <;> rfl
  | punch offset len =>
      simp only [noted, ByteMarks.noteAll, List.foldl_cons, List.foldl_nil, ByteMarks.note, presentByteCall]
      split <;> rfl

/-- The surviving bytes after an unsynced update and its present byte. -/
theorem crashData_unsynced {site : Site} {op : FileOp} (unsynced : op ≠ .sync) (sized : ∀ len, op ≠ .setLen len)
    (page : Nat) (byte : UInt8) (x : Nat) :
    ((ledger.noteAll ([⟨site, .data op⟩, presentByteCall site page byte] : List (Call Inner))).crashData
        outage).bytes x =
      if outage.sectors ledger.stamp (x / 512) then (op.apply (ledger.crashData outage)).bytes x
      else (ledger.crashData outage).bytes x := by
  change ((ledger.data.record ledger.stamp op).crash 512 outage.sectors).bytes x = _
  rw [Journal.crash_record _ _ unsynced]
  cases op with
  | sync => exact absurd rfl unsynced
  | setLen len => exact absurd rfl (sized len)
  | write offset bytes => rfl
  | punch offset len => rfl

/-- An unsynced update of a clean page keeps the marks faithful when it stores the blob's bytes. -/
theorem Faithful.unsynced (faithful : Faithful outage geometry before ledger marks) (page : Nat)
    {site : Site} {op : FileOp} (unsynced : op ≠ .sync) (sized : ∀ len, op ≠ .setLen len)
    (stored : vouches (some site) = true → ∀ x file, x < geometry.devSize → op.touches x = true →
      (op.apply file).bytes x = before.inner x)
    (byte : UInt8) (sameDirty : after.dirty = before.dirty) (sameInner : after.inner = before.inner)
    (file : File) (fileBefore : file.bytes = before.data) (fileAfter : (op.apply file).bytes = after.data) :
    Faithful outage geometry after
      (ledger.noteAll ([⟨site, .data op⟩, presentByteCall site page byte] : List (Call Inner)))
      (noted outage marks ([⟨site, .data op⟩, presentByteCall site page byte] : List (Call Inner))) := by
  refine ⟨?_, ?_, ?_⟩
  · intro x
    rw [noted_unsynced unsynced sized]
    have := faithful.stamps x
    split <;> simp_all [Ledger.noteAll, Ledger.note, presentByteCall]
  · intro x device untouched vouched
    rw [sameDirty] at untouched
    rw [sameInner, crashData_unsynced unsynced sized]
    rw [noted_unsynced unsynced sized, faithful.stamps x] at vouched
    by_cases touched : op.touches x = true
    · rw [if_pos touched] at vouched
      by_cases kept : outage.sectors ledger.stamp (x / 512) = true
      · simp only [if_pos kept] at vouched ⊢
        exact stored vouched x _ device touched
      · simp only [if_neg kept] at vouched ⊢
        exact faithful.survives x device untouched vouched
    · rw [if_neg touched] at vouched
      rw [FileOp.apply_untouched (by simpa using touched), ite_self]
      exact faithful.survives x device untouched vouched
  · intro x device untouched vouched
    rw [sameDirty] at untouched
    rw [sameInner, ← fileAfter]
    rw [noted_unsynced unsynced sized] at vouched
    by_cases touched : op.touches x = true
    · rw [if_pos touched] at vouched
      exact stored vouched x file device touched
    · rw [if_neg touched] at vouched
      rw [FileOp.apply_untouched (by simpa using touched), fileBefore]
      exact faithful.holds x device untouched vouched

variable [BlobBackend Inner] [FlatStore Inner]

theorem Upkeep.faithful (step : Upkeep geometry before calls after) (depicts : Depicts geometry before disk)
    (faithful : Faithful outage geometry before ledger marks) :
    Faithful outage geometry after (ledger.noteAll calls) (noted outage marks calls) := by
  cases step with
  | fetch page moved same sized =>
      exact faithful.aside before.inner (by simp) fun _ _ _ => rfl
  | load page bytes op byte inside absent fresh stores bits =>
      refine faithful.unsynced page ?_ ?_ ?_ byte rfl rfl disk.data depicts.data ?_
      · rcases stores with rfl | ⟨rfl, _⟩ <;> simp
      · rcases stores with rfl | ⟨rfl, _⟩ <;> simp
      · intro _ x file device touched
        have range : page * geometry.pageSize ≤ x ∧ x < page * geometry.pageSize + bytes.length := by
          rcases stores with rfl | ⟨rfl, _⟩ <;> simpa [FileOp.touches] using touched
        rw [stored_bytes file stores, fresh, splice_slice,
          if_pos (by rw [fresh, length_slice] at range; exact range)]
      · rw [stored_bytes disk.data stores, depicts.data]
        rfl
  | evict page byte inside clean bits =>
      refine faithful.unsynced page (by simp) (by simp) (by simp [vouches]) byte rfl rfl disk.data
        depicts.data ?_
      change zeroed disk.data.bytes _ _ = _
      rw [depicts.data]
      rfl

theorem Dirties.faithful {page pageOffset : Nat} {payload : List UInt8}
    (step : Dirties geometry page pageOffset payload before calls after)
    (depicts : Depicts geometry before disk) (secured : Secured outage geometry before disk ledger)
    (faithful : Faithful outage geometry before ledger marks) :
    Faithful outage geometry after (ledger.noteAll calls) (noted outage marks calls) := by
  have depictsAfter := step.depicts depicts
  have synced := step.crashData outage ledger
  obtain ⟨volatileData, _⟩ :=
    volatile_noteAll ledger disk calls secured.volatileData secured.volatileMeta
  obtain ⟨presentByte, dirtyByte, inside, ready, fits, presentBits, dirtyBits⟩ := step
  have elsewhere (x : Nat) (clean : (before.overwritten geometry page pageOffset payload).dirty
      (x / geometry.pageSize) = false) : x / geometry.pageSize ≠ page ∧
        before.dirty (x / geometry.pageSize) = false ∧
        ¬ (page * geometry.pageSize + pageOffset ≤ x ∧
          x < page * geometry.pageSize + pageOffset + payload.length) := by
    have other : x / geometry.pageSize ≠ page := by
      rintro rfl
      simp [View.overwritten] at clean
    have := (geometry.mem_page page x).not.mpr (by simp [other])
    exact ⟨other, by simpa [View.overwritten, other] using clean, by omega⟩
  have newest (x : Nat) (outside : ¬ (page * geometry.pageSize + pageOffset ≤ x ∧
      x < page * geometry.pageSize + pageOffset + payload.length)) :
      (noted outage marks ([⟨.dirtyPageRegion page, .data
          (.write (page * geometry.pageSize + pageOffset) payload)⟩,
        ⟨.dirtyPageRegion page, .data .sync⟩, presentByteCall (.persistPresent page) page presentByte,
        dirtyByteCall geometry page dirtyByte, ⟨.persistSync page, .metadata .sync⟩] :
          List (Call Inner)) x) = ⟨(marks x).newest, (marks x).newest, (marks x).stamp + 5⟩ := by
    simp only [noted, ByteMarks.noteAll, List.foldl_cons, List.foldl_nil, ByteMarks.note, presentByteCall,
      dirtyByteCall, FileOp.touches, decide_eq_true_eq, if_neg outside]
  have unchanged (x : Nat) (outside : ¬ (page * geometry.pageSize + pageOffset ≤ x ∧
      x < page * geometry.pageSize + pageOffset + payload.length)) :
      (before.overwritten geometry page pageOffset payload).data x = before.data x := if_neg outside
  refine ⟨?_, ?_, ?_⟩
  · intro x
    have := faithful.stamps x
    simp only [noted, ByteMarks.noteAll, List.foldl_cons, List.foldl_nil, ByteMarks.note, presentByteCall,
      dirtyByteCall, Ledger.noteAll, Ledger.note]
    split <;> simp [this]
  · intro x device clean vouched
    obtain ⟨_, wasClean, outside⟩ := elsewhere x clean
    rw [newest x outside] at vouched
    rw [synced, volatileData, depictsAfter.data, unchanged x outside]
    exact faithful.holds x device wasClean vouched
  · intro x device clean vouched
    obtain ⟨_, wasClean, outside⟩ := elsewhere x clean
    rw [newest x outside] at vouched
    rw [unchanged x outside]
    exact faithful.holds x device wasClean vouched

omit [BlobBackend Inner] [FlatStore Inner] in
theorem Cleans.faithful {page : Nat} (step : Cleans geometry page before calls after)
    (secured : Secured outage geometry before disk ledger)
    (faithful : Faithful outage geometry before ledger marks) :
    Faithful outage geometry after (ledger.noteAll calls) (noted outage marks calls) := by
  obtain ⟨presentByte, dirtyByte, inside, same, presentBits, dirtyBits⟩ := step
  refine ⟨?_, ?_, ?_⟩
  · intro x
    simp [noted, ByteMarks.noteAll, ByteMarks.note, presentByteCall, dirtyByteCall, Ledger.noteAll, Ledger.note,
      faithful.stamps x]
  · intro x device clean vouched
    by_cases dirty : before.dirty (x / geometry.pageSize) = true
    · have own : x / geometry.pageSize = page := by
        by_contra other
        exact Bool.false_ne_true ((by simpa [View.cleaned, other] using clean : _ = false).symm.trans dirty)
      exact (secured.saved x device dirty).trans (same (own ▸ dirty) x device own)
    · exact faithful.survives x device (by simpa using dirty) vouched
  · intro x device clean vouched
    by_cases dirty : before.dirty (x / geometry.pageSize) = true
    · by_cases own : x / geometry.pageSize = page
      · exact same (own ▸ dirty) x device own
      · exact faithful.holds x device (by simpa [View.cleaned, own] using clean) vouched
    · exact faithful.holds x device (by simpa using dirty) vouched

theorem Pushes.faithful (step : Pushes geometry before calls after)
    (secured : Secured outage geometry before disk ledger)
    (faithful : Faithful outage geometry before ledger marks) :
    Faithful outage geometry after (ledger.noteAll calls) (noted outage marks calls) := by
  cases step with
  | upload _ page moved inside dirty landed sized =>
      refine faithful.aside _ (by simp) fun x device clean => ?_
      have other : x / geometry.pageSize ≠ page := by
        rintro rfl
        exact Bool.false_ne_true (clean.symm.trans dirty)
      have outside := (geometry.mem_page page x).not.mpr (by simp [other])
      rcases landed with same | moved
      · rw [same]
      · rw [moved, splice_slice, if_neg outside]
  | cleans step => exact step.faithful secured faithful
  | token _ contents => exact faithful.aside before.inner (by simp) fun _ _ _ => rfl
  | query _ site moved same sized => exact faithful.aside before.inner (by simp) fun _ _ _ => rfl

theorem Chore.faithful (step : Chore geometry before calls after) (depicts : Depicts geometry before disk)
    (secured : Secured outage geometry before disk ledger)
    (faithful : Faithful outage geometry before ledger marks) :
    Faithful outage geometry after (ledger.noteAll calls) (noted outage marks calls) := by
  cases step with
  | settle step =>
      cases step with
      | upkeep step => exact step.faithful depicts faithful
      | pushes step => exact step.faithful secured faithful
  | dirties step => exact step.faithful depicts secured faithful

theorem trail_faithful (trail : Trail (Chore geometry) before calls after)
    (coherent : before.Coherent geometry) (depicts : Depicts geometry before disk)
    (secured : Secured outage geometry before disk ledger)
    (faithful : Faithful outage geometry before ledger marks) :
    Secured outage geometry after (replay calls disk) (ledger.noteAll calls) ∧
      Faithful outage geometry after (ledger.noteAll calls) (noted outage marks calls) := by
  induction trail generalizing disk ledger marks with
  | refl view => exact ⟨secured, faithful⟩
  | step head tail ih =>
      rw [replay_append, noteAll_append, noted_append]
      exact ih (head.coherent coherent) (head.depicts depicts)
        ((Motion.chore head).secured coherent depicts secured) (head.faithful depicts secured faithful)

end Steps

namespace FileCacheBackend

section Runs

variable [BlobBackend Inner] [CreatableStore Inner] {cache : FileCacheBackend} {world : World Inner}
variable {outage : Outage} {disk : Disk Inner}

/-- The log of a running cache keeps dirty pages safe and its vouched bytes faithful. -/
structure Weathers (outage : Outage) (geometry : Geometry) (disk : Disk Inner) (world : World Inner) :
    Prop where
  replayed : world.disk = replay world.calls disk
  secured : Secured outage geometry world.view world.disk ((Ledger.start disk).noteAll world.calls)
  faithful : Faithful outage geometry world.view ((Ledger.start disk).noteAll world.calls)
    (noted outage (fun _ => ⟨none, none, 0⟩) world.calls)

def Sheltered (cache : FileCacheBackend) (outage : Outage) (pageSize : Nat) (disk : Disk Inner)
    (world : World Inner) : Prop :=
  ∃ geometry : Geometry, geometry.pageSize = pageSize ∧ Tidy cache geometry world ∧
    world.view.Coherent geometry ∧ Weathers outage geometry disk world

/-- A cache that has just been emptied has nothing to lose. -/
theorem weathers_of_blank {geometry : Geometry} (tidy : Tidy cache geometry world)
    (absent : ∀ page, world.view.present page = false) (replayed : world.disk = replay world.calls disk)
    (synced : ((Ledger.start disk).noteAll world.calls).crashMeta outage =
      ((Ledger.start disk).noteAll world.calls).metadata.volatile)
    (stamps : ∀ x, (noted outage (fun _ => ⟨none, none, 0⟩) world.calls x).stamp =
      ((Ledger.start disk).noteAll world.calls).stamp)
    (unmarked : ∀ x, (noted outage (fun _ => ⟨none, none, 0⟩) world.calls x).newest = none ∧
      (noted outage (fun _ => ⟨none, none, 0⟩) world.calls x).surviving = none) :
    Weathers outage geometry disk world := by
  obtain ⟨volatileData, volatileMeta⟩ := volatile_noteAll (Ledger.start disk) disk world.calls rfl rfl
  rw [← replayed] at volatileData volatileMeta
  have clean (page : Nat) : world.view.dirty page = false := by
    by_contra dirty
    rw [Bool.not_eq_false] at dirty
    exact Bool.false_ne_true ((absent page).symm.trans (tidy.resident page dirty))
  refine ⟨replayed, ⟨volatileData, volatileMeta, ?_,
    recorded_of_synced tidy.mirror.records volatileMeta synced⟩, stamps, ?_, ?_⟩
  · intro x _ dirty
    exact absurd (clean _) (by rw [dirty]; simp)
  · intro x _ _ vouched
    rw [(unmarked x).2] at vouched
    cases vouched
  · intro x _ _ vouched
    rw [(unmarked x).1] at vouched
    cases vouched

theorem operate_sheltered {pageSize : Nat} (sheltered : Sheltered cache outage pageSize disk world)
    (operation : Operation) : Sheltered cache outage pageSize disk (cache.operate operation world) := by
  obtain ⟨geometry, rfl, tidy, coherent, weathers⟩ := sheltered
  rcases operate_cases tidy operation with
    ⟨after, calls, issued, trail⟩ | ⟨renewed, samePage, renewal⟩
  · have depicts := tidy.toSound.depicts
    obtain ⟨secured, faithful⟩ :=
      trail_faithful trail coherent depicts weathers.secured weathers.faithful
    refine ⟨geometry, rfl, after, (trail_depicts trail coherent depicts).1, ?_, ?_, ?_⟩
    · rw [issued.disk, issued.logged, replay_append, weathers.replayed]
    · rw [issued.logged, noteAll_append, issued.disk]
      exact secured
    · rw [issued.logged, noteAll_append, noted_append]
      exact faithful
  · obtain ⟨moved, sized, issued⟩ := renewal.issued
    refine ⟨renewed, samePage, renewal.tidy, coherent_of_absent renewal.tidy renewal.absent, ?_⟩
    refine weathers_of_blank renewal.tidy renewal.absent ?_ ?_ ?_ ?_
    · rw [issued.disk, issued.logged, replay_append, weathers.replayed]
    · rw [issued.logged, noteAll_append]
      rfl
    · intro x
      rw [issued.logged, noteAll_append, noted_append]
      have := weathers.faithful.stamps x
      simp_all [FileCacheBackend.renewal, blankMeta, noted, ByteMarks.noteAll, ByteMarks.note, Ledger.noteAll,
        Ledger.note]
    · intro x
      rw [issued.logged, noted_append]
      exact ⟨rfl, rfl⟩

theorem run_sheltered {pageSize : Nat} (sheltered : Sheltered cache outage pageSize disk world)
    (operations : List Operation) :
    Sheltered cache outage pageSize disk (cache.run operations world) := by
  induction operations generalizing world with
  | nil => exact sheltered
  | cons operation rest ih => exact ih (operate_sheltered sheltered operation)

/-- A cache that starts without usable metadata is sheltered from the start. -/
theorem openCache_sheltered (outage : Outage) (geometry : Geometry) {cfg : FileCacheConfig} {host : Host}
    {etag : Option String} {budgetFile : List Entry} {clock recovered : Nat}
    (samePage : cfg.pageSize = geometry.pageSize)
    (size : FlatStore.size disk.inner = geometry.devSize)
    (fresh : metaReusable geometry.pageSize geometry.devSize geometry.numPages disk.metadata = false)
    (opened : openCache cfg host geometry.devSize etag disk budgetFile clock =
      .ok (cache, world, recovered)) :
    Sheltered cache outage geometry.pageSize disk world := by
  have facts := openCache_fresh geometry samePage size fresh opened
  have start := opened_fresh facts
  obtain ⟨logged, landed⟩ := openCache_issues geometry samePage fresh opened
  have absent (page : Nat) : world.view.present page = false := by
    change bitGet world.state.present page = false
    rw [facts.presentBits, bitGet_blank, Bool.false_and]
  refine ⟨geometry, rfl, start.tidy, start.coherent, weathers_of_blank start.tidy absent ?_ ?_ ?_ ?_⟩
  · rw [logged]
    exact landed
  · rw [logged]
    cases etag <;> rfl
  · intro x
    rw [logged]
    cases etag <;> rfl
  · intro x
    rw [logged]
    cases etag <;> exact ⟨rfl, rfl⟩

/-- After a power loss, a byte of a clean page whose newest surviving update stored it is the blob's. -/
theorem power_loss_leaves_vouched_bytes (cfg again : FileCacheConfig) {host hostAgain : Host} {devSize : Nat}
    {etag etagAgain : Option String} (disk : Disk Inner) {budgetFile budgetAgain : List Entry}
    {clock clockAgain : Nat} {cache reopened : FileCacheBackend} {world recovered : World Inner}
    {count countAgain : Nat}
    (pageBounded : cfg.pageSize < 2 ^ 64) (devBounded : devSize < 2 ^ 64)
    (devAligned : devSize % 512 = 0) (size : FlatStore.size disk.inner = devSize)
    (fresh : metaReusable cfg.pageSize devSize ((devSize + cfg.pageSize - 1) / cfg.pageSize)
      disk.metadata = false)
    (opened : openCache cfg host devSize etag disk budgetFile clock = .ok (cache, world, count))
    (operations : List Operation) (outage : Outage) (samePage : again.pageSize = cfg.pageSize) :
    let issued := (cache.run operations world).calls
    let left := powerLoss outage issued disk
    let leftSize := FlatStore.size left.inner
    openCache again hostAgain leftSize etagAgain left budgetAgain clockAgain =
        .ok (reopened, recovered, countAgain) →
      ∀ page, bitGet recovered.state.present page = true → bitGet recovered.state.dirty page = false →
        ∀ x, x < leftSize → x / cfg.pageSize = page → Vouched outage issued x →
          recovered.disk.data.bytes x = FlatStore.content recovered.disk.inner x := by
  intro issued left leftSize reopening page present clean x device own vouched
  obtain ⟨⟨pagePositive, pageAligned⟩, devPositive⟩ := openCache_geometry opened
  let geometry : Geometry := ⟨cfg.pageSize, devSize, pagePositive, pageAligned, devPositive,
    devAligned, pageBounded, devBounded⟩
  have start : Sheltered cache outage cfg.pageSize disk world :=
    openCache_sheltered outage geometry rfl size fresh opened
  obtain ⟨current, currentPage, tidy, _, weathers⟩ := run_sheltered start operations
  have inner : left.inner = (cache.run operations world).disk.inner := by
    rw [weathers.replayed]
    rfl
  have leftDevice : leftSize = current.devSize := by
    rw [← tidy.innerSize, ← inner]
  obtain ⟨sameInner, data, recorded⟩ := openCache_recorded reopening
  rw [samePage] at recorded
  have pages : (leftSize + cfg.pageSize - 1) / cfg.pageSize = current.numPages := by
    rw [leftDevice, ← currentPage, Geometry.numPages]
  have inside : page < current.numPages := by
    rw [← own, ← currentPage]
    exact current.page_lt (leftDevice ▸ device)
  obtain ⟨_, _, _, wasClean⟩ := recorded page (by rw [pages]; exact inside) present clean
  obtain ⟨bits, records⟩ := weathers.secured.recorded
  have notDirty : (cache.run operations world).view.dirty page = false := by
    rw [pages] at wasClean
    exact (bitGet_recordedDirty records inside).symm.trans wasClean
  rw [data x device, sameInner, inner]
  refine weathers.faithful.survives x (leftDevice ▸ device) ?_ vouched
  rw [currentPage, own]
  exact notDirty

end Runs

section Example

/-- The blob holds sevens, and there are no cache files yet. -/
def sevens : Disk MemBackend := ⟨.empty, .empty, none, ⟨512, fun _ => 7⟩⟩

/-- This outage keeps the metadata and, of the data file, every call or none. -/
def halfOutage (keepData : Bool) : Outage := ⟨fun _ _ => keepData, fun _ _ => true, some "v1"⟩

/-- The present byte of a loaded page may survive when the page itself does not. -/
theorem power_loss_breaks_loaded_page :
    ∃ cache world count, openCache ⟨"cache", 512, 0⟩ calmHost 512 (some "v1") sevens [] 0 =
        .ok (cache, world, count) ∧
      ∃ reopened recovered again, openCache ⟨"cache", 512, 0⟩ calmHost 512 (some "v1")
          (powerLoss (halfOutage false)
            (cache.run [.serve (.prefetch 0 512)] world).calls sevens) [] 0 =
          .ok (reopened, recovered, again) ∧
        bitGet recovered.state.present 0 = true ∧ bitGet recovered.state.dirty 0 = false ∧
        recovered.disk.data.bytes 0 ≠ FlatStore.content recovered.disk.inner 0 := by
  refine ⟨_, _, _, rfl, _, _, _, rfl, ?_⟩
  decide +kernel

/-- When the page survives too, it has the blob's bytes. -/
theorem power_loss_leaves_loaded_byte :
    ∃ cache world count, openCache ⟨"cache", 512, 0⟩ calmHost 512 (some "v1") sevens [] 0 =
        .ok (cache, world, count) ∧
      ∃ reopened recovered again, openCache ⟨"cache", 512, 0⟩ calmHost 512 (some "v1")
          (powerLoss (halfOutage true)
            (cache.run [.serve (.prefetch 0 512)] world).calls sevens) [] 0 =
          .ok (reopened, recovered, again) ∧
        bitGet recovered.state.present 0 = true ∧ bitGet recovered.state.dirty 0 = false ∧
        recovered.disk.data.bytes 100 = FlatStore.content recovered.disk.inner 100 := by
  obtain ⟨cache, world, count, opened, reopened, recovered, again, reopening, present, clean, vouched,
      size⟩ : ∃ cache world count, openCache ⟨"cache", 512, 0⟩ calmHost 512 (some "v1") sevens [] 0 =
          .ok (cache, world, count) ∧
        ∃ reopened recovered again, openCache ⟨"cache", 512, 0⟩ calmHost 512 (some "v1")
            (powerLoss (halfOutage true)
              (cache.run [.serve (.prefetch 0 512)] world).calls sevens) [] 0 =
            .ok (reopened, recovered, again) ∧
          bitGet recovered.state.present 0 = true ∧ bitGet recovered.state.dirty 0 = false ∧
          Vouched (halfOutage true) (cache.run [.serve (.prefetch 0 512)] world).calls 100 ∧
          FlatStore.size (powerLoss (halfOutage true)
            (cache.run [.serve (.prefetch 0 512)] world).calls sevens).inner = 512 := by
    refine ⟨_, _, _, rfl, _, _, _, rfl, ?_⟩
    decide +kernel
  refine ⟨cache, world, count, opened, reopened, recovered, again, reopening, present, clean, ?_⟩
  exact power_loss_leaves_vouched_bytes ⟨"cache", 512, 0⟩ ⟨"cache", 512, 0⟩ sevens (by decide) (by decide)
    (by decide) rfl (by decide) opened [.serve (.prefetch 0 512)] (halfOutage true) rfl
    (by rw [size]; exact reopening) 0 present clean 100 (by rw [size]; decide) (by decide) vouched

end Example
end FileCacheBackend
end UblkAzblob

import UblkAzblob.Construction.CacheIndex
import UblkAzblob.Foundation.Tally
import UblkAzblob.Proof.BudgetExact

namespace UblkAzblob
open Storage

namespace FileCacheBackend

variable {Inner : Type} {cache : FileCacheBackend} {budget : CacheBudget} {world : World Inner} {page : Nat}

section Pages

/-- The pages that the recency order tracks. -/
def trackedPages (state : CacheState) : List Nat := state.lru.byPage.entries.map Prod.fst

/-- Tracked pages are present, the clean ones can be evicted, and the accounts cover all of them. -/
structure EvictReady (cache : FileCacheBackend) (budget : CacheBudget) (world : World Inner) : Prop where
  valid : world.state.lru.Valid
  present : ∀ page, world.state.lru.contains page = true → bitGet world.state.present page = true
  evictable : ∀ page, world.state.lru.Evictable page ↔
    world.state.lru.contains page = true ∧ bitGet world.state.dirty page = false
  resident : tally (cache.pageLen world.state) (trackedPages world.state) ≤ world.state.residentBytes
  charged : tally (cache.pageLen world.state) (trackedPages world.state) ≤ (budget.balance world.budgetFile).getD 0

/-- The present bit of a page in the metadata file. -/
def storedPresent (world : World Inner) (page : Nat) : Bool :=
  byteBit (world.disk.metadata.bytes (headerSize + page / 8)) (page % 8)

/-- Whether a byte of the data file belongs to a page. -/
def inPage (cache : FileCacheBackend) (state : CacheState) (x page : Nat) : Bool :=
  page * cache.pageSize ≤ x ∧ x < page * cache.pageSize + cache.pageLen state page

/-- What an eviction of these pages changes, where a refused page stays and only becomes the most recent one. -/
structure Evicts (cache : FileCacheBackend) (budget : CacheBudget) (before after : World Inner) (evicted : List Nat)
    (refused : Option Nat) : Prop where
  shape : SameShape before after
  present : ∀ page, bitGet after.state.present page = (bitGet before.state.present page && !decide (page ∈ evicted))
  dirty : after.state.dirty = before.state.dirty
  stored : ∀ page ∈ evicted, storedPresent after page = false
  storedOthers : ∀ page ∉ evicted, storedPresent after page = storedPresent before page ∨
    storedPresent after page = bitGet before.state.present page
  bytes : ∀ x, after.disk.data.bytes x = if evicted.any (cache.inPage before.state x) then 0
    else before.disk.data.bytes x
  resident : after.state.residentBytes + tally (cache.pageLen before.state) evicted = before.state.residentBytes
  balance : (budget.balance after.budgetFile).getD 0 + tally (cache.pageLen before.state) evicted =
    (budget.balance before.budgetFile).getD 0
  dropped : ∀ page ∈ evicted, after.state.lru.contains page = false
  recency : ∀ page ∉ evicted, some page ≠ refused →
    after.state.lru.byPage.find? page = before.state.lru.byPage.find? page
  restored : ∀ page, some page = refused →
    page ∉ evicted ∧ before.state.lru.contains page = true ∧ after.state.lru.Evictable page

theorem SameShape.pageLen {after : World Inner} (shape : SameShape world after) :
    cache.pageLen after.state = cache.pageLen world.state := by
  funext page
  rw [FileCacheBackend.pageLen, shape.1, FileCacheBackend.pageLen]

theorem SameShape.inPage {after : World Inner} (shape : SameShape world after) (x : Nat) :
    cache.inPage after.state x = cache.inPage world.state x := by
  funext page
  rw [FileCacheBackend.inPage, shape.pageLen, FileCacheBackend.inPage]

theorem Evicts.nil (cache : FileCacheBackend) (budget : CacheBudget) (world : World Inner) :
    Evicts cache budget world world [] none where
  shape := ⟨rfl, rfl⟩
  present page := by simp
  dirty := rfl
  stored page member := by cases member
  storedOthers page _ := .inl rfl
  bytes x := by simp
  resident := rfl
  balance := rfl
  dropped page member := by cases member
  recency page _ _ := rfl
  restored page same := by cases same

/-- A page that is neither evicted nor refused is tracked as before. -/
theorem Evicts.contains {after : World Inner} {evicted : List Nat} {refused : Option Nat}
    (evicts : Evicts cache budget world after evicted refused) (absent : page ∉ evicted)
    (different : some page ≠ refused) : after.state.lru.contains page = world.state.lru.contains page := by
  rw [Lru.contains, OrderedMap.contains, evicts.recency page absent different]
  rfl

/-- One page is evicted before the others. -/
theorem Evicts.cons {middle after : World Inner} {rest : List Nat} {refused : Option Nat}
    (first : Evicts cache budget world middle [page] none) (later : Evicts cache budget middle after rest refused) :
    Evicts cache budget world after (page :: rest) refused where
  shape := ⟨later.shape.1.trans first.shape.1, later.shape.2.trans first.shape.2⟩
  present other := by
    rw [later.present, first.present]
    simp [Bool.and_assoc]
  dirty := later.dirty.trans first.dirty
  stored other member := by
    by_cases again : other ∈ rest
    · exact later.stored other again
    · obtain rfl : other = page := (List.mem_cons.mp member).resolve_right again
      rcases later.storedOthers other again with kept | rewritten
      · exact kept.trans (first.stored other (List.mem_singleton.mpr rfl))
      · rw [rewritten, first.present]
        simp
  storedOthers other absent := by
    obtain ⟨different, absent⟩ : other ≠ page ∧ other ∉ rest := by simpa using absent
    have once := first.storedOthers other (by simpa using different)
    rcases later.storedOthers other absent with kept | rewritten
    · rw [kept]
      exact once
    · refine .inr (rewritten.trans ?_)
      rw [first.present]
      simp [different]
  bytes x := by
    rw [later.bytes, first.bytes, first.shape.inPage]
    simp only [List.any_cons, List.any_nil, Bool.or_false, Bool.or_eq_true]
    by_cases inRest : rest.any (cache.inPage world.state x) = true
    · simp [inRest]
    · simp [inRest]
  resident := by
    have one := first.resident
    have others := later.resident
    rw [first.shape.pageLen] at others
    rw [tally_cons, tally_nil] at one
    rw [tally_cons]
    omega
  balance := by
    have one := first.balance
    have others := later.balance
    rw [first.shape.pageLen] at others
    rw [tally_cons, tally_nil] at one
    rw [tally_cons]
    omega
  dropped other member := by
    by_cases again : other ∈ rest
    · exact later.dropped other again
    · obtain rfl : other = page := (List.mem_cons.mp member).resolve_right again
      have gone := first.dropped other (List.mem_singleton.mpr rfl)
      rw [later.contains again fun equal => ?_]
      · exact gone
      · rw [(later.restored other equal).2.1] at gone
        cases gone
  recency other absent different := by
    obtain ⟨apart, absent⟩ : other ≠ page ∧ other ∉ rest := by simpa using absent
    rw [later.recency other absent different, first.recency other (by simpa using apart) (by simp)]
  restored other same := by
    obtain ⟨absent, tracked, evictable⟩ := later.restored other same
    have different : other ≠ page := by
      rintro rfl
      rw [first.dropped other (List.mem_singleton.mpr rfl)] at tracked
      cases tracked
    refine ⟨?_, ?_, evictable⟩
    · rw [List.mem_cons, not_or]
      exact ⟨different, absent⟩
    · rw [← first.contains (by simpa using different) (by simp)]
      exact tracked

end Pages

section Step

/-- A punch that succeeds drops the page from every account; a refused one only makes it the most recent. -/
theorem evictPage_outcome (cache : FileCacheBackend) (budget : CacheBudget) (page : Nat) (world : World Inner) :
    ((cache.evictPage budget page world).1 = true ∧
      (cache.evictPage budget page world).2.state = { world.state with
        present := bitSet world.state.present page false
        residentBytes := world.state.residentBytes - cache.pageLen world.state page } ∧
      (cache.evictPage budget page world).2.disk.data.bytes =
        zeroed world.disk.data.bytes (page * cache.pageSize) (cache.pageLen world.state page) ∧
      (cache.evictPage budget page world).2.disk.metadata.bytes = splice world.disk.metadata.bytes (headerSize + page / 8)
        [byteAt (bitSet world.state.present page false) (page / 8)] ∧
      (Undisturbed cache.host budget → budget.balance (cache.evictPage budget page world).2.budgetFile =
        some ((budget.balance world.budgetFile).getD 0 - cache.pageLen world.state page))) ∨
    ((cache.evictPage budget page world).1 = false ∧ cache.host.punchFails world.clock = true ∧
      (cache.evictPage budget page world).2 = { world with clock := world.clock + 1 }.touch page true) := by
  by_cases empty : cache.pageLen world.state page = 0
  · refine .inl ?_
    simp only [evictPage, if_pos empty, reduceIte]
    refine ⟨trivial, rfl, ?_, rfl, fun undisturbed => ?_⟩
    · funext x
      rw [zeroed, empty, if_neg (by omega)]
      rfl
    · exact withLocked_balance undisturbed _ _
  · cases refused : cache.host.punchFails world.clock with
    | true =>
        refine .inr ?_
        simp [evictPage, empty, punchHole, World.ask, refused]
    | false =>
        refine .inl ?_
        simp only [evictPage, if_neg empty, punchHole, World.ask, refused, Bool.false_eq_true, if_false]
        exact ⟨rfl, rfl, rfl, rfl, fun undisturbed => withLocked_balance undisturbed _ _⟩

theorem trackedPages_nodup (state : CacheState) : (trackedPages state).Nodup := by
  rw [trackedPages, List.Nodup, List.pairwise_map]
  exact state.lru.byPage.sorted.imp fun below => ne_of_lt below

theorem mem_trackedPages {state : CacheState} : page ∈ trackedPages state ↔ state.lru.contains page = true := by
  rw [trackedPages, List.mem_map, Lru.contains, OrderedMap.contains, Option.isSome_iff_exists]
  constructor
  · rintro ⟨⟨key, stamp⟩, member, rfl⟩
    exact ⟨stamp, OrderedMap.find?_eq_some.mpr member⟩
  · rintro ⟨stamp, found⟩
    exact ⟨(page, stamp), OrderedMap.find?_eq_some.mp found, rfl⟩

theorem trackedPages_pop {protect : Option Nat} {lru : Lru} {state : CacheState}
    (popped : state.lru.popLru protect = (some page, lru)) :
    trackedPages { state with lru } = (trackedPages state).filter fun other => other ≠ page := by
  simp only [trackedPages, Lru.popLru_stamps popped, OrderedMap.erase, List.filter_map]
  rfl

/-- A pop forgets one page. -/
theorem contains_pop {protect : Option Nat} {lru next : Lru} (popped : lru.popLru protect = (some page, next))
    (other : Nat) : next.byPage.find? other = if other = page then none else lru.byPage.find? other := by
  rw [Lru.popLru_stamps popped, OrderedMap.find?_erase]

theorem EvictReady.popped {protect : Option Nat} {lru : Lru} (ready : EvictReady cache budget world)
    (popped : world.state.lru.popLru protect = (some page, lru)) :
    bitGet world.state.present page = true ∧ bitGet world.state.dirty page = false ∧
      world.state.lru.contains page = true ∧
      tally (cache.pageLen world.state) ((trackedPages world.state).filter fun other => other ≠ page) +
        cache.pageLen world.state page = tally (cache.pageLen world.state) (trackedPages world.state) := by
  obtain ⟨evictable, _, _, _⟩ := Lru.popLru_spec ready.valid popped
  obtain ⟨tracked, clean⟩ := (ready.evictable page).mp evictable
  exact ⟨ready.present page tracked, clean, tracked,
    tally_filter_ne (trackedPages_nodup world.state) (mem_trackedPages.mpr tracked)⟩

/-- A byte of a bitmap that is written brings the bits of its pages with it. -/
theorem storedBit_write (store : Store) (bitmap : List UInt8) (page other : Nat) :
    byteBit (splice store (headerSize + page / 8) [byteAt bitmap (page / 8)] (headerSize + other / 8)) (other % 8) =
      if other / 8 = page / 8 then bitGet bitmap other else byteBit (store (headerSize + other / 8)) (other % 8) := by
  split
  · rename_i same
    rw [splice_inside (by omega) (by rw [List.length_singleton]; omega), same, Nat.sub_self, bitGet, same]
    rfl
  · rename_i different
    rw [splice_outside (by rw [List.length_singleton]; omega)]

/-- The victim of a pop is evicted, and nothing else changes. -/
theorem evictPage_evicts {protect : Option Nat} {lru : Lru} (undisturbed : Undisturbed cache.host budget)
    (ready : EvictReady cache budget world) (popped : world.state.lru.popLru protect = (some page, lru))
    (done : (cache.evictPage budget page { world with state := { world.state with lru } }).1 = true) :
    Evicts cache budget world (cache.evictPage budget page { world with state := { world.state with lru } }).2 [page]
        none ∧
      EvictReady cache budget (cache.evictPage budget page { world with state := { world.state with lru } }).2 ∧
      (cache.evictPage budget page { world with state := { world.state with lru } }).2.state.lru = lru := by
  obtain ⟨present, clean, tracked, total⟩ := ready.popped popped
  obtain ⟨_, _, valid, remaining⟩ := Lru.popLru_spec ready.valid popped
  have stamps := contains_pop popped
  have inBitmap : page / 8 < world.state.present.length := by
    by_contra outside
    simp [bitGet, byteAt, List.getElem?_eq_none (not_lt.mp outside), byteBit] at present
  rcases evictPage_outcome cache budget page { world with state := { world.state with lru } } with
    ⟨_, state, data, metadata, balance⟩ | ⟨refused, _⟩
  swap
  · rw [refused] at done
    cases done
  have balance := balance undisturbed
  generalize cache.evictPage budget page { world with state := { world.state with lru } } = outcome at *
  have shape : SameShape world outcome.2 := by
    rw [SameShape, state]
    exact ⟨rfl, rfl⟩
  have bits (other : Nat) : bitGet outcome.2.state.present other =
      if other = page then false else bitGet world.state.present other := by
    rw [state]
    exact bitGet_bitSet world.state.present page other false inBitmap
  have contains (other : Nat) : outcome.2.state.lru.contains other = true ↔
      world.state.lru.contains other = true ∧ other ≠ page := by
    rw [state, Lru.contains, OrderedMap.contains, stamps]
    by_cases same : other = page
    · simp [same]
    · simp [same, Lru.contains, OrderedMap.contains]
  have lengths : cache.pageLen outcome.2.state = cache.pageLen world.state := shape.pageLen
  have enough := ready.resident
  have charged := ready.charged
  refine ⟨?_, ?_, by rw [state]⟩
  · exact {
      shape
      present := by
        intro other
        rw [bits]
        by_cases same : other = page
        · simp [same]
        · simp [same]
      dirty := by rw [state]
      stored := by
        intro other member
        obtain rfl := List.mem_singleton.mp member
        rw [storedPresent, metadata]
        rw [storedBit_write, if_pos rfl]
        exact (bitGet_bitSet world.state.present _ _ false inBitmap).trans (if_pos rfl)
      storedOthers := by
        intro other absent
        have different : other ≠ page := by simpa using absent
        rw [storedPresent, storedPresent, metadata, storedBit_write]
        split
        · exact .inr (bitGet_bitSet_other world.state.present false different)
        · exact .inl rfl
      bytes := by
        intro x
        rw [data]
        simp only [List.any_cons, List.any_nil, Bool.or_false, inPage, decide_eq_true_eq]
        rfl
      resident := by
        rw [state, tally_cons, tally_nil]
        change world.state.residentBytes - cache.pageLen world.state page + _ = _
        omega
      balance := by
        rw [balance, tally_cons, tally_nil]
        change (budget.balance world.budgetFile).getD 0 - cache.pageLen world.state page + _ = _
        omega
      dropped := by
        intro other member
        obtain rfl := List.mem_singleton.mp member
        rw [← Bool.not_eq_true, contains]
        exact fun both => both.2 rfl
      recency := by
        intro other absent _
        rw [state]
        exact (stamps other).trans (if_neg (by simpa using absent))
      restored := fun other same => by cases same }
  · exact {
      valid := by
        rw [state]
        exact valid
      present := by
        intro other known
        obtain ⟨known, different⟩ := (contains other).mp known
        rw [bits, if_neg different]
        exact ready.present other known
      evictable := by
        intro other
        rw [contains, state]
        change lru.Evictable other ↔ _
        rw [remaining, ready.evictable]
        tauto
      resident := by
        rw [lengths, state]
        change tally _ (trackedPages { world.state with lru }) ≤ world.state.residentBytes - _
        rw [trackedPages_pop popped]
        change _ ≤ world.state.residentBytes - cache.pageLen world.state page
        omega
      charged := by
        rw [lengths, state, balance]
        change tally _ (trackedPages { world.state with lru }) ≤ (budget.balance world.budgetFile).getD 0 - _
        rw [trackedPages_pop popped]
        change _ ≤ _ - cache.pageLen world.state page
        omega }

/-- A victim whose punch is refused stays, and becomes the most recent page. -/
theorem evictPage_refuses {protect : Option Nat} {lru : Lru} (ready : EvictReady cache budget world)
    (popped : world.state.lru.popLru protect = (some page, lru))
    (refused : (cache.evictPage budget page { world with state := { world.state with lru } }).1 = false) :
    cache.host.punchFails world.clock = true ∧
      Evicts cache budget world (cache.evictPage budget page { world with state := { world.state with lru } }).2 []
        (some page) ∧
      EvictReady cache budget (cache.evictPage budget page { world with state := { world.state with lru } }).2 := by
  obtain ⟨present, clean, tracked, total⟩ := ready.popped popped
  obtain ⟨_, _, valid, remaining⟩ := Lru.popLru_spec ready.valid popped
  have stamps := contains_pop popped
  rcases evictPage_outcome cache budget page { world with state := { world.state with lru } } with
    ⟨done, _⟩ | ⟨_, failed, outcome⟩
  · rw [refused] at done
    cases done
  rw [outcome]
  refine ⟨failed, ?_, ?_⟩
  · exact {
      shape := ⟨rfl, rfl⟩
      present := fun other => by simp [World.touch]
      dirty := rfl
      stored := fun other member => by cases member
      storedOthers := fun other _ => .inl rfl
      bytes := fun x => by simp [World.touch]
      resident := rfl
      balance := rfl
      dropped := fun other member => by cases member
      recency := by
        intro other _ different
        have apart : other ≠ page := fun equal => different (congrArg some equal)
        change (lru.byPage.insert page _).find? other = _
        rw [OrderedMap.find?_insert, if_neg apart, stamps, if_neg apart]
      restored := by
        intro other same
        obtain rfl := Option.some.inj same
        refine ⟨List.not_mem_nil, tracked, ?_⟩
        change (lru.touch other true).Evictable other
        rw [Lru.touch_evictable lru valid, if_pos rfl] }
  · have contains (other : Nat) : (lru.touch page true).contains other = true ↔
        world.state.lru.contains other = true := by
      rw [Lru.touch_contains, Lru.contains, OrderedMap.contains, stamps]
      by_cases same : other = page
      · simp [same, tracked]
      · simp [same, Lru.contains, OrderedMap.contains]
    have keys : tally (cache.pageLen world.state) (trackedPages { world.state with lru := lru.touch page true }) =
        tally (cache.pageLen world.state) (trackedPages world.state) := by
      refine tally_perm _ ((List.perm_ext_iff_of_nodup (trackedPages_nodup _) (trackedPages_nodup _)).mpr fun other => ?_)
      rw [mem_trackedPages, mem_trackedPages]
      exact contains other
    exact {
      valid := Lru.touch_valid lru valid page true
      present := fun other known => ready.present other ((contains other).mp known)
      evictable := by
        intro other
        change (lru.touch page true).Evictable other ↔ (lru.touch page true).contains other = true ∧ _
        rw [Lru.touch_evictable lru valid, contains, remaining, ready.evictable]
        by_cases same : other = page
        · simp [same, tracked, clean, World.touch]
        · simp [same, World.touch]
      resident := by
        change tally (cache.pageLen world.state) (trackedPages { world.state with lru := lru.touch page true }) ≤ _
        rw [keys]
        exact ready.resident
      charged := by
        change tally (cache.pageLen world.state) (trackedPages { world.state with lru := lru.touch page true }) ≤ _
        rw [keys]
        exact ready.charged }

end Step
section Index

/-- The index has this page of the cache with this length. -/
def Published (index : CacheIndex) (entries : List IndexEntry) (page len : Nat) : Prop :=
  ⟨index.blobIdentity, page, index.owner, index.pid, len⟩ ∈ entries

/-- Other caches never touch the lines of this one. -/
def Unmeddled (sharing : Option PageSharing) : Prop :=
  ∀ peers ∈ sharing, ∀ now entries entry, peers.index.owns entry = true →
    (entry ∈ peers.interfere now entries ↔ entry ∈ entries)

theorem published_unpublish {index : CacheIndex} {entries : List IndexEntry} {page other len : Nat} :
    Published index (index.unpublish page entries) other len ↔ Published index entries other len ∧ other ≠ page := by
  simp only [Published, CacheIndex.unpublish, List.mem_filter, CacheIndex.names]
  simp

theorem published_publish {index : CacheIndex} {entries : List IndexEntry} {page len : Nat} :
    Published index (index.publish page len entries) page len := by
  unfold Published CacheIndex.publish
  induction entries with
  | nil => exact List.mem_cons_self
  | cons entry rest ih =>
      rw [CacheIndex.upsert]
      split
      · rename_i own
        obtain ⟨owner, pid, identity, same⟩ := of_decide_eq_true own
        rw [← owner, ← pid, ← identity, ← same]
        exact List.mem_cons_self
      · exact List.mem_cons_of_mem _ ih

theorem published_publish_other {index : CacheIndex} {entries : List IndexEntry} {page other len held : Nat}
    (different : other ≠ page) :
    Published index (index.publish page len entries) other held ↔ Published index entries other held := by
  unfold Published CacheIndex.publish
  induction entries with
  | nil => simp [CacheIndex.upsert, different]
  | cons entry rest ih =>
      rw [CacheIndex.upsert]
      split
      · rename_i own
        obtain ⟨owner, pid, identity, same⟩ := of_decide_eq_true own
        have apart : other ≠ entry.pageIdx := fun equal => different (equal.trans same)
        cases entry
        simp_all
      · rw [List.mem_cons, List.mem_cons, ih]

/-- The own lines survive what happens before the lock is held. -/
theorem published_locked {sharing : Option PageSharing} (unmeddled : Unmeddled sharing) {peers : PageSharing}
    (member : peers ∈ sharing) (now : Nat) (entries : List IndexEntry) (page len : Nat) :
    Published peers.index (CacheIndex.pruneDead (peers.interfere now entries) peers.index.pid (peers.pidAlive now))
      page len ↔ Published peers.index entries page len := by
  unfold Published CacheIndex.pruneDead
  rw [List.mem_filter, unmeddled peers member now entries _ (by simp [CacheIndex.owns])]
  simp

/-- What an eviction does to the lines of the cache in the shared index. -/
structure Withdraws (cache : FileCacheBackend) (sharing : Option PageSharing) (before after : SharedWorld Inner)
    (evicted : List Nat) (refused : Option Nat) : Prop where
  punches : ∃ made, after.punches = before.punches ++ made ∧
    made.map (fun punch => (punch.page, punch.done)) =
      evicted.map (fun page => (page, true)) ++ refused.toList.map (fun page => (page, false)) ∧
    ∀ punch ∈ made, ∀ peers ∈ sharing, ∀ len, ¬ Published peers.index punch.entries punch.page len
  withdrawn : ∀ peers ∈ sharing, ∀ page ∈ evicted, ∀ len, ¬ Published peers.index after.entries page len
  others : ∀ peers ∈ sharing, ∀ page ∉ evicted, some page ≠ refused → ∀ len,
    (Published peers.index after.entries page len ↔ Published peers.index before.entries page len)
  restored : ∀ peers ∈ sharing, ∀ page, some page = refused →
    Published peers.index after.entries page (cache.pageLen before.world.state page)

variable {sharing : Option PageSharing} {shared : SharedWorld Inner}

theorem Withdraws.nil (cache : FileCacheBackend) (sharing : Option PageSharing) (shared : SharedWorld Inner) :
    Withdraws cache sharing shared shared [] none where
  punches := ⟨[], (List.append_nil _).symm, rfl, fun punch member => by cases member⟩
  withdrawn _ _ page member := by cases member
  others _ _ _ _ _ _ := Iff.rfl
  restored _ _ page same := by cases same

theorem Withdraws.cons {middle after : SharedWorld Inner} {page : Nat} {rest : List Nat} {refused : Option Nat}
    (lengths : cache.pageLen middle.world.state = cache.pageLen shared.world.state) (fresh : some page ≠ refused)
    (first : Withdraws cache sharing shared middle [page] none) (later : Withdraws cache sharing middle after rest refused) :
    Withdraws cache sharing shared after (page :: rest) refused where
  punches := by
    obtain ⟨made, grown, pages, withdrawn⟩ := first.punches
    obtain ⟨more, grownMore, pagesMore, withdrawnMore⟩ := later.punches
    refine ⟨made ++ more, by rw [grownMore, grown, List.append_assoc], by rw [List.map_append, pages, pagesMore]; rfl, ?_⟩
    intro punch member
    rcases List.mem_append.mp member with early | late
    · exact withdrawn punch early
    · exact withdrawnMore punch late
  withdrawn peers member other inside len := by
    by_cases again : other ∈ rest
    · exact later.withdrawn peers member other again len
    · obtain rfl : other = page := (List.mem_cons.mp inside).resolve_right again
      rw [later.others peers member other again fresh]
      exact first.withdrawn peers member other (List.mem_singleton.mpr rfl) len
  others peers member other absent different len := by
    obtain ⟨apart, absent⟩ : other ≠ page ∧ other ∉ rest := by simpa using absent
    rw [later.others peers member other absent different, first.others peers member other (by simpa using apart) (by simp)]
  restored peers member other same := by
    rw [← lengths]
    exact later.restored peers member other same

/-- A page that is evicted is withdrawn first, and one that is refused is published again. -/
theorem evictShared_withdraws (unmeddled : Unmeddled sharing) (budget : CacheBudget) (page : Nat)
    (popped : World Inner) (lengths : cache.pageLen popped.state = cache.pageLen shared.world.state) :
    (cache.evictShared sharing budget page { shared with world := popped }).1 = (cache.evictPage budget page popped).1 ∧
      (cache.evictShared sharing budget page { shared with world := popped }).2.world =
        (cache.evictPage budget page popped).2 ∧
      (if (cache.evictPage budget page popped).1 = true then
        Withdraws cache sharing shared (cache.evictShared sharing budget page { shared with world := popped }).2 [page] none
      else
        Withdraws cache sharing shared (cache.evictShared sharing budget page { shared with world := popped }).2 []
          (some page)) := by
  have gone (peers : PageSharing) (member : peers ∈ sharing) (other len : Nat) :
      Published peers.index (({ shared with world := popped } : SharedWorld Inner).withIndex sharing
        fun index => index.unpublish page).entries other len ↔
          Published peers.index shared.entries other len ∧ other ≠ page := by
    obtain rfl := Option.mem_def.mp member
    rw [SharedWorld.withIndex, published_unpublish, published_locked unmeddled member]
  have same : (({ shared with world := popped } : SharedWorld Inner).withIndex sharing
      fun index => index.unpublish page).world = popped ∧
      (({ shared with world := popped } : SharedWorld Inner).withIndex sharing
        fun index => index.unpublish page).punches = shared.punches := by
    cases sharing <;> exact ⟨rfl, rfl⟩
  unfold evictShared
  dsimp only
  rw [same.1, same.2]
  generalize ({ shared with world := popped } : SharedWorld Inner).withIndex sharing
    (fun index => index.unpublish page) = withdrawn at *
  cases done : (cache.evictPage budget page popped).1 with
  | true =>
      refine ⟨rfl, rfl, ?_⟩
      rw [if_pos rfl, if_pos rfl]
      exact {
        punches := by
          refine ⟨_, rfl, rfl, fun punch member peers sharer len => ?_⟩
          obtain rfl := List.mem_singleton.mp member
          rw [gone peers sharer]
          exact fun both => both.2 rfl
        withdrawn := by
          intro peers sharer other member len
          rw [gone peers sharer]
          exact fun both => both.2 (List.mem_singleton.mp member)
        others := by
          intro peers sharer other absent _ len
          rw [gone peers sharer]
          exact and_iff_left (by simpa using absent)
        restored := fun _ _ other same => by cases same }
  | false =>
      rw [if_neg Bool.false_ne_true, if_neg Bool.false_ne_true]
      refine ⟨rfl, ?_, ?_⟩
      · cases sharing <;> rfl
      · exact {
          punches := by
            refine ⟨[⟨page, false, withdrawn.entries⟩], by cases sharing <;> rfl, rfl, fun punch member peers sharer len => ?_⟩
            obtain rfl := List.mem_singleton.mp member
            rw [gone peers sharer]
            exact fun both => both.2 rfl
          withdrawn := fun _ _ other member => by cases member
          others := by
            intro peers sharer other _ different len
            have apart : other ≠ page := fun equal => different (congrArg some equal)
            obtain rfl := Option.mem_def.mp sharer
            rw [SharedWorld.withIndex, published_publish_other apart, published_locked unmeddled sharer, gone peers sharer]
            exact and_iff_left apart
          restored := by
            intro peers sharer other same
            obtain rfl := Option.some.inj same
            obtain rfl := Option.mem_def.mp sharer
            rw [SharedWorld.withIndex, ← lengths]
            exact published_publish }

end Index

section Loop

variable {sharing : Option PageSharing} {shared : SharedWorld Inner}

/-- The index does not influence what is evicted. -/
theorem evictSharedLoop_world (sharing : Option PageSharing) (budget : CacheBudget) (protect : Option Nat)
    (fuel excess : Nat) (shared : SharedWorld Inner) :
    (cache.evictSharedLoop sharing budget protect fuel excess shared).world =
      cache.evictLoop budget protect fuel excess shared.world := by
  have same (page : Nat) (shared : SharedWorld Inner) :
      (cache.evictShared sharing budget page shared).1 = (cache.evictPage budget page shared.world).1 ∧
        (cache.evictShared sharing budget page shared).2.world = (cache.evictPage budget page shared.world).2 := by
    have untouched : (shared.withIndex sharing fun index => index.unpublish page).world = shared.world := by
      cases sharing <;> rfl
    unfold evictShared
    dsimp only
    rw [untouched]
    cases done : (cache.evictPage budget page shared.world).1 with
    | true => exact ⟨rfl, rfl⟩
    | false => cases sharing <;> exact ⟨rfl, rfl⟩
  induction fuel generalizing excess shared with
  | zero => rfl
  | succ fuel ih =>
      unfold evictSharedLoop evictLoop
      split
      · rfl
      · cases shared.world.state.lru.popLru protect with
        | mk found lru =>
            cases found with
            | none => rfl
            | some page =>
                dsimp only
                rw [(same page _).1]
                split
                · rw [ih, (same page _).2]
                · exact (same page _).2

/-- The pages of this order are evicted until the goal is reached, or until a punch is refused. -/
structure EvictsFirst (cache : FileCacheBackend) (sharing : Option PageSharing) (budget : CacheBudget)
    (protect : Option Nat) (excess : Nat) (before after : SharedWorld Inner) (victims evicted : List Nat)
    (refused : Option Nat) : Prop where
  chosen : ReachesFirst (cache.pageLen before.world.state) excess (before.world.state.lru.candidates protect) victims
  reached : evicted ++ refused.toList <+: victims
  all : refused = none → evicted = victims
  failed : refused ≠ none → ∃ now, cache.host.punchFails now = true
  evicts : Evicts cache budget before.world after.world evicted refused
  withdraws : Withdraws cache sharing before after evicted refused
  ready : EvictReady cache budget after.world

/-- One victim is popped, and the loop goes on with what is left of the goal. -/
theorem evictSharedLoop_first (undisturbed : Undisturbed cache.host budget) (unmeddled : Unmeddled sharing)
    (protect : Option Nat) (fuel excess : Nat) (ready : EvictReady cache budget shared.world)
    (enough : (shared.world.state.lru.candidates protect).length ≤ fuel) :
    ∃ victims evicted refused, EvictsFirst cache sharing budget protect excess shared
      (cache.evictSharedLoop sharing budget protect fuel excess shared) victims evicted refused := by
  induction fuel generalizing excess shared with
  | zero =>
      have none' : shared.world.state.lru.candidates protect = [] := List.length_eq_zero_iff.mp (Nat.le_zero.mp enough)
      refine ⟨[], [], none, ?_, List.nil_prefix, fun _ => rfl, fun some => absurd rfl some, Evicts.nil _ _ _,
        Withdraws.nil _ _ _, ready⟩
      rw [none']
      exact reachesFirst_nil _ _
  | succ fuel ih =>
      unfold evictSharedLoop
      split
      · rename_i reached
        rw [reached]
        exact ⟨[], [], none, reachesFirst_zero _ _, List.nil_prefix, fun _ => rfl, fun some => absurd rfl some,
          Evicts.nil _ _ _, Withdraws.nil _ _ _, ready⟩
      · rename_i open'
        rcases Lru.popLru_candidates shared.world.state.lru protect with ⟨none', stopped⟩ | ⟨page, lru, popped, order⟩
        · cases victim : shared.world.state.lru.popLru protect with
          | mk found lru =>
              rw [victim] at stopped
              obtain rfl : found = none := stopped
              refine ⟨[], [], none, ?_, List.nil_prefix, fun _ => rfl, fun some => absurd rfl some, Evicts.nil _ _ _,
                Withdraws.nil _ _ _, ready⟩
              rw [none']
              exact reachesFirst_nil _ _
        · rw [popped]
          dsimp only
          obtain ⟨same, world, withdraws⟩ := @evictShared_withdraws _ cache sharing shared unmeddled budget page
            { shared.world with state := { shared.world.state with lru } } rfl
          rw [same]
          cases done : (cache.evictPage budget page { shared.world with state := { shared.world.state with lru } }).1 with
          | true =>
              rw [done, if_pos rfl] at withdraws
              rw [if_pos rfl]
              obtain ⟨evicts, next, kept⟩ := evictPage_evicts undisturbed ready popped done
              rw [← world] at evicts next kept
              rw [order, List.length_cons, Nat.add_le_add_iff_right, ← kept] at enough
              obtain ⟨victims, evicted, refused, rest⟩ := ih (excess - cache.pageLen shared.world.state page) next enough
              have fresh : some page ≠ refused := by
                intro same
                have tracked := (rest.evicts.restored page same).2.1
                rw [evicts.dropped page (List.mem_singleton.mpr rfl)] at tracked
                cases tracked
              refine ⟨page :: victims, page :: evicted, refused, ?_, ?_, ?_, rest.failed, evicts.cons rest.evicts,
                withdraws.cons evicts.shape.pageLen fresh rest.withdraws, rest.ready⟩
              · rw [order]
                have chosen := rest.chosen
                rw [evicts.shape.pageLen, kept] at chosen
                exact reachesFirst_cons (Nat.pos_of_ne_zero open') chosen
              · exact List.cons_prefix_cons.mpr ⟨rfl, rest.reached⟩
              · exact fun whole => congrArg (page :: ·) (rest.all whole)
          | false =>
              rw [done, if_neg Bool.false_ne_true] at withdraws
              rw [if_neg Bool.false_ne_true]
              obtain ⟨failed, evicts, next⟩ := evictPage_refuses ready popped done
              rw [← world] at evicts next
              obtain ⟨chosen, first⟩ := exists_reachesFirst (cache.pageLen shared.world.state)
                (excess - cache.pageLen shared.world.state page) (lru.candidates protect)
              refine ⟨page :: chosen, [], some page, ?_, List.cons_prefix_cons.mpr ⟨rfl, List.nil_prefix⟩,
                fun none' => (by cases none'), fun _ => ⟨_, failed⟩, evicts, withdraws, next⟩
              rw [order]
              exact reachesFirst_cons (Nat.pos_of_ne_zero open') first

/-- The candidates are the clean pages that are tracked and not protected. -/
theorem mem_candidates (ready : EvictReady cache budget world) (protect : Option Nat) (page : Nat) :
    page ∈ world.state.lru.candidates protect ↔
      world.state.lru.contains page = true ∧ bitGet world.state.dirty page = false ∧ some page ≠ protect := by
  rw [Lru.candidates, List.mem_filter, decide_eq_true_eq, ← and_assoc, ← ready.evictable, Lru.Evictable]
  simp

/-- The candidates are in the order of their stamps. -/
theorem candidates_sorted (ready : EvictReady cache budget world) (protect : Option Nat) :
    (world.state.lru.candidates protect).Pairwise fun first second => ∀ early late,
      world.state.lru.byPage.find? first = some early → world.state.lru.byPage.find? second = some late → early < late := by
  refine List.Pairwise.filter _ (List.pairwise_map.mpr ?_)
  refine List.Pairwise.imp_of_mem ?_ world.state.lru.evictable.sorted
  intro first second memberFirst memberSecond below early late foundEarly foundLate
  rw [ready.valid.stamped _ _ memberFirst] at foundEarly
  rw [ready.valid.stamped _ _ memberSecond] at foundLate
  rw [← Option.some.inj foundEarly, ← Option.some.inj foundLate]
  exact below

/-- An eviction drops the shortest prefix of the unprotected clean pages, from the least recently used one on, that
gives the bytes back, and stops early only at a page whose punch is refused. -/
theorem evictClean_exact (cache : FileCacheBackend) (budget : CacheBudget) (sharing : Option PageSharing)
    (budgeted : cache.budget = some budget) (supported : cache.host.punchHoleSupported = true)
    (undisturbed : Undisturbed cache.host budget) (unmeddled : Unmeddled sharing) (protect : Option Nat) (excess : Nat)
    (shared : SharedWorld Inner) (ready : EvictReady cache budget shared.world) :
    (∃ victims evicted refused, EvictsFirst cache sharing budget protect excess shared
      (cache.evictCleanShared sharing excess protect shared) victims evicted refused) ∧
    (∀ page, page ∈ shared.world.state.lru.candidates protect ↔ shared.world.state.lru.contains page = true ∧
      bitGet shared.world.state.dirty page = false ∧ some page ≠ protect) ∧
    ((shared.world.state.lru.candidates protect).Pairwise fun first second => ∀ early late,
      shared.world.state.lru.byPage.find? first = some early →
        shared.world.state.lru.byPage.find? second = some late → early < late) ∧
    (cache.evictCleanShared sharing excess protect shared).world = cache.evictClean excess protect shared.world := by
  refine ⟨?_, mem_candidates ready protect, candidates_sorted ready protect, ?_⟩
  · simp only [evictCleanShared, budgeted, supported, if_true]
    refine evictSharedLoop_first undisturbed unmeddled protect _ excess ready ?_
    rw [Lru.candidates, ← List.length_map Prod.snd]
    exact List.length_filter_le _ _
  · simp only [evictCleanShared, evictClean, budgeted, supported, if_true]
    exact evictSharedLoop_world sharing budget protect _ excess shared

end Loop

section Sample

def threeBudget : CacheBudget := ⟨4096, "cache", 1⟩

/-- Two whole pages and a short one. -/
def threePages : FileCacheBackend := ⟨1024, by decide, by decide, some threeBudget, calmHost⟩

def threeSharing : PageSharing := ⟨⟨"cache", "base", 1, 1024⟩, fun _ entries => entries, fun _ _ => true⟩

/-- The first two pages are clean and published, and the short one is dirty. -/
def threeResident : SharedWorld Unit where
  world :=
    ⟨⟨2560, 3, [7], [4], [0, 0, 1], 2560, ((Lru.empty.touch 0 true).touch 1 true).touch 2 false⟩,
      ⟨⟨2560, fun _ => 1⟩, ⟨66, fun _ => 7⟩, none, ()⟩, [⟨"cache", 1, 2560⟩], 0, []⟩
  entries := [⟨"base", 0, "cache", 1, 1024⟩, ⟨"base", 1, "cache", 1, 1024⟩]
  indexClock := 0
  punches := []

theorem threeResident_ready : EvictReady threePages threeBudget threeResident.world := by
  have valid : threeResident.world.state.lru.Valid :=
    Lru.touch_valid _ (Lru.touch_valid _ (Lru.touch_valid _ Lru.empty_valid 0 true) 1 true) 2 false
  have tracked (page : Nat) (known : threeResident.world.state.lru.contains page = true) : page ∈ [0, 1, 2] :=
    mem_trackedPages.mpr known
  refine ⟨valid, fun page known => ?_, fun page => ?_, by decide +kernel, by decide +kernel⟩
  · have bits : ∀ page ∈ [0, 1, 2], bitGet threeResident.world.state.present page = true := by decide +kernel
    exact bits page (tracked page known)
  · have evictable : threeResident.world.state.lru.Evictable page ↔ page ∈ [0, 1] := by
      rw [Lru.Evictable, show threeResident.world.state.lru.evictable.entries = [(1, 0), (2, 1)] from rfl]
      simp [exists_or]
    have clean : ∀ page ∈ [0, 1, 2], bitGet threeResident.world.state.dirty page = false ↔ page ∈ [0, 1] := by
      decide +kernel
    rw [evictable]
    constructor
    · intro early
      have own : page ∈ [0, 1, 2] := by
        rcases List.mem_pair.mp early with rfl | rfl <;> decide
      exact ⟨mem_trackedPages.mp own, (clean page own).mpr early⟩
    · rintro ⟨known, isClean⟩
      exact (clean page (tracked page known)).mp isClean

theorem evictClean_exact_three :
    ∃ victims evicted refused, EvictsFirst threePages (some threeSharing) threeBudget (some 1) 1 threeResident
      (threePages.evictCleanShared (some threeSharing) 1 (some 1) threeResident) victims evicted refused :=
  (evictClean_exact threePages threeBudget (some threeSharing) rfl rfl ⟨rfl, fun _ _ => rfl⟩
    (fun _ member _ _ _ _ => by rw [← Option.some.inj member]; exact Iff.rfl) (some 1) 1 threeResident
    threeResident_ready).1

end Sample
end FileCacheBackend
end UblkAzblob

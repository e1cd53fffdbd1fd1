import UblkAzblob.Foundation.SparseFile
import UblkAzblob.Proof.CacheLru
import UblkAzblob.Proof.MetadataMirror

namespace UblkAzblob
open Storage

namespace CacheBudget

/-- The balance recorded for the owner of a budget. -/
def balance (budget : CacheBudget) (entries : List Entry) : Option Nat :=
  (entries.find? fun entry => entry.owner = budget.owner ∧ entry.pid = budget.pid).map Entry.bytes

theorem balance_upsert (budget : CacheBudget) (entries : List Entry) (update : Nat → Nat) :
    budget.balance (upsert entries budget.owner budget.pid update) =
      some (update ((budget.balance entries).getD 0)) := by
  induction entries with
  | nil => simp [balance, upsert]
  | cons entry rest ih =>
      rw [upsert]
      split
      · rename_i own
        simp [balance, own]
      · rename_i other
        simp only [balance, List.find?_cons, other, decide_false] at ih ⊢
        exact ih

theorem balance_pruneDead (budget : CacheBudget) (entries : List Entry) (alive : Nat → Bool) :
    budget.balance (pruneDead entries budget.pid alive) = budget.balance entries := by
  rw [balance, balance, pruneDead, List.find?_filter]
  congr 2
  funext entry
  by_cases own : entry.owner = budget.owner ∧ entry.pid = budget.pid
  · simp [own]
  · simp [own]

end CacheBudget

namespace FileCacheBackend

variable {Inner : Type}

/-- Other processes never touch the line of this budget. -/
def Undisturbed (host : Host) (budget : CacheBudget) : Prop :=
  budget.pid = host.pid ∧ ∀ now entries, budget.balance (host.interfere now entries) = budget.balance entries

theorem withLocked_balance {host : Host} {budget : CacheBudget} (undisturbed : Undisturbed host budget)
    (update : Nat → Nat) (world : World Inner) :
    budget.balance (world.withLocked host (budget.setBalance update)).2.budgetFile =
      some (update ((budget.balance world.budgetFile).getD 0)) := by
  obtain ⟨samePid, keeps⟩ := undisturbed
  simp only [World.withLocked, CacheBudget.setBalance]
  rw [CacheBudget.balance_upsert, ← samePid, CacheBudget.balance_pruneDead, keeps]

/-- The allocated bytes of the data file, from what they were when the cache was opened. -/
def allocation (calls : List (Call Inner)) (start : Nat → Bool) : Nat → Bool :=
  calls.foldl (fun allocated call => match call.effect with
    | .data op => op.allocate allocated
    | _ => allocated) start

/-- A page is a hole when its region of the data file is vacant. -/
def isHole (cache : FileCacheBackend) (start : Nat → Bool) (world : World Inner) (page : Nat) : Bool :=
  vacant (allocation world.calls start) (page * cache.pageSize) (cache.pageLen world.state page)

/-- A page is charged when it is present and not a hole. -/
def charged (cache : FileCacheBackend) (start : Nat → Bool) (world : World Inner) (page : Nat) : Bool :=
  bitGet world.state.present page && !cache.isHole start world page

/-- The bytes of the charged pages. -/
def chargedBytes (cache : FileCacheBackend) (start : Nat → Bool) (world : World Inner) : Nat :=
  sumWhere world.state.numPages (cache.charged start world) (cache.pageLen world.state)

/-- The four accounts of the resident bytes agree. -/
structure Balanced (cache : FileCacheBackend) (budget : CacheBudget) (start : Nat → Bool)
    (world : World Inner) : Prop where
  resident : world.state.residentBytes = cache.chargedBytes start world
  recorded : budget.balance world.budgetFile = some world.state.residentBytes
  tracked : ∀ page, world.state.lru.contains page = true ↔
    page < world.state.numPages ∧ cache.charged start world page = true
  evictable : ∀ page, page ∈ world.state.lru.evictable.entries.map Prod.snd ↔
    world.state.lru.contains page = true ∧ bitGet world.state.dirty page = false

/-- An accepted read of a present hole would enter the hole into the recency order. -/
def sparesHoles (cache : FileCacheBackend) (start : Nat → Bool) (world : World Inner) : Operation → Bool
  | .serve (.read offset len) =>
      !decide (offset % 512 = 0 ∧ len % 512 = 0 ∧ offset + len ≤ world.state.devSize) ||
        (chunks cache.pageSize offset len).all fun chunk =>
          !(bitGet world.state.present chunk.page && cache.isHole start world chunk.page)
  | _ => true

section Accounts

variable {cache : FileCacheBackend} {budget : CacheBudget} {start : Nat → Bool} {world : World Inner} {page : Nat}

/-- The pages tile the device. -/
theorem sum_pageLen (cache : FileCacheBackend) (state : CacheState) (count : Nat) :
    ∑ page ∈ Finset.range count, cache.pageLen state page = min (count * cache.pageSize) state.devSize := by
  induction count with
  | zero => simp
  | succ count ih =>
      rw [Finset.sum_range_succ, ih, pageLen, Nat.succ_mul]
      omega

theorem chargedBytes_le (cache : FileCacheBackend) (start : Nat → Bool) (world : World Inner) :
    cache.chargedBytes start world ≤ world.state.devSize := by
  have total := sumWhere_le world.state.numPages (cache.charged start world) (cache.pageLen world.state)
  rw [sum_pageLen] at total
  unfold chargedBytes
  omega

/-- The accounts of a running cache are exact, and every dirty page of the device is charged. -/
structure Accounted (cache : FileCacheBackend) (budget : CacheBudget) (start : Nat → Bool)
    (world : World Inner) : Prop where
  shaped : cache.Shaped world.state
  bounded : world.state.devSize < 2 ^ 64
  presentLen : world.state.present.length = bitmapBytes world.state.numPages
  dirtyLen : world.state.dirty.length = bitmapBytes world.state.numPages
  dirty : ∀ page, cache.Inside world.state page → bitGet world.state.dirty page = true →
    cache.charged start world page = true
  lru : world.state.lru.Tracks (fun page => cache.Inside world.state page ∧ cache.charged start world page = true)
    (fun page => bitGet world.state.dirty page = false)
  resident : world.state.residentBytes = cache.chargedBytes start world
  recorded : budget.balance world.budgetFile = some world.state.residentBytes

/-- The accounts are exact but for one charged page, which may not be accounted yet. -/
structure AccountedBut (cache : FileCacheBackend) (budget : CacheBudget) (start : Nat → Bool) (exempt : Nat)
    (world : World Inner) : Prop where
  shaped : cache.Shaped world.state
  bounded : world.state.devSize < 2 ^ 64
  presentLen : world.state.present.length = bitmapBytes world.state.numPages
  dirtyLen : world.state.dirty.length = bitmapBytes world.state.numPages
  dirty : ∀ page, cache.Inside world.state page → bitGet world.state.dirty page = true →
    cache.charged start world page = true
  inside : cache.Inside world.state exempt
  own : cache.charged start world exempt = true
  lru : world.state.lru.TracksBut exempt
    (fun page => cache.Inside world.state page ∧ cache.charged start world page = true)
    (fun page => bitGet world.state.dirty page = false)
  resident : world.state.residentBytes +
    (if world.state.lru.contains exempt then 0 else cache.pageLen world.state exempt) =
      cache.chargedBytes start world
  recorded : budget.balance world.budgetFile = some world.state.residentBytes

theorem Accounted.balanced (accounted : Accounted cache budget start world) :
    Balanced cache budget start world where
  resident := accounted.resident
  recorded := accounted.recorded
  tracked page := by rw [accounted.lru.contains, inside_iff accounted.shaped]
  evictable page := by
    rw [accounted.lru.contains, ← accounted.lru.evictable]
    simp [Lru.Evictable]

/-- An access to a tracked page keeps the accounts. -/
theorem AccountedBut.touch (but : AccountedBut cache budget start page world)
    (tracked : world.state.lru.contains page = true) :
    Accounted cache budget start (world.touch page (!bitGet world.state.dirty page)) where
  shaped := but.shaped
  bounded := but.bounded
  presentLen := but.presentLen
  dirtyLen := but.dirtyLen
  dirty := but.dirty
  lru := but.lru.touch ⟨but.inside, but.own⟩ (by simp)
  resident := by
    have resident := but.resident
    rw [if_pos tracked] at resident
    exact resident
  recorded := but.recorded

/-- Admitting an untracked page enters it into every account. -/
theorem AccountedBut.admitted (but : AccountedBut cache budget start page world)
    (undisturbed : Undisturbed cache.host budget) (untracked : world.state.lru.contains page = false) :
    Accounted cache budget start (((world.touch page (!bitGet world.state.dirty page)).addResident
      (cache.pageLen world.state page)).withLocked cache.host
        (budget.admitBytes (cache.pageLen world.state page))).2 := by
  have limit := chargedBytes_le cache start world
  have bounded := but.bounded
  have resident := but.resident
  rw [if_neg (by rw [untracked]; exact Bool.false_ne_true)] at resident
  have exact : satAdd world.state.residentBytes (cache.pageLen world.state page) =
      cache.chargedBytes start world := by
    rw [satAdd]
    omega
  exact {
    shaped := but.shaped
    bounded := but.bounded
    presentLen := but.presentLen
    dirtyLen := but.dirtyLen
    dirty := but.dirty
    lru := but.lru.touch ⟨but.inside, but.own⟩ (by simp)
    resident := exact
    recorded := by
      rw [CacheBudget.admitBytes, withLocked_balance undisturbed]
      change some (satAdd ((budget.balance world.budgetFile).getD 0) _) = some (satAdd world.state.residentBytes _)
      rw [but.recorded]
      rfl }

theorem isHole_data (site : Site) (op : FileOp) (page : Nat) :
    cache.isHole start (world.issue site (.data op)) page =
      vacant (op.allocate (allocation world.calls start)) (page * cache.pageSize)
        (cache.pageLen world.state page) := by
  simp [isHole, World.issue, allocation]

theorem isHole_metadata (site : Site) (op : FileOp) (page : Nat) :
    cache.isHole start (world.issue site (.metadata op)) page = cache.isHole start world page := by
  simp [isHole, World.issue, allocation]

/-- The regions of two pages do not meet. -/
theorem region_apart {other x : Nat} (different : other ≠ page) (low : other * cache.pageSize ≤ x)
    (high : x < other * cache.pageSize + cache.pageLen world.state other) :
    x < page * cache.pageSize ∨ page * cache.pageSize + cache.pageSize ≤ x := by
  have short : cache.pageLen world.state other ≤ cache.pageSize := by
    unfold pageLen
    omega
  rcases Nat.lt_or_gt_of_ne different with below | above
  · have next := Nat.mul_le_mul_right cache.pageSize (Nat.succ_le_of_lt below)
    rw [Nat.succ_mul] at next
    omega
  · have next := Nat.mul_le_mul_right cache.pageSize (Nat.succ_le_of_lt above)
    rw [Nat.succ_mul] at next
    omega

/-- A call stays within the region of one page. -/
def Within (cache : FileCacheBackend) (page : Nat) (op : FileOp) : Prop :=
  ∀ x, op.touches x = true → page * cache.pageSize ≤ x ∧ x < page * cache.pageSize + cache.pageSize

theorem within_punch (cache : FileCacheBackend) (page : Nat) {len : Nat} (short : len ≤ cache.pageSize) :
    cache.Within page (.punch (page * cache.pageSize) len) := by
  intro x touched
  simp only [FileOp.touches, decide_eq_true_eq] at touched
  omega

theorem within_write (cache : FileCacheBackend) (page pageOffset : Nat) (bytes : List UInt8)
    (short : pageOffset + bytes.length ≤ cache.pageSize) :
    cache.Within page (.write (page * cache.pageSize + pageOffset) bytes) := by
  intro x touched
  simp only [FileOp.touches, decide_eq_true_eq] at touched
  omega

/-- A call within the region of one page leaves the holes of every other page alone. -/
theorem isHole_data_other {site : Site} {op : FileOp} {other : Nat} (different : other ≠ page)
    (within : cache.Within page op) :
    cache.isHole start (world.issue site (.data op)) other = cache.isHole start world other := by
  rw [isHole_data]
  apply vacant_untouched
  intro x low high
  have apart := region_apart different low high
  rw [← Bool.not_eq_true]
  intro touched
  have bounds := within x touched
  omega

/-- Changing whether one page is charged changes the charged bytes by its length. -/
theorem chargedBytes_change {after : World Inner} (shaped : cache.Shaped world.state)
    (shape : SameShape world after) (inside : cache.Inside world.state page)
    (others : ∀ other, other ≠ page → cache.charged start after other = cache.charged start world other) :
    cache.chargedBytes start after + (if cache.charged start world page then cache.pageLen world.state page else 0) =
      cache.chargedBytes start world +
        if cache.charged start after page then cache.pageLen world.state page else 0 := by
  have sameLen : cache.pageLen after.state = cache.pageLen world.state := by
    funext other
    rw [pageLen, shape.1, pageLen]
  rw [chargedBytes, chargedBytes, shape.2, sameLen]
  exact sumWhere_change _ ((inside_iff shaped page).mp inside) fun other _ different => others other different

/-- A popped page is charged no more once its region is punched, and it is tracked again otherwise. -/
theorem evictPage_accounted {protect : Option Nat} {lru : Lru} (undisturbed : Undisturbed cache.host budget)
    (accounted : Accounted cache budget start world) (popped : world.state.lru.popLru protect = (some page, lru)) :
    Accounted cache budget start
      (cache.evictPage budget page { world with state := { world.state with lru } }).2 := by
  obtain ⟨⟨inside, isCharged⟩, clean, _, tracks⟩ := accounted.lru.pop popped
  have inBitmap : page / 8 < world.state.present.length := by
    have below := (inside_iff accounted.shaped page).mp inside
    rw [accounted.presentLen, bitmapBytes]
    omega
  set bare : World Inner := { world with state := { world.state with lru } } with bareEq
  rcases evictPage_cases budget bare inside with refused | evicted
  · rw [refused]
    have but : lru.TracksBut page
        (fun page => cache.Inside world.state page ∧ cache.charged start world page = true)
        (fun page => bitGet world.state.dirty page = false) :=
      tracks.but page fun other different => ⟨by simp [different], Iff.rfl⟩
    exact {
      shaped := accounted.shaped
      bounded := accounted.bounded
      presentLen := accounted.presentLen
      dirtyLen := accounted.dirtyLen
      dirty := accounted.dirty
      lru := but.touch ⟨inside, isCharged⟩ (by simp [clean])
      resident := accounted.resident
      recorded := accounted.recorded }
  · rw [evicted]
    set len := cache.pageLen bare.state page with lenEq
    set punched := World.issue { bare with clock := bare.clock + 1 } (.evictClean page)
      (.data (.punch (page * cache.pageSize) len)) with punchedEq
    set cleared := writePresentByte (.evictClean page) page (punched.setPresent page false) with clearedEq
    have bits (other : Nat) : bitGet cleared.state.present other =
        if other = page then false else bitGet world.state.present other :=
      bitGet_bitSet world.state.present page other false inBitmap
    have holes {other : Nat} (different : other ≠ page) :
        cache.isHole start cleared other = cache.isHole start world other := by
      have moved : cache.isHole start punched other = cache.isHole start world other :=
        isHole_data_other different (within_punch cache page (Nat.min_le_left _ _))
      rw [clearedEq, writePresentByte, isHole_metadata]
      exact moved
    have own : cache.charged start cleared page = false := by
      rw [charged, bits, if_pos rfl, Bool.false_and]
    have others (other : Nat) (different : other ≠ page) :
        cache.charged start cleared other = cache.charged start world other := by
      rw [charged, charged, bits, if_neg different, holes different]
    have change := chargedBytes_change accounted.shaped (show SameShape world cleared from ⟨rfl, rfl⟩) inside others
    rw [own, isCharged, if_pos rfl, if_neg Bool.false_ne_true] at change
    have reduced : world.state.residentBytes - len = cache.chargedBytes start cleared := by
      rw [accounted.resident]
      have same : len = cache.pageLen world.state page := rfl
      omega
    exact {
      shaped := accounted.shaped
      bounded := accounted.bounded
      presentLen := (length_bitSet _ _ _).trans accounted.presentLen
      dirtyLen := accounted.dirtyLen
      dirty := by
        intro other within dirty
        have different : other ≠ page := by
          rintro rfl
          exact Bool.false_ne_true (clean.symm.trans dirty)
        exact (others other different).trans (accounted.dirty other within dirty)
      lru := by
        refine tracks.congr fun other => ?_
        change cache.Inside world.state other ∧ cache.charged start cleared other = true ↔ _
        by_cases same : other = page
        · simp [same, own]
        · simp [same, others other same]
      resident := reduced
      recorded := by
        rw [CacheBudget.release, withLocked_balance undisturbed]
        change some ((budget.balance world.budgetFile).getD 0 - len) = some (world.state.residentBytes - len)
        rw [accounted.recorded]
        rfl }

theorem evictLoop_accounted (undisturbed : Undisturbed cache.host budget) (protect : Option Nat) (fuel excess : Nat)
    (accounted : Accounted cache budget start world) :
    Accounted cache budget start (cache.evictLoop budget protect fuel excess world) := by
  induction fuel generalizing excess world with
  | zero => exact accounted
  | succ fuel ih =>
      unfold evictLoop
      split
      · exact accounted
      · cases victim : world.state.lru.popLru protect with
        | mk found lru =>
            cases found with
            | none => exact accounted
            | some page =>
                have evicted := evictPage_accounted undisturbed accounted victim
                dsimp only
                split
                · exact ih _ evicted
                · exact evicted

/-- Accounting a charged page makes the accounts exact. -/
theorem accountPresent_accounted (budgeted : cache.budget = some budget)
    (undisturbed : Undisturbed cache.host budget) (but : AccountedBut cache budget start page world)
    {clean : Bool} (classified : clean = !bitGet world.state.dirty page) :
    Accounted cache budget start (cache.accountPresent page clean (cache.pageLen world.state page) world) := by
  subst classified
  have positive := pageLen_pos but.inside
  simp only [accountPresent, budgeted, if_neg positive.ne']
  cases tracked : world.state.lru.contains page with
  | true =>
      simp only [if_true]
      exact but.touch tracked
  | false =>
      simp only [Bool.false_eq_true, if_false]
      have admitted := but.admitted undisturbed tracked
      split
      · exact admitted
      · simp only [evictClean, budgeted]
        split
        · exact evictLoop_accounted undisturbed _ _ _ admitted
        · exact admitted

/-- A change to one page that ends up charged leaves the other accounts exact. -/
theorem Accounted.but {after : World Inner} (accounted : Accounted cache budget start world)
    (inside : cache.Inside world.state page) (shape : SameShape world after)
    (sameLru : after.state.lru = world.state.lru)
    (sameResident : after.state.residentBytes = world.state.residentBytes)
    (sameFile : after.budgetFile = world.budgetFile)
    (presentLen : after.state.present.length = world.state.present.length)
    (dirtyLen : after.state.dirty.length = world.state.dirty.length)
    (others : ∀ other, other ≠ page → cache.charged start after other = cache.charged start world other ∧
      bitGet after.state.dirty other = bitGet world.state.dirty other)
    (own : cache.charged start after page = true) : AccountedBut cache budget start page after := by
  have sameInside (other : Nat) : cache.Inside after.state other ↔ cache.Inside world.state other := by
    rw [Inside, shape.1, Inside]
  have sameLen : cache.pageLen after.state page = cache.pageLen world.state page := by
    rw [pageLen, shape.1, pageLen]
  have change := chargedBytes_change accounted.shaped shape inside fun other different => (others other different).1
  rw [own, if_pos rfl] at change
  exact {
    shaped := by
      rw [Shaped, shape.1, shape.2]
      exact accounted.shaped
    bounded := by
      rw [shape.1]
      exact accounted.bounded
    presentLen := by rw [presentLen, shape.2, accounted.presentLen]
    dirtyLen := by rw [dirtyLen, shape.2, accounted.dirtyLen]
    dirty := by
      intro other within dirty
      by_cases same : other = page
      · rw [same]
        exact own
      · rw [(others other same).2] at dirty
        rw [(others other same).1]
        exact accounted.dirty other ((sameInside other).mp within) dirty
    inside := (sameInside page).mpr inside
    own
    lru := by
      rw [sameLru]
      refine accounted.lru.but page fun other different => ?_
      rw [sameInside, (others other different).1, (others other different).2]
      exact ⟨Iff.rfl, Iff.rfl⟩
    resident := by
      have tracked := accounted.lru.contains page
      rw [sameLru, sameResident, sameLen, accounted.resident]
      by_cases before : cache.charged start world page = true
      · rw [if_pos before] at change
        rw [if_pos (tracked.mpr ⟨inside, before⟩)]
        omega
      · rw [if_neg before] at change
        rw [if_neg (fun contained => before (tracked.mp contained).2)]
        omega
    recorded := by
      rw [sameFile, sameResident]
      exact accounted.recorded }

theorem Accounted.inBitmap (accounted : Accounted cache budget start world)
    (inside : cache.Inside world.state page) :
    page / 8 < world.state.present.length ∧ page / 8 < world.state.dirty.length := by
  have below := (inside_iff accounted.shaped page).mp inside
  rw [accounted.presentLen, accounted.dirtyLen, bitmapBytes]
  omega

/-- Storing a page changes only whether that page is charged. -/
theorem charged_stored (start : Nat → Bool) {op : FileOp} (now : Nat) (inBitmap : page / 8 < world.state.present.length)
    (within : cache.Within page op) :
    let stored := writePresentByte (.storeCleanPage page) page
      ((World.issue { world with clock := now } (.storeCleanPage page) (.data op)).setPresent page true)
    cache.charged start stored page = !vacant (op.allocate (allocation world.calls start))
        (page * cache.pageSize) (cache.pageLen world.state page) ∧
      ∀ other, other ≠ page → cache.charged start stored other = cache.charged start world other := by
  intro stored
  set issued := World.issue { world with clock := now } (.storeCleanPage page) (.data op) with issuedEq
  have bits (other : Nat) : bitGet stored.state.present other =
      if other = page then true else bitGet world.state.present other :=
    bitGet_bitSet world.state.present page other true inBitmap
  have holes (other : Nat) : cache.isHole start stored other = cache.isHole start issued other := by
    change cache.isHole start (writePresentByte _ _ _) other = _
    rw [writePresentByte, isHole_metadata]
    rfl
  constructor
  · rw [charged, bits, if_pos rfl, Bool.true_and, holes, issuedEq, isHole_data]
  · intro other different
    have moved : cache.isHole start issued other = cache.isHole start world other :=
      isHole_data_other different within
    rw [charged, bits, if_neg different, holes, moved, charged]

theorem storeCleanPage_accounted {data : List UInt8} (budgeted : cache.budget = some budget)
    (undisturbed : Undisturbed cache.host budget) (accounted : Accounted cache budget start world)
    (inside : cache.Inside world.state page) (absent : bitGet world.state.present page = false)
    (whole : data.length = cache.pageLen world.state page) :
    Accounted cache budget start (cache.storeCleanPage page (page * cache.pageSize) data world) := by
  have positive := pageLen_pos inside
  have short : cache.pageLen world.state page ≤ cache.pageSize := Nat.min_le_left _ _
  have inBitmap := (accounted.inBitmap inside).1
  have uncharged : cache.charged start world page = false := by
    rw [charged, absent, Bool.false_and]
  have clean : bitGet world.state.dirty page = false := by
    rw [← Bool.not_eq_true]
    intro dirty
    exact Bool.false_ne_true (uncharged.symm.trans (accounted.dirty page inside dirty))
  obtain ⟨now, punched | written⟩ := storePageData_cases cache page (page * cache.pageSize) data world
  · simp only [storeCleanPage, punched, if_true, accountPresent, budgeted]
    obtain ⟨own, others⟩ := charged_stored start now inBitmap (within_punch cache page short)
    rw [vacant_punch, Bool.not_true] at own
    have same : cache.charged start (writePresentByte (.storeCleanPage page) page
        ((World.issue { world with clock := now } (.storeCleanPage page) (.data (.punch (page * cache.pageSize)
          (cache.pageLen world.state page)))).setPresent page true)) = cache.charged start world := by
      funext other
      by_cases equal : other = page
      · rw [equal, own, uncharged]
      · exact others other equal
    exact {
      shaped := accounted.shaped
      bounded := accounted.bounded
      presentLen := (length_bitSet _ _ _).trans accounted.presentLen
      dirtyLen := accounted.dirtyLen
      dirty := by
        rw [same]
        exact accounted.dirty
      lru := by
        rw [same]
        exact accounted.lru
      resident := by
        rw [chargedBytes, same]
        exact accounted.resident
      recorded := accounted.recorded }
  · simp only [storeCleanPage, written, Bool.false_eq_true, if_false]
    have within := within_write cache page 0 data (by omega)
    rw [Nat.add_zero] at within
    obtain ⟨own, others⟩ := charged_stored start now inBitmap within
    rw [vacant_write _ (List.ne_nil_of_length_pos (by omega)) (Nat.le_refl _) (by omega), Bool.not_false] at own
    have but : AccountedBut cache budget start page (writePresentByte (.storeCleanPage page) page
        ((World.issue { world with clock := now } (.storeCleanPage page)
          (.data (.write (page * cache.pageSize) data))).setPresent page true)) :=
      accounted.but inside ⟨rfl, rfl⟩ rfl rfl rfl (length_bitSet _ _ _) rfl
        (fun other different => ⟨others other different, rfl⟩) own
    refine accountPresent_accounted budgeted undisturbed but ?_
    change true = !bitGet world.state.dirty page
    rw [clean]
    rfl

theorem isHole_persistMetaBit (marked : World Inner) (page other : Nat) :
    cache.isHole start (persistMetaBit page marked) other = cache.isHole start marked other := by
  simp only [persistMetaBit, isHole_metadata, writePresentByte]

theorem dirtyPageRegion_accounted {pageOffset : Nat} {payload : List UInt8} (budgeted : cache.budget = some budget)
    (undisturbed : Undisturbed cache.host budget) (accounted : Accounted cache budget start world)
    (inside : cache.Inside world.state page) (some : payload ≠ [])
    (fits : pageOffset + payload.length ≤ cache.pageLen world.state page) :
    Accounted cache budget start (cache.dirtyPageRegion page pageOffset payload world) := by
  have short : cache.pageLen world.state page ≤ cache.pageSize := Nat.min_le_left _ _
  obtain ⟨inPresent, inDirty⟩ := accounted.inBitmap inside
  unfold dirtyPageRegion
  dsimp only
  set written := world.issue (.dirtyPageRegion page)
    (.data (.write (page * cache.pageSize + pageOffset) payload)) with writtenEq
  set synced := written.issue (.dirtyPageRegion page) (.data .sync) with syncedEq
  set persisted := persistMetaBit page (((synced.setPresent page true).setDirty page true).bumpGeneration page)
    with persistedEq
  have presentBits (other : Nat) : bitGet persisted.state.present other =
      if other = page then true else bitGet world.state.present other :=
    bitGet_bitSet world.state.present page other true inPresent
  have dirtyBits (other : Nat) : bitGet persisted.state.dirty other =
      if other = page then true else bitGet world.state.dirty other :=
    bitGet_bitSet world.state.dirty page other true inDirty
  have holes (other : Nat) : cache.isHole start persisted other = cache.isHole start written other := by
    have syncing : cache.isHole start synced other = cache.isHole start written other := by
      rw [syncedEq, isHole_data]
      rfl
    rw [persistedEq, isHole_persistMetaBit]
    exact syncing
  have own : cache.charged start persisted page = true := by
    rw [charged, presentBits, if_pos rfl, holes, writtenEq, isHole_data,
      vacant_write _ some (Nat.le_add_right _ _) (by omega)]
    rfl
  have others (other : Nat) (different : other ≠ page) :
      cache.charged start persisted other = cache.charged start world other ∧
        bitGet persisted.state.dirty other = bitGet world.state.dirty other := by
    have moved : cache.isHole start written other = cache.isHole start world other :=
      isHole_data_other different (within_write cache page pageOffset payload (by omega))
    rw [charged, presentBits, if_neg different, holes, moved, dirtyBits, if_neg different, charged]
    exact ⟨rfl, rfl⟩
  have but : AccountedBut cache budget start page persisted :=
    accounted.but inside ⟨rfl, rfl⟩ rfl rfl rfl (length_bitSet _ _ _) (length_bitSet _ _ _) others own
  refine accountPresent_accounted budgeted undisturbed but ?_
  rw [dirtyBits, if_pos rfl]
  rfl

theorem cleaned_accounted (budgeted : cache.budget = some budget) (accounted : Accounted cache budget start world)
    (inside : cache.Inside world.state page) (dirty : bitGet world.state.dirty page = true) :
    Accounted cache budget start (cache.cleaned page world) := by
  set persisted := persistMetaBit page (world.setDirty page false) with persistedEq
  have dirtyBits (other : Nat) : bitGet persisted.state.dirty other =
      if other = page then false else bitGet world.state.dirty other :=
    bitGet_bitSet world.state.dirty page other false (accounted.inBitmap inside).2
  have same (other : Nat) : cache.charged start persisted other = cache.charged start world other := by
    rw [charged, persistedEq, isHole_persistMetaBit]
    rfl
  have own := accounted.dirty page inside dirty
  have but : AccountedBut cache budget start page persisted :=
    accounted.but inside ⟨rfl, rfl⟩ rfl rfl rfl rfl (length_bitSet _ _ _)
      (fun other different => ⟨same other, by rw [dirtyBits, if_neg different]⟩) ((same page).trans own)
  have touched := but.touch ((accounted.lru.contains page).mpr ⟨inside, own⟩)
  rw [dirtyBits, if_pos rfl] at touched
  simp only [cleaned, budgeted, Option.isSome_some, if_true]
  exact touched

/-- A call that changes neither the data file nor memory leaves every account as it is. -/
theorem Accounted.frame {after : World Inner} (accounted : Accounted cache budget start world)
    (sameState : after.state = world.state) (sameFile : after.budgetFile = world.budgetFile)
    (sameHoles : allocation after.calls start = allocation world.calls start) :
    Accounted cache budget start after := by
  have same : cache.charged start after = cache.charged start world := by
    funext page
    rw [charged, charged, isHole, isHole, sameState, sameHoles]
  have sameBytes : cache.chargedBytes start after = cache.chargedBytes start world := by
    rw [chargedBytes, chargedBytes, same, sameState]
  obtain ⟨shaped, bounded, presentLen, dirtyLen, dirty, lru, resident, recorded⟩ := accounted
  rw [← sameState] at shaped bounded presentLen dirtyLen dirty lru resident recorded
  rw [← same] at dirty lru
  rw [← sameBytes] at resident
  rw [← sameFile] at recorded
  exact ⟨shaped, bounded, presentLen, dirtyLen, dirty, lru, resident, recorded⟩

theorem allocation_inner (calls : List (Call Inner)) (site : Site) (after : Inner) (start : Nat → Bool) :
    allocation (calls ++ [⟨site, .inner after⟩]) start = allocation calls start := by
  simp [allocation]

/-- Every beat of an operation keeps the accounts exact. -/
theorem Beat.accounted [BlobBackend Inner] {flushing : Bool} {after : World Inner}
    (budgeted : cache.budget = some budget) (undisturbed : Undisturbed cache.host budget)
    (beat : Beat cache flushing world after)
    (accounted : Accounted cache budget start world) : Accounted cache budget start after := by
  cases beat with
  | query site after queried => exact accounted.frame rfl rfl (allocation_inner _ _ _ _)
  | tick => exact accounted.frame rfl rfl rfl
  | upload page offset bytes live => exact accounted.frame rfl rfl (allocation_inner _ _ _ _)
  | token text live fresh => exact accounted.frame rfl rfl (by simp [World.issue, allocation])
  | store page data inside absent whole =>
      exact storeCleanPage_accounted budgeted undisturbed accounted inside absent whole
  | dirty page pageOffset payload inside some fits =>
      exact dirtyPageRegion_accounted budgeted undisturbed accounted inside some fits
  | clean page live inside dirty => exact cleaned_accounted budgeted accounted inside dirty

/-- The accounts are exact and no named page is a present hole. -/
def Spared (cache : FileCacheBackend) (budget : CacheBudget) (start : Nat → Bool) (names : Nat → Prop)
    (world : World Inner) : Prop :=
  Accounted cache budget start world ∧ ∀ page, names page → bitGet world.state.present page = true →
    cache.isHole start world page = false

/-- A read that names no present hole keeps the accounts exact. -/
theorem Glance.spared [BlobBackend Inner] {names : Nat → Prop} {after : World Inner} (glance : Glance cache names world after)
    (spared : Spared cache budget start names world) : Spared cache budget start names after := by
  obtain ⟨accounted, spares⟩ := spared
  cases glance with
  | query site after queried =>
      refine ⟨accounted.frame rfl rfl (allocation_inner _ _ _ _), fun page named present => ?_⟩
      rw [isHole, World.issue, allocation_inner]
      exact spares page named present
  | hit page named inside present budgeted =>
      have own : cache.charged start world page = true := by
        rw [charged, present, spares page named present]
        rfl
      have but := accounted.but inside (.refl world) rfl rfl rfl rfl rfl (fun _ _ => ⟨rfl, rfl⟩) own
      exact ⟨but.touch ((accounted.lru.contains page).mpr ⟨inside, own⟩), spares⟩

theorem reinit_accounted {size : Nat} (bounded : size < 2 ^ 64) (budgeted : cache.budget = some budget)
    (undisturbed : Undisturbed cache.host budget) (world : World Inner) :
    Accounted cache budget start (cache.reinit size world) := by
  simp only [reinit, budgeted]
  set numPages := (size + cache.pageSize - 1) / cache.pageSize
  set written := writeFullMeta cache.pageSize size numPages (blankBitmap numPages) (blankBitmap numPages)
    { world.issue .create (.data (.setLen size)) with state := ⟨size, numPages, blankBitmap numPages,
      blankBitmap numPages, List.replicate numPages 0, 0, .empty⟩ } with writtenEq
  set final := ((written.withLocked cache.host (budget.reset 0)).2).issue .create (.etag none) with finalEq
  have blank : cache.charged start final = fun _ => false := by
    funext page
    rw [charged, show final.state.present = blankBitmap numPages from rfl, bitGet_blank, Bool.false_and]
  exact {
    shaped := rfl
    bounded
    presentLen := List.length_replicate
    dirtyLen := List.length_replicate
    dirty := fun page _ dirty => by
      rw [show final.state.dirty = blankBitmap numPages from rfl, bitGet_blank] at dirty
      exact absurd dirty Bool.false_ne_true
    lru := Lru.empty_tracks fun page tracked => by
      rw [blank] at tracked
      exact Bool.false_ne_true tracked.2
    resident := by
      rw [chargedBytes, blank]
      simp [sumWhere, finalEq, writtenEq, World.issue, World.withLocked, writeFullMeta]
    recorded := withLocked_balance undisturbed (fun _ => 0) written }

/-- A request that spares the holes keeps the accounts exact. -/
theorem operate_accounted [BlobBackend Inner] {operation : Operation} (budgeted : cache.budget = some budget)
    (undisturbed : Undisturbed cache.host budget) (accounted : Accounted cache budget start world)
    (spares : cache.sparesHoles start world operation = true) :
    Accounted cache budget start (cache.operate operation world) := by
  cases operation with
  | serve request =>
      cases request with
      | read offset len =>
          refine ((read_glances offset len).invariant (fun _ _ glance => glance.spared) ⟨accounted, ?_⟩).1
          rintro page ⟨accepted, chunk, member, rfl⟩ present
          simp only [sparesHoles, accepted, and_self, decide_true, Bool.not_true, Bool.false_or,
            List.all_eq_true] at spares
          simpa [present] using spares chunk member
      | _ =>
          exact (perform_beats accounted.shaped (by simp) (.inl rfl)).invariant
            (fun _ _ beat => beat.accounted budgeted undisturbed) accounted
  | create size =>
      refine Action.keeps_bind (Action.keeps_ensure _ _) (fun _ _ _ kept _ => ?_) world accounted
      refine Action.keeps_bind (fun before held => ?_) (fun _ _ after _ _ => ?_) _ kept
      · exact held.frame rfl rfl (allocation_inner _ _ _ _)
      · exact reinit_accounted size.toNat_lt budgeted undisturbed after

theorem run_accounted [BlobBackend Inner] {operations : List Operation} (budgeted : cache.budget = some budget)
    (undisturbed : Undisturbed cache.host budget) (accounted : Accounted cache budget start world)
    (spares : along (fun world operation => some (cache.operate operation world)) (cache.sparesHoles start)
      world operations = true) :
    Accounted cache budget start (cache.run operations world) := by
  induction operations generalizing world with
  | nil => exact accounted
  | cons operation rest ih =>
      rw [along, Bool.and_eq_true] at spares
      exact ih (operate_accounted budgeted undisturbed accounted spares.1) spares.2

/-- A clean page is asked about when the pages before it have been. -/
def question (state : CacheState) (first page : Nat) : Nat :=
  first + countPages page fun earlier => bitGet state.present earlier && !bitGet state.dirty earlier

theorem countPages_succ (count : Nat) (test : Nat → Bool) :
    countPages (count + 1) test = countPages count test + if test count then 1 else 0 := by
  rw [countPages, List.range_succ, List.filter_append, List.length_append, countPages]
  cases outcome : test count with
  | true => simp [outcome]
  | false => simp [outcome]

/-- Seeding one page asks about it when it is clean, and counts it unless it is a hole. -/
def seedPage (cache : FileCacheBackend) (page : Nat) (world : World Inner) : World Inner :=
  if bitGet world.state.present page then
    let clean := !bitGet world.state.dirty page
    let hole := if clean then world.ask cache.host.regionIsHole else (false, world)
    if hole.1 then hole.2 else (hole.2.addResident (cache.pageLen world.state page)).touch page clean
  else world

theorem seedLru_cons (cache : FileCacheBackend) (page : Nat) (rest : List Nat) (world : World Inner) :
    cache.seedLru (page :: rest) world = cache.seedLru rest (cache.seedPage page world) := by
  simp only [seedLru, seedPage, apply_ite (cache.seedLru rest)]

/-- The pages below a bound have been seeded: the charged ones are accounted and the clean ones asked about. -/
structure Seeded (cache : FileCacheBackend) (start : Nat → Bool) (base : World Inner) (first bound : Nat)
    (world : World Inner) : Prop where
  quiet : Quiet base world
  lru : world.state.lru.Tracks (fun page => page < bound ∧ cache.charged start base page = true)
    (fun page => bitGet base.state.dirty page = false)
  resident : world.state.residentBytes = sumWhere bound (cache.charged start base) (cache.pageLen base.state)
  clock : world.clock = question base.state first bound

section Seeding

variable {base : World Inner} {first bound : Nat}

/-- Counting the next page, which is charged, extends the accounts to it. -/
theorem Seeded.counted (asked : World Inner) (seeded : Seeded cache start base first bound world)
    (small : base.state.devSize < 2 ^ 64) (own : cache.charged start base bound = true)
    (sameState : asked.state = world.state) (quiet : Quiet base asked)
    (clock : asked.clock = question base.state first (bound + 1)) :
    Seeded cache start base first (bound + 1) ((asked.addResident (cache.pageLen world.state bound)).touch bound
      (!bitGet world.state.dirty bound)) := by
  have sum : sumWhere (bound + 1) (cache.charged start base) (cache.pageLen base.state) =
      sumWhere bound (cache.charged start base) (cache.pageLen base.state) + cache.pageLen base.state bound := by
    rw [sumWhere, Finset.sum_range_succ, if_pos own, sumWhere]
  have limit : sumWhere (bound + 1) (cache.charged start base) (cache.pageLen base.state) ≤
      base.state.devSize := by
    have total := sumWhere_le (bound + 1) (cache.charged start base) (cache.pageLen base.state)
    rw [sum_pageLen] at total
    omega
  have sameLen : cache.pageLen world.state bound = cache.pageLen base.state bound := by
    rw [pageLen, seeded.quiet.devSize, pageLen]
  refine ⟨⟨quiet.disk, quiet.calls, quiet.devSize, quiet.numPages, quiet.present, quiet.dirty, quiet.dirtyGen⟩,
    ?_, ?_, clock⟩
  · change (asked.state.lru.touch bound _).Tracks _ _
    rw [sameState]
    refine Lru.TracksBut.touch ?_ ⟨Nat.lt_succ_self bound, own⟩ (by simp [seeded.quiet.dirty])
    refine seeded.lru.but bound fun other different => ⟨?_, Iff.rfl⟩
    have below : other < bound + 1 ↔ other < bound := by omega
    rw [below]
  · change satAdd asked.state.residentBytes _ = _
    rw [sameState, seeded.resident, sameLen, satAdd, sum]
    omega

/-- Passing over a page that is not charged keeps the accounts. -/
theorem Seeded.skipped {asked : World Inner} (seeded : Seeded cache start base first bound world)
    (own : cache.charged start base bound = false) (sameState : asked.state = world.state)
    (quiet : Quiet base asked) (clock : asked.clock = question base.state first (bound + 1)) :
    Seeded cache start base first (bound + 1) asked := by
  refine ⟨quiet, ?_, ?_, clock⟩
  · rw [sameState]
    refine seeded.lru.congr fun page => ?_
    by_cases same : page = bound
    · simp [same, own]
    · have below : page < bound + 1 ↔ page < bound := by omega
      rw [below]
  · rw [sameState, seeded.resident, sumWhere, sumWhere, Finset.sum_range_succ, own,
      if_neg Bool.false_ne_true, Nat.add_zero]

theorem seedPage_seeded (seeded : Seeded cache start base first bound world)
    (small : base.state.devSize < 2 ^ 64)
    (told : bitGet base.state.present bound = true → bitGet base.state.dirty bound = false →
      cache.host.regionIsHole (question base.state first bound) = cache.isHole start base bound)
    (held : bitGet base.state.dirty bound = true → cache.charged start base bound = true) :
    Seeded cache start base first (bound + 1) (cache.seedPage bound world) := by
  have quiet := seeded.quiet
  have clock := seeded.clock
  simp only [seedPage]
  cases present : bitGet world.state.present bound with
  | false =>
      rw [quiet.present] at present
      simp only [Bool.false_eq_true, if_false]
      refine seeded.skipped (by rw [charged, present, Bool.false_and]) rfl quiet ?_
      rw [clock, question, question, countPages_succ, present, Bool.false_and, if_neg Bool.false_ne_true,
        Nat.add_zero]
  | true =>
      simp only [if_true]
      cases dirty : bitGet world.state.dirty bound with
      | true =>
          have own := held (by rw [← quiet.dirty]; exact dirty)
          simp only [Bool.not_true, Bool.false_eq_true, if_false]
          have counted := seeded.counted world small own rfl quiet (by
            rw [clock, question, question, countPages_succ, ← quiet.dirty, dirty, Bool.not_true, Bool.and_false,
              if_neg Bool.false_ne_true, Nat.add_zero])
          rw [dirty] at counted
          exact counted
      | false =>
          have asked := quiet.trans (ask_quiet world cache.host.regionIsHole)
          rw [quiet.present] at present
          have ticked : (world.ask cache.host.regionIsHole).2.clock = question base.state first (bound + 1) := by
            change world.clock + 1 = _
            rw [clock, question, question, countPages_succ, present, ← quiet.dirty, dirty, Bool.not_false,
              Bool.and_self, if_pos rfl, Nat.add_assoc]
          have answer : (world.ask cache.host.regionIsHole).1 = cache.isHole start base bound := by
            change cache.host.regionIsHole world.clock = _
            rw [clock]
            exact told present (by rw [← quiet.dirty]; exact dirty)
          simp only [Bool.not_false, if_true, answer]
          cases hole : cache.isHole start base bound with
          | true =>
              simp only [if_true]
              exact seeded.skipped (by rw [charged, present, hole]; rfl) rfl asked ticked
          | false =>
              simp only [Bool.false_eq_true, if_false]
              have counted := seeded.counted (world.ask cache.host.regionIsHole).2 small (by rw [charged, present, hole]; rfl) rfl asked ticked
              rw [dirty] at counted
              exact counted

theorem seedLru_seeded (count : Nat) (seeded : Seeded cache start base first bound world)
    (small : base.state.devSize < 2 ^ 64)
    (told : ∀ page, page < bound + count → bitGet base.state.present page = true →
      bitGet base.state.dirty page = false →
      cache.host.regionIsHole (question base.state first page) = cache.isHole start base page)
    (held : ∀ page, page < bound + count → bitGet base.state.dirty page = true →
      cache.charged start base page = true) :
    Seeded cache start base first (bound + count) (cache.seedLru (List.range' bound count) world) := by
  induction count generalizing bound world with
  | zero => exact seeded
  | succ count ih =>
      rw [List.range'_succ, seedLru_cons, show bound + (count + 1) = bound + 1 + count by omega]
      exact ih (seedPage_seeded seeded small (told bound (by omega)) (held bound (by omega)))
        (fun page below => told page (by omega)) (fun page below => held page (by omega))

end Seeding

/-- An opened cache has exact accounts when it is told the holes and every recorded dirty page has data. -/
theorem openCache_accounted {cfg : FileCacheConfig} {host : Host} {devSize : Nat} {currentEtag : Option String}
    {disk : Disk Inner} {budgetFile : List Entry} {clock recovered : Nat} (smallPage : cfg.pageSize < 2 ^ 64)
    (small : devSize < 2 ^ 64)
    (opened : openCache cfg host devSize currentEtag disk budgetFile clock = .ok (cache, world, recovered))
    (budgeted : cache.budget = some budget) (undisturbed : Undisturbed cache.host budget)
    (told : ∀ page, page < world.state.numPages → bitGet world.state.present page = true →
      bitGet world.state.dirty page = false →
      host.regionIsHole (question world.state (clock + 1) page) = cache.isHole start world page)
    (held : ∀ page, page < world.state.numPages → bitGet world.state.dirty page = true →
      cache.charged start world page = true) :
    Accounted cache budget start world := by
  have mirrored := openCache_mirrored smallPage small opened
  obtain ⟨presentLen, dirtyLen⟩ := recorded_lengths mirrored.recorded
  obtain ⟨registered, quiet, empty, zero, _, sameHost, _, _, final⟩ := openCache_cases opened
  have size : world.state.devSize = devSize := by
    rw [(openCache_quiet opened).1.devSize]
    exact (validatedWorld_shape _ _ _ _ _ _).1
  have pages : world.state.numPages = (devSize + cfg.pageSize - 1) / cfg.pageSize := by
    rw [(openCache_quiet opened).1.numPages]
    exact (validatedWorld_shape _ _ _ _ _ _).2.1
  rcases final with ⟨unlimited, _⟩ | ⟨same, sameBudget, _, ticked, reached⟩
  · rw [unlimited] at budgeted
    cases budgeted
  · obtain rfl : budget = same := Option.some.inj (budgeted.symm.trans sameBudget)
    have settled : Quiet registered world := by
      rw [reached]
      exact (seedLru_quiet _ _ _).trans (withLocked_quiet _ _ _)
    have holes : cache.isHole start world = cache.isHole start registered := by
      funext page
      rw [isHole, isHole, settled.calls, pageLen, pageLen, settled.devSize]
    have charges : cache.charged start world = cache.charged start registered := by
      funext page
      rw [charged, charged, holes, settled.present]
    have none : Seeded cache start registered (clock + 1) 0 registered := {
      quiet := ⟨rfl, rfl, rfl, rfl, rfl, rfl, rfl⟩
      lru := by
        rw [empty]
        exact Lru.empty_tracks fun page tracked => Nat.not_lt_zero page tracked.1
      resident := zero
      clock := ticked }
    have asked : question world.state = question registered.state := by
      funext first page
      rw [question, question, settled.present, settled.dirty]
    have seeded := seedLru_seeded ((devSize + cfg.pageSize - 1) / cfg.pageSize) none
      (by rw [← settled.devSize, size]; exact small)
      (by
        intro page below present clean
        rw [Nat.zero_add, ← pages] at below
        rw [sameHost, ← asked, ← holes]
        exact told page below (by rw [settled.present]; exact present) (by rw [settled.dirty]; exact clean))
      (by
        intro page below dirty
        rw [Nat.zero_add, ← pages] at below
        rw [← charges]
        exact held page below (by rw [settled.dirty]; exact dirty))
    rw [Nat.zero_add, ← pages, ← List.range_eq_range'] at seeded
    rw [← pages] at reached
    have sameState : world.state = (cache.seedLru (List.range world.state.numPages) registered).state :=
      (congrArg World.state reached).trans rfl
    have tracks := seeded.lru
    have resident := seeded.resident
    have sameLen : cache.pageLen registered.state = cache.pageLen world.state := by
      funext page
      rw [pageLen, pageLen, settled.devSize]
    rw [← sameState, ← charges, ← settled.dirty] at tracks
    rw [← sameState, ← charges, sameLen] at resident
    exact {
      shaped := mirrored.shaped
      bounded := by
        rw [size]
        exact small
      presentLen
      dirtyLen
      dirty := fun page inside dirty => held page ((inside_iff mirrored.shaped page).mp inside) dirty
      lru := tracks.congr fun page => by rw [inside_iff mirrored.shaped]
      resident
      recorded := by
        have balance := withLocked_balance undisturbed
          (fun _ => (cache.seedLru (List.range world.state.numPages) registered).state.residentBytes)
          (cache.seedLru (List.range world.state.numPages) registered)
        rw [sameHost] at balance
        have sameFile := congrArg World.budgetFile reached
        rw [sameFile, CacheBudget.reset, balance, ← sameState] }

/-- In every run whose reads spare the holes, the resident bytes, the recorded balance, the charged pages and
the recency order agree after every call. -/
theorem budget_accounting_exact [BlobBackend Inner] (cfg : FileCacheConfig) {host : Host} (devSize : UInt64)
    {currentEtag : Option String} {disk : Disk Inner} {budgetFile : List Entry} {clock recovered : Nat}
    (start : Nat → Bool) (smallPage : cfg.pageSize < 2 ^ 64)
    (opened : openCache cfg host devSize.toNat currentEtag disk budgetFile clock = .ok (cache, world, recovered))
    (budgeted : cache.budget = some budget)
    (undisturbed : ∀ now entries, budget.balance (host.interfere now entries) = budget.balance entries)
    (told : ∀ page, page < world.state.numPages → bitGet world.state.present page = true →
      bitGet world.state.dirty page = false →
      host.regionIsHole (question world.state (clock + 1) page) = cache.isHole start world page)
    (held : ∀ page, page < world.state.numPages → bitGet world.state.dirty page = true →
      cache.charged start world page = true)
    (operations : List Operation)
    (spares : along (fun world operation => some (cache.operate operation world)) (cache.sparesHoles start)
      world operations = true) :
    Balanced cache budget start (cache.run operations world) := by
  obtain ⟨_, _, _, _, _, sameHost, _, _, final⟩ := openCache_cases opened
  have alone : Undisturbed cache.host budget := by
    rcases final with ⟨unlimited, _⟩ | ⟨same, sameBudget, fields, _, _⟩
    · rw [unlimited] at budgeted
      cases budgeted
    · obtain rfl : budget = same := Option.some.inj (budgeted.symm.trans sameBudget)
      rw [sameHost]
      exact ⟨by rw [fields], undisturbed⟩
  have accounted := openCache_accounted smallPage devSize.toNat_lt opened budgeted alone told held
  exact (run_accounted budgeted alone accounted spares).balanced

end Accounts

section Example

/-- A hole is loaded, read and written. -/
def readHole : List Operation :=
  [.serve (.prefetch 0 512), .serve (.read 0 512), .serve (.write 0 (List.replicate 512 7))]

/-- Once a read has touched a present hole, a write to that page is never charged. -/
theorem read_of_hole_drifts :
    ∃ cache world recovered budget, openCache ⟨"cache", 512, 4096⟩ calmHost 1024 none (blankDisk 1024) [] 0 =
        .ok (cache, world, recovered) ∧ cache.budget = some budget ∧
      (cache.run readHole world).state.residentBytes = 0 ∧
      cache.chargedBytes (fun _ => false) (cache.run readHole world) = 512 ∧
      ¬ Balanced cache budget (fun _ => false) (cache.run readHole world) := by
  obtain ⟨cache, world, recovered, budget, opened, budgeted, resident, owed⟩ :
      ∃ cache world recovered budget, openCache ⟨"cache", 512, 4096⟩ calmHost 1024 none (blankDisk 1024) [] 0 =
          .ok (cache, world, recovered) ∧ cache.budget = some budget ∧
        (cache.run readHole world).state.residentBytes = 0 ∧
        cache.chargedBytes (fun _ => false) (cache.run readHole world) = 512 := by
    refine ⟨_, _, _, _, rfl, rfl, ?_, ?_⟩
    · decide +kernel
    · decide +kernel
  refine ⟨cache, world, recovered, budget, opened, budgeted, resident, owed, fun balanced => ?_⟩
  have same := balanced.resident
  rw [resident, owed] at same
  cases same

/-- A write, a warm hole and a read elsewhere leave the accounts exact. -/
theorem budget_accounting_exact_beside_hole :
    ∃ cache world recovered budget, openCache ⟨"cache", 512, 4096⟩ calmHost 1024 none (blankDisk 1024) [] 0 =
        .ok (cache, world, recovered) ∧ cache.budget = some budget ∧
      Balanced cache budget (fun _ => false) (cache.run [.serve (.write 0 (List.replicate 512 7)),
        .serve (.prefetch 512 512), .serve (.read 0 512), .serve .flush] world) := by
  refine ⟨_, _, _, _, rfl, rfl, ?_⟩
  refine budget_accounting_exact ⟨"cache", 512, 4096⟩ 1024 (fun _ => false) (by decide) rfl rfl
    (fun _ _ => rfl) ?_ ?_ _ ?_
  · decide +kernel
  · decide +kernel
  · decide +kernel

end Example
end FileCacheBackend
end UblkAzblob

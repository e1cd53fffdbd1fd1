import UblkAzblob.Construction.CacheLru

namespace UblkAzblob
namespace Lru
open Storage

/-- The two indexes agree, and stamps are unique and never newer than the clock. -/
structure Valid (lru : Lru) : Prop where
  stamped : ∀ stamp page, (stamp, page) ∈ lru.evictable.entries → lru.byPage.find? page = some stamp
  bounded : ∀ page stamp, lru.byPage.find? page = some stamp → stamp ≤ lru.seq
  distinct : ∀ page other stamp, lru.byPage.find? page = some stamp →
    lru.byPage.find? other = some stamp → page = other

def Evictable (lru : Lru) (page : Nat) : Prop := ∃ stamp, (stamp, page) ∈ lru.evictable.entries

theorem empty_valid : empty.Valid := ⟨by simp [empty], by simp [empty], by simp [empty]⟩

@[simp] theorem empty_evictable (page : Nat) : ¬ empty.Evictable page := by
  simp [Evictable, empty]

/-- An access removes the old stamp of the page from the evictable order. -/
theorem mem_unstamp (lru : Lru) (valid : lru.Valid) (page stamp other : Nat) :
    (stamp, other) ∈ (lru.unstamp page).entries ↔
      (stamp, other) ∈ lru.evictable.entries ∧ other ≠ page := by
  unfold unstamp
  cases found : lru.byPage.find? page with
  | none =>
      constructor
      · intro member
        refine ⟨member, ?_⟩
        rintro rfl
        simp [valid.stamped _ _ member] at found
      · exact And.left
  | some old =>
      rw [OrderedMap.mem_erase]
      constructor
      · rintro ⟨member, different⟩
        refine ⟨member, ?_⟩
        rintro rfl
        have same := valid.stamped _ _ member
        rw [found] at same
        exact different (Option.some.inj same).symm
      · rintro ⟨member, different⟩
        refine ⟨member, ?_⟩
        rintro rfl
        exact different (valid.distinct _ _ _ (valid.stamped _ _ member) found)

theorem mem_touch (lru : Lru) (valid : lru.Valid) (page : Nat) (clean : Bool) (stamp other : Nat) :
    (stamp, other) ∈ (lru.touch page clean).evictable.entries ↔
      (clean = true ∧ stamp = lru.seq + 1 ∧ other = page) ∨
        ((stamp, other) ∈ lru.evictable.entries ∧ other ≠ page) := by
  have erased := mem_unstamp lru valid page stamp other
  cases clean
  · simpa [touch] using erased
  · simp only [touch, if_true, OrderedMap.mem_insert, erased, Prod.mk.injEq, true_and]
    constructor
    · rintro (same | ⟨rest, _⟩)
      · exact .inl same
      · exact .inr rest
    · rintro (same | ⟨member, different⟩)
      · exact .inl same
      · refine .inr ⟨⟨member, different⟩, ?_⟩
        have bound := valid.bounded _ _ (valid.stamped _ _ member)
        omega

theorem touch_valid (lru : Lru) (valid : lru.Valid) (page : Nat) (clean : Bool) :
    (lru.touch page clean).Valid := by
  have byPage (query : Nat) : (lru.touch page clean).byPage.find? query =
      if query = page then some (lru.seq + 1) else lru.byPage.find? query :=
    OrderedMap.find?_insert _ _ _ _
  constructor
  · intro stamp other member
    rw [byPage]
    rcases (mem_touch lru valid page clean stamp other).mp member with ⟨_, rfl, rfl⟩ | ⟨old, different⟩
    · simp
    · rw [if_neg different, valid.stamped _ _ old]
  · intro other stamp found
    rw [byPage] at found
    change stamp ≤ lru.seq + 1
    split at found
    · exact (Option.some.inj found).symm.le
    · exact (valid.bounded _ _ found).trans (Nat.le_succ _)
  · intro first second stamp firstFound secondFound
    rw [byPage] at firstFound secondFound
    split at firstFound <;> split at secondFound
    · rename_i firstSame secondSame
      exact firstSame.trans secondSame.symm
    · have bound := valid.bounded _ _ secondFound
      have equal := Option.some.inj firstFound
      omega
    · have bound := valid.bounded _ _ firstFound
      have equal := Option.some.inj secondFound
      omega
    · exact valid.distinct _ _ _ firstFound secondFound

/-- After an access the page is evictable exactly when it is clean. -/
theorem touch_evictable (lru : Lru) (valid : lru.Valid) (page : Nat) (clean : Bool) (other : Nat) :
    (lru.touch page clean).Evictable other ↔
      if other = page then clean = true else lru.Evictable other := by
  simp only [Evictable, mem_touch lru valid]
  by_cases same : other = page
  · simp [same]
  · simp [same]

/-- The victim was evictable and unprotected, and only it leaves the order. -/
theorem popLru_spec {lru next : Lru} {protect : Option Nat} {page : Nat} (valid : lru.Valid)
    (popped : lru.popLru protect = (some page, next)) :
    lru.Evictable page ∧ some page ≠ protect ∧ next.Valid ∧
      ∀ other, next.Evictable other ↔ lru.Evictable other ∧ other ≠ page := by
  unfold popLru at popped
  split at popped
  · simp at popped
  · rename_i key victim found
    obtain ⟨rfl, rfl⟩ : victim = page ∧ _ = next := by simpa using popped
    have member := List.mem_of_find?_eq_some found
    have allowed : some victim ≠ protect := by simpa using List.find?_some found
    have remaining (stamp other : Nat) :
        (stamp, other) ∈ (lru.evictable.erase key).entries ↔
          (stamp, other) ∈ lru.evictable.entries ∧ other ≠ victim := by
      rw [OrderedMap.mem_erase]
      have victimStamp := valid.stamped _ _ member
      constructor
      · rintro ⟨old, different⟩
        refine ⟨old, ?_⟩
        rintro rfl
        exact different (Option.some.inj ((valid.stamped _ _ old).symm.trans victimStamp))
      · rintro ⟨old, different⟩
        refine ⟨old, ?_⟩
        rintro rfl
        exact different (valid.distinct _ _ _ (valid.stamped _ _ old) victimStamp)
    refine ⟨⟨key, member⟩, allowed, ⟨?_, ?_, ?_⟩, ?_⟩
    · intro stamp other old
      obtain ⟨old, different⟩ := (remaining stamp other).mp old
      rw [OrderedMap.find?_erase, if_neg different, valid.stamped _ _ old]
    · intro other stamp present
      rw [OrderedMap.find?_erase] at present
      split at present
      · simp at present
      · exact valid.bounded _ _ present
    · intro first second stamp firstFound secondFound
      rw [OrderedMap.find?_erase] at firstFound secondFound
      split at firstFound
      · simp at firstFound
      · split at secondFound
        · simp at secondFound
        · exact valid.distinct _ _ _ firstFound secondFound
    · intro other
      simp only [Evictable, remaining, exists_and_right]

/-- The recency order tracks exactly these pages, and the clean ones among them can be evicted. -/
structure Tracks (lru : Lru) (tracked clean : Nat → Prop) : Prop where
  valid : lru.Valid
  contains : ∀ page, lru.contains page = true ↔ tracked page
  evictable : ∀ page, lru.Evictable page ↔ tracked page ∧ clean page

/-- The recency order is right about every page but one. -/
structure TracksBut (lru : Lru) (exempt : Nat) (tracked clean : Nat → Prop) : Prop where
  valid : lru.Valid
  contains : ∀ page, page ≠ exempt → (lru.contains page = true ↔ tracked page)
  evictable : ∀ page, page ≠ exempt → (lru.Evictable page ↔ tracked page ∧ clean page)

theorem empty_tracks {tracked clean : Nat → Prop} (none : ∀ page, ¬ tracked page) :
    empty.Tracks tracked clean where
  valid := empty_valid
  contains page := by simp [Lru.contains, OrderedMap.contains, empty, none page]
  evictable page := by simp [none page]

theorem touch_contains (lru : Lru) (page : Nat) (clean : Bool) (other : Nat) :
    (lru.touch page clean).contains other = true ↔ other = page ∨ lru.contains other = true := by
  simp only [Lru.contains, OrderedMap.contains, touch, OrderedMap.find?_insert]
  by_cases same : other = page
  · simp [same]
  · simp [same]

/-- An access with the right classification makes the order right about its page too. -/
theorem TracksBut.touch {lru : Lru} {page : Nat} {tracked clean : Nat → Prop} {isClean : Bool}
    (tracks : lru.TracksBut page tracked clean) (own : tracked page) (classified : isClean = true ↔ clean page) :
    (lru.touch page isClean).Tracks tracked clean where
  valid := touch_valid lru tracks.valid page isClean
  contains other := by
    rw [touch_contains]
    by_cases same : other = page
    · simp [same, own]
    · simp [same, tracks.contains other same]
  evictable other := by
    rw [touch_evictable lru tracks.valid]
    by_cases same : other = page
    · simp [same, own, classified]
    · simp [same, tracks.evictable other same]

theorem Tracks.congr {lru : Lru} {tracked clean same : Nat → Prop} (tracks : lru.Tracks tracked clean)
    (agree : ∀ page, same page ↔ tracked page) : lru.Tracks same clean where
  valid := tracks.valid
  contains page := by rw [agree, tracks.contains]
  evictable page := by rw [agree, tracks.evictable]

theorem Tracks.but {lru : Lru} {tracked clean others stillClean : Nat → Prop} (tracks : lru.Tracks tracked clean)
    (page : Nat) (same : ∀ other, other ≠ page →
      (others other ↔ tracked other) ∧ (stillClean other ↔ clean other)) :
    lru.TracksBut page others stillClean where
  valid := tracks.valid
  contains other different := by rw [(same other different).1, tracks.contains]
  evictable other different := by rw [(same other different).1, (same other different).2, tracks.evictable]

/-- A popped victim was tracked and clean, and it is no longer tracked. -/
theorem Tracks.pop {lru next : Lru} {protect : Option Nat} {page : Nat} {tracked clean : Nat → Prop}
    (tracks : lru.Tracks tracked clean) (popped : lru.popLru protect = (some page, next)) :
    tracked page ∧ clean page ∧ some page ≠ protect ∧
      next.Tracks (fun other => tracked other ∧ other ≠ page) clean := by
  obtain ⟨candidate, unprotected, valid, remaining⟩ := popLru_spec tracks.valid popped
  obtain ⟨own, isClean⟩ := (tracks.evictable page).mp candidate
  refine ⟨own, isClean, unprotected, valid, ?_, ?_⟩
  · intro other
    rw [← tracks.contains other]
    unfold popLru at popped
    split at popped
    · simp at popped
    · obtain ⟨rfl, rfl⟩ : _ = page ∧ _ = next := by simpa using popped
      simp only [Lru.contains, OrderedMap.contains, OrderedMap.find?_erase]
      split
      · rename_i same
        simp [same]
      · rename_i different
        simp [different]
  · intro other
    rw [remaining, tracks.evictable]
    tauto

section Order

/-- In a sorted list the entries after the first match are the other matches. -/
theorem filter_of_find? {entries : List (Nat × Nat)} {test : Nat × Nat → Bool} {entry : Nat × Nat}
    (sorted : entries.Pairwise fun first second => first.1 < second.1) (found : entries.find? test = some entry) :
    entries.filter test = entry :: (entries.filter fun other => other.1 ≠ entry.1).filter test := by
  induction entries with
  | nil => cases found
  | cons first rest ih =>
      obtain ⟨below, tail⟩ := List.pairwise_cons.mp sorted
      by_cases matched : test first = true
      · rw [List.find?_cons_of_pos matched] at found
        obtain rfl := Option.some.inj found
        have others : rest.filter (fun other => other.1 ≠ first.1) = rest := by
          rw [List.filter_eq_self]
          intro other inside
          simpa using (below other inside).ne'
        rw [List.filter_cons_of_pos matched, List.filter_cons_of_neg (by simp), others]
      · rw [List.find?_cons_of_neg matched] at found
        rw [List.filter_cons_of_neg matched, ih tail found]
        by_cases same : first.1 = entry.1
        · rw [List.filter_cons_of_neg (by simpa using same)]
        · rw [List.filter_cons_of_pos (by simpa using same), List.filter_cons_of_neg matched]

/-- The pages that may be evicted, from the least recently used one on. -/
def candidates (lru : Lru) (protect : Option Nat) : List Nat :=
  (lru.evictable.entries.map Prod.snd).filter fun page => some page ≠ protect

/-- Nothing is popped exactly when there is no candidate, and otherwise the first one is. -/
theorem popLru_candidates (lru : Lru) (protect : Option Nat) :
    (lru.candidates protect = [] ∧ (lru.popLru protect).1 = none) ∨
      ∃ page next, lru.popLru protect = (some page, next) ∧
        lru.candidates protect = page :: next.candidates protect := by
  cases found : lru.evictable.entries.find? fun entry => some entry.2 ≠ protect with
  | none =>
      refine .inl ⟨?_, by rw [popLru, found]⟩
      rw [candidates, List.filter_map, List.map_eq_nil_iff, List.filter_eq_nil_iff]
      exact List.find?_eq_none.mp found
  | some entry =>
      refine .inr ⟨entry.2, _, by rw [popLru, found], ?_⟩
      simp only [candidates, OrderedMap.erase, List.filter_map]
      exact congrArg (List.map Prod.snd) (filter_of_find? lru.evictable.sorted found)

/-- A pop drops the stamp of its page and of no other. -/
theorem popLru_stamps {lru next : Lru} {protect : Option Nat} {page : Nat}
    (popped : lru.popLru protect = (some page, next)) : next.byPage = lru.byPage.erase page := by
  unfold popLru at popped
  split at popped
  · cases popped
  · obtain ⟨rfl, rfl⟩ : _ = page ∧ _ = next := by simpa using popped
    rfl

end Order
end Lru
end UblkAzblob

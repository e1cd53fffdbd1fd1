import UblkAzblob.Foundation.Recency
import UblkAzblob.Proof.CacheLru

namespace UblkAzblob
namespace Lru
open Storage

/-- One call of a user of the order, and what it answers. -/
def perform (lru : Lru) : RecencyOp Nat → RecencyEvent Nat × Lru
  | .touch page clean => (.touched page clean, lru.touch page clean)
  | .pop protect => (.popped protect (lru.popLru protect).1, (lru.popLru protect).2)
  | .clear => (.cleared, lru.clear)

/-- The stamps order the pages as the list does, and the clean pages are the evictable ones. -/
structure Stamps (lru : Lru) (list : RecencyList Nat) : Prop where
  present : ∀ page, (∃ clean, (page, clean) ∈ list.entries) ↔ ∃ stamp, lru.byPage.find? page = some stamp
  ordered : list.entries.Pairwise fun first second => ∀ early late,
    lru.byPage.find? first.1 = some early → lru.byPage.find? second.1 = some late → early < late
  evictable : ∀ stamp page, (stamp, page) ∈ lru.evictable.entries ↔
    (page, true) ∈ list.entries ∧ lru.byPage.find? page = some stamp
  valid : lru.Valid

theorem empty_stamps : empty.Stamps .empty where
  present page := by simp [empty, RecencyList.empty]
  ordered := .nil
  evictable stamp page := by simp [empty, RecencyList.empty]
  valid := empty_valid

theorem touch_stamps {lru : Lru} {list : RecencyList Nat} (stamps : lru.Stamps list) (page : Nat) (clean : Bool) :
    (lru.touch page clean).Stamps (list.touch page clean) := by
  have byPage (query : Nat) : (lru.touch page clean).byPage.find? query =
      if query = page then some (lru.seq + 1) else lru.byPage.find? query :=
    OrderedMap.find?_insert _ _ _ _
  refine ⟨?_, ?_, ?_, touch_valid lru stamps.valid page clean⟩
  · intro query
    simp only [RecencyList.mem_touch, byPage]
    by_cases same : query = page
    · simp [same]
    · simpa [same] using stamps.present query
  · rw [RecencyList.touch, List.pairwise_append]
    refine ⟨?_, List.pairwise_singleton _ _, ?_⟩
    · refine (stamps.ordered.sublist List.filter_sublist).imp_of_mem ?_
      intro first second firstMember secondMember order early late firstFound secondFound
      rw [byPage, if_neg (RecencyList.mem_drop.mp firstMember).2] at firstFound
      rw [byPage, if_neg (RecencyList.mem_drop.mp secondMember).2] at secondFound
      exact order early late firstFound secondFound
    · intro first firstMember second secondMember early late firstFound secondFound
      obtain rfl := List.mem_singleton.mp secondMember
      rw [byPage, if_neg (RecencyList.mem_drop.mp firstMember).2] at firstFound
      rw [byPage, if_pos rfl] at secondFound
      obtain rfl := Option.some.inj secondFound
      exact Nat.lt_succ_of_le (stamps.valid.bounded _ _ firstFound)
  · intro stamp other
    rw [mem_touch lru stamps.valid, stamps.evictable, RecencyList.mem_touch, byPage]
    by_cases same : other = page
    · simp [same, eq_comm, and_comm]
    · simp [same]

/-- A pop finds the page that the list names, and drops its stamp. -/
theorem popLru_stamped {lru : Lru} {list : RecencyList Nat} (stamps : lru.Stamps list) (protect : Option Nat) :
    (lru.popLru protect).1 = list.victim protect := by
  have listed (stamp page : Nat) (member : (stamp, page) ∈ lru.evictable.entries) : (page, true) ∈ list.entries :=
    ((stamps.evictable stamp page).mp member).1
  unfold popLru
  cases found : lru.evictable.entries.find? fun entry => some entry.2 ≠ protect with
  | none =>
      cases chosen : list.victim protect with
      | none => rfl
      | some page =>
          obtain ⟨member, free⟩ := RecencyList.victim_mem chosen
          obtain ⟨stamp, stamped⟩ := (stamps.present page).mp ⟨true, member⟩
          have candidate := (stamps.evictable stamp page).mpr ⟨member, stamped⟩
          exact absurd (by simpa using free) (List.find?_eq_none.mp found _ candidate)
  | some entry =>
      obtain ⟨key, page⟩ := entry
      have member := List.mem_of_find?_eq_some found
      have free : some page ≠ protect := by simpa using List.find?_some found
      have keyed := ((stamps.evictable key page).mp member).2
      obtain ⟨other, chosen⟩ := RecencyList.victim_isSome (listed key page member) free
      obtain ⟨otherMember, otherFree⟩ := RecencyList.victim_mem chosen
      obtain ⟨stamp, stamped⟩ := (stamps.present other).mp ⟨true, otherMember⟩
      have candidate := (stamps.evictable stamp other).mpr ⟨otherMember, stamped⟩
      rcases RecencyList.victim_first stamps.ordered chosen (listed key page member) free with same | earlier
      · rw [chosen, same]
      · have below := earlier stamp key stamped keyed
        rcases first_of_find? lru.evictable.sorted found candidate (by simpa using otherFree) with same | later
        · rw [chosen, (Prod.mk.inj same).2]
        · exact absurd below (Nat.lt_asymm later)

theorem pop_stamps {lru : Lru} {list : RecencyList Nat} (stamps : lru.Stamps list) (protect : Option Nat) :
    (lru.popLru protect).1 = (list.pop protect).1 ∧ (lru.popLru protect).2.Stamps (list.pop protect).2 := by
  have answer := popLru_stamped stamps protect
  unfold RecencyList.pop
  cases popped : lru.popLru protect with
  | mk page next =>
      rw [popped] at answer
      cases page with
      | none =>
          rw [← answer]
          refine ⟨rfl, ?_⟩
          unfold popLru at popped
          split at popped
          · rw [← (Prod.mk.inj popped).2]
            exact stamps
          · cases (Prod.mk.inj popped).1
      | some page =>
          rw [← answer]
          obtain ⟨_, _, valid, remaining⟩ := popLru_spec stamps.valid popped
          have byPage (query : Nat) : next.byPage.find? query =
              if query = page then none else lru.byPage.find? query := by
            rw [popLru_stamps popped, OrderedMap.find?_erase]
          refine ⟨rfl, ?_, ?_, ?_, valid⟩
          · intro query
            simp only [RecencyList.mem_drop, byPage]
            by_cases same : query = page
            · simp [same]
            · simpa [same] using stamps.present query
          · refine (stamps.ordered.sublist List.filter_sublist).imp ?_
            intro first second order early late firstFound secondFound
            rw [byPage] at firstFound secondFound
            split at firstFound
            · cases firstFound
            · split at secondFound
              · cases secondFound
              · exact order early late firstFound secondFound
          · intro stamp other
            rw [RecencyList.mem_drop]
            constructor
            · intro member
              have stamped := valid.stamped stamp other member
              obtain ⟨⟨old, candidate⟩, different⟩ := (remaining other).mp ⟨stamp, member⟩
              exact ⟨⟨((stamps.evictable old other).mp candidate).1, different⟩, stamped⟩
            · rintro ⟨⟨member, different⟩, stamped⟩
              obtain ⟨old, candidate⟩ := (remaining other).mpr ⟨⟨stamp, (stamps.evictable stamp other).mpr
                ⟨member, by rwa [byPage, if_neg different] at stamped⟩⟩, different⟩
              have same := valid.stamped old other candidate
              rw [stamped] at same
              rwa [← Option.some.inj same] at candidate

/-- Every call answers as the list does, and keeps the stamps in step with it. -/
theorem perform_stamps (lru : Lru) (list : RecencyList Nat) (op : RecencyOp Nat) (stamps : lru.Stamps list) :
    (lru.perform op).1 = (list.perform op).1 ∧ (lru.perform op).2.Stamps (list.perform op).2 := by
  cases op with
  | touch page clean => exact ⟨rfl, touch_stamps stamps page clean⟩
  | pop protect =>
      obtain ⟨answer, next⟩ := pop_stamps stamps protect
      exact ⟨congrArg (RecencyEvent.popped protect) answer, next⟩
  | clear => exact ⟨rfl, empty_stamps⟩

theorem Stamps.contains {lru : Lru} {list : RecencyList Nat} (stamps : lru.Stamps list) (page : Nat) :
    lru.contains page = true ↔ ∃ clean, (page, clean) ∈ list.entries := by
  rw [stamps.present, Lru.contains, OrderedMap.contains, Option.isSome_iff_exists]

theorem perform_seq (lru : Lru) (op : RecencyOp Nat) : (lru.perform op).2.seq ≤ lru.seq + 1 := by
  cases op with
  | touch page clean => exact Nat.le_refl _
  | pop protect =>
      simp only [perform, popLru]
      split <;> exact Nat.le_succ _
  | clear => exact Nat.zero_le _

/-- The order as its user sees it, in the terms of what happened so far. -/
structure RecencyOrder (lru : Lru) (history : List (RecencyEvent Nat)) : Prop where
  contains : ∀ page, lru.contains page = true ↔ ∃ clean later, Resident history page clean later
  pops : ∀ protect page, (lru.popLru protect).1 = some page ↔
    ∃ later, Resident history page true later ∧ some page ≠ protect ∧
      ∀ other following, Resident history other true following → some other ≠ protect →
        following.length ≤ later.length
  refuses : ∀ protect, (lru.popLru protect).1 = none ↔
    ∀ page later, Resident history page true later → some page = protect
  idle : ∀ protect, (lru.popLru protect).1 = none → (lru.popLru protect).2 = lru
  removes : ∀ protect page, (lru.popLru protect).1 = some page → ∀ other,
    ((lru.popLru protect).2.contains other = true ↔ lru.contains other = true ∧ other ≠ page) ∧
      ((lru.popLru protect).2.Evictable other ↔ lru.Evictable other ∧ other ≠ page)
  evictable : ∀ stamp page, (stamp, page) ∈ lru.evictable.entries ↔
    (∃ later, Resident history page true later) ∧ lru.byPage.find? page = some stamp
  indexes : lru.Valid

/-- A pop without an answer changes nothing. -/
theorem popLru_idle {lru : Lru} {protect : Option Nat} (nothing : (lru.popLru protect).1 = none) :
    (lru.popLru protect).2 = lru := by
  unfold popLru at nothing ⊢
  split at nothing
  · rfl
  · cases nothing

/-- A pop removes its page from both indexes and no other page. -/
theorem popLru_removes {lru : Lru} {protect : Option Nat} {page : Nat} (valid : lru.Valid)
    (answer : (lru.popLru protect).1 = some page) (other : Nat) :
    ((lru.popLru protect).2.contains other = true ↔ lru.contains other = true ∧ other ≠ page) ∧
      ((lru.popLru protect).2.Evictable other ↔ lru.Evictable other ∧ other ≠ page) := by
  have popped : lru.popLru protect = (some page, (lru.popLru protect).2) := Prod.ext answer rfl
  obtain ⟨_, _, _, remaining⟩ := popLru_spec valid popped
  refine ⟨?_, remaining other⟩
  rw [Lru.contains, OrderedMap.contains, popLru_stamps popped, OrderedMap.find?_erase]
  split
  · rename_i same
    simp [same]
  · rename_i different
    simp [different, Lru.contains, OrderedMap.contains]

/-- Stamps that follow the list of a history are the order of that history. -/
theorem Stamps.order {lru : Lru} {list : RecencyList Nat} {history : List (RecencyEvent Nat)}
    (stamps : lru.Stamps list) (kept : list.Chronicles history) : lru.RecencyOrder history where
  contains page := by simp only [stamps.contains, kept.mem]
  pops protect page := by rw [popLru_stamped stamps, RecencyList.victim_eq_some kept]
  refuses protect := by rw [popLru_stamped stamps, RecencyList.victim_eq_none kept]
  idle protect := popLru_idle
  removes protect page answer := popLru_removes stamps.valid answer
  evictable stamp page := by rw [stamps.evictable, kept.mem]
  indexes := stamps.valid

/-- The clock counts at most the calls. -/
theorem runOps_seq (lru : Lru) (ops : List (RecencyOp Nat)) : (runOps perform lru ops).2.seq ≤ lru.seq + ops.length := by
  induction ops generalizing lru with
  | nil => exact Nat.le_refl _
  | cons op ops ih =>
      have rest := ih (lru.perform op).2
      have first := perform_seq lru op
      simp only [runOps, List.length_cons]
      omega

/-- In every run the order answers as the list of pages by their last touch does, which holds the pages
that were touched and neither popped nor cleared since. -/
theorem recency_order (ops : List (RecencyOp Nat)) :
    let ran := runOps perform empty ops
    let specified := runOps RecencyList.perform .empty ops
    ran.1 = specified.1 ∧
    (∀ page clean, (page, clean) ∈ specified.2.entries ↔ ∃ later, Resident ran.1 page clean later) ∧
    specified.2.entries.Pairwise (RecencyList.Older ran.1) ∧
    ran.2.RecencyOrder ran.1 ∧
    ran.2.seq ≤ ops.length := by
  intro ran specified
  obtain ⟨answers, stamps⟩ := runOps_refines perform_stamps empty_stamps ops
  have kept := RecencyList.runOps_chronicles ops
  rw [← answers] at kept
  have clock : ran.2.seq ≤ 0 + ops.length := runOps_seq empty ops
  rw [Nat.zero_add] at clock
  exact ⟨answers, kept.mem, kept.ordered, stamps.order kept, clock⟩

end Lru
end UblkAzblob

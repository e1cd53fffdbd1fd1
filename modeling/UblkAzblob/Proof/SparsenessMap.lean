import Mathlib.Data.List.TakeWhile
import UblkAzblob.Construction.FileCacheConcurrent
import UblkAzblob.Proof.TemplateCopy

namespace UblkAzblob
open Storage FileCacheBackend

/-- The ranges are in order, do not overlap, are not empty, and end within 64 bits. -/
structure LegalMap (ranges : List (Nat × Nat)) : Prop where
  ordered : ranges.Pairwise fun first second => first.1 + first.2 ≤ second.1
  nonempty : ∀ range ∈ ranges, 0 < range.2
  bounded : ∀ range ∈ ranges, range.1 + range.2 < 2 ^ 64

/-- The byte lies in a range of the map. -/
def HoldsData (ranges : List (Nat × Nat)) (x : Nat) : Prop :=
  ∃ range ∈ ranges, range.1 ≤ x ∧ x < range.1 + range.2

section Query

variable {ranges : List (Nat × Nat)}

/-- The range before the partition point starts before the end of the query. -/
theorem partitionPoint_before {range : Nat × Nat} {stop : Nat}
    (found : ranges[(ranges.takeWhile fun range => range.1 < stop).length - 1]? = some range)
    (preceded : (ranges.takeWhile fun range => range.1 < stop).length ≠ 0) : range ∈ ranges ∧ range.1 < stop := by
  set before := ranges.takeWhile fun range => range.1 < stop with beforeEq
  obtain ⟨after, whole⟩ : before <+: ranges := List.takeWhile_prefix _
  have last : before[before.length - 1]? = some range := by
    rw [← found, ← whole, List.getElem?_append_left (by omega)]
  have member : range ∈ before := List.mem_of_getElem? last
  refine ⟨?_, ?_⟩
  · rw [← whole]
    exact List.mem_append_left _ member
  · rw [beforeEq] at member
    simpa using List.mem_takeWhile_imp member

/-- A query that is answered with yes meets the range before the partition point. -/
theorem mem_of_rangeIntersects {offset len : Nat} (nonempty : ∀ range ∈ ranges, 0 < range.2)
    (meets : rangeIntersects ranges offset len = true) :
    ∃ x, offset ≤ x ∧ x < offset + len ∧ HoldsData ranges x := by
  unfold rangeIntersects at meets
  split at meets
  · cases meets
  · rename_i long
    simp only at meets
    split at meets
    · cases meets
    · rename_i preceded
      cases found : ranges[(ranges.takeWhile fun range => range.1 < offset + len).length - 1]? with
      | none => simp [found] at meets
      | some range =>
          obtain ⟨member, start⟩ := partitionPoint_before found preceded
          have stop : offset < range.1 + range.2 := by simpa [found] using meets
          have positive := nonempty range member
          exact ⟨max range.1 offset, by omega, by omega, range, member, by omega, by omega⟩

theorem rangeIntersects_iff (legal : LegalMap ranges) (offset len : Nat) :
    rangeIntersects ranges offset len = true ↔ ∃ x, offset ≤ x ∧ x < offset + len ∧ HoldsData ranges x := by
  constructor
  · exact mem_of_rangeIntersects legal.nonempty
  · rintro ⟨x, low, high, range, member, start, stop⟩
    exact rangeIntersects_of_mem legal.ordered member start stop low high

/-- A query that is answered with no holds no data. -/
theorem rangeIntersects_gap (legal : LegalMap ranges) {offset len : Nat}
    (gap : rangeIntersects ranges offset len = false) {x : Nat} (low : offset ≤ x) (high : x < offset + len) :
    ¬ HoldsData ranges x := fun held => by
  have meets := (rangeIntersects_iff legal offset len).mpr ⟨x, low, high, held⟩
  rw [gap] at meets
  cases meets

end Query

section Warmup

variable {Inner : Type} [BlobBackend Inner]

/-- A warm-up that knows the map has one task for each page of its range that the map does not leave out. -/
theorem warmup_tasks (cache : FileCacheBackend) (id devSize limitBytes : Nat) (sys : Sys Inner)
    {ranges : List (Nat × Nat)} (room : 0 < min limitBytes devSize)
    (listed : (World.callInner .dataRanges BlobBackend.dataRanges sys.world).1 = .ok (some ranges)) :
    ∃ (tasks : List (Nat × WarmPhase × Nat)) (world : World Inner),
      cache.beginCall id (.warmup devSize limitBytes) sys =
        some (Sys.enter { sys with world } id (.warmup devSize limitBytes) (.warming tasks)) ∧
      ∀ page, page ∈ tasks.map Prod.fst ↔
        page < (min limitBytes devSize + cache.pageSize - 1) / cache.pageSize ∧
          rangeIntersects ranges (page * cache.pageSize) (min cache.pageSize (devSize - page * cache.pageSize)) = true := by
  unfold beginCall
  simp only [Request.guards, listed]
  rw [if_neg (by omega)]
  refine ⟨_, _, rfl, ?_⟩
  intro page
  rw [List.map_map]
  simp [Function.comp_def]

end Warmup

/-- The range test is exact on every legal map, so what a copy or a warm-up leaves out holds no data. -/
theorem rangeIntersects_exact {ranges : List (Nat × Nat)} (legal : LegalMap ranges) :
    (∀ offset len, offset + len < 2 ^ 64 →
      (rangeIntersects ranges offset len = true ↔ ∃ x, offset ≤ x ∧ x < offset + len ∧ HoldsData ranges x)) ∧
    (∀ offset len, offset + len < 2 ^ 64 → chunkIsData (some ranges) offset len = false →
      ∀ x, offset ≤ x → x < offset + len → ¬ HoldsData ranges x) ∧
    (∀ (Inner : Type) [BlobBackend Inner] (cache : FileCacheBackend) (id devSize limitBytes : Nat) (sys : Sys Inner),
      0 < min limitBytes devSize →
      (World.callInner .dataRanges BlobBackend.dataRanges sys.world).1 = .ok (some ranges) →
      ∃ (tasks : List (Nat × WarmPhase × Nat)) (world : World Inner),
        cache.beginCall id (.warmup devSize limitBytes) sys =
          some (Sys.enter { sys with world } id (.warmup devSize limitBytes) (.warming tasks)) ∧
        ∀ page, page * cache.pageSize < min limitBytes devSize → page ∉ tasks.map Prod.fst →
          ∀ x, page * cache.pageSize ≤ x → x < (page + 1) * cache.pageSize → x < devSize → ¬ HoldsData ranges x) := by
  refine ⟨fun offset len _ => rangeIntersects_iff legal offset len, ?_, ?_⟩
  · intro offset len _ gap x low high
    exact rangeIntersects_gap legal gap low high
  · intro Inner _ cache id devSize limitBytes sys room listed
    obtain ⟨tasks, world, begun, exactly⟩ := warmup_tasks cache id devSize limitBytes sys room listed
    refine ⟨tasks, world, begun, ?_⟩
    intro page inside skipped x low high device
    have size : 0 < cache.pageSize := by
      rcases Nat.eq_zero_or_pos cache.pageSize with zero | positive
      · rw [zero] at high
        omega
      · exact positive
    have counted : page < (min limitBytes devSize + cache.pageSize - 1) / cache.pageSize := by
      rw [Nat.lt_iff_add_one_le, Nat.le_div_iff_mul_le size, Nat.succ_mul]
      omega
    have gap : rangeIntersects ranges (page * cache.pageSize)
        (min cache.pageSize (devSize - page * cache.pageSize)) = false := by
      rw [Bool.eq_false_iff]
      intro meets
      exact skipped ((exactly page).mpr ⟨counted, meets⟩)
    rw [Nat.succ_mul] at high
    exact rangeIntersects_gap legal gap low (by omega)

theorem rangeIntersects_exact_adjacent :
    rangeIntersects [(0, 512), (512, 512), (4096, 512)] 1024 3072 = false ∧
      ∀ x, 1024 ≤ x → x < 1024 + 3072 → ¬ HoldsData [(0, 512), (512, 512), (4096, 512)] x :=
  ⟨by decide, (rangeIntersects_exact ⟨by decide, by decide, by decide⟩).2.1 1024 3072 (by decide) (by decide)⟩

end UblkAzblob

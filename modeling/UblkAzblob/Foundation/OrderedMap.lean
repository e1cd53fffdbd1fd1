import Mathlib.Data.List.Basic
import Mathlib.Order.Defs.LinearOrder
import Mathlib.Order.Basic
import Mathlib.Order.Lattice
import Mathlib.Tactic.Common

namespace Storage

/-- An ordered map stores each key once, in increasing order. -/
structure OrderedMap (Key Value : Type) [LinearOrder Key] where
  entries : List (Key × Value)
  sorted : entries.Pairwise fun first second => first.1 < second.1

namespace OrderedMap

variable {Key Value : Type} [LinearOrder Key]

def empty : OrderedMap Key Value := ⟨[], .nil⟩

/-- Insertion replaces the entry of an existing key. -/
def insert (map : OrderedMap Key Value) (key : Key) (value : Value) : OrderedMap Key Value where
  entries := map.entries.filter (fun entry => entry.1 < key) ++
    (key, value) :: map.entries.filter (fun entry => key < entry.1)
  sorted := by
    rw [List.pairwise_append, List.pairwise_cons]
    refine ⟨map.sorted.filter _, ⟨fun entry member => ?_, map.sorted.filter _⟩, ?_⟩
    · simpa using (List.mem_filter.mp member).2
    · intro first firstMember second secondMember
      have below : first.1 < key := by simpa using (List.mem_filter.mp firstMember).2
      rcases List.mem_cons.mp secondMember with rfl | secondMember
      · exact below
      · exact below.trans (by simpa using (List.mem_filter.mp secondMember).2)

def erase (map : OrderedMap Key Value) (key : Key) : OrderedMap Key Value :=
  ⟨map.entries.filter (fun entry => entry.1 ≠ key), map.sorted.filter _⟩

def find? (map : OrderedMap Key Value) (key : Key) : Option Value :=
  (map.entries.find? fun entry => entry.1 = key).map Prod.snd

def contains (map : OrderedMap Key Value) (key : Key) : Bool := (map.find? key).isSome

@[simp] theorem entries_empty : (empty : OrderedMap Key Value).entries = [] := rfl

theorem keys_nodup (map : OrderedMap Key Value) : (map.entries.map Prod.fst).Nodup := by
  rw [List.nodup_iff_pairwise_ne, List.pairwise_map]
  exact map.sorted.imp fun below => below.ne

theorem mem_insert {map : OrderedMap Key Value} {key : Key} {value : Value} {entry : Key × Value} :
    entry ∈ (map.insert key value).entries ↔
      entry = (key, value) ∨ (entry ∈ map.entries ∧ entry.1 ≠ key) := by
  simp only [insert, List.mem_append, List.mem_filter, List.mem_cons, decide_eq_true_eq]
  constructor
  · rintro (⟨member, below⟩ | same | ⟨member, above⟩)
    · exact .inr ⟨member, below.ne⟩
    · exact .inl same
    · exact .inr ⟨member, above.ne'⟩
  · rintro (same | ⟨member, different⟩)
    · exact .inr (.inl same)
    · rcases lt_or_gt_of_ne different with below | above
      · exact .inl ⟨member, below⟩
      · exact .inr (.inr ⟨member, above⟩)

theorem mem_erase {map : OrderedMap Key Value} {key : Key} {entry : Key × Value} :
    entry ∈ (map.erase key).entries ↔ entry ∈ map.entries ∧ entry.1 ≠ key := by
  simp [erase]

/-- In a sorted list the first entry of a key is its only entry. -/
theorem find?_entries {entries : List (Key × Value)}
    (sorted : entries.Pairwise fun first second => first.1 < second.1) (key : Key) (value : Value) :
    (entries.find? fun entry => entry.1 = key).map Prod.snd = some value ↔
      (key, value) ∈ entries := by
  induction entries with
  | nil => simp
  | cons head rest ih =>
      obtain ⟨first, tail⟩ := List.pairwise_cons.mp sorted
      by_cases same : head.1 = key
      · have absent : (key, value) ∉ rest := fun member => by
          simpa [same] using first _ member
        simp only [List.find?_cons, same, decide_true, Option.map_some, Option.some.injEq,
          List.mem_cons, absent, or_false]
        constructor
        · rintro rfl
          exact Prod.ext same.symm rfl
        · rintro rfl
          rfl
      · have different : (key, value) ≠ head := fun equal => same (by rw [← equal])
        simpa [List.find?_cons, same, different] using ih tail

theorem find?_eq_some {map : OrderedMap Key Value} {key : Key} {value : Value} :
    map.find? key = some value ↔ (key, value) ∈ map.entries :=
  find?_entries map.sorted key value

theorem find?_insert (map : OrderedMap Key Value) (key query : Key) (value : Value) :
    (map.insert key value).find? query = if query = key then some value else map.find? query := by
  apply Option.ext
  intro found
  split
  · rename_i same
    rw [find?_eq_some, mem_insert]
    simp [same, eq_comm]
  · rename_i different
    simp [find?_eq_some, mem_insert, different]

theorem find?_erase (map : OrderedMap Key Value) (key query : Key) :
    (map.erase key).find? query = if query = key then none else map.find? query := by
  apply Option.ext
  intro found
  split
  · rename_i same
    simp [find?_eq_some, mem_erase, same]
  · rename_i different
    simp [find?_eq_some, mem_erase, different]

@[simp] theorem find?_empty (key : Key) : (empty : OrderedMap Key Value).find? key = none := rfl

end OrderedMap
end Storage

import UblkAzblob.Foundation.OrderedMap
import Mathlib.Algebra.GroupWithZero.Nat
import Mathlib.Algebra.BigOperators.Group.List.Basic
import Mathlib.Tactic.Common

namespace Storage

variable {Item : Type}

/-- The weights of the items of a list, added up. -/
def tally (weight : Item → Nat) (items : List Item) : Nat := (items.map weight).sum

@[simp] theorem tally_nil (weight : Item → Nat) : tally weight [] = 0 := rfl

@[simp] theorem tally_cons (weight : Item → Nat) (item : Item) (rest : List Item) :
    tally weight (item :: rest) = weight item + tally weight rest := by
  simp [tally]

@[simp] theorem tally_append (weight : Item → Nat) (first second : List Item) :
    tally weight (first ++ second) = tally weight first + tally weight second := by
  simp [tally]

theorem tally_perm {items others : List Item} (weight : Item → Nat) (same : items.Perm others) :
    tally weight items = tally weight others := (same.map weight).sum_eq

theorem weight_le_tally {weight : Item → Nat} {item : Item} {items : List Item} (member : item ∈ items) :
    weight item ≤ tally weight items := by
  induction items with
  | nil => cases member
  | cons first rest ih =>
      rw [tally_cons]
      rcases List.mem_cons.mp member with rfl | later
      · omega
      · have bound := ih later
        omega

theorem tally_eq_zero {weight : Item → Nat} {items : List Item} (light : ∀ item ∈ items, weight item = 0) :
    tally weight items = 0 := by
  induction items with
  | nil => rfl
  | cons first rest ih =>
      rw [tally_cons, light first (by simp), ih fun item member => light item (by simp [member])]

theorem tally_le_length {weight : Item → Nat} (light : ∀ item, weight item ≤ 1) (items : List Item) :
    tally weight items ≤ items.length := by
  induction items with
  | nil => simp
  | cons first rest ih =>
      have one := light first
      rw [tally_cons, List.length_cons]
      omega

/-- A replaced item takes its weight with it. -/
theorem tally_set {weight : Item → Nat} {items : List Item} {index : Nat} {old : Item}
    (found : items[index]? = some old) (new : Item) :
    tally weight (items.set index new) + weight old = tally weight items + weight new := by
  induction items generalizing index with
  | nil => cases found
  | cons first rest ih =>
      cases index with
      | zero =>
          obtain rfl : first = old := by simpa using found
          simp only [List.set_cons_zero, tally_cons]
          omega
      | succ index =>
          have tail := ih (by simpa using found)
          simp only [List.set_cons_succ, tally_cons]
          omega

theorem tally_eraseIdx {weight : Item → Nat} {items : List Item} {index : Nat} {old : Item}
    (found : items[index]? = some old) :
    tally weight (items.eraseIdx index) + weight old = tally weight items := by
  induction items generalizing index with
  | nil => cases found
  | cons first rest ih =>
      cases index with
      | zero =>
          obtain rfl : first = old := by simpa using found
          simp only [List.eraseIdx_cons_zero, tally_cons]
          omega
      | succ index =>
          have tail := ih (by simpa using found)
          simp only [List.eraseIdx_cons_succ, tally_cons]
          omega

/-- A list without repetitions loses the weight of the item that is taken out. -/
theorem tally_filter_ne [DecidableEq Item] {weight : Item → Nat} {items : List Item} {item : Item}
    (distinct : items.Nodup) (member : item ∈ items) :
    tally weight (items.filter fun other => other ≠ item) + weight item = tally weight items := by
  induction items with
  | nil => cases member
  | cons first rest ih =>
      obtain ⟨fresh, tail⟩ := List.nodup_cons.mp distinct
      by_cases same : first = item
      · subst same
        have untouched : rest.filter (fun other => other ≠ first) = rest := by
          rw [List.filter_eq_self]
          intro other inside
          rw [decide_eq_true_eq]
          rintro rfl
          exact fresh inside
        rw [List.filter_cons_of_neg (by simp), untouched, tally_cons, Nat.add_comm]
      · have smaller := ih tail ((List.mem_cons.mp member).resolve_left fun equal => same equal.symm)
        rw [List.filter_cons_of_pos (by simpa using same), tally_cons, tally_cons]
        omega

/-- The shortest prefix of a list whose weight reaches a goal, or the whole list if none does. -/
structure ReachesFirst (weight : Item → Nat) (goal : Nat) (items chosen : List Item) : Prop where
  isPrefix : chosen <+: items
  shortest : ∀ shorter, shorter <+: chosen → shorter ≠ chosen → tally weight shorter < goal
  reaches : goal ≤ tally weight chosen ∨ chosen = items

theorem reachesFirst_zero (weight : Item → Nat) (items : List Item) : ReachesFirst weight 0 items [] where
  isPrefix := List.nil_prefix
  shortest _ isPrefix different := absurd (List.prefix_nil.mp isPrefix) different
  reaches := .inl (Nat.zero_le _)

theorem reachesFirst_nil (weight : Item → Nat) (goal : Nat) : ReachesFirst weight goal [] [] where
  isPrefix := List.nil_prefix
  shortest _ isPrefix different := absurd (List.prefix_nil.mp isPrefix) different
  reaches := .inr rfl

/-- The first item is taken as long as the goal is not reached, and the rest works towards what is left of it. -/
theorem reachesFirst_cons {weight : Item → Nat} {goal : Nat} {item : Item} {items chosen : List Item}
    (positive : 0 < goal) (rest : ReachesFirst weight (goal - weight item) items chosen) :
    ReachesFirst weight goal (item :: items) (item :: chosen) where
  isPrefix := List.cons_prefix_cons.mpr ⟨rfl, rest.isPrefix⟩
  shortest shorter within different := by
    cases shorter with
    | nil => exact positive
    | cons first others =>
        obtain ⟨rfl, tail⟩ := List.cons_prefix_cons.mp within
        have below := rest.shortest others tail fun equal => different (by rw [equal])
        rw [tally_cons]
        omega
  reaches := by
    rw [tally_cons, List.cons.injEq]
    rcases rest.reaches with reached | whole
    · exact .inl (by omega)
    · exact .inr ⟨rfl, whole⟩

theorem exists_reachesFirst (weight : Item → Nat) (goal : Nat) (items : List Item) :
    ∃ chosen, ReachesFirst weight goal items chosen := by
  induction items generalizing goal with
  | nil => exact ⟨[], reachesFirst_nil weight goal⟩
  | cons item rest ih =>
      rcases Nat.eq_zero_or_pos goal with rfl | positive
      · exact ⟨[], reachesFirst_zero weight _⟩
      · obtain ⟨chosen, first⟩ := ih (goal - weight item)
        exact ⟨item :: chosen, reachesFirst_cons positive first⟩

section Maps

variable {Key Value : Type} [LinearOrder Key]

theorem tally_filter_length (test : Item → Bool) (items : List Item) :
    (items.filter test).length = tally (fun item => if test item then 1 else 0) items := by
  induction items with
  | nil => rfl
  | cons item rest ih =>
      rw [tally_cons, List.filter_cons]
      split
      · rw [List.length_cons, ih, Nat.add_comm]
      · rw [ih, Nat.zero_add]

/-- The weight of the entry of a key. -/
def OrderedMap.weightAt (weight : Key × Value → Nat) (map : OrderedMap Key Value) (key : Key) : Nat :=
  match map.find? key with
  | some value => weight (key, value)
  | none => 0

/-- The entries of a sorted map are the entry of a key and those below and above it. -/
theorem OrderedMap.tally_split (weight : Key × Value → Nat) (map : OrderedMap Key Value) (key : Key) :
    tally weight (map.entries.filter fun entry => entry.1 < key) + map.weightAt weight key +
      tally weight (map.entries.filter fun entry => key < entry.1) = tally weight map.entries := by
  obtain ⟨entries, sorted⟩ := map
  unfold weightAt find?
  dsimp only
  induction entries with
  | nil => rfl
  | cons entry rest ih =>
      obtain ⟨below, tail⟩ := List.pairwise_cons.mp sorted
      obtain ⟨position, value⟩ := entry
      have rests := ih tail
      rcases lt_trichotomy position key with less | same | greater
      · rw [List.filter_cons_of_pos (by simpa using less), List.filter_cons_of_neg (by simpa using less.le),
          List.find?_cons_of_neg (by simpa using less.ne), tally_cons, tally_cons]
        omega
      · subst same
        have absent : rest.find? (fun entry => entry.1 = position) = none := by
          rw [List.find?_eq_none]
          intro other member
          simpa using (below other member).ne'
        rw [absent] at rests
        rw [List.filter_cons_of_neg (by simp), List.filter_cons_of_neg (by simp),
          List.find?_cons_of_pos (by simp), tally_cons, ← rests]
        dsimp only [Option.map]
        omega
      · rw [List.filter_cons_of_neg (by simpa using greater.le), List.filter_cons_of_pos (by simpa using greater),
          List.find?_cons_of_neg (by simpa using greater.ne'), tally_cons, tally_cons]
        omega

/-- An insertion brings the weight of its entry and takes that of the entry it replaces. -/
theorem OrderedMap.tally_insert (weight : Key × Value → Nat) (map : OrderedMap Key Value) (key : Key) (value : Value) :
    tally weight (map.insert key value).entries + map.weightAt weight key =
      tally weight map.entries + weight (key, value) := by
  have split := map.tally_split weight key
  simp only [insert, tally_append, tally_cons]
  omega

theorem OrderedMap.tally_erase (weight : Key × Value → Nat) (map : OrderedMap Key Value) (key : Key) :
    tally weight (map.erase key).entries + map.weightAt weight key = tally weight map.entries := by
  have whole := map.tally_split weight key
  have erased := (map.erase key).tally_split weight key
  have absent : (map.erase key).weightAt weight key = 0 := by
    rw [weightAt, find?_erase, if_pos rfl]
  have lower : (map.erase key).entries.filter (fun entry => entry.1 < key) =
      map.entries.filter fun entry => entry.1 < key := by
    simp only [erase, List.filter_filter]
    refine List.filter_congr fun entry _ => ?_
    by_cases less : entry.1 < key
    · simp [less, less.ne]
    · simp [less]
  have upper : (map.erase key).entries.filter (fun entry => key < entry.1) =
      map.entries.filter fun entry => key < entry.1 := by
    simp only [erase, List.filter_filter]
    refine List.filter_congr fun entry _ => ?_
    by_cases greater : key < entry.1
    · simp [greater, greater.ne']
    · simp [greater]
  rw [absent, lower, upper] at erased
  omega

end Maps

end Storage

import Mathlib.Data.List.Basic
import Mathlib.Data.List.Induction
import Mathlib.Data.List.Nodup
import Mathlib.Tactic.Common

namespace Storage

/-- What a user of a recency order asks for. -/
inductive RecencyOp (Key : Type) where
  | touch (key : Key) (clean : Bool)
  | pop (protect : Option Key)
  | clear

/-- What then happened. -/
inductive RecencyEvent (Key : Type) where
  | touched (key : Key) (clean : Bool)
  | popped (protect answer : Option Key)
  | cleared
  deriving DecidableEq, Repr

section Runs

variable {First Second Op Event : Type}

/-- A run gives the events of its operations and the last state. -/
def runOps (perform : First → Op → Event × First) : First → List Op → List Event × First
  | state, [] => ([], state)
  | state, op :: ops =>
      let rest := runOps perform (perform state op).2 ops
      ((perform state op).1 :: rest.1, rest.2)

/-- What every operation adds to a history holds at the end of a run. -/
theorem runOps_invariant {perform : First → Op → Event × First} {invariant : List Event → First → Prop}
    (step : ∀ events state op, invariant events state →
      invariant (events ++ [(perform state op).1]) (perform state op).2)
    {events : List Event} {state : First} (start : invariant events state) (ops : List Op) :
    invariant (events ++ (runOps perform state ops).1) (runOps perform state ops).2 := by
  induction ops generalizing events state with
  | nil => simpa [runOps] using start
  | cons op ops ih =>
      have next := ih (step events state op start)
      rw [List.append_assoc, List.singleton_append] at next
      exact next

/-- States that are related step by step have the same events. -/
theorem runOps_refines {perform : First → Op → Event × First} {specify : Second → Op → Event × Second}
    {related : First → Second → Prop}
    (step : ∀ first second op, related first second →
      (perform first op).1 = (specify second op).1 ∧ related (perform first op).2 (specify second op).2)
    {first : First} {second : Second} (start : related first second) (ops : List Op) :
    (runOps perform first ops).1 = (runOps specify second ops).1 ∧
      related (runOps perform first ops).2 (runOps specify second ops).2 := by
  induction ops generalizing first second with
  | nil => exact ⟨rfl, start⟩
  | cons op ops ih =>
      obtain ⟨event, next⟩ := step first second op start
      obtain ⟨events, last⟩ := ih next
      refine ⟨?_, last⟩
      simp only [runOps, event, events]

end Runs

section FirstMatch

variable {Entry : Type}

/-- In an ordered list the first match comes before every other match. -/
theorem first_of_find? {before : Entry → Entry → Prop} {entries : List Entry} {test : Entry → Bool}
    (ordered : entries.Pairwise before) {first other : Entry} (found : entries.find? test = some first)
    (member : other ∈ entries) (matched : test other = true) : other = first ∨ before first other := by
  induction entries with
  | nil => cases member
  | cons head rest ih =>
      obtain ⟨below, tail⟩ := List.pairwise_cons.mp ordered
      by_cases own : test head = true
      · rw [List.find?_cons_of_pos own] at found
        obtain rfl := Option.some.inj found
        rcases List.mem_cons.mp member with same | later
        · exact .inl same
        · exact .inr (below other later)
      · rw [List.find?_cons_of_neg own] at found
        rcases List.mem_cons.mp member with rfl | later
        · exact absurd matched own
        · exact ih tail found later

end FirstMatch

/-- The keys in the order of their last touch, the oldest first, each with the class of that touch. -/
structure RecencyList (Key : Type) where
  entries : List (Key × Bool)
  unique : (entries.map Prod.fst).Nodup

namespace RecencyList

variable {Key : Type} [DecidableEq Key]

def empty : RecencyList Key := ⟨[], .nil⟩

def drop (list : RecencyList Key) (key : Key) : RecencyList Key where
  entries := list.entries.filter fun entry => entry.1 ≠ key
  unique := list.unique.sublist (List.filter_sublist.map Prod.fst)

theorem mem_drop {list : RecencyList Key} {key : Key} {entry : Key × Bool} :
    entry ∈ (list.drop key).entries ↔ entry ∈ list.entries ∧ entry.1 ≠ key := by
  simp [drop]

/-- A touch moves the key to the end of the order. -/
def touch (list : RecencyList Key) (key : Key) (clean : Bool) : RecencyList Key where
  entries := (list.drop key).entries ++ [(key, clean)]
  unique := by
    rw [List.map_append, List.nodup_append]
    refine ⟨(list.drop key).unique, List.nodup_singleton _, ?_⟩
    intro first member second own
    obtain ⟨entry, listed, rfl⟩ := List.mem_map.mp member
    obtain rfl : second = key := by simpa using own
    exact (mem_drop.mp listed).2

/-- A pop takes the first clean key that is not protected. -/
def victim (list : RecencyList Key) (protect : Option Key) : Option Key :=
  (list.entries.find? fun entry => entry.2 && decide (some entry.1 ≠ protect)).map Prod.fst

def pop (list : RecencyList Key) (protect : Option Key) : Option Key × RecencyList Key :=
  match list.victim protect with
  | some key => (some key, list.drop key)
  | none => (none, list)

def perform (list : RecencyList Key) : RecencyOp Key → RecencyEvent Key × RecencyList Key
  | .touch key clean => (.touched key clean, list.touch key clean)
  | .pop protect => (.popped protect (list.pop protect).1, (list.pop protect).2)
  | .clear => (.cleared, empty)

theorem mem_touch {list : RecencyList Key} {key other : Key} {clean class' : Bool} :
    (other, class') ∈ (list.touch key clean).entries ↔
      ((other, class') ∈ list.entries ∧ other ≠ key) ∨ (other = key ∧ class' = clean) := by
  simp only [touch, List.mem_append, mem_drop, List.mem_singleton, Prod.mk.injEq]

theorem victim_mem {list : RecencyList Key} {protect : Option Key} {key : Key}
    (chosen : list.victim protect = some key) : (key, true) ∈ list.entries ∧ some key ≠ protect := by
  obtain ⟨entry, found, rfl⟩ := Option.map_eq_some_iff.mp chosen
  have matched := List.find?_some found
  rw [Bool.and_eq_true, decide_eq_true_eq] at matched
  have member := List.mem_of_find?_eq_some found
  exact ⟨by rwa [← matched.1], matched.2⟩

/-- There is a victim as soon as a clean key is not protected. -/
theorem victim_isSome {list : RecencyList Key} {protect : Option Key} {key : Key}
    (member : (key, true) ∈ list.entries) (free : some key ≠ protect) : ∃ other, list.victim protect = some other := by
  cases chosen : list.victim protect with
  | some other => exact ⟨other, rfl⟩
  | none =>
      rw [victim, Option.map_eq_none_iff, List.find?_eq_none] at chosen
      exact absurd (by simpa using free) (chosen (key, true) member)

/-- The victim comes before every other key that could be taken. -/
theorem victim_first {list : RecencyList Key} {protect : Option Key} {key other : Key}
    {before : Key × Bool → Key × Bool → Prop} (ordered : list.entries.Pairwise before)
    (chosen : list.victim protect = some key) (member : (other, true) ∈ list.entries)
    (free : some other ≠ protect) : other = key ∨ before (key, true) (other, true) := by
  obtain ⟨entry, found, rfl⟩ := Option.map_eq_some_iff.mp chosen
  have matched := List.find?_some found
  rw [Bool.and_eq_true] at matched
  have own : entry = (entry.1, true) := Prod.ext rfl matched.1
  rcases first_of_find? ordered found member (by simpa using free) with same | earlier
  · exact .inl (congrArg Prod.fst same)
  · exact .inr (by rwa [← own])

end RecencyList

section History

variable {Key : Type}

/-- The event leaves the key where it is. -/
def RecencyEvent.Keeps (key : Key) : RecencyEvent Key → Prop
  | .touched other _ => other ≠ key
  | .popped _ answer => answer ≠ some key
  | .cleared => False

/-- The last touch of the key has this class and comes before the later events; since then the order
was not cleared and the key was not popped. -/
def Resident (events : List (RecencyEvent Key)) (key : Key) (clean : Bool) (later : List (RecencyEvent Key)) : Prop :=
  ∃ before, events = before ++ .touched key clean :: later ∧ ∀ event ∈ later, event.Keeps key

theorem resident_nil (key : Key) (clean : Bool) (later : List (RecencyEvent Key)) : ¬ Resident [] key clean later := by
  rintro ⟨before, whole, _⟩
  exact List.append_ne_nil_of_right_ne_nil before (List.cons_ne_nil _ _) whole.symm

/-- An event touches the key, or it keeps it. -/
theorem resident_snoc {events : List (RecencyEvent Key)} {event : RecencyEvent Key} {key : Key} {clean : Bool}
    {later : List (RecencyEvent Key)} :
    Resident (events ++ [event]) key clean later ↔
      (event = .touched key clean ∧ later = []) ∨
        ∃ earlier, later = earlier ++ [event] ∧ event.Keeps key ∧ Resident events key clean earlier := by
  constructor
  · rintro ⟨before, whole, kept⟩
    rcases List.eq_nil_or_concat later with rfl | ⟨earlier, last, rfl⟩
    · exact .inl ⟨by simpa using (List.append_inj' whole rfl).2, rfl⟩
    · rw [List.concat_eq_append, ← List.cons_append, ← List.append_assoc] at whole
      obtain ⟨front, same⟩ := List.append_inj' whole rfl
      obtain rfl : event = last := by simpa using same
      rw [List.concat_eq_append] at kept ⊢
      exact .inr ⟨earlier, rfl, kept event (by simp), before, front,
        fun other inside => kept other (List.mem_append_left _ inside)⟩
  · rintro (⟨rfl, rfl⟩ | ⟨earlier, rfl, own, before, rfl, kept⟩)
    · exact ⟨events, rfl, by simp⟩
    · refine ⟨before, by simp, ?_⟩
      intro other inside
      rcases List.mem_append.mp inside with early | last
      · exact kept other early
      · rwa [List.mem_singleton.mp last]

/-- An event that keeps the key is one more later event. -/
theorem resident_kept {events : List (RecencyEvent Key)} {event : RecencyEvent Key} {key : Key} {clean : Bool}
    {later : List (RecencyEvent Key)} (keeps : event.Keeps key) :
    Resident (events ++ [event]) key clean later ↔
      ∃ earlier, later = earlier ++ [event] ∧ Resident events key clean earlier := by
  rw [resident_snoc]
  constructor
  · rintro (⟨rfl, _⟩ | ⟨earlier, last, _, old⟩)
    · exact absurd rfl keeps
    · exact ⟨earlier, last, old⟩
  · rintro ⟨earlier, last, old⟩
    exact .inr ⟨earlier, last, keeps, old⟩

/-- Two last touches with as many later events are the same touch. -/
theorem resident_same {events : List (RecencyEvent Key)} {key other : Key} {clean class' : Bool}
    {later following : List (RecencyEvent Key)} (first : Resident events key clean later)
    (second : Resident events other class' following) (long : later.length = following.length) :
    key = other ∧ clean = class' := by
  obtain ⟨before, whole, _⟩ := first
  obtain ⟨front, same, _⟩ := second
  have tails := (List.append_inj' (whole.symm.trans same) (by simp [long])).2
  simpa using (List.cons.inj tails).1

/-- A key has one last touch. -/
theorem resident_unique {events : List (RecencyEvent Key)} {key : Key} {clean class' : Bool}
    {later following : List (RecencyEvent Key)} (first : Resident events key clean later)
    (second : Resident events key class' following) : later = following := by
  induction events using List.reverseRecOn generalizing later following with
  | nil => exact absurd first (resident_nil key clean later)
  | append_singleton events event ih =>
      rcases resident_snoc.mp first with ⟨touched, rfl⟩ | ⟨earlier, rfl, kept, old⟩
      · rcases resident_snoc.mp second with ⟨_, rfl⟩ | ⟨_, _, kept, _⟩
        · rfl
        · rw [touched] at kept
          exact absurd rfl kept
      · obtain ⟨older, rfl, same⟩ := (resident_kept kept).mp second
        rw [ih old same]

end History

namespace RecencyList

variable {Key : Type} [DecidableEq Key]

/-- The last touch of the first entry was before that of the second. -/
def Older (events : List (RecencyEvent Key)) (first second : Key × Bool) : Prop :=
  ∀ later following, Resident events first.1 first.2 later → Resident events second.1 second.2 following →
    following.length < later.length

/-- The list holds the keys that were touched and neither popped nor cleared since, by their last touch. -/
structure Chronicles (list : RecencyList Key) (events : List (RecencyEvent Key)) : Prop where
  mem : ∀ key clean, (key, clean) ∈ list.entries ↔ ∃ later, Resident events key clean later
  ordered : list.entries.Pairwise (Older events)

omit [DecidableEq Key] in
theorem empty_chronicles : (empty : RecencyList Key).Chronicles [] where
  mem key clean := by simp [empty, resident_nil]
  ordered := .nil

omit [DecidableEq Key] in
/-- An event that keeps both keys does not change their order. -/
theorem older_snoc {events : List (RecencyEvent Key)} {event : RecencyEvent Key} {first second : Key × Bool}
    (order : Older events first second) (keepsFirst : event.Keeps first.1) (keepsSecond : event.Keeps second.1) :
    Older (events ++ [event]) first second := by
  intro later following firstLast secondLast
  obtain ⟨earlier, rfl, firstOld⟩ := (resident_kept keepsFirst).mp firstLast
  obtain ⟨older, rfl, secondOld⟩ := (resident_kept keepsSecond).mp secondLast
  simpa using order earlier older firstOld secondOld

/-- An event that keeps every key but one leaves the order of the others. -/
theorem drop_ordered {events : List (RecencyEvent Key)} {event : RecencyEvent Key} {list : RecencyList Key} {key : Key}
    (ordered : list.entries.Pairwise (Older events)) (keeps : ∀ other, other ≠ key → event.Keeps other) :
    (list.drop key).entries.Pairwise (Older (events ++ [event])) := by
  refine (ordered.sublist List.filter_sublist).imp_of_mem ?_
  intro first second firstMember secondMember order
  exact older_snoc order (keeps _ (mem_drop.mp firstMember).2) (keeps _ (mem_drop.mp secondMember).2)

theorem touch_chronicles {events : List (RecencyEvent Key)} {list : RecencyList Key} (kept : list.Chronicles events)
    (key : Key) (clean : Bool) : (list.touch key clean).Chronicles (events ++ [.touched key clean]) where
  mem other class' := by
    rw [mem_touch, kept.mem]
    simp only [resident_snoc, RecencyEvent.touched.injEq, RecencyEvent.Keeps]
    constructor
    · rintro (⟨⟨later, old⟩, different⟩ | ⟨rfl, rfl⟩)
      · exact ⟨_, .inr ⟨later, rfl, different.symm, old⟩⟩
      · exact ⟨[], .inl ⟨⟨rfl, rfl⟩, rfl⟩⟩
    · rintro ⟨later, ⟨⟨rfl, rfl⟩, _⟩ | ⟨earlier, _, different, old⟩⟩
      · exact .inr ⟨rfl, rfl⟩
      · exact .inl ⟨⟨earlier, old⟩, different.symm⟩
  ordered := by
    rw [touch, List.pairwise_append]
    refine ⟨drop_ordered kept.ordered fun _ different => different.symm, List.pairwise_singleton _ _, ?_⟩
    have firstKeeps (entry : Key × Bool) (member : entry ∈ (list.drop key).entries) :
        (RecencyEvent.touched key clean).Keeps entry.1 := (mem_drop.mp member).2.symm
    intro first firstMember second secondMember later following firstLast secondLast
    obtain rfl := List.mem_singleton.mp secondMember
    obtain ⟨earlier, rfl, _⟩ := (resident_kept (firstKeeps first firstMember)).mp firstLast
    rcases resident_snoc.mp secondLast with ⟨_, rfl⟩ | ⟨_, _, keeps, _⟩
    · simp
    · exact absurd rfl keeps

theorem pop_chronicles {events : List (RecencyEvent Key)} {list : RecencyList Key} (kept : list.Chronicles events)
    (protect : Option Key) :
    (list.pop protect).2.Chronicles (events ++ [.popped protect (list.pop protect).1]) := by
  unfold pop
  cases chosen : list.victim protect with
  | none =>
      have keeps (key : Key) : (RecencyEvent.popped protect (none : Option Key)).Keeps key := by
        simp [RecencyEvent.Keeps]
      refine ⟨?_, ?_⟩
      · intro key clean
        rw [kept.mem]
        constructor
        · rintro ⟨later, old⟩
          exact ⟨_, (resident_kept (keeps key)).mpr ⟨later, rfl, old⟩⟩
        · rintro ⟨later, last⟩
          obtain ⟨earlier, _, old⟩ := (resident_kept (keeps key)).mp last
          exact ⟨earlier, old⟩
      · exact kept.ordered.imp fun order => older_snoc order (keeps _) (keeps _)
  | some key =>
      have keeps (other : Key) : (RecencyEvent.popped protect (some key)).Keeps other ↔ other ≠ key := by
        simp [RecencyEvent.Keeps, eq_comm]
      refine ⟨?_, drop_ordered kept.ordered fun other => (keeps other).mpr⟩
      intro other clean
      rw [mem_drop, kept.mem]
      constructor
      · rintro ⟨⟨later, old⟩, different⟩
        exact ⟨_, (resident_kept ((keeps other).mpr different)).mpr ⟨later, rfl, old⟩⟩
      · rintro ⟨later, last⟩
        rcases resident_snoc.mp last with ⟨touched, _⟩ | ⟨earlier, _, free, old⟩
        · cases touched
        · exact ⟨⟨earlier, old⟩, (keeps other).mp free⟩

omit [DecidableEq Key] in
theorem clear_chronicles (events : List (RecencyEvent Key)) :
    (empty : RecencyList Key).Chronicles (events ++ [.cleared]) where
  mem key clean := by
    constructor
    · intro member
      cases member
    · rintro ⟨later, last⟩
      rcases resident_snoc.mp last with ⟨touched, _⟩ | ⟨_, _, keeps, _⟩
      · cases touched
      · exact keeps.elim
  ordered := .nil

theorem perform_chronicles (events : List (RecencyEvent Key)) (list : RecencyList Key) (op : RecencyOp Key)
    (kept : list.Chronicles events) : (list.perform op).2.Chronicles (events ++ [(list.perform op).1]) := by
  cases op with
  | touch key clean => exact touch_chronicles kept key clean
  | pop protect => exact pop_chronicles kept protect
  | clear => exact clear_chronicles events

/-- The list tells every run in the terms of its history. -/
theorem runOps_chronicles (ops : List (RecencyOp Key)) :
    (runOps perform (empty : RecencyList Key) ops).2.Chronicles (runOps perform empty ops).1 :=
  @runOps_invariant _ _ _ perform (fun events list => list.Chronicles events) perform_chronicles [] empty
    empty_chronicles ops

/-- The victim is the clean key whose last touch is the oldest, apart from the protected one. -/
theorem victim_eq_some {events : List (RecencyEvent Key)} {list : RecencyList Key} (kept : list.Chronicles events)
    (protect : Option Key) (key : Key) :
    list.victim protect = some key ↔
      ∃ later, Resident events key true later ∧ some key ≠ protect ∧
        ∀ other following, Resident events other true following → some other ≠ protect →
          following.length ≤ later.length := by
  have oldest (chosen : Key) (victim : list.victim protect = some chosen) :
      ∃ later, Resident events chosen true later ∧ some chosen ≠ protect ∧
        ∀ other following, Resident events other true following → some other ≠ protect →
          following.length ≤ later.length := by
    obtain ⟨member, free⟩ := victim_mem victim
    obtain ⟨later, last⟩ := (kept.mem chosen true).mp member
    refine ⟨later, last, free, ?_⟩
    intro other following otherLast otherFree
    rcases victim_first kept.ordered victim ((kept.mem other true).mpr ⟨following, otherLast⟩) otherFree with
      rfl | earlier
    · exact Nat.le_of_eq (congrArg List.length (resident_unique otherLast last))
    · exact Nat.le_of_lt (earlier later following last otherLast)
  refine ⟨oldest key, ?_⟩
  rintro ⟨later, last, free, bound⟩
  obtain ⟨chosen, victim⟩ := victim_isSome ((kept.mem key true).mpr ⟨later, last⟩) free
  obtain ⟨following, chosenLast, chosenFree, limit⟩ := oldest chosen victim
  have long : following.length = later.length :=
    Nat.le_antisymm (bound chosen following chosenLast chosenFree) (limit key later last free)
  rw [victim, (resident_same chosenLast last long).1]

theorem victim_eq_none {events : List (RecencyEvent Key)} {list : RecencyList Key} (kept : list.Chronicles events)
    (protect : Option Key) :
    list.victim protect = none ↔ ∀ key later, Resident events key true later → some key = protect := by
  constructor
  · intro nothing key later last
    by_contra free
    obtain ⟨other, victim⟩ := victim_isSome ((kept.mem key true).mpr ⟨later, last⟩) free
    rw [nothing] at victim
    cases victim
  · intro guarded
    cases chosen : list.victim protect with
    | none => rfl
    | some key =>
        obtain ⟨member, free⟩ := victim_mem chosen
        obtain ⟨later, last⟩ := (kept.mem key true).mp member
        exact absurd (guarded key later last) free

end RecencyList
end Storage

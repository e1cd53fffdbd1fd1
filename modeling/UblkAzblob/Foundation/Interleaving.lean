import Mathlib.Algebra.GroupWithZero.Nat
import Mathlib.Data.List.Basic
import Mathlib.Tactic.Common

namespace Storage

section Tasks

variable {Key Task State : Type} [DecidableEq Key]

/-- The scheduler lets the task of one key take its next step. -/
def advance (step : Key → Task → State → Task × State) (key : Key) :
    List (Key × Task) → State → List (Key × Task) × State
  | [], state => ([], state)
  | (other, task) :: rest, state =>
      if other = key then
        ((other, (step other task state).1) :: rest, (step other task state).2)
      else
        ((other, task) :: (advance step key rest state).1, (advance step key rest state).2)

/-- The schedule names the task that moves next, until the tasks halt. -/
def interleave (step : Key → Task → State → Task × State) (halt : List (Key × Task) → Bool) :
    List Key → List (Key × Task) → State → List (Key × Task) × State
  | [], tasks, state => (tasks, state)
  | key :: schedule, tasks, state =>
      if halt tasks then (tasks, state)
      else interleave step halt schedule (advance step key tasks state).1
        (advance step key tasks state).2

/-- A scheduled step moves one task, or nothing when no task has the key. -/
theorem advance_cases (step : Key → Task → State → Task × State) (key : Key)
    (tasks : List (Key × Task)) (state : State) :
    (key ∉ tasks.map Prod.fst ∧ advance step key tasks state = (tasks, state)) ∨
      ∃ before task after, tasks = before ++ (key, task) :: after ∧
        key ∉ before.map Prod.fst ∧
        advance step key tasks state =
          (before ++ (key, (step key task state).1) :: after, (step key task state).2) := by
  induction tasks with
  | nil => exact .inl ⟨by simp, rfl⟩
  | cons head rest ih =>
      obtain ⟨other, task⟩ := head
      by_cases same : other = key
      · subst same
        exact .inr ⟨[], task, rest, rfl, by simp, by simp [advance]⟩
      · rcases ih with ⟨absent, unchanged⟩ | ⟨before, moved, after, rfl, fresh, moves⟩
        · refine .inl ⟨by simpa [same, Ne.symm same] using absent, ?_⟩
          simp [advance, same, unchanged]
        · refine .inr ⟨(other, task) :: before, moved, after, rfl, ?_, ?_⟩
          · simpa [Ne.symm same] using fresh
          · simp [advance, same, moves]

/-- A task that is found under its key takes the scheduled step. -/
theorem advance_lookup {step : Key → Task → State → Task × State} {key : Key}
    {tasks : List (Key × Task)} {task : Task} (found : tasks.lookup key = some task) (state : State) :
    ∃ before after, tasks = before ++ (key, task) :: after ∧
      advance step key tasks state =
        (before ++ (key, (step key task state).1) :: after, (step key task state).2) := by
  obtain ⟨first, rest, split, unseen⟩ := List.lookup_eq_some_iff.mp found
  rcases advance_cases step key tasks state with ⟨absent, _⟩ | ⟨before, other, after, same, fresh, moves⟩
  · rw [split] at absent
    simp at absent
  · have lookedUp : tasks.lookup key = some other := by
      rw [List.lookup_eq_some_iff]
      refine ⟨before, after, same, fun entry member => ?_⟩
      have different : key ≠ entry.1 := by
        rintro rfl
        exact fresh (List.mem_map.mpr ⟨entry, member, rfl⟩)
      simpa using different
    obtain rfl := Option.some.inj (found.symm.trans lookedUp)
    exact ⟨before, after, same, moves⟩

omit [DecidableEq Key] in
@[simp] theorem map_fst_tagged (keys : List Key) (task : Task) :
    (keys.map fun key => (key, task)).map Prod.fst = keys := by
  simp [Function.comp_def]

omit [DecidableEq Key] in
theorem mem_tagged {keys : List Key} {task : Task} {key : Key} {found : Task}
    (member : (key, found) ∈ keys.map fun key => (key, task)) : key ∈ keys ∧ found = task := by
  obtain ⟨other, inside, same⟩ := List.mem_map.mp member
  obtain ⟨rfl, rfl⟩ := Prod.mk.inj same
  exact ⟨inside, rfl⟩

/-- Tasks that keep the state good and do not disturb each other are ready after any schedule. -/
theorem interleave_tasks (step : Key → Task → State → Task × State) (halt : List (Key × Task) → Bool)
    (Good : State → Prop) (Ready : State → Key → Task → Prop)
    (moves : ∀ key task state, Good state → Ready state key task →
      Good (step key task state).2 ∧ Ready (step key task state).2 key (step key task state).1 ∧
        ∀ other waiting, other ≠ key → Ready state other waiting →
          Ready (step key task state).2 other waiting)
    (schedule : List Key) (tasks : List (Key × Task)) (state : State)
    (distinct : (tasks.map Prod.fst).Nodup) (good : Good state)
    (ready : ∀ key task, (key, task) ∈ tasks → Ready state key task) :
    Good (interleave step halt schedule tasks state).2 ∧
      (interleave step halt schedule tasks state).1.map Prod.fst = tasks.map Prod.fst ∧
      ∀ key task, (key, task) ∈ (interleave step halt schedule tasks state).1 →
        Ready (interleave step halt schedule tasks state).2 key task := by
  induction schedule generalizing tasks state with
  | nil => exact ⟨good, rfl, ready⟩
  | cons turn schedule ih =>
      rw [interleave]
      split
      · exact ⟨good, rfl, ready⟩
      rcases advance_cases step turn tasks state with
        ⟨_, unchanged⟩ | ⟨before, moved, after, rfl, notBefore, moved'⟩
      · rw [unchanged]
        exact ih tasks state distinct good ready
      · rw [moved']
        obtain ⟨goodAfter, own, others⟩ := moves turn moved state good (ready turn moved (by simp))
        have keys : (before ++ (turn, (step turn moved state).1) :: after).map Prod.fst =
            (before ++ (turn, moved) :: after).map Prod.fst := by simp
        have apart := distinct
        rw [List.map_append, List.map_cons, List.nodup_append, List.nodup_cons] at apart
        have notAfter : turn ∉ after.map Prod.fst := apart.2.1.1
        obtain ⟨finalGood, finalKeys, finalReady⟩ := ih
          (before ++ (turn, (step turn moved state).1) :: after) (step turn moved state).2
          (by rw [keys]; exact distinct) goodAfter (by
            intro key task member
            rcases List.mem_append.mp member with early | late
            · refine others key task ?_ (ready key task (List.mem_append_left _ early))
              rintro rfl
              exact notBefore (List.mem_map.mpr ⟨_, early, rfl⟩)
            rcases List.mem_cons.mp late with same | later
            · obtain ⟨rfl, rfl⟩ := Prod.mk.inj same
              exact own
            · refine others key task ?_
                (ready key task (List.mem_append_right _ (List.mem_cons_of_mem _ later)))
              rintro rfl
              exact notAfter (List.mem_map.mpr ⟨_, later, rfl⟩))
        exact ⟨finalGood, finalKeys.trans keys, finalReady⟩

/-- A task that every step brings closer to its end is done after enough turns, unless the tasks halt before. -/
theorem interleave_finishes {step : Key → Task → State → Task × State} {rank : Task → Nat}
    (closer : ∀ key task state, rank (step key task state).1 ≤ rank task - 1) (halt : List (Key × Task) → Bool)
    (schedule : List Key) (tasks : List (Key × Task)) (state : State)
    (distinct : (tasks.map Prod.fst).Nodup)
    (enough : ∀ key task, (key, task) ∈ tasks → rank task ≤ schedule.count key) :
    halt (interleave step halt schedule tasks state).1 = true ∨
      ∀ key task, (key, task) ∈ (interleave step halt schedule tasks state).1 → rank task = 0 := by
  induction schedule generalizing tasks state with
  | nil =>
      refine .inr fun key task member => ?_
      have bound := enough key task member
      simpa using bound
  | cons turn schedule ih =>
      rw [interleave]
      split
      · rename_i halted
        exact .inl halted
      rcases advance_cases step turn tasks state with
        ⟨absent, unchanged⟩ | ⟨before, moved, after, rfl, _, moves⟩
      · rw [unchanged]
        refine ih tasks state distinct ?_
        intro key task member
        have other : turn ≠ key := by
          rintro rfl
          exact absent (List.mem_map.mpr ⟨_, member, rfl⟩)
        simpa [List.count_cons, other] using enough key task member
      · rw [moves]
        have keys : (before ++ (turn, (step turn moved state).1) :: after).map Prod.fst =
            (before ++ (turn, moved) :: after).map Prod.fst := by simp
        refine ih _ _ (by rw [keys]; exact distinct) ?_
        intro key task member
        rw [List.map_append, List.map_cons, List.nodup_append, List.nodup_cons] at distinct
        obtain ⟨_, ⟨notAfter, _⟩, apart⟩ := distinct
        have others : (key, task) ∈ before ++ after → rank task ≤ schedule.count key := by
          intro elsewhere
          have other : turn ≠ key := by
            rintro rfl
            rcases List.mem_append.mp elsewhere with early | late
            · exact apart _ (List.mem_map.mpr ⟨_, early, rfl⟩) _ List.mem_cons_self rfl
            · exact notAfter (List.mem_map.mpr ⟨_, late, rfl⟩)
          have bound := enough key task (by
            rcases List.mem_append.mp elsewhere with early | late
            · exact List.mem_append_left _ early
            · exact List.mem_append_right _ (List.mem_cons_of_mem _ late))
          simpa [List.count_cons, other] using bound
        rcases List.mem_append.mp member with early | late
        · exact others (List.mem_append_left _ early)
        rcases List.mem_cons.mp late with own | later
        · obtain ⟨rfl, rfl⟩ := Prod.mk.inj own
          have bound := enough key moved (by simp)
          have shrinks := closer key moved state
          rw [List.count_cons_self] at bound
          omega
        · exact others (List.mem_append_right _ later)

/-- A key that is among those that get some turns each gets its turns. -/
theorem le_count_turns (turns : Nat) {keys : List Key} {key : Key} (member : key ∈ keys) :
    turns ≤ (keys.flatMap (List.replicate turns)).count key := by
  have part : List.Sublist (List.replicate turns key) (keys.flatMap (List.replicate turns)) := by
    rw [List.flatMap_def]
    exact List.sublist_flatten_of_mem (List.mem_map_of_mem member)
  simpa using part.count_le key

end Tasks

section Runs

variable {State Event : Type}

/-- A run takes one partial step for each event. -/
def execute (step : State → Event → Option State) : State → List Event → Option State
  | state, [] => some state
  | state, event :: rest => (step state event).bind fun next => execute step next rest

/-- A run of two parts is a run of the second from where the first ends. -/
theorem execute_append (step : State → Event → Option State) (start : State) (first rest : List Event) :
    execute step start (first ++ rest) = (execute step start first).bind fun between => execute step between rest := by
  induction first generalizing start with
  | nil => rfl
  | cons event first inductionHypothesis =>
      rw [List.cons_append, execute, execute]
      cases step start event with
      | none => rfl
      | some next => exact inductionHypothesis next

/-- A condition holds along a run when it holds before each of its steps. -/
def along (step : State → Event → Option State) (allowed : State → Event → Bool) :
    State → List Event → Bool
  | _, [] => true
  | state, event :: rest => allowed state event && match step state event with
    | none => true
    | some next => along step allowed next rest

/-- An invariant of every allowed step holds at the end of an allowed run. -/
theorem execute_invariant {step : State → Event → Option State}
    {allowed : State → Event → Bool} {Inv : State → Prop}
    (preserved : ∀ state event next, Inv state → allowed state event = true →
      step state event = some next → Inv next)
    {events : List Event} {start final : State} (initial : Inv start)
    (condition : along step allowed start events = true) (run : execute step start events = some final) :
    Inv final := by
  induction events generalizing start with
  | nil =>
      obtain rfl := Option.some.inj run
      exact initial
  | cons event rest ih =>
      obtain ⟨next, taken, remaining⟩ := Option.bind_eq_some_iff.mp run
      rw [along, taken, Bool.and_eq_true] at condition
      exact ih (preserved start event next initial condition.1 taken) condition.2 remaining

/-- An invariant of every step holds at the end of every run. -/
theorem execute_preserves {step : State → Event → Option State} {Inv : State → Prop}
    (preserved : ∀ state event next, Inv state → step state event = some next → Inv next)
    {events : List Event} {start final : State} (initial : Inv start)
    (run : execute step start events = some final) : Inv final := by
  induction events generalizing start with
  | nil =>
      obtain rfl := Option.some.inj run
      exact initial
  | cons event rest ih =>
      obtain ⟨next, taken, remaining⟩ := Option.bind_eq_some_iff.mp run
      exact ih (preserved start event next initial taken) remaining

/-- A property of the events so far and the state they lead to holds at the end of every run. -/
theorem execute_history {step : State → Event → Option State} {Inv : List Event → State → Prop}
    (preserved : ∀ history state event next, Inv history state → step state event = some next →
      Inv (history ++ [event]) next)
    {history events : List Event} {start final : State} (initial : Inv history start)
    (run : execute step start events = some final) : Inv (history ++ events) final := by
  induction events generalizing start history with
  | nil =>
      obtain rfl := Option.some.inj run
      rwa [List.append_nil]
  | cons event rest ih =>
      obtain ⟨next, taken, remaining⟩ := Option.bind_eq_some_iff.mp run
      have later := ih (preserved history start event next initial taken) remaining
      rwa [List.append_assoc] at later

end Runs

section Trails

variable {State Label : Type}

/-- A trail chains labelled steps and concatenates their labels. -/
inductive Trail (step : State → List Label → State → Prop) : State → List Label → State → Prop where
  | refl (state : State) : Trail step state [] state
  | step {first middle last : State} {labels rest : List Label}
      (head : step first labels middle) (tail : Trail step middle rest last) :
      Trail step first (labels ++ rest) last

variable {step : State → List Label → State → Prop}

theorem Trail.single {first last : State} {labels : List Label} (only : step first labels last) :
    Trail step first labels last := by
  simpa using Trail.step only (Trail.refl last)

theorem Trail.trans {first middle last : State} {labels rest : List Label}
    (head : Trail step first labels middle) (tail : Trail step middle rest last) :
    Trail step first (labels ++ rest) last := by
  induction head with
  | refl state => exact tail
  | step one _ ih =>
      rw [List.append_assoc]
      exact .step one (ih tail)

/-- An invariant of every step holds at the end of a trail. -/
theorem Trail.invariant (Inv : State → Prop)
    (preserved : ∀ first labels last, Inv first → step first labels last → Inv last)
    {first last : State} {labels : List Label} (trail : Trail step first labels last)
    (start : Inv first) : Inv last := by
  induction trail with
  | refl state => exact start
  | step one _ ih => exact ih (preserved _ _ _ start one)

theorem Trail.mono {other : State → List Label → State → Prop}
    (implies : ∀ first labels last, step first labels last → other first labels last)
    {first last : State} {labels : List Label} (trail : Trail step first labels last) :
    Trail other first labels last := by
  induction trail with
  | refl state => exact .refl state
  | step one _ ih => exact .step (implies _ _ _ one) ih

/-- A cut of a trail falls between two steps or inside one step. -/
theorem Trail.cut {first last : State} {labels early : List Label}
    (trail : Trail step first labels last) (cut : early <+: labels) :
    ∃ before middle inside, Trail step first before middle ∧ early = before ++ inside ∧
      (inside = [] ∨ ∃ whole after, step middle whole after ∧ inside <+: whole) := by
  induction trail generalizing early with
  | refl state =>
      obtain rfl := List.prefix_nil.mp cut
      exact ⟨[], state, [], .refl state, rfl, .inl rfl⟩
  | @step first middle last labels rest one tail ih =>
      rcases List.prefix_or_prefix_of_prefix cut (List.prefix_append labels rest) with
        inside | ⟨more, rfl⟩
      · exact ⟨[], first, early, .refl first, rfl, .inr ⟨labels, middle, one, inside⟩⟩
      · obtain ⟨before, reached, inside, walked, rfl, position⟩ :=
          ih ((List.prefix_append_right_inj labels).mp cut)
        exact ⟨labels ++ before, reached, inside, .step one walked, by simp, position⟩

end Trails
end Storage

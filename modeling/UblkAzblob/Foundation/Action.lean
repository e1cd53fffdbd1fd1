import Mathlib.Algebra.GroupWithZero.Nat
import Mathlib.Tactic.Common

namespace Storage

/-- An error lists its messages, the outermost context first. -/
abbrev Error := List String

/-- An action returns a value or an error, and always the state it leaves behind. -/
def Action (State Value : Type) := State → Except Error Value × State

namespace Action

variable {State Value Other : Type}

def pure (value : Value) : Action State Value := fun state => (.ok value, state)

def bind (first : Action State Value) (next : Value → Action State Other) : Action State Other :=
  fun state => match first state with
    | (.ok value, after) => next value after
    | (.error error, after) => (.error error, after)

instance : Monad (Action State) where
  pure := pure
  bind := bind

def fail (error : Error) : Action State Value := fun state => (.error error, state)

/-- The check fails with its message and leaves the state alone. -/
def ensure (condition : Prop) [Decidable condition] (error : Error) : Action State Unit :=
  if condition then pure () else fail error

/-- The context is put in front of the messages of an error. -/
def withContext (context : String) (action : Action State Value) : Action State Value :=
  fun state => match action state with
    | (.ok value, after) => (.ok value, after)
    | (.error error, after) => (.error (context :: error), after)

/-- The outcome of the action is dropped. -/
def ignore (action : Action State Value) : Action State Unit := fun state => (.ok (), (action state).2)

def modify (update : State → State) : Action State Unit := fun state => (.ok (), update state)

def get (read : State → Value) : Action State Value := fun state => (.ok (read state), state)

/-- The loop runs the body once for each item and stops at the first error. -/
def forEach {Item : Type} : List Item → (Item → Action State Unit) → Action State Unit
  | [], _ => pure ()
  | item :: rest, body => bind (body item) fun _ => forEach rest body

/-- The loop runs its body, at most this many times, until the body returns a value. -/
def loop : Nat → Action State (Option Value) → Action State Value
  | 0, _ => fail ["the loop has not ended"]
  | fuel + 1, body => bind body fun outcome => match outcome with
    | some value => pure value
    | none => loop fuel body

/-- A loop whose rounds make the measure smaller needs no other bound. -/
def repeatUntil (measure : State → Nat) (body : Action State (Option Value)) : Action State Value :=
  fun state => loop (measure state + 1) body state

@[simp] theorem bind_apply (first : Action State Value) (next : Value → Action State Other)
    (state : State) : (first >>= next) state = match first state with
      | (.ok value, after) => next value after
      | (.error error, after) => (.error error, after) := rfl

/-- A step that returns a value hands it to the rest of the action. -/
theorem bind_ok {first : Action State Value} {state after : State} {value : Value}
    (step : first state = (.ok value, after)) (next : Value → Action State Other) :
    (first >>= next) state = next value after := by
  rw [bind_apply, step]

/-- An action that returns a value got through its first step. -/
theorem bind_inv {first : Action State Value} {next : Value → Action State Other} {state after : State} {result : Other}
    (done : (first >>= next) state = (.ok result, after)) :
    ∃ value between, first state = (.ok value, between) ∧ next value between = (.ok result, after) := by
  rw [bind_apply] at done
  cases outcome : first state with
  | mk answer between =>
      rw [outcome] at done
      cases answer with
      | error error => cases done
      | ok value => exact ⟨value, between, rfl, done⟩

/-- A context changes only errors. -/
theorem withContext_ok {context : String} {action : Action State Value} {state after : State} {value : Value}
    (done : withContext context action state = (.ok value, after)) : action state = (.ok value, after) := by
  rw [withContext] at done
  cases outcome : action state with
  | mk answer between =>
      rw [outcome] at done
      cases answer with
      | error error => cases done
      | ok value => exact done

@[simp] theorem pure_apply (value : Value) (state : State) :
    (Pure.pure value : Action State Value) state = (.ok value, state) := rfl

@[simp] theorem fail_apply (error : Error) (state : State) :
    (fail error : Action State Value) state = (.error error, state) := rfl

@[simp] theorem modify_apply (update : State → State) (state : State) :
    modify update state = (.ok (), update state) := rfl

@[simp] theorem get_apply (read : State → Value) (state : State) :
    get read state = (.ok (read state), state) := rfl

theorem ensure_apply (condition : Prop) [Decidable condition] (error : Error) (state : State) :
    ensure condition error state =
      if condition then (.ok (), state) else (.error error, state) := by
  unfold ensure
  split <;> rfl

@[simp] theorem forEach_nil {Item : Type} (body : Item → Action State Unit) :
    forEach [] body = Pure.pure () := rfl

@[simp] theorem forEach_cons {Item : Type} (item : Item) (rest : List Item)
    (body : Item → Action State Unit) :
    forEach (item :: rest) body = (body item >>= fun _ => forEach rest body) := rfl

section Loop

variable {measure : State → Nat} {body : Action State (Option Value)}

/-- A loop that has more rounds than its measure never runs out of them. -/
theorem loop_enough (shrinks : ∀ state after, body state = (.ok none, after) → measure after < measure state)
    {fuel more : Nat} {state : State} (enough : measure state < fuel) (plenty : measure state < more) :
    loop fuel body state = loop more body state := by
  induction fuel generalizing more state with
  | zero => exact absurd enough (Nat.not_lt_zero _)
  | succ fuel ih =>
      obtain ⟨more, rfl⟩ : ∃ less, more = less + 1 := ⟨more - 1, by omega⟩
      rw [loop, loop]
      change (body >>= _) state = (body >>= _) state
      rw [bind_apply, bind_apply]
      cases outcome : body state with
      | mk result after =>
          cases result with
          | error error => rfl
          | ok answer =>
              cases answer with
              | some value => rfl
              | none =>
                  have smaller := shrinks state after outcome
                  exact ih (by omega) (by omega)

/-- A round that returns ends the loop. -/
theorem repeatUntil_some {state after : State} {value : Value} (round : body state = (.ok (some value), after)) :
    repeatUntil measure body state = (.ok value, after) := by
  rw [repeatUntil, loop]
  change (body >>= _) state = _
  rw [bind_ok round]
  rfl

theorem repeatUntil_error {state after : State} {error : Error} (round : body state = (.error error, after)) :
    repeatUntil measure body state = (.error error, after) := by
  rw [repeatUntil, loop]
  change (body >>= _) state = _
  rw [bind_apply, round]

/-- After any other round the loop goes on in the state that the round left. -/
theorem repeatUntil_none
    (shrinks : ∀ state after, body state = (.ok none, after) → measure after < measure state)
    {state after : State} (round : body state = (.ok none, after)) :
    repeatUntil measure body state = repeatUntil measure body after := by
  rw [repeatUntil, loop]
  change (body >>= _) state = _
  rw [bind_ok round]
  exact loop_enough shrinks (shrinks state after round) (Nat.lt_succ_self _)

end Loop

section Keeps

/-- The action keeps a property of the state, whatever it returns. -/
def Keeps (Inv : State → Prop) (action : Action State Value) : Prop :=
  ∀ state, Inv state → Inv (action state).2

variable {Inv : State → Prop}

theorem keeps_pure (value : Value) : Keeps Inv (Pure.pure value : Action State Value) :=
  fun _ inv => inv

theorem keeps_ensure (condition : Prop) [Decidable condition] (error : Error) :
    Keeps Inv (ensure condition error) := by
  intro state inv
  rw [ensure_apply]
  split
  · exact inv
  · exact inv

/-- The second action runs in the state and with the value that the first one left. -/
theorem keeps_bind {first : Action State Value} {next : Value → Action State Other}
    (head : Keeps Inv first)
    (tail : ∀ state value after, Inv after → first state = (.ok value, after) → Inv (next value after).2) :
    Keeps Inv (first >>= next) := by
  intro state inv
  have kept := head state inv
  rw [bind_apply]
  cases outcome : first state with
  | mk result after =>
      rw [outcome] at kept
      cases result with
      | error error => exact kept
      | ok value => exact tail state value after kept outcome

theorem keeps_withContext {context : String} {action : Action State Value} (kept : Keeps Inv action) :
    Keeps Inv (withContext context action) := by
  intro state inv
  have after := kept state inv
  rw [withContext]
  cases outcome : action state with
  | mk result left =>
      rw [outcome] at after
      cases result with
      | error error => exact after
      | ok value => exact after

/-- A loop keeps what each of its rounds keeps. -/
theorem keeps_forEach {Item : Type} {items : List Item} {body : Item → Action State Unit}
    (round : ∀ item ∈ items, Keeps Inv (body item)) : Keeps Inv (forEach items body) := by
  induction items with
  | nil => exact keeps_pure ()
  | cons item rest ih =>
      rw [forEach_cons]
      refine keeps_bind (round item List.mem_cons_self) fun _ _ after inv _ => ?_
      exact ih (fun other member => round other (List.mem_cons_of_mem _ member)) after inv

/-- A passed check says that its condition holds. -/
theorem ensure_ok {condition : Prop} [Decidable condition] {error : Error} {state after : State} {value : Unit}
    (passed : ensure condition error state = (.ok value, after)) : condition ∧ after = state := by
  rw [ensure_apply] at passed
  split at passed
  · rename_i holds
    exact ⟨holds, (Prod.mk.inj passed).2.symm⟩
  · cases passed

end Keeps

end Action
end Storage

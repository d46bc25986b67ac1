import ContextDb.Lib.Fallible

/-! Labelled runs of a step relation and the invariant rules used on them. -/

set_option autoImplicit false

namespace ContextDb.Lib

variable {State Label : Type} {step : State → Label → State → Prop}

inductive Runs (step : State → Label → State → Prop) : State → List Label → State → Prop
  | nil (state : State) : Runs step state [] state
  | cons {first second last : State} {label : Label} {labels : List Label}
      (head : step first label second) (tail : Runs step second labels last) :
      Runs step first (label :: labels) last

namespace Runs

variable {first second last : State} {labels more : List Label}

theorem single {label : Label} (performed : step first label second) :
    Runs step first [label] second :=
  .cons performed (.nil second)

theorem append (early : Runs step first labels second) (late : Runs step second more last) :
    Runs step first (labels ++ more) last := by
  induction early with
  | nil state => exact late
  | cons head _ ih => exact .cons head (ih late)

/-- The invariant rule for runs. -/
theorem preserves (run : Runs step first labels last) (invariant : State → Prop)
    (start : invariant first)
    (preserved : ∀ state label next, label ∈ labels → invariant state → step state label next →
      invariant next) : invariant last := by
  induction run with
  | nil state => exact start
  | cons head tail ih =>
    refine ih (preserved _ _ _ List.mem_cons_self start head) ?_
    intro state label next member
    exact preserved state label next (List.mem_cons_of_mem _ member)

/-- The simulation rule: a run seen through a view is a run of the steps' images. -/
theorem map {Other OtherLabel : Type} {relabelled : Other → OtherLabel → Other → Prop}
    (run : Runs step first labels last) (view : State → Other) (rename : Label → OtherLabel)
    (simulated : ∀ state label next, step state label next →
      relabelled (view state) (rename label) (view next)) :
    Runs relabelled (view first) (labels.map rename) (view last) := by
  induction run with
  | nil state => exact .nil (view state)
  | cons head _ ih => exact .cons (simulated _ _ _ head) ih

/-- A fallible loop that succeeds is a run of its steps. -/
theorem of_foldlM {Error : Type} {action : State → Label → Except Error State}
    (success : labels.foldlM action first = .ok last) :
    Runs (fun state label next => action state label = .ok next) first labels last := by
  induction labels generalizing first with
  | nil =>
    cases success
    exact .nil _
  | cons label rest ih =>
    rw [List.foldlM_cons] at success
    obtain ⟨second, performed, remaining⟩ := bind_ok success
    exact .cons performed (ih remaining)

/-- Cuts a run at one of its labels. -/
theorem split {label : Label} (run : Runs step first labels last) (member : label ∈ labels) :
    ∃ early late before after, labels = early ++ label :: late ∧ Runs step first early before ∧
      step before label after ∧ Runs step after late last := by
  induction run with
  | nil state => cases member
  | @cons first second last next labels head tail ih =>
    rcases List.mem_cons.mp member with rfl | later
    · exact ⟨[], labels, first, second, rfl, .nil first, head, tail⟩
    · obtain ⟨early, late, before, after, rfl, prefixRun, performed, rest⟩ := ih later
      exact ⟨next :: early, late, before, after, rfl, .cons head prefixRun, performed, rest⟩

end Runs

def Reachable (initial : State → Prop) (step : State → Label → State → Prop) (state : State) :
    Prop :=
  ∃ first labels, initial first ∧ Runs step first labels state

namespace Reachable

variable {initial : State → Prop} {state next : State}

theorem start (begins : initial state) : Reachable initial step state :=
  ⟨state, [], begins, .nil state⟩

theorem extend {labels : List Label} (reachable : Reachable initial step state)
    (run : Runs step state labels next) : Reachable initial step next := by
  obtain ⟨first, earlier, begins, reached⟩ := reachable
  exact ⟨first, earlier ++ labels, begins, reached.append run⟩

/-- An invariant of the initial states that every step from a reachable state
preserves holds of every reachable state. -/
theorem invariant (reachable : Reachable initial step state) (invariant : State → Prop)
    (begins : ∀ state, initial state → invariant state)
    (preserved : ∀ state label next, Reachable initial step state → invariant state →
      step state label next → invariant next) : invariant state := by
  obtain ⟨first, labels, start, run⟩ := reachable
  have both : Reachable initial step state ∧ invariant state := by
    refine run.preserves (fun state => Reachable initial step state ∧ invariant state)
      ⟨.start start, begins first start⟩ ?_
    rintro state label next _ ⟨reached, held⟩ performed
    exact ⟨reached.extend (.single performed), preserved state label next reached held performed⟩
  exact both.2

end Reachable

/-! Computations over a state that may fail. What a computation did to the state before it
failed stays. -/

def Stateful (State Error Value : Type) : Type :=
  State → Except Error Value × State

namespace Stateful

variable {State Error Value Result Item : Type}

instance : Monad (Stateful State Error) where
  pure value := fun state => (.ok value, state)
  bind first next := fun state =>
    match first state with
    | (.ok value, after) => next value after
    | (.error error, after) => (.error error, after)

def lift (outcome : Except Error Value) : Stateful State Error Value :=
  fun state => (outcome, state)

def get : Stateful State Error State :=
  fun state => (.ok state, state)

def set (next : State) : Stateful State Error Unit :=
  fun _ => (.ok (), next)

theorem run_get_bind {next : State → Stateful State Error Value} (state : State) :
    (get >>= next) state = next state state :=
  rfl

variable {outcome : Except Error Value} {result : Result}
    {next : Value → Stateful State Error Result}

theorem run_lift_bind_ok {before after : State} (ran : (lift outcome >>= next) before = (.ok result,
    after)) :
    ∃ value, outcome = .ok value ∧ next value before = (.ok result, after) := by
  cases outcome with
  | error error => cases congrArg Prod.fst ran
  | ok value => exact ⟨value, rfl, ran⟩

variable (action : Stateful State Error Value)

def Atomic : Prop :=
  ∀ before error after, action before = (.error error, after) → after = before

theorem atomic_set (next : State) : Atomic (set next : Stateful State Error Unit) := by
  intro before error after ran
  cases congrArg Prod.fst ran

theorem atomic_get_bind {next : State → Stateful State Error Value}
    (continues : ∀ state, Atomic (next state)) : Atomic (get >>= next) :=
  fun before error after ran => continues before before error after ran

theorem atomic_lift_bind (continues : ∀ value, Atomic (next value)) :
    Atomic (lift outcome >>= next) := by
  intro before error after ran
  cases outcome with
  | error _ => exact (congrArg Prod.snd ran).symm
  | ok value => exact continues value before error after ran

variable {value : Value} {first : Stateful State Error Value}

theorem run_bind {before between : State} (ran : first before = (.ok value, between)) :
    (first >>= next) before = next value between := by
  change (match first before with
    | (.ok value, between) => next value between
    | (.error error, between) => (.error error, between)) = _
  rw [ran]

def Yields (value : Value) : Prop :=
  ∃ before after, action before = (.ok value, after)

theorem Yields.of_run {action : Stateful State Error Value} {before : State}
    (ran : (action before).1 = .ok value) : action.Yields value :=
  ⟨before, (action before).2, Prod.ext ran rfl⟩

theorem Yields.bind (ran : Yields (first >>= next) result) : ∃ value, first.Yields value ∧
    (next value).Yields result := by
  obtain ⟨before, after, ran⟩ := ran
  change (match first before with
    | (.ok value, between) => next value between
    | (.error error, between) => (.error error, between)) = _ at ran
  split at ran
  · next value between here => exact ⟨value, ⟨before, between, here⟩, ⟨between, after, ran⟩⟩
  · cases congrArg Prod.fst ran

theorem Yields.rest {check : Stateful State Error Unit} {rest : Unit → Stateful State Error Result}
    (ran : Yields (check >>= rest) result) : (rest ()).Yields result := by
  obtain ⟨_, _, ran⟩ := ran.bind
  exact ran

theorem Yields.pure {result : Value}
    (ran : Yields (pure value : Stateful State Error Value) result) : value = result := by
  obtain ⟨before, after, ran⟩ := ran
  cases ran
  rfl

theorem Yields.lift (ran : Yields (lift outcome : Stateful State Error Value) value) :
    outcome = .ok value := by
  obtain ⟨before, after, ran⟩ := ran
  exact congrArg Prod.fst ran

variable {step : Value → Item → Stateful State Error Value} {items : List Item}
    {start final : Value}

/-- The invariant rule for loops in the state monad. -/
theorem Yields.foldlM (Kept : Value → Prop) (ran : Yields (items.foldlM step start) final)
    (preserves : ∀ value item next, item ∈ items → Kept value → (step value item).Yields next →
      Kept next)
    (initial : Kept start) : Kept final := by
  induction items generalizing start with
  | nil =>
    rw [List.foldlM_nil] at ran
    exact ran.pure ▸ initial
  | cons item rest ih =>
    rw [List.foldlM_cons] at ran
    obtain ⟨next, here, later⟩ := ran.bind
    exact ih later (fun value item next member => preserves value item next
      (List.mem_cons_of_mem _ member))
      (preserves start item next List.mem_cons_self initial here)

/-- What one item establishes and every other step keeps holds after the loop. -/
theorem Yields.foldlM_reaches (Reached : Value → Prop) {item : Item}
    (ran : Yields (items.foldlM step start) final) (listed : item ∈ items)
    (establishes : ∀ value next, (step value item).Yields next → Reached next)
    (preserves : ∀ value other next, Reached value → (step value other).Yields next →
      Reached next) : Reached final := by
  induction items generalizing start with
  | nil => cases listed
  | cons first rest ih =>
    rw [List.foldlM_cons] at ran
    obtain ⟨next, here, later⟩ := ran.bind
    rcases List.mem_cons.mp listed with rfl | listed
    · exact later.foldlM Reached (fun value other next _ reached stepped =>
        preserves value other next reached stepped) (establishes start next here)
    · exact ih later listed

end Stateful

end ContextDb.Lib

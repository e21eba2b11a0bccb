import Mathlib.Data.List.Basic

set_option autoImplicit false

/- Guarded machines: a partial step function over explicit actions. The scheduler,
the clock and every failure are part of the action, so a run is a list of actions. -/
namespace AiPlatform.Machine

variable {State Action : Type}

/-- Executes the actions in order. A disabled action has no successor. -/
def run (step : State → Action → Option State) : State → List Action → Option State
  | state, [] => some state
  | state, action :: rest => (step state action).bind fun next => run step next rest

/-- Each action of the run meets `guard` in the state it is taken from. -/
def Meets (step : State → Action → Option State) (guard : State → Action → Prop) :
    State → List Action → Prop
  | _, [] => True
  | state, action :: rest =>
      guard state action ∧ ∀ next, step state action = some next → Meets step guard next rest

variable {step : State → Action → Option State} {guard : State → Action → Prop}

@[simp] theorem run_nil (state : State) : run step state [] = some state := rfl

theorem run_cons (state : State) (action : Action) (rest : List Action) :
    run step state (action :: rest) =
      (step state action).bind fun next => run step next rest := rfl

theorem run_cons_some {state final : State} {action : Action} {rest : List Action} :
    run step state (action :: rest) = some final ↔
      ∃ next, step state action = some next ∧ run step next rest = some final := by
  rw [run_cons, Option.bind_eq_some_iff]

theorem run_append (state : State) (first second : List Action) :
    run step state (first ++ second) =
      (run step state first).bind fun middle => run step middle second := by
  induction first generalizing state with
  | nil => rfl
  | cons action rest ih =>
      rw [List.cons_append, run_cons, run_cons]
      cases step state action with
      | none => rfl
      | some next => exact ih next

theorem run_append_some {state final : State} {first second : List Action} :
    run step state (first ++ second) = some final ↔
      ∃ middle, run step state first = some middle ∧ run step middle second = some final := by
  rw [run_append, Option.bind_eq_some_iff]

@[simp] theorem meets_nil (state : State) : Meets step guard state [] := trivial

theorem meets_append {state : State} {first second : List Action} :
    Meets step guard state (first ++ second) ↔
      Meets step guard state first ∧
        ∀ middle, run step state first = some middle → Meets step guard middle second := by
  induction first generalizing state with
  | nil => simp [Meets]
  | cons action rest ih =>
      simp only [List.cons_append, Meets, ih, run_cons_some]
      constructor
      · rintro ⟨here, later⟩
        refine ⟨⟨here, fun next stepped => (later next stepped).1⟩, ?_⟩
        rintro middle ⟨next, stepped, reached⟩
        exact (later next stepped).2 middle reached
      · rintro ⟨⟨here, later⟩, tail⟩
        exact ⟨here, fun next stepped =>
          ⟨later next stepped, fun middle reached => tail middle ⟨next, stepped, reached⟩⟩⟩

/-- A guard along a run is a statement about every split of the run. -/
theorem meets_iff {state : State} {actions : List Action} :
    Meets step guard state actions ↔
      ∀ before action after middle, actions = before ++ action :: after →
        run step state before = some middle → guard middle action := by
  induction actions generalizing state with
  | nil =>
      refine ⟨fun _ before action after middle shape _ => ?_, fun _ => trivial⟩
      simp at shape
  | cons head rest ih =>
      constructor
      · rintro ⟨here, later⟩ before action after middle shape reached
        cases before with
        | nil =>
            obtain ⟨rfl, -⟩ := List.cons.inj shape
            obtain rfl := Option.some.inj reached
            exact here
        | cons first before =>
            obtain ⟨rfl, tail⟩ := List.cons.inj shape
            obtain ⟨next, stepped, onward⟩ := run_cons_some.mp reached
            exact ih.mp (later next stepped) before action after middle tail onward
      · intro splits
        refine ⟨splits [] head rest state rfl rfl, fun next stepped => ih.mpr ?_⟩
        intro before action after middle shape reached
        exact splits (head :: before) action after middle (by rw [shape, List.cons_append])
          (run_cons_some.mpr ⟨next, stepped, reached⟩)

theorem meets_of_forall {test : Action → Prop} (state : State) {actions : List Action}
    (all : ∀ action ∈ actions, test action) :
    Meets step (fun _ action => test action) state actions := by
  induction actions generalizing state with
  | nil => trivial
  | cons action rest ih =>
      exact ⟨all action List.mem_cons_self, fun next _ =>
        ih next fun later member => all later (List.mem_cons_of_mem _ member)⟩

theorem Meets.and {other : State → Action → Prop} {state : State} {actions : List Action}
    (first : Meets step guard state actions) (second : Meets step other state actions) :
    Meets step (fun state action => guard state action ∧ other state action) state actions := by
  induction actions generalizing state with
  | nil => trivial
  | cons action rest ih =>
      exact ⟨⟨first.1, second.1⟩,
        fun next stepped => ih (first.2 next stepped) (second.2 next stepped)⟩

theorem Meets.imp {weak : State → Action → Prop} {state : State} {actions : List Action}
    (implies : ∀ state action, guard state action → weak state action)
    (met : Meets step guard state actions) : Meets step weak state actions := by
  induction actions generalizing state with
  | nil => trivial
  | cons action rest ih =>
      exact ⟨implies state action met.1, fun next stepped => ih (met.2 next stepped)⟩

instance decidableMeets [∀ state action, Decidable (guard state action)] :
    ∀ (state : State) (actions : List Action), Decidable (Meets step guard state actions)
  | _, [] => .isTrue trivial
  | state, action :: rest =>
      match stepped : step state action with
      | none => decidable_of_iff (guard state action) (by simp [Meets, stepped])
      | some next =>
          have := decidableMeets next rest
          decidable_of_iff (guard state action ∧ Meets step guard next rest)
            (by simp [Meets, stepped])

/-- Along an executed run an invariant strengthens what the guard says. -/
theorem Meets.of_invariant {weak : State → Action → Prop} {inv : State → Prop}
    (kept : ∀ state action next, inv state → guard state action →
      step state action = some next → inv next)
    (implies : ∀ state action next, inv state → guard state action →
      step state action = some next → weak state action)
    {state final : State} {actions : List Action} (start : inv state)
    (met : Meets step guard state actions) (accepted : run step state actions = some final) :
    Meets step weak state actions := by
  induction actions generalizing state with
  | nil => trivial
  | cons action rest ih =>
      obtain ⟨next, stepped, onward⟩ := run_cons_some.mp accepted
      refine ⟨implies state action next start met.1 stepped, fun other arrived => ?_⟩
      obtain rfl := Option.some.inj (stepped.symm.trans arrived)
      exact ih (kept state action next start met.1 stepped) (met.2 next stepped) onward

/-- The invariant rule: what every guarded step keeps, every guarded run keeps. -/
theorem run_invariant (inv : State → Prop)
    (kept : ∀ state action next, inv state → guard state action →
      step state action = some next → inv next)
    {state final : State} {actions : List Action} (start : inv state)
    (met : Meets step guard state actions) (reached : run step state actions = some final) :
    inv final := by
  induction actions generalizing state with
  | nil =>
      obtain rfl := Option.some.inj reached
      exact start
  | cons action rest ih =>
      obtain ⟨next, stepped, rest_reached⟩ := run_cons_some.mp reached
      exact ih (kept state action next start met.1 stepped) (met.2 next stepped) rest_reached

theorem meets_true (state : State) (actions : List Action) :
    Meets step (fun _ _ => True) state actions := by
  induction actions generalizing state with
  | nil => trivial
  | cons action rest ih => exact ⟨trivial, fun next _ => ih next⟩

/-- The invariant rule for a machine whose every step keeps the invariant. -/
theorem run_invariant_always (inv : State → Prop)
    (kept : ∀ state action next, inv state → step state action = some next → inv next)
    {state final : State} {actions : List Action} (start : inv state)
    (reached : run step state actions = some final) : inv final :=
  run_invariant inv
    (fun state action next holds _ stepped => kept state action next holds stepped)
    start (meets_true state actions) reached

/-- A log that steps only add to has good entries alone exactly when every step adds none but good
ones, as its guard says. -/
theorem run_log_iff {Entry : Type} (log : State → List Entry) (good : Entry → Prop)
    (grows : ∀ state action next, step state action = some next →
      ∃ entries, log next = log state ++ entries ∧
        ((∀ entry ∈ entries, good entry) ↔ guard state action))
    {state final : State} {actions : List Action} (reached : run step state actions = some final) :
    (∀ entry ∈ log final, good entry) ↔
      (∀ entry ∈ log state, good entry) ∧ Meets step guard state actions := by
  induction actions generalizing state with
  | nil =>
      cases reached
      exact (and_iff_left trivial).symm
  | cons action rest ih =>
      have ⟨next, stepped, onward⟩ := run_cons_some.mp reached
      have ⟨entries, grown, added⟩ := grows state action next stepped
      have later : (∀ other, step state action = some other → Meets step guard other rest) ↔
          Meets step guard next rest := by
        constructor
        · exact fun all => all next stepped
        · intro met other arrived
          rw [← Option.some.inj (stepped.symm.trans arrived)]
          exact met
      rw [ih onward, grown, List.forall_mem_append, added]
      show _ ↔ _ ∧ guard state action ∧ _
      rw [later, and_assoc]

/-- What a computation that succeeds went through. -/
theorem bind_ok {Error First Value : Type} {first : Except Error First}
    {rest : First → Except Error Value} {value : Value} :
    (first >>= rest) = .ok value ↔ ∃ middle, first = .ok middle ∧ rest middle = .ok value := by
  cases first with
  | error error =>
      constructor
      · intro done
        cases done
      · rintro ⟨middle, impossible, _⟩
        cases impossible
  | ok middle =>
      constructor
      · intro done
        exact ⟨middle, rfl, done⟩
      · rintro ⟨other, same, done⟩
        cases same
        exact done

end AiPlatform.Machine

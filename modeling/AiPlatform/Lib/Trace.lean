import Mathlib.Data.List.Basic

set_option autoImplicit false

/- Deterministic services: every input has an answer and a next state. A trace lists the inputs
with their answers. -/
namespace AiPlatform.Service

variable {State Input Answer : Type}

def trace (serve : State → Input → Answer × State) : State → List Input → List (Input × Answer)
  | _, [] => []
  | state, input :: rest =>
      (input, (serve state input).1) :: trace serve (serve state input).2 rest

/-- The guard holds of each input in the state it is served from. -/
def Along (serve : State → Input → Answer × State) (guard : State → Input → Prop) :
    State → List Input → Prop
  | _, [] => True
  | state, input :: rest => guard state input ∧ Along serve guard (serve state input).2 rest

instance decidableAlong (serve : State → Input → Answer × State) (guard : State → Input → Prop)
    [∀ state input, Decidable (guard state input)] :
    ∀ (state : State) (inputs : List Input), Decidable (Along serve guard state inputs)
  | _, [] => .isTrue trivial
  | state, input :: rest =>
      have := decidableAlong serve guard (serve state input).2 rest
      inferInstanceAs (Decidable (_ ∧ _))

section Simulation

variable {Other Reply Time View : Type} [LE Time]
variable {serve : State → Input → Answer × State} {model : Other → Input → Reply × Other}
variable {time : Input → Time} {seen : Input → Bool}
variable {related : Time → State → Other → Prop} {view : Answer → View} {viewed : Reply → View}

/-- A simulation on a clock that does not go back: the model is given the seen inputs only, and
what is seen of the answers is the same. -/
structure Simulates (serve : State → Input → Answer × State) (model : Other → Input → Reply × Other)
    (time : Input → Time) (seen : Input → Bool) (related : Time → State → Other → Prop)
    (view : Answer → View) (viewed : Reply → View) : Prop where
  later : ∀ {state other earlier now}, earlier ≤ now → related earlier state other →
    related now state other
  answered : ∀ {state other input}, seen input = true → related (time input) state other →
    view (serve state input).1 = viewed (model other input).1
  matched : ∀ {state other input}, seen input = true → related (time input) state other →
    related (time input) (serve state input).2 (model other input).2
  silent : ∀ {state other input}, seen input = false → related (time input) state other →
    related (time input) (serve state input).2 other

theorem Simulates.trace_eq (simulates : Simulates serve model time seen related view viewed)
    {inputs : List Input} {state : State} {other : Other}
    (ordered : (inputs.map time).Pairwise (· ≤ ·))
    (start : ∀ input ∈ inputs, related (time input) state other) :
    ((trace serve state inputs).filter fun entry => seen entry.1).map
        (fun entry => (entry.1, view entry.2)) =
      (trace model other (inputs.filter seen)).map fun entry => (entry.1, viewed entry.2) := by
  induction inputs generalizing state other with
  | nil => rfl
  | cons input rest ih =>
      rw [List.map_cons, List.pairwise_cons] at ordered
      have here := start input List.mem_cons_self
      have after : ∀ later ∈ rest, time input ≤ time later := fun later member =>
        ordered.1 (time later) (List.mem_map_of_mem member)
      cases visible : seen input with
      | true =>
          have next := ih ordered.2 fun later member =>
            simulates.later (after later member) (simulates.matched visible here)
          simp only [trace, List.filter_cons, visible, if_true, List.map_cons, next,
            simulates.answered visible here]
      | false =>
          have next := ih ordered.2 fun later member =>
            simulates.later (after later member) (simulates.silent visible here)
          simp [trace, visible, next]

/-- Two services whose states stay related, and whose answers to a valid input agree exactly where
the guard holds. -/
structure Compares (serve : State → Input → Answer × State) (model : Other → Input → Answer × Other)
    (time : Input → Time) (valid : Input → Prop) (related : Time → State → Other → Prop)
    (guard : State → Input → Prop) : Prop where
  later : ∀ {state other earlier now}, earlier ≤ now → related earlier state other →
    related now state other
  kept : ∀ {state other input}, valid input → related (time input) state other →
    related (time input) (serve state input).2 (model other input).2
  agrees : ∀ {state other input}, valid input → related (time input) state other →
    ((serve state input).1 = (model other input).1 ↔ guard state input)

theorem Compares.trace_eq_iff {model : Other → Input → Answer × Other} {valid : Input → Prop}
    {guard : State → Input → Prop} (compares : Compares serve model time valid related guard)
    {inputs : List Input} {state : State} {other : Other}
    (ordered : (inputs.map time).Pairwise (· ≤ ·)) (allValid : ∀ input ∈ inputs, valid input)
    (start : ∀ input ∈ inputs, related (time input) state other) :
    trace serve state inputs = trace model other inputs ↔ Along serve guard state inputs := by
  induction inputs generalizing state other with
  | nil => exact ⟨fun _ => trivial, fun _ => rfl⟩
  | cons input rest ih =>
      rw [List.map_cons, List.pairwise_cons] at ordered
      have here := start input List.mem_cons_self
      have valid := allValid input List.mem_cons_self
      have next := ih ordered.2 (fun later member => allValid later (List.mem_cons_of_mem _ member))
        fun later member => compares.later (ordered.1 (time later) (List.mem_map_of_mem member))
          (compares.kept valid here)
      simp only [trace, Along, List.cons.injEq, Prod.mk.injEq, true_and]
      rw [compares.agrees valid here, next]

end Simulation

end AiPlatform.Service

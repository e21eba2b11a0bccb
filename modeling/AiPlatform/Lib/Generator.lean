import Mathlib.Data.List.Basic

set_option autoImplicit false

/- Generators that are pulled turn by turn. A pull may need several turns before it has an
answer, and whoever pulls may do something else in between. -/
namespace AiPlatform

inductive Answer (Item Failure : Type) where
  | item (value : Item)
  | stop
  | raise (failure : Failure)
deriving DecidableEq

/-- A generator with its two ways to be abandoned: closed between two pulls, or cancelled
within one. -/
structure Generator (State Item Failure : Type) where
  turn : State → Option (Answer Item Failure) × State
  aclose : State → State
  cancel : State → State

namespace Generator

variable {State Item Failure : Type}

/-- Pulled until it ends, the generator gives these items, then stops or raises, and is left
in the last state. -/
inductive Yields (generator : Generator State Item Failure) :
    State → List Item → Option Failure → State → Prop
  | stop {state last : State} (turned : generator.turn state = (some .stop, last)) :
      Yields generator state [] none last
  | raise {state last : State} {failure : Failure}
      (turned : generator.turn state = (some (.raise failure), last)) :
      Yields generator state [] (some failure) last
  | item {state next last : State} {value : Item} {rest : List Item} {ending : Option Failure}
      (turned : generator.turn state = (some (.item value), next))
      (later : Yields generator next rest ending last) :
      Yields generator state (value :: rest) ending last
  | wait {state next last : State} {items : List Item} {ending : Option Failure}
      (turned : generator.turn state = (none, next))
      (later : Yields generator next items ending last) :
      Yields generator state items ending last

/-- What is still to come after one more turn. -/
def Resumes (generator : Generator State Item Failure) (items : List Item)
    (ending : Option Failure) (last : State) : Option (Answer Item Failure) × State → Prop
  | (none, next) => Yields generator next items ending last
  | (some (.item value), next) =>
      ∃ rest, items = value :: rest ∧ Yields generator next rest ending last
  | (some .stop, next) => items = [] ∧ ending = none ∧ next = last
  | (some (.raise failure), next) => items = [] ∧ ending = some failure ∧ next = last

/-- The generator is deterministic, so a turn takes the future one step further. -/
theorem Yields.turned {generator : Generator State Item Failure} {state last : State}
    {items : List Item} {ending : Option Failure}
    (yields : Yields generator state items ending last) :
    Resumes generator items ending last (generator.turn state) := by
  cases yields with
  | stop turned =>
      rw [turned]
      exact ⟨rfl, rfl, rfl⟩
  | raise turned =>
      rw [turned]
      exact ⟨rfl, rfl, rfl⟩
  | item turned later =>
      rw [turned]
      exact ⟨_, rfl, later⟩
  | wait turned later =>
      rw [turned]
      exact later

end Generator

end AiPlatform

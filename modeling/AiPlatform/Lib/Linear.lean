import Mathlib.Data.List.Basic
import Mathlib.Data.List.Perm.Basic

set_option autoImplicit false

/- Sequential explanations: calls with their results, replayed one after the other as atomic
operations. -/
namespace AiPlatform.Linear

variable {State Op Result : Type}

/-- A call that returned. -/
structure Event (Op Result : Type) where
  call : Nat
  op : Op
  result : Result

/-- The events in this order, each atomic, take one state to the other with these results. -/
def Replays (execute : Op → State → State × Result) :
    State → List (Event Op Result) → State → Prop
  | state, [], final => final = state
  | state, event :: rest, final =>
      (execute event.op state).2 = event.result ∧
        Replays execute (execute event.op state).1 rest final

/-- The returned calls can be put in an order that explains the state and every result. -/
def Linearizable (execute : Op → State → State × Result) (initial : State)
    (returned : List (Event Op Result)) (final : State) : Prop :=
  ∃ order : List (Event Op Result), order.Perm returned ∧ Replays execute initial order final

variable {execute : Op → State → State × Result} {initial state : State}

theorem Replays.snoc {events : List (Event Op Result)}
    (replays : Replays execute initial events state) {event : Event Op Result}
    (answered : (execute event.op state).2 = event.result) :
    Replays execute initial (events ++ [event]) (execute event.op state).1 := by
  induction events generalizing initial with
  | nil =>
      obtain rfl := replays
      exact ⟨answered, rfl⟩
  | cons first rest ih => exact ⟨replays.1, ih replays.2⟩

/-- One more call at its point of effect. -/
theorem Linearizable.extend {returned after : List (Event Op Result)}
    (linear : Linearizable execute initial returned state) (event : Event Op Result)
    (answered : (execute event.op state).2 = event.result)
    (added : after.Perm (event :: returned)) :
    Linearizable execute initial after (execute event.op state).1 := by
  obtain ⟨order, permuted, replays⟩ := linear
  refine ⟨order ++ [event], ?_, replays.snoc answered⟩
  have joined : (order ++ [event]).Perm (event :: returned) :=
    (List.perm_append_singleton event order).trans (permuted.cons event)
  exact joined.trans added.symm

end AiPlatform.Linear

import Mathlib.Algebra.Order.Field.Rat
import Mathlib.Data.List.Induction
import Mathlib.Tactic.Linarith
import AiPlatform.Core.Resilience
import AiPlatform.Lib.Machine

set_option autoImplicit false

/- `CircuitBreaker`, in any order of calls. Times are exact; `now` is the reading of the clock
inside the call. -/
namespace AiPlatform.Resilience

open Machine

inductive BreakerState where
  | closed
  | open
  | halfOpen
deriving DecidableEq, Repr

/-- `__post_init__` is the last two fields. -/
structure CircuitBreakerPolicy where
  failureThreshold : Int := 3
  cooldownSeconds : Rat := 30
  positiveThreshold : 0 < failureThreshold := by decide
  positiveCooldown : 0 < cooldownSeconds := by decide

structure CircuitBreaker where
  failureCount : Int := 0
  state : BreakerState := .closed
  openUntil : Rat := 0
  probeLeaseUntil : Option Rat := none
deriving DecidableEq

namespace CircuitBreaker

variable (policy : CircuitBreakerPolicy)

/-- The lease of a probe that is held at this time. -/
def leased (breaker : CircuitBreaker) (now : Rat) : Bool :=
  breaker.probeLeaseUntil.any fun lease => now < lease

/-- The end of `try_acquire`, once the breaker is half-open. -/
def tryProbe (breaker : CircuitBreaker) (now : Rat) : Bool × CircuitBreaker :=
  if breaker.leased now then (false, breaker)
  else (true, { breaker with probeLeaseUntil := some (now + policy.cooldownSeconds) })

def tryAcquire (breaker : CircuitBreaker) (now : Rat) : Bool × CircuitBreaker :=
  match breaker.state with
  | .closed => (true, breaker)
  | .open =>
      if now < breaker.openUntil then (false, breaker)
      else tryProbe policy { breaker with state := .halfOpen, probeLeaseUntil := none } now
  | .halfOpen => tryProbe policy breaker now

def releaseProbe (breaker : CircuitBreaker) : CircuitBreaker :=
  { breaker with probeLeaseUntil := none }

def recordSuccess (breaker : CircuitBreaker) : CircuitBreaker :=
  { breaker with failureCount := 0, state := .closed, probeLeaseUntil := none }

/-- `_open`. -/
def trip (breaker : CircuitBreaker) (now : Rat) : CircuitBreaker :=
  { breaker with
    state := .open
    openUntil := now + policy.cooldownSeconds
    probeLeaseUntil := none }

def recordFailure (breaker : CircuitBreaker) (now : Rat) (error : PyError) : CircuitBreaker :=
  if isTransientError error = false then { breaker with probeLeaseUntil := none }
  else
    match breaker.state with
    | .halfOpen => trip policy breaker now
    | .open => breaker
    | .closed =>
        let counted := { breaker with failureCount := breaker.failureCount + 1 }
        if policy.failureThreshold ≤ counted.failureCount then trip policy counted now else counted

def reset (breaker : CircuitBreaker) : CircuitBreaker := breaker.recordSuccess

end CircuitBreaker

inductive BreakerCall where
  | tryAcquire
  | recordSuccess
  | recordFailure (error : PyError)
  | releaseProbe
  | reset

/-- The breaker after a call. -/
def BreakerCall.apply (policy : CircuitBreakerPolicy) (breaker : CircuitBreaker) (now : Rat) :
    BreakerCall → CircuitBreaker
  | .tryAcquire => (breaker.tryAcquire policy now).2
  | .recordSuccess => breaker.recordSuccess
  | .recordFailure error => breaker.recordFailure policy now error
  | .releaseProbe => breaker.releaseProbe
  | .reset => breaker.reset

/-- A breaker with the time of its last call, if it has been called. -/
structure Called where
  breaker : CircuitBreaker := {}
  last : Option Rat := none

structure TimedCall where
  now : Rat
  call : BreakerCall

/-- Calls in any order on a clock that does not go back. -/
def Called.step (policy : CircuitBreakerPolicy) (state : Called)
    (action : TimedCall) : Option Called :=
  if ∀ last ∈ state.last, last ≤ action.now then
    some ⟨action.call.apply policy state.breaker action.now, some action.now⟩
  else none

/-- A call's share in the transient failures since the last success or reset. -/
def countFailure (count : Int) (action : TimedCall) : Int :=
  match action.call with
  | .recordSuccess => 0
  | .reset => 0
  | .recordFailure error => if isTransientError error then count + 1 else count
  | .tryAcquire => count
  | .releaseProbe => count

def transientFailures (calls : List TimedCall) : Int := calls.foldl countFailure 0

/-- What a breaker last called at `now` has: its deadlines are at most a cooldown away. -/
structure Bounded (policy : CircuitBreakerPolicy) (breaker : CircuitBreaker)
    (now : Rat) : Prop where
  below : breaker.state = .closed → breaker.failureCount < policy.failureThreshold
  openUntil : breaker.state = .open → breaker.openUntil ≤ now + policy.cooldownSeconds
  lease : ∀ lease ∈ breaker.probeLeaseUntil, lease ≤ now + policy.cooldownSeconds

section Calls

variable {policy : CircuitBreakerPolicy} {breaker : CircuitBreaker} {before now : Rat}

theorem init_bounded (policy : CircuitBreakerPolicy) (now : Rat) : Bounded policy {} now where
  below := fun _ => policy.positiveThreshold
  openUntil := nofun
  lease := nofun

theorem Bounded.later (bounded : Bounded policy breaker before) (order : before ≤ now) :
    Bounded policy breaker now where
  below := bounded.below
  openUntil := fun opened => by
    have bound := bounded.openUntil opened
    linarith
  lease := fun lease held => by
    have bound := bounded.lease lease held
    linarith

theorem trip_bounded (policy : CircuitBreakerPolicy) (breaker : CircuitBreaker) (now : Rat) :
    Bounded policy (breaker.trip policy now) now where
  below := nofun
  openUntil := fun _ => le_refl _
  lease := nofun

theorem tryProbe_bounded (bounded : Bounded policy breaker now) :
    Bounded policy (breaker.tryProbe policy now).2 now := by
  unfold CircuitBreaker.tryProbe
  split
  · exact bounded
  · constructor
    · exact bounded.below
    · exact bounded.openUntil
    · intro lease held
      obtain rfl := Option.some.inj held
      exact le_refl _

theorem tryAcquire_bounded (bounded : Bounded policy breaker now) :
    Bounded policy (breaker.tryAcquire policy now).2 now := by
  unfold CircuitBreaker.tryAcquire
  split
  · exact bounded
  · split
    · exact bounded
    · exact tryProbe_bounded ⟨nofun, nofun, nofun⟩
  · exact tryProbe_bounded bounded

theorem recordFailure_bounded (bounded : Bounded policy breaker now) (error : PyError) :
    Bounded policy (breaker.recordFailure policy now error) now := by
  unfold CircuitBreaker.recordFailure
  split
  · exact ⟨bounded.below, bounded.openUntil, nofun⟩
  · split
    · exact trip_bounded policy breaker now
    · exact bounded
    · dsimp only
      split
      · exact trip_bounded policy _ now
      · rename_i under
        exact ⟨fun _ => not_le.mp under, bounded.openUntil, bounded.lease⟩

theorem recordSuccess_bounded (policy : CircuitBreakerPolicy) (breaker : CircuitBreaker)
    (now : Rat) : Bounded policy breaker.recordSuccess now where
  below := fun _ => policy.positiveThreshold
  openUntil := nofun
  lease := nofun

theorem apply_bounded (bounded : Bounded policy breaker before) (order : before ≤ now)
    (call : BreakerCall) : Bounded policy (call.apply policy breaker now) now := by
  have current := bounded.later order
  cases call with
  | tryAcquire => exact tryAcquire_bounded current
  | recordSuccess => exact recordSuccess_bounded policy breaker now
  | recordFailure error => exact recordFailure_bounded current error
  | releaseProbe => exact ⟨current.below, current.openUntil, nofun⟩
  | reset => exact recordSuccess_bounded policy breaker now

/-- A cooldown after the last call the breaker admits. -/
theorem Bounded.admits (bounded : Bounded policy breaker before)
    (rested : before + policy.cooldownSeconds ≤ now) :
    (breaker.tryAcquire policy now).1 = true := by
  have free : ∀ lease ∈ breaker.probeLeaseUntil, ¬ now < lease := by
    intro lease held
    have bound := bounded.lease lease held
    linarith
  unfold CircuitBreaker.tryAcquire
  split
  · rfl
  · rename_i opened
    have bound := bounded.openUntil opened
    rw [if_neg (by linarith)]
    rfl
  · have idle : breaker.leased now = false := by
      unfold CircuitBreaker.leased
      cases held : breaker.probeLeaseUntil with
      | none => rfl
      | some lease => simpa using free lease held
    unfold CircuitBreaker.tryProbe
    rw [idle]
    rfl

/-- The one way out of `closed`. -/
theorem leaves_closed (closed : breaker.state = .closed) {call : BreakerCall}
    (left : (call.apply policy breaker now).state ≠ .closed) :
    ∃ error, call = .recordFailure error ∧ isTransientError error = true ∧
      policy.failureThreshold ≤ breaker.failureCount + 1 := by
  cases call with
  | tryAcquire =>
      simp only [BreakerCall.apply, CircuitBreaker.tryAcquire, closed] at left
      exact absurd rfl left
  | recordSuccess => exact absurd rfl left
  | recordFailure error =>
      simp only [BreakerCall.apply, CircuitBreaker.recordFailure, closed] at left
      split at left
      · exact absurd rfl left
      · rename_i transient
        split at left
        · rename_i reached
          exact ⟨error, rfl, by simpa using transient, reached⟩
        · exact absurd rfl left
  | releaseProbe => exact absurd closed left
  | reset => exact absurd rfl left

theorem tryProbe_state (policy : CircuitBreakerPolicy) (breaker : CircuitBreaker) (now : Rat) :
    (breaker.tryProbe policy now).2.state = breaker.state := by
  unfold CircuitBreaker.tryProbe
  split <;> rfl

theorem tryAcquire_closed (closed : (breaker.tryAcquire policy now).2.state = .closed) :
    breaker.state = .closed := by
  unfold CircuitBreaker.tryAcquire at closed
  split at closed
  · assumption
  · split at closed
    · exact closed
    · rw [tryProbe_state] at closed
      cases closed
  · rw [tryProbe_state] at closed
    exact closed

theorem recordFailure_closed {error : PyError}
    (closed : (breaker.recordFailure policy now error).state = .closed) :
    breaker.state = .closed := by
  unfold CircuitBreaker.recordFailure at closed
  split at closed
  · exact closed
  · split at closed
    · cases closed
    · exact closed
    · assumption

/-- In `closed` the breaker has counted what happened since the last success or reset. -/
theorem apply_counts {action : TimedCall} {count : Int}
    (counted : breaker.state = .closed → breaker.failureCount = count)
    (closed : (action.call.apply policy breaker action.now).state = .closed) :
    (action.call.apply policy breaker action.now).failureCount = countFailure count action := by
  obtain ⟨now, call⟩ := action
  cases call with
  | tryAcquire =>
      have before := tryAcquire_closed closed
      simp only [BreakerCall.apply, CircuitBreaker.tryAcquire, before, countFailure]
      exact counted before
  | recordSuccess => rfl
  | recordFailure error =>
      have before := recordFailure_closed closed
      have same := counted before
      simp only [BreakerCall.apply, CircuitBreaker.recordFailure, before, countFailure]
      cases isTransientError error with
      | false => simpa using same
      | true =>
          simp only [Bool.true_eq_false, ↓reduceIte]
          split
          · rw [← same]
            rfl
          · rw [← same]
  | releaseProbe => exact counted closed
  | reset => rfl

end Calls

section Runs

variable {policy : CircuitBreakerPolicy} {calls : List TimedCall} {state : Called}

theorem step_some {state next : Called} {action : TimedCall} :
    state.step policy action = some next ↔
      (∀ last ∈ state.last, last ≤ action.now) ∧
        next = ⟨action.call.apply policy state.breaker action.now, some action.now⟩ := by
  unfold Called.step
  split
  · rename_i ordered
    exact ⟨fun same => ⟨ordered, (Option.some.inj same).symm⟩, fun both => by rw [both.2]⟩
  · rename_i back
    exact ⟨nofun, fun both => absurd both.1 back⟩

theorem run_bounded (reached : run (Called.step policy) {} calls = some state) :
    (state.last = none → state.breaker = {}) ∧
      ∀ last ∈ state.last, Bounded policy state.breaker last := by
  refine run_invariant_always
    (fun state => (state.last = none → state.breaker = {}) ∧
      ∀ last ∈ state.last, Bounded policy state.breaker last) ?_ ⟨fun _ => rfl, by simp⟩ reached
  intro state action next holds stepped
  obtain ⟨ordered, rfl⟩ := step_some.mp stepped
  refine ⟨nofun, fun last same => ?_⟩
  obtain rfl := Option.some.inj same
  cases called : state.last with
  | none =>
      rw [holds.1 called]
      exact apply_bounded (init_bounded policy action.now) (le_refl _) action.call
  | some before => exact apply_bounded (holds.2 before called) (ordered before called) action.call

theorem run_counts (reached : run (Called.step policy) {} calls = some state)
    (closed : state.breaker.state = .closed) :
    state.breaker.failureCount = transientFailures calls := by
  induction calls using List.reverseRecOn generalizing state with
  | nil =>
      obtain rfl := Option.some.inj reached
      rfl
  | append_singleton earlier action ih =>
      obtain ⟨middle, before, last⟩ := run_append_some.mp reached
      obtain ⟨next, stepped, ended⟩ := run_cons_some.mp last
      obtain rfl := Option.some.inj ended
      obtain ⟨-, rfl⟩ := step_some.mp stepped
      rw [transientFailures, List.foldl_append]
      exact apply_counts (fun earlierClosed => ih before earlierClosed) closed

/-- The count of a closed breaker is below the threshold. -/
theorem run_below (reached : run (Called.step policy) {} calls = some state)
    (closed : state.breaker.state = .closed) :
    state.breaker.failureCount < policy.failureThreshold := by
  obtain ⟨untouched, bounded⟩ := run_bounded reached
  cases called : state.last with
  | none =>
      rw [untouched called]
      exact policy.positiveThreshold
  | some last => exact (bounded last called).below closed

end Runs

/-- The breaker opens only at the threshold and admits a call after any cooldown without calls. -/
theorem breaker_recovers {policy : CircuitBreakerPolicy} {calls : List TimedCall} {state : Called}
    (reached : run (Called.step policy) {} calls = some state) :
    (state.breaker.state = .closed → state.breaker.failureCount < policy.failureThreshold) ∧
    (∀ action next, state.breaker.state = .closed → state.step policy action = some next →
      next.breaker.state ≠ .closed →
      ∃ error, action.call = .recordFailure error ∧ isTransientError error = true ∧
        transientFailures (calls ++ [action]) = policy.failureThreshold) ∧
    ∀ now, (∀ last ∈ state.last, last + policy.cooldownSeconds ≤ now) →
      (state.breaker.tryAcquire policy now).1 = true := by
  refine ⟨run_below reached, ?_, ?_⟩
  · intro action next closed stepped left
    obtain ⟨-, rfl⟩ := step_some.mp stepped
    obtain ⟨error, shape, transient, enough⟩ := leaves_closed closed left
    refine ⟨error, shape, transient, ?_⟩
    have below := run_below reached closed
    have counted := run_counts reached closed
    have last : transientFailures (calls ++ [action]) = transientFailures calls + 1 := by
      rw [transientFailures, List.foldl_append]
      simp [countFailure, shape, transient, transientFailures]
    omega
  · intro now rested
    obtain ⟨untouched, bounded⟩ := run_bounded reached
    cases called : state.last with
    | none =>
        rw [untouched called]
        rfl
    | some last => exact (bounded last called).admits (rested last called)

def timeoutError : PyError := { mro := [⟨"builtins", "TimeoutError"⟩], text := "timed out" }

/-- Three timeouts in a row. -/
def outage : List TimedCall :=
  [⟨0, .recordFailure timeoutError⟩, ⟨1, .recordFailure timeoutError⟩,
    ⟨2, .recordFailure timeoutError⟩]

theorem outage_accepted : (run (Called.step {}) {} outage).isSome = true := by decide +kernel

theorem breaker_recovers_outage :
    ∃ state, run (Called.step {}) {} outage = some state ∧ state.breaker.state = .open ∧
      (state.breaker.tryAcquire {} 32).1 = true := by
  have reached := (Option.some_get outage_accepted).symm
  refine ⟨_, reached, by decide +kernel, (breaker_recovers reached).2.2 32 ?_⟩
  decide +kernel

end AiPlatform.Resilience

import AiPlatform.Core.Value
import Mathlib.Algebra.Order.Field.Rat

set_option autoImplicit false

namespace AiPlatform.Resilience

def transientStatusCodes : List Int := [408, 429]

def transientErrorNames : List String :=
  ["APITimeoutError", "APIConnectionError", "TimeoutException", "TransportError"]

/-- Failures that a later attempt or another provider can fix. -/
def isTransientError (error : PyError) : Bool :=
  match error.statusCode with
  | some status => status ∈ transientStatusCodes ∨ 500 ≤ status
  | none =>
      error.isinstance ⟨"builtins", "TimeoutError"⟩ ||
        error.isinstance ⟨"builtins", "ConnectionError"⟩ ||
        error.mro.any fun cls => cls.name ∈ transientErrorNames

structure RetryDecision where
  shouldRetry : Bool
  nextDelaySeconds : Option Rat := none
deriving DecidableEq

/-- Capped exponential backoff with full jitter; `__post_init__` is the last three fields. -/
structure RetryPolicy where
  maxAttempts : Int := 3
  retryStatusCodes : List Int := [408, 429, 500, 502, 503, 504]
  retryExceptions : Bool := true
  retryOn : PyError → Bool := isTransientError
  baseDelaySeconds : Rat := 1 / 2
  maxDelaySeconds : Rat := 30
  positiveAttempts : 0 < maxAttempts := by decide
  nonnegativeDelay : 0 ≤ baseDelaySeconds := by norm_num
  cappedDelay : baseDelaySeconds ≤ maxDelaySeconds := by norm_num

/-- `draw` is the reading of `rng()`. -/
def RetryPolicy.delay (policy : RetryPolicy) (attempt : Int) (retryAfter : Option Rat)
    (draw : Rat) : Rat :=
  let ceiling := min policy.maxDelaySeconds (policy.baseDelaySeconds * 2 ^ (attempt - 1))
  match retryAfter with
  | none => draw * ceiling
  | some hint => max (draw * ceiling) (min hint policy.maxDelaySeconds)

def RetryPolicy.decision (policy : RetryPolicy) (attempt : Int) (statusCode : Option Int)
    (error : Option PyError) (retryAfter : Option Rat) (draw : Rat) : RetryDecision :=
  if policy.maxAttempts ≤ attempt then ⟨false, none⟩
  else match error with
    | some error =>
        if policy.retryExceptions && policy.retryOn error then
          ⟨true, some (policy.delay attempt (retryAfter.or error.retryAfter) draw)⟩
        else ⟨false, none⟩
    | none =>
        if (statusCode.any (· ∈ policy.retryStatusCodes)) then
          ⟨true, some (policy.delay attempt retryAfter draw)⟩
        else ⟨false, none⟩

/-- A policy that retries every error gives up on the attempt count alone. -/
theorem decision_shouldRetry (policy : RetryPolicy) (exceptions : policy.retryExceptions = true)
    (always : ∀ error, policy.retryOn error = true) (attempt : Int) (error : PyError)
    (draw : Rat) :
    (policy.decision attempt none (some error) none draw).shouldRetry =
      decide (attempt < policy.maxAttempts) := by
  by_cases spent : policy.maxAttempts ≤ attempt
  · simp [RetryPolicy.decision, spent]
  · simp [RetryPolicy.decision, spent, exceptions, always, not_le.mp spent]

theorem delay_bounds (policy : RetryPolicy) (attempt : Int) (retryAfter : Option Rat) {draw : Rat}
    (low : 0 ≤ draw) (high : draw ≤ 1) : 0 ≤ policy.delay attempt retryAfter draw ∧
      policy.delay attempt retryAfter draw ≤ policy.maxDelaySeconds := by
  have base := policy.nonnegativeDelay
  have cap := policy.cappedDelay
  have backoff : 0 ≤ policy.baseDelaySeconds * 2 ^ (attempt - 1) :=
    mul_nonneg base (zpow_nonneg (by norm_num) _)
  have ceiling : 0 ≤ min policy.maxDelaySeconds (policy.baseDelaySeconds * 2 ^ (attempt - 1)) :=
    le_min (base.trans cap) backoff
  have capped := min_le_left policy.maxDelaySeconds (policy.baseDelaySeconds * 2 ^ (attempt - 1))
  have least := mul_nonneg low ceiling
  have most := mul_le_of_le_one_left ceiling high
  unfold RetryPolicy.delay
  cases retryAfter with
  | none => exact ⟨least, most.trans capped⟩
  | some hint =>
      exact ⟨least.trans (le_max_left _ _), max_le (most.trans capped) (min_le_right _ _)⟩

theorem decision_delay_bounds (policy : RetryPolicy) (attempt : Int) (statusCode : Option Int)
    (error : Option PyError) (retryAfter : Option Rat) {draw : Rat} (low : 0 ≤ draw)
    (high : draw ≤ 1) :
    0 ≤ (policy.decision attempt statusCode error retryAfter draw).nextDelaySeconds.getD 0 ∧
      (policy.decision attempt statusCode error retryAfter draw).nextDelaySeconds.getD 0 ≤
        policy.maxDelaySeconds := by
  have most := policy.nonnegativeDelay.trans policy.cappedDelay
  unfold RetryPolicy.decision
  by_cases spent : policy.maxAttempts ≤ attempt
  · rw [if_pos spent]
    exact ⟨le_refl _, most⟩
  · rw [if_neg spent]
    cases error with
    | some error =>
        dsimp only
        split
        · exact delay_bounds policy attempt _ low high
        · exact ⟨le_refl _, most⟩
    | none =>
        dsimp only
        split
        · exact delay_bounds policy attempt _ low high
        · exact ⟨le_refl _, most⟩

end AiPlatform.Resilience

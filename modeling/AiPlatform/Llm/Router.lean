import AiPlatform.Core.CircuitBreaker
import AiPlatform.Idempotency.Service
import AiPlatform.Lib.Text
import Mathlib.Data.List.Nodup

set_option autoImplicit false

/- `ModelRouter`: the ordered targets of a role, each behind a breaker of its own. -/
namespace AiPlatform.Llm

open Resilience
open Idempotency (AppError)

inductive ModelRole where
  | default
  | judge
deriving DecidableEq, Repr

/-- The `LLM_*` and `*_CHAT_MODEL` settings. `chainDeadlineText` is the deadline as
`f"{deadline_seconds:g}"` writes it. -/
structure Settings where
  chatModel : String := ""
  chatFallbackModels : String := ""
  judgeChatModel : String := ""
  environmentIsLocal : Bool := true
  chainDeadlineSeconds : Rat := 90
  chainDeadlineText : String := "90"
  breakerFailureThreshold : Int := 3
  breakerCooldownSeconds : Rat := 30
  positiveDeadline : 0 < chainDeadlineSeconds := by norm_num
  positiveThreshold : 0 < breakerFailureThreshold := by decide
  positiveCooldown : 0 < breakerCooldownSeconds := by norm_num

/-- The policy of `__init__`, when it is given none. -/
def Settings.breakerPolicy (settings : Settings) : CircuitBreakerPolicy where
  failureThreshold := settings.breakerFailureThreshold
  cooldownSeconds := settings.breakerCooldownSeconds
  positiveThreshold := settings.positiveThreshold
  positiveCooldown := settings.positiveCooldown

structure ModelRouter where
  settings : Settings
  breakerPolicy : CircuitBreakerPolicy := settings.breakerPolicy

/-- `_breakers`. A breaker that is not built yet is a fresh one. -/
abbrev Breakers := ModelRole × String → CircuitBreaker

def judgeUsesProductionModel : String :=
  "JUDGE_CHAT_MODEL is empty, so the LLM judge would grade with the " ++
    "production CHAT_MODEL; set JUDGE_CHAT_MODEL to a separate model"

namespace ModelRouter

variable (router : ModelRouter)

/-- The error is the text of a `ValueError`. -/
def primaryTarget (role : ModelRole) : Except String String :=
  match role with
  | .default => .ok router.settings.chatModel
  | .judge =>
      if router.settings.judgeChatModel ≠ "" then .ok router.settings.judgeChatModel
      else if router.settings.chatModel ≠ "" ∧ router.settings.environmentIsLocal = false then
        .error judgeUsesProductionModel
      else .ok router.settings.chatModel

/-- `eraseDups` keeps the first of equal targets, as `dict.fromkeys` does. -/
def chain (role : ModelRole) : Except String (List String) := do
  let primary ← router.primaryTarget role
  match role with
  | .default =>
      return (primary :: Text.splitStripped router.settings.chatFallbackModels ',').eraseDups
  | .judge => return [primary].eraseDups

/-- A call of the breaker under this key. -/
def call (breakers : Breakers) (key : ModelRole × String) (now : Rat) (call : BreakerCall) :
    Breakers :=
  Function.update breakers key (call.apply router.breakerPolicy (breakers key) now)

def tryAcquire (breakers : Breakers) (now : Rat) (target : String) (role : ModelRole) :
    Except String (Bool × Breakers) := do
  let targets ← router.chain role
  if targets.length = 1 then return (true, breakers)
  else
    let breaker := breakers (role, target)
    return ((breaker.tryAcquire router.breakerPolicy now).1,
      router.call breakers (role, target) now .tryAcquire)

def release (breakers : Breakers) (now : Rat) (target : String) (role : ModelRole) : Breakers :=
  router.call breakers (role, target) now .releaseProbe

def recordSuccess (breakers : Breakers) (now : Rat) (target : String) (role : ModelRole) :
    Breakers :=
  router.call breakers (role, target) now .recordSuccess

def recordError (breakers : Breakers) (now : Rat) (target : String) (error : PyError)
    (role : ModelRole) : Breakers :=
  router.call breakers (role, target) now (.recordFailure error)

end ModelRouter

theorem eraseDups_nodup (targets : List String) : targets.eraseDups.Nodup := by
  cases targets with
  | nil => exact List.nodup_nil
  | cons target rest =>
      rw [List.eraseDups_cons, List.nodup_cons]
      constructor
      · rw [List.mem_eraseDups, List.mem_filter]
        simp
      · exact eraseDups_nodup _
termination_by targets.length
decreasing_by
  have bound := List.length_filter_le (fun other => !other == target) rest
  simp only [List.length_cons]
  omega

theorem chain_nodup {router : ModelRouter} {role : ModelRole} {targets : List String}
    (built : router.chain role = .ok targets) : targets.Nodup := by
  unfold ModelRouter.chain at built
  cases chosen : router.primaryTarget role with
  | error text =>
      rw [chosen] at built
      cases built
  | ok primary =>
      rw [chosen] at built
      cases role with
      | default =>
          have same := Except.ok.inj built
          rw [← same]
          exact eraseDups_nodup _
      | judge =>
          have same := Except.ok.inj built
          rw [← same]
          exact eraseDups_nodup _

/-- A call reaches no breaker but the one it names. -/
theorem call_other (router : ModelRouter) (breakers : Breakers) {key other : ModelRole × String}
    (different : other ≠ key) (now : Rat) (call : BreakerCall) :
    router.call breakers key now call other = breakers other := by
  unfold ModelRouter.call
  exact Function.update_of_ne different _ breakers

theorem call_self (router : ModelRouter) (breakers : Breakers) (key : ModelRole × String)
    (now : Rat) (call : BreakerCall) :
    router.call breakers key now call key =
      call.apply router.breakerPolicy (breakers key) now := by
  unfold ModelRouter.call
  exact Function.update_self key _ breakers

end AiPlatform.Llm

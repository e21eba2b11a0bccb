import AiPlatform.Llm.Router

set_option autoImplicit false

/- `LLMInstance.ainvoke`: the walk along a chain under one deadline. Other calls use the same
breakers, and run while an attempt is awaited. -/
namespace AiPlatform.Llm

open Resilience
open Idempotency (AppError)

variable {Message : Type}

/-- What becomes of a call that is cancelled: it lets `CancelledError` through, raises an error of
its own instead, or answers all the same. -/
inductive Cancelled (Message : Type) where
  | propagated
  | raised (error : PyError)
  | answered (message : Message)
deriving DecidableEq

/-- How the awaited call of a target's model goes. A call that is still running as the deadline
expires is cancelled. -/
inductive Attempt (Message : Type) where
  | message (message : Message)
  | error (error : PyError)
  | stillRunning (ending : Cancelled Message)
deriving DecidableEq

/-- The `TimeoutError` of `asyncio.timeout`. -/
def expiredTimeout : PyError :=
  { mro := [⟨"builtins", "TimeoutError"⟩, ⟨"builtins", "OSError"⟩], text := "" }

/-- What leaves the `async with asyncio.timeout(remaining)` block, and `budget.expired()`. -/
def Attempt.underTimeout : Attempt Message → Except PyError Message × Bool
  | .message reply => (.ok reply, false)
  | .error failure => (.error failure, false)
  | .stillRunning .propagated => (.error expiredTimeout, true)
  | .stillRunning (.raised failure) => (.error failure, true)
  | .stillRunning (.answered reply) => (.ok reply, true)

/-- What the loop meets at a target: the readings of `loop.time()` and of the breakers' clock, the
attempt, and what other calls do to the breakers meanwhile. -/
structure Visit (Message : Type) where
  time : Rat
  acquiredAt : Rat
  attempt : Attempt Message
  meanwhile : Breakers → Breakers := id
  reportedAt : Rat

inductive Event (Message : Type) where
  | checked (target : String) (time : Rat)
  | asked (target : String) (now : Rat) (admitted : Bool)
  | attempted (target : String) (attempt : Attempt Message)
  | others (change : Breakers → Breakers)
  | reported (key : ModelRole × String) (now : Rat) (call : BreakerCall)

/-- What `ainvoke` raises: an attempt's own error, its `AppError`s, or the `ValueError` of the
router. -/
inductive Raised where
  | error (error : PyError)
  | deadlineExceeded (error : AppError) (cause : Option PyError)
  | serviceUnavailable (error : AppError)
  | valueError (text : String)

def llmDeadlineExceeded (deadlineText : String) : AppError :=
  ⟨"llm_deadline_exceeded", "LLM call exceeded its " ++ deadlineText ++ "s overall deadline", 504⟩

def llmUnavailable : AppError :=
  ⟨"llm_unavailable", "Every configured LLM target is unavailable", 503⟩

/-- How the loop body ends: it leaves the loop, or goes on with this `last_error`. -/
inductive Exit (Message : Type) where
  | leave (result : Except Raised Message)
  | next (lastError : Option PyError)

structure Pass (Message : Type) where
  exit : Exit Message
  breakers : Breakers
  events : List (Event Message)

structure Walk (Message : Type) where
  result : Except Raised Message
  breakers : Breakers
  events : List (Event Message)

section Loop

variable (router : ModelRouter) (role : ModelRole) (deadline : Rat)

/-- The loop body. -/
def pass (target : String) (visit : Visit Message) (lastError : Option PyError)
    (breakers : Breakers) : Pass Message :=
  let timedOut := llmDeadlineExceeded router.settings.chainDeadlineText
  let checked := Event.checked target visit.time
  if deadline - visit.time ≤ 0 then
    ⟨.leave (.error (.deadlineExceeded timedOut lastError)), breakers, [checked]⟩
  else
    match router.tryAcquire breakers visit.acquiredAt target role with
    | .error text => ⟨.leave (.error (.valueError text)), breakers, [checked]⟩
    | .ok (false, refused) =>
        ⟨.next lastError, refused, [checked, .asked target visit.acquiredAt false]⟩
    | .ok (true, acquired) =>
        let breakers := visit.meanwhile acquired
        let events :=
          [checked, .asked target visit.acquiredAt true, .attempted target visit.attempt,
            .others visit.meanwhile]
        match visit.attempt.underTimeout with
        | (.ok message, _) =>
            ⟨.leave (.ok message), router.recordSuccess breakers visit.reportedAt target role,
              events ++ [.reported (role, target) visit.reportedAt .recordSuccess]⟩
        | (.error error, true) =>
            ⟨.leave (.error (.deadlineExceeded timedOut (some error))),
              router.release breakers visit.reportedAt target role,
              events ++ [.reported (role, target) visit.reportedAt .releaseProbe]⟩
        | (.error error, false) =>
            let recorded := router.recordError breakers visit.reportedAt target error role
            let events :=
              events ++ [.reported (role, target) visit.reportedAt (.recordFailure error)]
            if isTransientError error = false then
              ⟨.leave (.error (.error error)), recorded, events⟩
            else ⟨.next (some error), recorded, events⟩

/-- The loop over the chain, with the two raises that follow it. -/
def walk (visits : String → Visit Message) :
    List String → Option PyError → Breakers → Walk Message
  | [], none, breakers => ⟨.error (.serviceUnavailable llmUnavailable), breakers, []⟩
  | [], some error, breakers => ⟨.error (.error error), breakers, []⟩
  | target :: rest, lastError, breakers =>
      let passed := pass router role deadline target (visits target) lastError breakers
      match passed.exit with
      | .leave result => ⟨result, passed.breakers, passed.events⟩
      | .next lastError =>
          let later := walk visits rest lastError passed.breakers
          { later with events := passed.events ++ later.events }

end Loop

/-- `start` is the first reading of `loop.time()`. -/
def ainvoke (router : ModelRouter) (role : ModelRole) (start : Rat)
    (visits : String → Visit Message) (breakers : Breakers) : Walk Message :=
  let deadline := start + router.settings.chainDeadlineSeconds
  match router.chain role with
  | .error text => ⟨.error (.valueError text), breakers, []⟩
  | .ok targets => walk router role deadline visits targets none breakers

/-- The readings of `loop.time()` before each target. -/
def checks (events : List (Event Message)) : List (String × Rat) :=
  events.filterMap fun
    | .checked target time => some (target, time)
    | _ => none

/-- The targets that were asked for admission, with the answer. -/
def gates (events : List (Event Message)) : List (String × Bool) :=
  events.filterMap fun
    | .asked target _ admitted => some (target, admitted)
    | _ => none

def attempts (events : List (Event Message)) : List (String × Attempt Message) :=
  events.filterMap fun
    | .attempted target attempt => some (target, attempt)
    | _ => none

/-- The outcomes that breakers were told, by the breaker's key. -/
def reports (events : List (Event Message)) : List ((ModelRole × String) × BreakerCall) :=
  events.filterMap fun
    | .reported key _ call => some (key, call)
    | _ => none

/-- What a breaker should hear of an attempt. -/
def Attempt.outcome : Attempt Message → BreakerCall
  | .message _ => .recordSuccess
  | .error failure => .recordFailure failure
  | .stillRunning .propagated => .releaseProbe
  | .stillRunning (.raised _) => .releaseProbe
  | .stillRunning (.answered _) => .recordSuccess

def Attempt.message? : Attempt Message → Option Message
  | .message reply => some reply
  | .error _ => none
  | .stillRunning .propagated => none
  | .stillRunning (.raised _) => none
  | .stillRunning (.answered reply) => some reply

/-- The attempt was running as the deadline expired. -/
def Attempt.isStillRunning : Attempt Message → Bool
  | .message _ => false
  | .error _ => false
  | .stillRunning _ => true

/-- It was cut by the deadline: it was running, and did not answer. -/
def Attempt.isCut : Attempt Message → Bool
  | .message _ => false
  | .error _ => false
  | .stillRunning .propagated => true
  | .stillRunning (.raised _) => true
  | .stillRunning (.answered _) => false

theorem Attempt.cut_silent {attempt : Attempt Message} (cut : attempt.isCut = true) :
    attempt.message? = none := by
  cases attempt with
  | message reply => cases cut
  | error failure => rfl
  | stillRunning ending =>
      cases ending with
      | propagated => rfl
      | raised error => rfl
      | answered reply => cases cut

/-- A cut attempt gives its admission back. -/
theorem Attempt.cut_outcome {attempt : Attempt Message} (cut : attempt.isCut = true) :
    attempt.outcome = .releaseProbe := by
  cases attempt with
  | message reply => cases cut
  | error failure => cases cut
  | stillRunning ending =>
      cases ending with
      | propagated => rfl
      | raised error => rfl
      | answered reply => cases cut

end AiPlatform.Llm

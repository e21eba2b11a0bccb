import AiPlatform.Core.Resilience
import AiPlatform.Lib.Machine
import AiPlatform.Outbox.Store

set_option autoImplicit false

/- `OutboxPublisher.publish_pending`: any number of passes over one outbox table. The store calls of
a pass are one transaction each; a pass may stop between any two of its calls. -/
namespace AiPlatform.Outbox

open Resilience

theorem default_delay : (0 : Rat) ≤ 1 / 2 := by norm_num

theorem default_cap : (1 / 2 : Rat) ≤ 30 := by norm_num

/-- A sink failure is retried until the attempts run out, whatever the error. -/
def defaultOutboxRetryPolicy : RetryPolicy :=
  { retryOn := fun _ => true
    positiveAttempts := three_pos
    nonnegativeDelay := default_delay
    cappedDelay := default_cap }

/-- Where one `publish_pending` pass stands in its loop over the claimed records. -/
inductive Phase where
  | publishing (rest : List OutboxRecord)
  | sent (record : OutboxRecord) (rest : List OutboxRecord)
  | raised (record : OutboxRecord) (error : PyError) (rest : List OutboxRecord)

/-- The records of the pass that have no outcome yet. -/
def Phase.records : Phase → List OutboxRecord
  | .publishing rest => rest
  | .sent record rest => record :: rest
  | .raised record _ rest => record :: rest

/-- The record whose outcome is to be written next. -/
def Phase.settling : Phase → Option OutboxRecord
  | .publishing _ => none
  | .sent record _ => some record
  | .raised record _ _ => some record

/-- When `mark_failed` makes the event available again; `none` gives it up. -/
def nextAttempt (policy : RetryPolicy) (now : Int) (record : OutboxRecord) (error : PyError)
    (draw : Rat) : Option Int :=
  let decision := policy.decision (record.attempts + 1) none (some error) none draw
  if decision.shouldRetry then
    some (now + timedeltaOfRat (decision.nextDelaySeconds.getD 0))
  else none

/-- A policy that retries every error gives up on the attempt count alone. -/
theorem nextAttempt_isSome {policy : RetryPolicy}
    (exceptions : policy.retryExceptions = true)
    (always : ∀ error, policy.retryOn error = true) (now : Int) (record : OutboxRecord)
    (error : PyError) (draw : Rat) :
    (nextAttempt policy now record error draw).isSome =
      decide (record.attempts + 1 < policy.maxAttempts) := by
  have decides := decision_shouldRetry policy exceptions always (record.attempts + 1) error draw
  unfold nextAttempt
  dsimp only
  rw [decides]
  by_cases more : record.attempts + 1 < policy.maxAttempts
  · simp [more]
  · simp [more]

theorem nextAttempt_none {now : Int} {record : OutboxRecord} {error : PyError} {draw : Rat} :
    nextAttempt defaultOutboxRetryPolicy now record error draw = none ↔
      defaultOutboxRetryPolicy.maxAttempts ≤ record.attempts + 1 := by
  have decided : (nextAttempt defaultOutboxRetryPolicy now record error draw).isSome =
      decide (record.attempts + 1 < defaultOutboxRetryPolicy.maxAttempts) :=
    nextAttempt_isSome rfl (fun _ => rfl) now record error draw
  rw [← Option.not_isSome_iff_eq_none, decided, decide_eq_true_eq, not_lt]

structure OutboxPublisher where
  retryPolicy : RetryPolicy := defaultOutboxRetryPolicy
  eventTypePrefix : Option String := none

namespace Relays

/-- A running pass: its publisher, the clock reading it works with and the lock it took. -/
structure Pass where
  id : Nat
  publisher : OutboxPublisher
  now : Int
  lockedUntil : Int
  phase : Phase

/-- Beside the table, histories: the ids drawn for events, the events whose `sink.publish` returned,
and each `mark_published` and `mark_failed` that was written. `selected` holds what the subqueries
of unfinished purges returned. -/
structure State where
  clock : Int
  events : OutboxTable := .empty
  passes : Table Pass.id := .empty
  enqueued : List String := []
  sent : List String := []
  published : List String := []
  failures : List String := []
  selected : List (List String) := []

inductive Call where
  | enqueue (id eventType : String) (payload metadata : Json) (availableAt : Option Int)
  | claim (pass : Nat) (publisher : OutboxPublisher) (reading limit : Int) (lockSeconds : Rat)
      (picked : List String)
  | publish (pass : Nat) (failure : Option PyError)
  | record (pass : Nat) (draw : Rat)
  | crash (pass : Nat)
  | selectPublishedBefore (before limit : Int) (picked : List String)
  | deletePublishedBefore (picked : List String)
  | rollback (picked : List String)

structure Action where
  now : Int
  call : Call

/-- `enqueue`. A uuid that was drawn before is not drawn again. -/
def enqueue (state : State) (id eventType : String) (payload metadata : Json)
    (availableAt : Option Int) : Option State :=
  if id ∈ state.enqueued then none
  else
    let event : OutboxRecord := { newOutboxRow state.clock id eventType payload with
      metadata := metadata
      availableAt := availableAt.getD state.clock }
    (state.events.insert event).map fun events =>
      { state with events := events, enqueued := id :: state.enqueued }

/-- The start of a pass. It read the clock at `reading`, before the claim. -/
def claim (state : State) (passId : Nat) (publisher : OutboxPublisher) (reading limit : Int)
    (lockSeconds : Rat) (picked : List String) : Option State :=
  if state.clock < reading then none
  else if limit ≤ 0 ∨ lockSeconds ≤ 0 then some state
  else if DueSelection reading limit publisher.eventTypePrefix state.events picked then
    let lockMicros := timedeltaOfRat lockSeconds
    let claimed := claimPending reading lockMicros picked state.events
    (state.passes.insert
      ⟨passId, publisher, reading, reading + lockMicros, .publishing claimed.1⟩).map fun passes =>
        { state with events := claimed.2, passes := passes }
  else none

def Pass.enter (passes : Table Pass.id) (passId : Nat) (phase : Phase) : Table Pass.id :=
  passes.modify passId (fun pass => { pass with phase := phase }) fun _ => rfl

/-- `sink.publish` of the next record; `failure` is what it raises, if it does. -/
def publish (state : State) (passId : Nat) (failure : Option PyError) : Option State :=
  match (state.passes.find passId).map Pass.phase with
  | some (.publishing (record :: rest)) =>
      match failure with
      | none => some { state with
          passes := Pass.enter state.passes passId (.sent record rest)
          sent := record.id :: state.sent }
      | some error => some { state with
          passes := Pass.enter state.passes passId (.raised record error rest) }
  | _ => none

/-- The store call that records the outcome. An error of the store ends the pass. -/
def record (state : State) (passId : Nat) (draw : Rat) : Option State :=
  match state.passes.find passId with
  | some ⟨_, _, now, _, .sent record rest⟩ =>
      match markPublished record.id now state.events with
      | none => some { state with passes := state.passes.remove passId }
      | some events => some { state with
          events := events
          passes := Pass.enter state.passes passId (.publishing rest)
          published := record.id :: state.published }
  | some ⟨_, publisher, now, _, .raised record error rest⟩ =>
      match markFailed record.id error.text
          (nextAttempt publisher.retryPolicy now record error draw) state.events with
      | none => some { state with passes := state.passes.remove passId }
      | some events => some { state with
          events := events
          passes := Pass.enter state.passes passId (.publishing rest)
          failures := record.id :: state.failures }
  | _ => none

/-- The subquery of `delete_published_before`; a `limit` that is not positive is a `ValueError`. -/
def selectPublishedBefore (state : State) (before limit : Int) (picked : List String) :
    Option State :=
  if limit ≤ 0 then some state
  else if OldSelection before limit state.events picked then
    some { state with selected := picked :: state.selected }
  else none

def perform (state : State) : Call → Option State
  | .enqueue id eventType payload metadata availableAt =>
      enqueue state id eventType payload metadata availableAt
  | .claim passId publisher reading limit lockSeconds picked =>
      claim state passId publisher reading limit lockSeconds picked
  | .publish passId failure => publish state passId failure
  | .record passId draw => record state passId draw
  | .crash passId => some { state with passes := state.passes.remove passId }
  | .selectPublishedBefore before limit picked => selectPublishedBefore state before limit picked
  | .deletePublishedBefore picked =>
      if picked ∈ state.selected then
        some { state with
          events := deletePublishedBefore picked state.events
          selected := state.selected.erase picked }
      else none
  -- The transaction of the purge fails, and its statement has no effect.
  | .rollback picked =>
      if picked ∈ state.selected then some { state with selected := state.selected.erase picked }
      else none

def step (state : State) (action : Action) : Option State :=
  if action.now < state.clock then none
  else perform { state with clock := action.now } action.call

end Relays

end AiPlatform.Outbox

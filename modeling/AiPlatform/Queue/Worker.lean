import AiPlatform.Lib.Machine
import AiPlatform.Queue.Memory

set_option autoImplicit false

/- `AsyncPollingWorker` over the in-memory gateway, with any number of senders. The event loop
switches tasks only where a coroutine waits: in `receive` on an empty queue, at the semaphore and
inside the handler. A handler's return and the `ack` or `nack` that answers it are one step. -/
namespace AiPlatform.Queue

def nonRetryableMessageErrorClass : PyClass :=
  ⟨"app.modules.messaging.queue.worker", "NonRetryableMessageError"⟩

/-- What `__init__` accepts, as far as deliveries depend on it. -/
structure AsyncPollingWorker where
  maxConcurrent : Int := 10
  maxAttempts : Int := 3
  receiveBatchSize : Int := 10
  positiveConcurrent : 0 < maxConcurrent := by decide
  positiveAttempts : 0 < maxAttempts := by decide

/-- The branch of `_dispatch` for an exception of the handler. -/
def AsyncPollingWorker.requeue (worker : AsyncPollingWorker) (receiveCount : Int)
    (error : PyError) : Bool :=
  !error.isinstance nonRetryableMessageErrorClass && decide (receiveCount < worker.maxAttempts)

/-- A `_dispatch` task: it waits for the semaphore, then runs the handler. -/
structure Delivery where
  message : QueueMessage
  running : Bool := false

/-- Beside the gateway and `_active`, histories: the messages sent, each receipt, each return of a
handler (`none` is success) in order, each requeue, and what `ack` removed. -/
structure State where
  gateway : InMemoryQueueGateway := {}
  active : List Delivery := []
  sent : Table QueueMessage.id := .empty
  received : List String := []
  outcomes : List (String × Option PyError) := []
  requeued : List String := []
  acknowledged : List QueueMessage := []

inductive Action where
  | send (id : String) (payload : Json)
  | tick
  | start (position : Nat)
  | finish (position : Nat) (failure : Option PyError)

/-- `send` by anyone. A uuid that was drawn before is not drawn again. -/
def send (state : State) (id : String) (payload : Json) : Option State :=
  match state.gateway.send id payload with
  | .error _ => some state
  | .ok gateway =>
      (state.sent.insert { id := id, body := payload }).map fun sent =>
        { state with gateway := gateway, sent := sent }

/-- `_tick`. While twice the allowed tasks are active, the worker sleeps. -/
def tick (worker : AsyncPollingWorker) (state : State) : State :=
  if worker.maxConcurrent * 2 ≤ state.active.length then state
  else
    let received := state.gateway.receive worker.receiveBatchSize
    { state with
      gateway := received.2
      active := state.active ++ received.1.map fun message => { message := message }
      received := state.received ++ received.1.map QueueMessage.id }

/-- A waiting delivery gets the semaphore. -/
def start (worker : AsyncPollingWorker) (state : State) (position : Nat) : Option State :=
  match state.active[position]? with
  | some delivery =>
      if delivery.running = false ∧
          (state.active.countP Delivery.running : Int) < worker.maxConcurrent then
        some { state with active := state.active.set position { delivery with running := true } }
      else none
  | none => none

/-- A handler returns or raises, and the rest of `_dispatch` runs. -/
def finish (worker : AsyncPollingWorker) (state : State) (position : Nat)
    (failure : Option PyError) : Option State :=
  match state.active[position]? with
  | some ⟨message, true⟩ =>
      let active := state.active.eraseIdx position
      let outcomes := state.outcomes ++ [(message.id, failure)]
      let stored := (state.gateway.inflight.find message.id).toList
      match failure with
      | none => some { state with
          gateway := state.gateway.ack message
          active := active
          outcomes := outcomes
          acknowledged := state.acknowledged ++ stored }
      | some error =>
          let requeue := worker.requeue message.receiveCount error
          some { state with
            gateway := state.gateway.nack message requeue
            active := active
            outcomes := outcomes
            requeued := state.requeued ++ if requeue then stored.map QueueMessage.id else [] }
  | _ => none

def step (worker : AsyncPollingWorker) (state : State) : Action → Option State
  | .send id payload => send state id payload
  | .tick => some (tick worker state)
  | .start position => start worker state position
  | .finish position failure => finish worker state position failure

end AiPlatform.Queue

import AiPlatform.Queue.Worker
import AiPlatform.Tasks.Announcements

set_option autoImplicit false

/- The pipeline with its queue: messages that wait, are in flight, are acknowledged or are dead
letters, and the workers' `process_message` on them, call by call. Workers and relays may stop
between any two calls; the queue hands out again what a lost worker had not acknowledged. -/
namespace AiPlatform.Tasks.Delivery

open Machine
open Queue (AsyncPollingWorker)

/-- How far `_dispatch` is with a message. -/
inductive Stage where
  | received
  | required
  | claimed (handler : Nat)
  | returned
  | raised (error : PyError)

inductive Place where
  | queued (receiveCount : Int)
  | inFlight (receiveCount : Int) (stage : Stage)
  | acknowledged
  | deadLettered

/-- `places` runs parallel to the pipeline's list of messages the queue accepted. -/
structure State where
  pipeline : Pipeline.State
  places : List Place

def State.init (start : Int) : State := ⟨.init start, []⟩

inductive Action where
  | dispatch (action : Pipeline.Action)
  | receive (position : Nat)
  | require (position : Nat) (failure : Option PyError)
  | claim (now : Int) (position handler : Nat) (leaseSeconds : Int) (failure : Option PyError)
  | complete (now : Int) (position : Nat) (result : Json) (failure : Option PyError)
  | fail (now : Int) (position : Nat) (error : String) (failure : Option PyError)
  | ack (position : Nat) (failure : Option PyError)
  | nack (position : Nat) (worker : AsyncPollingWorker)
  | crash (position : Nat) (receiveCount : Int)

/-- The calls of dispatchers and relays. -/
def dispatches : Pipeline.Call → Bool
  | .submit .. | .reclaim .. | .startPass .. | .publish .. | .record .. | .crash .. => true
  | .claim .. | .complete .. | .fail .. => false

def pyError : StoreError → PyError
  | .valueError message => { mro := [⟨"builtins", "ValueError"⟩], text := message }
  | .keyError taskId => { mro := [⟨"builtins", "KeyError"⟩], text := taskId }
  | .integrityError => { mro := [⟨"sqlalchemy.exc", "IntegrityError"⟩], text := "" }
  | .dataError => { mro := [⟨"sqlalchemy.exc", "DBAPIError"⟩], text := "" }
  | .decodeError => { mro := [⟨"builtins", "ValueError"⟩], text := "" }

def notFoundError (taskId : String) : PyError :=
  { mro := [⟨"app.core.errors", "NotFoundError"⟩], text := "Task " ++ taskId ++ " not found" }

def State.put (state : State) (position : Nat) (place : Place) : State :=
  { state with places := state.places.set position place }

/-- A message the queue accepts is queued, to be received for the first time. -/
def dispatch (state : State) (action : Pipeline.Action) : Option State :=
  if dispatches action.call then
    (Pipeline.step state.pipeline action).map fun pipeline =>
      ⟨pipeline, state.places ++
        List.replicate (pipeline.queue.length - state.pipeline.queue.length) (.queued 1)⟩
  else none

/-- `TaskMessage.from_body` and `service.require`; `failure` is an error of the store. -/
def requireStage (state : State) (body : Json) (failure : Option PyError) : Stage :=
  match TaskMessage.fromBody body, failure with
  | .error error, _ => .raised error
  | .ok _, some error => .raised error
  | .ok message, none =>
      if (Postgres.get message.taskId none state.pipeline.workers.tasks).isNone then
        .raised (notFoundError message.taskId)
      else .required

/-- `service.mark_processing`: a task that is not claimable is skipped. -/
def claimStage (state : State) (now : Int) (handler : Nat) (leaseSeconds : Int) (body : Json) :
    Stage :=
  match TaskMessage.fromBody body with
  | .error error => .raised error
  | .ok message =>
      match Postgres.markProcessing now message.taskId leaseSeconds (some now)
          state.pipeline.workers.tasks with
      | .error error => .raised (pyError error)
      | .ok (true, _) => .claimed handler
      | .ok (false, _) => .returned

/-- Where the report of a handler leaves its message; the report of an unknown task raises. -/
def reportStage (pipeline : Pipeline.State) (handlerId : Nat) (done : String → Stage) : Stage :=
  match pipeline.workers.handlers.find handlerId with
  | none => .raised (pyError (.keyError ""))
  | some handler =>
      if handler.reported then done handler.taskId else .raised (pyError (.keyError handler.taskId))

/-- A failed task is not retried, so its message is given up. -/
def failedStage (taskId : String) : Stage :=
  .raised (nonRetryableMessageError ("task " ++ taskId ++ " failed"))

def step (state : State) (action : Action) : Option State :=
  match action with
  | .dispatch action => dispatch state action
  | .receive position =>
      match state.places[position]? with
      | some (.queued receiveCount) =>
          some (state.put position (.inFlight receiveCount .received))
      | _ => none
  | .require position failure =>
      match state.pipeline.queue[position]?, state.places[position]? with
      | some body, some (.inFlight receiveCount .received) =>
          some (state.put position (.inFlight receiveCount (requireStage state body failure)))
      | _, _ => none
  | .claim now position handler leaseSeconds failure =>
      match state.pipeline.queue[position]?, state.places[position]?, failure with
      | some _, some (.inFlight receiveCount .required), some error =>
          some (state.put position (.inFlight receiveCount (.raised error)))
      | some body, some (.inFlight receiveCount .required), none =>
          (Pipeline.step state.pipeline ⟨now, .claim handler position leaseSeconds⟩).map
            fun pipeline => { state.put position
              (.inFlight receiveCount (claimStage state now handler leaseSeconds body)) with
                pipeline := pipeline }
      | _, _, _ => none
  | .complete now position result failure =>
      match state.places[position]?, failure with
      | some (.inFlight receiveCount (.claimed _)), some error =>
          some (state.put position (.inFlight receiveCount (.raised error)))
      | some (.inFlight receiveCount (.claimed handler)), none =>
          (Pipeline.step state.pipeline ⟨now, .complete handler result⟩).map fun pipeline =>
            { state.put position (.inFlight receiveCount
                (reportStage pipeline handler fun _ => .returned)) with pipeline := pipeline }
      | _, _ => none
  | .fail now position error failure =>
      match state.places[position]?, failure with
      | some (.inFlight receiveCount (.claimed _)), some error =>
          some (state.put position (.inFlight receiveCount (.raised error)))
      | some (.inFlight receiveCount (.claimed handler)), none =>
          (Pipeline.step state.pipeline ⟨now, .fail handler error⟩).map fun pipeline =>
            { state.put position (.inFlight receiveCount
                (reportStage pipeline handler failedStage)) with pipeline := pipeline }
      | _, _ => none
  | .ack position failure =>
      match state.places[position]?, failure with
      | some (.inFlight receiveCount .returned), some error =>
          some (state.put position (.inFlight receiveCount (.raised error)))
      | some (.inFlight _ .returned), none => some (state.put position .acknowledged)
      | _, _ => none
  | .nack position worker =>
      match state.places[position]? with
      | some (.inFlight receiveCount (.raised error)) =>
          if worker.requeue receiveCount error then
            some (state.put position (.queued (receiveCount + 1)))
          else some (state.put position .deadLettered)
      | _ => none
  | .crash position receiveCount =>
      match state.places[position]? with
      | some (.inFlight _ _) => some (state.put position (.queued receiveCount))
      | _ => none

end AiPlatform.Tasks.Delivery

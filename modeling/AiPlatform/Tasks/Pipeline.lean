import AiPlatform.Outbox.Publisher
import AiPlatform.Tasks.Message
import AiPlatform.Tasks.Workers

set_option autoImplicit false

/- Outbox dispatch: the dispatcher's transactions, any number of relay passes and any number
of workers over one tasks table, one outbox table and one queue. -/
namespace AiPlatform.Tasks.Pipeline

open Machine Outbox Resilience

def taskEventFamily : String := "task."

/-- `_task_event`; `none` is the `ValidationError` of the message. -/
def taskEvent (clock : Int) (eventId : String) (ref : TaskRef) : Option OutboxRecord :=
  (TaskMessage.make? ref.id ref.type ref.requestId).map fun message =>
    newOutboxRow clock eventId (taskEventFamily ++ ref.type) message.toBody

structure Relay where
  id : Nat
  now : Int
  phase : Phase

/-- `announced` and `sent` are histories: the event written with each move to QUEUED (newest
first), and the events whose `sink.publish` returned. -/
structure State where
  workers : Workers.State
  events : OutboxTable
  queue : List Json
  relays : Table Relay.id
  announced : List (String × String)
  sent : List String

def State.init (start : Int) : State := ⟨.init start, .empty, [], .empty, [], []⟩

inductive Call where
  | submit (task : TaskRecord) (eventId : String)
  | reclaim (limit maxAttempts : Int) (stale eventIds : List String)
  | claim (handler position : Nat) (leaseSeconds : Int)
  | complete (handler : Nat) (result : Json)
  | fail (handler : Nat) (error : String)
  | startPass (relay : Nat) (limit lockMicros : Int) (picked : List String)
  | publish (relay : Nat) (failure : Option PyError)
  | record (relay : Nat) (draw : Rat)
  | crash (relay : Nat)

structure Action where
  now : Int
  call : Call

/-- `PostgresTaskOutboxDispatcher.submit`: an error rolls the transaction back. -/
def submit (state : State) (now : Int) (task : TaskRecord) (eventId : String) : Option State :=
  match Postgres.create now task state.workers.tasks, taskEvent now eventId task.ref with
  | .ok tasks, some event =>
      (state.events.insert event).map fun events =>
        { state with
          workers := { state.workers with tasks := tasks }
          events := events
          announced := (task.id, eventId) :: state.announced }
  | _, _ => some state

/-- `PostgresTaskOutboxDispatcher.reclaim`: requeued rows and their events in one transaction. -/
def reclaim (state : State) (now limit maxAttempts : Int) (stale eventIds : List String) :
    Option State :=
  if Postgres.StaleSelection now limit state.workers.tasks stale then
    match Postgres.reclaimStaleIn now limit maxAttempts stale state.workers.tasks with
    | .error _ => some state
    | .ok (refs, tasks) =>
        if refs.length = eventIds.length then
          let events := (refs.zip eventIds).map fun pair => taskEvent now pair.2 pair.1
          if events.all Option.isSome then
            (Table.insertAll (events.filterMap id) state.events).map fun table =>
              { state with
                workers := { state.workers with tasks := tasks }
                events := table
                announced := (refs.map TaskRef.id).zip eventIds ++ state.announced }
          else some state
        else none
  else none

def Relay.enter (relays : Table Relay.id) (relayId : Nat) (phase : Phase) : Table Relay.id :=
  relays.modify relayId (fun relay => { relay with phase := phase }) fun _ => rfl

/-- `TaskQueueOutboxSink.publish` of the next claimed record; `failure` is what `queue.send`
raises, if it does. -/
def publish (state : State) (relayId : Nat) (failure : Option PyError) : Option State :=
  match (state.relays.find relayId).map Relay.phase with
  | some (.publishing (record :: rest)) =>
      match TaskMessage.fromBody record.payload, failure with
      | .ok message, none => some { state with
          queue := state.queue ++ [message.toBody]
          relays := Relay.enter state.relays relayId (.sent record rest)
          sent := record.id :: state.sent }
      | .ok _, some error => some { state with
          relays := Relay.enter state.relays relayId (.raised record error rest) }
      | .error error, _ => some { state with
          relays := Relay.enter state.relays relayId (.raised record error rest) }
  | _ => none

/-- The write after the sink call. An error of the store ends the pass. -/
def record (state : State) (relayId : Nat) (draw : Rat) : Option State :=
  match state.relays.find relayId with
  | some ⟨_, now, .sent record rest⟩ =>
      match markPublished record.id now state.events with
      | none => some { state with relays := state.relays.remove relayId }
      | some events => some { state with
          events := events
          relays := Relay.enter state.relays relayId (.publishing rest) }
  | some ⟨_, now, .raised record error rest⟩ =>
      match markFailed record.id error.text
          (nextAttempt defaultOutboxRetryPolicy now record error draw) state.events with
      | none => some { state with relays := state.relays.remove relayId }
      | some events => some { state with
          events := events
          relays := Relay.enter state.relays relayId (.publishing rest) }
  | _ => none

def startPass (state : State) (now : Int) (relayId : Nat) (limit lockMicros : Int)
    (picked : List String) : Option State :=
  if limit ≤ 0 ∨ lockMicros ≤ 0 then some state
  else if DueSelection now limit (some taskEventFamily) state.events picked then
    let claimed := claimPending now lockMicros picked state.events
    (state.relays.insert ⟨relayId, now, .publishing claimed.1⟩).map fun relays =>
      { state with events := claimed.2, relays := relays }
  else none

/-- A store call of a worker. -/
def work (state : State) (now : Int) (call : Workers.Call) : Option State :=
  (Workers.perform .postgres state.workers now call).map fun workers =>
    { state with workers := workers }

def perform (state : State) (now : Int) : Call → Option State
  | .submit task eventId => submit state now task eventId
  | .reclaim limit maxAttempts stale eventIds =>
      reclaim state now limit maxAttempts stale eventIds
  | .claim handler position leaseSeconds =>
      -- A delivery, possibly a redelivery, of a message the queue has accepted.
      match (state.queue[position]?).map TaskMessage.fromBody with
      | some (.ok message) => work state now (.markProcessing handler message.taskId leaseSeconds)
      | some (.error _) => some state
      | none => none
  | .complete handler result => work state now (.markCompleted handler result)
  | .fail handler error => work state now (.markFailed handler error)
  | .startPass relayId limit lockMicros picked =>
      startPass state now relayId limit lockMicros picked
  | .publish relayId failure => publish state relayId failure
  | .record relayId draw => record state relayId draw
  | .crash relayId => some { state with relays := state.relays.remove relayId }

def step (state : State) (action : Action) : Option State :=
  if action.now < state.workers.clock then none
  else perform { state with workers := { state.workers with clock := action.now } } action.now
    action.call

end AiPlatform.Tasks.Pipeline

import AiPlatform.Core.ApiKeys
import AiPlatform.Idempotency.Service
import AiPlatform.Tasks.StoreRedis

set_option autoImplicit false

/- `TaskService` over each task store, as its API handlers, workers and sweeps use it. -/
namespace AiPlatform.Tasks.Ownership

open Datetime Identity RedisStore Store
open Redis (serialize deserialize Encodable ttlFrom)
open Idempotency (AppError)

/-- A datetime. -/
abbrev Instant := { instant : Int // Representable instant }

/-- `str(uuid4())`. -/
structure Uuid where
  text : String
  length : text.toList.length = 36

structure TaskService where
  ttlSeconds : Int := 86400
  leaseSeconds : Int := 300
  positiveTtl : 0 < ttlSeconds := by decide
  positiveLease : 0 < leaseSeconds := by decide

/-- The keys of a Redis store, and the tasks that `_update` calls have read and will write. -/
structure RedisState where
  db : Db
  updates : List (String × TaskRecord) := []

/-- The store and, for Postgres, whether tasks are announced through the outbox. -/
inductive Backend where
  | memory
  | postgres (outbox : Bool)
  | redis (namespace_ : String)

abbrev Backend.State : Backend → Type
  | .memory => TaskTable
  | .postgres _ => TaskTable
  | .redis _ => RedisState

/-- A call of the service or of the cleanup sweep. The last two are steps of Redis calls that are
interrupted by others: one key of a reclaim pass, and the `SETEX` of an `_update`. -/
inductive Request where
  | submit (id : Uuid) (type : String) (payload : List (String × Json)) (principal : Principal)
      (requestId : Option String) (announced : Bool)
  | markProcessing (taskId : String)
  | markCompleted (taskId : String) (result : List (String × Json))
  | markFailed (taskId : String) (error : String)
  | reclaimStaleProcessing (now : Instant) (limit maxAttempts : Int) (announced : Bool)
  | deleteExpired (before : Instant) (limit : Int)
  | reclaimKey (key : String) (now : Instant) (maxAttempts : Int)
  | write (index : Nat) (remaining : Int)

/-- `chosen` is what a Postgres sub-select returned, or the `SCAN` replies. -/
structure Turn where
  clock : Instant
  request : Request
  chosen : List (List String) := []

/-- `InMemoryTaskStore.delete_expired`. -/
def memoryDelete (before limit : Int) (tasks : TaskTable) : TaskTable :=
  if limit ≤ 0 then tasks
  else
    let stale := ((tasks.rows.filter fun task => task.expiresAt ≤ before).take limit.toNat).map
      TaskRecord.id
    tasks.erase fun task => task.id ∈ stale

/-- `PostgresTaskStore.delete_expired` on the ids its sub-select returned. -/
def postgresDelete (before limit : Int) (stale : List String) (tasks : TaskTable) : TaskTable :=
  if limit ≤ 0 then tasks
  else tasks.erase fun task => task.id ∈ stale ∧ task.expiresAt ≤ before

/-- `RedisTaskStore._update` up to its `SETEX`. -/
def beginUpdate (namespace_ : String) (clock : Int) (taskId : String) (status : TaskStatus)
    (result : Option Json) (error : Option String) (state : RedisState) :
    Except StoreError RedisState :=
  let key := keyOf namespace_ taskId
  match read clock state.db key with
  | none => .error (.keyError taskId)
  | some raw =>
      match deserialize raw with
      | none => .error .decodeError
      | some task =>
          .ok { state with
            updates := state.updates ++ [(key, task.updateStatus status result error clock)] }

/-- The `SETEX` of an `_update` that read this TTL. -/
def finishUpdate (clock : Int) (index : Nat) (remaining : Int) (state : RedisState) :
    Option RedisState :=
  match state.updates[index]? with
  | none => none
  | some (key, task) => some
      { db := setex clock state.db key (ttlFrom remaining) (serialize task)
        updates := state.updates.eraseIdx index }

/-- Without other calls the two halves are `_update`. -/
theorem update_halves (namespace_ : String) (clock : Int) (taskId : String) (status : TaskStatus)
    (result : Option Json) (error : Option String) (db : Db) :
    (match beginUpdate namespace_ clock taskId status result error ⟨db, []⟩ with
      | .error error => .error error
      | .ok begun => .ok ((finishUpdate clock 0 (ttl clock db (keyOf namespace_ taskId)) begun).map
          RedisState.db)) =
      (update namespace_ clock taskId status result error db).map some := by
  unfold beginUpdate update
  dsimp only
  cases read clock db (keyOf namespace_ taskId) with
  | none => rfl
  | some raw =>
      dsimp only
      cases deserialize raw with
      | none => rfl
      | some task => rfl

section Calls

variable (service : TaskService) (backend : Backend)

/-- `store.create`, or the one transaction of `PostgresTaskOutboxDispatcher.submit`. -/
def create (clock : Int) (announced : Bool) (task : TaskRecord) :
    backend.State → Except StoreError backend.State :=
  match backend with
  | .memory => Memory.create clock task
  | .postgres outbox => fun tasks =>
      if outbox && !announced then .error .dataError else PostgresStore.create clock task tasks
  | .redis namespace_ => fun state =>
      .ok { state with db := RedisStore.create namespace_ clock task state.db }

/-- `store.get`. -/
def get (clock : Int) (taskId : String) (principalId : Option String) :
    backend.State → Except StoreError (Option TaskRecord) :=
  match backend with
  | .memory => fun tasks => .ok (Memory.get taskId principalId tasks)
  | .postgres _ => PostgresStore.get taskId principalId
  | .redis namespace_ => fun state => RedisStore.get namespace_ clock taskId principalId state.db

def memoryCall (clock : Int) (request : Request) (tasks : TaskTable) : Option TaskTable :=
  match request with
  | .markProcessing taskId =>
      some (memoryPerform clock tasks (.markProcessing taskId service.leaseSeconds clock)).2
  | .markCompleted taskId result =>
      some (memoryPerform clock tasks (.markCompleted taskId (.obj result))).2
  | .markFailed taskId error => some (memoryPerform clock tasks (.markFailed taskId error)).2
  | .reclaimStaleProcessing now limit maxAttempts _ =>
      some (memoryPerform clock tasks (.reclaim now limit maxAttempts)).2
  | .deleteExpired before limit => some (memoryDelete before limit tasks)
  | _ => none

def postgresCall (outbox : Bool) (clock : Int) (request : Request) (chosen : List (List String))
    (tasks : TaskTable) : Option TaskTable :=
  let stale := chosen.flatten
  match request with
  | .markProcessing taskId =>
      some (postgresPerform clock stale tasks
        (.markProcessing taskId service.leaseSeconds clock)).2
  | .markCompleted taskId result =>
      some (postgresPerform clock stale tasks (.markCompleted taskId (.obj result))).2
  | .markFailed taskId error =>
      some (postgresPerform clock stale tasks (.markFailed taskId error)).2
  | .reclaimStaleProcessing now limit maxAttempts announced =>
      if outbox && !announced then some tasks
      else some (postgresPerform clock stale tasks (.reclaim now limit maxAttempts)).2
  | .deleteExpired before limit => some (postgresDelete before limit stale tasks)
  | _ => none

/-- The end of a lease past the last datetime is an `OverflowError`. -/
def redisCall (namespace_ : String) (clock : Int) (request : Request) (chosen : List (List String))
    (state : RedisState) : Option RedisState :=
  match request with
  | .markProcessing taskId =>
      if Representable (clock + timedelta service.leaseSeconds) then
        some { state with
          db := (redisPerform namespace_ clock chosen state.db
            (.markProcessing taskId service.leaseSeconds clock)).2 }
      else some state
  | .markCompleted taskId result =>
      match beginUpdate namespace_ clock taskId .completed (some (.obj result)) none state with
      | .error _ => some state
      | .ok begun => some begun
  | .markFailed taskId error =>
      match beginUpdate namespace_ clock taskId .failed none (some error) state with
      | .error _ => some state
      | .ok begun => some begun
  | .reclaimStaleProcessing now limit maxAttempts _ =>
      some { state with
        db := (redisPerform namespace_ clock chosen state.db (.reclaim now limit maxAttempts)).2 }
  | .deleteExpired _ _ => some state
  | .reclaimKey key now maxAttempts =>
      match transition clock key (Redis.reclaim now maxAttempts) state.db with
      | .error _ => some state
      | .ok (_, db) => some { state with db := db }
  | .write index remaining => finishUpdate clock index remaining state
  | _ => none

/-- What a call leaves in the store, whether it returns or raises. -/
def call (clock : Int) (request : Request) (chosen : List (List String)) :
    backend.State → Option backend.State :=
  match backend with
  | .memory => memoryCall service clock request
  | .postgres outbox => postgresCall service outbox clock request chosen
  | .redis namespace_ => redisCall service namespace_ clock request chosen

/-- Who submitted which task. -/
structure Origin where
  id : String
  principalId : String
  type : String
deriving DecidableEq

def originOf (task : TaskRecord) : Origin := ⟨task.id, task.principalId, task.type⟩

structure Run where
  store : backend.State
  submitted : List Origin := []

/-- The record that `submit` creates. -/
def TaskService.newTask (service : TaskService) (now : Int) (id type : String)
    (payload : List (String × Json)) (principalId : String) (requestId : Option String) :
    TaskRecord :=
  { id := id
    type := type
    principalId := principalId
    requestId := requestId
    status := .queued
    payload := .obj payload
    expiresAt := now + timedelta service.ttlSeconds
    createdAt := some now
    updatedAt := some now }

def step (run : Run backend) (turn : Turn) : Option (Run backend) :=
  match turn.request with
  | .submit id type payload principal requestId announced =>
      -- a TTL past the last datetime is an `OverflowError`
      if ¬ Representable (turn.clock + timedelta service.ttlSeconds) then some run
      else
        let task := service.newTask turn.clock id.text type payload principal.id requestId
        match create backend turn.clock announced task run.store with
        | .error _ => some run
        | .ok store => some ⟨store, run.submitted ++ [originOf task]⟩
  | request =>
      (call service backend turn.clock request turn.chosen run.store).map fun store =>
        { run with store := store }

end Calls

inductive Refusal where
  | app (error : AppError)
  | store (error : StoreError)

def taskNotFound (taskId : String) : AppError :=
  ⟨"task_not_found", "Task " ++ taskId ++ " not found", 404⟩

def requireOwned (backend : Backend) (clock : Int) (store : backend.State)
    (taskId principalId type : String) : Except Refusal TaskRecord :=
  match get backend clock taskId (some principalId) store with
  | .error error => .error (.store error)
  | .ok none => .error (.app (taskNotFound taskId))
  | .ok (some record) =>
      if record.type ≠ type then .error (.app (taskNotFound taskId)) else .ok record

end AiPlatform.Tasks.Ownership

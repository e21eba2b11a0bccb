import AiPlatform.Core.Columns
import AiPlatform.Tasks.Postgres

set_option autoImplicit false

/- `PostgresTaskStore` with what the `tasks` columns and the statements' parameters refuse: the
statement fails then and nothing is written. -/
namespace AiPlatform.Tasks.PostgresStore

open Columns

/-- What a `String(width)` column stores of a parameter. -/
def varchar (width : Nat) (text : String) : Option String :=
  if sendable text then storedText width text else none

/-- The row that the `INSERT` stores for a task. -/
def storedRow (task : TaskRecord) : Option TaskRecord := do
  let id ← varchar 36 task.id
  let type ← varchar 64 task.type
  let principalId ← varchar 255 task.principalId
  let requestId ← task.requestId.mapM (varchar 255)
  if sendableJson task.payload ∧ task.result.all sendableJson ∧
      (∀ error ∈ task.error, sendable error) ∧ fitsInteger task.attempts then
    return { task with
      id := id
      type := type
      payload := jsonb task.payload
      result := task.result.map jsonb
      principalId := principalId
      requestId := requestId }
  else none

def create (clock : Int) (task : TaskRecord) (tasks : TaskTable) :
    Except StoreError TaskTable :=
  match storedRow task with
  | none => .error .dataError
  | some row => Postgres.create clock row tasks

def get (taskId : String) (principalId : Option String) (tasks : TaskTable) :
    Except StoreError (Option TaskRecord) :=
  if sendable taskId ∧ ∀ principal ∈ principalId, sendable principal then
    .ok (Postgres.get taskId principalId tasks)
  else .error .dataError

def markProcessing (clock : Int) (taskId : String) (leaseSeconds : Int) (now : Option Int)
    (tasks : TaskTable) : Except StoreError (Bool × TaskTable) :=
  if leaseSeconds ≤ 0 then .error (.valueError "lease_seconds must be positive")
  else if ¬ sendable taskId then .error .dataError
  -- `attempts + 1` is computed for the row that the `WHERE` keeps
  else if (tasks.find taskId).any fun task =>
      task.claimable (now.getD clock) && ¬ fitsInteger (task.attempts + 1) then .error .dataError
  else Postgres.markProcessing clock taskId leaseSeconds now tasks

def markCompleted (clock : Int) (taskId : String) (result : Json) (tasks : TaskTable) :
    Except StoreError TaskTable :=
  if sendable taskId ∧ sendableJson result then
    Postgres.markCompleted clock taskId (jsonb result) tasks
  else .error .dataError

def markFailed (clock : Int) (taskId : String) (error : String) (tasks : TaskTable) :
    Except StoreError TaskTable :=
  if sendable taskId ∧ sendable error then Postgres.markFailed clock taskId error tasks
  else .error .dataError

/-- `limit` and `max_attempts` are integer parameters; `stale` is what the sub-select returned. -/
def reclaimStaleProcessing (clock limit maxAttempts : Int) (stale : List String)
    (tasks : TaskTable) : Except StoreError (List TaskRef × TaskTable) :=
  if limit ≤ 0 then .error (.valueError "limit must be positive")
  else if ¬ (fitsInteger limit ∧ fitsInteger maxAttempts) then .error .dataError
  else Postgres.reclaimStaleIn clock limit maxAttempts stale tasks

/-- A task whose values the columns take and return as they are. -/
structure Fits (task : TaskRecord) : Prop where
  id : sendable task.id ∧ task.id.toList.length ≤ 36
  type : sendable task.type ∧ task.type.toList.length ≤ 64
  principalId : sendable task.principalId ∧ task.principalId.toList.length ≤ 255
  requestId : ∀ requestId ∈ task.requestId, sendable requestId ∧ requestId.toList.length ≤ 255
  payload : storableJson task.payload = true
  result : task.result.all storableJson = true
  error : ∀ error ∈ task.error, sendable error
  attempts : fitsInteger task.attempts

theorem varchar_fits {width : Nat} {text : String}
    (fits : sendable text ∧ text.toList.length ≤ width) : varchar width text = some text := by
  rw [varchar, if_pos fits.1, storedText_fits fits.2]

/-- The task with its documents as the columns return them. -/
def returned (task : TaskRecord) : TaskRecord :=
  { task with payload := jsonb task.payload, result := task.result.map jsonb }

/-- A row whose texts fit and whose documents are accepted is stored. -/
theorem storedRow_sendable {task : TaskRecord}
    (id : sendable task.id ∧ task.id.toList.length ≤ 36)
    (type : sendable task.type ∧ task.type.toList.length ≤ 64)
    (principalId : sendable task.principalId ∧ task.principalId.toList.length ≤ 255)
    (requestIds : ∀ requestId ∈ task.requestId,
      sendable requestId ∧ requestId.toList.length ≤ 255)
    (payload : sendableJson task.payload = true) (result : task.result.all sendableJson = true)
    (error : ∀ error ∈ task.error, sendable error) (attempts : fitsInteger task.attempts) :
    storedRow task = some (returned task) := by
  have requestId : task.requestId.mapM (varchar 255) = some task.requestId := by
    cases shape : task.requestId with
    | none => rfl
    | some requestId =>
        rw [Option.mapM_some, varchar_fits (requestIds requestId shape)]
        rfl
  have accepted := And.intro payload (And.intro result (And.intro error attempts))
  simp only [storedRow, varchar_fits id, varchar_fits type, varchar_fits principalId, requestId,
    if_pos accepted, Option.bind_eq_bind, Option.bind_some, Option.pure_def, returned]

theorem storedRow_fits {task : TaskRecord} (fits : Fits task) : storedRow task = some task := by
  obtain ⟨sent, same⟩ := jsonb_storable fits.payload
  have result : task.result.all sendableJson = true ∧ task.result.map jsonb = task.result := by
    have fitting := fits.result
    cases shape : task.result with
    | none => exact ⟨rfl, rfl⟩
    | some document =>
        rw [shape] at fitting
        obtain ⟨sentResult, sameResult⟩ := @jsonb_storable document fitting
        exact ⟨sentResult, congrArg some sameResult⟩
  rw [storedRow_sendable fits.id fits.type fits.principalId fits.requestId sent result.1 fits.error
    fits.attempts, returned, same, result.2]

end AiPlatform.Tasks.PostgresStore

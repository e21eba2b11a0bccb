import AiPlatform.Core.Value
import AiPlatform.Lib.Table

set_option autoImplicit false

namespace AiPlatform.Tasks

inductive TaskStatus where
  | queued
  | processing
  | completed
  | failed
deriving DecidableEq, Repr

structure TaskRecord where
  id : String
  type : String
  status : TaskStatus
  payload : Json
  expiresAt : Int
  attempts : Int := 0
  result : Option Json := none
  error : Option String := none
  createdAt : Option Int := none
  updatedAt : Option Int := none
  lockedUntil : Option Int := none
  principalId : String := ""
  requestId : Option String := none

def maxAttemptsExceeded : String := "max_attempts_exceeded"

/-- Just enough of a task to announce it to a worker again. -/
structure TaskRef where
  id : String
  type : String
  requestId : Option String := none
deriving DecidableEq

def TaskRecord.ref (task : TaskRecord) : TaskRef := ⟨task.id, task.type, task.requestId⟩

inductive StoreError where
  | valueError (message : String)
  | keyError (taskId : String)
  | integrityError
  | dataError
  | decodeError
deriving DecidableEq

/-- The tasks of a store: a dict keyed by id, or a table with primary key id. -/
abbrev TaskTable := Table TaskRecord.id

def TaskRecord.leaseExpired (task : TaskRecord) (now : Int) : Bool :=
  task.status = .processing && task.lockedUntil.any fun lease => lease ≤ now

def TaskRecord.claimable (task : TaskRecord) (now : Int) : Bool :=
  task.status = .queued || task.leaseExpired now

/-- A task with a recorded outcome. -/
def TaskRecord.Terminal (task : TaskRecord) : Prop :=
  task.status = .completed ∨ task.status = .failed

instance (task : TaskRecord) : Decidable task.Terminal :=
  inferInstanceAs (Decidable (_ ∨ _))

/-- The part of a record that reports how the task ended. -/
def TaskRecord.outcome (task : TaskRecord) : TaskStatus × Option Json × Option String :=
  (task.status, task.result, task.error)

/-- The claim `mark_processing` writes; `stamp` becomes `updated_at`. -/
def TaskRecord.claim (task : TaskRecord) (now : Int) (leaseSeconds : Int) (stamp : Int) :
    TaskRecord :=
  { task with
    status := .processing
    attempts := task.attempts + 1
    lockedUntil := some (now + timedelta leaseSeconds)
    updatedAt := some stamp }

/-- What reclaim does to a task whose lease expired. -/
def TaskRecord.settle (task : TaskRecord) (maxAttempts : Int) (stamp : Int) : TaskRecord :=
  if maxAttempts ≤ task.attempts then
    { task with
      lockedUntil := none
      updatedAt := some stamp
      status := .failed
      error := some maxAttemptsExceeded }
  else
    { task with
      lockedUntil := none
      updatedAt := some stamp
      status := .queued }

/-- The status write behind `mark_completed` and `mark_failed`: an absent result or error
leaves the stored one alone, and the lease is dropped. -/
def TaskRecord.updateStatus (task : TaskRecord) (status : TaskStatus) (result : Option Json)
    (error : Option String) (stamp : Int) : TaskRecord :=
  { task with
    status := status
    updatedAt := some stamp
    result := result.or task.result
    error := error.or task.error
    lockedUntil := none }

@[simp] theorem claim_id (task : TaskRecord) (now : Int) (leaseSeconds : Int) (stamp : Int) :
    (task.claim now leaseSeconds stamp).id = task.id := rfl

@[simp] theorem updateStatus_id (task : TaskRecord) (status : TaskStatus)
    (result : Option Json) (error : Option String) (stamp : Int) :
    (task.updateStatus status result error stamp).id = task.id := rfl

@[simp] theorem settle_id (task : TaskRecord) (maxAttempts : Int) (stamp : Int) :
    (task.settle maxAttempts stamp).id = task.id := by
  unfold TaskRecord.settle
  split <;> rfl

/-- The claim of `mark_processing` on the row with this id. -/
def claimTask (tasks : TaskTable) (taskId : String) (now leaseSeconds stamp : Int) : TaskTable :=
  tasks.modify taskId (fun task => task.claim now leaseSeconds stamp)
    fun task => claim_id task now leaseSeconds stamp

/-- The status write on the row with this id, whatever status it has. -/
def writeStatus (tasks : TaskTable) (taskId : String) (status : TaskStatus)
    (result : Option Json) (error : Option String) (stamp : Int) : TaskTable :=
  tasks.modify taskId (fun task => task.updateStatus status result error stamp)
    fun task => updateStatus_id task status result error stamp

theorem find_claimTask (tasks : TaskTable) (taskId other : String)
    (now leaseSeconds stamp : Int) :
    (claimTask tasks taskId now leaseSeconds stamp).find other =
      if other = taskId then (tasks.find other).map (·.claim now leaseSeconds stamp)
      else tasks.find other :=
  Table.find_modify tasks taskId other _ _

theorem find_writeStatus (tasks : TaskTable) (taskId other : String) (status : TaskStatus)
    (result : Option Json) (error : Option String) (stamp : Int) :
    (writeStatus tasks taskId status result error stamp).find other =
      if other = taskId then (tasks.find other).map (·.updateStatus status result error stamp)
      else tasks.find other :=
  Table.find_modify tasks taskId other _ _

theorem leaseExpired_iff {task : TaskRecord} {now : Int} :
    task.leaseExpired now = true ↔
      task.status = .processing ∧ ∃ lease, task.lockedUntil = some lease ∧ lease ≤ now := by
  cases held : task.lockedUntil <;> simp [TaskRecord.leaseExpired, held]

theorem TaskRecord.Terminal.not_leaseExpired {task : TaskRecord}
    (terminal : task.Terminal) (now : Int) :
    task.leaseExpired now = false := by
  rcases terminal with done | failed
  · simp [TaskRecord.leaseExpired, done]
  · simp [TaskRecord.leaseExpired, failed]

theorem TaskRecord.Terminal.not_claimable {task : TaskRecord}
    (terminal : task.Terminal) (now : Int) :
    task.claimable now = false := by
  have idle := terminal.not_leaseExpired now
  rcases terminal with done | failed
  · simp [TaskRecord.claimable, idle, done]
  · simp [TaskRecord.claimable, idle, failed]

end AiPlatform.Tasks

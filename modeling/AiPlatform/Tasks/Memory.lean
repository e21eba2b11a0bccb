import AiPlatform.Tasks.Record

set_option autoImplicit false

/- `InMemoryTaskStore`. `clock` is the reading of `datetime.now(UTC)` inside the call; the
asyncio lock makes each operation one step. -/
namespace AiPlatform.Tasks.Memory

def create (clock : Int) (task : TaskRecord) (tasks : TaskTable) :
    Except StoreError TaskTable :=
  let stamped := { task with createdAt := task.createdAt.or (some clock), updatedAt := some clock }
  match tasks.insert stamped with
  | none => .error (.valueError ("task " ++ task.id ++ " already exists"))
  | some next => .ok next

def get (taskId : String) (principalId : Option String) (tasks : TaskTable) :
    Option TaskRecord :=
  (tasks.find taskId).filter fun task => principalId.all (task.principalId = ·)

def markProcessing (clock : Int) (taskId : String) (leaseSeconds : Int) (now : Option Int)
    (tasks : TaskTable) : Except StoreError (Bool × TaskTable) :=
  if leaseSeconds ≤ 0 then .error (.valueError "lease_seconds must be positive")
  else
    let now := now.getD clock
    match tasks.find taskId with
    | none => .error (.keyError taskId)
    | some task =>
        if task.claimable now then
          .ok (true, claimTask tasks taskId now leaseSeconds now)
        else .ok (false, tasks)

def updateStatus (clock : Int) (taskId : String) (status : TaskStatus) (result : Option Json)
    (error : Option String) (tasks : TaskTable) : Except StoreError TaskTable :=
  match tasks.find taskId with
  | none => .error (.keyError taskId)
  | some _ =>
      .ok (writeStatus tasks taskId status result error clock)

def markCompleted (clock : Int) (taskId : String) (result : Json) (tasks : TaskTable) :
    Except StoreError TaskTable :=
  updateStatus clock taskId .completed (some result) none tasks

def markFailed (clock : Int) (taskId : String) (error : String) (tasks : TaskTable) :
    Except StoreError TaskTable :=
  updateStatus clock taskId .failed none (some error) tasks

/-- The loop of `reclaim_stale_processing`: the rewritten tasks and the requeued ones. -/
def reclaimLoop (now : Int) (limit maxAttempts : Int) :
    Int → List TaskRecord → List TaskRecord × List TaskRef
  | _, [] => ([], [])
  | settled, task :: rest =>
      if limit ≤ settled then (task :: rest, [])
      else if task.leaseExpired now then
        let later := reclaimLoop now limit maxAttempts (settled + 1) rest
        (task.settle maxAttempts now :: later.1,
          if maxAttempts ≤ task.attempts then later.2 else task.ref :: later.2)
      else
        let later := reclaimLoop now limit maxAttempts settled rest
        (task :: later.1, later.2)

theorem reclaimLoop_ids (now : Int) (limit maxAttempts settled : Int)
    (tasks : List TaskRecord) :
    (reclaimLoop now limit maxAttempts settled tasks).1.map TaskRecord.id =
      tasks.map TaskRecord.id := by
  induction tasks generalizing settled with
  | nil => rfl
  | cons task rest ih =>
      unfold reclaimLoop
      split
      · rfl
      · split <;> simp [ih]

def reclaimStaleProcessing (now : Int) (limit maxAttempts : Int) (tasks : TaskTable) :
    Except StoreError (List TaskRef × TaskTable) :=
  if limit ≤ 0 then .error (.valueError "limit must be positive")
  else
    .ok ((reclaimLoop now limit maxAttempts 0 tasks.rows).2,
      { rows := (reclaimLoop now limit maxAttempts 0 tasks.rows).1
        unique := by
          rw [reclaimLoop_ids]
          exact tasks.unique })

/-- Each task either stays or, its lease expired, is settled. -/
theorem reclaimLoop_find (now : Int) (limit maxAttempts settled : Int)
    (tasks : List TaskRecord) (taskId : String) :
    let found := tasks.find? fun task => decide (task.id = taskId)
    let after := (reclaimLoop now limit maxAttempts settled tasks).1.find?
      fun task => decide (task.id = taskId)
    after = found ∨ ∃ task, found = some task ∧ task.leaseExpired now = true ∧
      after = some (task.settle maxAttempts now) := by
  induction tasks generalizing settled with
  | nil => exact .inl rfl
  | cons task rest ih =>
      unfold reclaimLoop
      split
      · exact .inl rfl
      · split
        · rename_i expired
          by_cases here : task.id = taskId
          · exact .inr ⟨task, by simp [here], expired, by simp [here]⟩
          · simpa [here] using ih (settled + 1)
        · by_cases here : task.id = taskId
          · exact .inl (by simp [here])
          · simpa [here] using ih settled

end AiPlatform.Tasks.Memory

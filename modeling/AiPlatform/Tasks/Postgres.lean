import AiPlatform.Tasks.Record

set_option autoImplicit false

/- `PostgresTaskStore`, one transaction an operation. `clock` is the reading of `utcnow` that
the `created_at` and `updated_at` column defaults take. Payloads and results are given as their
`jsonb` columns keep them. -/
namespace AiPlatform.Tasks.Postgres

/-- `new_task_row`: the timestamps are left to the column defaults. -/
def newTaskRow (clock : Int) (task : TaskRecord) : TaskRecord :=
  { task with createdAt := some clock, updatedAt := some clock }

def create (clock : Int) (task : TaskRecord) (tasks : TaskTable) :
    Except StoreError TaskTable :=
  match tasks.insert (newTaskRow clock task) with
  | none => .error .integrityError
  | some next => .ok next

def get (taskId : String) (principalId : Option String) (tasks : TaskTable) :
    Option TaskRecord :=
  (tasks.find taskId).filter fun task => principalId.all (task.principalId = ·)

def markProcessing (clock : Int) (taskId : String) (leaseSeconds : Int) (now : Option Int)
    (tasks : TaskTable) : Except StoreError (Bool × TaskTable) :=
  if leaseSeconds ≤ 0 then .error (.valueError "lease_seconds must be positive")
  else
    let now := now.getD clock
    let claimed := tasks.map
      (fun task =>
        if task.id = taskId ∧ task.claimable now then task.claim now leaseSeconds clock else task)
      fun task => by split <;> rfl
    if (tasks.find taskId).any fun task => task.claimable now then .ok (true, claimed)
    else if (tasks.find taskId).isNone then .error (.keyError taskId)
    else .ok (false, tasks)

def update (clock : Int) (taskId : String) (status : TaskStatus) (result : Option Json)
    (error : Option String) (tasks : TaskTable) : Except StoreError TaskTable :=
  if (tasks.find taskId).isNone then .error (.keyError taskId)
  else
    .ok (writeStatus tasks taskId status result error clock)

def markCompleted (clock : Int) (taskId : String) (result : Json) (tasks : TaskTable) :
    Except StoreError TaskTable :=
  update clock taskId .completed (some result) none tasks

def markFailed (clock : Int) (taskId : String) (error : String) (tasks : TaskTable) :
    Except StoreError TaskTable :=
  update clock taskId .failed none (some error) tasks

/-- What the bounded sub-select may return: expired leases, oldest first. `ORDER BY
locked_until` leaves ties open, so a selection is checked rather than computed. -/
def StaleSelection (now : Int) (limit : Int) (tasks : TaskTable) (stale : List String) : Prop :=
  let expired := tasks.rows.filter (·.leaseExpired now)
  stale.Nodup ∧ stale.length = min limit.toNat expired.length ∧
    (∀ taskId ∈ stale, taskId ∈ expired.map TaskRecord.id) ∧
    ∀ picked ∈ expired, picked.id ∈ stale → ∀ other ∈ expired, other.id ∉ stale →
      picked.lockedUntil.getD 0 ≤ other.lockedUntil.getD 0

instance (now : Int) (limit : Int) (tasks : TaskTable) (stale : List String) :
    Decidable (StaleSelection now limit tasks stale) :=
  inferInstanceAs (Decidable (_ ∧ _))

/-- `reclaim_stale_in` on the rows its sub-select returned. -/
def reclaimStaleIn (clock : Int) (limit maxAttempts : Int) (stale : List String)
    (tasks : TaskTable) : Except StoreError (List TaskRef × TaskTable) :=
  if limit ≤ 0 then .error (.valueError "limit must be positive")
  else
    .ok (((tasks.rows.filter fun task => task.id ∈ stale ∧ task.attempts < maxAttempts).map
        TaskRecord.ref),
      tasks.map (fun task => if task.id ∈ stale then task.settle maxAttempts clock else task)
        fun task => by split <;> simp)

theorem markProcessing_claimed {clock now : Int} {taskId : String} {leaseSeconds : Int}
    {tasks : TaskTable} {task : TaskRecord} (positive : 0 < leaseSeconds)
    (found : tasks.find taskId = some task) (free : task.claimable now = true) :
    markProcessing clock taskId leaseSeconds (some now) tasks =
      .ok (true, claimTask tasks taskId now leaseSeconds clock) := by
  obtain ⟨member, rfl⟩ := Table.find_some.mp found
  have same : ∀ row ∈ tasks.rows,
      (if row.id = task.id ∧ row.claimable now = true then row.claim now leaseSeconds clock
        else row) =
      if row.id = task.id then row.claim now leaseSeconds clock else row := by
    intro row inside
    by_cases here : row.id = task.id
    · rw [Table.eq_of_key inside member here]
      simp [free]
    · simp [here]
  have open_ : ¬ leaseSeconds ≤ 0 := by omega
  simp only [markProcessing, open_, ↓reduceIte, Option.getD_some, found, Option.any_some, free]
  congr 2
  exact Table.ext (List.map_congr_left same)

theorem reclaimStaleIn_find (clock : Int) (maxAttempts : Int) (stale : List String)
    (tasks : TaskTable) (taskId : String) :
    (tasks.map (fun task => if task.id ∈ stale then task.settle maxAttempts clock else task)
        fun task => by split <;> simp).find taskId =
      if taskId ∈ stale then (tasks.find taskId).map (·.settle maxAttempts clock)
      else tasks.find taskId := by
  rw [Table.find_map]
  cases found : tasks.find taskId with
  | none => simp
  | some task =>
      obtain ⟨-, rfl⟩ := Table.find_some.mp found
      by_cases picked : task.id ∈ stale <;> simp [picked]

end AiPlatform.Tasks.Postgres

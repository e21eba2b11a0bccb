import AiPlatform.Tasks.Memory
import AiPlatform.Tasks.PostgresStore
import AiPlatform.Tasks.StoreEffect

set_option autoImplicit false

/- `InMemoryTaskStore` and `PostgresTaskStore` have the effect of a task store. -/
namespace AiPlatform.Tasks.Store

/-- The answer and the store after a call; one that raises leaves the store as it was. -/
def answered {Kept Result : Type} (kept : Kept) (answer : Result → Answer) :
    Except StoreError (Result × Kept) → Answer × Kept
  | .error error => (.raised error, kept)
  | .ok (result, next) => (answer result, next)

def written {Kept : Type} (kept : Kept) : Except StoreError Kept → Answer × Kept
  | .error error => (.raised error, kept)
  | .ok next => (.done, next)

def memoryPerform (clock : Int) (tasks : TaskTable) : Operation → Answer × TaskTable
  | .create task => written tasks (Memory.create clock task tasks)
  | .get taskId principalId => (.found (Memory.get taskId principalId tasks), tasks)
  | .markProcessing taskId leaseSeconds now =>
      answered tasks .claimed (Memory.markProcessing clock taskId leaseSeconds (some now) tasks)
  | .markCompleted taskId result => written tasks (Memory.markCompleted clock taskId result tasks)
  | .markFailed taskId error => written tasks (Memory.markFailed clock taskId error tasks)
  | .reclaim now limit maxAttempts =>
      answered tasks .reclaimed (Memory.reclaimStaleProcessing now limit maxAttempts tasks)

def postgresPerform (clock : Int) (stale : List String) (tasks : TaskTable) :
    Operation → Answer × TaskTable
  | .create task => written tasks (PostgresStore.create clock task tasks)
  | .get taskId principalId =>
      match PostgresStore.get taskId principalId tasks with
      | .error error => (.raised error, tasks)
      | .ok task => (.found task, tasks)
  | .markProcessing taskId leaseSeconds now =>
      answered tasks .claimed
        (PostgresStore.markProcessing clock taskId leaseSeconds (some now) tasks)
  | .markCompleted taskId result =>
      written tasks (PostgresStore.markCompleted clock taskId result tasks)
  | .markFailed taskId error => written tasks (PostgresStore.markFailed clock taskId error tasks)
  | .reclaim _ limit maxAttempts =>
      answered tasks .reclaimed
        (PostgresStore.reclaimStaleProcessing clock limit maxAttempts stale tasks)

/-- The answer and the table that an operation may leave. -/
def Does (operation : Operation) (tasks : TaskTable) (outcome : Answer × TaskTable) : Prop :=
  Effect operation tasks.rows outcome.1 outcome.2.rows

theorem content_rows (tasks : TaskTable) (taskId : String) :
    content tasks.rows taskId = (tasks.find taskId).map timeless := rfl

theorem write_timeless (content : Content) {left right : TaskRecord}
    (same : timeless left = timeless right) : content.write left = content.write right := by
  have ids : left.id = right.id := by
    rw [← timeless_id left, same, timeless_id]
  unfold Content.write
  rw [same, ids]

/-- A store that assigns one row writes its content. -/
theorem content_write {tasks next : TaskTable} {row : TaskRecord}
    (finds : ∀ taskId, next.find taskId = if taskId = row.id then some row else tasks.find taskId) :
    content next.rows = (content tasks.rows).write row := by
  funext taskId
  rw [content_rows, finds, Content.write, content_rows]
  split <;> rfl

theorem content_modify {tasks next : TaskTable} {taskId : String} {task : TaskRecord}
    {change : TaskRecord → TaskRecord} (found : tasks.find taskId = some task)
    (keeps : (change task).id = task.id)
    (finds : ∀ other, next.find other =
      if other = taskId then (tasks.find other).map change else tasks.find other) :
    content next.rows = (content tasks.rows).write (change task) := by
  have here : task.id = taskId := (Table.find_some.mp found).2
  apply content_write
  intro other
  rw [finds, keeps, here]
  split
  · rename_i same
    rw [same, found, Option.map_some]
  · rfl

theorem insert_ne_none {tasks : TaskTable} {task row : TaskRecord}
    (fresh : tasks.find task.id = none) (same : row.id = task.id) : tasks.insert row ≠ none := by
  intro refused
  rw [Table.insert_none, same] at refused
  exact refused fresh

section Performs

/- The effect of each operation on a table, from what the store does with it. -/

variable {tasks next : TaskTable} {answer : Answer} {taskId : String}

theorem effect_exact {operation : Operation}
    (other : ∀ now limit maxAttempts, operation = .reclaim now limit maxAttempts → limit ≤ 0)
    (performs : (content tasks.rows).perform operation = (answer, content next.rows)) :
    Effect operation tasks.rows answer next.rows := by
  refine .performs other ?_ ?_
  · rw [performs]
    exact Answer.Agrees.refl answer
  · rw [performs]

theorem effect_create {task row : TaskRecord} (same : timeless row = timeless task)
    (inserted : tasks.insert row = some next) :
    Effect (.create task) tasks.rows .done next.rows := by
  refine .performs (fun _ _ _ shape => nomatch shape) trivial ?_
  rw [content_write fun other => Table.find_insert inserted other]
  exact write_timeless _ same

theorem effect_get (tasks : TaskTable) (taskId : String) (principalId : Option String) :
    Effect (.get taskId principalId) tasks.rows
      (.found ((tasks.find taskId).filter fun task => principalId.all (task.principalId = ·)))
      tasks.rows := by
  refine .performs (fun _ _ _ shape => nomatch shape) ?_ rfl
  show Option.map timeless _ = Option.map timeless _
  rw [content_rows]
  cases tasks.find taskId with
  | none => rfl
  | some task =>
      cases principalId with
      | none => rfl
      | some principal =>
          by_cases mine : task.principalId = principal
          · simp [Option.filter_some, mine]
          · simp [Option.filter_some, mine]

theorem effect_refused {leaseSeconds now : Int} (refused : leaseSeconds ≤ 0) :
    Effect (.markProcessing taskId leaseSeconds now) tasks.rows
      (.raised (.valueError "lease_seconds must be positive")) tasks.rows := by
  refine effect_exact (fun _ _ _ shape => nomatch shape) ?_
  simp only [Content.perform, refused, ↓reduceIte]

theorem effect_unknown {leaseSeconds now : Int} (positive : ¬ leaseSeconds ≤ 0)
    (missing : tasks.find taskId = none) :
    Effect (.markProcessing taskId leaseSeconds now) tasks.rows (.raised (.keyError taskId))
      tasks.rows := by
  refine effect_exact (fun _ _ _ shape => nomatch shape) ?_
  simp only [Content.perform, positive, ↓reduceIte, content_rows, missing, Option.map_none]

theorem effect_busy {leaseSeconds now : Int} {task : TaskRecord} (positive : ¬ leaseSeconds ≤ 0)
    (found : tasks.find taskId = some task) (busy : ¬ task.claimable now = true) :
    Effect (.markProcessing taskId leaseSeconds now) tasks.rows (.claimed false) tasks.rows := by
  refine effect_exact (fun _ _ _ shape => nomatch shape) ?_
  simp only [Content.perform, positive, ↓reduceIte, content_rows, found, Option.map_some,
    timeless_claimable, busy, Bool.false_eq_true]

theorem effect_claimed {leaseSeconds now : Int} {task row : TaskRecord}
    (positive : ¬ leaseSeconds ≤ 0) (found : tasks.find taskId = some task)
    (free : task.claimable now = true)
    (same : timeless row = timeless (task.claim now leaseSeconds 0))
    (leaves : content next.rows = (content tasks.rows).write row) :
    Effect (.markProcessing taskId leaseSeconds now) tasks.rows (.claimed true) next.rows := by
  refine effect_exact (fun _ _ _ shape => nomatch shape) ?_
  simp only [Content.perform, positive, ↓reduceIte, content_rows, found, Option.map_some,
    timeless_claimable, free]
  rw [leaves, write_timeless _ same]
  rfl

theorem finish_missing {status : TaskStatus} {result : Option Json} {error : Option String}
    (missing : tasks.find taskId = none) :
    (content tasks.rows).finish taskId status result error =
      (.raised (.keyError taskId), content tasks.rows) := by
  simp only [Content.finish, content_rows, missing, Option.map_none]

theorem finish_found {status : TaskStatus} {result : Option Json} {error : Option String}
    {task row : TaskRecord} (found : tasks.find taskId = some task)
    (same : timeless row = timeless (task.updateStatus status result error 0))
    (leaves : content next.rows = (content tasks.rows).write row) :
    (content tasks.rows).finish taskId status result error = (.done, content next.rows) := by
  simp only [Content.finish, content_rows, found, Option.map_some]
  rw [leaves, write_timeless _ same]
  rfl

end Performs

/-- A pass that rewrites the picked rows settles these. -/
theorem settles_map (stamp : Int) {now maxAttempts : Int}
    {tasks next : TaskTable} {refs : List TaskRef}
    {picked : List String} (distinct : picked.Nodup)
    (within : ∀ taskId ∈ picked, taskId ∈ (expired now tasks.rows).map TaskRecord.id)
    (finds : ∀ taskId, next.find taskId =
      if taskId ∈ picked then (tasks.find taskId).map (·.settle maxAttempts stamp)
      else tasks.find taskId)
    (announced : ∀ ref, ref ∈ refs ↔
      ∃ task ∈ tasks.rows, task.id ∈ picked ∧ task.attempts < maxAttempts ∧ task.ref = ref) :
    Settles now maxAttempts tasks.rows next.rows refs picked where
  distinct := distinct
  within := within
  leaves := by
    intro taskId
    rw [content_rows, finds, content_rows]
    split
    · rw [Option.map_map, Option.map_map]
      congr 1
      funext task
      exact (timeless_settle task maxAttempts 0 stamp).symm
    · rfl
  refs := announced

section Memory

theorem memory_create (clock : Int) (tasks : TaskTable) (task : TaskRecord)
    (fresh : tasks.find task.id = none) :
    Does (.create task) tasks (written tasks (Memory.create clock task tasks)) := by
  unfold Memory.create
  dsimp only
  split
  · rename_i refused
    exact absurd refused (insert_ne_none fresh rfl)
  · rename_i next inserted
    refine effect_create ?_ inserted
    rfl

theorem memory_markProcessing (clock : Int) (tasks : TaskTable) (taskId : String)
    (leaseSeconds now : Int) :
    Does (.markProcessing taskId leaseSeconds now) tasks
      (answered tasks .claimed
        (Memory.markProcessing clock taskId leaseSeconds (some now) tasks)) := by
  unfold Memory.markProcessing
  by_cases refused : leaseSeconds ≤ 0
  · rw [if_pos refused]
    exact effect_refused refused
  · rw [if_neg refused, Option.getD_some]
    cases found : tasks.find taskId with
    | none => exact effect_unknown refused found
    | some task =>
        by_cases free : task.claimable now = true
        · simp only [free, ↓reduceIte, answered]
          refine effect_claimed refused found free (timeless_claim task now leaseSeconds now) ?_
          exact content_modify found rfl fun other =>
            find_claimTask tasks taskId other now leaseSeconds now
        · simp only [free, ↓reduceIte, answered, Bool.false_eq_true]
          exact effect_busy refused found free

theorem memory_finish (clock : Int) (tasks : TaskTable) (taskId : String) (status : TaskStatus)
    (result : Option Json) (error : Option String) :
    (content tasks.rows).finish taskId status result error =
      ((written tasks (Memory.updateStatus clock taskId status result error tasks)).1,
        content (written tasks
          (Memory.updateStatus clock taskId status result error tasks)).2.rows) := by
  unfold Memory.updateStatus
  cases found : tasks.find taskId with
  | none => exact finish_missing found
  | some task =>
      refine finish_found found (timeless_updateStatus task status result error clock) ?_
      exact content_modify found rfl fun other =>
        find_writeStatus tasks taskId other status result error clock

/-- The ids the loop settles when it may still settle `room` tasks. -/
def firstExpired (now : Int) (room : Nat) (tasks : List TaskRecord) : List String :=
  ((expired now tasks).take room).map TaskRecord.id

theorem firstExpired_within (now : Int) (room : Nat) (tasks : List TaskRecord) :
    (firstExpired now room tasks).Sublist ((expired now tasks).map TaskRecord.id) :=
  (List.take_sublist room _).map TaskRecord.id

theorem firstExpired_ids {now : Int} {room : Nat} {tasks : List TaskRecord} {taskId : String}
    (chosen : taskId ∈ firstExpired now room tasks) : taskId ∈ tasks.map TaskRecord.id :=
  (List.filter_sublist.map TaskRecord.id).subset
    ((firstExpired_within now room tasks).subset chosen)

theorem firstExpired_over {now : Int} {room : Nat} {task : TaskRecord} {rest : List TaskRecord}
    (lapsed : task.leaseExpired now = true) :
    firstExpired now (room + 1) (task :: rest) = task.id :: firstExpired now room rest := by
  simp [firstExpired, expired, lapsed]

theorem firstExpired_kept {now : Int} {room : Nat} {task : TaskRecord} {rest : List TaskRecord}
    (kept : ¬ task.leaseExpired now = true) :
    firstExpired now room (task :: rest) = firstExpired now room rest := by
  simp [firstExpired, expired, kept]

theorem reclaimLoop_tasks {now limit maxAttempts : Int} {tasks : List TaskRecord}
    (unique : (tasks.map TaskRecord.id).Nodup) (settled : Int) :
    (Memory.reclaimLoop now limit maxAttempts settled tasks).1 =
      tasks.map fun task =>
        if task.id ∈ firstExpired now (limit - settled).toNat tasks then task.settle maxAttempts now
        else task := by
  induction tasks generalizing settled with
  | nil => rfl
  | cons task rest ih =>
      have fresh : task.id ∉ rest.map TaskRecord.id := (List.nodup_cons.mp unique).1
      have apart : ∀ other ∈ rest, other.id ≠ task.id := fun other member same =>
        fresh (List.mem_map.mpr ⟨other, member, same⟩)
      have tail := ih (List.nodup_cons.mp unique).2
      by_cases full : limit ≤ settled
      · have room : (limit - settled).toNat = 0 := by omega
        simp [Memory.reclaimLoop, full, room, firstExpired]
      · by_cases lapsed : task.leaseExpired now = true
        · have room : (limit - settled).toNat = (limit - (settled + 1)).toNat + 1 := by omega
          simp only [Memory.reclaimLoop, full, lapsed, ↓reduceIte, tail, room,
            firstExpired_over lapsed, List.map_cons, List.mem_cons, true_or, List.cons.injEq,
            true_and]
          apply List.map_congr_left
          intro other member
          simp only [apart other member, false_or]
        · have kept : task.id ∉ firstExpired now (limit - settled).toNat rest :=
            fun picked => fresh (firstExpired_ids picked)
          simp only [Memory.reclaimLoop, full, lapsed, ↓reduceIte, tail, firstExpired_kept lapsed,
            kept, Bool.false_eq_true, List.map_cons]

theorem reclaimLoop_refs (now limit maxAttempts settled : Int) (tasks : List TaskRecord) :
    (Memory.reclaimLoop now limit maxAttempts settled tasks).2 =
      (((expired now tasks).take (limit - settled).toNat).filter
        fun task => task.attempts < maxAttempts).map TaskRecord.ref := by
  induction tasks generalizing settled with
  | nil => simp [Memory.reclaimLoop, expired]
  | cons task rest ih =>
      by_cases full : limit ≤ settled
      · have room : (limit - settled).toNat = 0 := by omega
        simp [Memory.reclaimLoop, full, room]
      · by_cases lapsed : task.leaseExpired now = true
        · have room : (limit - settled).toNat = (limit - (settled + 1)).toNat + 1 := by omega
          by_cases spent : maxAttempts ≤ task.attempts
          · simpa [Memory.reclaimLoop, full, lapsed, room, expired, spent] using ih (settled + 1)
          · have below : task.attempts < maxAttempts := by omega
            simpa [Memory.reclaimLoop, full, lapsed, room, expired, spent,
              below] using ih (settled + 1)
        · simpa [Memory.reclaimLoop, full, lapsed, expired] using ih settled

theorem mem_firstExpired (now : Int) (room : Nat) (tasks : TaskTable) {task : TaskRecord}
    (member : task ∈ tasks.rows) :
    task.id ∈ firstExpired now room tasks.rows ↔ task ∈ (expired now tasks.rows).take room := by
  constructor
  · intro chosen
    obtain ⟨other, taken, same⟩ := List.mem_map.mp chosen
    have inside := (List.mem_filter.mp (List.mem_of_mem_take taken)).1
    rw [← Table.eq_of_key inside member same]
    exact taken
  · intro taken
    exact List.mem_map.mpr ⟨task, taken, rfl⟩

theorem reclaimLoop_settles (tasks next : TaskTable) (now limit maxAttempts : Int)
    (rows : next.rows = (Memory.reclaimLoop now limit maxAttempts 0 tasks.rows).1) :
    Settles now maxAttempts tasks.rows next.rows
      (Memory.reclaimLoop now limit maxAttempts 0 tasks.rows).2
      (firstExpired now limit.toNat tasks.rows) := by
  have room : (limit - 0).toNat = limit.toNat := by omega
  refine settles_map now ((expired_unique tasks.unique now).sublist (firstExpired_within _ _ _))
    (fun taskId chosen => (firstExpired_within _ _ _).subset chosen) ?_ ?_
  · intro taskId
    have shape : next = tasks.map
        (fun task => if task.id ∈ firstExpired now limit.toNat tasks.rows
          then task.settle maxAttempts now else task) fun task => by split <;> simp := by
      apply Table.ext
      rw [rows, reclaimLoop_tasks tasks.unique, room]
      rfl
    rw [shape]
    exact Postgres.reclaimStaleIn_find now maxAttempts _ tasks taskId
  · intro ref
    rw [reclaimLoop_refs, room]
    simp only [List.mem_map, List.mem_filter, decide_eq_true_eq]
    constructor
    · rintro ⟨task, ⟨taken, below⟩, rfl⟩
      have member := (List.mem_filter.mp (List.mem_of_mem_take taken)).1
      exact ⟨task, member, (mem_firstExpired now _ tasks member).mpr taken, below, rfl⟩
    · rintro ⟨task, member, chosen, below, rfl⟩
      exact ⟨task, ⟨(mem_firstExpired now _ tasks member).mp chosen, below⟩, rfl⟩

theorem memory_reclaim (tasks : TaskTable) (now limit maxAttempts : Int) :
    Does (.reclaim now limit maxAttempts) tasks
      (answered tasks .reclaimed
        (Memory.reclaimStaleProcessing now limit maxAttempts tasks)) := by
  unfold Memory.reclaimStaleProcessing
  by_cases refused : limit ≤ 0
  · rw [if_pos refused]
    exact effect_exact (fun _ _ _ shape => by cases shape; exact refused) rfl
  · rw [if_neg refused]
    have many : (firstExpired now limit.toNat tasks.rows).length =
        min limit.toNat (expired now tasks.rows).length := by
      simp [firstExpired]
    exact .settles (by omega) many (reclaimLoop_settles tasks _ now limit maxAttempts rfl)

/-- `InMemoryTaskStore` performs every operation as a task store does. -/
theorem memory_does (clock : Int) (tasks : TaskTable) (operation : Operation)
    (fresh : ∀ task, operation = .create task → tasks.find task.id = none) :
    Does operation tasks (memoryPerform clock tasks operation) := by
  cases operation with
  | create task =>
      exact memory_create clock tasks task (fresh task rfl)
  | get taskId principalId => exact effect_get tasks taskId principalId
  | markProcessing taskId leaseSeconds now =>
      exact memory_markProcessing clock tasks taskId leaseSeconds now
  | markCompleted taskId result =>
      exact effect_exact (fun _ _ _ shape => nomatch shape)
        (memory_finish clock tasks taskId .completed (some result) none)
  | markFailed taskId error =>
      exact effect_exact (fun _ _ _ shape => nomatch shape)
        (memory_finish clock tasks taskId .failed none (some error))
  | reclaim now limit maxAttempts => exact memory_reclaim tasks now limit maxAttempts

end Memory

section Postgres

open Columns

/-- The values of the operation suit the columns and the parameters of its statements. -/
def Operation.Fits : Operation → Prop
  | .create task => PostgresStore.Fits task
  | .get taskId principalId => sendable taskId ∧ ∀ principal ∈ principalId, sendable principal
  | .markProcessing taskId _ _ => sendable taskId
  | .markCompleted taskId result => sendable taskId ∧ storableJson result = true
  | .markFailed taskId error => sendable taskId ∧ sendable error
  | .reclaim _ limit maxAttempts => fitsInteger limit ∧ fitsInteger maxAttempts

/-- What the operation meets in the table: an id that is free, an attempt that can be counted and
a sub-select that returned expired leases. -/
def Operation.Runs (tasks : TaskTable) (stale : List String) : Operation → Prop
  | .create task => tasks.find task.id = none
  | .markProcessing taskId _ _ => ∀ task ∈ tasks.find taskId, fitsInteger (task.attempts + 1)
  | .reclaim now limit _ => Postgres.StaleSelection now limit tasks stale
  | _ => True

theorem postgres_create (clock : Int) (tasks : TaskTable) (task : TaskRecord)
    (fits : PostgresStore.Fits task) (fresh : tasks.find task.id = none) :
    Does (.create task) tasks (written tasks (PostgresStore.create clock task tasks)) := by
  unfold PostgresStore.create Postgres.create
  rw [PostgresStore.storedRow_fits fits]
  dsimp only
  split
  · rename_i refused
    exact absurd refused (insert_ne_none fresh rfl)
  · rename_i next inserted
    refine effect_create ?_ inserted
    rfl

theorem postgres_markProcessing (clock : Int) (tasks : TaskTable) {taskId : String}
    (leaseSeconds now : Int) (fits : sendable taskId)
    (room : ∀ task ∈ tasks.find taskId, fitsInteger (task.attempts + 1)) :
    Does (.markProcessing taskId leaseSeconds now) tasks
      (answered tasks .claimed
        (PostgresStore.markProcessing clock taskId leaseSeconds (some now) tasks)) := by
  unfold PostgresStore.markProcessing
  by_cases refused : leaseSeconds ≤ 0
  · rw [if_pos refused]
    exact effect_refused refused
  · have counted : ¬ ((tasks.find taskId).any fun task =>
        task.claimable ((some now).getD clock) && ¬ fitsInteger (task.attempts + 1)) = true := by
      cases found : tasks.find taskId with
      | none => simp
      | some task => simp [room task found]
    rw [if_neg refused, if_neg (not_not.mpr fits), if_neg counted]
    cases found : tasks.find taskId with
    | none =>
        have missing : Postgres.markProcessing clock taskId leaseSeconds (some now) tasks =
            .error (.keyError taskId) := by
          simp [Postgres.markProcessing, refused, found]
        rw [missing]
        exact effect_unknown refused found
    | some task =>
        by_cases free : task.claimable now = true
        · rw [Postgres.markProcessing_claimed (by omega) found free]
          refine effect_claimed refused found free (timeless_claim task now leaseSeconds clock) ?_
          exact content_modify found rfl fun other =>
            find_claimTask tasks taskId other now leaseSeconds clock
        · have busy : Postgres.markProcessing clock taskId leaseSeconds (some now) tasks =
              .ok (false, tasks) := by
            simp [Postgres.markProcessing, refused, found, free]
          rw [busy]
          exact effect_busy refused found free

theorem postgres_finish (clock : Int) (tasks : TaskTable) (taskId : String) (status : TaskStatus)
    (result : Option Json) (error : Option String) :
    (content tasks.rows).finish taskId status result error =
      ((written tasks (Postgres.update clock taskId status result error tasks)).1,
        content (written tasks
          (Postgres.update clock taskId status result error tasks)).2.rows) := by
  have same : Postgres.update clock taskId status result error tasks =
      Memory.updateStatus clock taskId status result error tasks := by
    unfold Postgres.update Memory.updateStatus
    cases tasks.find taskId <;> rfl
  rw [same]
  exact memory_finish clock tasks taskId status result error

theorem postgres_reclaim (clock : Int) (tasks : TaskTable) {now limit maxAttempts : Int}
    {stale : List String} (fits : fitsInteger limit ∧ fitsInteger maxAttempts)
    (selected : Postgres.StaleSelection now limit tasks stale) :
    Does (.reclaim now limit maxAttempts) tasks
      (answered tasks .reclaimed
        (PostgresStore.reclaimStaleProcessing clock limit maxAttempts stale tasks)) := by
  unfold PostgresStore.reclaimStaleProcessing
  by_cases refused : limit ≤ 0
  · rw [if_pos refused]
    exact effect_exact (fun _ _ _ shape => by cases shape; exact refused) rfl
  · rw [if_neg refused, if_neg (not_not.mpr fits), Postgres.reclaimStaleIn, if_neg refused]
    have announced : ∀ ref, ref ∈ (tasks.rows.filter fun task =>
          task.id ∈ stale ∧ task.attempts < maxAttempts).map TaskRecord.ref ↔
        ∃ task ∈ tasks.rows, task.id ∈ stale ∧ task.attempts < maxAttempts ∧ task.ref = ref := by
      intro ref
      simp only [List.mem_map, List.mem_filter, decide_eq_true_eq, and_assoc]
    have settles := settles_map clock selected.1 selected.2.2.1
      (Postgres.reclaimStaleIn_find clock maxAttempts stale tasks) announced
    exact .settles (by omega) selected.2.1 settles

/-- `PostgresTaskStore` performs every operation with fitting values as a task store does. -/
theorem postgres_does (clock : Int) {stale : List String} {tasks : TaskTable}
    {operation : Operation} (fits : operation.Fits) (runs : operation.Runs tasks stale) :
    Does operation tasks (postgresPerform clock stale tasks operation) := by
  cases operation with
  | create task => exact postgres_create clock tasks task fits runs
  | get taskId principalId =>
      have allowed : PostgresStore.get taskId principalId tasks =
          .ok (Postgres.get taskId principalId tasks) := if_pos fits
      simp only [postgresPerform, allowed]
      exact effect_get tasks taskId principalId
  | markProcessing taskId leaseSeconds now =>
      exact postgres_markProcessing clock tasks leaseSeconds now fits runs
  | markCompleted taskId result =>
      have allowed : PostgresStore.markCompleted clock taskId result tasks =
          Postgres.update clock taskId .completed (some result) none tasks := by
        obtain ⟨sent, same⟩ := jsonb_storable fits.2
        rw [PostgresStore.markCompleted, if_pos ⟨fits.1, sent⟩, same]
        rfl
      simp only [postgresPerform, allowed]
      exact effect_exact (fun _ _ _ shape => nomatch shape)
        (postgres_finish clock tasks taskId .completed (some result) none)
  | markFailed taskId error =>
      have allowed : PostgresStore.markFailed clock taskId error tasks =
          Postgres.update clock taskId .failed none (some error) tasks := if_pos fits
      simp only [postgresPerform, allowed]
      exact effect_exact (fun _ _ _ shape => nomatch shape)
        (postgres_finish clock tasks taskId .failed none (some error))
  | reclaim now limit maxAttempts => exact postgres_reclaim clock tasks fits runs

end Postgres

end AiPlatform.Tasks.Store

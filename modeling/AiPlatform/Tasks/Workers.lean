import AiPlatform.Lib.Machine
import AiPlatform.Tasks.Memory
import AiPlatform.Tasks.Postgres

set_option autoImplicit false

/- Any number of workers and reclaimers over one task store. A handler is one execution of
`process_task`: it claims its task once and reports at most once, and only after the claim
returned `True`. -/
namespace AiPlatform.Tasks.Workers

open Machine

inductive Backend where
  | memory
  | postgres
deriving DecidableEq

def Backend.create (backend : Backend) (clock : Int) (task : TaskRecord) (tasks : TaskTable) :
    Except StoreError TaskTable :=
  match backend with
  | .memory => Memory.create clock task tasks
  | .postgres => Postgres.create clock task tasks

def Backend.markProcessing (backend : Backend) (clock : Int) (taskId : String)
    (leaseSeconds : Int) (now : Option Int) (tasks : TaskTable) :
    Except StoreError (Bool × TaskTable) :=
  match backend with
  | .memory => Memory.markProcessing clock taskId leaseSeconds now tasks
  | .postgres => Postgres.markProcessing clock taskId leaseSeconds now tasks

def Backend.markCompleted (backend : Backend) (clock : Int) (taskId : String) (result : Json)
    (tasks : TaskTable) : Except StoreError TaskTable :=
  match backend with
  | .memory => Memory.markCompleted clock taskId result tasks
  | .postgres => Postgres.markCompleted clock taskId result tasks

def Backend.markFailed (backend : Backend) (clock : Int) (taskId : String) (error : String)
    (tasks : TaskTable) : Except StoreError TaskTable :=
  match backend with
  | .memory => Memory.markFailed clock taskId error tasks
  | .postgres => Postgres.markFailed clock taskId error tasks

/-- `stale` is the sub-select's choice; the in-memory loop makes its own. -/
def Backend.reclaim (backend : Backend) (now : Int) (limit maxAttempts : Int)
    (stale : List String) (tasks : TaskTable) :
    Option (Except StoreError (List TaskRef × TaskTable)) :=
  match backend with
  | .memory => some (Memory.reclaimStaleProcessing now limit maxAttempts tasks)
  | .postgres =>
      if Postgres.StaleSelection now limit tasks stale then
        some (Postgres.reclaimStaleIn now limit maxAttempts stale tasks)
      else none

structure Handler where
  id : Nat
  taskId : String
  leaseUntil : Int
  reported : Bool
deriving DecidableEq

structure State where
  tasks : TaskTable
  clock : Int
  handlers : Table Handler.id

def State.init (start : Int) : State := ⟨.empty, start, .empty⟩

inductive Call where
  | create (task : TaskRecord)
  | markProcessing (handler : Nat) (taskId : String) (leaseSeconds : Int)
  | markCompleted (handler : Nat) (result : Json)
  | markFailed (handler : Nat) (error : String)
  | reclaim (limit maxAttempts : Int) (stale : List String)

structure Action where
  now : Int
  call : Call

def finish (handlers : Table Handler.id) (handlerId : Nat) : Table Handler.id :=
  handlers.modify handlerId (fun handler => { handler with reported := true }) fun _ => rfl

/-- The report of a handler that holds a claim it has not reported on. -/
def report (state : State) (handlerId : Nat)
    (write : String → TaskTable → Except StoreError TaskTable) : Option State :=
  match state.handlers.find handlerId with
  | none => none
  | some handler =>
      if handler.reported then none
      else match write handler.taskId state.tasks with
        | .error _ => some state
        | .ok tasks =>
            some { state with tasks := tasks, handlers := finish state.handlers handlerId }

def perform (backend : Backend) (state : State) (now : Int) : Call → Option State
  | .create task =>
      match backend.create now task state.tasks with
      | .error _ => some state
      | .ok tasks => some { state with tasks := tasks }
  | .markProcessing handlerId taskId leaseSeconds =>
      match backend.markProcessing now taskId leaseSeconds (some now) state.tasks with
      | .error _ => some state
      | .ok (false, tasks) => some { state with tasks := tasks }
      | .ok (true, tasks) =>
          (state.handlers.insert ⟨handlerId, taskId, now + timedelta leaseSeconds, false⟩).map
            fun handlers => { state with tasks := tasks, handlers := handlers }
  | .markCompleted handlerId result =>
      report state handlerId fun taskId => backend.markCompleted now taskId result
  | .markFailed handlerId error =>
      report state handlerId fun taskId => backend.markFailed now taskId error
  | .reclaim limit maxAttempts stale =>
      match backend.reclaim now limit maxAttempts stale state.tasks with
      | none => none
      | some (.error _) => some state
      | some (.ok (_, tasks)) => some { state with tasks := tasks }

/-- One atomic store operation at a clock that never goes back. -/
def step (backend : Backend) (state : State) (action : Action) : Option State :=
  if action.now < state.clock then none
  else perform backend { state with clock := action.now } action.now action.call

/-- The status write a report performs, if the call is one. -/
def Call.writes : Call → Option (Nat × TaskStatus × Option Json × Option String)
  | .markCompleted handlerId result => some (handlerId, .completed, some result, none)
  | .markFailed handlerId error => some (handlerId, .failed, none, some error)
  | _ => none

/-- All that a call can do to the store and to the handlers. -/
inductive Effect (state : State) (now : Int) (call : Call) : State → Prop
  | unchanged : Effect state now call state
  | created (task stored : TaskRecord) (tasks : TaskTable) (asked : call = .create task)
      (inserted : state.tasks.insert stored = some tasks) :
      Effect state now call { state with tasks := tasks }
  | claimed (handlerId : Nat) (taskId : String) (leaseSeconds : Int) (task : TaskRecord)
      (handlers : Table Handler.id) (asked : call = .markProcessing handlerId taskId leaseSeconds)
      (positive : 0 < leaseSeconds) (found : state.tasks.find taskId = some task)
      (free : task.claimable now = true)
      (started : state.handlers.insert
        ⟨handlerId, taskId, now + timedelta leaseSeconds, false⟩ = some handlers) :
      Effect state now call
        { state with
          tasks := claimTask state.tasks taskId now leaseSeconds now
          handlers := handlers }
  | reported (handler : Handler) (status : TaskStatus) (result : Option Json)
      (error : Option String) (task : TaskRecord)
      (written : call.writes = some (handler.id, status, result, error))
      (holds : state.handlers.find handler.id = some handler)
      (pending : handler.reported = false)
      (found : state.tasks.find handler.taskId = some task) :
      Effect state now call
        { state with
          tasks := writeStatus state.tasks handler.taskId status result error now
          handlers := finish state.handlers handler.id }
  | reclaimed (limit maxAttempts : Int) (stale : List String) (tasks : TaskTable)
      (asked : call = .reclaim limit maxAttempts stale)
      (settled : ∀ taskId, tasks.find taskId = state.tasks.find taskId ∨
        ∃ task, state.tasks.find taskId = some task ∧ task.leaseExpired now = true ∧
          tasks.find taskId = some (task.settle maxAttempts now)) :
      Effect state now call { state with tasks := tasks }

theorem create_ok {backend : Backend} {now : Int} {task : TaskRecord} {tasks next : TaskTable}
    (done : backend.create now task tasks = .ok next) :
    ∃ stored, tasks.insert stored = some next ∧ stored.id = task.id ∧
      stored.status = task.status ∧ stored.attempts = task.attempts := by
  cases backend with
  | memory =>
      simp only [Backend.create, Memory.create] at done
      split at done
      · cases done
      · rename_i inserted
        cases done
        exact ⟨_, inserted, rfl, rfl, rfl⟩
  | postgres =>
      simp only [Backend.create, Postgres.create] at done
      split at done
      · cases done
      · rename_i inserted
        cases done
        exact ⟨_, inserted, rfl, rfl, rfl⟩

theorem memory_markProcessing_ok {now : Int} {taskId : String} {leaseSeconds : Int}
    {claimed : Bool} {tasks next : TaskTable}
    (done : Memory.markProcessing now taskId leaseSeconds (some now) tasks =
      .ok (claimed, next)) :
    if claimed then 0 < leaseSeconds ∧ ∃ task, tasks.find taskId = some task ∧
        task.claimable now = true ∧
        next = claimTask tasks taskId now leaseSeconds now
    else next = tasks := by
  simp only [Memory.markProcessing, Option.getD_some] at done
  split at done
  · cases done
  · rename_i positive
    split at done
    · cases done
    · rename_i task found
      split at done
      · rename_i free
        cases done
        exact ⟨by omega, task, found, free, rfl⟩
      · cases done
        rfl

theorem postgres_markProcessing_ok {now : Int} {taskId : String} {leaseSeconds : Int}
    {claimed : Bool} {tasks next : TaskTable}
    (done : Postgres.markProcessing now taskId leaseSeconds (some now) tasks =
      .ok (claimed, next)) :
    if claimed then 0 < leaseSeconds ∧ ∃ task, tasks.find taskId = some task ∧
        task.claimable now = true ∧
        next = claimTask tasks taskId now leaseSeconds now
    else next = tasks := by
  by_cases positive : 0 < leaseSeconds
  · have lease : ¬ leaseSeconds ≤ 0 := by omega
    cases found : tasks.find taskId with
    | none => simp [Postgres.markProcessing, lease, found] at done
    | some task =>
        by_cases free : task.claimable now = true
        · rw [Postgres.markProcessing_claimed positive found free] at done
          cases done
          exact ⟨positive, task, rfl, free, rfl⟩
        · simp only [Postgres.markProcessing, lease, ↓reduceIte, Option.getD_some, found,
            Option.any_some, free, Option.isNone_some, Bool.false_eq_true] at done
          cases done
          rfl
  · have lease : leaseSeconds ≤ 0 := by omega
    simp only [Postgres.markProcessing, lease, ↓reduceIte] at done
    cases done

theorem markProcessing_ok {backend : Backend} {now : Int} {taskId : String}
    {leaseSeconds : Int} {claimed : Bool} {tasks next : TaskTable}
    (done : backend.markProcessing now taskId leaseSeconds (some now) tasks =
      .ok (claimed, next)) :
    if claimed then 0 < leaseSeconds ∧ ∃ task, tasks.find taskId = some task ∧
        task.claimable now = true ∧
        next = claimTask tasks taskId now leaseSeconds now
    else next = tasks := by
  cases backend with
  | memory => exact memory_markProcessing_ok done
  | postgres => exact postgres_markProcessing_ok done

/-- Both stores write a report without looking at the status they overwrite. -/
theorem updateStatus_ok {now : Int} {taskId : String} {status : TaskStatus}
    {result : Option Json} {error : Option String} {tasks next : TaskTable}
    (done : Memory.updateStatus now taskId status result error tasks = .ok next ∨
      Postgres.update now taskId status result error tasks = .ok next) :
    ∃ task, tasks.find taskId = some task ∧
      next = writeStatus tasks taskId status result error now := by
  cases found : tasks.find taskId with
  | none => simp [Memory.updateStatus, Postgres.update, found] at done
  | some task =>
      refine ⟨task, rfl, ?_⟩
      simpa [Memory.updateStatus, Postgres.update, found, eq_comm] using done

theorem markCompleted_ok {backend : Backend} {now : Int} {taskId : String} {result : Json}
    {tasks next : TaskTable} (done : backend.markCompleted now taskId result tasks = .ok next) :
    ∃ task, tasks.find taskId = some task ∧
      next = writeStatus tasks taskId .completed (some result) none now := by
  cases backend with
  | memory => exact updateStatus_ok (.inl done)
  | postgres => exact updateStatus_ok (.inr done)

theorem markFailed_ok {backend : Backend} {now : Int} {taskId error : String}
    {tasks next : TaskTable} (done : backend.markFailed now taskId error tasks = .ok next) :
    ∃ task, tasks.find taskId = some task ∧
      next = writeStatus tasks taskId .failed none (some error) now := by
  cases backend with
  | memory => exact updateStatus_ok (.inl done)
  | postgres => exact updateStatus_ok (.inr done)

theorem reclaim_ok {backend : Backend} {now : Int} {limit maxAttempts : Int}
    {stale : List String} {tasks next : TaskTable} {refs : List TaskRef}
    (done : backend.reclaim now limit maxAttempts stale tasks = some (.ok (refs, next)))
    (taskId : String) :
    next.find taskId = tasks.find taskId ∨
      ∃ task, tasks.find taskId = some task ∧ task.leaseExpired now = true ∧
        next.find taskId = some (task.settle maxAttempts now) := by
  cases backend with
  | memory =>
      simp only [Backend.reclaim, Memory.reclaimStaleProcessing, Option.some.injEq] at done
      split at done
      · cases done
      · cases done
        exact Memory.reclaimLoop_find now limit maxAttempts 0 tasks.rows taskId
  | postgres =>
      simp only [Backend.reclaim, Postgres.reclaimStaleIn] at done
      split at done
      · rename_i selection
        split at done
        · cases done
        · cases done
          rw [Postgres.reclaimStaleIn_find]
          by_cases picked : taskId ∈ stale
          · have expired := selection.2.2.1 taskId picked
            simp only [List.mem_map, List.mem_filter] at expired
            obtain ⟨task, ⟨member, lapsed⟩, rfl⟩ := expired
            exact .inr ⟨task, Table.find_mem member, lapsed, by
              simp [picked, Table.find_mem member]⟩
          · exact .inl (by simp [picked])
      · cases done

theorem report_effect {state next : State} {now : Int} {call : Call} {handlerId : Nat}
    {status : TaskStatus} {result : Option Json} {error : Option String}
    {write : String → TaskTable → Except StoreError TaskTable}
    (writes : call.writes = some (handlerId, status, result, error))
    (spec : ∀ {taskId tasks after}, write taskId tasks = .ok after →
      ∃ task, tasks.find taskId = some task ∧
        after = writeStatus tasks taskId status result error now)
    (reached : report state handlerId write = some next) : Effect state now call next := by
  unfold report at reached
  split at reached
  · cases reached
  · rename_i handler holds
    obtain ⟨-, rfl⟩ := Table.find_some.mp holds
    split at reached
    · cases reached
    · rename_i pending
      split at reached
      · cases reached
        exact .unchanged
      · rename_i tasks done
        obtain ⟨task, found, rfl⟩ := spec done
        cases reached
        exact .reported handler status result error task writes holds (by simpa using pending) found

theorem perform_effect {backend : Backend} {state next : State} {now : Int} {call : Call}
    (reached : perform backend state now call = some next) : Effect state now call next := by
  cases call with
  | create task =>
      simp only [perform] at reached
      split at reached
      · cases reached
        exact .unchanged
      · rename_i tasks done
        obtain ⟨stored, inserted, -⟩ := create_ok done
        cases reached
        exact .created task stored tasks rfl inserted
  | markProcessing handlerId taskId leaseSeconds =>
      simp only [perform] at reached
      split at reached
      · cases reached
        exact .unchanged
      · rename_i tasks done
        obtain rfl := markProcessing_ok done
        cases reached
        exact .unchanged
      · rename_i tasks done
        obtain ⟨positive, task, found, free, rfl⟩ := markProcessing_ok done
        obtain ⟨handlers, started, rfl⟩ := Option.map_eq_some_iff.mp reached
        exact .claimed handlerId taskId leaseSeconds task handlers rfl positive found free started
  | markCompleted handlerId result => exact report_effect rfl markCompleted_ok reached
  | markFailed handlerId error => exact report_effect rfl markFailed_ok reached
  | reclaim limit maxAttempts stale =>
      simp only [perform] at reached
      split at reached
      · cases reached
      · cases reached
        exact .unchanged
      · rename_i refs tasks done
        cases reached
        exact .reclaimed limit maxAttempts stale tasks rfl (reclaim_ok done)

theorem step_effect {backend : Backend} {state next : State} {action : Action}
    (stepped : step backend state action = some next) :
    state.clock ≤ action.now ∧
      Effect { state with clock := action.now } action.now action.call next := by
  unfold step at stepped
  split at stepped
  · cases stepped
  · exact ⟨by omega, perform_effect stepped⟩

/-- A handler with an open claim writes its report, whatever the task's status. -/
theorem step_report {backend : Backend} {state : State} {action : Action} {handlerId : Nat}
    {status : TaskStatus} {result : Option Json} {error : Option String} {handler : Handler}
    {task : TaskRecord} (later : state.clock ≤ action.now)
    (written : action.call.writes = some (handlerId, status, result, error))
    (holds : state.handlers.find handlerId = some handler) (pending : handler.reported = false)
    (found : state.tasks.find handler.taskId = some task) :
    step backend state action = some
      { tasks := writeStatus state.tasks handler.taskId status result error action.now
        clock := action.now
        handlers := finish state.handlers handlerId } := by
  obtain ⟨now, call⟩ := action
  have ordered : ¬ now < state.clock := by
    change state.clock ≤ now at later
    omega
  cases call with
  | create task => cases written
  | markProcessing handlerId taskId leaseSeconds => cases written
  | reclaim limit maxAttempts stale => cases written
  | markCompleted handlerId value =>
      cases written
      cases backend <;>
        simp [step, ordered, perform, report, holds, pending, Backend.markCompleted,
          Memory.markCompleted, Memory.updateStatus, Postgres.markCompleted, Postgres.update, found]
  | markFailed handlerId text =>
      cases written
      cases backend <;>
        simp [step, ordered, perform, report, holds, pending, Backend.markFailed,
          Memory.markFailed, Memory.updateStatus, Postgres.markFailed, Postgres.update, found]

theorem writes_not_queued {call : Call} {handlerId : Nat} {status : TaskStatus}
    {result : Option Json} {error : Option String}
    (written : call.writes = some (handlerId, status, result, error)) : status ≠ .queued := by
  cases call <;> cases written <;> simp

/-- Only creation and reclaim put a task into the queued state. -/
theorem Effect.queued_before {state next : State} {now : Int} {call : Call}
    (effect : Effect state now call next) (notCreate : ∀ task, call ≠ .create task)
    (notReclaim : ∀ limit maxAttempts stale, call ≠ .reclaim limit maxAttempts stale)
    {taskId : String} {task : TaskRecord} (found : next.tasks.find taskId = some task)
    (queued : task.status = .queued) : state.tasks.find taskId = some task := by
  cases effect with
  | unchanged => exact found
  | created created stored tasks asked => exact absurd asked (notCreate created)
  | reclaimed limit maxAttempts stale tasks asked =>
      exact absurd asked (notReclaim limit maxAttempts stale)
  | claimed handlerId claimedId leaseSeconds claimedTask handlers asked positive claimedFound =>
      by_cases here : taskId = claimedId
      · subst here
        simp only [find_claimTask, ↓reduceIte, claimedFound, Option.map_some,
          Option.some.injEq] at found
        subst found
        cases queued
      · simpa only [find_claimTask, here, ↓reduceIte] using found
  | reported handler status result error reportedTask written holds pending reportedFound =>
      by_cases here : taskId = handler.taskId
      · subst here
        simp only [find_writeStatus, ↓reduceIte, reportedFound, Option.map_some,
          Option.some.injEq] at found
        subst found
        exact absurd queued (writes_not_queued written)
      · simpa only [find_writeStatus, here, ↓reduceIte] using found

end AiPlatform.Tasks.Workers

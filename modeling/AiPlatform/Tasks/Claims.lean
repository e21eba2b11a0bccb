import AiPlatform.Tasks.Workers

set_option autoImplicit false

/- The claims a task store grants, over any calls by any number of workers and reclaimers. A
report may come from anyone at any time, and a worker that crashes just makes no more calls. -/
namespace AiPlatform.Tasks.Claims

open Machine
open Workers (Backend create_ok markProcessing_ok markCompleted_ok markFailed_ok reclaim_ok)

/-- A `mark_processing` that returned `True`. -/
structure Grant where
  taskId : String
  time : Int
  leaseSeconds : Int
deriving DecidableEq

def Grant.leaseUntil (grant : Grant) : Int := grant.time + timedelta grant.leaseSeconds

/-- The store, the latest `now` supplied to it and the grants so far, the oldest first. -/
structure State where
  tasks : TaskTable
  clock : Int
  grants : List Grant

def State.init (start : Int) : State := ⟨.empty, start, []⟩

inductive Call where
  | create (task : TaskRecord)
  | markProcessing (taskId : String) (leaseSeconds : Int)
  | markCompleted (taskId : String) (result : Json)
  | markFailed (taskId : String) (error : String)
  | reclaim (limit maxAttempts : Int) (stale : List String)

structure Action where
  now : Int
  call : Call

/-- A call that raises leaves the store as it was. -/
def written (state : State) : Except StoreError TaskTable → State
  | .error _ => state
  | .ok tasks => { state with tasks := tasks }

def perform (backend : Backend) (state : State) (now : Int) : Call → Option State
  | .create task => some (written state (backend.create now task state.tasks))
  | .markProcessing taskId leaseSeconds =>
      match backend.markProcessing now taskId leaseSeconds (some now) state.tasks with
      | .error _ => some state
      | .ok (false, tasks) => some { state with tasks := tasks }
      | .ok (true, tasks) => some { state with
          tasks := tasks
          grants := state.grants ++ [⟨taskId, now, leaseSeconds⟩] }
  | .markCompleted taskId result =>
      some (written state (backend.markCompleted now taskId result state.tasks))
  | .markFailed taskId error =>
      some (written state (backend.markFailed now taskId error state.tasks))
  | .reclaim limit maxAttempts stale =>
      (backend.reclaim now limit maxAttempts stale state.tasks).map fun outcome =>
        written state (outcome.map Prod.snd)

/-- One atomic store operation at a clock that never goes back. -/
def step (backend : Backend) (state : State) (action : Action) : Option State :=
  if action.now < state.clock then none
  else perform backend { state with clock := action.now } action.now action.call

/-- The grants of one task. -/
def State.grantsOf (state : State) (taskId : String) : Nat :=
  state.grants.countP fun grant => grant.taskId = taskId

/-- All that a call can do. -/
inductive Effect (state : State) (now : Int) (call : Call) : State → Prop
  | unchanged : Effect state now call state
  | created (task stored : TaskRecord) (tasks : TaskTable) (asked : call = .create task)
      (same : stored.id = task.id ∧ stored.status = task.status ∧
        stored.attempts = task.attempts)
      (inserted : state.tasks.insert stored = some tasks) :
      Effect state now call { state with tasks := tasks }
  | claimed (taskId : String) (leaseSeconds : Int) (task : TaskRecord)
      (asked : call = .markProcessing taskId leaseSeconds) (positive : 0 < leaseSeconds)
      (found : state.tasks.find taskId = some task) (free : task.claimable now = true) :
      Effect state now call
        { state with
          tasks := claimTask state.tasks taskId now leaseSeconds now
          grants := state.grants ++ [⟨taskId, now, leaseSeconds⟩] }
  | reported (taskId : String) (status : TaskStatus) (result : Option Json)
      (error : Option String) (final : status = .completed ∨ status = .failed) :
      Effect state now call
        { state with tasks := writeStatus state.tasks taskId status result error now }
  | reclaimed (limit maxAttempts : Int) (stale : List String) (tasks : TaskTable)
      (asked : call = .reclaim limit maxAttempts stale)
      (settled : ∀ taskId, tasks.find taskId = state.tasks.find taskId ∨
        ∃ task, state.tasks.find taskId = some task ∧ task.leaseExpired now = true ∧
          tasks.find taskId = some (task.settle maxAttempts now)) :
      Effect state now call { state with tasks := tasks }

theorem perform_effect {backend : Backend} {state next : State} {now : Int} {call : Call}
    (performed : perform backend state now call = some next) : Effect state now call next := by
  cases call with
  | create task =>
      obtain rfl := Option.some.inj performed
      cases outcome : backend.create now task state.tasks with
      | error _ => exact .unchanged
      | ok tasks =>
          obtain ⟨stored, inserted, same⟩ := create_ok outcome
          exact .created task stored tasks rfl same inserted
  | markProcessing taskId leaseSeconds =>
      simp only [perform] at performed
      split at performed
      · cases performed
        exact .unchanged
      · rename_i tasks done
        obtain rfl := markProcessing_ok done
        cases performed
        exact .unchanged
      · rename_i tasks done
        obtain ⟨positive, task, found, free, rfl⟩ := markProcessing_ok done
        cases performed
        exact .claimed taskId leaseSeconds task rfl positive found free
  | markCompleted taskId result =>
      obtain rfl := Option.some.inj performed
      cases outcome : backend.markCompleted now taskId result state.tasks with
      | error _ => exact .unchanged
      | ok tasks =>
          obtain ⟨task, found, rfl⟩ := markCompleted_ok outcome
          exact .reported taskId .completed (some result) none (.inl rfl)
  | markFailed taskId error =>
      obtain rfl := Option.some.inj performed
      cases outcome : backend.markFailed now taskId error state.tasks with
      | error _ => exact .unchanged
      | ok tasks =>
          obtain ⟨task, found, rfl⟩ := markFailed_ok outcome
          exact .reported taskId .failed none (some error) (.inr rfl)
  | reclaim limit maxAttempts stale =>
      obtain ⟨outcome, done, rfl⟩ := Option.map_eq_some_iff.mp performed
      cases outcome with
      | error _ => exact .unchanged
      | ok settled => exact .reclaimed limit maxAttempts stale settled.2 rfl (reclaim_ok done)

theorem step_effect {backend : Backend} {state next : State} {action : Action}
    (stepped : step backend state action = some next) :
    state.clock ≤ action.now ∧
      Effect { state with clock := action.now } action.now action.call next := by
  unfold step at stepped
  split at stepped
  · cases stepped
  · exact ⟨by omega, perform_effect stepped⟩

section Exclusion

variable {state next : State} {now : Int} {call : Call}

/-- Each grant has run out, or the lock of its task reaches at least as far. -/
structure Spaced (state : State) : Prop where
  known : ∀ grant ∈ state.grants, state.tasks.find grant.taskId ≠ none
  ended : ∀ grant ∈ state.grants, ∀ task, state.tasks.find grant.taskId = some task →
    task.status = .queued → grant.leaseUntil ≤ state.clock
  locked : ∀ grant ∈ state.grants, ∀ task, state.tasks.find grant.taskId = some task →
    task.status = .processing → ∃ lease, task.lockedUntil = some lease ∧ grant.leaseUntil ≤ lease
  apart : state.grants.Pairwise fun first second =>
    first.taskId = second.taskId → first.leaseUntil ≤ second.time

theorem Spaced.init (start : Int) : Spaced (.init start) := by
  constructor <;> simp [State.init]

theorem Spaced.tick (spaced : Spaced state) (later : state.clock ≤ now) :
    Spaced { state with clock := now } where
  known := spaced.known
  ended grant member task found queued :=
    (spaced.ended grant member task found queued).trans later
  locked := spaced.locked
  apart := spaced.apart

/-- A task that can be claimed has outlived every grant of it. -/
theorem Spaced.outlived (spaced : Spaced state) {task : TaskRecord} {taskId : String}
    (found : state.tasks.find taskId = some task) (free : task.claimable state.clock = true)
    {grant : Grant} (member : grant ∈ state.grants) (same : grant.taskId = taskId) :
    grant.leaseUntil ≤ state.clock := by
  subst same
  rcases Bool.or_eq_true_iff.mp free with queued | expired
  · exact spaced.ended grant member task found (of_decide_eq_true queued)
  · obtain ⟨processing, lease, held, late⟩ := leaseExpired_iff.mp expired
    obtain ⟨other, lock, reach⟩ := spaced.locked grant member task found processing
    rw [held] at lock
    obtain rfl := Option.some.inj lock
    omega

theorem settle_status (task : TaskRecord) (maxAttempts stamp : Int) :
    (task.settle maxAttempts stamp).status ≠ .processing := by
  unfold TaskRecord.settle
  split <;> simp

theorem Spaced.created (spaced : Spaced state) {stored : TaskRecord} {tasks : TaskTable}
    (inserted : state.tasks.insert stored = some tasks) :
    Spaced { state with tasks := tasks } := by
  have kept : ∀ grant ∈ state.grants, tasks.find grant.taskId = state.tasks.find grant.taskId := by
    intro grant member
    rw [Table.find_insert inserted, if_neg]
    intro same
    apply spaced.known grant member
    rw [same]
    exact (Table.insert_some.mp inserted).1
  refine ⟨?_, ?_, ?_, spaced.apart⟩
  · intro grant member
    rw [show tasks.find grant.taskId = _ from kept grant member]
    exact spaced.known grant member
  · intro grant member task found
    rw [show tasks.find grant.taskId = _ from kept grant member] at found
    exact spaced.ended grant member task found
  · intro grant member task found
    rw [show tasks.find grant.taskId = _ from kept grant member] at found
    exact spaced.locked grant member task found

theorem Spaced.claimed (spaced : Spaced state) {taskId : String} {leaseSeconds : Int}
    {task : TaskRecord} (positive : 0 < leaseSeconds)
    (found : state.tasks.find taskId = some task) (free : task.claimable state.clock = true) :
    Spaced { state with
      tasks := claimTask state.tasks taskId state.clock leaseSeconds state.clock
      grants := state.grants ++ [⟨taskId, state.clock, leaseSeconds⟩] } := by
  have length := timedelta_pos positive
  have here : (claimTask state.tasks taskId state.clock leaseSeconds state.clock).find taskId =
      some (task.claim state.clock leaseSeconds state.clock) := by
    rw [find_claimTask, if_pos rfl, found]
    rfl
  have elsewhere : ∀ other, other ≠ taskId →
      (claimTask state.tasks taskId state.clock leaseSeconds state.clock).find other =
        state.tasks.find other := by
    intro other different
    rw [find_claimTask, if_neg different]
  have outlived : ∀ grant ∈ state.grants, grant.taskId = taskId →
      grant.leaseUntil ≤ state.clock := fun grant member same =>
    spaced.outlived found free member same
  refine ⟨?_, ?_, ?_, ?_⟩
  · intro grant member
    dsimp only
    rcases List.mem_append.mp member with old | new
    · by_cases same : grant.taskId = taskId
      · rw [same, here]
        simp
      · rw [elsewhere _ same]
        exact spaced.known grant old
    · rw [List.mem_singleton.mp new, here]
      simp
  · intro grant member row stored queued
    dsimp only at stored
    by_cases same : grant.taskId = taskId
    · rw [same, here] at stored
      obtain rfl := Option.some.inj stored
      cases queued
    · rcases List.mem_append.mp member with old | new
      · rw [elsewhere _ same] at stored
        exact spaced.ended grant old row stored queued
      · exact absurd (congrArg Grant.taskId (List.mem_singleton.mp new)) same
  · intro grant member row stored processing
    dsimp only at stored
    by_cases same : grant.taskId = taskId
    · rw [same, here] at stored
      obtain rfl := Option.some.inj stored
      refine ⟨state.clock + timedelta leaseSeconds, rfl, ?_⟩
      rcases List.mem_append.mp member with old | new
      · have before := outlived grant old same
        omega
      · rw [List.mem_singleton.mp new]
        exact le_refl _
    · rcases List.mem_append.mp member with old | new
      · rw [elsewhere _ same] at stored
        exact spaced.locked grant old row stored processing
      · exact absurd (congrArg Grant.taskId (List.mem_singleton.mp new)) same
  · apply List.pairwise_append.mpr
    refine ⟨spaced.apart, List.pairwise_singleton _ _, ?_⟩
    intro first old second new same
    obtain rfl := List.mem_singleton.mp new
    exact outlived first old same

theorem Spaced.reported (spaced : Spaced state) (taskId : String) {status : TaskStatus}
    (result : Option Json) (error : Option String)
    (final : status = .completed ∨ status = .failed) :
    Spaced { state with
      tasks := writeStatus state.tasks taskId status result error now } := by
  have view : ∀ other row, (writeStatus state.tasks taskId status result error now).find other =
      some row → (row.status = .completed ∨ row.status = .failed) ∨
        state.tasks.find other = some row := by
    intro other row stored
    rw [find_writeStatus] at stored
    split at stored
    · obtain ⟨old, -, rfl⟩ := Option.map_eq_some_iff.mp stored
      exact .inl final
    · exact .inr stored
  refine ⟨?_, ?_, ?_, spaced.apart⟩
  · intro grant member
    dsimp only
    rw [find_writeStatus]
    split
    · simpa using spaced.known grant member
    · exact spaced.known grant member
  · intro grant member row stored queued
    rcases view _ row stored with (done | failed) | same
    · rw [queued] at done
      cases done
    · rw [queued] at failed
      cases failed
    · exact spaced.ended grant member row same queued
  · intro grant member row stored processing
    rcases view _ row stored with (done | failed) | same
    · rw [processing] at done
      cases done
    · rw [processing] at failed
      cases failed
    · exact spaced.locked grant member row same processing

theorem Spaced.reclaimed (spaced : Spaced state) {maxAttempts : Int} {tasks : TaskTable}
    (settled : ∀ taskId, tasks.find taskId = state.tasks.find taskId ∨
      ∃ task, state.tasks.find taskId = some task ∧ task.leaseExpired state.clock = true ∧
        tasks.find taskId = some (task.settle maxAttempts state.clock)) :
    Spaced { state with tasks := tasks } := by
  refine ⟨?_, ?_, ?_, spaced.apart⟩
  · intro grant member
    dsimp only
    rcases settled grant.taskId with same | ⟨task, -, -, after⟩
    · rw [same]
      exact spaced.known grant member
    · rw [after]
      simp
  · intro grant member row stored queued
    rcases settled grant.taskId with same | ⟨task, before, expired, after⟩
    · exact spaced.ended grant member row (same ▸ stored) queued
    · have free : task.claimable state.clock = true := by simp [TaskRecord.claimable, expired]
      exact spaced.outlived before free member rfl
  · intro grant member row stored processing
    rcases settled grant.taskId with same | ⟨task, before, expired, after⟩
    · exact spaced.locked grant member row (same ▸ stored) processing
    · dsimp only at stored
      rw [after] at stored
      obtain rfl := Option.some.inj stored
      exact absurd processing (settle_status task maxAttempts state.clock)

theorem step_spaced {backend : Backend} {action : Action} (spaced : Spaced state)
    (stepped : step backend state action = some next) : Spaced next := by
  obtain ⟨later, effect⟩ := step_effect stepped
  have ticked := spaced.tick later
  cases effect with
  | unchanged => exact ticked
  | created task stored tasks asked same inserted => exact ticked.created inserted
  | claimed taskId leaseSeconds task asked positive found free =>
      exact ticked.claimed positive found free
  | reported taskId status result error final => exact ticked.reported taskId result error final
  | reclaimed limit maxAttempts stale tasks asked settled => exact ticked.reclaimed settled

theorem run_spaced {backend : Backend} {start : Int} {actions : List Action}
    (reached : run (step backend) (.init start) actions = some state) : Spaced state :=
  run_invariant_always Spaced (fun _ _ _ spaced stepped => step_spaced spaced stepped)
    (Spaced.init start) reached

end Exclusion

section Attempts

variable {backend : Backend} {state next : State} {action : Action} {taskId : String}

/-- The task enters the store unclaimed, as `TaskService.submit` builds it. -/
def CreatesUnclaimed (taskId : String) (_ : State) (action : Action) : Prop :=
  ∀ task, action.call = .create task → task.id = taskId → task.attempts = 0

def Counted (taskId : String) (state : State) : Prop :=
  ∀ task, state.tasks.find taskId = some task → task.attempts = state.grantsOf taskId

theorem Spaced.no_grants (spaced : Spaced state) (missing : state.tasks.find taskId = none) :
    state.grantsOf taskId = 0 := by
  apply List.countP_eq_zero.mpr
  intro grant member same
  have equal : grant.taskId = taskId := of_decide_eq_true same
  exact spaced.known grant member (equal ▸ missing)

theorem grantsOf_append (tasks : TaskTable) (clock : Int) (grants : List Grant) (grant : Grant)
    (taskId : String) :
    State.grantsOf ⟨tasks, clock, grants ++ [grant]⟩ taskId =
      State.grantsOf ⟨tasks, clock, grants⟩ taskId + if grant.taskId = taskId then 1 else 0 := by
  unfold State.grantsOf
  rw [List.countP_append, List.countP_singleton]
  simp

theorem settle_attempts (task : TaskRecord) (maxAttempts stamp : Int) :
    (task.settle maxAttempts stamp).attempts = task.attempts := by
  unfold TaskRecord.settle
  split <;> rfl

/-- A claim adds one to the attempts of its task, and nothing else changes them. -/
theorem step_counted (spaced : Spaced state) (counted : Counted taskId state)
    (unclaimed : CreatesUnclaimed taskId state action)
    (stepped : step backend state action = some next) : Counted taskId next := by
  obtain ⟨-, effect⟩ := step_effect stepped
  intro row stored
  cases effect with
  | unchanged => exact counted row stored
  | created task fresh tasks asked same inserted =>
      dsimp only at stored
      rw [Table.find_insert inserted] at stored
      split at stored
      · rename_i here
        obtain rfl := Option.some.inj stored
        have missing : state.tasks.find taskId = none := by
          rw [here]
          exact (Table.insert_some.mp inserted).1
        have none_yet := spaced.no_grants missing
        have initial := unclaimed task asked (same.1.symm.trans here.symm)
        change fresh.attempts = state.grantsOf taskId
        rw [same.2.2, initial, none_yet]
        rfl
      · exact counted row stored
  | claimed claimedId leaseSeconds task asked positive found free =>
      rw [grantsOf_append]
      dsimp only at stored
      rw [find_claimTask] at stored
      split at stored
      · rename_i here
        obtain ⟨old, present, rfl⟩ := Option.map_eq_some_iff.mp stored
        have before := counted old present
        change old.attempts + 1 = _
        rw [before, if_pos here.symm]
        rfl
      · rename_i different
        rw [if_neg fun same => different same.symm, Nat.add_zero]
        exact counted row stored
  | reported reportedId status result error final =>
      dsimp only at stored
      rw [find_writeStatus] at stored
      split at stored
      · obtain ⟨old, present, rfl⟩ := Option.map_eq_some_iff.mp stored
        exact counted old present
      · exact counted row stored
  | reclaimed limit maxAttempts stale tasks asked settled =>
      rcases settled taskId with same | ⟨old, before, -, after⟩
      · exact counted row (same.symm.trans stored)
      · obtain rfl := Option.some.inj (after.symm.trans stored)
        rw [settle_attempts]
        exact counted old before

theorem run_counted {start : Int} {actions : List Action}
    (reached : run (step backend) (.init start) actions = some state)
    (unclaimed : Meets (step backend) (CreatesUnclaimed taskId) (.init start) actions) :
    Counted taskId state := by
  have start_counted : Spaced (.init start) ∧ Counted taskId (.init start) :=
    ⟨Spaced.init start, fun _ found => nomatch found⟩
  refine (run_invariant (fun state => Spaced state ∧ Counted taskId state) ?_ start_counted
    unclaimed reached).2
  rintro before action after ⟨spaced, counted⟩ fresh stepped
  exact ⟨step_spaced spaced stepped, step_counted spaced counted fresh stepped⟩

end Attempts

/-- Grants of one task never overlap, a finished task is never granted, a refused claim changes
nothing, and a task counts its grants. -/
theorem claims_exclude {backend : Backend} {start : Int} {actions : List Action} {state : State}
    (reached : run (step backend) (.init start) actions = some state) :
    (state.grants.Pairwise fun first second => first.taskId = second.taskId →
      first.time + timedelta first.leaseSeconds ≤ second.time) ∧
    (∀ taskId task now leaseSeconds tasks, state.tasks.find taskId = some task → task.Terminal →
      backend.markProcessing now taskId leaseSeconds (some now) state.tasks ≠ .ok (true, tasks)) ∧
    (∀ taskId now leaseSeconds tasks,
      backend.markProcessing now taskId leaseSeconds (some now) state.tasks = .ok (false, tasks) →
        tasks = state.tasks) ∧
    ∀ taskId task, state.tasks.find taskId = some task →
      (∀ action ∈ actions, ∀ created, action.call = .create created → created.id = taskId →
        created.attempts = 0) →
      task.attempts = state.grantsOf taskId := by
  refine ⟨(run_spaced reached).apart, ?_, ?_, ?_⟩
  · intro taskId task now leaseSeconds tasks found terminal claimed
    obtain ⟨-, other, present, free, -⟩ := markProcessing_ok claimed
    obtain rfl := Option.some.inj (found.symm.trans present)
    rw [terminal.not_claimable] at free
    cases free
  · intro taskId now leaseSeconds tasks refused
    exact markProcessing_ok refused
  · intro taskId task found unclaimed
    exact run_counted reached (meets_of_forall _ unclaimed) task found

def newTask : TaskRecord :=
  { id := "t", type := "completion", status := .queued, payload := .obj [],
    expiresAt := 86400000000 }

/-- A claim, a takeover of its lease, a reclaim and a claim again. -/
def threeClaims : List Action :=
  [⟨0, .create newTask⟩, ⟨0, .markProcessing "t" 10⟩, ⟨5000000, .markProcessing "t" 10⟩,
    ⟨10000000, .markProcessing "t" 10⟩, ⟨20000000, .reclaim 100 5 ["t"]⟩,
    ⟨20000000, .markProcessing "t" 10⟩]

theorem threeClaims_accepted :
    (run (step .postgres) (.init 0) threeClaims).isSome = true := by
  decide +kernel

theorem claims_exclude_three :
    ((run (step .postgres) (.init 0) threeClaims).get threeClaims_accepted).grants.map Grant.time =
        [0, 10000000, 20000000] ∧
      ((run (step .postgres) (.init 0) threeClaims).get
        threeClaims_accepted).grants.Pairwise fun first second => first.taskId = second.taskId →
          first.time + timedelta first.leaseSeconds ≤ second.time :=
  ⟨by decide +kernel, (claims_exclude (Option.some_get threeClaims_accepted).symm).1⟩

end AiPlatform.Tasks.Claims

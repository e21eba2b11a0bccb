import AiPlatform.Lib.Machine
import AiPlatform.Tasks.StoreRedis

set_option autoImplicit false

/- One list of operations on the three stores. -/
namespace AiPlatform.Tasks.Store

open Machine RedisStore Datetime Columns
open Redis (Encodable)

structure State where
  memory : TaskTable
  redis : Db
  postgres : TaskTable
  created : List String

def init : State := ⟨.empty, .empty, .empty, []⟩

/-- An operation with the clock each store reads, the rows that Postgres' sub-select returns and the
replies to Redis' `SCAN`. -/
structure Action where
  operation : Operation
  memoryClock : Int
  redisClock : Int
  postgresClock : Int
  stale : List String := []
  replies : List (List String) := []

structure Outcome where
  memory : Answer × TaskTable
  redis : Answer × Db
  postgres : Answer × TaskTable

def outcome (namespace_ : String) (state : State) (action : Action) : Outcome where
  memory := memoryPerform action.memoryClock state.memory action.operation
  redis := redisPerform namespace_ action.redisClock action.replies state.redis action.operation
  postgres := postgresPerform action.postgresClock action.stale state.postgres action.operation

def Operation.creates : Operation → List String
  | .create task => [task.id]
  | _ => []

/-- What the sub-select and the `SCAN` of a reclaim return. -/
def Operation.Selects (state : State) (stale : List String) (replies : List (List String)) :
    Operation → Prop
  | .reclaim now limit _ =>
      Postgres.StaleSelection now limit state.postgres stale ∧ Scanned state.redis replies
  | _ => True

/-- The operations that are compared: ids are created once, times are datetimes and no key has
reached its TTL. -/
structure Allowed (state : State) (action : Action) : Prop where
  fresh : ∀ taskId ∈ action.operation.creates, taskId ∉ state.created
  alive : Alive action.redisClock state.redis
  clock : Representable action.redisClock
  typed : action.operation.Typed
  timely : action.operation.Timely
  selects : action.operation.Selects state action.stale action.replies

/-- The column counts one more attempt. -/
def Operation.Counts (postgres : TaskTable) : Operation → Prop
  | .markProcessing taskId _ _ => ∀ task ∈ postgres.find taskId, fitsInteger (task.attempts + 1)
  | _ => True

/-- The values fit the columns of `tasks`. -/
def Fitting (state : State) (action : Action) : Prop :=
  action.operation.Fits ∧ action.operation.Counts state.postgres

/-- A reclaim has a limit for every expired lease. -/
def Ample (state : State) (action : Action) : Prop :=
  match action.operation with
  | .reclaim now limit _ => (expired now state.memory.rows).length ≤ limit
  | _ => True

instance (document : Option Json) : Decidable (document = some .null) :=
  match document with
  | some .null => .isTrue rfl
  | none | some (.bool _) | some (.num _) | some (.float _) | some (.str _) | some (.arr _)
    | some (.obj _) =>
      .isFalse nofun

instance (task : TaskRecord) : Decidable (Encodable task) :=
  decidable_of_iff
    ((∀ time ∈ task.lockedUntil, Representable time) ∧ Representable task.expiresAt ∧
      (∀ time ∈ task.createdAt, Representable time) ∧
      (∀ time ∈ task.updatedAt, Representable time) ∧ task.result ≠ some .null)
    ⟨fun ⟨locked, expires, created, updated, result⟩ => ⟨locked, expires, created, updated, result⟩,
      fun encodable => ⟨encodable.1, encodable.2, encodable.3, encodable.4, encodable.5⟩⟩

instance (operation : Operation) : Decidable operation.Typed :=
  match operation with
  | .create task => inferInstanceAs (Decidable (Encodable task))
  | .markProcessing _ _ now => inferInstanceAs (Decidable (Representable now))
  | .markCompleted _ result => inferInstanceAs (Decidable (some result ≠ some .null))
  | .reclaim now _ _ => inferInstanceAs (Decidable (Representable now))
  | .get _ _ | .markFailed _ _ => .isTrue trivial

instance (operation : Operation) : Decidable operation.Timely :=
  match operation with
  | .markProcessing _ leaseSeconds now =>
      inferInstanceAs (Decidable (Representable (now + timedelta leaseSeconds)))
  | .create _ | .get _ _ | .markCompleted _ _ | .markFailed _ _ | .reclaim _ _ _ => .isTrue trivial

instance (state : State) (stale : List String) (replies : List (List String))
    (operation : Operation) : Decidable (operation.Selects state stale replies) :=
  match operation with
  | .reclaim now limit _ =>
      inferInstanceAs (Decidable (Postgres.StaleSelection now limit state.postgres stale ∧
        ∀ entry ∈ state.redis.rows, entry.key ∈ replies.flatten))
  | .create _ | .get _ _ | .markProcessing _ _ _ | .markCompleted _ _ | .markFailed _ _ =>
      .isTrue trivial

instance (state : State) (action : Action) : Decidable (Allowed state action) :=
  decidable_of_iff
    ((∀ taskId ∈ action.operation.creates, taskId ∉ state.created) ∧
      Alive action.redisClock state.redis ∧ Representable action.redisClock ∧
      action.operation.Typed ∧ action.operation.Timely ∧
      action.operation.Selects state action.stale action.replies)
    ⟨fun ⟨fresh, alive, clock, typed, timely, selects⟩ =>
        ⟨fresh, alive, clock, typed, timely, selects⟩,
      fun allowed => ⟨allowed.1, allowed.2, allowed.3, allowed.4, allowed.5, allowed.6⟩⟩

instance (task : TaskRecord) : Decidable (PostgresStore.Fits task) :=
  decidable_of_iff
    ((sendable task.id ∧ task.id.toList.length ≤ 36) ∧
      (sendable task.type ∧ task.type.toList.length ≤ 64) ∧
      (sendable task.principalId ∧ task.principalId.toList.length ≤ 255) ∧
      (∀ requestId ∈ task.requestId, sendable requestId ∧ requestId.toList.length ≤ 255) ∧
      storableJson task.payload = true ∧ task.result.all storableJson = true ∧
      (∀ error ∈ task.error, sendable error) ∧ fitsInteger task.attempts)
    ⟨fun ⟨id, type, principalId, requestId, payload, result, error, attempts⟩ =>
        ⟨id, type, principalId, requestId, payload, result, error, attempts⟩,
      fun fits => ⟨fits.1, fits.2, fits.3, fits.4, fits.5, fits.6, fits.7, fits.8⟩⟩

instance (operation : Operation) : Decidable operation.Fits :=
  match operation with
  | .create task => inferInstanceAs (Decidable (PostgresStore.Fits task))
  | .get taskId principalId =>
      inferInstanceAs (Decidable (sendable taskId ∧ ∀ principal ∈ principalId, sendable principal))
  | .markProcessing taskId _ _ => inferInstanceAs (Decidable (sendable taskId))
  | .markCompleted taskId result =>
      inferInstanceAs (Decidable (sendable taskId ∧ storableJson result = true))
  | .markFailed taskId error => inferInstanceAs (Decidable (sendable taskId ∧ sendable error))
  | .reclaim _ limit maxAttempts =>
      inferInstanceAs (Decidable (fitsInteger limit ∧ fitsInteger maxAttempts))

instance (postgres : TaskTable) (operation : Operation) : Decidable (operation.Counts postgres) :=
  match operation with
  | .markProcessing taskId _ _ =>
      inferInstanceAs (Decidable (∀ task ∈ postgres.find taskId, fitsInteger (task.attempts + 1)))
  | .create _ | .get _ _ | .markCompleted _ _ | .markFailed _ _ | .reclaim _ _ _ => .isTrue trivial

instance (state : State) (action : Action) : Decidable (Fitting state action) :=
  inferInstanceAs (Decidable (_ ∧ _))

instance (state : State) (action : Action) : Decidable (Ample state action) := by
  unfold Ample
  cases action.operation <;> infer_instance

def step (namespace_ : String) (state : State) (action : Action) : Option State :=
  if Allowed state action then
    let outcome := outcome namespace_ state action
    some
      { memory := outcome.memory.2
        redis := outcome.redis.2
        postgres := outcome.postgres.2
        created := action.operation.creates ++ state.created }
  else none

theorem step_some {namespace_ : String} {state next : State} {action : Action} :
    step namespace_ state action = some next ↔
      Allowed state action ∧
        next =
          ⟨(outcome namespace_ state action).memory.2, (outcome namespace_ state action).redis.2,
          (outcome namespace_ state action).postgres.2, action.operation.creates ++
            state.created⟩ := by
  unfold step
  split
  · rename_i allowed
    simp [allowed, eq_comm]
  · rename_i refused
    simp [refused]

/-- Every id in the content was created. -/
def Created (created : List String) (records : List TaskRecord) : Prop :=
  ∀ taskId, content records taskId ≠ none → taskId ∈ created

theorem content_id {records : List TaskRecord} {taskId : String} {seen : TaskRecord}
    (found : content records taskId = some seen) : seen.id = taskId := by
  obtain ⟨task, matched, rfl⟩ := Option.map_eq_some_iff.mp found
  simpa using List.find?_some matched

theorem write_present {content : Content} {task : TaskRecord} {taskId : String}
    (present : content.write task taskId ≠ none) : taskId = task.id ∨ content taskId ≠ none := by
  unfold Content.write at present
  split at present
  · rename_i same
    exact .inl same
  · exact .inr present

theorem finish_present {before : List TaskRecord} {taskId other : String} {status : TaskStatus}
    {result : Option Json} {error : Option String}
    (present : ((content before).finish taskId status result error).2 other ≠ none) :
    content before other ≠ none := by
  unfold Content.finish at present
  split at present
  · exact present
  · rename_i task found
    rcases write_present present with rfl | known
    · rw [updateStatus_id, content_id found, found]
      exact Option.some_ne_none _
    · exact known

theorem perform_present {before : List TaskRecord} {operation : Operation} {taskId : String}
    (present : ((content before).perform operation).2 taskId ≠ none) :
    taskId ∈ operation.creates ∨ content before taskId ≠ none := by
  cases operation with
  | create task =>
      rcases write_present present with rfl | known
      · exact .inl List.mem_cons_self
      · exact .inr known
  | get other principalId => exact .inr present
  | markProcessing other leaseSeconds now =>
      simp only [Content.perform] at present
      split at present
      · exact .inr present
      · split at present
        · exact .inr present
        · rename_i task found
          split at present
          · rcases write_present present with rfl | known
            · rw [claim_id, content_id found, found]
              exact .inr (Option.some_ne_none _)
            · exact .inr known
          · exact .inr present
  | markCompleted other result => exact .inr (finish_present present)
  | markFailed other error => exact .inr (finish_present present)
  | reclaim now limit maxAttempts => exact .inr present

/-- An operation adds no id but the one it creates. -/
theorem Effect.created {operation : Operation} {before after : List TaskRecord} {answer : Answer}
    (effect : Effect operation before answer after) {created : List String}
    (known : Created created before) : Created (operation.creates ++ created) after := by
  intro taskId present
  cases effect with
  | settles positive many settles =>
      rw [settles.leaves] at present
      split at present
      · exact known taskId fun missing => present (by rw [missing, Option.map_none])
      · exact known taskId present
  | performs other answers leaves =>
      rw [leaves] at present
      rcases perform_present present with added | old
      · exact List.mem_append_left _ added
      · exact List.mem_append_right _ (known taskId old)

theorem find_of_created {tasks : TaskTable} {created : List String}
    (known : Created created tasks.rows) {taskId : String} (fresh : taskId ∉ created) :
    tasks.find taskId = none := by
  have missing : content tasks.rows taskId = none := by
    by_contra present
    exact fresh (known taskId present)
  exact Option.map_eq_none_iff.mp missing

/-- What every run keeps, whatever its limits are. -/
structure Inv (namespace_ : String) (state : State) : Prop where
  memory : Created state.created state.memory.rows
  postgres : Created state.created state.postgres.rows
  redis : ∃ tasks, Holds namespace_ state.redis tasks

theorem init_inv (namespace_ : String) : Inv namespace_ init where
  memory := fun _ present => absurd rfl present
  postgres := fun _ present => absurd rfl present
  redis := ⟨.empty, List.Forall₂.nil⟩

section Step

variable {namespace_ : String} {state next : State} {action : Action}

/-- Each store has the effect of the operation on its own tasks. -/
structure Effects (namespace_ : String) (state : State) (action : Action)
    (next : State) : Prop where
  memory : Effect action.operation state.memory.rows (outcome namespace_ state action).memory.1
    next.memory.rows
  redis : Effect action.operation (records state.redis) (outcome namespace_ state action).redis.1
    (records next.redis)
  postgres : Effect action.operation state.postgres.rows
    (outcome namespace_ state action).postgres.1 next.postgres.rows
  created : next.created = action.operation.creates ++ state.created
  holds : ∃ tasks, Holds namespace_ next.redis tasks

theorem step_effects (inv : Inv namespace_ state) (fitting : Fitting state action)
    (stepped : step namespace_ state action = some next) :
    Effects namespace_ state action next := by
  obtain ⟨allowed, rfl⟩ := step_some.mp stepped
  obtain ⟨tasks, holds⟩ := inv.redis
  have freshMemory : ∀ task, action.operation = .create task →
      state.memory.find task.id = none := by
    intro task shape
    apply find_of_created inv.memory
    apply allowed.fresh
    rw [shape]
    exact List.mem_cons_self
  have runs : action.operation.Runs state.postgres action.stale := by
    have fresh := allowed.fresh
    have selects := allowed.selects
    have counts := fitting.2
    cases shape : action.operation with
    | create task =>
        rw [shape] at fresh
        exact find_of_created inv.postgres (fresh task.id List.mem_cons_self)
    | markProcessing taskId leaseSeconds now =>
        rw [shape] at counts
        exact counts
    | reclaim now limit maxAttempts =>
        rw [shape] at selects
        exact selects.1
    | get _ _ => trivial
    | markCompleted _ _ => trivial
    | markFailed _ _ => trivial
  have scanned : ∀ now limit maxAttempts, action.operation = .reclaim now limit maxAttempts →
      Scanned state.redis action.replies := by
    intro now limit maxAttempts shape
    have selects := allowed.selects
    rw [shape] at selects
    exact selects.2
  obtain ⟨after, kept, does⟩ := redis_refines holds allowed.alive allowed.clock allowed.typed
    allowed.timely scanned
  exact
    { memory := memory_does action.memoryClock state.memory action.operation freshMemory
      redis := by
        have decoded : records (outcome namespace_ state action).redis.2 = after.rows :=
          Holds.records_eq kept
        rw [holds.records_eq]
        show Effect _ tasks.rows _ (records (outcome namespace_ state action).redis.2)
        rw [decoded]
        exact does
      postgres := postgres_does action.postgresClock fitting.1 runs
      created := rfl
      holds := ⟨after, kept⟩ }

theorem Effects.inv (effects : Effects namespace_ state action next) (inv : Inv namespace_ state) :
    Inv namespace_ next where
  memory := by
    rw [effects.created]
    exact effects.memory.created inv.memory
  postgres := by
    rw [effects.created]
    exact effects.postgres.created inv.postgres
  redis := effects.holds

theorem Inv.records_unique (inv : Inv namespace_ state) :
    ((records state.redis).map TaskRecord.id).Nodup := by
  obtain ⟨tasks, holds⟩ := inv.redis
  rw [holds.records_eq]
  exact tasks.unique

/-- The three stores have the same tasks, apart from their timestamps. -/
structure Same (state : State) : Prop where
  redis : content state.memory.rows = content (records state.redis)
  postgres : content state.memory.rows = content state.postgres.rows

/-- The three stores answer alike and have the same tasks afterwards. -/
structure Agree (outcome : Outcome) (next : State) : Prop where
  redis : outcome.memory.1.Agrees outcome.redis.1
  postgres : outcome.memory.1.Agrees outcome.postgres.1
  tasks : Same next

theorem Effects.agree (effects : Effects namespace_ state action next) (inv : Inv namespace_ state)
    (same : Same state) (ample : Ample state action) :
    Agree (outcome namespace_ state action) next := by
  have enough : ∀ now limit maxAttempts, action.operation = .reclaim now limit maxAttempts →
      (expired now state.memory.rows).length ≤ limit := by
    intro now limit maxAttempts shape
    unfold Ample at ample
    rw [shape] at ample
    exact ample
  have redis := effects.memory.agree state.memory.unique inv.records_unique same.redis effects.redis
    enough
  have postgres := effects.memory.agree state.memory.unique state.postgres.unique same.postgres
    effects.postgres enough
  exact ⟨redis.1, postgres.1, redis.2, postgres.2⟩

end Step

section Runs

variable {namespace_ : String} {actions : List Action} {state : State}

theorem run_inv (fits : Meets (step namespace_) Fitting init actions)
    (reached : run (step namespace_) init actions = some state) : Inv namespace_ state :=
  run_invariant (Inv namespace_)
    (fun _ _ _ inv fitting stepped => (step_effects inv fitting stepped).inv inv)
    (init_inv namespace_) fits reached

theorem run_same (fits : Meets (step namespace_) Fitting init actions)
    (ample : Meets (step namespace_) Ample init actions)
    (reached : run (step namespace_) init actions = some state) : Same state := by
  have kept := run_invariant (fun state => Inv namespace_ state ∧ Same state)
    (fun _ _ _ holds guard stepped =>
      have effects := step_effects holds.1 guard.1 stepped
      ⟨effects.inv holds.1, (effects.agree holds.1 holds.2 guard.2).tasks⟩)
    ⟨init_inv namespace_, rfl, rfl⟩ (fits.and ample) reached
  exact kept.2

end Runs

/-- In every run whose values fit the columns the stores agree at each step while no reclaim has to
choose, and a reclaim settles as many tasks as its limit allows in each of them. -/
theorem task_stores_agree {namespace_ : String} {actions : List Action} {action : Action}
    {state next : State} (reached : run (step namespace_) init actions = some state)
    (stepped : step namespace_ state action = some next)
    (fits : Meets (step namespace_) Fitting init (actions ++ [action])) :
    (Meets (step namespace_) Ample init (actions ++ [action]) →
      Agree (outcome namespace_ state action) next) ∧
    ∀ now limit maxAttempts, action.operation = .reclaim now limit maxAttempts → 0 < limit →
      SettlesUpTo now limit state.memory.rows next.memory.rows ∧
      SettlesUpTo now limit (records state.redis) (records next.redis) ∧
      SettlesUpTo now limit state.postgres.rows next.postgres.rows := by
  obtain ⟨fitsBefore, fitsLast⟩ := meets_append.mp fits
  have fitting : Fitting state action := (fitsLast state reached).1
  have inv := run_inv fitsBefore reached
  have effects := step_effects inv fitting stepped
  constructor
  · intro ample
    obtain ⟨ampleBefore, ampleLast⟩ := meets_append.mp ample
    exact effects.agree inv (run_same fitsBefore ampleBefore reached) (ampleLast state reached).1
  · intro now limit maxAttempts shape positive
    have memory := effects.memory
    have redis := effects.redis
    have postgres := effects.postgres
    rw [shape] at memory redis postgres
    exact ⟨memory.settlesUpTo state.memory.unique positive,
      redis.settlesUpTo inv.records_unique positive,
      postgres.settlesUpTo state.postgres.unique positive⟩

def prompt (taskId : String) : TaskRecord where
  id := taskId
  type := "completion"
  status := .queued
  payload := .obj [("prompt", .str "hello")]
  expiresAt := timedelta 3600

def at_ (clock : Int) (operation : Operation) : Action where
  operation := operation
  memoryClock := clock
  redisClock := clock
  postgresClock := clock

/-- A task is created and claimed for a second. -/
def abandoned : List Action :=
  [at_ 0 (.create (prompt "job-1")), at_ 0 (.markProcessing "job-1" 1 0)]

/-- The reclaim that finds its lease expired. -/
def rescue : Action where
  operation := .reclaim (timedelta 60) 100 3
  memoryClock := timedelta 60
  redisClock := timedelta 60
  postgresClock := timedelta 60
  stale := ["job-1"]
  replies := [[], ["tasks:job-1"]]

theorem abandoned_accepted : (run (step "tasks") init abandoned).isSome = true := by decide +kernel

theorem rescue_accepted :
    (step "tasks" ((run (step "tasks") init abandoned).get abandoned_accepted) rescue).isSome =
      true := by
  decide +kernel

theorem task_stores_agree_rescue :
    ∃ state next, run (step "tasks") init abandoned = some state ∧
      step "tasks" state rescue = some next ∧ Agree (outcome "tasks" state rescue) next ∧
      SettlesUpTo (timedelta 60) 100 state.memory.rows next.memory.rows := by
  have reached := (Option.some_get abandoned_accepted).symm
  have stepped := (Option.some_get rescue_accepted).symm
  have agreed := task_stores_agree reached stepped (by decide +kernel)
  exact ⟨_, _, reached, stepped, agreed.1 (by decide +kernel),
    (agreed.2 (timedelta 60) 100 3 rfl (by decide)).1⟩

/-- The id of a task that has a character more than the column. -/
def wideId : String := "0123456789012345678901234567890123456"

theorem wide_accepted :
    (step "tasks" init (at_ 0 (.create (prompt wideId)))).isSome = true := by decide +kernel

/-- An id that is too wide for the column is created in two of the stores. -/
theorem wide_id_diverges :
    ∃ next, step "tasks" init (at_ 0 (.create (prompt wideId))) = some next ∧
      Ample init (at_ 0 (.create (prompt wideId))) ∧
      (content next.memory.rows wideId).isSome = true ∧
      (content (records next.redis) wideId).isSome = true ∧
      content next.postgres.rows wideId = none := by
  refine ⟨_, (Option.some_get wide_accepted).symm, trivial, by decide +kernel,
    by decide +kernel, ?_⟩
  apply Option.isNone_iff_eq_none.mp
  decide +kernel

end AiPlatform.Tasks.Store

import AiPlatform.Tasks.Workers

set_option autoImplicit false

/- What a task ended with. Reports are not fenced by the claim they answer, so the outcome is
stable exactly when no report meets a task that already has one. -/
namespace AiPlatform.Tasks.Workers

open Machine

/-- Status, result and error of a terminal task are the same in every later state of the run. -/
def OutcomesKept (backend : Backend) (start : Int) (actions : List Action) : Prop :=
  ∀ before between after state later, actions = before ++ between ++ after →
    run (step backend) (.init start) before = some state →
    run (step backend) state between = some later →
    ∀ taskId task, state.tasks.find taskId = some task → task.Terminal →
      ∃ same, later.tasks.find taskId = some same ∧ same.outcome = task.outcome

/-- A report meets a task without an outcome, or repeats the outcome it has. -/
def ReportsOpen (state : State) (action : Action) : Prop :=
  ∀ handlerId status result error, action.call.writes = some (handlerId, status, result, error) →
    ∀ handler task, state.handlers.find handlerId = some handler → handler.reported = false →
      state.tasks.find handler.taskId = some task →
      ¬ task.Terminal ∨ task.status = status ∧ (∀ value, result = some value →
        task.result = some value) ∧ ∀ text, error = some text → task.error = some text

/-- A handler reports before the lease of its own claim runs out. -/
def ReportsWithinLease (state : State) (action : Action) : Prop :=
  ∀ handlerId status result error, action.call.writes = some (handlerId, status, result, error) →
    ∀ handler, state.handlers.find handlerId = some handler → action.now < handler.leaseUntil

theorem updateStatus_outcome {task : TaskRecord} {status : TaskStatus} {result : Option Json}
    {error : Option String} {now : Int} (sameStatus : task.status = status)
    (sameResult : ∀ value, result = some value → task.result = some value)
    (sameError : ∀ text, error = some text → task.error = some text) :
    (task.updateStatus status result error now).outcome = task.outcome := by
  have results : result.or task.result = task.result := by
    cases given : result with
    | none => rfl
    | some value => exact (sameResult value given).symm
  have errors : error.or task.error = task.error := by
    cases given : error with
    | none => rfl
    | some text => exact (sameError text given).symm
  simp only [TaskRecord.outcome, TaskRecord.updateStatus, sameStatus, results, errors]

theorem step_keeps_outcome {backend : Backend} {state next : State} {action : Action}
    (stepped : step backend state action = some next) (harmless : ReportsOpen state action)
    {taskId : String} {task : TaskRecord} (found : state.tasks.find taskId = some task)
    (terminal : task.Terminal) :
    ∃ same, next.tasks.find taskId = some same ∧ same.outcome = task.outcome := by
  cases (step_effect stepped).2 with
  | unchanged => exact ⟨task, found, rfl⟩
  | created created stored tasks asked inserted =>
      refine ⟨task, ?_, rfl⟩
      have other : taskId ≠ stored.id := by
        rintro rfl
        have missing := (Table.insert_some.mp inserted).1
        rw [found] at missing
        cases missing
      simpa only [Table.find_insert inserted, other, ↓reduceIte] using found
  | claimed handlerId claimedId leaseSeconds claimedTask handlers asked positive claimedFound
      free =>
      refine ⟨task, ?_, rfl⟩
      have other : taskId ≠ claimedId := by
        rintro rfl
        obtain rfl := Option.some.inj (found.symm.trans claimedFound)
        rw [terminal.not_claimable] at free
        cases free
      simpa only [find_claimTask, other, ↓reduceIte] using found
  | reported handler status result error reportedTask written holds pending reportedFound =>
      by_cases here : taskId = handler.taskId
      · subst here
        obtain rfl := Option.some.inj (found.symm.trans reportedFound)
        refine ⟨task.updateStatus status result error action.now, ?_, ?_⟩
        · simp only [find_writeStatus, ↓reduceIte, found, Option.map_some]
        rcases harmless handler.id status result error written handler task holds pending found
          with unfinished | ⟨sameStatus, sameResult, sameError⟩
        · exact absurd terminal unfinished
        · exact updateStatus_outcome sameStatus sameResult sameError
      · exact ⟨task, by simpa only [find_writeStatus, here, ↓reduceIte] using found, rfl⟩
  | reclaimed limit maxAttempts stale tasks asked settled =>
      rcases settled taskId with same | ⟨expiredTask, expiredFound, expired, -⟩
      · exact ⟨task, same.trans found, rfl⟩
      · obtain rfl := Option.some.inj (found.symm.trans expiredFound)
        rw [terminal.not_leaseExpired] at expired
        cases expired

theorem Terminal.of_outcome {task same : TaskRecord} (terminal : task.Terminal)
    (equal : same.outcome = task.outcome) : same.Terminal := by
  have status : same.status = task.status := congrArg Prod.fst equal
  simpa only [TaskRecord.Terminal, status] using terminal

theorem run_keeps_outcome {backend : Backend} {state final : State} {actions : List Action}
    (met : Meets (step backend) ReportsOpen state actions)
    (reached : run (step backend) state actions = some final) {taskId : String}
    {task : TaskRecord} (found : state.tasks.find taskId = some task)
    (terminal : task.Terminal) :
    ∃ same, final.tasks.find taskId = some same ∧ same.outcome = task.outcome := by
  refine run_invariant
    (fun state => ∃ same, state.tasks.find taskId = some same ∧ same.outcome = task.outcome)
    ?_ ⟨task, found, rfl⟩ met reached
  rintro state action next ⟨same, present, equal⟩ harmless stepped
  obtain ⟨later, laterFound, laterEqual⟩ := step_keeps_outcome stepped harmless present
    (Terminal.of_outcome terminal equal)
  exact ⟨later, laterFound, laterEqual.trans equal⟩

theorem outcomesKept_of_open {backend : Backend} {start : Int} {actions : List Action}
    (met : Meets (step backend) ReportsOpen (.init start) actions) :
    OutcomesKept backend start actions := by
  rintro before between after state later rfl reached onward taskId task found terminal
  rw [List.append_assoc, meets_append] at met
  have rest := meets_append.mp (met.2 state reached)
  exact run_keeps_outcome rest.1 onward found terminal

/-- A report on a task with another outcome is itself a step that changes the outcome. -/
theorem open_of_outcomesKept {backend : Backend} {start : Int} {actions : List Action}
    {final : State} (accepted : run (step backend) (.init start) actions = some final)
    (kept : OutcomesKept backend start actions) :
    Meets (step backend) ReportsOpen (.init start) actions := by
  rw [meets_iff]
  rintro before action after state rfl reached handlerId status result error written handler task
    holds pending found
  by_cases terminal : task.Terminal
  · right
    rw [run_append_some] at accepted
    obtain ⟨middle, arrived, onward⟩ := accepted
    obtain rfl := Option.some.inj (reached.symm.trans arrived)
    obtain ⟨next, stepped, -⟩ := run_cons_some.mp onward
    obtain ⟨same, present, equal⟩ := kept before [action] after state next (by simp) reached
      (run_cons_some.mpr ⟨next, stepped, rfl⟩) handler.taskId task found terminal
    rw [step_report (step_effect stepped).1 written holds pending found] at stepped
    cases stepped
    simp only [find_writeStatus, ↓reduceIte, found, Option.map_some, Option.some.injEq] at present
    subst present
    simp only [TaskRecord.outcome, TaskRecord.updateStatus, Prod.mk.injEq] at equal
    obtain ⟨sameStatus, sameResult, sameError⟩ := equal
    refine ⟨sameStatus.symm, ?_, ?_⟩
    · rintro value rfl
      exact sameResult.symm
    · rintro text rfl
      exact sameError.symm
  · exact .inl terminal

/-- A claim whose lease is live still owns its task, and owns it alone. -/
structure LeasesOwned (state : State) : Prop where
  live : ∀ handler ∈ state.handlers.rows, handler.reported = false →
    state.clock < handler.leaseUntil → ∃ task, state.tasks.find handler.taskId = some task ∧
      task.status = .processing ∧ task.lockedUntil = some handler.leaseUntil
  single : ∀ left ∈ state.handlers.rows, ∀ right ∈ state.handlers.rows,
    left.reported = false → right.reported = false → state.clock < left.leaseUntil →
    state.clock < right.leaseUntil → left.taskId = right.taskId → left = right

theorem LeasesOwned.tick {state : State} (owned : LeasesOwned state) {now : Int}
    (later : state.clock ≤ now) : LeasesOwned { state with clock := now } where
  live handler member pending running :=
    owned.live handler member pending (lt_of_le_of_lt later running)
  single left memLeft right memRight openLeft openRight runLeft runRight :=
    owned.single left memLeft right memRight openLeft openRight
      (lt_of_le_of_lt later runLeft) (lt_of_le_of_lt later runRight)

/-- A task under a live lease is neither claimable nor stale. -/
theorem not_claimable_of_live {task : TaskRecord} {now lease : Int}
    (processing : task.status = .processing) (locked : task.lockedUntil = some lease)
    (running : now < lease) : task.leaseExpired now = false ∧ task.claimable now = false := by
  have late : ¬ lease ≤ now := by omega
  simp [TaskRecord.leaseExpired, TaskRecord.claimable, processing, locked, late]

theorem mem_finish {handlers : Table Handler.id} {handlerId : Nat} {handler : Handler}
    (member : handler ∈ (finish handlers handlerId).rows) (pending : handler.reported = false) :
    handler ∈ handlers.rows ∧ handler.id ≠ handlerId := by
  simp only [finish, Table.modify, Table.rows_map, List.mem_map] at member
  obtain ⟨old, inside, shape⟩ := member
  split at shape
  · subst shape
    cases pending
  · subst shape
    exact ⟨inside, ‹_›⟩

theorem Effect.leasesOwned {state next : State} {call : Call}
    (effect : Effect state state.clock call next) (owned : LeasesOwned state)
    (inLease : ∀ handlerId status result error,
      call.writes = some (handlerId, status, result, error) →
      ∀ handler, state.handlers.find handlerId = some handler →
        state.clock < handler.leaseUntil) : LeasesOwned next := by
  cases effect with
  | unchanged => exact owned
  | created created stored tasks asked inserted =>
      refine ⟨fun handler member pending running => ?_, owned.single⟩
      obtain ⟨task, found, held⟩ := owned.live handler member pending running
      refine ⟨task, ?_, held⟩
      have other : handler.taskId ≠ stored.id := by
        intro same
        have missing := (Table.insert_some.mp inserted).1
        rw [← same, found] at missing
        cases missing
      simpa only [Table.find_insert inserted, other, ↓reduceIte] using found
  | claimed handlerId taskId leaseSeconds task handlers asked positive found free started =>
      have shape := (Table.insert_some.mp started).2
      have apart : ∀ handler ∈ state.handlers.rows, handler.reported = false →
          state.clock < handler.leaseUntil → handler.taskId ≠ taskId := by
        rintro handler member pending running rfl
        obtain ⟨held, heldFound, processing, locked⟩ := owned.live handler member pending running
        obtain rfl := Option.some.inj (found.symm.trans heldFound)
        rw [(not_claimable_of_live processing locked running).2] at free
        cases free
      constructor
      · intro handler member pending running
        simp only [shape, List.mem_append, List.mem_singleton] at member
        rcases member with old | rfl
        · have other := apart handler old pending running
          simpa only [find_claimTask, other, ↓reduceIte] using
            owned.live handler old pending running
        · exact ⟨task.claim state.clock leaseSeconds state.clock,
            by simp only [find_claimTask, ↓reduceIte, found, Option.map_some], rfl, rfl⟩
      · intro left memLeft right memRight openLeft openRight runLeft runRight same
        simp only [shape, List.mem_append, List.mem_singleton] at memLeft memRight
        rcases memLeft with oldLeft | rfl <;> rcases memRight with oldRight | rfl
        · exact owned.single left oldLeft right oldRight openLeft openRight runLeft runRight same
        · exact absurd same (apart left oldLeft openLeft runLeft)
        · exact absurd same.symm (apart right oldRight openRight runRight)
        · rfl
  | reported handler status result error task written holds pending found =>
      have running := inLease handler.id status result error written handler holds
      have held := (Table.find_some.mp holds).1
      constructor
      · intro other member openOther runOther
        obtain ⟨inside, different⟩ := mem_finish member openOther
        have apart : other.taskId ≠ handler.taskId := fun same =>
          different (congrArg Handler.id
            (owned.single other inside handler held openOther pending runOther running same))
        simpa only [find_writeStatus, apart, ↓reduceIte] using
          owned.live other inside openOther runOther
      · intro left memLeft right memRight openLeft openRight
        exact owned.single left (mem_finish memLeft openLeft).1 right
          (mem_finish memRight openRight).1 openLeft openRight
  | reclaimed limit maxAttempts stale tasks asked settled =>
      refine ⟨fun handler member pending running => ?_, owned.single⟩
      obtain ⟨task, found, processing, locked⟩ := owned.live handler member pending running
      refine ⟨task, ?_, processing, locked⟩
      rcases settled handler.taskId with same | ⟨expiredTask, expiredFound, expired, -⟩
      · exact same.trans found
      · obtain rfl := Option.some.inj (found.symm.trans expiredFound)
        rw [(not_claimable_of_live processing locked running).1] at expired
        cases expired

theorem step_leasesOwned {backend : Backend} {state next : State} {action : Action}
    (owned : LeasesOwned state) (inLease : ReportsWithinLease state action)
    (stepped : step backend state action = some next) : LeasesOwned next := by
  obtain ⟨later, effect⟩ := step_effect stepped
  exact effect.leasesOwned (owned.tick later) inLease

theorem open_of_withinLease {state : State} {action : Action} (owned : LeasesOwned state)
    (inLease : ReportsWithinLease state action) (later : state.clock ≤ action.now) :
    ReportsOpen state action := by
  intro handlerId status result error written handler task holds pending found
  have running := inLease handlerId status result error written handler holds
  obtain ⟨held, heldFound, processing, -⟩ := owned.live handler
    (Table.find_some.mp holds).1 pending (by omega)
  obtain rfl := Option.some.inj (found.symm.trans heldFound)
  left
  simp [TaskRecord.Terminal, processing]

theorem init_leasesOwned (start : Int) : LeasesOwned (.init start) :=
  ⟨fun _ member => absurd member List.not_mem_nil,
    fun _ member => absurd member List.not_mem_nil⟩

/-- Terminal outcomes are stable exactly in the runs whose reports find the task open, and in
particular in the runs whose handlers all report within their lease. -/
theorem outcomesKept_iff_reportsOpen (backend : Backend) (start : Int) (actions : List Action)
    (final : State) (accepted : run (step backend) (.init start) actions = some final) :
    (OutcomesKept backend start actions ↔
      Meets (step backend) ReportsOpen (.init start) actions) ∧
    (Meets (step backend) ReportsWithinLease (.init start) actions →
      OutcomesKept backend start actions) := by
  refine ⟨⟨open_of_outcomesKept accepted, outcomesKept_of_open⟩, fun inLease => ?_⟩
  apply outcomesKept_of_open
  exact inLease.of_invariant (fun _ _ _ owned lease stepped => step_leasesOwned owned lease stepped)
    (fun _ _ _ owned lease stepped => open_of_withinLease owned lease (step_effect stepped).1)
    (init_leasesOwned start) accepted

def sampleTask : TaskRecord :=
  { id := "t", type := "completion", status := .queued, payload := .obj [],
    expiresAt := 86400000000 }

/-- Handler 1 loses its lease, handler 2 takes the task over and completes it, and then
handler 1 marks it failed. -/
def lateReport : List Action :=
  [⟨0, .create sampleTask⟩, ⟨0, .markProcessing 1 "t" 10⟩, ⟨10000000, .markProcessing 2 "t" 10⟩,
    ⟨11000000, .markCompleted 2 (.str "done")⟩,
    ⟨12000000, .markFailed 1 "TimeoutError: task failed (see worker logs)"⟩]

theorem outcome_overwritten_by_late_report :
    ¬ OutcomesKept .memory 0 lateReport ∧ ¬ OutcomesKept .postgres 0 lateReport := by
  constructor <;> intro kept
  · obtain ⟨same, present, equal⟩ := kept (lateReport.take 4) (lateReport.drop 4) [] _ _ rfl rfl rfl
      "t" _ rfl (.inl rfl)
    cases present
    cases equal
  · obtain ⟨same, present, equal⟩ := kept (lateReport.take 4) (lateReport.drop 4) [] _ _ rfl rfl rfl
      "t" _ rfl (.inl rfl)
    cases present
    cases equal

/-- A run in which the one handler reports in time. -/
theorem outcomesKept_in_time :
    OutcomesKept .memory 0
      [⟨0, .create sampleTask⟩, ⟨0, .markProcessing 1 "t" 10⟩,
        ⟨9000000, .markCompleted 1 (.str "done")⟩, ⟨9000001, .reclaim 100 3 []⟩] := by
  refine (outcomesKept_iff_reportsOpen .memory 0 _ _ rfl).2 ?_
  refine ⟨fun _ _ _ _ written => (by cases written), fun queued stepped => ?_⟩
  cases stepped
  refine ⟨fun _ _ _ _ written => (by cases written), fun claimed stepped => ?_⟩
  cases stepped
  refine ⟨?_, fun reported stepped => ?_⟩
  · rintro handlerId status result error written handler holds
    cases written
    cases holds
    decide
  · cases stepped
    exact ⟨fun _ _ _ _ written => (by cases written), fun _ _ => trivial⟩

end AiPlatform.Tasks.Workers

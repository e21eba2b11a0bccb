import AiPlatform.Tasks.Claims

set_option autoImplicit false

/- The cap on attempts. Only reclaim looks at it, so it holds as far as no expired lease of a task
at the cap is taken over before reclaim finds it. -/
namespace AiPlatform.Tasks.Claims

open Machine
open Workers (Backend)

/-- New tasks are queued and unclaimed, and reclaim passes share one cap. -/
def UnderCap (cap : Int) (_ : State) (action : Action) : Prop :=
  (∀ task, action.call = .create task → task.status = .queued ∧ task.attempts = 0) ∧
    ∀ limit maxAttempts stale, action.call = .reclaim limit maxAttempts stale → maxAttempts = cap

/-- A claim that takes over an expired lease finds fewer attempts than the cap. -/
def TakesOverBelow (cap : Int) (state : State) (action : Action) : Prop :=
  ∀ taskId leaseSeconds, action.call = .markProcessing taskId leaseSeconds → 0 < leaseSeconds →
    ∀ task, state.tasks.find taskId = some task → task.leaseExpired action.now = true →
      task.attempts < cap

/-- No task is granted more often than the cap, at any point of the run. -/
def Capped (backend : Backend) (start cap : Int) (actions : List Action) : Prop :=
  ∀ before after state, actions = before ++ after →
    run (step backend) (.init start) before = some state →
    ∀ taskId, (state.grantsOf taskId : Int) ≤ cap

section Steps

variable {backend : Backend} {state next : State} {action : Action} {cap : Int}

theorem UnderCap.unclaimed (under : UnderCap cap state action) (taskId : String) :
    CreatesUnclaimed taskId state action := fun task asked _ => (under.1 task asked).2

/-- Reclaim and creation only queue tasks below the cap. -/
def QueuedBelow (cap : Int) (state : State) : Prop :=
  ∀ taskId task, state.tasks.find taskId = some task → task.status = .queued → task.attempts < cap

theorem settle_queued {task : TaskRecord} {stamp : Int}
    (queued : (task.settle cap stamp).status = .queued) : task.attempts < cap := by
  unfold TaskRecord.settle at queued
  split at queued
  · cases queued
  · omega

theorem step_queuedBelow (positive : 1 ≤ cap) (below : QueuedBelow cap state)
    (under : UnderCap cap state action) (stepped : step backend state action = some next) :
    QueuedBelow cap next := by
  obtain ⟨-, effect⟩ := step_effect stepped
  intro taskId row stored queued
  cases effect with
  | unchanged => exact below taskId row stored queued
  | created task fresh tasks asked same inserted =>
      dsimp only at stored
      rw [Table.find_insert inserted] at stored
      split at stored
      · obtain rfl := Option.some.inj stored
        have initial := (under.1 task asked).2
        rw [same.2.2, initial]
        omega
      · exact below taskId row stored queued
  | claimed claimedId leaseSeconds task asked lease found free =>
      dsimp only at stored
      rw [find_claimTask] at stored
      split at stored
      · obtain ⟨old, present, rfl⟩ := Option.map_eq_some_iff.mp stored
        cases queued
      · exact below taskId row stored queued
  | reported reportedId status result error final =>
      dsimp only at stored
      rw [find_writeStatus] at stored
      split at stored
      · obtain ⟨old, present, rfl⟩ := Option.map_eq_some_iff.mp stored
        have status_queued : status = .queued := queued
        rcases final with done | failed
        · rw [done] at status_queued
          cases status_queued
        · rw [failed] at status_queued
          cases status_queued
      · exact below taskId row stored queued
  | reclaimed limit maxAttempts stale tasks asked settled =>
      have same_cap := under.2 limit maxAttempts stale asked
      rcases settled taskId with same | ⟨old, before, -, after⟩
      · exact below taskId row (same.symm.trans stored) queued
      · obtain rfl := Option.some.inj (after.symm.trans stored)
        rw [same_cap] at queued ⊢
        rw [settle_attempts]
        exact settle_queued queued

/-- What holds along a run under the cap, whoever takes over. -/
structure Tracked (cap : Int) (state : State) : Prop where
  spaced : Spaced state
  counted : ∀ taskId, Counted taskId state
  below : QueuedBelow cap state

theorem Tracked.init (cap start : Int) : Tracked cap (.init start) :=
  ⟨Spaced.init start, fun _ _ found => (nomatch found), fun _ _ found => (nomatch found)⟩

theorem step_tracked (positive : 1 ≤ cap) (tracked : Tracked cap state)
    (under : UnderCap cap state action) (stepped : step backend state action = some next) :
    Tracked cap next where
  spaced := step_spaced tracked.spaced stepped
  counted taskId := step_counted tracked.spaced (tracked.counted taskId) (under.unclaimed taskId)
    stepped
  below := step_queuedBelow positive tracked.below under stepped

/-- One call keeps the grants within the cap when its takeover does. -/
theorem step_capped (tracked : Tracked cap state) (takeover : TakesOverBelow cap state action)
    (stepped : step backend state action = some next)
    (within : ∀ taskId, (state.grantsOf taskId : Int) ≤ cap) (taskId : String) :
    (next.grantsOf taskId : Int) ≤ cap := by
  obtain ⟨-, effect⟩ := step_effect stepped
  cases effect with
  | unchanged => exact within taskId
  | created task fresh tasks asked same inserted => exact within taskId
  | reported reportedId status result error final => exact within taskId
  | reclaimed limit maxAttempts stale tasks asked settled => exact within taskId
  | claimed claimedId leaseSeconds task asked lease found free =>
      rw [grantsOf_append]
      have before := within taskId
      by_cases here : claimedId = taskId
      · subst here
        have counted := tracked.counted claimedId task found
        have room : task.attempts < cap := by
          rcases Bool.or_eq_true_iff.mp free with queued | expired
          · exact tracked.below claimedId task found (of_decide_eq_true queued)
          · exact takeover claimedId leaseSeconds asked lease task found expired
        rw [if_pos rfl]
        change ((state.grantsOf claimedId + 1 : Nat) : Int) ≤ cap
        omega
      · rw [if_neg here, Nat.add_zero]
        exact before

/-- A takeover of a task at the cap is granted. -/
theorem step_takeover {taskId : String} {leaseSeconds : Int} {task : TaskRecord}
    (asked : action.call = .markProcessing taskId leaseSeconds) (positive : 0 < leaseSeconds)
    (found : state.tasks.find taskId = some task) (expired : task.leaseExpired action.now = true)
    (stepped : step backend state action = some next) :
    next.grantsOf taskId = state.grantsOf taskId + 1 := by
  have free : task.claimable action.now = true := by simp [TaskRecord.claimable, expired]
  have granted : ∃ tasks, backend.markProcessing action.now taskId leaseSeconds
      (some action.now) state.tasks = .ok (true, tasks) := by
    cases backend with
    | memory =>
        have lease : ¬ leaseSeconds ≤ 0 := by omega
        exact ⟨_, by simp only [Backend.markProcessing, Memory.markProcessing, lease, ↓reduceIte,
          Option.getD_some, found, free]; rfl⟩
    | postgres => exact ⟨_, Postgres.markProcessing_claimed positive found free⟩
  obtain ⟨tasks, done⟩ := granted
  unfold step at stepped
  split at stepped
  · cases stepped
  · rw [asked] at stepped
    simp only [perform, done] at stepped
    obtain rfl := Option.some.inj stepped
    rw [grantsOf_append, if_pos rfl]
    rfl

end Steps

section Runs

variable {backend : Backend} {start cap : Int} {actions : List Action} {state : State}

theorem run_tracked (positive : 1 ≤ cap)
    (under : Meets (step backend) (UnderCap cap) (.init start) actions)
    (reached : run (step backend) (.init start) actions = some state) : Tracked cap state :=
  run_invariant (Tracked cap)
    (fun _ _ _ tracked guard stepped => step_tracked positive tracked guard stepped)
    (Tracked.init cap start) under reached

theorem run_capped (positive : 1 ≤ cap)
    (under : Meets (step backend) (UnderCap cap) (.init start) actions)
    (takeovers : Meets (step backend) (TakesOverBelow cap) (.init start) actions)
    (reached : run (step backend) (.init start) actions = some state) (taskId : String) :
    (state.grantsOf taskId : Int) ≤ cap := by
  have initial : Tracked cap (.init start) ∧
      ∀ taskId, ((State.init start).grantsOf taskId : Int) ≤ cap := by
    refine ⟨Tracked.init cap start, fun taskId => ?_⟩
    change (0 : Int) ≤ cap
    omega
  refine (run_invariant (fun state => Tracked cap state ∧
    ∀ taskId, (state.grantsOf taskId : Int) ≤ cap) ?_ initial (under.and takeovers) reached).2
    taskId
  rintro before action after ⟨tracked, within⟩ ⟨guard, takeover⟩ stepped
  exact ⟨step_tracked positive tracked guard stepped,
    step_capped tracked takeover stepped within⟩

end Runs

/-- The cap holds along a run exactly when no takeover finds a task at the cap. -/
theorem capped_iff_takeovers_below (backend : Backend) (start cap : Int) (actions : List Action)
    (final : State) (positive : 1 ≤ cap)
    (accepted : run (step backend) (.init start) actions = some final)
    (under : Meets (step backend) (UnderCap cap) (.init start) actions) :
    Capped backend start cap actions ↔
      Meets (step backend) (TakesOverBelow cap) (.init start) actions := by
  constructor
  · intro capped
    rw [meets_iff]
    rintro before action after middle rfl reached taskId leaseSeconds asked lease task found expired
    obtain ⟨state, arrived, onward⟩ := run_append_some.mp accepted
    obtain rfl := Option.some.inj (reached.symm.trans arrived)
    obtain ⟨next, stepped, -⟩ := run_cons_some.mp onward
    have granted := step_takeover asked lease found expired stepped
    have within := capped (before ++ [action]) after next (by simp)
      (run_append_some.mpr ⟨middle, reached, run_cons_some.mpr ⟨next, stepped, rfl⟩⟩) taskId
    have counted :=
      (run_tracked positive (meets_append.mp under).1 reached).counted taskId task found
    omega
  · rintro takeovers before after state rfl reached taskId
    exact run_capped positive (meets_append.mp under).1 (meets_append.mp takeovers).1 reached taskId

/-- The worker of the only allowed attempt dies, and the redelivered message is claimed again
before a reclaim pass. -/
def takeoverAtCap : List Action :=
  [⟨0, .create newTask⟩, ⟨0, .markProcessing "t" 10⟩, ⟨10000000, .markProcessing "t" 10⟩,
    ⟨20000000, .reclaim 100 1 ["t"]⟩]

theorem takeoverAtCap_accepted (backend : Backend) :
    (run (step backend) (.init 0) takeoverAtCap).isSome = true := by
  cases backend <;> decide +kernel

theorem underCap_create {cap now : Int} {state : State} {task : TaskRecord}
    (queued : task.status = .queued) (unclaimed : task.attempts = 0) :
    UnderCap cap state ⟨now, .create task⟩ := by
  refine ⟨?_, fun _ _ _ asked => by cases asked⟩
  intro other asked
  obtain rfl := Call.create.inj asked
  exact ⟨queued, unclaimed⟩

theorem underCap_claim (cap now leaseSeconds : Int) (state : State) (taskId : String) :
    UnderCap cap state ⟨now, .markProcessing taskId leaseSeconds⟩ :=
  ⟨fun _ asked => (by cases asked), fun _ _ _ asked => (by cases asked)⟩

theorem underCap_reclaim (cap now limit : Int) (state : State) (stale : List String) :
    UnderCap cap state ⟨now, .reclaim limit cap stale⟩ := by
  refine ⟨fun _ asked => (by cases asked), ?_⟩
  intro other maxAttempts selected asked
  exact (Call.reclaim.inj asked).2.1.symm

theorem takeoverAtCap_under (backend : Backend) :
    Meets (step backend) (UnderCap 1) (.init 0) takeoverAtCap :=
  ⟨underCap_create rfl rfl, fun _ _ => ⟨underCap_claim _ _ _ _ _, fun _ _ =>
    ⟨underCap_claim _ _ _ _ _, fun _ _ => ⟨underCap_reclaim _ _ _ _ _, fun _ _ => trivial⟩⟩⟩⟩

theorem cap_exceeded_by_takeover :
    Meets (step .memory) (UnderCap 1) (.init 0) takeoverAtCap ∧
      ¬ Capped .memory 0 1 takeoverAtCap ∧ ¬ Capped .postgres 0 1 takeoverAtCap := by
  refine ⟨takeoverAtCap_under .memory, ?_, ?_⟩
  · intro capped
    have within := capped takeoverAtCap [] _ (by simp)
      (Option.some_get (takeoverAtCap_accepted .memory)).symm "t"
    have twice : ((run (step .memory) (.init 0) takeoverAtCap).get
        (takeoverAtCap_accepted .memory)).grantsOf "t" = 2 := by decide +kernel
    omega
  · intro capped
    have within := capped takeoverAtCap [] _ (by simp)
      (Option.some_get (takeoverAtCap_accepted .postgres)).symm "t"
    have twice : ((run (step .postgres) (.init 0) takeoverAtCap).get
        (takeoverAtCap_accepted .postgres)).grantsOf "t" = 2 := by decide +kernel
    omega

/-- The same run under a cap of one is exactly what the condition leaves out. -/
theorem capped_iff_takeovers_below_one :
    Capped .postgres 0 1 takeoverAtCap ↔
      Meets (step .postgres) (TakesOverBelow 1) (.init 0) takeoverAtCap :=
  capped_iff_takeovers_below .postgres 0 1 takeoverAtCap _ (by decide)
    (Option.some_get (takeoverAtCap_accepted .postgres)).symm (takeoverAtCap_under .postgres)

end AiPlatform.Tasks.Claims

import Mathlib.Data.List.Permutation
import AiPlatform.Tasks.RedisCommands

set_option autoImplicit false

/- When the calls on one key are linearizable. A transition takes effect at the `EXEC` that
succeeds, an update at its `SETEX`, provided nothing was written since its `GET`. -/
namespace AiPlatform.Tasks.Redis

open Machine Linear

/-- What a call between two commands knows, as long as nothing has been written since. -/
def Ready (version : Nat) (stored : Option TaskRecord) (call : Call) : Prop :=
  match call.pc with
  | .watched seen => seen ≤ version
  | .mutated seen next => seen ≤ version ∧ ∀ mutate, call.request.plan = .transition mutate →
      seen = version → ∃ task, stored = some task ∧ mutate task = some next
  | .queuedWrite seen next _ => seen ≤ version ∧ ∀ mutate,
      call.request.plan = .transition mutate → seen = version →
      ∃ task, stored = some task ∧ mutate task = some next
  | .read seen next => seen ≤ version ∧ ∀ write, call.request.plan = .update write →
      seen = version → ∃ task, stored = some task ∧ write task = next
  | .timed seen next _ => seen ≤ version ∧ ∀ write, call.request.plan = .update write →
      seen = version → ∃ task, stored = some task ∧ write task = next
  | _ => True

structure Explained (taskId : String) (initial : Option TaskRecord) (state : State) : Prop where
  linear : Linearizable (Request.execute taskId) initial state.returned state.task
  ready : ∀ call ∈ state.calls.rows, Ready state.version state.task call

/-- The version an update read, when its `SETEX` comes next. -/
def Pc.overwrites : Pc → Option Nat
  | .timed seen _ _ => some seen
  | _ => none

/-- An update writes over the value it read. -/
def Undisturbed (state : State) : Action → Prop
  | .call _ _ => True
  | .advance id _ => ∀ call ∈ state.calls.find id, ∀ seen ∈ call.pc.overwrites,
      seen = state.version

instance (state : State) (action : Action) : Decidable (Undisturbed state action) :=
  match action with
  | .call _ _ => inferInstanceAs (Decidable True)
  | .advance id _ => inferInstanceAs (Decidable
      (∀ call ∈ state.calls.find id, ∀ seen ∈ call.pc.overwrites, seen = state.version))

/-- All that a command can do for the call that sends it. -/
inductive Moves (taskId : String) (state : State) (call : Call) : State → Prop
  | waits (pc : Pc) (open_ : (setPc pc call).event = none)
      (ready : Ready state.version state.task (setPc pc call)) :
      Moves taskId state call (state.goto call.id pc)
  | returns (result : Result)
      (answered : call.request.execute taskId state.task = (state.task, result)) :
      Moves taskId state call (state.goto call.id (.returned result))
  | writes (next : TaskRecord) (ttl : Int) (result : Result)
      (answered : call.request.execute taskId state.task = (some next, result)) :
      Moves taskId state call ((state.setex ttl next).goto call.id (.returned result))

/-- A write leaves every other call behind. -/
theorem Ready.behind {version : Nat} {stored other : Option TaskRecord} {call : Call}
    (ready : Ready version stored call) : Ready (version + 1) other call := by
  unfold Ready at ready ⊢
  cases shape : call.pc <;> simp only [shape] at ready ⊢
  · omega
  · exact ⟨by omega, fun _ _ same => absurd same (by omega)⟩
  · exact ⟨by omega, fun _ _ same => absurd same (by omega)⟩
  · exact ⟨by omega, fun _ _ same => absurd same (by omega)⟩
  · exact ⟨by omega, fun _ _ same => absurd same (by omega)⟩

theorem mem_goto {state : State} {id : Nat} {pc : Pc} {call : Call}
    (member : call ∈ (state.goto id pc).calls.rows) :
    call ∈ state.calls.rows ∨ ∃ old, state.calls.find id = some old ∧ call = setPc pc old := by
  have inside : call ∈ (state.calls.modify id (setPc pc) (setPc_id pc)).rows := member
  rcases Table.mem_modify.mp inside with ⟨old, -⟩ | changed
  · exact .inl old
  · exact .inr changed

theorem returned_goto (state : State) {call : Call} (pc : Pc)
    (found : state.calls.find call.id = some call) (open_ : call.event = none) :
    (state.goto call.id pc).returned.Perm ((setPc pc call).event.toList ++ state.returned) :=
  Table.filterMap_modify found (setPc pc) (setPc_id pc) Call.event open_

/-- Only the call that goes on learns something. -/
theorem goto_ready {state : State} {call : Call} {pc : Pc} {version : Nat}
    {stored : Option TaskRecord} (found : state.calls.find call.id = some call)
    (others : ∀ other ∈ state.calls.rows, Ready version stored other)
    (own : Ready version stored (setPc pc call)) :
    ∀ other ∈ (state.goto call.id pc).calls.rows, Ready version stored other := by
  intro other member
  rcases mem_goto member with old | ⟨old, held, rfl⟩
  · exact others other old
  · rw [found] at held
    obtain rfl := Option.some.inj held
    exact own

/-- What a call answers on the record that is stored takes its place after all that returned. -/
theorem Explained.answers {taskId : String} {initial : Option TaskRecord} {state : State}
    (explained : Explained taskId initial state) {call : Call} {next : Option TaskRecord}
    {result : Result} (answered : call.request.execute taskId state.task = (next, result))
    {after : List (Event Request Result)}
    (added : after.Perm (⟨call.id, call.request, result⟩ :: state.returned)) :
    Linearizable (Request.execute taskId) initial after next := by
  have extended := explained.linear.extend ⟨call.id, call.request, result⟩ (by rw [answered]) added
  rw [answered] at extended
  exact extended

theorem Moves.explained {taskId : String} {initial : Option TaskRecord} {state next : State}
    {call : Call} (explained : Explained taskId initial state)
    (found : state.calls.find call.id = some call) (open_ : call.event = none)
    (moves : Moves taskId state call next) : Explained taskId initial next := by
  cases moves with
  | waits pc quiet ready =>
      have same := returned_goto state pc found open_
      rw [quiet] at same
      obtain ⟨order, permuted, replays⟩ := explained.linear
      exact ⟨⟨order, permuted.trans same.symm, replays⟩, goto_ready found explained.ready ready⟩
  | returns result answered =>
      have added := returned_goto state (.returned result) found open_
      exact ⟨explained.answers answered added, goto_ready found explained.ready trivial⟩
  | writes task ttl result answered =>
      have added := returned_goto (state.setex ttl task) (.returned result) found open_
      have behind : ∀ other ∈ (state.setex ttl task).calls.rows,
          Ready (state.version + 1) (some task) other :=
        fun other member => (explained.ready other member).behind
      exact ⟨explained.answers answered added,
        goto_ready found behind trivial⟩

section Commands

variable {taskId : String} {initial : Option TaskRecord} {state next : State} {call : Call}

theorem execute_transition (taskId : String) {request : Request}
    {mutate : TaskRecord → Option TaskRecord} (plan : request.plan = .transition mutate)
    (stored : Option TaskRecord) :
    request.execute taskId stored =
      match stored with
      | none => (none, request.answer taskId none)
      | some task =>
          match mutate task with
          | none => (some task, request.answer taskId (some (task, false)))
          | some next => (some next, request.answer taskId (some (next, true))) := by
  cases stored with
  | none => simp only [Request.execute, plan]
  | some task => cases outcome : mutate task <;> simp only [Request.execute, plan, outcome]

theorem execute_update (taskId : String) {request : Request} {write : TaskRecord → TaskRecord}
    (plan : request.plan = .update write) (stored : Option TaskRecord) :
    request.execute taskId stored =
      match stored with
      | none => (none, .raised (.keyError taskId))
      | some task => (some (write task), .updated) := by
  cases stored <;> simp only [Request.execute, plan]

theorem advanceTransition_moves {mutate : TaskRecord → Option TaskRecord} {remaining : Int}
    (plan : call.request.plan = .transition mutate)
    (ready : Ready state.version state.task call)
    (advanced : advanceTransition taskId mutate state call remaining = some next) :
    call.event = none ∧ Moves taskId state call next := by
  have executed := execute_transition taskId plan state.task
  unfold advanceTransition at advanced
  unfold Ready at ready
  cases shape : call.pc with
  | start =>
      refine ⟨by simp [Call.event, shape], ?_⟩
      simp only [shape] at advanced
      split at advanced
      · rename_i now limit maxAttempts asked
        split at advanced
        · rename_i missing
          obtain rfl := Option.some.inj advanced
          have absent : state.task = none := by
            rw [State.task, Option.isNone_iff_eq_none.mp missing]
            rfl
          apply Moves.returns
          rw [executed, absent, asked]
          rfl
        · obtain rfl := Option.some.inj advanced
          exact .waits _ rfl trivial
      · obtain rfl := Option.some.inj advanced
        exact .waits _ rfl (le_refl state.version)
  | scanned =>
      refine ⟨by simp [Call.event, shape], ?_⟩
      simp only [shape] at advanced
      obtain rfl := Option.some.inj advanced
      exact .waits _ rfl (le_refl state.version)
  | watched seen =>
      refine ⟨by simp [Call.event, shape], ?_⟩
      simp only [shape] at advanced ready
      cases present : state.entry with
      | none =>
          simp only [present] at advanced
          obtain rfl := Option.some.inj advanced
          have absent : state.task = none := congrArg (Option.map Entry.task) present
          apply Moves.returns
          rw [executed, absent]
      | some entry =>
          have stored : state.task = some entry.task := congrArg (Option.map Entry.task) present
          rw [stored] at executed
          simp only [present] at advanced
          cases outcome : mutate entry.task with
          | none =>
              simp only [outcome] at advanced executed
              obtain rfl := Option.some.inj advanced
              apply Moves.returns
              rw [stored, executed]
          | some task =>
              simp only [outcome] at advanced
              obtain rfl := Option.some.inj advanced
              refine .waits _ rfl ⟨ready, fun other planned _ => ?_⟩
              have same : other = mutate :=
                Plan.transition.inj (Eq.trans (Eq.symm planned) plan)
              exact ⟨entry.task, stored, by rw [same, outcome]⟩
  | mutated seen task =>
      refine ⟨by simp [Call.event, shape], ?_⟩
      simp only [shape] at advanced ready
      obtain rfl := Option.some.inj advanced
      exact .waits _ rfl ready
  | queuedWrite seen task ttl =>
      refine ⟨by simp [Call.event, shape], ?_⟩
      simp only [shape] at advanced ready
      split at advanced
      · rename_i unchanged
        obtain rfl := Option.some.inj advanced
        obtain ⟨old, stored, outcome⟩ := ready.2 mutate plan unchanged
        apply Moves.writes
        rw [executed, stored]
        simp only [outcome]
      · obtain rfl := Option.some.inj advanced
        exact .waits _ rfl trivial
  | read seen task => simp [shape] at advanced
  | timed seen task ttl => simp [shape] at advanced
  | returned result => simp [shape] at advanced

theorem advanceUpdate_moves {write : TaskRecord → TaskRecord} {remaining : Int}
    (plan : call.request.plan = .update write) (ready : Ready state.version state.task call)
    (undisturbed : ∀ seen task ttl, call.pc = .timed seen task ttl → seen = state.version)
    (advanced : advanceUpdate taskId write state call remaining = some next) :
    call.event = none ∧ Moves taskId state call next := by
  have executed := execute_update taskId plan state.task
  unfold advanceUpdate at advanced
  unfold Ready at ready
  cases shape : call.pc with
  | start =>
      refine ⟨by simp [Call.event, shape], ?_⟩
      simp only [shape] at advanced
      cases present : state.entry with
      | none =>
          simp only [present] at advanced
          obtain rfl := Option.some.inj advanced
          have absent : state.task = none := congrArg (Option.map Entry.task) present
          apply Moves.returns
          rw [executed, absent]
      | some entry =>
          have stored : state.task = some entry.task := congrArg (Option.map Entry.task) present
          simp only [present] at advanced
          obtain rfl := Option.some.inj advanced
          refine .waits _ rfl ⟨le_refl state.version, fun other planned _ => ?_⟩
          have same : other = write := Plan.update.inj (Eq.trans (Eq.symm planned) plan)
          exact ⟨entry.task, stored, by rw [same]⟩
  | read seen task =>
      refine ⟨by simp [Call.event, shape], ?_⟩
      simp only [shape] at advanced ready
      obtain rfl := Option.some.inj advanced
      exact .waits _ rfl ready
  | timed seen task ttl =>
      refine ⟨by simp [Call.event, shape], ?_⟩
      simp only [shape] at advanced ready
      obtain rfl := Option.some.inj advanced
      obtain ⟨old, stored, outcome⟩ := ready.2 write plan (undisturbed seen task ttl shape)
      apply Moves.writes
      rw [executed, stored]
      simp only [outcome]
  | scanned => simp [shape] at advanced
  | watched seen => simp [shape] at advanced
  | mutated seen task => simp [shape] at advanced
  | queuedWrite seen task ttl => simp [shape] at advanced
  | returned result => simp [shape] at advanced

theorem step_explained {action : Action} (explained : Explained taskId initial state)
    (undisturbed : Undisturbed state action) (stepped : step taskId state action = some next) :
    Explained taskId initial next := by
  cases action with
  | call id request =>
      obtain ⟨calls, inserted, rfl⟩ := Option.map_eq_some_iff.mp stepped
      have rows := (Table.insert_some.mp inserted).2
      constructor
      · have same : ({ state with calls := calls } : State).returned = state.returned := by
          simp only [State.returned, rows, List.filterMap_append]
          simp [Call.event]
        rw [same]
        exact explained.linear
      · intro other member
        dsimp only at member
        rw [rows] at member
        rcases List.mem_append.mp member with old | new
        · exact explained.ready other old
        · rw [List.mem_singleton.mp new]
          trivial
  | advance id remaining =>
      simp only [step] at stepped
      split at stepped
      · cases stepped
      · rename_i call found
        obtain ⟨member, rfl⟩ := Table.find_some.mp found
        have ready := explained.ready call member
        split at stepped
        · rename_i error plan
          split at stepped
          · rename_i shape
            obtain rfl := Option.some.inj stepped
            apply Moves.explained explained found (by simp [Call.event, shape])
            apply Moves.returns
            unfold Request.execute
            rw [plan]
          · cases stepped
        · rename_i mutate plan
          obtain ⟨open_, moves⟩ := advanceTransition_moves plan ready stepped
          exact moves.explained explained found open_
        · rename_i write plan
          obtain ⟨open_, moves⟩ := advanceUpdate_moves plan ready
            (fun seen task ttl shape => undisturbed call found seen (by rw [shape]; rfl)) stepped
          exact moves.explained explained found open_

end Commands

/-- Along a run whose updates write over the value they read, the calls that have returned are
those of some atomic order, and so is the stored record. -/
theorem calls_linearizable (taskId : String) (entry : Option Entry) (actions : List Action)
    (state : State) (reached : run (step taskId) (.init entry) actions = some state)
    (undisturbed : Meets (step taskId) Undisturbed (.init entry) actions) :
    Linearizable (Request.execute taskId) (entry.map Entry.task) state.returned state.task := by
  have start : Explained taskId (entry.map Entry.task) (.init entry) :=
    ⟨⟨[], List.Perm.nil, rfl⟩, fun _ member => absurd member List.not_mem_nil⟩
  exact (run_invariant (Explained taskId (entry.map Entry.task))
    (fun _ _ _ explained guard stepped => step_explained explained guard stepped) start
    undisturbed reached).linear

/-- A task whose first worker let its lease run out. -/
def expiredTask : TaskRecord where
  id := "t"
  type := "completion"
  status := .processing
  payload := .obj []
  expiresAt := 86400000000
  attempts := 1
  lockedUntil := some 10000000

/-- The late worker reads the task, another takes it over, and the late one writes. -/
def staleUpdate : List Action :=
  [.call 1 (.markCompleted (.str "done") 21000000), .call 2 (.markProcessing 10 20000000),
    .advance 1 0, .advance 2 0, .advance 2 0, .advance 2 86380, .advance 2 0,
    .advance 1 86379, .advance 1 0]

theorem staleUpdate_accepted :
    (run (step "t") (.init (some ⟨expiredTask, 86400⟩)) staleUpdate).isSome = true := by
  decide +kernel

/-- The takeover was granted, and the stored record no longer counts it. -/
theorem takeover_lost_to_stale_update :
    ¬ ∀ actions state,
      run (step "t") (.init (some ⟨expiredTask, 86400⟩)) actions = some state →
        Linearizable (Request.execute "t") (some expiredTask) state.returned state.task := by
  intro all
  obtain ⟨order, permuted, replays⟩ :=
    all staleUpdate _ (Option.some_get staleUpdate_accepted).symm
  have events : ((run (step "t") (.init (some ⟨expiredTask, 86400⟩)) staleUpdate).get
      staleUpdate_accepted).returned =
        [⟨1, .markCompleted (.str "done") 21000000, .updated⟩,
          ⟨2, .markProcessing 10 20000000, .claimed true⟩] := rfl
  rw [events, List.perm_pair] at permuted
  rcases permuted with rfl | rfl
  · -- After the update the task is completed, and the claim is refused.
    have refused := replays.2.1
    cases refused
  · -- After the claim the task counts two attempts.
    have final := congrArg (Option.map TaskRecord.attempts) replays.2.2
    cases final

/-- A takeover between two updates that nothing disturbs. -/
def orderlyCalls : List Action :=
  [.call 1 (.markProcessing 10 20000000), .advance 1 0, .advance 1 0, .advance 1 86380,
    .call 2 (.reclaim 25000000 100 5), .advance 1 0, .advance 2 0, .advance 2 0, .advance 2 0,
    .call 3 (.markCompleted (.str "done") 26000000), .advance 3 0, .advance 3 86374,
    .advance 3 0]

theorem orderlyCalls_accepted :
    (run (step "t") (.init (some ⟨expiredTask, 86400⟩)) orderlyCalls).isSome = true := by
  decide +kernel

theorem calls_linearizable_orderly :
    Meets (step "t") Undisturbed (.init (some ⟨expiredTask, 86400⟩)) orderlyCalls ∧
      Linearizable (Request.execute "t") (some expiredTask)
        ((run (step "t") (.init (some ⟨expiredTask, 86400⟩)) orderlyCalls).get
          orderlyCalls_accepted).returned
        ((run (step "t") (.init (some ⟨expiredTask, 86400⟩)) orderlyCalls).get
          orderlyCalls_accepted).task := by
  have undisturbed : Meets (step "t") Undisturbed (.init (some ⟨expiredTask, 86400⟩))
      orderlyCalls := by decide +kernel
  exact ⟨undisturbed, calls_linearizable "t" (some ⟨expiredTask, 86400⟩) orderlyCalls _
    (Option.some_get orderlyCalls_accepted).symm undisturbed⟩

end AiPlatform.Tasks.Redis

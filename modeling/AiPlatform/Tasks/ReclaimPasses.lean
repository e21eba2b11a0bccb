import AiPlatform.Tasks.Message
import AiPlatform.Tasks.StoreRedis

set_option autoImplicit false

/- `QueueTaskDispatcher.reclaim` over each task store, any number of passes at a time. A pass first
settles its batch in the store and then announces the requeued tasks one by one; an exception ends
it, and `_every` logs it and starts another pass later. The Redis store settles key by key. -/
namespace AiPlatform.Tasks.Reclaim

open Machine

inductive Store where
  | memory (tasks : TaskTable)
  | postgres (tasks : TaskTable)
  | redis (db : RedisStore.Db)

/-- The task kept under a key: its id, or the Redis key. -/
def Store.lookup : Store → String → Option TaskRecord
  | .memory tasks, taskId => tasks.find taskId
  | .postgres tasks, taskId => tasks.find taskId
  | .redis db, key => (db.find key).bind fun entry => Redis.deserialize entry.value

/-- A reclaim pass: the Redis store still scans, or the refs left to announce. -/
inductive Progress where
  | scanning (now limit maxAttempts settled : Int) (reclaimed : List TaskRef)
  | announcing (reclaimed : List TaskRef)

structure Pass where
  id : Nat
  progress : Progress

structure State where
  store : Store
  passes : Table Pass.id := .empty
  sent : List TaskMessage := []

inductive Action where
  /-- Whatever submitters, workers and the cleanup do to the store in between. -/
  | others (store : Store)
  | reclaim (pass : Nat) (clock now limit maxAttempts : Int) (stale : List String)
  | scanKey (pass : Nat) (clock : Int) (key : String)
  | scanned (pass : Nat)
  | announce (pass : Nat) (accepted : Bool)
  | finish (pass : Nat)

/-- What the sub-select of Postgres may return when it skips the rows that others have locked. -/
def SkippingSelection (now limit : Int) (tasks : TaskTable) (stale : List String) : Prop :=
  stale.Nodup ∧ (stale.length : Int) ≤ limit ∧
    ∀ taskId ∈ stale, taskId ∈ (Store.expired now tasks.rows).map TaskRecord.id

instance (now limit : Int) (tasks : TaskTable) (stale : List String) :
    Decidable (SkippingSelection now limit tasks stale) :=
  inferInstanceAs (Decidable (_ ∧ _))

/-- The call of `reclaim_stale_processing`. The memory and Postgres stores settle the batch here. -/
def begin_ (store : Store) (clock now limit maxAttempts : Int) (stale : List String) :
    Option (Except StoreError (Progress × Store)) :=
  match store with
  | .memory tasks =>
      some ((Memory.reclaimStaleProcessing now limit maxAttempts tasks).map fun (refs, tasks) =>
        (.announcing refs, .memory tasks))
  | .postgres tasks =>
      if SkippingSelection now limit tasks stale then
        some ((PostgresStore.reclaimStaleProcessing clock limit maxAttempts stale tasks).map
          fun (refs, tasks) => (.announcing refs, .postgres tasks))
      else none
  | .redis db =>
      if limit ≤ 0 then some (.error (.valueError "limit must be positive"))
      else some (.ok (.scanning now limit maxAttempts 0 [], .redis db))

def setProgress (state : State) (pass : Nat) (progress : Progress) : State :=
  { state with passes := state.passes.put ⟨pass, progress⟩ }

def endPass (state : State) (pass : Nat) : State :=
  { state with passes := state.passes.remove pass }

/-- `_transition` on a scanned key, and the bookkeeping of the loop around it. -/
def scanKey (state : State) (pass : Nat) (clock : Int) (key : String) : Option State := do
  let current ← state.passes.find pass
  match current.progress, state.store with
  | .scanning now limit maxAttempts settled refs, .redis db =>
      if limit ≤ settled then none
      else
        match RedisStore.transition clock key (Redis.reclaim now maxAttempts) db with
        | .error _ => some (endPass state pass)
        | .ok (some (task, true), db) =>
            let refs := if task.status = .queued then refs ++ [task.ref] else refs
            some (setProgress { state with store := .redis db } pass
              (.scanning now limit maxAttempts (settled + 1) refs))
        | .ok (_, db) => some { state with store := .redis db }
  | _, _ => none

/-- `_announce` of the next ref; `accepted` says whether `queue.send` returns. -/
def announce (state : State) (pass : Nat) (accepted : Bool) : Option State := do
  let current ← state.passes.find pass
  match current.progress with
  | .announcing (ref :: rest) =>
      match TaskMessage.make? ref.id ref.type ref.requestId with
      | none => some (endPass state pass)
      | some message =>
          if accepted then
            some (setProgress { state with sent := state.sent ++ [message] } pass
              (.announcing rest))
          else some (endPass state pass)
  | .announcing [] => none
  | .scanning _ _ _ _ _ => none

def step (state : State) : Action → Option State
  | .others store => some { state with store := store }
  | .reclaim pass clock now limit maxAttempts stale =>
      match begin_ state.store clock now limit maxAttempts stale with
      | none => none
      | some (.error _) => some state
      | some (.ok (progress, store)) =>
          (state.passes.insert ⟨pass, progress⟩).map fun passes =>
            { state with store := store, passes := passes }
  | .scanKey pass clock key => scanKey state pass clock key
  | .scanned pass => do
      let current ← state.passes.find pass
      match current.progress with
      | .scanning _ _ _ _ refs => some (setProgress state pass (.announcing refs))
      | .announcing _ => none
  | .announce pass accepted => announce state pass accepted
  | .finish pass => do
      let current ← state.passes.find pass
      match current.progress with
      | .announcing [] => some (endPass state pass)
      | .announcing (_ :: _) => none
      | .scanning _ _ _ _ _ => none

def Progress.refs : Progress → List TaskRef
  | .scanning _ _ _ _ refs => refs
  | .announcing refs => refs

/-- A running pass still has the task to announce. -/
def State.Awaits (state : State) (taskId : String) : Prop :=
  ∃ pass ∈ state.passes.rows, taskId ∈ pass.progress.refs.map TaskRef.id

/-- A message for the task is among those sent after the first `mark`. -/
def State.SentSince (state : State) (mark : Nat) (taskId : String) : Prop :=
  ∃ message ∈ state.sent.drop mark, message.taskId = taskId

/-- The pass does not raise: the queue takes the message, the message is valid, and the scanned
value is a task. -/
def Succeeds (state : State) : Action → Prop
  | .announce pass accepted => accepted = true ∧ ∀ current ∈ state.passes.find pass,
      ∀ ref ∈ current.progress.refs.head?,
        (TaskMessage.make? ref.id ref.type ref.requestId).isSome = true
  | .scanKey _ clock key =>
      match state.store with
      | .redis db => ∀ raw ∈ RedisStore.read clock db key, (Redis.deserialize raw).isSome = true
      | .memory _ => True
      | .postgres _ => True
  | .others _ => True
  | .reclaim _ _ _ _ _ _ => True
  | .scanned _ => True
  | .finish _ => True

instance (state : State) : DecidablePred (Succeeds state)
  | .announce pass accepted => inferInstanceAs (Decidable (accepted = true ∧
      ∀ current ∈ state.passes.find pass, ∀ ref ∈ current.progress.refs.head?,
        (TaskMessage.make? ref.id ref.type ref.requestId).isSome = true))
  | .scanKey _ clock key =>
      match shape : state.store with
      | .redis db => decidable_of_iff
          (∀ raw ∈ RedisStore.read clock db key, (Redis.deserialize raw).isSome = true)
          (by simp [Succeeds, shape])
      | .memory _ => .isTrue (by simp [Succeeds, shape])
      | .postgres _ => .isTrue (by simp [Succeeds, shape])
  | .others _ => .isTrue trivial
  | .reclaim _ _ _ _ _ _ => .isTrue trivial
  | .scanned _ => .isTrue trivial
  | .finish _ => .isTrue trivial

section Moves

variable {state next : State}

theorem setProgress_awaits (state : State) (pass : Nat) {progress : Progress} {taskId : String}
    (listed : taskId ∈ progress.refs.map TaskRef.id) :
    (setProgress state pass progress).Awaits taskId := by
  have found := Table.find_put state.passes ⟨pass, progress⟩ pass
  rw [if_pos rfl] at found
  exact ⟨⟨pass, progress⟩, (Table.find_some.mp found).1, listed⟩

/-- A task that a settled batch requeues is among the refs. -/
theorem requeued_ref {now maxAttempts : Int} {before after : TaskTable} {refs : List TaskRef}
    {picked : List String}
    (settles : Store.Settles now maxAttempts before.rows after.rows refs picked)
    {taskId : String} {old new : TaskRecord} (found : before.find taskId = some old)
    (processing : old.status = .processing) (later : after.find taskId = some new)
    (queued : new.status = .queued) : new.id ∈ refs.map TaskRef.id := by
  have content := settles.leaves taskId
  rw [Store.content_rows, Store.content_rows, found, later, Option.map_some,
    Option.map_some] at content
  have named : old.id = new.id :=
    (Table.find_some.mp found).2.trans (Table.find_some.mp later).2.symm
  split at content
  · rename_i chosen
    have status := congrArg TaskRecord.status (Option.some.inj content)
    have few : old.attempts < maxAttempts := by
      by_contra many
      simp [Store.timeless, TaskRecord.settle, not_lt.mp many, queued] at status
    have listed := (settles.refs old.ref).mpr
      ⟨old, (Table.find_some.mp found).1, (Table.find_some.mp found).2 ▸ chosen, few, rfl⟩
    rw [← named]
    exact List.mem_map_of_mem listed
  · have status := congrArg TaskRecord.status (Option.some.inj content)
    simp [Store.timeless, queued, processing] at status

theorem postgres_settles {clock now limit maxAttempts : Int} {stale : List String}
    {tasks after : TaskTable} {refs : List TaskRef}
    (selected : SkippingSelection now limit tasks stale)
    (done : PostgresStore.reclaimStaleProcessing clock limit maxAttempts stale tasks =
      .ok (refs, after)) :
    Store.Settles now maxAttempts tasks.rows after.rows refs stale := by
  unfold PostgresStore.reclaimStaleProcessing Postgres.reclaimStaleIn at done
  split at done
  · cases done
  · split at done
    · cases done
    · obtain ⟨rfl, rfl⟩ := Prod.mk.inj (Except.ok.inj done)
      refine Store.settles_map clock selected.1 selected.2.2
        (Postgres.reclaimStaleIn_find clock maxAttempts stale tasks) fun ref => ?_
      simp only [List.mem_map, List.mem_filter, decide_eq_true_eq, and_assoc]

theorem memory_settles {now limit maxAttempts : Int} {tasks after : TaskTable} {refs : List TaskRef}
    (done : Memory.reclaimStaleProcessing now limit maxAttempts tasks = .ok (refs, after)) :
    ∃ picked, Store.Settles now maxAttempts tasks.rows after.rows refs picked := by
  unfold Memory.reclaimStaleProcessing at done
  split at done
  · cases done
  · obtain ⟨rfl, rfl⟩ := Prod.mk.inj (Except.ok.inj done)
    exact ⟨_, Store.reclaimLoop_settles tasks _ now limit maxAttempts rfl⟩

/-- Reading a saved record back gives its id and status, whatever becomes of its times. -/
theorem read_saved {task read : TaskRecord}
    (parsed : Redis.deserialize (Redis.serialize task) = some read) :
    read.id = task.id ∧ read.status = task.status := by
  simp only [Redis.deserialize, Redis.serialize, List.lookup_cons, BEq.rfl, Redis.readStr,
    String.reduceBEq, Option.getD_some, Redis.readOptionalStr_optionalStr, Redis.readNum,
    Option.pure_def, Option.bind_eq_bind, Option.bind_some, Redis.statusOf_statusText,
    Option.bind_eq_some_iff, Option.some.injEq] at parsed
  obtain ⟨_, _, _, _, _, _, _, _, rfl⟩ := parsed
  exact ⟨rfl, rfl⟩

/-- All that a `_transition` of a reclaim does to the keys. -/
theorem transition_lookup {clock now maxAttempts : Int} {key : String} {db after : RedisStore.Db}
    {answer : Option (TaskRecord × Bool)}
    (done : RedisStore.transition clock key (Redis.reclaim now maxAttempts) db =
      .ok (answer, after)) :
    (after = db ∧ ∀ task, answer ≠ some (task, true)) ∨
      ∃ task : TaskRecord, answer = some (task, true) ∧ ∀ name,
        (Store.redis after).lookup name =
          if name = key then Redis.deserialize (Redis.serialize task)
          else (Store.redis db).lookup name := by
  unfold RedisStore.transition at done
  cases raw : RedisStore.read clock db key with
  | none =>
      simp only [raw, Except.ok.injEq, Prod.mk.injEq] at done
      exact .inl ⟨done.2.symm, fun task shape => nomatch done.1.trans shape⟩
  | some value =>
      cases parsed : Redis.deserialize value with
      | none => simp [raw, parsed] at done
      | some task =>
          cases mutated : Redis.reclaim now maxAttempts task with
          | none =>
              simp only [raw, parsed, mutated, Except.ok.injEq, Prod.mk.injEq] at done
              refine .inl ⟨done.2.symm, fun other shape => ?_⟩
              rw [← done.1] at shape
              simp at shape
          | some saved =>
              simp only [raw, parsed, mutated, Except.ok.injEq, Prod.mk.injEq] at done
              refine .inr ⟨saved, done.1.symm, fun name => ?_⟩
              rw [← done.2]
              simp only [Store.lookup, RedisStore.setex, Table.find_put]
              split
              · rfl
              · rfl

/-- All that one scanned key can do: raise, settle its task or leave the pass as it was. -/
theorem scanKey_cases {pass : Nat} {clock : Int} {key : String}
    (stepped : scanKey state pass clock key = some next) :
    ∃ current now limit maxAttempts settled refs db, state.passes.find pass = some current ∧
      current.progress = .scanning now limit maxAttempts settled refs ∧ state.store = .redis db ∧
      ((∃ error, RedisStore.transition clock key (Redis.reclaim now maxAttempts) db = .error error ∧
          next = endPass state pass) ∨
        (∃ task after,
          RedisStore.transition clock key (Redis.reclaim now maxAttempts) db =
            .ok (some (task, true), after) ∧
          next = setProgress { state with store := .redis after } pass
            (.scanning now limit maxAttempts (settled + 1)
              (if task.status = .queued then refs ++ [task.ref] else refs))) ∨
        ∃ answer after,
          RedisStore.transition clock key (Redis.reclaim now maxAttempts) db = .ok (answer, after) ∧
          (∀ task, answer ≠ some (task, true)) ∧ next = { state with store := .redis after }) := by
  obtain ⟨current, found, rest⟩ := Option.bind_eq_some_iff.mp stepped
  split at rest
  · rename_i now limit maxAttempts settled refs db progress store
    refine ⟨current, now, limit, maxAttempts, settled, refs, db, found, progress, store, ?_⟩
    split at rest
    · cases rest
    · split at rest
      · rename_i error raised
        exact .inl ⟨error, raised, (Option.some.inj rest).symm⟩
      · rename_i task after done
        exact .inr (.inl ⟨task, after, done, (Option.some.inj rest).symm⟩)
      · rename_i answer after unsaved done
        exact .inr (.inr ⟨answer, after, done, unsaved, (Option.some.inj rest).symm⟩)
  · cases rest

/-- A store that stays as it is requeues nothing. -/
theorem unmoved {before after : Store} {key : String} {old new : TaskRecord}
    (unchanged : after = before) (found : before.lookup key = some old)
    (processing : old.status = .processing) (later : after.lookup key = some new) :
    new.status ≠ .queued := by
  rw [unchanged, found] at later
  rw [← Option.some.inj later, processing]
  decide

/-- A scanned task that is requeued is among the refs of its pass. -/
theorem scanKey_moves {pass : Nat} {clock : Int} {key name : String} {old new : TaskRecord}
    (stepped : scanKey state pass clock key = some next)
    (found : state.store.lookup name = some old) (processing : old.status = .processing)
    (later : next.store.lookup name = some new) (queued : new.status = .queued) :
    next.Awaits new.id := by
  have same : next.store = state.store → next.Awaits new.id := fun unchanged =>
    absurd queued (unmoved unchanged found processing later)
  obtain ⟨current, now, limit, maxAttempts, settled, refs, db, -, -, store, effect⟩ :=
    scanKey_cases stepped
  rcases effect with ⟨error, -, rfl⟩ | ⟨task, after, done, rfl⟩ |
    ⟨answer, after, done, unsaved, rfl⟩
  · exact same rfl
  · rcases transition_lookup done with ⟨-, unsaved⟩ | ⟨saved, shape, lookup⟩
    · exact absurd rfl (unsaved task)
    · obtain ⟨rfl, -⟩ := Prod.mk.inj (Option.some.inj shape)
      have read := lookup name
      change (Store.redis after).lookup name = some new at later
      rw [later] at read
      split at read
      · obtain ⟨sameId, sameStatus⟩ := read_saved read.symm
        apply setProgress_awaits
        rw [Progress.refs, if_pos (sameStatus.symm.trans queued), sameId]
        exact List.mem_map_of_mem (List.mem_append_right _ (List.mem_singleton.mpr rfl))
      · rw [store] at found
        rw [found] at read
        rw [← Option.some.inj read, queued] at processing
        cases processing
  · rcases transition_lookup done with ⟨rfl, -⟩ | ⟨task, shape, -⟩
    · exact same store.symm
    · exact absurd shape (unsaved task)

/-- The tasks that the memory and Postgres stores requeue are the refs they return. -/
theorem begin_moves {before after : Store} {clock now limit maxAttempts : Int} {stale : List String}
    {progress : Progress} (begun : begin_ before clock now limit maxAttempts stale =
      some (.ok (progress, after))) {key : String} {old new : TaskRecord}
    (found : before.lookup key = some old) (processing : old.status = .processing)
    (later : after.lookup key = some new) (queued : new.status = .queued) :
    new.id ∈ progress.refs.map TaskRef.id := by
  cases before with
  | memory tasks =>
      have result := Option.some.inj begun
      cases done : Memory.reclaimStaleProcessing now limit maxAttempts tasks with
      | error error =>
          rw [done] at result
          cases result
      | ok pair =>
          rw [done] at result
          obtain ⟨rfl, rfl⟩ := Prod.mk.inj (Except.ok.inj result)
          obtain ⟨picked, settles⟩ := memory_settles done
          exact requeued_ref settles found processing later queued
  | postgres tasks =>
      simp only [begin_] at begun
      split at begun
      · rename_i selected
        have result := Option.some.inj begun
        cases done : PostgresStore.reclaimStaleProcessing clock limit maxAttempts stale tasks with
        | error error =>
            rw [done] at result
            cases result
        | ok pair =>
            rw [done] at result
            obtain ⟨rfl, rfl⟩ := Prod.mk.inj (Except.ok.inj result)
            exact requeued_ref (postgres_settles selected done) found processing later queued
      · cases begun
  | redis db =>
      simp only [begin_] at begun
      split at begun
      · cases begun
      · obtain ⟨-, rfl⟩ := Prod.mk.inj (Except.ok.inj (Option.some.inj begun))
        exact absurd queued (unmoved rfl found processing later)

/-- Every task that a pass requeues is left for it to announce. -/
theorem step_moves {action : Action} (stepped : step state action = some next)
    (ours : ∀ store, action ≠ .others store) {key : String} {old new : TaskRecord}
    (found : state.store.lookup key = some old) (processing : old.status = .processing)
    (later : next.store.lookup key = some new) (queued : new.status = .queued) :
    next.Awaits new.id := by
  have same : next.store = state.store → next.Awaits new.id := fun unchanged =>
    absurd queued (unmoved unchanged found processing later)
  cases action with
  | others store => exact absurd rfl (ours store)
  | scanKey pass clock key => exact scanKey_moves stepped found processing later queued
  | scanned pass =>
      obtain ⟨current, -, rest⟩ := Option.bind_eq_some_iff.mp stepped
      split at rest
      · obtain rfl := Option.some.inj rest
        exact same rfl
      · cases rest
  | announce pass accepted =>
      obtain ⟨current, -, rest⟩ := Option.bind_eq_some_iff.mp stepped
      split at rest
      · split at rest
        · obtain rfl := Option.some.inj rest
          exact same rfl
        · split at rest
          · obtain rfl := Option.some.inj rest
            exact same rfl
          · obtain rfl := Option.some.inj rest
            exact same rfl
      · cases rest
      · cases rest
  | finish pass =>
      obtain ⟨current, -, rest⟩ := Option.bind_eq_some_iff.mp stepped
      split at rest
      · obtain rfl := Option.some.inj rest
        exact same rfl
      · cases rest
      · cases rest
  | reclaim pass clock now limit maxAttempts stale =>
      simp only [step] at stepped
      split at stepped
      · cases stepped
      · obtain rfl := Option.some.inj stepped
        exact same rfl
      · rename_i progress store begun
        obtain ⟨passes, inserted, rfl⟩ := Option.map_eq_some_iff.mp stepped
        obtain ⟨-, rows⟩ := Table.insert_some.mp inserted
        have listed : (⟨pass, progress⟩ : Pass) ∈ passes.rows := by
          rw [rows]
          exact List.mem_append_right _ (List.mem_singleton.mpr rfl)
        refine ⟨⟨pass, progress⟩, listed, ?_⟩
        exact begin_moves begun found processing later queued

end Moves

section Runs

variable {state next : State} {mark : Nat} {taskId : String}

/-- The task has been announced since, or a running pass still has it to announce. -/
structure Owed (mark : Nat) (taskId : String) (state : State) : Prop where
  marked : mark ≤ state.sent.length
  owed : state.SentSince mark taskId ∨ state.Awaits taskId

/-- A pass whose refs stay keeps what it owes. -/
theorem Owed.keep (owed : Owed mark taskId state) (sent : next.sent = state.sent)
    (awaits : state.Awaits taskId → next.Awaits taskId) : Owed mark taskId next where
  marked := by
    rw [sent]
    exact owed.marked
  owed := by
    unfold State.SentSince
    rw [sent]
    exact owed.owed.imp_right awaits

/-- The other passes are left alone. -/
theorem setProgress_other {pass : Nat} {current : Pass} {progress : Progress}
    (found : state.passes.find pass = some current) (awaited : state.Awaits taskId)
    (own : taskId ∈ current.progress.refs.map TaskRef.id →
      taskId ∈ progress.refs.map TaskRef.id) :
    (setProgress state pass progress).Awaits taskId := by
  obtain ⟨holder, member, listed⟩ := awaited
  by_cases here : holder.id = pass
  · have same : holder = current := by
      have other := Table.find_mem member
      rw [here, found] at other
      exact (Option.some.inj other).symm
    exact setProgress_awaits state pass (own (same ▸ listed))
  · have kept := Table.find_put state.passes ⟨pass, progress⟩ holder.id
    rw [if_neg here, Table.find_mem member] at kept
    exact ⟨holder, (Table.find_some.mp kept).1, listed⟩

theorem transition_raises {clock now maxAttempts : Int} {key : String} {db : RedisStore.Db}
    {error : StoreError}
    (raised : RedisStore.transition clock key (Redis.reclaim now maxAttempts) db = .error error) :
    ∃ raw ∈ RedisStore.read clock db key, Redis.deserialize raw = none := by
  unfold RedisStore.transition at raised
  cases raw : RedisStore.read clock db key with
  | none => simp [raw] at raised
  | some value =>
      cases parsed : Redis.deserialize value with
      | none => exact ⟨value, rfl, parsed⟩
      | some task =>
          cases mutated : Redis.reclaim now maxAttempts task with
          | none => simp [raw, parsed, mutated] at raised
          | some saved => simp [raw, parsed, mutated] at raised

theorem Owed.scanKey {pass : Nat} {clock : Int} {key : String} (owed : Owed mark taskId state)
    (succeeds : Succeeds state (.scanKey pass clock key))
    (stepped : scanKey state pass clock key = some next) : Owed mark taskId next := by
  obtain ⟨current, now, limit, maxAttempts, settled, refs, db, found, progress, store, effect⟩ :=
    scanKey_cases stepped
  rcases effect with ⟨error, raised, -⟩ | ⟨task, after, -, rfl⟩ | ⟨answer, after, -, -, rfl⟩
  · obtain ⟨raw, read, unparsed⟩ := transition_raises raised
    simp only [Succeeds, store] at succeeds
    have parsed := succeeds raw read
    rw [unparsed] at parsed
    cases parsed
  · refine owed.keep rfl fun awaited => setProgress_other found awaited fun listed => ?_
    rw [progress] at listed
    simp only [Progress.refs] at listed ⊢
    split
    · rw [List.map_append]
      exact List.mem_append_left _ listed
    · exact listed
  · exact owed.keep rfl fun awaited => awaited

theorem Owed.announce {pass : Nat} {accepted : Bool} (owed : Owed mark taskId state)
    (succeeds : Succeeds state (.announce pass accepted))
    (stepped : announce state pass accepted = some next) : Owed mark taskId next := by
  obtain ⟨current, found, rest⟩ := Option.bind_eq_some_iff.mp stepped
  obtain ⟨rfl, valid⟩ := succeeds
  split at rest
  · rename_i ref refs progress
    have built := valid current found ref (by rw [progress]; rfl)
    cases made : TaskMessage.make? ref.id ref.type ref.requestId with
    | none =>
        rw [made] at built
        cases built
    | some message =>
        simp only [made, if_true] at rest
        obtain rfl := Option.some.inj rest
        have named := TaskMessage.make?_some made
        have marked := owed.marked
        refine ⟨?_, ?_⟩
        · change mark ≤ (state.sent ++ [message]).length
          rw [List.length_append]
          omega
        · have since : ∀ id, state.SentSince mark id ∨ id = ref.id →
              (setProgress { state with sent := state.sent ++ [message] } pass
                (.announcing refs)).SentSince mark id := by
            intro id sent
            unfold State.SentSince
            change ∃ other ∈ (state.sent ++ [message]).drop mark, other.taskId = id
            rw [List.drop_append_of_le_length marked]
            rcases sent with ⟨other, member, about⟩ | rfl
            · exact ⟨other, List.mem_append_left _ member, about⟩
            · exact ⟨message, List.mem_append_right _ (List.mem_singleton.mpr rfl), named⟩
          by_cases here : taskId = ref.id
          · exact .inl (since taskId (.inr here))
          · rcases owed.owed with sent | awaited
            · exact .inl (since taskId (.inl sent))
            · refine .inr (setProgress_other found awaited fun listed => ?_)
              rw [progress] at listed
              simp only [Progress.refs, List.map_cons] at listed ⊢
              rcases List.mem_cons.mp listed with same | later
              · exact absurd same here
              · exact later
  · cases rest
  · cases rest

theorem Owed.step {action : Action} (owed : Owed mark taskId state)
    (succeeds : Succeeds state action) (stepped : step state action = some next) :
    Owed mark taskId next := by
  cases action with
  | others store =>
      obtain rfl := Option.some.inj stepped
      exact owed.keep rfl fun awaited => awaited
  | reclaim pass clock now limit maxAttempts stale =>
      simp only [Reclaim.step] at stepped
      split at stepped
      · cases stepped
      · obtain rfl := Option.some.inj stepped
        exact owed
      · obtain ⟨passes, inserted, rfl⟩ := Option.map_eq_some_iff.mp stepped
        refine owed.keep rfl fun ⟨holder, member, listed⟩ => ⟨holder, ?_, listed⟩
        rw [(Table.insert_some.mp inserted).2]
        exact List.mem_append_left _ member
  | scanKey pass clock key => exact owed.scanKey succeeds stepped
  | scanned pass =>
      obtain ⟨current, found, rest⟩ := Option.bind_eq_some_iff.mp stepped
      split at rest
      · rename_i refs progress
        obtain rfl := Option.some.inj rest
        refine owed.keep rfl fun awaited => setProgress_other found awaited fun listed => ?_
        rw [progress] at listed
        exact listed
      · cases rest
  | announce pass accepted => exact owed.announce succeeds stepped
  | finish pass =>
      obtain ⟨current, found, rest⟩ := Option.bind_eq_some_iff.mp stepped
      split at rest
      · rename_i progress
        obtain rfl := Option.some.inj rest
        refine owed.keep rfl fun ⟨holder, member, listed⟩ => ⟨holder, ?_, listed⟩
        refine Table.mem_remove.mpr ⟨member, fun here => ?_⟩
        have other := Table.find_mem member
        rw [here, found] at other
        rw [← Option.some.inj other, progress] at listed
        cases listed
      · cases rest
      · cases rest

/-- The task under the key has a lease for a later pass to find expired. -/
def State.Reclaimable (state : State) (key : String) : Prop :=
  ∃ task, state.store.lookup key = some task ∧ task.status = .processing

/-- A pass moved the task under the key from PROCESSING to QUEUED. -/
structure Moves (state next : State) (key taskId : String) : Prop where
  processing : state.Reclaimable key
  queued : ∃ task, next.store.lookup key = some task ∧ task.status = .queued ∧ task.id = taskId

instance (state : State) (mark : Nat) (taskId : String) : Decidable (state.SentSince mark taskId) :=
  inferInstanceAs (Decidable (∃ message ∈ state.sent.drop mark, message.taskId = taskId))

instance (state : State) (taskId : String) : Decidable (state.Awaits taskId) :=
  inferInstanceAs (Decidable
    (∃ pass ∈ state.passes.rows, taskId ∈ pass.progress.refs.map TaskRef.id))

instance (state : State) (key : String) : Decidable (state.Reclaimable key) :=
  decidable_of_iff ((state.store.lookup key).any fun task => task.status = .processing) (by
    unfold State.Reclaimable
    cases state.store.lookup key with
    | none => simp
    | some task => simp)

instance (state next : State) (key taskId : String) : Decidable (Moves state next key taskId) :=
  decidable_of_iff (state.Reclaimable key ∧
      (next.store.lookup key).any (fun task => task.status = .queued && task.id = taskId)) (by
    constructor
    · rintro ⟨processing, queued⟩
      cases found : next.store.lookup key with
      | none =>
          rw [found] at queued
          cases queued
      | some task =>
          rw [found] at queued
          simp only [Option.any_some, Bool.and_eq_true, decide_eq_true_eq] at queued
          exact ⟨processing, task, found, queued⟩
    · rintro ⟨processing, task, found, queued⟩
      rw [found]
      simp only [Option.any_some, Bool.and_eq_true, decide_eq_true_eq]
      exact ⟨processing, queued⟩)

/-- In every run whose passes do not raise, a task that a pass has requeued is announced after
that or can be reclaimed again, once no pass has it to announce. -/
theorem reclaim_announces (store : Store) {before after : List Action} {action : Action}
    {state next final : State} (arrived : run step { store := store } before = some state)
    (stepped : step state action = some next) (onward : run step next after = some final)
    (ours : ∀ store, action ≠ .others store)
    (succeeds : Meets step Succeeds { store := store } (before ++ action :: after))
    {key taskId : String} (moves : Moves state next key taskId) :
    final.SentSince next.sent.length taskId ∨ final.Reclaimable key ∨ final.Awaits taskId := by
  obtain ⟨old, found, processing⟩ := moves.processing
  obtain ⟨new, later, queued, rfl⟩ := moves.queued
  have start : Owed next.sent.length new.id next :=
    ⟨le_refl _, .inr (step_moves stepped ours found processing later queued)⟩
  have rest := ((meets_append.mp succeeds).2 state arrived).2 next stepped
  have owed := run_invariant (Owed next.sent.length new.id)
    (fun _ _ _ inv guard taken => inv.step guard taken) start rest onward
  exact owed.owed.imp_right .inr

/-- Two tasks claimed for a second by a worker that is gone. -/
def abandoned : TaskTable :=
  let task (id : String) : TaskRecord :=
    { id := id, type := "completion", status := .queued, payload := .null,
      expiresAt := 86400000000 }
  let claimed := do
    let tasks ← Memory.create 0 (task "a") .empty
    let tasks ← Memory.create 0 (task "b") tasks
    let (_, tasks) ← Memory.markProcessing 0 "a" 1 (some 0) tasks
    let (_, tasks) ← Memory.markProcessing 0 "b" 1 (some 0) tasks
    return tasks
  match claimed with
  | .ok tasks => tasks
  | .error _ => .empty

def passBegins : Action := .reclaim 0 2000000 2000000 10 3 []

theorem passBegins_accepted : (step { store := .memory abandoned } passBegins).isSome = true := by
  decide +kernel

/-- The state after the batch has been settled. -/
def settledBatch : State := (step { store := .memory abandoned } passBegins).get passBegins_accepted

theorem passFails_accepted : (run step settledBatch [.announce 0 false]).isSome = true := by
  decide +kernel

/-- The first send fails: neither task is announced, and no later pass finds them. -/
theorem failed_send_strands :
    let final := (run step settledBatch [.announce 0 false]).get passFails_accepted
    (Moves { store := .memory abandoned } settledBatch "a" "a" ∧
      ¬(final.SentSince settledBatch.sent.length "a" ∨ final.Reclaimable "a" ∨ final.Awaits "a")) ∧
    Moves { store := .memory abandoned } settledBatch "b" "b" ∧
      ¬(final.SentSince settledBatch.sent.length "b" ∨ final.Reclaimable "b" ∨
        final.Awaits "b") := by
  decide +kernel

def passSucceeds : List Action := [.announce 0 true, .announce 0 true, .finish 0]

theorem passSucceeds_accepted : (run step settledBatch passSucceeds).isSome = true := by
  decide +kernel

theorem passSucceeds_succeeds :
    Meets step Succeeds { store := .memory abandoned } ([] ++ passBegins :: passSucceeds) := by
  decide +kernel

theorem reclaim_announces_abandoned :
    let final := (run step settledBatch passSucceeds).get passSucceeds_accepted
    final.SentSince settledBatch.sent.length "b" ∨ final.Reclaimable "b" ∨ final.Awaits "b" :=
  reclaim_announces (.memory abandoned) rfl (Option.some_get passBegins_accepted).symm
    (Option.some_get passSucceeds_accepted).symm nofun passSucceeds_succeeds (by decide +kernel)

end Runs

end AiPlatform.Tasks.Reclaim

import AiPlatform.Tasks.Delivery

set_option autoImplicit false

/- No queued task is stranded: its latest event is still to be sent, or a message for it is still to
be handled by a worker that will find it queued. -/
namespace AiPlatform.Tasks.Delivery

open Machine Outbox

/-- The message has not been handled: no claim of its task has returned since it was received. -/
def Place.unhandled : Place → Prop
  | .queued _ => True
  | .inFlight _ .received => True
  | .inFlight _ .required => True
  | .inFlight _ (.raised _) => True
  | .inFlight _ (.claimed _) => False
  | .inFlight _ .returned => False
  | .acknowledged => False
  | .deadLettered => True

/-- A message for the task is unhandled or a dead letter. -/
def Waiting (state : State) (taskId : String) : Prop :=
  ∃ (position : Nat) (body : Json) (place : Place), state.pipeline.queue[position]? = some body ∧
    Announces body taskId ∧ state.places[position]? = some place ∧ place.unhandled

structure Tracked (state : State) : Prop where
  aligned : state.places.length = state.pipeline.queue.length
  formed : Pipeline.WellFormed state.pipeline
  published : ∀ pair ∈ state.pipeline.announced, ∀ event,
    state.pipeline.events.find pair.2 = some event → event.status = .published →
      pair.2 ∈ state.pipeline.sent
  announced : ∀ taskId task, state.pipeline.workers.tasks.find taskId = some task →
    task.status = .queued → ∃ eventId, state.pipeline.announced.lookup taskId = some eventId ∧
      (eventId ∈ state.pipeline.sent → Waiting state taskId)

theorem init_tracked (start : Int) : Tracked (.init start) where
  aligned := rfl
  formed := Pipeline.init_wellFormed start
  published _ listed := nomatch listed
  announced _ _ found := nomatch found

section Places

variable {state : State} {position : Nat} {place : Place} {taskId : String}

/-- A message that was handled already can go anywhere; an unhandled one has to stay unhandled. -/
theorem Waiting.put (waiting : Waiting state taskId)
    (kept : ∀ body old, state.pipeline.queue[position]? = some body → Announces body taskId →
      state.places[position]? = some old → old.unhandled → place.unhandled) :
    Waiting (state.put position place) taskId := by
  obtain ⟨index, body, old, accepted, about, here, unhandled⟩ := waiting
  by_cases same : position = index
  · subst same
    obtain ⟨inside, -⟩ := List.getElem?_eq_some_iff.mp here
    exact ⟨position, body, place, accepted, about, List.getElem?_set_self inside,
      kept body old accepted about here unhandled⟩
  · refine ⟨index, body, old, accepted, about, ?_, unhandled⟩
    show (state.places.set position place)[index]? = some old
    rw [List.getElem?_set_ne same]
    exact here

theorem Tracked.put (tracked : Tracked state)
    (kept : ∀ taskId task, state.pipeline.workers.tasks.find taskId = some task →
      task.status = .queued → ∀ body old, state.pipeline.queue[position]? = some body →
        Announces body taskId → state.places[position]? = some old → old.unhandled →
          place.unhandled) :
    Tracked (state.put position place) := by
  refine ⟨?_, tracked.formed, tracked.published, ?_⟩
  · show (state.places.set position place).length = _
    rw [List.length_set]
    exact tracked.aligned
  · intro taskId task found queued
    obtain ⟨eventId, latest, waits⟩ := tracked.announced taskId task found queued
    exact ⟨eventId, latest, fun sent => (waits sent).put (kept taskId task found queued)⟩

/-- Moves within the queue and the workers, with no store call. -/
theorem Tracked.move (tracked : Tracked state) {old : Place}
    (here : state.places[position]? = some old) (kept : old.unhandled → place.unhandled) :
    Tracked (state.put position place) := by
  apply tracked.put
  intro _ _ _ _ _ other _ _ there
  obtain rfl := Option.some.inj (here.symm.trans there)
  exact kept

end Places

section Dispatch

variable {pipeline next : Pipeline.State} {places : List Place} {call : Pipeline.Call}

/-- What a call of the pipeline adds to the queue. -/
theorem effect_queue (effect : Pipeline.Effect pipeline call next) :
    ∃ added, next.queue = pipeline.queue ++ added := by
  cases effect with
  | quiet workers relays queued inherits => exact ⟨[], by simp⟩
  | announce tasks events pairs fresh frame queued => exact ⟨[], by simp⟩
  | lock events relays same inherits => exact ⟨[], by simp⟩
  | send record message relays held parsed inherits => exact ⟨[message.toBody], rfl⟩
  | settle relay record change events relays marked kept cause inherits => exact ⟨[], by simp⟩

theorem effect_published (tracked : Tracked ⟨pipeline, places⟩)
    (effect : Pipeline.Effect pipeline call next) :
    ∀ pair ∈ next.announced, ∀ event, next.events.find pair.2 = some event →
      event.status = .published → pair.2 ∈ next.sent := by
  have before := tracked.published
  intro pair listed event found status
  cases effect with
  | quiet workers relays queued inherits => exact before pair listed event found status
  | announce tasks events pairs fresh frame queued =>
      rcases List.mem_append.mp listed with new | old
      · obtain ⟨-, added, present, pending, -⟩ := fresh pair new
        obtain rfl := Option.some.inj (found.symm.trans present)
        rw [status] at pending
        cases pending
      · obtain ⟨stored, present, -⟩ := tracked.formed.announced pair old
        rw [frame pair.2 ⟨stored, present⟩] at found
        exact before pair old event found status
  | lock events relays same inherits =>
      have content := same pair.2
      rw [found, Option.map_some] at content
      obtain ⟨old, present, equal⟩ := Option.map_eq_some_iff.mp content.symm
      exact before pair listed old present ((congrArg Prod.fst equal).trans status)
  | send record message relays held parsed inherits =>
      exact List.mem_cons_of_mem _ (before pair listed event found status)
  | settle relay record change events relays marked kept cause inherits =>
      dsimp only at found
      rw [marked] at found
      split at found
      · rename_i here
        obtain ⟨old, -, rfl⟩ := Option.map_eq_some_iff.mp found
        rcases cause with sent | retried | ⟨failed, -⟩
        · rw [here]
          exact sent
        · rw [retried old] at status
          cases status
        · rw [failed old] at status
          cases status
      · exact before pair listed event found status

/-- Messages wait on while the pipeline goes on. -/
theorem Waiting.grow {taskId : String} (waiting : Waiting ⟨pipeline, places⟩ taskId)
    {more : List Place} {added : List Json} (queue : next.queue = pipeline.queue ++ added) :
    Waiting ⟨next, places ++ more⟩ taskId := by
  obtain ⟨position, body, place, accepted, about, here, unhandled⟩ := waiting
  refine ⟨position, body, place, ?_, about, ?_, unhandled⟩
  · obtain ⟨inside, -⟩ := List.getElem?_eq_some_iff.mp accepted
    show next.queue[position]? = some body
    rw [queue, List.getElem?_append_left inside]
    exact accepted
  · obtain ⟨inside, -⟩ := List.getElem?_eq_some_iff.mp here
    show (places ++ more)[position]? = some place
    rw [List.getElem?_append_left inside]
    exact here

/-- The latest event of a queued task: a message went out with it, or none did yet. -/
theorem effect_announced (tracked : Tracked ⟨pipeline, places⟩)
    (effect : Pipeline.Effect pipeline call next) {taskId : String} {task : TaskRecord}
    (found : next.workers.tasks.find taskId = some task) (queued : task.status = .queued) :
    ∃ eventId, next.announced.lookup taskId = some eventId ∧
      (eventId ∈ next.sent → Waiting ⟨next, places ++
        List.replicate (next.queue.length - pipeline.queue.length) (.queued 1)⟩ taskId) := by
  have before := tracked.announced
  cases effect with
  | quiet workers relays same inherits =>
      obtain ⟨eventId, latest, waits⟩ := before taskId task (same taskId task found queued) queued
      exact ⟨eventId, latest, fun sent => (waits sent).grow (List.append_nil _).symm⟩
  | announce tasks events pairs fresh frame same =>
      rcases same taskId task found queued with ⟨eventId, listed⟩ | ⟨unlisted, old⟩
      · -- A new announcement has a new event, which no relay can have sent.
        refine ⟨eventId, by simp [List.lookup_append, listed], fun sent => ?_⟩
        obtain ⟨missing, -⟩ := fresh _ (Pipeline.mem_of_lookup listed)
        obtain ⟨event, present⟩ := tracked.formed.sent eventId sent
        dsimp only at missing present
        rw [missing] at present
        cases present
      · obtain ⟨eventId, latest, waits⟩ := before taskId task old queued
        exact ⟨eventId, by simp [List.lookup_append, unlisted, latest],
          fun sent => (waits sent).grow (List.append_nil _).symm⟩
  | lock events relays same inherits =>
      obtain ⟨eventId, latest, waits⟩ := before taskId task found queued
      exact ⟨eventId, latest, fun sent => (waits sent).grow (List.append_nil _).symm⟩
  | send record message relays held parsed inherits =>
      obtain ⟨eventId, latest, waits⟩ := before taskId task found queued
      refine ⟨eventId, latest, fun sent => ?_⟩
      rcases List.mem_cons.mp sent with rfl | old
      · obtain ⟨event, present, about⟩ :=
          tracked.formed.announced _ (Pipeline.mem_of_lookup latest)
        obtain ⟨stored, there, same⟩ := held
        obtain rfl := Option.some.inj (present.symm.trans there)
        rw [same] at about
        have aligned : places.length = pipeline.queue.length := tracked.aligned
        refine ⟨pipeline.queue.length, message.toBody, .queued 1, ?_, about.toBody parsed, ?_,
          trivial⟩
        · simp
        · simp [← aligned]
      · exact (waits old).grow rfl
  | settle relay record change events relays marked kept cause inherits =>
      obtain ⟨eventId, latest, waits⟩ := before taskId task found queued
      exact ⟨eventId, latest, fun sent => (waits sent).grow (List.append_nil _).symm⟩

theorem effect_tracked (tracked : Tracked ⟨pipeline, places⟩)
    (effect : Pipeline.Effect pipeline call next) :
    Tracked ⟨next, places ++
      List.replicate (next.queue.length - pipeline.queue.length) (.queued 1)⟩ where
  aligned := by
    obtain ⟨added, queue⟩ := effect_queue effect
    have aligned : places.length = pipeline.queue.length := tracked.aligned
    rw [List.length_append, List.length_replicate, queue, List.length_append, aligned]
    omega
  formed := effect.wellFormed tracked.formed
  published := effect_published tracked effect
  announced _ _ := effect_announced tracked effect

end Dispatch

section Steps

variable {state next : State}

theorem pipeline_tracked (tracked : Tracked state) {action : Pipeline.Action}
    {pipeline : Pipeline.State} (stepped : Pipeline.step state.pipeline action = some pipeline) :
    Tracked ⟨pipeline, state.places ++
      List.replicate (pipeline.queue.length - state.pipeline.queue.length) (.queued 1)⟩ := by
  have effect := Pipeline.step_effect tracked.formed stepped
  have later : Tracked ⟨{ state.pipeline with
      workers := { state.pipeline.workers with clock := action.now } }, state.places⟩ :=
    ⟨tracked.aligned, ⟨tracked.formed.announced, tracked.formed.sent, tracked.formed.claimed,
      tracked.formed.published⟩, tracked.published, tracked.announced⟩
  have moved := effect_tracked later effect
  exact moved

/-- A store call of a worker sends nothing. -/
theorem work_queue {pipeline after : Pipeline.State} {now : Int} {call : Workers.Call}
    (worked : Pipeline.work pipeline now call = some after) : after.queue = pipeline.queue := by
  obtain ⟨workers, -, rfl⟩ := Option.map_eq_some_iff.mp worked
  rfl

theorem step_queue {pipeline after : Pipeline.State} {action : Pipeline.Action}
    (worker : dispatches action.call = false)
    (stepped : Pipeline.step pipeline action = some after) : after.queue = pipeline.queue := by
  unfold Pipeline.step at stepped
  split at stepped
  · cases stepped
  · cases asked : action.call with
    | claim handler position leaseSeconds =>
        simp only [asked, Pipeline.perform] at stepped
        split at stepped
        · have same := work_queue stepped
          exact same
        · cases stepped
          rfl
        · cases stepped
    | complete handler result =>
        rw [asked] at stepped
        have same := work_queue stepped
        exact same
    | fail handler error =>
        rw [asked] at stepped
        have same := work_queue stepped
        exact same
    | _ => simp [asked, dispatches] at worker

theorem worker_tracked (tracked : Tracked state) {action : Pipeline.Action}
    {pipeline : Pipeline.State} (worker : dispatches action.call = false)
    (stepped : Pipeline.step state.pipeline action = some pipeline) :
    Tracked ⟨pipeline, state.places⟩ := by
  have moved := pipeline_tracked tracked stepped
  rw [step_queue worker stepped, Nat.sub_self, List.replicate_zero, List.append_nil] at moved
  exact moved

theorem postgres_skips {now : Int} {taskId : String} {leaseSeconds : Int} {tasks after : TaskTable}
    (marked : Postgres.markProcessing now taskId leaseSeconds (some now) tasks =
      .ok (false, after)) (task : TaskRecord) (found : tasks.find taskId = some task) :
    task.claimable now = false := by
  by_contra free
  have claimable : task.claimable now = true := by simpa using free
  have positive : 0 < leaseSeconds := by
    by_contra bad
    have lease : leaseSeconds ≤ 0 := by omega
    simp [Postgres.markProcessing, lease] at marked
  rw [Postgres.markProcessing_claimed positive found claimable] at marked
  cases marked

/-- After `mark_processing` has returned, the task is not queued. -/
theorem claim_unqueued {pipeline after : Pipeline.State} {now : Int} {position handler : Nat}
    {leaseSeconds : Int} {body : Json} {message : TaskMessage} {granted : Bool} {tasks : TaskTable}
    (stepped : Pipeline.step pipeline ⟨now, .claim handler position leaseSeconds⟩ = some after)
    (accepted : pipeline.queue[position]? = some body)
    (parsed : TaskMessage.fromBody body = .ok message)
    (marked : Postgres.markProcessing now message.taskId leaseSeconds (some now)
      pipeline.workers.tasks = .ok (granted, tasks)) :
    ∀ task, after.workers.tasks.find message.taskId = some task → task.status ≠ .queued := by
  have facts := Workers.postgres_markProcessing_ok marked
  unfold Pipeline.step at stepped
  split at stepped
  · cases stepped
  · simp only [Pipeline.perform, accepted, Option.map_some, parsed, Pipeline.work,
      Workers.perform, Workers.Backend.markProcessing, marked] at stepped
    intro task found
    cases granted with
    | true =>
        obtain ⟨-, old, present, -, rfl⟩ := facts
        obtain ⟨workers, started, rfl⟩ := Option.map_eq_some_iff.mp stepped
        obtain ⟨handlers, -, rfl⟩ := Option.map_eq_some_iff.mp started
        dsimp only at found
        rw [find_claimTask, if_pos rfl, present, Option.map_some] at found
        obtain rfl := Option.some.inj found
        simp [TaskRecord.claim]
    | false =>
        obtain rfl : tasks = pipeline.workers.tasks := facts
        obtain ⟨workers, skipped, rfl⟩ := Option.map_eq_some_iff.mp stepped
        obtain rfl := Option.some.inj skipped
        have busy := postgres_skips marked task found
        intro queued
        simp [TaskRecord.claimable, queued] at busy

theorem requireStage_unhandled (state : State) (body : Json) (failure : Option PyError)
    (receiveCount : Int) :
    (Place.inFlight receiveCount (requireStage state body failure)).unhandled := by
  unfold requireStage
  split
  · trivial
  · trivial
  · split <;> trivial

/-- A claim that returned has handled its message, and the task is not queued any more. -/
theorem claim_tracked {now : Int} {position handler : Nat} {leaseSeconds : Int}
    {failure : Option PyError} (tracked : Tracked state)
    (stepped : step state (.claim now position handler leaseSeconds failure) = some next) :
    Tracked next := by
  simp only [step] at stepped
  split at stepped
  · rename_i here
    obtain rfl := Option.some.inj stepped
    exact tracked.move here fun _ => trivial
  · rename_i body receiveCount accepted here
    obtain ⟨pipeline, moved, rfl⟩ := Option.map_eq_some_iff.mp stepped
    apply (worker_tracked tracked rfl moved).put
    intro taskId task found queued other old there about _ _
    have same : pipeline.queue = state.pipeline.queue := step_queue rfl moved
    dsimp only at there
    rw [same] at there
    obtain rfl := Option.some.inj (accepted.symm.trans there)
    obtain ⟨message, parsed, rfl⟩ := about
    cases marked : Postgres.markProcessing now message.taskId leaseSeconds (some now)
        state.pipeline.workers.tasks with
    | error error =>
        have stage : claimStage state now handler leaseSeconds body = .raised (pyError error) := by
          simp only [claimStage, parsed, marked]
        rw [stage]
        trivial
    | ok outcome =>
        exact absurd queued (claim_unqueued moved accepted parsed marked task found)
  · cases stepped

theorem step_tracked {action : Action} (tracked : Tracked state)
    (stepped : step state action = some next) : Tracked next := by
  cases action with
  | dispatch action =>
      simp only [step, dispatch] at stepped
      split at stepped
      · obtain ⟨pipeline, moved, rfl⟩ := Option.map_eq_some_iff.mp stepped
        exact pipeline_tracked tracked moved
      · cases stepped
  | receive position =>
      simp only [step] at stepped
      split at stepped
      · rename_i here
        obtain rfl := Option.some.inj stepped
        exact tracked.move here fun _ => trivial
      · cases stepped
  | require position failure =>
      simp only [step] at stepped
      split at stepped
      · rename_i accepted here
        obtain rfl := Option.some.inj stepped
        exact tracked.move here fun _ => requireStage_unhandled _ _ _ _
      · cases stepped
  | claim now position handler leaseSeconds failure => exact claim_tracked tracked stepped
  | complete now position result failure =>
      simp only [step] at stepped
      split at stepped
      · rename_i here
        obtain rfl := Option.some.inj stepped
        exact tracked.move here fun _ => trivial
      · rename_i here
        obtain ⟨pipeline, moved, rfl⟩ := Option.map_eq_some_iff.mp stepped
        exact (worker_tracked tracked rfl moved).move here fun handled => handled.elim
      · cases stepped
  | fail now position error failure =>
      simp only [step] at stepped
      split at stepped
      · rename_i here
        obtain rfl := Option.some.inj stepped
        exact tracked.move here fun _ => trivial
      · rename_i here
        obtain ⟨pipeline, moved, rfl⟩ := Option.map_eq_some_iff.mp stepped
        exact (worker_tracked tracked rfl moved).move here fun handled => handled.elim
      · cases stepped
  | ack position failure =>
      simp only [step] at stepped
      split at stepped
      · rename_i here
        obtain rfl := Option.some.inj stepped
        exact tracked.move here fun _ => trivial
      · rename_i here
        obtain rfl := Option.some.inj stepped
        exact tracked.move here fun handled => handled.elim
      · cases stepped
  | nack position worker =>
      simp only [step] at stepped
      split at stepped
      · rename_i here
        split at stepped
        · obtain rfl := Option.some.inj stepped
          exact tracked.move here fun _ => trivial
        · obtain rfl := Option.some.inj stepped
          exact tracked.move here fun _ => trivial
      · cases stepped
  | crash position receiveCount =>
      simp only [step] at stepped
      split at stepped
      · rename_i here
        obtain rfl := Option.some.inj stepped
        exact tracked.move here fun _ => trivial
      · cases stepped

end Steps

theorem run_tracked {start : Int} {actions : List Action} {state : State}
    (reached : run step (.init start) actions = some state) : Tracked state :=
  run_invariant_always Tracked (fun _ _ _ tracked stepped => step_tracked tracked stepped)
    (init_tracked start) reached

/-- The queue still has the message, in the queue or handed out. -/
def Place.unacknowledged : Place → Prop
  | .queued _ => True
  | .inFlight _ _ => True
  | .acknowledged => False
  | .deadLettered => False

theorem Place.unhandled.unacknowledged {place : Place} (unhandled : place.unhandled)
    (alive : place ≠ .deadLettered) : place.unacknowledged := by
  cases place with
  | queued receiveCount => trivial
  | inFlight receiveCount stage => trivial
  | acknowledged => exact unhandled
  | deadLettered => exact alive rfl

/-- In every state of every run, a QUEUED task with no FAILED event and no dead letter has a PENDING
event or a message that is not acknowledged yet. (An event that was never marked FAILED is not
FAILED.) -/
theorem queued_task_not_stranded (start : Int) (actions : List Action) (state : State)
    (reached : run step (.init start) actions = some state) (taskId : String) (task : TaskRecord)
    (stored : state.pipeline.workers.tasks.find taskId = some task)
    (queued : task.status = .queued)
    (spared : ∀ eventId event, state.pipeline.events.find eventId = some event →
      Announces event.payload taskId → event.status ≠ .failed)
    (alive : ∀ (position : Nat) (body : Json), state.pipeline.queue[position]? = some body →
      Announces body taskId → state.places[position]? ≠ some .deadLettered) :
    (∃ eventId event, state.pipeline.events.find eventId = some event ∧
      event.status = .pending ∧ Announces event.payload taskId) ∨
    ∃ (position : Nat) (body : Json) (place : Place),
      state.pipeline.queue[position]? = some body ∧ Announces body taskId ∧
        state.places[position]? = some place ∧ place.unacknowledged := by
  have tracked := run_tracked reached
  obtain ⟨eventId, latest, waits⟩ := tracked.announced taskId task stored queued
  have listed := Pipeline.mem_of_lookup latest
  by_cases sent : eventId ∈ state.pipeline.sent
  · right
    obtain ⟨position, body, place, accepted, about, here, unhandled⟩ := waits sent
    refine ⟨position, body, place, accepted, about, here, unhandled.unacknowledged ?_⟩
    rintro rfl
    exact alive position body accepted about here
  · left
    obtain ⟨event, present, about⟩ := tracked.formed.announced _ listed
    refine ⟨eventId, event, present, ?_, about⟩
    cases status : event.status with
    | pending => rfl
    | published => exact absurd (tracked.published _ listed event present status) sent
    | failed => exact absurd status (spared eventId event present about)

/-- A task is submitted and relayed, and a worker has received its message. -/
def handedOut : List Action :=
  [.dispatch ⟨0, .submit Pipeline.announcedTask "e"⟩,
    .dispatch ⟨0, .startPass 1 100 60000000 ["e"]⟩, .dispatch ⟨0, .publish 1 none⟩,
    .dispatch ⟨0, .record 1 0⟩, .receive 0]

theorem handedOut_accepted : (run step (.init 0) handedOut).isSome = true := by decide +kernel

def handedOutEnd : State := (run step (.init 0) handedOut).get handedOut_accepted

theorem handedOut_not_stranded :
    ∃ (position : Nat) (body : Json) (place : Place),
      handedOutEnd.pipeline.queue[position]? = some body ∧ Announces body "t" ∧
        handedOutEnd.places[position]? = some place ∧ place.unacknowledged := by
  have queued : (handedOutEnd.pipeline.workers.tasks.find "t").map TaskRecord.status =
      some .queued := by decide +kernel
  obtain ⟨task, stored, status⟩ := Option.map_eq_some_iff.mp queued
  have published : ∀ eventId event, handedOutEnd.pipeline.events.find eventId = some event →
      event.status = .published := by
    intro eventId event found
    have statuses : handedOutEnd.pipeline.events.rows.map OutboxRecord.status = [.published] := by
      decide +kernel
    have listed := List.mem_map_of_mem (f := OutboxRecord.status) (Table.find_some.mp found).1
    rw [statuses] at listed
    exact List.mem_singleton.mp listed
  have alive : ∀ (position : Nat) (body : Json),
      handedOutEnd.pipeline.queue[position]? = some body → Announces body "t" →
        handedOutEnd.places[position]? ≠ some .deadLettered := by
    intro position body _ _ dead
    have places : handedOutEnd.places = [.inFlight 1 .received] := rfl
    rw [places] at dead
    cases List.mem_singleton.mp (List.mem_of_getElem? dead)
  have unfailed : ∀ eventId event, handedOutEnd.pipeline.events.find eventId = some event →
      Announces event.payload "t" → event.status ≠ .failed := by
    intro eventId event found _ failed
    rw [published eventId event found] at failed
    cases failed
  rcases queued_task_not_stranded 0 handedOut handedOutEnd
      (Option.some_get handedOut_accepted).symm "t" task stored status unfailed
      alive with ⟨eventId, event, found, pending, -⟩ | waiting
  · rw [published eventId event found] at pending
    cases pending
  · exact waiting

end AiPlatform.Tasks.Delivery

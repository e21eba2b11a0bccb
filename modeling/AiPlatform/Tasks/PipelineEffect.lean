import AiPlatform.Tasks.Pipeline

set_option autoImplicit false

/- What one call of the pipeline can do, said once. -/
namespace AiPlatform.Tasks.Pipeline

open Machine Outbox Resilience

def State.Known (state : State) (eventId : String) : Prop :=
  ∃ event, state.events.find eventId = some event

/-- The record was read off a row that is still there; no write changes a payload. -/
def State.Holds (state : State) (record : OutboxRecord) : Prop :=
  ∃ event, state.events.find record.id = some event ∧ event.payload = record.payload

theorem State.Holds.known {state : State} {record : OutboxRecord} (holds : state.Holds record) :
    state.Known record.id := by
  obtain ⟨event, found, -⟩ := holds
  exact ⟨event, found⟩

/-- What the relays and the histories may rely on. -/
structure WellFormed (state : State) : Prop where
  announced : ∀ pair ∈ state.announced,
    ∃ event, state.events.find pair.2 = some event ∧ Announces event.payload pair.1
  sent : ∀ eventId ∈ state.sent, state.Known eventId
  claimed : ∀ relay ∈ state.relays.rows, ∀ record ∈ relay.phase.records, state.Holds record
  published : ∀ relay ∈ state.relays.rows, ∀ record rest, relay.phase = .sent record rest →
    record.id ∈ state.sent

/-- A relay of the new table goes on with records that an old relay had claimed. -/
def Inherits (relays : Table Relay.id) (state : State) (sent : List String) : Prop :=
  ∀ relay ∈ relays.rows, (∀ record ∈ relay.phase.records, state.Holds record) ∧
    ∀ record rest, relay.phase = .sent record rest → record.id ∈ sent

/-- All that a call can do to tasks, events and histories. -/
inductive Effect (state : State) (call : Call) : State → Prop
  | quiet (workers : Workers.State) (relays : Table Relay.id)
      (queued : ∀ taskId task, workers.tasks.find taskId = some task → task.status = .queued →
        state.workers.tasks.find taskId = some task)
      (inherits : Inherits relays state state.sent) :
      Effect state call { state with workers := workers, relays := relays }
  | announce (tasks : TaskTable) (events : OutboxTable) (pairs : List (String × String))
      (fresh : ∀ pair ∈ pairs, state.events.find pair.2 = none ∧
        ∃ event, events.find pair.2 = some event ∧ event.status = .pending ∧
          Announces event.payload pair.1)
      (frame : ∀ eventId, state.Known eventId →
        events.find eventId = state.events.find eventId)
      (queued : ∀ taskId task, tasks.find taskId = some task → task.status = .queued →
        (∃ eventId, pairs.lookup taskId = some eventId) ∨
          pairs.lookup taskId = none ∧ state.workers.tasks.find taskId = some task) :
      Effect state call
        { state with
          workers := { state.workers with tasks := tasks }
          events := events
          announced := pairs ++ state.announced }
  | lock (events : OutboxTable) (relays : Table Relay.id)
      (same : ∀ eventId, (events.find eventId).map (fun event => (event.status, event.payload)) =
        (state.events.find eventId).map fun event => (event.status, event.payload))
      (inherits : Inherits relays state state.sent) :
      Effect state call { state with events := events, relays := relays }
  | send (record : OutboxRecord) (message : TaskMessage) (relays : Table Relay.id)
      (known : state.Holds record) (parsed : TaskMessage.fromBody record.payload = .ok message)
      (inherits : Inherits relays state (record.id :: state.sent)) :
      Effect state call
        { state with
          queue := state.queue ++ [message.toBody]
          relays := relays
          sent := record.id :: state.sent }
  | settle (relay : Relay) (record : OutboxRecord) (change : OutboxRecord → OutboxRecord)
      (events : OutboxTable) (relays : Table Relay.id)
      (marked : ∀ eventId, events.find eventId =
        if eventId = record.id then (state.events.find eventId).map change
        else state.events.find eventId)
      (kept : ∀ event, (change event).payload = event.payload)
      (cause : record.id ∈ state.sent ∨ (∀ event, (change event).status = .pending) ∨
        (∀ event, (change event).status = .failed) ∧
        ∃ relayId draw error rest, call = .record relayId draw ∧
          state.relays.find relayId = some relay ∧ relay.phase = .raised record error rest ∧
          defaultOutboxRetryPolicy.maxAttempts ≤ record.attempts + 1 ∧
          Columns.sendable error.text)
      (inherits : Inherits relays state state.sent) :
      Effect state call { state with events := events, relays := relays }

theorem mem_enter {relays : Table Relay.id} {relayId : Nat} {phase : Phase} {relay : Relay}
    (member : relay ∈ (Relay.enter relays relayId phase).rows) :
    relay ∈ relays.rows ∨ relay.phase = phase := by
  simp only [Relay.enter, Table.modify, Table.rows_map, List.mem_map] at member
  obtain ⟨old, inside, shape⟩ := member
  split at shape
  · subst shape
    exact .inr rfl
  · subst shape
    exact .inl inside

theorem WellFormed.inherits {state : State} (formed : WellFormed state) :
    Inherits state.relays state state.sent := fun relay member =>
  ⟨formed.claimed relay member, formed.published relay member⟩

theorem WellFormed.inherits_remove {state : State} (formed : WellFormed state) (relayId : Nat) :
    Inherits (state.relays.remove relayId) state state.sent := fun relay member =>
  formed.inherits relay (Table.mem_erase.mp member).1

theorem WellFormed.inherits_enter {state : State} (formed : WellFormed state) (relayId : Nat)
    {phase : Phase} {sent : List String} (grown : ∀ eventId ∈ state.sent, eventId ∈ sent)
    (known : ∀ record ∈ phase.records, state.Holds record)
    (published : ∀ record rest, phase = .sent record rest → record.id ∈ sent) :
    Inherits (Relay.enter state.relays relayId phase) state sent := by
  intro relay member
  rcases mem_enter member with old | new
  · exact ⟨formed.claimed relay old, fun record rest shape =>
      grown record.id (formed.published relay old record rest shape)⟩
  · rw [new]
    exact ⟨known, published⟩

theorem taskEvent_some {clock : Int} {eventId : String} {ref : TaskRef} {event : OutboxRecord}
    (built : taskEvent clock eventId ref = some event) :
    event.id = eventId ∧ event.status = .pending ∧ Announces event.payload ref.id := by
  obtain ⟨message, made, rfl⟩ := Option.map_eq_some_iff.mp built
  exact ⟨rfl, rfl, message, message.fromBody_toBody, TaskMessage.make?_some made⟩

theorem lookup_zip_some {keys values : List String} (same : keys.length = values.length)
    {key : String} (member : key ∈ keys) : ∃ value, (keys.zip values).lookup key = some value := by
  induction keys generalizing values with
  | nil => exact absurd member List.not_mem_nil
  | cons head keys ih =>
      cases values with
      | nil => simp at same
      | cons value values =>
          by_cases here : key = head
          · exact ⟨value, by simp [here]⟩
          · have tail : key ∈ keys := by simpa [here] using member
            obtain ⟨found, rest⟩ := ih (by simpa using same) tail
            have differs : (key == head) = false := by simpa using here
            exact ⟨found, by simp only [List.zip_cons_cons, List.lookup_cons, differs, rest]⟩

theorem lookup_zip_none {keys values : List String} {key : String} (absent : key ∉ keys) :
    (keys.zip values).lookup key = none := by
  rw [List.lookup_eq_none_iff]
  intro pair member
  have inside := (List.of_mem_zip member).1
  simp only [bne_iff_ne, ne_eq]
  rintro rfl
  exact absent inside

theorem submit_effect {state next : State} {now : Int} {task : TaskRecord} {eventId : String}
    (formed : WellFormed state) (reached : submit state now task eventId = some next) :
    Effect state (.submit task eventId) next := by
  unfold submit at reached
  split at reached
  · rename_i tasks event created built
    obtain ⟨events, inserted, rfl⟩ := Option.map_eq_some_iff.mp reached
    obtain ⟨rfl, pending⟩ := taskEvent_some built
    have missing := (Table.insert_some.mp inserted).1
    refine .announce tasks events [(task.id, event.id)] ?_ ?_ ?_
    · intro pair member
      obtain rfl := List.mem_singleton.mp member
      exact ⟨missing, event, by rw [Table.find_insert inserted, if_pos rfl], pending⟩
    · rintro other ⟨old, found⟩
      have differs : other ≠ event.id := by
        rintro rfl
        rw [missing] at found
        cases found
      rw [Table.find_insert inserted, if_neg differs]
    · intro taskId row found _
      unfold Postgres.create at created
      split at created
      · cases created
      · rename_i inserted
        cases created
        by_cases here : taskId = task.id
        · exact .inl ⟨event.id, by simp [here]⟩
        · have differs : (taskId == task.id) = false := by simpa using here
          refine .inr ⟨by simp only [List.lookup_cons, List.lookup_nil, differs], ?_⟩
          rw [Table.find_insert inserted, if_neg (show taskId ≠ (Postgres.newTaskRow now task).id
            from here)] at found
          exact found
  · cases reached
    exact .quiet state.workers state.relays (fun _ _ found _ => found) formed.inherits

theorem announced_event {now : Int} {refs : List TaskRef} {eventIds : List String}
    (valid : (((refs.zip eventIds).map fun pair => taskEvent now pair.2 pair.1).all
      Option.isSome) = true)
    {pair : String × String} (member : pair ∈ (refs.map TaskRef.id).zip eventIds) :
    ∃ event ∈ ((refs.zip eventIds).map fun pair => taskEvent now pair.2 pair.1).filterMap id,
      event.id = pair.2 ∧ event.status = .pending ∧ Announces event.payload pair.1 := by
  rw [List.zip_map_left, List.mem_map] at member
  obtain ⟨⟨ref, eventId⟩, inside, rfl⟩ := member
  have listed : taskEvent now eventId ref ∈
      (refs.zip eventIds).map fun pair => taskEvent now pair.2 pair.1 :=
    List.mem_map.mpr ⟨(ref, eventId), inside, rfl⟩
  obtain ⟨event, built⟩ := Option.isSome_iff_exists.mp (List.all_eq_true.mp valid _ listed)
  rw [built] at listed
  exact ⟨event, List.mem_filterMap.mpr ⟨some event, listed, rfl⟩, taskEvent_some built⟩

/-- After reclaim a queued task was requeued and announced, or was queued before. -/
theorem requeued_cases {tasks : TaskTable} {now maxAttempts : Int} {stale eventIds : List String}
    (paired : ((tasks.rows.filter fun task => task.id ∈ stale ∧ task.attempts < maxAttempts).map
      TaskRecord.ref).length = eventIds.length)
    {taskId : String} {task : TaskRecord}
    (found : (tasks.map
      (fun task => if task.id ∈ stale then task.settle maxAttempts now else task)
      (fun task => by split <;> simp)).find taskId = some task)
    (queued : task.status = .queued) :
    let pairs := (((tasks.rows.filter fun task => task.id ∈ stale ∧
      task.attempts < maxAttempts).map TaskRecord.ref).map TaskRef.id).zip eventIds
    (∃ eventId, pairs.lookup taskId = some eventId) ∨
      pairs.lookup taskId = none ∧ tasks.find taskId = some task := by
  intro pairs
  rw [Postgres.reclaimStaleIn_find] at found
  by_cases picked : taskId ∈ stale
  · left
    rw [if_pos picked] at found
    obtain ⟨old, oldFound, rfl⟩ := Option.map_eq_some_iff.mp found
    obtain ⟨member, rfl⟩ := Table.find_some.mp oldFound
    have under : old.attempts < maxAttempts := by
      by_contra spent
      have capped : maxAttempts ≤ old.attempts := by omega
      simp [TaskRecord.settle, capped] at queued
    apply lookup_zip_some (by simpa using paired)
    simp only [List.map_map, List.mem_map, List.mem_filter, decide_eq_true_eq]
    exact ⟨old, ⟨member, picked, under⟩, rfl⟩
  · right
    rw [if_neg picked] at found
    refine ⟨lookup_zip_none ?_, found⟩
    simp only [List.map_map, List.mem_map, List.mem_filter, decide_eq_true_eq]
    rintro ⟨old, ⟨-, chosen, -⟩, rfl⟩
    exact picked chosen

theorem reclaim_effect {state next : State} {now limit maxAttempts : Int}
    {stale eventIds : List String} (formed : WellFormed state)
    (reached : reclaim state now limit maxAttempts stale eventIds = some next) :
    Effect state (.reclaim limit maxAttempts stale eventIds) next := by
  have unchanged : Effect state (.reclaim limit maxAttempts stale eventIds) state :=
    .quiet state.workers state.relays (fun _ _ found _ => found) formed.inherits
  unfold reclaim Postgres.reclaimStaleIn at reached
  split at reached
  · split at reached
    · cases reached
      exact unchanged
    · rename_i refs tasks settled
      split at settled
      · cases settled
      · cases settled
        split at reached
        · rename_i paired
          dsimp only at reached
          split at reached
          · rename_i valid
            obtain ⟨events, inserted, rfl⟩ := Option.map_eq_some_iff.mp reached
            obtain ⟨added, frame⟩ := Table.find_insertAll inserted
            refine .announce _ events _ ?_ ?_ ?_
            · intro pair member
              obtain ⟨event, listed, same, pending⟩ := announced_event valid member
              rw [← same]
              exact ⟨(added event listed).1, event, (added event listed).2, pending⟩
            · rintro eventId ⟨old, found⟩
              refine frame eventId fun event listed same => ?_
              rw [← same, (added event listed).1] at found
              cases found
            · intro taskId task found queued
              exact requeued_cases paired found queued
          · cases reached
            exact unchanged
        · cases reached
  · cases reached

theorem work_effect {state next : State} {now : Int} {call : Call} {asked : Workers.Call}
    (formed : WellFormed state) (notCreate : ∀ task, asked ≠ .create task)
    (notReclaim : ∀ limit maxAttempts stale, asked ≠ .reclaim limit maxAttempts stale)
    (reached : work state now asked = some next) : Effect state call next := by
  obtain ⟨workers, performed, rfl⟩ := Option.map_eq_some_iff.mp reached
  have effect := Workers.perform_effect performed
  exact .quiet workers state.relays
    (fun _ _ found queued => effect.queued_before notCreate notReclaim found queued)
    formed.inherits

theorem startPass_effect {state next : State} {now limit lockMicros : Int} {relayId : Nat}
    {picked : List String} {call : Call} (formed : WellFormed state)
    (reached : startPass state now relayId limit lockMicros picked = some next) :
    Effect state call next := by
  unfold startPass at reached
  split at reached
  · cases reached
    exact .quiet state.workers state.relays (fun _ _ found _ => found) formed.inherits
  · split at reached
    · dsimp only at reached
      obtain ⟨relays, started, rfl⟩ := Option.map_eq_some_iff.mp reached
      refine .lock _ relays ?_ ?_
      · intro eventId
        rw [find_claimPending]
        cases state.events.find eventId with
        | none => rfl
        | some event =>
            by_cases chosen : eventId ∈ picked
            · simp [chosen, OutboxRecord.lock]
            · simp [chosen]
      · intro relay member
        rw [(Table.insert_some.mp started).2] at member
        rcases List.mem_append.mp member with old | new
        · exact formed.inherits relay old
        · obtain rfl := List.mem_singleton.mp new
          refine ⟨fun record claimed => ?_, fun record rest shape => by cases shape⟩
          have found := mem_claimPending claimed
          rw [find_claimPending] at found
          obtain ⟨event, present, locked⟩ := Option.map_eq_some_iff.mp found
          refine ⟨event, present, ?_⟩
          rw [← locked]
          split <;> rfl
    · cases reached

theorem publish_effect {state next : State} {relayId : Nat} {failure : Option PyError}
    {call : Call} (formed : WellFormed state)
    (reached : publish state relayId failure = some next) : Effect state call next := by
  unfold publish at reached
  split at reached
  · rename_i record rest phased
    obtain ⟨relay, found, phase⟩ := Option.map_eq_some_iff.mp phased
    have known := formed.claimed relay (Table.find_some.mp found).1
    rw [phase] at known
    have raises : ∀ error, Effect state call { state with
        relays := Relay.enter state.relays relayId (.raised record error rest) } := by
      intro error
      refine .quiet state.workers _ (fun _ _ present _ => present) ?_
      refine formed.inherits_enter relayId (fun _ member => member) known ?_
      intro other rest shape
      cases shape
    split at reached
    · rename_i message parsed
      cases reached
      refine .send record message _ (known record List.mem_cons_self) parsed ?_
      refine formed.inherits_enter relayId (fun _ => List.mem_cons_of_mem _) known ?_
      intro other rest shape
      cases shape
      exact List.mem_cons_self
    · cases reached
      exact raises _
    · cases reached
      exact raises _
  · cases reached

theorem record_effect {state next : State} {relayId : Nat} {draw : Rat}
    (formed : WellFormed state) (reached : record state relayId draw = some next) :
    Effect state (.record relayId draw) next := by
  have ends : Effect state (.record relayId draw)
      { state with relays := state.relays.remove relayId } :=
    .quiet state.workers _ (fun _ _ found _ => found) (formed.inherits_remove relayId)
  unfold record at reached
  split at reached
  · rename_i id now record rest found
    have held := (Table.find_some.mp found).1
    have known := formed.claimed _ held
    have published := formed.published _ held record rest rfl
    split at reached
    · cases reached
      exact ends
    · rename_i events marked
      cases reached
      refine .settle ⟨id, now, .sent record rest⟩ record _ events _ (markPublished_some marked)
        (fun _ => rfl) (.inl published) ?_
      refine formed.inherits_enter relayId (fun _ member => member)
        (fun other member => known other (List.mem_cons_of_mem _ member)) ?_
      intro other rest shape
      cases shape
  · rename_i id now record error rest found
    have held := (Table.find_some.mp found).1
    have known := formed.claimed _ held
    split at reached
    · cases reached
      exact ends
    · rename_i events marked
      cases reached
      refine .settle ⟨id, now, .raised record error rest⟩ record _ events _
        (markFailed_some marked) (fun _ => rfl) (.inr ?_) ?_
      · cases attempt : nextAttempt defaultOutboxRetryPolicy now record error draw with
        | some availableAt =>
            left
            intro event
            simp [OutboxRecord.fail]
        | none =>
            right
            exact ⟨fun _ => rfl, relayId, draw, error, rest, rfl, found, rfl,
              nextAttempt_none.mp attempt, markFailed_sent marked⟩
      · refine formed.inherits_enter relayId (fun _ member => member)
          (fun other member => known other (List.mem_cons_of_mem _ member)) ?_
        intro other rest shape
        cases shape
  · cases reached

theorem perform_effect {state next : State} {now : Int} {call : Call}
    (formed : WellFormed state) (reached : perform state now call = some next) :
    Effect state call next := by
  cases call with
  | submit task eventId => exact submit_effect formed reached
  | reclaim limit maxAttempts stale eventIds => exact reclaim_effect formed reached
  | claim handler position leaseSeconds =>
      simp only [perform] at reached
      split at reached
      · exact work_effect formed (fun _ => by simp) (fun _ _ _ => by simp) reached
      · cases reached
        exact .quiet state.workers state.relays (fun _ _ found _ => found) formed.inherits
      · cases reached
  | complete handler result =>
      exact work_effect formed (fun _ => by simp) (fun _ _ _ => by simp) reached
  | fail handler error =>
      exact work_effect formed (fun _ => by simp) (fun _ _ _ => by simp) reached
  | startPass relayId limit lockMicros picked => exact startPass_effect formed reached
  | publish relayId failure => exact publish_effect formed reached
  | record relayId draw => exact record_effect formed reached
  | crash relayId =>
      cases reached
      exact .quiet state.workers _ (fun _ _ found _ => found) (formed.inherits_remove relayId)

theorem step_effect {state next : State} {action : Action} (formed : WellFormed state)
    (stepped : step state action = some next) :
    Effect { state with workers := { state.workers with clock := action.now } } action.call
      next := by
  unfold step at stepped
  split at stepped
  · cases stepped
  · exact perform_effect ⟨formed.announced, formed.sent, formed.claimed, formed.published⟩ stepped

theorem init_wellFormed (start : Int) : WellFormed (.init start) := by
  constructor <;> simp [State.init]

/-- Events are never deleted, and no write changes a payload. -/
theorem Effect.stored {state next : State} {call : Call} (effect : Effect state call next)
    {eventId : String} {event : OutboxRecord} (found : state.events.find eventId = some event) :
    ∃ after, next.events.find eventId = some after ∧ after.payload = event.payload := by
  cases effect with
  | quiet workers relays queued inherits => exact ⟨event, found, rfl⟩
  | announce tasks events pairs fresh frame queued =>
      exact ⟨event, (frame eventId ⟨event, found⟩).trans found, rfl⟩
  | lock events relays same inherits =>
      have content := same eventId
      rw [found, Option.map_some] at content
      obtain ⟨after, present, equal⟩ := Option.map_eq_some_iff.mp content
      exact ⟨after, present, congrArg Prod.snd equal⟩
  | send record message relays known parsed inherits => exact ⟨event, found, rfl⟩
  | settle relay record change events relays marked kept cause inherits =>
      by_cases here : eventId = record.id
      · refine ⟨change event, ?_, kept event⟩
        simp only [marked, here, ↓reduceIte]
        rw [← here, found, Option.map_some]
      · refine ⟨event, ?_, rfl⟩
        simpa only [marked, here, ↓reduceIte] using found

theorem Effect.known {state next : State} {call : Call} (effect : Effect state call next)
    {eventId : String} (known : state.Known eventId) : next.Known eventId := by
  obtain ⟨event, found⟩ := known
  obtain ⟨after, present, -⟩ := effect.stored found
  exact ⟨after, present⟩

theorem Effect.holds {state next : State} {call : Call} (effect : Effect state call next)
    {record : OutboxRecord} (holds : state.Holds record) : next.Holds record := by
  obtain ⟨event, found, same⟩ := holds
  obtain ⟨after, present, kept⟩ := effect.stored found
  exact ⟨after, present, kept.trans same⟩

theorem Effect.announces {state next : State} {call : Call} (effect : Effect state call next)
    {eventId taskId : String}
    (about : ∃ event, state.events.find eventId = some event ∧ Announces event.payload taskId) :
    ∃ event, next.events.find eventId = some event ∧ Announces event.payload taskId := by
  obtain ⟨event, found, announces⟩ := about
  obtain ⟨after, present, kept⟩ := effect.stored found
  exact ⟨after, present, kept ▸ announces⟩

theorem Effect.wellFormed {state next : State} {call : Call} (effect : Effect state call next)
    (formed : WellFormed state) : WellFormed next := by
  have known : ∀ eventId ∈ state.sent, next.Known eventId :=
    fun eventId member => effect.known (formed.sent eventId member)
  have announced : ∀ pair ∈ state.announced,
      ∃ event, next.events.find pair.2 = some event ∧ Announces event.payload pair.1 :=
    fun pair member => effect.announces (formed.announced pair member)
  have holds : ∀ record, state.Holds record → next.Holds record :=
    fun _ held => effect.holds held
  cases effect with
  | quiet workers relays queued inherits =>
      exact ⟨announced, known, fun relay member => (inherits relay member).1,
        fun relay member => (inherits relay member).2⟩
  | announce tasks events pairs fresh frame queued =>
      refine ⟨?_, known, fun relay member record claimed =>
        holds record (formed.claimed relay member record claimed), formed.published⟩
      intro pair member
      rcases List.mem_append.mp member with new | old
      · obtain ⟨-, event, found, -, about⟩ := fresh pair new
        exact ⟨event, found, about⟩
      · exact announced pair old
  | lock events relays same inherits =>
      exact ⟨announced, known, fun relay member record claimed =>
        holds record ((inherits relay member).1 record claimed),
        fun relay member => (inherits relay member).2⟩
  | send record message relays held parsed inherits =>
      refine ⟨announced, fun eventId member => ?_, fun relay member =>
        (inherits relay member).1, fun relay member => (inherits relay member).2⟩
      rcases List.mem_cons.mp member with rfl | old
      · exact held.known
      · exact known eventId old
  | settle relay record change events relays marked kept cause inherits =>
      exact ⟨announced, known, fun relay member entry claimed =>
        holds entry ((inherits relay member).1 entry claimed),
        fun relay member => (inherits relay member).2⟩

theorem step_wellFormed {state next : State} {action : Action} (formed : WellFormed state)
    (stepped : step state action = some next) : WellFormed next := by
  have effect := step_effect formed stepped
  exact effect.wellFormed ⟨formed.announced, formed.sent, formed.claimed, formed.published⟩

end AiPlatform.Tasks.Pipeline

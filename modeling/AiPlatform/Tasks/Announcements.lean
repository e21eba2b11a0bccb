import AiPlatform.Tasks.PipelineEffect

set_option autoImplicit false

/- An announcement of a queued task stays pending until it is sent, as long as no relay spends
the last attempt on it. -/
namespace AiPlatform.Tasks.Pipeline

open Machine Outbox Resilience

/-- Every queued task has an announcement, and one that was never sent is pending. -/
def Announced (state : State) : Prop :=
  ∀ taskId task, state.workers.tasks.find taskId = some task → task.status = .queued →
    ∃ eventId, state.announced.lookup taskId = some eventId ∧ (eventId ∉ state.sent →
      ∃ event, state.events.find eventId = some event ∧ event.status = .pending)

/-- The event is an unsent announcement of a task that is queued. -/
def Awaited (state : State) (eventId : String) : Prop :=
  eventId ∉ state.sent ∧ ∃ taskId task, (taskId, eventId) ∈ state.announced ∧
    state.workers.tasks.find taskId = some task ∧ task.status = .queued

def State.Failed (state : State) (eventId : String) : Prop :=
  ∃ event, state.events.find eventId = some event ∧ event.status = .failed

/-- In every state of the run each queued task is announced, and no step moves an awaited
announcement to FAILED. -/
def AnnouncementsKept (start : Int) (actions : List Action) : Prop :=
  (∀ before after state, actions = before ++ after →
    run step (.init start) before = some state → Announced state) ∧
  ∀ before action after state next, actions = before ++ action :: after →
    run step (.init start) before = some state → step state action = some next →
    ∀ eventId, Awaited state eventId → next.Failed eventId → state.Failed eventId

/-- No relay records the failure of a record it claimed with its last attempt, with a text that the
`error` column takes, while the event is awaited (and not failed already). -/
def SparesAwaited (state : State) (action : Action) : Prop :=
  ∀ relayId draw, action.call = .record relayId draw →
    ∀ relay record error rest, state.relays.find relayId = some relay →
      relay.phase = .raised record error rest →
      defaultOutboxRetryPolicy.maxAttempts ≤ record.attempts + 1 → Columns.sendable error.text →
      Awaited state record.id → state.Failed record.id

theorem mem_of_lookup {pairs : List (String × String)} {key value : String}
    (found : pairs.lookup key = some value) : (key, value) ∈ pairs := by
  obtain ⟨before, after, shape, -⟩ := List.lookup_eq_some_iff.mp found
  rw [shape]
  simp

theorem Effect.announced {state next : State} {action : Action}
    (effect : Effect state action.call next) (spares : SparesAwaited state action)
    (announced : Announced state) : Announced next := by
  intro taskId task found queued
  cases effect with
  | quiet workers relays before inherits =>
      exact announced taskId task (before taskId task found queued) queued
  | announce tasks events pairs fresh frame before =>
      rcases before taskId task found queued with ⟨eventId, listed⟩ | ⟨unlisted, old⟩
      · refine ⟨eventId, by simp [List.lookup_append, listed], fun _ => ?_⟩
        obtain ⟨event, present, pending, -⟩ := (fresh (taskId, eventId) (mem_of_lookup listed)).2
        exact ⟨event, present, pending⟩
      · obtain ⟨eventId, latest, pending⟩ := announced taskId task old queued
        refine ⟨eventId, by simp [List.lookup_append, unlisted, latest], fun unsent => ?_⟩
        obtain ⟨event, present, status⟩ := pending unsent
        exact ⟨event, (frame eventId ⟨event, present⟩).trans present, status⟩
  | lock events relays same inherits =>
      obtain ⟨eventId, latest, pending⟩ := announced taskId task found queued
      refine ⟨eventId, latest, fun unsent => ?_⟩
      obtain ⟨event, present, status⟩ := pending unsent
      have content := same eventId
      rw [present, Option.map_some] at content
      obtain ⟨after, stored, equal⟩ := Option.map_eq_some_iff.mp content
      exact ⟨after, stored, (congrArg Prod.fst equal).trans status⟩
  | send record message relays known parsed inherits =>
      obtain ⟨eventId, latest, pending⟩ := announced taskId task found queued
      exact ⟨eventId, latest, fun unsent => pending fun old => unsent (List.mem_cons_of_mem _ old)⟩
  | settle relay record change events relays marked kept cause inherits =>
      obtain ⟨eventId, latest, pending⟩ := announced taskId task found queued
      refine ⟨eventId, latest, fun unsent => ?_⟩
      obtain ⟨event, present, status⟩ := pending unsent
      by_cases here : eventId = record.id
      · subst here
        refine ⟨change event, by simp [marked, present], ?_⟩
        rcases cause with sent | retried |
          ⟨-, relayId, draw, error, rest, asked, holds, phase, spent, printable⟩
        · exact absurd sent unsent
        · exact retried event
        · have awaited : Awaited state record.id :=
            ⟨unsent, taskId, task, mem_of_lookup latest, found, queued⟩
          obtain ⟨failed, failedFound, failedStatus⟩ :=
            spares relayId draw asked relay record error rest holds phase spent printable awaited
          obtain rfl := Option.some.inj (present.symm.trans failedFound)
          rw [status] at failedStatus
          cases failedStatus
      · exact ⟨event, by simpa [marked, here] using present, status⟩

theorem Effect.failed_before {state next : State} {action : Action}
    (effect : Effect state action.call next) (formed : WellFormed state)
    (spares : SparesAwaited state action) {eventId : String} (awaited : Awaited state eventId)
    (failed : next.Failed eventId) : state.Failed eventId := by
  obtain ⟨event, found, status⟩ := failed
  cases effect with
  | quiet workers relays before inherits => exact ⟨event, found, status⟩
  | announce tasks events pairs fresh frame before =>
      obtain ⟨-, taskId, task, listed, -⟩ := awaited
      obtain ⟨old, stored, -⟩ := formed.announced _ listed
      exact ⟨event, (frame eventId ⟨old, stored⟩).symm.trans found, status⟩
  | lock events relays same inherits =>
      have content := same eventId
      rw [found, Option.map_some] at content
      obtain ⟨before, stored, equal⟩ := Option.map_eq_some_iff.mp content.symm
      exact ⟨before, stored, (congrArg Prod.fst equal).trans status⟩
  | send record message relays known parsed inherits => exact ⟨event, found, status⟩
  | settle relay record change events relays marked kept cause inherits =>
      by_cases here : eventId = record.id
      · subst here
        rcases cause with sent | retried |
          ⟨-, relayId, draw, error, rest, asked, holds, phase, spent, printable⟩
        · exact absurd sent awaited.1
        · simp only [marked, ↓reduceIte] at found
          obtain ⟨old, -, rfl⟩ := Option.map_eq_some_iff.mp found
          rw [retried old] at status
          cases status
        · exact spares relayId draw asked relay record error rest holds phase spent
            printable awaited
      · exact ⟨event, by simpa [marked, here] using found, status⟩

/-- The failure that spends the last attempt moves the event to FAILED. -/
theorem step_gives_up {state next : State} {action : Action} {relayId : Nat} {draw : Rat}
    {relay : Relay} {record : OutboxRecord} {error : PyError} {rest : List OutboxRecord}
    (formed : WellFormed state) (asked : action.call = .record relayId draw)
    (holds : state.relays.find relayId = some relay)
    (phase : relay.phase = .raised record error rest)
    (spent : defaultOutboxRetryPolicy.maxAttempts ≤ record.attempts + 1)
    (printable : Columns.sendable error.text) (stepped : step state action = some next) :
    next.Failed record.id := by
  obtain ⟨event, found, -⟩ := formed.claimed relay (Table.find_some.mp holds).1 record
    (by simp [phase, Phase.records])
  obtain ⟨id, now, _⟩ := relay
  obtain rfl := phase
  have gives : nextAttempt defaultOutboxRetryPolicy now record error draw = none :=
    nextAttempt_none.mpr spent
  unfold step at stepped
  split at stepped
  · cases stepped
  · simp only [asked, perform, Pipeline.record, holds, gives, markFailed_sendable found printable,
      Option.some.injEq] at stepped
    subst stepped
    refine ⟨event.fail error.text none, ?_, rfl⟩
    simp only [Table.find_modify, ↓reduceIte, found, Option.map_some]

theorem run_wellFormed {start : Int} {actions : List Action} {state : State}
    (reached : run step (.init start) actions = some state) : WellFormed state :=
  run_invariant_always WellFormed (fun _ _ _ formed stepped => step_wellFormed formed stepped)
    (init_wellFormed start) reached

theorem init_announced (start : Int) : Announced (.init start) := by
  intro taskId task found
  cases found

theorem run_announced {start : Int} {actions : List Action} {state : State}
    (met : Meets step SparesAwaited (.init start) actions)
    (reached : run step (.init start) actions = some state) : Announced state := by
  have both := run_invariant (fun state => WellFormed state ∧ Announced state)
    (fun state action next holds spares stepped =>
      ⟨step_wellFormed holds.1 stepped,
        (step_effect holds.1 stepped).announced spares holds.2⟩)
    ⟨init_wellFormed start, init_announced start⟩ met reached
  exact both.2

/-- In every run: the announcements of queued tasks are kept exactly when no relay spends the
last of the three attempts on an awaited one. -/
theorem announcementsKept_iff_sparesAwaited (start : Int) (actions : List Action) (final : State)
    (accepted : run step (.init start) actions = some final) :
    AnnouncementsKept start actions ↔ Meets step SparesAwaited (.init start) actions := by
  constructor
  · intro kept
    rw [meets_iff]
    rintro before action after state rfl reached relayId draw asked relay record error rest holds
      phase spent printable awaited
    obtain ⟨middle, arrived, onward⟩ := run_append_some.mp accepted
    obtain rfl := Option.some.inj (reached.symm.trans arrived)
    obtain ⟨next, stepped, -⟩ := run_cons_some.mp onward
    have failed := step_gives_up (run_wellFormed reached) asked holds phase spent printable stepped
    exact kept.2 before action after state next rfl reached stepped record.id awaited failed
  · intro met
    constructor
    · rintro before after state rfl reached
      exact run_announced (meets_append.mp met).1 reached
    · rintro before action after state next rfl reached stepped eventId awaited failed
      have formed := run_wellFormed reached
      have spares := meets_iff.mp met before action after state rfl reached
      exact (step_effect formed stepped).failed_before
        ⟨formed.announced, formed.sent, formed.claimed, formed.published⟩ spares awaited failed

def announcedTask : TaskRecord :=
  { id := "t", type := "completion", status := .queued, payload := .obj [],
    expiresAt := 86400000000 }

def queueDown : PyError :=
  { mro := [⟨"builtins", "ConnectionError"⟩], text := "queue unavailable" }

/-- A pass that claims the event and meets a queue that is down. -/
def failedPass (relayId : Nat) (now : Int) : List Action :=
  [⟨now, .startPass relayId 100 60000000 ["e"]⟩, ⟨now, .publish relayId (some queueDown)⟩,
    ⟨now, .record relayId 0⟩]

def threeFailures : List Action :=
  ⟨0, .submit announcedTask "e"⟩ :: failedPass 1 0 ++ failedPass 2 1000000 ++ failedPass 3 2000000

theorem announcement_dropped_after_three_failures : ¬ AnnouncementsKept 0 threeFailures := by
  intro kept
  have ends : (run step (.init 0) threeFailures).map (fun state =>
      ((state.workers.tasks.find "t").map TaskRecord.status, state.announced.lookup "t", state.sent,
        (state.events.find "e").map OutboxRecord.status)) =
      some (some .queued, some "e", [], some .failed) := by decide +kernel
  obtain ⟨state, reached, facts⟩ := Option.map_eq_some_iff.mp ends
  simp only [Prod.mk.injEq] at facts
  obtain ⟨task, latest, unsent, event⟩ := facts
  obtain ⟨task, found, queued⟩ := Option.map_eq_some_iff.mp task
  obtain ⟨eventId, listed, pending⟩ := kept.1 threeFailures [] state (by simp) reached "t" task
    found queued
  obtain rfl := Option.some.inj (latest.symm.trans listed)
  obtain ⟨left, present, status⟩ := pending (by simp [unsent])
  rw [present, Option.map_some, status] at event
  cases event

/-- One failure is not the last attempt. -/
theorem announcementsKept_after_one_failure :
    AnnouncementsKept 0 (⟨0, .submit announcedTask "e"⟩ :: failedPass 1 0) := by
  obtain ⟨final, accepted⟩ := Option.isSome_iff_exists.mp (show
    (run step (.init 0) (⟨0, .submit announcedTask "e"⟩ :: failedPass 1 0)).isSome = true by
      decide +kernel)
  refine (announcementsKept_iff_sparesAwaited 0 _ final accepted).mpr ?_
  refine ⟨fun _ _ asked => (by cases asked), fun submitted stepped => ?_⟩
  cases stepped
  refine ⟨fun _ _ asked => (by cases asked), fun claimed stepped => ?_⟩
  cases stepped
  refine ⟨fun _ _ asked => (by cases asked), fun raised stepped => ?_⟩
  cases stepped
  refine ⟨?_, fun _ _ => trivial⟩
  intro relayId draw asked relay record error rest holds phase spent
  cases asked
  cases holds
  cases phase
  exact absurd spent (by decide)

end AiPlatform.Tasks.Pipeline

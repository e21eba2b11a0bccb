import AiPlatform.Outbox.Relays

set_option autoImplicit false

/- At-least-once delivery, and what the purge of published events deletes. Its `DELETE` compares
nothing but ids, so an event that it has selected and that a late relay then marks as failed is
deleted although it is to be sent again. -/
namespace AiPlatform.Outbox.Relays

open Machine

/-- The event that the pass is about to mark as failed. -/
def failing (state : State) (passId : Nat) : Option OutboxRecord :=
  (state.passes.find passId).bind fun pass =>
    match pass.phase with
    | .raised record error _ =>
        if Columns.sendable error.text then state.events.find record.id else none
    | _ => none

/-- The step marks no event as failed that an unfinished purge has selected. -/
def FailsUnselected (state : State) (action : Action) : Prop :=
  match action.call with
  | .record passId _ => ∀ event ∈ failing state passId, ∀ picked ∈ state.selected, event.id ∉ picked
  | _ => True

instance (state : State) : (action : Action) → Decidable (FailsUnselected state action)
  | ⟨_, .record passId _⟩ => inferInstanceAs (Decidable (∀ event ∈ failing state passId,
      ∀ picked ∈ state.selected, event.id ∉ picked))
  | ⟨_, .enqueue _ _ _ _ _⟩ | ⟨_, .claim _ _ _ _ _ _⟩ | ⟨_, .publish _ _⟩ | ⟨_, .crash _⟩
  | ⟨_, .selectPublishedBefore _ _ _⟩ | ⟨_, .deletePublishedBefore _⟩ | ⟨_, .rollback _⟩ =>
      .isTrue trivial

/-- What unfinished purges have selected is published, and no event to come has such an id. -/
structure Selections (state : State) : Prop where
  rows : ∀ eventId event, state.events.find eventId = some event → eventId ∈ state.enqueued
  drawn : ∀ picked ∈ state.selected, ∀ eventId ∈ picked, eventId ∈ state.enqueued
  published : ∀ picked ∈ state.selected, ∀ eventId ∈ picked, ∀ event,
    state.events.find eventId = some event → event.status = .published

theorem init_selections (start : Int) : Selections { clock := start } := by
  constructor <;> simp

section Steps

variable {state next : State}

/-- A step that selects nothing, and whose rows were there before, published if they were. -/
theorem Selections.mono (selections : Selections state)
    (enqueued : ∀ eventId ∈ state.enqueued, eventId ∈ next.enqueued)
    (fewer : ∀ picked ∈ next.selected, picked ∈ state.selected)
    (rows : ∀ eventId event, next.events.find eventId = some event →
      ∃ old, state.events.find eventId = some old ∧
        (old.status = .published → (∃ picked ∈ state.selected, eventId ∈ picked) →
          event.status = .published)) : Selections next := by
  constructor
  · intro eventId event found
    obtain ⟨old, stored, -⟩ := rows eventId event found
    exact enqueued eventId (selections.rows eventId old stored)
  · intro picked member eventId chosen
    exact enqueued eventId (selections.drawn picked (fewer picked member) eventId chosen)
  · intro picked member eventId chosen event found
    obtain ⟨old, stored, kept⟩ := rows eventId event found
    have listed := fewer picked member
    exact kept (selections.published picked listed eventId chosen old stored)
      ⟨picked, listed, chosen⟩

theorem Selections.enqueued (selections : Selections state) {event : OutboxRecord}
    {events : OutboxTable} (fresh : event.id ∉ state.enqueued)
    (inserted : state.events.insert event = some events) :
    Selections { state with events := events, enqueued := event.id :: state.enqueued } := by
  constructor
  · intro eventId row found
    dsimp only at found
    rw [Table.find_insert inserted] at found
    split at found
    · rename_i here
      exact List.mem_cons.mpr (.inl here)
    · exact List.mem_cons_of_mem _ (selections.rows eventId row found)
  · intro picked member eventId chosen
    exact List.mem_cons_of_mem _ (selections.drawn picked member eventId chosen)
  · intro picked member eventId chosen row found
    dsimp only at found
    have apart : eventId ≠ event.id := by
      rintro rfl
      exact fresh (selections.drawn picked member event.id chosen)
    rw [Table.find_insert inserted, if_neg apart] at found
    exact selections.published picked member eventId chosen row found

theorem Selections.selecting (selections : Selections state) {before limit : Int}
    {picked : List String} (old : OldSelection before limit state.events picked) :
    Selections { state with selected := picked :: state.selected } := by
  refine ⟨selections.rows, ?_, ?_⟩
  · intro other member eventId chosen
    rcases List.mem_cons.mp member with rfl | listed
    · obtain ⟨event, stored, -⟩ := OldSelection.published old chosen
      exact selections.rows eventId event stored
    · exact selections.drawn other listed eventId chosen
  · intro other member eventId chosen event found
    rcases List.mem_cons.mp member with rfl | listed
    · obtain ⟨same, stored, status⟩ := OldSelection.published old chosen
      rwa [← Option.some.inj (stored.symm.trans found)]
    · exact selections.published other listed eventId chosen event found

theorem Effect.selections {now : Int} {call : Call} (effect : Effect state call next)
    (spared : FailsUnselected state ⟨now, call⟩) (selections : Selections state) :
    Selections next := by
  have keeps : ∀ eventId event, state.events.find eventId = some event →
      ∃ old, state.events.find eventId = some old ∧
        (old.status = .published → (∃ picked ∈ state.selected, eventId ∈ picked) →
          event.status = .published) :=
    fun _ event found => ⟨event, found, fun status _ => status⟩
  cases effect with
  | idle => exact selections
  | enqueued event events fresh inserted pending untried => exact selections.enqueued fresh inserted
  | claimed pass limit lockMicros picked passes asked read lock selected batch inserted =>
      refine selections.mono (fun _ member => member) (fun _ member => member) ?_
      intro eventId event found
      dsimp only at found
      rw [find_claimPending] at found
      obtain ⟨old, stored, rfl⟩ := Option.map_eq_some_iff.mp found
      refine ⟨old, stored, fun status _ => ?_⟩
      split <;> exact status
  | returned pass record rest running phase =>
      exact selections.mono (fun _ member => member) (fun _ member => member) keeps
  | raised pass record error rest running phase =>
      exact selections.mono (fun _ member => member) (fun _ member => member) keeps
  | published pass record rest events draw asked running phase marked =>
      refine selections.mono (fun _ member => member) (fun _ member => member) ?_
      intro eventId event found
      dsimp only at found
      rw [markPublished_some marked] at found
      split at found
      · obtain ⟨old, stored, rfl⟩ := Option.map_eq_some_iff.mp found
        exact ⟨old, stored, fun _ _ => rfl⟩
      · exact keeps eventId event found
  | failed pass record error rest events draw asked running phase marked =>
      refine selections.mono (fun _ member => member) (fun _ member => member) ?_
      intro eventId event found
      dsimp only at found
      rw [markFailed_some marked] at found
      split at found
      · rename_i here
        obtain ⟨old, stored, rfl⟩ := Option.map_eq_some_iff.mp found
        refine ⟨old, stored, fun _ ⟨picked, member, chosen⟩ => absurd chosen ?_⟩
        subst asked
        rw [here] at stored ⊢
        have writes : failing state pass.id = some old := by
          simp only [failing, running, Option.bind_some, phase, markFailed_sent marked, if_true,
            stored]
        have apart := spared old writes picked member
        rwa [(Table.find_some.mp stored).2] at apart
      · exact keeps eventId event found
  | stopped passId => exact selections.mono (fun _ member => member) (fun _ member => member) keeps
  | selected before limit picked old => exact selections.selecting old
  | deleted picked listed =>
      exact selections.mono (fun _ member => member) (fun _ => List.mem_of_mem_erase)
        fun eventId event found => keeps eventId event (deleted_find found)
  | rolledBack picked =>
      exact selections.mono (fun _ member => member) (fun _ => List.mem_of_mem_erase) keeps

theorem Selections.advance (selections : Selections state) (now : Int) :
    Selections { state with clock := now } :=
  ⟨selections.rows, selections.drawn, selections.published⟩

theorem step_selections {action : Action} (selections : Selections state)
    (spared : FailsUnselected state action) (stepped : step state action = some next) :
    Selections next :=
  (step_effect stepped).2.selections spared (selections.advance action.now)

/-- Only published events are deleted. -/
theorem Selections.deletes (selections : Selections state) {now : Int} {picked : List String}
    (stepped : step state ⟨now, .deletePublishedBefore picked⟩ = some next) {event : OutboxRecord}
    (stored : state.events.find event.id = some event) (kept : event.status ≠ .published) :
    next.events.find event.id = some event := by
  unfold step at stepped
  split at stepped
  · cases stepped
  · simp only [perform] at stepped
    split at stepped
    · rename_i listed
      cases stepped
      exact find_deleted stored fun chosen =>
        kept (selections.published picked listed event.id chosen event stored)
    · cases stepped

end Steps

/-- `delete_published_before` removes no event whose status is not PUBLISHED. -/
def DeletesPublished (state : State) : Prop :=
  ∀ now picked next, step state ⟨now, .deletePublishedBefore picked⟩ = some next →
    ∀ event, state.events.find event.id = some event → event.status ≠ .published →
      next.events.find event.id = some event

/-- In every state of every run with the default policy: an event is PUBLISHED only after its sink
call returned, and one that was never marked PUBLISHED and has failures left is PENDING and is
claimed once its times are past. In a run that marks no event as failed that an unfinished purge has
selected, no event but a PUBLISHED one is deleted. -/
theorem at_least_once (start : Int) (actions : List Action) (state : State)
    (policy : Meets step DefaultPolicy { clock := start } actions)
    (reached : run step { clock := start } actions = some state) :
    (∀ eventId event, state.events.find eventId = some event → event.status = .published →
      eventId ∈ state.sent) ∧
    (∀ eventId ∈ state.enqueued, eventId ∉ state.published →
      (state.failures.count eventId : Int) < defaultOutboxRetryPolicy.maxAttempts →
      ∃ event, state.events.find eventId = some event ∧ event.status = .pending ∧
        ∀ now limit lockMicros family picked, event.availableAt < now →
          (∀ lock, event.lockedUntil = some lock → lock < now) →
          (∀ text, family = some text → startswith event.eventType text = true) →
          ((state.events.rows.filter (·.due now family)).length : Int) ≤ limit →
          DueSelection now limit family state.events picked →
          eventId ∈ (claimPending now lockMicros picked state.events).1.map OutboxRecord.id) ∧
    (Meets step FailsUnselected { clock := start } actions → DeletesPublished state) := by
  have accounted := run_accounted policy reached
  refine ⟨?_, ?_, ?_⟩
  · intro eventId event stored status
    have marked := (accounted.rows eventId event stored).marked status
    rw [(Table.find_some.mp stored).2] at marked
    exact accounted.delivered eventId marked
  · intro eventId drawn unpublished left
    obtain ⟨event, stored, pending⟩ := accounted.pending drawn unpublished left
    obtain ⟨-, rfl⟩ := Table.find_some.mp stored
    refine ⟨event, stored, pending, ?_⟩
    intro now limit lockMicros family picked available unlocked matching room selected
    have due := due_of_later pending available unlocked matching
    exact claimed_of_due selected stored due room
  · intro unselected now picked next stepped event stored kept
    have selections := run_invariant Selections
      (fun _ _ _ selections spared stepped => step_selections selections spared stepped)
      (init_selections start) unselected reached
    exact selections.deletes stepped stored kept

def queueDown : PyError :=
  { mro := [⟨"builtins", "ConnectionError"⟩], text := "queue unavailable" }

def enqueueOne : Action := ⟨0, .enqueue "e" "task.completion" .null (.obj []) none⟩

/-- One event, and one pass whose sink is down. -/
def oneFailure : List Action :=
  [enqueueOne, ⟨0, .claim 1 {} 0 100 60 ["e"]⟩, ⟨1, .publish 1 (some queueDown)⟩, ⟨2, .record 1 0⟩]

theorem oneFailure_accepted : (run step { clock := 0 } oneFailure).isSome = true := by
  decide +kernel

def oneFailureEnd : State := (run step { clock := 0 } oneFailure).get oneFailure_accepted

theorem at_least_once_oneFailure :
    (∃ event, oneFailureEnd.events.find "e" = some event ∧ event.status = .pending) ∧
      DeletesPublished oneFailureEnd := by
  have policy : Meets step DefaultPolicy { clock := 0 } oneFailure := by
    apply meets_of_forall
    intro action member passId publisher reading limit lockSeconds picked asked
    simp only [oneFailure, enqueueOne, List.mem_cons, List.not_mem_nil, or_false] at member
    rcases member with rfl | rfl | rfl | rfl <;> cases asked
    rfl
  have ⟨_, due, deletes⟩ := at_least_once 0 oneFailure oneFailureEnd policy
    (Option.some_get oneFailure_accepted).symm
  obtain ⟨event, stored, pending, -⟩ := due "e" (by decide +kernel) (by decide +kernel)
    (by decide +kernel)
  exact ⟨⟨event, stored, pending⟩, deletes (by decide +kernel)⟩

/-- The first relay takes longer than its lock of 60 seconds. The second one publishes the event. -/
def overtaken : List Action :=
  [enqueueOne, ⟨0, .claim 1 {} 0 100 60 ["e"]⟩, ⟨61000000, .claim 2 {} 61000000 100 60 ["e"]⟩,
    ⟨61000000, .publish 2 none⟩, ⟨61000000, .record 2 0⟩]

/-- A purge selects the published event, and then the sink of the first relay fails. -/
def failedInPurge : List Action :=
  overtaken ++ [⟨130000000, .selectPublishedBefore 70000000 100 ["e"]⟩,
    ⟨130000000, .publish 1 (some queueDown)⟩, ⟨130000000, .record 1 0⟩]

theorem pending_event_deleted :
    ¬∀ (start : Int) (actions : List Action) (state : State),
      Meets step DefaultPolicy { clock := start } actions →
      run step { clock := start } actions = some state → DeletesPublished state := by
  intro deletes
  have policy : Meets step DefaultPolicy { clock := 0 } failedInPurge := by
    apply meets_of_forall
    intro action member passId publisher reading limit lockSeconds picked asked
    simp only [failedInPurge, overtaken, enqueueOne, List.cons_append, List.nil_append,
      List.mem_cons, List.not_mem_nil, or_false] at member
    rcases member with rfl | rfl | rfl | rfl | rfl | rfl | rfl | rfl <;> cases asked <;> rfl
  have ends : (run step { clock := 0 } failedInPurge).bind (fun state =>
      (step state ⟨130000000, .deletePublishedBefore ["e"]⟩).map fun next =>
        ((state.events.find "e").map OutboxRecord.status,
          (next.events.find "e").map OutboxRecord.status)) =
      some (some .pending, none) := by decide +kernel
  obtain ⟨state, reached, rest⟩ := Option.bind_eq_some_iff.mp ends
  obtain ⟨next, stepped, facts⟩ := Option.map_eq_some_iff.mp rest
  simp only [Prod.mk.injEq, Option.map_eq_none_iff] at facts
  obtain ⟨event, stored, pending⟩ := Option.map_eq_some_iff.mp facts.1
  obtain ⟨-, same⟩ := Table.find_some.mp stored
  rw [← same] at stored facts
  have kept :=
    deletes 0 failedInPurge state policy reached 130000000 ["e"] next stepped event stored
    (by rw [pending]; decide)
  rw [facts.2] at kept
  cases kept

end AiPlatform.Outbox.Relays

import AiPlatform.Outbox.Publisher

set_option autoImplicit false

/- What a call of a relay can do, and from it at-least-once delivery. -/
namespace AiPlatform.Outbox.Relays

open Machine Resilience

/-- All that a call can do. -/
inductive Effect (state : State) (call : Call) : State → Prop
  | idle : Effect state call state
  | enqueued (event : OutboxRecord) (events : OutboxTable) (fresh : event.id ∉ state.enqueued)
      (inserted : state.events.insert event = some events) (pending : event.status = .pending)
      (untried : event.attempts = 0) :
      Effect state call { state with events := events, enqueued := event.id :: state.enqueued }
  | claimed (pass : Pass) (limit lockMicros : Int) (picked : List String) (passes : Table Pass.id)
      (asked : ∃ passId limit lockSeconds picked,
        call = .claim passId pass.publisher pass.now limit lockSeconds picked)
      (read : pass.now ≤ state.clock) (lock : pass.lockedUntil = pass.now + lockMicros)
      (selected : DueSelection pass.now limit pass.publisher.eventTypePrefix state.events picked)
      (batch : pass.phase =
        .publishing (claimPending pass.now lockMicros picked state.events).1)
      (inserted : state.passes.insert pass = some passes) :
      Effect state call { state with
        events := (claimPending pass.now lockMicros picked state.events).2
        passes := passes }
  | returned (pass : Pass) (record : OutboxRecord) (rest : List OutboxRecord)
      (running : state.passes.find pass.id = some pass)
      (phase : pass.phase = .publishing (record :: rest)) :
      Effect state call { state with
        passes := Pass.enter state.passes pass.id (.sent record rest)
        sent := record.id :: state.sent }
  | raised (pass : Pass) (record : OutboxRecord) (error : PyError) (rest : List OutboxRecord)
      (running : state.passes.find pass.id = some pass)
      (phase : pass.phase = .publishing (record :: rest)) :
      Effect state call { state with
        passes := Pass.enter state.passes pass.id (.raised record error rest) }
  | published (pass : Pass) (record : OutboxRecord) (rest : List OutboxRecord)
      (events : OutboxTable) (draw : Rat) (asked : call = .record pass.id draw)
      (running : state.passes.find pass.id = some pass) (phase : pass.phase = .sent record rest)
      (marked : markPublished record.id pass.now state.events = some events) :
      Effect state call { state with
        events := events
        passes := Pass.enter state.passes pass.id (.publishing rest)
        published := record.id :: state.published }
  | failed (pass : Pass) (record : OutboxRecord) (error : PyError) (rest : List OutboxRecord)
      (events : OutboxTable) (draw : Rat) (asked : call = .record pass.id draw)
      (running : state.passes.find pass.id = some pass)
      (phase : pass.phase = .raised record error rest)
      (marked : markFailed record.id error.text
        (nextAttempt pass.publisher.retryPolicy pass.now record error draw) state.events =
          some events) :
      Effect state call { state with
        events := events
        passes := Pass.enter state.passes pass.id (.publishing rest)
        failures := record.id :: state.failures }
  | stopped (passId : Nat) :
      Effect state call { state with passes := state.passes.remove passId }
  | selected (before limit : Int) (picked : List String)
      (old : OldSelection before limit state.events picked) :
      Effect state call { state with selected := picked :: state.selected }
  | deleted (picked : List String) (listed : picked ∈ state.selected) :
      Effect state call { state with
        events := deletePublishedBefore picked state.events
        selected := state.selected.erase picked }
  | rolledBack (picked : List String) :
      Effect state call { state with selected := state.selected.erase picked }

theorem enqueue_effect {state next : State} {call : Call} {id eventType : String}
    {payload metadata : Json} {availableAt : Option Int}
    (reached : enqueue state id eventType payload metadata availableAt = some next) :
    Effect state call next := by
  unfold enqueue at reached
  split at reached
  · cases reached
  · rename_i fresh
    obtain ⟨events, inserted, rfl⟩ := Option.map_eq_some_iff.mp reached
    exact .enqueued _ events fresh inserted rfl rfl

theorem claim_effect {state next : State} {passId : Nat} {publisher : OutboxPublisher}
    {reading limit : Int} {lockSeconds : Rat} {picked : List String}
    (reached : claim state passId publisher reading limit lockSeconds picked = some next) :
    Effect state (.claim passId publisher reading limit lockSeconds picked) next := by
  unfold claim at reached
  split at reached
  · cases reached
  · rename_i read
    split at reached
    · cases reached
      exact .idle
    · split at reached
      · rename_i selected
        obtain ⟨passes, inserted, rfl⟩ := Option.map_eq_some_iff.mp reached
        exact .claimed ⟨passId, publisher, reading, reading + timedeltaOfRat lockSeconds,
          .publishing (claimPending reading (timedeltaOfRat lockSeconds) picked state.events).1⟩
          limit (timedeltaOfRat lockSeconds) picked passes ⟨_, _, _, _, rfl⟩ (Int.not_lt.mp read)
          rfl selected rfl inserted
      · cases reached

theorem publish_effect {state next : State} {call : Call} {passId : Nat}
    {failure : Option PyError} (reached : publish state passId failure = some next) :
    Effect state call next := by
  unfold publish at reached
  split at reached
  · rename_i record rest phased
    obtain ⟨pass, running, phase⟩ := Option.map_eq_some_iff.mp phased
    obtain ⟨-, rfl⟩ := Table.find_some.mp running
    split at reached
    · cases reached
      exact .returned pass record rest running phase
    · cases reached
      exact .raised pass record _ rest running phase
  · cases reached

theorem record_effect {state next : State} {passId : Nat} {draw : Rat}
    (reached : record state passId draw = some next) :
    Effect state (.record passId draw) next := by
  unfold record at reached
  split at reached
  · rename_i id publisher now lockedUntil record rest running
    obtain ⟨-, rfl⟩ := Table.find_some.mp running
    split at reached
    · cases reached
      exact .stopped _
    · rename_i events marked
      cases reached
      exact .published ⟨id, publisher, now, lockedUntil, .sent record rest⟩ record rest events draw
        rfl running rfl marked
  · rename_i id publisher now lockedUntil record error rest running
    obtain ⟨-, rfl⟩ := Table.find_some.mp running
    split at reached
    · cases reached
      exact .stopped _
    · rename_i events marked
      cases reached
      exact .failed ⟨id, publisher, now, lockedUntil, .raised record error rest⟩ record error rest
        events draw rfl running rfl marked
  · cases reached

theorem perform_effect {state next : State} {call : Call}
    (reached : perform state call = some next) : Effect state call next := by
  cases call with
  | enqueue id eventType payload metadata availableAt => exact enqueue_effect reached
  | claim passId publisher reading limit lockSeconds picked => exact claim_effect reached
  | publish passId failure => exact publish_effect reached
  | record passId draw => exact record_effect reached
  | crash passId =>
      cases reached
      exact .stopped passId
  | selectPublishedBefore before limit picked =>
      simp only [perform, selectPublishedBefore] at reached
      split at reached
      · cases reached
        exact .idle
      · split at reached
        · rename_i old
          cases reached
          exact .selected before limit picked old
        · cases reached
  | deletePublishedBefore picked =>
      simp only [perform] at reached
      split at reached
      · rename_i listed
        cases reached
        exact .deleted picked listed
      · cases reached
  | rollback picked =>
      simp only [perform] at reached
      split at reached
      · cases reached
        exact .rolledBack picked
      · cases reached

theorem step_effect {state next : State} {action : Action}
    (stepped : step state action = some next) :
    state.clock ≤ action.now ∧ Effect { state with clock := action.now } action.call next := by
  unfold step at stepped
  split at stepped
  · cases stepped
  · rename_i later
    exact ⟨Int.not_lt.mp later, perform_effect stepped⟩

theorem mem_enter {passes : Table Pass.id} {passId : Nat} {phase : Phase} {pass : Pass}
    (member : pass ∈ (Pass.enter passes passId phase).rows) :
    pass ∈ passes.rows ∧ pass.id ≠ passId ∨
      ∃ old, passes.find passId = some old ∧ pass = { old with phase := phase } :=
  Table.mem_modify.mp member

/-- What a row tells of its event. -/
structure RowFacts (state : State) (event : OutboxRecord) : Prop where
  drawn : event.id ∈ state.enqueued
  counted : event.attempts = state.failures.count event.id
  marked : event.status = .published → event.id ∈ state.published
  spent : event.status = .failed → defaultOutboxRetryPolicy.maxAttempts ≤ event.attempts

/-- What a pass knows of its records. Their attempts were read at the claim and may be behind. -/
structure PassFacts (state : State) (pass : Pass) : Prop where
  policy : pass.publisher.retryPolicy = defaultOutboxRetryPolicy
  behind : ∀ record ∈ pass.phase.records, record.attempts ≤ state.failures.count record.id
  returned : ∀ record rest, pass.phase = .sent record rest → record.id ∈ state.sent

structure Accounted (state : State) : Prop where
  rows : ∀ eventId event, state.events.find eventId = some event → RowFacts state event
  passes : ∀ pass ∈ state.passes.rows, PassFacts state pass
  failures : ∀ eventId ∈ state.failures, eventId ∈ state.enqueued
  delivered : ∀ eventId ∈ state.published, eventId ∈ state.sent
  present : ∀ eventId ∈ state.enqueued, eventId ∉ state.published →
    ∃ event, state.events.find eventId = some event

/-- Every pass is run by a publisher with the default policy. -/
def DefaultPolicy (_ : State) (action : Action) : Prop :=
  ∀ passId publisher reading limit lockSeconds picked,
    action.call = .claim passId publisher reading limit lockSeconds picked →
      publisher.retryPolicy = defaultOutboxRetryPolicy

theorem init_accounted (start : Int) : Accounted { clock := start } := by
  constructor <;> simp

section Steps

variable {state : State}

theorem RowFacts.grow {event : OutboxRecord} (facts : RowFacts state event) {next : State}
    (enqueued : ∀ eventId ∈ state.enqueued, eventId ∈ next.enqueued)
    (failures : next.failures.count event.id = state.failures.count event.id)
    (published : ∀ eventId ∈ state.published, eventId ∈ next.published) : RowFacts next event where
  drawn := enqueued event.id facts.drawn
  counted := by
    rw [failures]
    exact facts.counted
  marked status := published event.id (facts.marked status)
  spent := facts.spent

/-- A pass that moves on in its batch. -/
theorem PassFacts.advance {pass : Pass} (facts : PassFacts state pass)
    {next : State} {phase : Phase}
    (fewer : ∀ record ∈ phase.records, record ∈ pass.phase.records)
    (failures : ∀ eventId, state.failures.count eventId ≤ next.failures.count eventId)
    (sent : ∀ record rest, phase = .sent record rest → record.id ∈ next.sent) :
    PassFacts next { pass with phase := phase } where
  policy := facts.policy
  behind record member := by
    have before := facts.behind record (fewer record member)
    have grown := failures record.id
    omega
  returned := sent

theorem PassFacts.grow {pass : Pass} (facts : PassFacts state pass) {next : State}
    (failures : ∀ eventId, state.failures.count eventId ≤ next.failures.count eventId)
    (sent : ∀ eventId ∈ state.sent, eventId ∈ next.sent) : PassFacts next pass where
  policy := facts.policy
  behind record member := by
    have before := facts.behind record member
    have grown := failures record.id
    omega
  returned record rest phase := sent record.id (facts.returned record rest phase)

theorem enter_facts (accounted : Accounted state) {pass : Pass}
    (running : state.passes.find pass.id = some pass) {next : State} {phase : Phase}
    (fewer : ∀ record ∈ phase.records, record ∈ pass.phase.records)
    (failures : ∀ eventId, state.failures.count eventId ≤ next.failures.count eventId)
    (grown : ∀ eventId ∈ state.sent, eventId ∈ next.sent)
    (sent : ∀ record rest, phase = .sent record rest → record.id ∈ next.sent) :
    ∀ other ∈ (Pass.enter state.passes pass.id phase).rows, PassFacts next other := by
  intro other member
  rcases mem_enter member with ⟨old, -⟩ | ⟨old, found, rfl⟩
  · exact (accounted.passes other old).grow failures grown
  · obtain rfl := Option.some.inj (running.symm.trans found)
    exact (accounted.passes pass (Table.find_some.mp running).1).advance fewer failures sent

theorem claimPending_facts {now lockMicros : Int} {picked : List String}
    (accounted : Accounted state) {eventId : String} {event : OutboxRecord}
    (found : (claimPending now lockMicros picked state.events).2.find eventId = some event) :
    RowFacts state event := by
  rw [find_claimPending] at found
  obtain ⟨old, stored, rfl⟩ := Option.map_eq_some_iff.mp found
  have facts := accounted.rows eventId old stored
  split
  · exact ⟨facts.drawn, facts.counted, facts.marked, facts.spent⟩
  · exact facts

theorem enqueued_accounted (accounted : Accounted state) {event : OutboxRecord}
    {events : OutboxTable} (fresh : event.id ∉ state.enqueued)
    (inserted : state.events.insert event = some events) (pending : event.status = .pending)
    (untried : event.attempts = 0) :
    Accounted { state with events := events, enqueued := event.id :: state.enqueued } := by
  have unfailed : state.failures.count event.id = 0 :=
    List.count_eq_zero_of_not_mem fun member => fresh (accounted.failures event.id member)
  refine ⟨?_, ?_, fun eventId member => List.mem_cons_of_mem _ (accounted.failures eventId member),
    accounted.delivered, ?_⟩
  · intro eventId row found
    dsimp only at found
    rw [Table.find_insert inserted] at found
    split at found
    · obtain rfl := Option.some.inj found
      refine ⟨List.mem_cons_self, ?_, ?_, ?_⟩
      · simp only [untried, unfailed, Int.natCast_zero]
      · intro marked
        rw [pending] at marked
        cases marked
      · intro marked
        rw [pending] at marked
        cases marked
    · apply (accounted.rows eventId row found).grow
      · exact fun _ member => List.mem_cons_of_mem _ member
      · rfl
      · exact fun _ member => member
  · intro pass member
    exact (accounted.passes pass member).grow (fun _ => le_refl _) (fun _ member => member)
  · intro eventId drawn unpublished
    dsimp only
    rw [Table.find_insert inserted]
    split
    · exact ⟨event, rfl⟩
    · rename_i apart
      have old : eventId ∈ state.enqueued := (List.mem_cons.mp drawn).resolve_left apart
      exact accounted.present eventId old unpublished

theorem claimed_accounted (accounted : Accounted state) {pass : Pass} {lockMicros : Int}
    {picked : List String} {passes : Table Pass.id}
    (policy : pass.publisher.retryPolicy = defaultOutboxRetryPolicy)
    (batch : pass.phase = .publishing (claimPending pass.now lockMicros picked state.events).1)
    (inserted : state.passes.insert pass = some passes) :
    Accounted { state with
      events := (claimPending pass.now lockMicros picked state.events).2
      passes := passes } := by
  refine ⟨?_, ?_, accounted.failures, accounted.delivered, ?_⟩
  · intro eventId event found
    exact (claimPending_facts accounted found).grow (fun _ member => member) rfl
      (fun _ member => member)
  · intro other member
    dsimp only at member
    rw [(Table.insert_some.mp inserted).2] at member
    rcases List.mem_append.mp member with old | new
    · exact (accounted.passes other old).grow (fun _ => le_refl _) (fun _ member => member)
    · obtain rfl := List.mem_singleton.mp new
      refine ⟨policy, ?_, ?_⟩
      · intro record claimed
        rw [batch] at claimed
        have facts := claimPending_facts accounted (mem_claimPending claimed)
        exact le_of_eq facts.counted
      · intro record rest sent
        rw [batch] at sent
        cases sent
  · intro eventId drawn unpublished
    obtain ⟨event, found⟩ := accounted.present eventId drawn unpublished
    dsimp only
    rw [find_claimPending, found]
    exact ⟨_, rfl⟩

theorem published_accounted (accounted : Accounted state) {pass : Pass} {record : OutboxRecord}
    {rest : List OutboxRecord} {events : OutboxTable}
    (running : state.passes.find pass.id = some pass) (phase : pass.phase = .sent record rest)
    (marked : markPublished record.id pass.now state.events = some events) :
    Accounted { state with
      events := events
      passes := Pass.enter state.passes pass.id (.publishing rest)
      published := record.id :: state.published } := by
  have held := accounted.passes pass (Table.find_some.mp running).1
  refine ⟨?_, ?_, accounted.failures, ?_, ?_⟩
  · intro eventId event found
    dsimp only at found
    rw [markPublished_some marked] at found
    split at found
    · rename_i here
      obtain ⟨old, stored, rfl⟩ := Option.map_eq_some_iff.mp found
      have facts := accounted.rows eventId old stored
      have same : old.id = record.id := (Table.find_some.mp stored).2.trans here
      exact ⟨facts.drawn, facts.counted, fun _ => List.mem_cons.mpr (.inl same),
        fun failed => (by cases failed)⟩
    · apply (accounted.rows eventId event found).grow
      · exact fun _ member => member
      · rfl
      · exact fun _ member => List.mem_cons_of_mem _ member
  · apply enter_facts accounted running
    · intro other member
      rw [phase]
      exact List.mem_cons_of_mem _ member
    · exact fun _ => le_refl _
    · exact fun _ member => member
    · exact fun _ _ shape => (by cases shape)
  · intro eventId member
    rcases List.mem_cons.mp member with rfl | old
    · exact held.returned record rest phase
    · exact accounted.delivered eventId old
  · intro eventId drawn unpublished
    obtain ⟨apart, never⟩ := not_or.mp (fun either => unpublished (List.mem_cons.mpr either))
    dsimp only
    rw [markPublished_some marked, if_neg apart]
    exact accounted.present eventId drawn never

theorem failed_accounted (accounted : Accounted state) {pass : Pass} {record : OutboxRecord}
    {error : PyError} {rest : List OutboxRecord} {events : OutboxTable} {draw : Rat}
    (running : state.passes.find pass.id = some pass)
    (phase : pass.phase = .raised record error rest)
    (marked : markFailed record.id error.text
      (nextAttempt pass.publisher.retryPolicy pass.now record error draw) state.events =
        some events) :
    Accounted { state with
      events := events
      passes := Pass.enter state.passes pass.id (.publishing rest)
      failures := record.id :: state.failures } := by
  have held := accounted.passes pass (Table.find_some.mp running).1
  have known : record.id ∈ state.enqueued := by
    obtain ⟨event, stored⟩ := markFailed_known marked
    have drawn := (accounted.rows record.id event stored).drawn
    rwa [(Table.find_some.mp stored).2] at drawn
  refine ⟨?_, ?_, ?_, accounted.delivered, ?_⟩
  · intro eventId event found
    dsimp only at found
    rw [markFailed_some marked] at found
    split at found
    · rename_i here
      subst here
      obtain ⟨old, stored, rfl⟩ := Option.map_eq_some_iff.mp found
      have facts := accounted.rows record.id old stored
      have same : old.id = record.id := (Table.find_some.mp stored).2
      have counted : old.attempts + 1 = ((record.id :: state.failures).count record.id : Nat) := by
        rw [List.count_cons_self, ← same, Int.natCast_succ, facts.counted]
      refine ⟨facts.drawn, ?_, ?_, ?_⟩
      · simpa only [OutboxRecord.fail, same] using counted
      · intro status
        simp only [OutboxRecord.fail] at status
        split at status <;> cases status
      · -- A pass that gives up had read an attempt count no larger than the row's.
        intro status
        have behind := held.behind record (by rw [phase]; exact List.mem_cons_self)
        have gaveUp : nextAttempt pass.publisher.retryPolicy pass.now record error draw = none := by
          simp only [OutboxRecord.fail] at status
          split at status
          · cases status
          · rename_i none
            exact Option.not_isSome_iff_eq_none.mp none
        rw [held.policy] at gaveUp
        have last := nextAttempt_none.mp gaveUp
        have current := facts.counted
        rw [same] at current
        show _ ≤ old.attempts + 1
        omega
    · rename_i apart
      have other : event.id ≠ record.id := by
        rw [(Table.find_some.mp found).2]
        exact apart
      apply (accounted.rows eventId event found).grow
      · exact fun _ member => member
      · exact List.count_cons_of_ne other.symm
      · exact fun _ member => member
  · apply enter_facts accounted running
    · intro other member
      rw [phase]
      exact List.mem_cons_of_mem _ member
    · exact fun _ => List.count_le_count_cons
    · exact fun _ member => member
    · exact fun _ _ shape => (by cases shape)
  · intro eventId member
    rcases List.mem_cons.mp member with rfl | old
    · exact known
    · exact accounted.failures eventId old
  · intro eventId drawn unpublished
    obtain ⟨event, stored⟩ := accounted.present eventId drawn unpublished
    dsimp only
    rw [markFailed_some marked, stored]
    split
    · exact ⟨_, rfl⟩
    · exact ⟨event, rfl⟩

theorem find_deleted {events : OutboxTable} {picked : List String} {event : OutboxRecord}
    (stored : events.find event.id = some event) (kept : event.id ∉ picked) :
    (deletePublishedBefore picked events).find event.id = some event := by
  rw [deletePublishedBefore, Table.find_erase, stored]
  simp [Option.filter, kept]

theorem deleted_find {events : OutboxTable} {picked : List String} {eventId : String}
    {event : OutboxRecord}
    (found : (deletePublishedBefore picked events).find eventId = some event) :
    events.find eventId = some event := by
  rw [deletePublishedBefore, Table.find_erase] at found
  exact (Option.filter_eq_some_iff.mp found).1

/-- What a purge selects is published at that moment. -/
theorem OldSelection.published {events : OutboxTable} {before limit : Int} {picked : List String}
    (old : OldSelection before limit events picked) {eventId : String} (chosen : eventId ∈ picked) :
    ∃ event, events.find eventId = some event ∧ event.status = .published := by
  obtain ⟨event, listed, rfl⟩ := List.mem_map.mp (old.2.2 eventId chosen)
  obtain ⟨member, due⟩ := List.mem_filter.mp listed
  simp only [Bool.and_eq_true, decide_eq_true_eq] at due
  exact ⟨event, Table.find_mem member, due.1⟩

/-- What unfinished purges have selected was marked PUBLISHED. -/
def Marked (state : State) : Prop :=
  ∀ picked ∈ state.selected, ∀ eventId ∈ picked, eventId ∈ state.published

theorem Effect.marked {call : Call} {next : State} (effect : Effect state call next)
    (accounted : Accounted state) (marked : Marked state) : Marked next := by
  cases effect with
  | idle => exact marked
  | enqueued event events fresh inserted pending untried => exact marked
  | claimed pass limit lockMicros picked passes asked read lock selected batch inserted =>
      exact marked
  | returned pass record rest running phase => exact marked
  | raised pass record error rest running phase => exact marked
  | published pass record rest events draw asked running phase written =>
      exact fun picked member eventId chosen =>
        List.mem_cons_of_mem _ (marked picked member eventId chosen)
  | failed pass record error rest events draw asked running phase written => exact marked
  | stopped passId => exact marked
  | selected before limit picked old =>
      intro other member eventId chosen
      rcases List.mem_cons.mp member with rfl | listed
      · obtain ⟨event, stored, status⟩ := OldSelection.published old chosen
        have published := (accounted.rows eventId event stored).marked status
        rwa [(Table.find_some.mp stored).2] at published
      · exact marked other listed eventId chosen
  | deleted picked listed =>
      exact fun other member => marked other (List.mem_of_mem_erase member)
  | rolledBack picked => exact fun other member => marked other (List.mem_of_mem_erase member)

theorem deleted_accounted (accounted : Accounted state) {picked : List String}
    (past : ∀ eventId ∈ picked, eventId ∈ state.published) (selected : List (List String)) :
    Accounted { state with
      events := deletePublishedBefore picked state.events
      selected := selected } := by
  refine ⟨?_, ?_, accounted.failures, accounted.delivered, ?_⟩
  · intro eventId event found
    exact (accounted.rows eventId event (deleted_find found)).grow (fun _ member => member) rfl
      (fun _ member => member)
  · intro pass member
    exact (accounted.passes pass member).grow (fun _ => le_refl _) (fun _ member => member)
  · intro eventId drawn unpublished
    obtain ⟨event, stored⟩ := accounted.present eventId drawn unpublished
    obtain ⟨-, rfl⟩ := Table.find_some.mp stored
    exact ⟨event, find_deleted stored fun chosen => unpublished (past event.id chosen)⟩

theorem select_accounted (accounted : Accounted state) (selected : List (List String)) :
    Accounted { state with selected := selected } := by
  refine ⟨fun eventId event found => ?_, fun pass member => ?_, accounted.failures,
    accounted.delivered, accounted.present⟩
  · exact (accounted.rows eventId event found).grow (fun _ member => member) rfl
      (fun _ member => member)
  · exact (accounted.passes pass member).grow (fun _ => le_refl _) (fun _ member => member)

theorem Effect.accounted {call : Call} {next : State} (effect : Effect state call next)
    (policy : ∀ passId publisher reading limit lockSeconds picked,
      call = .claim passId publisher reading limit lockSeconds picked →
        publisher.retryPolicy = defaultOutboxRetryPolicy)
    (accounted : Accounted state) (past : Marked state) : Accounted next := by
  cases effect with
  | idle => exact accounted
  | enqueued event events fresh inserted pending untried =>
      exact enqueued_accounted accounted fresh inserted pending untried
  | claimed pass limit lockMicros picked passes asked read lock selected batch inserted =>
      obtain ⟨passId, limit, lockSeconds, chosen, asked⟩ := asked
      have default := policy passId pass.publisher pass.now limit lockSeconds chosen asked
      exact claimed_accounted accounted default batch inserted
  | returned pass record rest running phase =>
      refine ⟨fun eventId event found => ?_, ?_, accounted.failures,
        fun eventId member => List.mem_cons_of_mem _ (accounted.delivered eventId member),
        accounted.present⟩
      · exact (accounted.rows eventId event found).grow (fun _ member => member) rfl
          (fun _ member => member)
      · apply enter_facts accounted running
        · intro other member
          rw [phase]
          exact member
        · exact fun _ => le_refl _
        · exact fun _ member => List.mem_cons_of_mem _ member
        · intro other later shape
          cases shape
          exact List.mem_cons_self
  | raised pass record error rest running phase =>
      refine ⟨fun eventId event found => ?_, ?_, accounted.failures, accounted.delivered,
        accounted.present⟩
      · exact (accounted.rows eventId event found).grow (fun _ member => member) rfl
          (fun _ member => member)
      · apply enter_facts accounted running
        · intro other member
          rw [phase]
          exact member
        · exact fun _ => le_refl _
        · exact fun _ member => member
        · exact fun _ _ shape => (by cases shape)
  | published pass record rest events draw asked running phase marked =>
      exact published_accounted accounted running phase marked
  | failed pass record error rest events draw asked running phase marked =>
      exact failed_accounted accounted running phase marked
  | stopped passId =>
      refine ⟨fun eventId event found => ?_, ?_, accounted.failures, accounted.delivered,
        accounted.present⟩
      · exact (accounted.rows eventId event found).grow (fun _ member => member) rfl
          (fun _ member => member)
      · intro pass member
        have kept := (Table.mem_remove.mp member).1
        exact (accounted.passes pass kept).grow (fun _ => le_refl _) (fun _ member => member)
  | selected before limit picked old => exact select_accounted accounted _
  | deleted picked listed => exact deleted_accounted accounted (past picked listed) _
  | rolledBack picked => exact select_accounted accounted _

theorem run_accounted {start : Int} {actions : List Action}
    (policy : Meets step DefaultPolicy { clock := start } actions)
    (reached : run step { clock := start } actions = some state) : Accounted state := by
  refine (run_invariant (fun state => Accounted state ∧ Marked state)
    (fun state action next holds default stepped => ?_)
    ⟨init_accounted start, fun _ member => absurd member List.not_mem_nil⟩ policy reached).1
  obtain ⟨accounted, marked⟩ := holds
  have moved : Accounted { state with clock := action.now } := by
    refine ⟨fun eventId event found => ?_, fun pass member => ?_, accounted.failures,
      accounted.delivered, accounted.present⟩
    · exact (accounted.rows eventId event found).grow (fun _ member => member) rfl
        (fun _ member => member)
    · exact (accounted.passes pass member).grow (fun _ => le_refl _) (fun _ member => member)
  have effect := (step_effect stepped).2
  exact ⟨effect.accounted default moved marked, effect.marked moved marked⟩

theorem Accounted.pending (accounted : Accounted state) {eventId : String}
    (drawn : eventId ∈ state.enqueued) (unpublished : eventId ∉ state.published)
    (left : (state.failures.count eventId : Int) < defaultOutboxRetryPolicy.maxAttempts) :
    ∃ event, state.events.find eventId = some event ∧ event.status = .pending := by
  obtain ⟨event, stored⟩ := accounted.present eventId drawn unpublished
  obtain ⟨-, rfl⟩ := Table.find_some.mp stored
  have facts := accounted.rows event.id event stored
  refine ⟨event, stored, ?_⟩
  cases status : event.status with
  | pending => rfl
  | published => exact absurd (facts.marked status) unpublished
  | failed =>
      have spent := facts.spent status
      rw [facts.counted] at spent
      omega

theorem due_of_later {event : OutboxRecord} {now : Int} {family : Option String}
    (pending : event.status = .pending) (available : event.availableAt < now)
    (unlocked : ∀ lock, event.lockedUntil = some lock → lock < now)
    (matching : ∀ text, family = some text → startswith event.eventType text = true) :
    event.due now family = true := by
  have free : (event.lockedUntil.all fun lock => lock ≤ now) = true := by
    cases lock : event.lockedUntil with
    | none => rfl
    | some expiry =>
        have early := unlocked expiry lock
        simp only [Option.all_some, decide_eq_true_eq]
        omega
  have ours : (family.all fun text => startswith event.eventType text) = true := by
    cases given : family with
    | none => rfl
    | some text => exact matching text given
  have ready : event.availableAt ≤ now := by omega
  simp [OutboxRecord.due, pending, ready, free, ours]

end Steps

end AiPlatform.Outbox.Relays

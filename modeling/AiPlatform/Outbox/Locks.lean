import AiPlatform.Outbox.Purges

set_option autoImplicit false

/- Whether a published event stays published. The outcome writes do not look at the lock, so this
rests on how long a pass takes: while its lock runs, no other pass has its events. -/
namespace AiPlatform.Outbox.Relays

open Machine

/-- From any state of the run on, a published event keeps status, attempts and error until it is
deleted. -/
def StaysPublished (start : Int) (actions : List Action) : Prop :=
  ∀ first second third earlier later, actions = first ++ second ++ third →
    run step { clock := start } first = some earlier → run step earlier second = some later →
    ∀ eventId event, earlier.events.find eventId = some event → event.status = .published →
      ∀ row, later.events.find eventId = some row →
        row.status = .published ∧ row.attempts = event.attempts ∧ row.error = event.error

/-- An outcome is written before the lock of its pass has run out, or while the event still has
that lock: no other pass claimed or settled the event in between. -/
def Fenced (state : State) (call : Call) : Prop :=
  ∀ passId draw, call = .record passId draw →
    ∀ pass record, state.passes.find passId = some pass → pass.phase.settling = some record →
      state.clock < pass.lockedUntil ∨
        ∀ event, state.events.find record.id = some event →
          event.lockedUntil = some pass.lockedUntil

def WithinLock (state : State) (action : Action) : Prop :=
  Fenced { state with clock := action.now } action.call

/-- A pass whose lock still runs is the only such pass on its events, which are pending under its
lock. -/
structure Locked (state : State) : Prop where
  drawn : ∀ eventId event, state.events.find eventId = some event → eventId ∈ state.enqueued
  published : ∀ eventId event, state.events.find eventId = some event →
    event.status = .published → event.lockedUntil = none ∧ event.error = none
  held : ∀ pass ∈ state.passes.rows, ∀ record ∈ pass.phase.records,
    state.clock < pass.lockedUntil →
      ∃ event, state.events.find record.id = some event ∧ event.status = .pending ∧
        event.lockedUntil = some pass.lockedUntil
  single : ∀ left ∈ state.passes.rows, ∀ right ∈ state.passes.rows, left.id ≠ right.id →
    ∀ record ∈ left.phase.records, ∀ other ∈ right.phase.records, record.id = other.id →
      state.clock < left.lockedUntil → right.lockedUntil ≤ state.clock
  distinct : ∀ pass ∈ state.passes.rows, (pass.phase.records.map OutboxRecord.id).Nodup

theorem init_locked (start : Int) : Locked { clock := start } := by
  constructor <;> simp

section Steps

variable {state next : State}

theorem Locked.advance (locked : Locked state) {now : Int} (later : state.clock ≤ now) :
    Locked { state with clock := now } where
  drawn := locked.drawn
  published := locked.published
  held pass member record listed running :=
    locked.held pass member record listed (lt_of_le_of_lt later running)
  single left leftMember right rightMember apart record leftHas other rightHas same running := by
    have expired := locked.single left leftMember right rightMember apart record leftHas other
      rightHas same (lt_of_le_of_lt later running)
    show right.lockedUntil ≤ now
    omega
  distinct := locked.distinct

/-- A pass that moves on within its batch keeps what the locks say. -/
theorem Locked.enter (locked : Locked state) {pass : Pass} {phase : Phase}
    (running : state.passes.find pass.id = some pass)
    (fewer : phase.records.Sublist pass.phase.records) {sent : List String} :
    Locked { state with
      passes := Pass.enter state.passes pass.id phase
      sent := sent } := by
  have member := (Table.find_some.mp running).1
  -- Each pass of the new table has the lock of an old one and no more records than it.
  have origin : ∀ moved ∈ (Pass.enter state.passes pass.id phase).rows, ∃ old ∈ state.passes.rows,
      old.id = moved.id ∧ old.lockedUntil = moved.lockedUntil ∧
        moved.phase.records.Sublist old.phase.records := by
    intro moved inside
    rcases mem_enter inside with ⟨old, -⟩ | ⟨old, found, rfl⟩
    · exact ⟨moved, old, rfl, rfl, List.Sublist.refl _⟩
    · obtain rfl := Option.some.inj (running.symm.trans found)
      exact ⟨pass, member, rfl, rfl, fewer⟩
  refine ⟨locked.drawn, locked.published, ?_, ?_, ?_⟩
  · intro moved inside record listed
    obtain ⟨old, oldMember, -, lock, sub⟩ := origin moved inside
    rw [← lock]
    exact locked.held old oldMember record (sub.subset listed)
  · intro left leftInside right rightInside apart record leftHas other rightHas
    obtain ⟨oldLeft, leftMember, leftId, leftLock, leftSub⟩ := origin left leftInside
    obtain ⟨oldRight, rightMember, rightId, rightLock, rightSub⟩ := origin right rightInside
    rw [← leftLock, ← rightLock]
    exact locked.single oldLeft leftMember oldRight rightMember
      (by rw [leftId, rightId]; exact apart)
      record (leftSub.subset leftHas) other (rightSub.subset rightHas)
  · intro moved inside
    obtain ⟨old, oldMember, -, -, sub⟩ := origin moved inside
    exact (locked.distinct old oldMember).sublist (sub.map _)

theorem Locked.enqueued (locked : Locked state) {event : OutboxRecord} {events : OutboxTable}
    (fresh : event.id ∉ state.enqueued) (inserted : state.events.insert event = some events)
    (pending : event.status = .pending) :
    Locked { state with events := events, enqueued := event.id :: state.enqueued } := by
  refine ⟨?_, ?_, ?_, locked.single, locked.distinct⟩
  · intro eventId row found
    dsimp only at found
    rw [Table.find_insert inserted] at found
    split at found
    · rename_i here
      exact List.mem_cons.mpr (.inl here)
    · exact List.mem_cons_of_mem _ (locked.drawn eventId row found)
  · intro eventId row found status
    dsimp only at found
    rw [Table.find_insert inserted] at found
    split at found
    · obtain rfl := Option.some.inj found
      rw [pending] at status
      cases status
    · exact locked.published eventId row found status
  · intro pass member record listed running
    obtain ⟨row, stored, facts⟩ := locked.held pass member record listed running
    have apart : record.id ≠ event.id := by
      intro same
      have drawn := locked.drawn record.id row stored
      rw [same] at drawn
      exact fresh drawn
    exact ⟨row, by rw [Table.find_insert inserted, if_neg apart]; exact stored, facts⟩

/-- No picked event is under a lock that still runs. -/
theorem Locked.unlocked (locked : Locked state) {now limit : Int} {family : Option String}
    {picked : List String} (read : now ≤ state.clock)
    (selected : DueSelection now limit family state.events picked) :
    ∀ pass ∈ state.passes.rows, ∀ record ∈ pass.phase.records, record.id ∈ picked →
      pass.lockedUntil ≤ state.clock := by
  intro pass member record listed chosen
  by_contra running
  have ⟨event, stored, _, taken⟩ := locked.held pass member record listed (by omega)
  have ⟨due, found, _, _, expired⟩ := picked_due selected chosen
  rw [← Option.some.inj (stored.symm.trans found)] at expired
  have past := expired pass.lockedUntil taken
  omega

theorem Locked.claimed (locked : Locked state) {pass : Pass} {limit lockMicros : Int}
    {picked : List String} {passes : Table Pass.id} (read : pass.now ≤ state.clock)
    (lock : pass.lockedUntil = pass.now + lockMicros)
    (selected : DueSelection pass.now limit pass.publisher.eventTypePrefix state.events picked)
    (batch : pass.phase = .publishing (claimPending pass.now lockMicros picked state.events).1)
    (inserted : state.passes.insert pass = some passes) :
    Locked { state with
      events := (claimPending pass.now lockMicros picked state.events).2
      passes := passes } := by
  have free := locked.unlocked read selected
  have ours : ∀ record ∈ pass.phase.records, record.id ∈ picked := by
    intro record listed
    rw [batch] at listed
    exact claimed_ids.subset (List.mem_map_of_mem listed)
  have members : ∀ other ∈ passes.rows, other ∈ state.passes.rows ∨ other = pass := by
    intro other member
    rw [(Table.insert_some.mp inserted).2] at member
    rcases List.mem_append.mp member with old | new
    · exact .inl old
    · exact .inr (List.mem_singleton.mp new)
  refine ⟨?_, ?_, ?_, ?_, ?_⟩
  · intro eventId event found
    dsimp only at found
    rw [find_claimPending] at found
    obtain ⟨old, stored, -⟩ := Option.map_eq_some_iff.mp found
    exact locked.drawn eventId old stored
  · intro eventId event found status
    dsimp only at found
    rw [find_claimPending] at found
    obtain ⟨old, stored, rfl⟩ := Option.map_eq_some_iff.mp found
    split at status
    · rename_i chosen
      obtain ⟨due, present, pending, -⟩ := picked_due selected chosen
      obtain rfl := Option.some.inj (stored.symm.trans present)
      simp only [OutboxRecord.lock, pending] at status
      cases status
    · rename_i passed
      rw [if_neg passed]
      exact locked.published eventId old stored status
  · intro other member record listed running
    dsimp only
    rw [find_claimPending]
    rcases members other member with old | rfl
    · obtain ⟨event, stored, pending, taken⟩ := locked.held other old record listed running
      have passed : record.id ∉ picked := by
        intro chosen
        have expired := free other old record listed chosen
        dsimp only at running
        omega
      exact ⟨event, by rw [stored, Option.map_some, if_neg passed], pending, taken⟩
    · have chosen := ours record listed
      obtain ⟨event, stored, pending, -⟩ := picked_due selected chosen
      refine ⟨event.lock (other.now + lockMicros), ?_, pending, ?_⟩
      · rw [stored, Option.map_some, if_pos chosen]
      · rw [lock]
        rfl
  · intro left leftInside right rightInside apart record leftHas other rightHas same running
    rcases members left leftInside with leftOld | rfl
    · rcases members right rightInside with rightOld | rfl
      · exact locked.single left leftOld right rightOld apart record leftHas other rightHas same
          running
      · have expired := free left leftOld record leftHas (by rw [same]; exact ours other rightHas)
        dsimp only at running
        omega
    · rcases members right rightInside with rightOld | rfl
      · exact free right rightOld other rightHas (by rw [← same]; exact ours record leftHas)
      · exact absurd rfl apart
  · intro other member
    rcases members other member with old | rfl
    · exact locked.distinct other old
    · rw [batch]
      exact selected.1.sublist claimed_ids

/-- The outcome of one record is written under its lock. -/
theorem Locked.settled (locked : Locked state) {pass : Pass} {record : OutboxRecord}
    {rest : List OutboxRecord} {events : OutboxTable} {change : OutboxRecord → OutboxRecord}
    (running : state.passes.find pass.id = some pass)
    (records : pass.phase.records = record :: rest)
    (fence : state.clock < pass.lockedUntil ∨ ∀ event, state.events.find record.id = some event →
      event.lockedUntil = some pass.lockedUntil)
    (marked : ∀ eventId, events.find eventId =
      if eventId = record.id then (state.events.find eventId).map change
      else state.events.find eventId)
    (clean : ∀ event, (change event).status = .published →
      (change event).lockedUntil = none ∧ (change event).error = none)
    (clock : next.clock = state.clock) (drawn : next.enqueued = state.enqueued)
    (table : next.events = events)
    (passes : next.passes = Pass.enter state.passes pass.id (.publishing rest)) :
    Locked next := by
  have member := (Table.find_some.mp running).1
  have unique := locked.distinct pass member
  rw [records, List.map_cons, List.nodup_cons] at unique
  -- The record is not under the running lock of another pass.
  have free : ∀ other ∈ state.passes.rows, other.id ≠ pass.id →
      ∀ entry ∈ other.phase.records, state.clock < other.lockedUntil → entry.id ≠ record.id := by
    intro other inside apart entry listed timely same
    have expired := locked.single other inside pass member apart entry listed record
      (by rw [records]; exact List.mem_cons_self) same timely
    rcases fence with early | mine
    · omega
    · obtain ⟨event, stored, -, taken⟩ := locked.held other inside entry listed timely
      rw [same] at stored
      rw [mine event stored] at taken
      have equal := Option.some.inj taken
      omega
  have moved : Locked { state with
      passes := Pass.enter state.passes pass.id (.publishing rest) } := by
    apply locked.enter running
    rw [records]
    exact List.sublist_cons_self record rest
  refine ⟨?_, ?_, ?_, ?_, ?_⟩
  · intro eventId event found
    rw [table, marked] at found
    rw [drawn]
    split at found
    · obtain ⟨old, stored, -⟩ := Option.map_eq_some_iff.mp found
      exact locked.drawn eventId old stored
    · exact locked.drawn eventId event found
  · intro eventId event found status
    rw [table, marked] at found
    split at found
    · obtain ⟨old, -, rfl⟩ := Option.map_eq_some_iff.mp found
      exact clean old status
    · exact locked.published eventId event found status
  · intro other inside entry listed timely
    rw [passes] at inside
    rw [clock] at timely
    have apart : entry.id ≠ record.id := by
      rcases mem_enter inside with ⟨old, foreign⟩ | ⟨old, found, rfl⟩
      · exact free other old foreign entry listed timely
      · intro same
        exact unique.1 (List.mem_map.mpr ⟨entry, listed, same⟩)
    obtain ⟨event, stored, facts⟩ := moved.held other inside entry listed timely
    exact ⟨event, by rw [table, marked, if_neg apart]; exact stored, facts⟩
  · intro left leftInside right rightInside
    rw [passes] at leftInside rightInside
    rw [clock]
    exact moved.single left leftInside right rightInside
  · intro other inside
    rw [passes] at inside
    exact moved.distinct other inside

theorem Locked.stopped (locked : Locked state) (passId : Nat) :
    Locked { state with passes := state.passes.remove passId } where
  drawn := locked.drawn
  published := locked.published
  held pass member := locked.held pass (Table.mem_remove.mp member).1
  single left leftInside right rightInside :=
    locked.single left (Table.mem_remove.mp leftInside).1 right (Table.mem_remove.mp rightInside).1
  distinct pass member := locked.distinct pass (Table.mem_remove.mp member).1

theorem Locked.deleted (locked : Locked state) {picked : List String}
    (old : ∀ eventId ∈ picked, ∀ event, state.events.find eventId = some event →
      event.status = .published) (selected : List (List String)) :
    Locked { state with
      events := deletePublishedBefore picked state.events
      selected := selected } := by
  refine ⟨fun eventId event found => locked.drawn eventId event (deleted_find found),
    fun eventId event found => locked.published eventId event (deleted_find found), ?_,
    locked.single, locked.distinct⟩
  intro pass member record listed running
  obtain ⟨event, stored, pending, taken⟩ := locked.held pass member record listed running
  have apart : record.id ∉ picked := by
    intro chosen
    rw [old record.id chosen event stored] at pending
    cases pending
  obtain ⟨-, same⟩ := Table.find_some.mp stored
  rw [← same] at stored apart ⊢
  exact ⟨event, find_deleted stored apart, pending, taken⟩

/-- A failure written within the lock meets no published event. -/
theorem Locked.unpublished (locked : Locked state) {pass : Pass} {record event : OutboxRecord}
    {rest : List OutboxRecord} (running : state.passes.find pass.id = some pass)
    (records : pass.phase.records = record :: rest)
    (fence : state.clock < pass.lockedUntil ∨ ∀ event, state.events.find record.id = some event →
      event.lockedUntil = some pass.lockedUntil)
    (stored : state.events.find record.id = some event) : event.status ≠ .published := by
  intro status
  have unlocked := (locked.published record.id event stored status).1
  rcases fence with early | mine
  · obtain ⟨held, present, pending, -⟩ := locked.held pass (Table.find_some.mp running).1 record
      (by rw [records]; exact List.mem_cons_self) early
    obtain rfl := Option.some.inj (stored.symm.trans present)
    rw [status] at pending
    cases pending
  · rw [mine event stored] at unlocked
    cases unlocked

theorem Locked.spares (locked : Locked state) (selections : Selections state) (now : Int)
    {call : Call} (fenced : Fenced state call) : FailsUnselected state ⟨now, call⟩ := by
  cases call with
  | record passId draw =>
      intro event writes picked member chosen
      obtain ⟨pass, running, phased⟩ := Option.bind_eq_some_iff.mp writes
      obtain ⟨-, rfl⟩ := Table.find_some.mp running
      split at phased
      · rename_i record error rest phase
        split at phased
        · have fence := fenced pass.id draw rfl pass record running (by rw [phase]; rfl)
          obtain ⟨-, same⟩ := Table.find_some.mp phased
          rw [same] at chosen
          exact locked.unpublished running (by rw [phase]; rfl) fence phased
            (selections.published picked member record.id chosen event phased)
        · cases phased
      · cases phased
  | enqueue | claim | publish | crash | selectPublishedBefore | deletePublishedBefore | rollback =>
      trivial

theorem Effect.locked {call : Call} (effect : Effect state call next) (fenced : Fenced state call)
    (selections : Selections state) (locked : Locked state) : Locked next := by
  cases effect with
  | idle => exact locked
  | enqueued event events fresh inserted pending untried =>
      exact locked.enqueued fresh inserted pending
  | claimed pass limit lockMicros picked passes asked read lock selected batch inserted =>
      exact locked.claimed read lock selected batch inserted
  | returned pass record rest running phase =>
      apply locked.enter running
      rw [phase]
      exact List.Sublist.refl _
  | raised pass record error rest running phase =>
      apply locked.enter running
      rw [phase]
      exact List.Sublist.refl _
  | published pass record rest events draw asked running phase marked =>
      have fence := fenced pass.id draw asked pass record running (by rw [phase]; rfl)
      refine locked.settled running (by rw [phase]; rfl) fence
        (markPublished_some marked) ?_ rfl rfl
        rfl rfl
      intro event status
      exact ⟨rfl, rfl⟩
  | failed pass record error rest events draw asked running phase marked =>
      have fence := fenced pass.id draw asked pass record running (by rw [phase]; rfl)
      refine locked.settled running (by rw [phase]; rfl) fence (markFailed_some marked) ?_ rfl rfl
        rfl rfl
      intro event status
      simp only [OutboxRecord.fail] at status
      split at status <;> cases status
  | stopped passId => exact locked.stopped passId
  | selected before limit picked old =>
      exact ⟨locked.drawn, locked.published, locked.held, locked.single, locked.distinct⟩
  | deleted picked listed => exact locked.deleted (selections.published picked listed) _
  | rolledBack picked =>
      exact ⟨locked.drawn, locked.published, locked.held, locked.single, locked.distinct⟩

/-- The event is as it was when published, or deleted. -/
structure Settled (eventId : String) (event : OutboxRecord) (state : State) : Prop where
  drawn : eventId ∈ state.enqueued
  same : ∀ row, state.events.find eventId = some row →
    row.status = .published ∧ row.attempts = event.attempts ∧ row.error = event.error

theorem Effect.settled {call : Call} {eventId : String} {event : OutboxRecord}
    (effect : Effect state call next) (fenced : Fenced state call) (locked : Locked state)
    (settled : Settled eventId event state) : Settled eventId event next := by
  cases effect with
  | idle => exact settled
  | enqueued added events fresh inserted pending untried =>
      refine ⟨List.mem_cons_of_mem _ settled.drawn, ?_⟩
      intro row found
      have apart : eventId ≠ added.id := fun same => fresh (same ▸ settled.drawn)
      dsimp only at found
      rw [Table.find_insert inserted, if_neg apart] at found
      exact settled.same row found
  | claimed pass limit lockMicros picked passes asked read lock selected batch inserted =>
      refine ⟨settled.drawn, ?_⟩
      intro row found
      dsimp only at found
      rw [find_claimPending] at found
      obtain ⟨old, stored, rfl⟩ := Option.map_eq_some_iff.mp found
      have passed : eventId ∉ picked := by
        intro chosen
        obtain ⟨due, present, pending, -⟩ := picked_due selected chosen
        rw [(settled.same due present).1] at pending
        cases pending
      rw [if_neg passed]
      exact settled.same old stored
  | returned pass record rest running phase => exact ⟨settled.drawn, settled.same⟩
  | raised pass record error rest running phase => exact ⟨settled.drawn, settled.same⟩
  | published pass record rest events draw asked running phase marked =>
      refine ⟨settled.drawn, ?_⟩
      intro row found
      dsimp only at found
      rw [markPublished_some marked] at found
      split at found
      · obtain ⟨old, stored, rfl⟩ := Option.map_eq_some_iff.mp found
        obtain ⟨status, attempts, error⟩ := settled.same old stored
        have clean := (locked.published eventId old stored status).2
        exact ⟨rfl, attempts, clean.symm.trans error⟩
      · exact settled.same row found
  | failed pass record error rest events draw asked running phase marked =>
      refine ⟨settled.drawn, ?_⟩
      intro row found
      dsimp only at found
      rw [markFailed_some marked] at found
      split at found
      · -- A published event has no lock, so this pass would be late.
        rename_i here
        subst here
        obtain ⟨old, stored, -⟩ := Option.map_eq_some_iff.mp found
        have fence := fenced pass.id draw asked pass record running (by rw [phase]; rfl)
        exact absurd (settled.same old stored).1
          (locked.unpublished running (by rw [phase]; rfl) fence stored)
      · exact settled.same row found
  | stopped passId => exact ⟨settled.drawn, settled.same⟩
  | selected before limit picked old => exact ⟨settled.drawn, settled.same⟩
  | deleted picked listed =>
      exact ⟨settled.drawn, fun row found => settled.same row (deleted_find found)⟩
  | rolledBack picked => exact ⟨settled.drawn, settled.same⟩

theorem step_locked {action : Action} (facts : Locked state ∧ Selections state)
    (within : WithinLock state action) (stepped : step state action = some next) :
    Locked next ∧ Selections next := by
  obtain ⟨later, effect⟩ := step_effect stepped
  have locked := facts.1.advance later
  have selections := facts.2.advance action.now
  exact ⟨effect.locked within selections locked,
    effect.selections (locked.spares selections action.now within) selections⟩

theorem step_settled {action : Action} {eventId : String} {event : OutboxRecord}
    (locked : Locked state) (within : WithinLock state action)
    (settled : Settled eventId event state) (stepped : step state action = some next) :
    Settled eventId event next := by
  obtain ⟨later, effect⟩ := step_effect stepped
  exact effect.settled within (locked.advance later) ⟨settled.drawn, settled.same⟩

end Steps

/-- In every run whose outcomes are all written within their lock, a published event stays
published. -/
theorem stays_published (start : Int) (actions : List Action)
    (within : Meets step WithinLock { clock := start } actions) : StaysPublished start actions := by
  rintro first second third earlier later rfl before between eventId event stored status
  obtain ⟨together, -⟩ := meets_append.mp within
  obtain ⟨opening, rest⟩ := meets_append.mp together
  have locked : Locked earlier ∧ Selections earlier := run_invariant
    (fun state => Locked state ∧ Selections state)
    (fun _ _ _ facts within stepped => step_locked facts within stepped)
    ⟨init_locked start, init_selections start⟩ opening before
  have both := run_invariant
    (fun state => (Locked state ∧ Selections state) ∧ Settled eventId event state)
    (fun _ _ _ facts within stepped => ⟨step_locked facts.1 within stepped,
      step_settled facts.1.1 within facts.2 stepped⟩)
    ⟨locked, locked.1.drawn eventId event stored, fun row found => by
      obtain rfl := Option.some.inj (stored.symm.trans found)
      exact ⟨status, rfl, rfl⟩⟩ (rest earlier before) between
  exact both.2.same

def timelyPass : List Action :=
  [enqueueOne, ⟨0, .claim 1 {} 0 100 60 ["e"]⟩, ⟨1, .publish 1 none⟩, ⟨2, .record 1 0⟩]

theorem stays_published_timelyPass : StaysPublished 0 timelyPass := by
  apply stays_published
  refine ⟨fun _ _ asked => (by cases asked), fun enqueued stepped => ?_⟩
  cases stepped
  refine ⟨fun _ _ asked => (by cases asked), fun claimed stepped => ?_⟩
  cases stepped
  refine ⟨fun _ _ asked => (by cases asked), fun sent stepped => ?_⟩
  cases stepped
  refine ⟨?_, fun _ _ => trivial⟩
  intro passId draw asked pass record holds settling
  cases asked
  cases holds
  exact .inl (by decide +kernel)

/-- The sink of the overtaken relay fails. -/
def lateFailure : List Action := [⟨62000000, .publish 1 (some queueDown)⟩, ⟨62000000, .record 1 0⟩]

theorem published_event_is_pending_again : ¬StaysPublished 0 (overtaken ++ lateFailure) := by
  intro stays
  have ends : (run step { clock := 0 } overtaken).bind (fun earlier =>
      (run step earlier lateFailure).map fun later =>
        ((earlier.events.find "e").map OutboxRecord.status,
          (later.events.find "e").map OutboxRecord.status)) =
      some (some .published, some .pending) := by decide +kernel
  obtain ⟨earlier, before, rest⟩ := Option.bind_eq_some_iff.mp ends
  obtain ⟨later, between, facts⟩ := Option.map_eq_some_iff.mp rest
  simp only [Prod.mk.injEq] at facts
  obtain ⟨event, stored, published⟩ := Option.map_eq_some_iff.mp facts.1
  obtain ⟨row, found, pending⟩ := Option.map_eq_some_iff.mp facts.2
  have kept := stays overtaken lateFailure [] earlier later (by simp) before between "e" event
    stored published row found
  rw [kept.1] at pending
  cases pending

end AiPlatform.Outbox.Relays

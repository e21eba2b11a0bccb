import AiPlatform.Outbox.Publisher

set_option autoImplicit false

/- The attempts that one relay spends on an event. It runs `publish_pending` pass after pass, and a
pass ends before its locks expire, so that a pass is one action here. An `enqueue` that commits in
the middle of a pass is not seen by it and comes after it. Datetimes are unbounded. -/
namespace AiPlatform.Outbox.RetryBudget

open Machine Resilience

/-- What the sink does with a record, and the reading of `rng` should the sink raise. -/
structure Answer where
  failure : Option PyError
  draw : Rat

/-- A call of `sink.publish`, with the row of its event when it began and the row once the outcome
was written. -/
structure SinkCall where
  record : OutboxRecord
  now : Int
  failure : Option PyError
  before : Option OutboxRecord
  after : Option OutboxRecord

structure OutboxPublishReport where
  total : Int
  published : Int
  retried : Int
  failed : Int

/-- The loop of a pass so far: the table, all calls of the sink and the counters. -/
structure Progress where
  events : OutboxTable
  calls : List SinkCall
  published : Int := 0
  retried : Int := 0
  failed : Int := 0

structure State where
  clock : Int
  events : OutboxTable := .empty
  calls : List SinkCall := []
  reports : List OutboxPublishReport := []

inductive Action where
  | enqueue (clock : Int) (id eventType : String) (payload metadata : Json)
      (availableAt : Option Int)
  | publishPending (now limit : Int) (lockSeconds : Rat) (picked : List String)
      (sink : String → Answer)

/-- The calls for one event, in order. -/
def callsOf (calls : List SinkCall) (eventId : String) : List SinkCall :=
  calls.filter fun call => call.record.id = eventId

section Passes

variable (publisher : OutboxPublisher)

/-- One turn of the loop; `none` is an error of the store, which ends the pass. -/
def publishRecord (now : Int) (answer : Answer) (record : OutboxRecord) (progress : Progress) :
    Option Progress :=
  let before := progress.events.find record.id
  let call (events : OutboxTable) : SinkCall :=
    ⟨record, now, answer.failure, before, events.find record.id⟩
  match answer.failure with
  | none =>
      (markPublished record.id now progress.events).map fun events =>
        { progress with
          events := events
          calls := progress.calls ++ [call events]
          published := progress.published + 1 }
  | some error =>
      let next := nextAttempt publisher.retryPolicy now record error answer.draw
      (markFailed record.id error.text next progress.events).map fun events =>
        { progress with
          events := events
          calls := progress.calls ++ [call events]
          retried := if next.isSome then progress.retried + 1 else progress.retried
          failed := if next.isSome then progress.failed else progress.failed + 1 }

/-- The loop over the claimed records, and whether it came to its end. -/
def publishRecords (now : Int) (sink : String → Answer) :
    List OutboxRecord → Progress → Bool × Progress
  | [], progress => (true, progress)
  | record :: rest, progress =>
      match publishRecord publisher now (sink record.id) record progress with
      | none =>
          let row := progress.events.find record.id
          (false, { progress with
            calls := progress.calls ++ [⟨record, now, (sink record.id).failure, row, row⟩] })
      | some next => publishRecords now sink rest next

/-- `publish_pending` with what its select returned; a limit or a lock that is not positive is a
`ValueError`. -/
def publishPending (state : State) (now limit : Int) (lockSeconds : Rat) (picked : List String)
    (sink : String → Answer) : Option State :=
  if lockSeconds ≤ 0 ∨ limit ≤ 0 then some { state with clock := now }
  else if DueSelection now limit publisher.eventTypePrefix state.events picked then
    let claimed := claimPending now (timedeltaOfRat lockSeconds) picked state.events
    let done := publishRecords publisher now sink claimed.1
      { events := claimed.2, calls := state.calls }
    let report : OutboxPublishReport :=
      ⟨claimed.1.length, done.2.published, done.2.retried, done.2.failed⟩
    some {
      clock := now
      events := done.2.events
      calls := done.2.calls
      reports := if done.1 then state.reports ++ [report] else state.reports }
  else none

def step (state : State) : Action → Option State
  | .enqueue clock id eventType payload metadata availableAt =>
      let event : OutboxRecord := { newOutboxRow clock id eventType payload with
        metadata := metadata
        availableAt := availableAt.getD clock }
      (state.events.insert event).map fun events => { state with events := events }
  | .publishPending now limit lockSeconds picked sink =>
      if now < state.clock then none
      else publishPending publisher state now limit lockSeconds picked sink

end Passes

/-- `rng` reads between zero and one. -/
def Action.Drawn : Action → Prop
  | .enqueue .. => True
  | .publishPending _ _ _ _ sink => ∀ eventId, 0 ≤ (sink eventId).draw ∧ (sink eventId).draw ≤ 1

/-- The `error` column takes the text of every error that the sink raises in the pass. -/
def Action.Sendable : Action → Prop
  | .enqueue .. => True
  | .publishPending _ limit lockSeconds picked sink => 0 < limit → 0 < lockSeconds →
      ∀ eventId ∈ picked, ∀ error, (sink eventId).failure = some error →
        Columns.sendable error.text

/-- What an event's calls say of its row. -/
structure Spent (policy : RetryPolicy) (calls : List SinkCall) (event : OutboxRecord) : Prop where
  bounded : (calls.length : Int) ≤ policy.maxAttempts
  published : event.status = .published ↔ ∃ call ∈ calls, call.failure = none
  failed : event.status = .failed ↔
    (calls.length : Int) = policy.maxAttempts ∧ ∀ call ∈ calls, call.failure ≠ none
  attempts : event.attempts = calls.countP fun call => call.failure.isSome
  settled : ∀ earlier call later, calls = earlier ++ call :: later → call.failure = none →
    later = []

/-- The call was not early, and if it failed its event is given up or available again after at most
the greatest delay. -/
structure SinkCall.Timely (policy : RetryPolicy) (call : SinkCall) : Prop where
  due : ∃ event, call.before = some event ∧ event.availableAt ≤ call.now
  later : call.failure ≠ none → ∃ event, call.after = some event ∧
    (event.status = .failed ∨
      event.status = .pending ∧ call.now ≤ event.availableAt ∧
        event.availableAt ≤ call.now + timedeltaOfRat policy.maxDelaySeconds)

theorem nextAttempt_bounds {policy : RetryPolicy} {now availableAt : Int} {record : OutboxRecord}
    {error : PyError} {draw : Rat} (low : 0 ≤ draw) (high : draw ≤ 1)
    (next : nextAttempt policy now record error draw = some availableAt) :
    now ≤ availableAt ∧ availableAt ≤ now + timedeltaOfRat policy.maxDelaySeconds := by
  have bounded := decision_delay_bounds policy (record.attempts + 1) none (some error) none low high
  have least := timedeltaOfRat_mono bounded.1
  have greatest := timedeltaOfRat_mono bounded.2
  rw [timedeltaOfRat_zero] at least
  unfold nextAttempt at next
  dsimp only at next
  split at next
  · cases next
    omega
  · cases next

/-- How an event can stand with its calls. -/
inductive Story (policy : RetryPolicy) (calls : List SinkCall) (event : OutboxRecord) : Prop
  | pending (status : event.status = .pending) (raised : ∀ call ∈ calls, call.failure ≠ none)
      (attempts : event.attempts = calls.length) (left : event.attempts < policy.maxAttempts)
  | failed (status : event.status = .failed) (raised : ∀ call ∈ calls, call.failure ≠ none)
      (attempts : event.attempts = calls.length) (spent : event.attempts = policy.maxAttempts)
  | published (earlier : List SinkCall) (call : SinkCall) (status : event.status = .published)
      (order : calls = earlier ++ [call]) (returned : call.failure = none)
      (raised : ∀ call ∈ earlier, call.failure ≠ none) (attempts : event.attempts = earlier.length)
      (left : event.attempts < policy.maxAttempts)

theorem countP_raised {calls : List SinkCall} (raised : ∀ call ∈ calls, call.failure ≠ none) :
    (calls.countP fun call => call.failure.isSome) = calls.length :=
  List.countP_eq_length.mpr fun call member => Option.isSome_iff_ne_none.mpr (raised call member)

theorem Story.spent {policy : RetryPolicy} {calls : List SinkCall} {event : OutboxRecord}
    (story : Story policy calls event) : Spent policy calls event := by
  cases story with
  | pending status raised attempts left =>
      have unreturned : ¬∃ call ∈ calls, call.failure = none :=
        fun ⟨call, member, returned⟩ => raised call member returned
      refine ⟨by omega, ?_, ?_, ?_, ?_⟩
      · rw [status]
        exact iff_of_false nofun unreturned
      · rw [status]
        exact iff_of_false nofun fun ⟨all, _⟩ => by omega
      · rw [countP_raised raised, attempts]
      · intro earlier call later order returned
        exact absurd ⟨call, order ▸ List.mem_append_cons_self, returned⟩ unreturned
  | failed status raised attempts spent =>
      have unreturned : ¬∃ call ∈ calls, call.failure = none :=
        fun ⟨call, member, returned⟩ => raised call member returned
      refine ⟨by omega, ?_, ?_, ?_, ?_⟩
      · rw [status]
        exact iff_of_false nofun unreturned
      · exact iff_of_true status ⟨by omega, raised⟩
      · rw [countP_raised raised, attempts]
      · intro earlier call later order returned
        exact absurd ⟨call, order ▸ List.mem_append_cons_self, returned⟩ unreturned
  | published earlier last status order returned raised attempts left =>
      have size : (calls.length : Int) = earlier.length + 1 := by
        rw [order, List.length_append]
        rfl
      have inside : last ∈ calls := order ▸ List.mem_append_cons_self
      refine ⟨by omega, ?_, ?_, ?_, ?_⟩
      · exact iff_of_true status ⟨last, inside, returned⟩
      · rw [status]
        exact iff_of_false nofun fun ⟨_, all⟩ => all last inside returned
      · rw [order, List.countP_append, countP_raised raised, List.countP_singleton, returned,
          attempts]
        rfl
      · -- A call before the last one raised.
        intro before call later split ended
        rw [order] at split
        rcases List.append_eq_append_iff.mp split with ⟨middle, front, back⟩ | ⟨middle, front, back⟩
        · cases middle with
          | nil => exact ((List.cons.inj back).2).symm
          | cons head rest =>
              exact absurd (List.cons.inj back).2 (by simp)
        · cases middle with
          | nil => exact (List.cons.inj back).2
          | cons head rest =>
              have same := (List.cons.inj back).1
              apply absurd ended
              apply raised call
              rw [front, same]
              exact List.mem_append_cons_self

section Turns

variable {policy : RetryPolicy} {calls : List SinkCall} {event : OutboxRecord} {call : SinkCall}

theorem Story.untried (untried : event.attempts = 0) (pending : event.status = .pending) :
    Story policy [] event := by
  have left : event.attempts < policy.maxAttempts := by
    rw [untried]
    exact policy.positiveAttempts
  exact .pending pending (fun _ member => absurd member List.not_mem_nil) untried left

theorem Story.returned (story : Story policy calls event) (pending : event.status = .pending)
    (returned : call.failure = none) (publishedAt : Int) :
    Story policy (calls ++ [call]) (event.publish publishedAt) := by
  cases story with
  | pending _ raised attempts left =>
      exact .published calls call rfl rfl returned raised attempts left
  | failed status =>
      rw [pending] at status
      cases status
  | published _ _ status =>
      rw [pending] at status
      cases status

theorem Story.raised (story : Story policy calls event) (pending : event.status = .pending)
    (raised : call.failure ≠ none) {error : String} {availableAt : Option Int}
    (decided : availableAt.isSome = decide (event.attempts + 1 < policy.maxAttempts)) :
    Story policy (calls ++ [call]) (event.fail error availableAt) := by
  cases story with
  | pending _ before attempts left =>
      have all : ∀ other ∈ calls ++ [call], other.failure ≠ none := by
        intro other member
        rcases List.mem_append.mp member with old | new
        · exact before other old
        · rw [List.mem_singleton.mp new]
          exact raised
      have size : (event.fail error availableAt).attempts = (calls ++ [call]).length := by
        rw [List.length_append]
        show event.attempts + 1 = _
        rw [attempts]
        rfl
      by_cases more : event.attempts + 1 < policy.maxAttempts
      · refine .pending ?_ all size more
        show (if availableAt.isSome = true then _ else _) = _
        rw [decided, decide_eq_true more, if_pos rfl]
      · have spent : event.attempts + 1 = policy.maxAttempts := by omega
        refine .failed ?_ all size spent
        show (if availableAt.isSome = true then _ else _) = _
        rw [decided, decide_eq_false more, if_neg Bool.false_ne_true]
  | failed status =>
      rw [pending] at status
      cases status
  | published _ _ status =>
      rw [pending] at status
      cases status

theorem callsOf_append (calls : List SinkCall) (call : SinkCall) (eventId : String) :
    callsOf (calls ++ [call]) eventId =
      if call.record.id = eventId then callsOf calls eventId ++ [call]
      else callsOf calls eventId := by
  unfold callsOf
  rw [List.filter_append, List.filter_singleton]
  split <;> simp_all

/-- Every event stands as its calls say, and every call is for an event and in time. -/
structure Kept (policy : RetryPolicy) (events : OutboxTable) (calls : List SinkCall) : Prop where
  stories : ∀ eventId event, events.find eventId = some event →
    Story policy (callsOf calls eventId) event
  known : ∀ call ∈ calls, ∃ event, events.find call.record.id = some event
  timely : ∀ call ∈ calls, call.Timely policy

/-- The records that a pass has still to publish are as the table has them. -/
structure Ready (now : Int) (events : OutboxTable) (records : List OutboxRecord) : Prop where
  distinct : (records.map OutboxRecord.id).Nodup
  stored : ∀ record ∈ records, events.find record.id = some record
  pending : ∀ record ∈ records, record.status = .pending
  due : ∀ record ∈ records, record.availableAt ≤ now

theorem Kept.uncalled {events : OutboxTable} (kept : Kept policy events calls) {eventId : String}
    (missing : events.find eventId = none) : callsOf calls eventId = [] := by
  apply List.filter_eq_nil_iff.mpr
  intro call member same
  have ⟨event, found⟩ := kept.known call member
  rw [of_decide_eq_true same, missing] at found
  cases found

/-- A turn writes the row of its own record, and adds one call for it. -/
theorem Kept.turn {events after : OutboxTable} {now : Int} {record row : OutboxRecord}
    {rest : List OutboxRecord} (kept : Kept policy events calls)
    (ready : Ready now events (record :: rest))
    (written : ∀ other, after.find other =
      if other = record.id then some row else events.find other)
    (same : call.record = record) (timely : call.Timely policy)
    (story : Story policy (callsOf calls record.id ++ [call]) row) :
    Kept policy after (calls ++ [call]) ∧ Ready now after rest := by
  have ⟨fresh, others⟩ := List.nodup_cons.mp ready.distinct
  have apart : ∀ other ∈ rest, other.id ≠ record.id := by
    intro other member equal
    exact fresh (equal ▸ List.mem_map_of_mem member)
  refine ⟨⟨?_, ?_, ?_⟩, others, ?_, ?_, ?_⟩
  · intro eventId event found
    rw [written] at found
    rw [callsOf_append, same]
    by_cases here : eventId = record.id
    · rw [if_pos here] at found
      rw [if_pos here.symm, here, ← Option.some.inj found]
      exact story
    · rw [if_neg here] at found
      rw [if_neg (Ne.symm here)]
      exact kept.stories eventId event found
  · intro other member
    rw [written]
    split
    · exact ⟨row, rfl⟩
    · rename_i away
      rcases List.mem_append.mp member with old | new
      · exact kept.known other old
      · rw [List.mem_singleton.mp new, same] at away
        exact absurd rfl away
  · intro other member
    rcases List.mem_append.mp member with old | new
    · exact kept.timely other old
    · rw [List.mem_singleton.mp new]
      exact timely
  · intro other member
    rw [written, if_neg (apart other member)]
    exact ready.stored other (List.mem_cons_of_mem _ member)
  · exact fun other member => ready.pending other (List.mem_cons_of_mem _ member)
  · exact fun other member => ready.due other (List.mem_cons_of_mem _ member)

end Turns

section Runs

variable {publisher : OutboxPublisher}

theorem markPublished_present {eventId : String} {events : OutboxTable} {event : OutboxRecord}
    (found : events.find eventId = some event) (publishedAt : Int) :
    ∃ next, markPublished eventId publishedAt events = some next := by
  unfold markPublished
  rw [found]
  exact ⟨_, rfl⟩

/-- A turn of the loop finds its event, counts it once and keeps what holds of all of them. -/
theorem publishRecord_spec (exceptions : publisher.retryPolicy.retryExceptions = true)
    (always : ∀ error, publisher.retryPolicy.retryOn error = true) {now : Int} {answer : Answer}
    {record : OutboxRecord} {rest : List OutboxRecord} {progress : Progress}
    (drawn : 0 ≤ answer.draw ∧ answer.draw ≤ 1)
    (texts : ∀ error, answer.failure = some error → Columns.sendable error.text)
    (kept : Kept publisher.retryPolicy progress.events progress.calls)
    (ready : Ready now progress.events (record :: rest)) :
    ∃ next, publishRecord publisher now answer record progress = some next ∧
      Kept publisher.retryPolicy next.events next.calls ∧ Ready now next.events rest ∧
      next.published + next.retried + next.failed =
        progress.published + progress.retried + progress.failed + 1 := by
  have stored := ready.stored record List.mem_cons_self
  have pending := ready.pending record List.mem_cons_self
  have due := ready.due record List.mem_cons_self
  have story := kept.stories record.id record stored
  unfold publishRecord
  dsimp only
  cases failure : answer.failure with
  | none =>
      have ⟨events, marked⟩ := markPublished_present stored now
      have written : ∀ other, events.find other =
          if other = record.id then some (record.publish now) else progress.events.find other := by
        intro other
        rw [markPublished_some marked]
        split
        · rename_i here
          rw [here, stored]
          rfl
        · rfl
      dsimp only
      rw [marked]
      have timely : SinkCall.Timely publisher.retryPolicy
          ⟨record, now, none, progress.events.find record.id, events.find record.id⟩ :=
        ⟨⟨record, stored, due⟩, fun raised => absurd rfl raised⟩
      have ⟨kept, ready⟩ :=
        kept.turn ready written rfl timely (story.returned pending rfl now)
      refine ⟨_, rfl, kept, ready, ?_⟩
      dsimp only
      omega
  | some error =>
      have decided := nextAttempt_isSome exceptions always now record error answer.draw
      have ⟨events, marked⟩ : ∃ events, markFailed record.id error.text
          (nextAttempt publisher.retryPolicy now record error answer.draw) progress.events =
            some events := ⟨_, markFailed_sendable stored (texts error failure)⟩
      have written : ∀ other, events.find other =
          if other = record.id then some (record.fail error.text
            (nextAttempt publisher.retryPolicy now record error answer.draw))
          else progress.events.find other := by
        intro other
        rw [markFailed_some marked]
        split
        · rename_i here
          rw [here, stored]
          rfl
        · rfl
      have timely : SinkCall.Timely publisher.retryPolicy
          ⟨record, now, some error, progress.events.find record.id, events.find record.id⟩ := by
        have row := (written record.id).trans (if_pos rfl)
        refine ⟨⟨record, stored, due⟩, fun _ => ⟨_, row, ?_⟩⟩
        cases next : nextAttempt publisher.retryPolicy now record error answer.draw with
        | none => exact .inl rfl
        | some availableAt => exact .inr ⟨rfl, nextAttempt_bounds drawn.1 drawn.2 next⟩
      dsimp only
      rw [marked]
      have ⟨kept, ready⟩ := kept.turn ready written rfl timely
        (story.raised pending (Option.some_ne_none error) decided)
      refine ⟨_, rfl, kept, ready, ?_⟩
      dsimp only
      split <;> omega

/-- The loop comes to its end and counts every record once. -/
theorem publishRecords_spec (exceptions : publisher.retryPolicy.retryExceptions = true)
    (always : ∀ error, publisher.retryPolicy.retryOn error = true) {now : Int}
    {sink : String → Answer} (drawn : ∀ eventId, 0 ≤ (sink eventId).draw ∧ (sink eventId).draw ≤ 1)
    (records : List OutboxRecord) (progress : Progress)
    (texts : ∀ record ∈ records, ∀ error, (sink record.id).failure = some error →
      Columns.sendable error.text)
    (kept : Kept publisher.retryPolicy progress.events progress.calls)
    (ready : Ready now progress.events records) :
    let done := publishRecords publisher now sink records progress
    done.1 = true ∧ Kept publisher.retryPolicy done.2.events done.2.calls ∧
      done.2.published + done.2.retried + done.2.failed =
        progress.published + progress.retried + progress.failed + records.length := by
  induction records generalizing progress with
  | nil => exact ⟨rfl, kept, (Int.add_zero _).symm⟩
  | cons record rest ih =>
      have ⟨next, turned, kept, ready, counted⟩ :=
        publishRecord_spec exceptions always (drawn record.id) (texts record List.mem_cons_self)
          kept ready
      have ⟨finished, kept, total⟩ :=
        ih next (fun other member => texts other (List.mem_cons_of_mem _ member)) kept ready
      have moved : publishRecords publisher now sink (record :: rest) progress =
          publishRecords publisher now sink rest next := by
        rw [publishRecords, turned]
      dsimp only at finished kept total ⊢
      rw [moved]
      refine ⟨finished, kept, ?_⟩
      rw [total, counted, List.length_cons]
      omega

theorem Story.lock {policy : RetryPolicy} {calls : List SinkCall} {event : OutboxRecord}
    (story : Story policy calls event) (expiry : Int) : Story policy calls (event.lock expiry) := by
  cases story with
  | pending status raised attempts left => exact .pending status raised attempts left
  | failed status raised attempts spent => exact .failed status raised attempts spent
  | published earlier call status order returned raised attempts left =>
      exact .published earlier call status order returned raised attempts left

/-- A claim hands the pass records that are due, as the table has them. -/
theorem claimPending_spec {policy : RetryPolicy} {now limit lockMicros : Int}
    {family : Option String} {events : OutboxTable} {calls : List SinkCall} {picked : List String}
    (kept : Kept policy events calls) (selected : DueSelection now limit family events picked) :
    Kept policy (claimPending now lockMicros picked events).2 calls ∧
      Ready now (claimPending now lockMicros picked events).2
        (claimPending now lockMicros picked events).1 := by
  have due : ∀ record ∈ (claimPending now lockMicros picked events).1,
      record.status = .pending ∧ record.availableAt ≤ now := by
    intro record member
    have found := mem_claimPending member
    have chosen : record.id ∈ picked := claimed_ids.subset (List.mem_map_of_mem member)
    have ⟨event, stored, pending, available, _⟩ := picked_due selected chosen
    rw [find_claimPending, stored, Option.map_some, if_pos chosen] at found
    rw [← Option.some.inj found]
    exact ⟨pending, available⟩
  refine ⟨⟨?_, ?_, kept.timely⟩, selected.1.sublist claimed_ids, fun _ => mem_claimPending,
    fun record member => (due record member).1, fun record member => (due record member).2⟩
  · intro eventId event found
    rw [find_claimPending] at found
    have ⟨old, stored, same⟩ := Option.map_eq_some_iff.mp found
    have story := kept.stories eventId old stored
    rw [← same]
    split
    · exact story.lock _
    · exact story
  · intro call member
    have ⟨event, found⟩ := kept.known call member
    rw [find_claimPending, found]
    exact ⟨_, rfl⟩

/-- The invariant of a relay between its passes. -/
structure Budgeted (policy : RetryPolicy) (state : State) : Prop where
  kept : Kept policy state.events state.calls
  reports : ∀ report ∈ state.reports,
    report.total = report.published + report.retried + report.failed

theorem enqueue_kept {policy : RetryPolicy} {events after : OutboxTable} {calls : List SinkCall}
    {event : OutboxRecord} (kept : Kept policy events calls) (untried : event.attempts = 0)
    (pending : event.status = .pending) (inserted : events.insert event = some after) :
    Kept policy after calls := by
  have fresh := kept.uncalled (Table.insert_some.mp inserted).1
  refine ⟨?_, ?_, kept.timely⟩
  · intro eventId row found
    rw [Table.find_insert inserted] at found
    split at found
    · rename_i here
      rw [here, fresh, ← Option.some.inj found]
      exact .untried untried pending
    · exact kept.stories eventId row found
  · intro call member
    have ⟨row, found⟩ := kept.known call member
    rw [Table.find_insert inserted]
    split
    · exact ⟨event, rfl⟩
    · exact ⟨row, found⟩

theorem publishPending_budgeted (exceptions : publisher.retryPolicy.retryExceptions = true)
    (always : ∀ error, publisher.retryPolicy.retryOn error = true) {state next : State}
    {now limit : Int} {lockSeconds : Rat} {picked : List String} {sink : String → Answer}
    (drawn : ∀ eventId, 0 ≤ (sink eventId).draw ∧ (sink eventId).draw ≤ 1)
    (texts : 0 < limit → 0 < lockSeconds → ∀ eventId ∈ picked, ∀ error,
      (sink eventId).failure = some error → Columns.sendable error.text)
    (budgeted : Budgeted publisher.retryPolicy state)
    (passed : publishPending publisher state now limit lockSeconds picked sink = some next) :
    Budgeted publisher.retryPolicy next := by
  unfold publishPending at passed
  split at passed
  · cases passed
    exact ⟨budgeted.kept, budgeted.reports⟩
  · rename_i valid
    split at passed
    · rename_i selected
      have ⟨kept, ready⟩ : Kept publisher.retryPolicy
            (claimPending now (timedeltaOfRat lockSeconds) picked state.events).2 state.calls ∧
          Ready now (claimPending now (timedeltaOfRat lockSeconds) picked state.events).2
            (claimPending now (timedeltaOfRat lockSeconds) picked state.events).1 :=
        claimPending_spec budgeted.kept selected
      have ⟨finished, kept, counted⟩ := publishRecords_spec exceptions always drawn
        (claimPending now (timedeltaOfRat lockSeconds) picked state.events).1
        ⟨(claimPending now (timedeltaOfRat lockSeconds) picked state.events).2,
          state.calls, 0, 0, 0⟩
        (fun record member => texts (by omega) (not_le.mp fun spent => valid (.inl spent)) record.id
          (claimed_ids.subset (List.mem_map_of_mem member))) kept ready
      cases passed
      refine ⟨kept, fun report member => ?_⟩
      dsimp only at member
      rw [if_pos finished] at member
      rcases List.mem_append.mp member with old | new
      · exact budgeted.reports report old
      · rw [List.mem_singleton.mp new]
        dsimp only at counted ⊢
        omega
    · cases passed

theorem step_budgeted (exceptions : publisher.retryPolicy.retryExceptions = true)
    (always : ∀ error, publisher.retryPolicy.retryOn error = true) {state next : State}
    {action : Action} (budgeted : Budgeted publisher.retryPolicy state)
    (fair : action.Drawn ∧ action.Sendable) (stepped : step publisher state action = some next) :
      Budgeted publisher.retryPolicy next := by
  cases action with
  | enqueue clock id eventType payload metadata availableAt =>
      have ⟨events, inserted, same⟩ := Option.map_eq_some_iff.mp stepped
      rw [← same]
      exact ⟨enqueue_kept budgeted.kept rfl rfl inserted, budgeted.reports⟩
  | publishPending now limit lockSeconds picked sink =>
      unfold step at stepped
      dsimp only at stepped
      split at stepped
      · cases stepped
      · exact publishPending_budgeted exceptions always fair.1 fair.2 budgeted stepped

/-- An event is published if and only if a call for it returned, which was then its last, and given
up if and only if as many as the policy allows have failed; its attempts are the failed calls, and
no call is early or put off for too long. -/
def WithinBudget (policy : RetryPolicy) (state : State) : Prop :=
  (∀ event ∈ state.events.rows, Spent policy (callsOf state.calls event.id) event) ∧
  (∀ call ∈ state.calls, call.Timely policy ∧
    ∃ event ∈ state.events.rows, event.id = call.record.id) ∧
  ∀ report ∈ state.reports, report.total = report.published + report.retried + report.failed

/-- Whatever the sink does, pass after pass, as long as the store takes the texts of its errors. -/
theorem retry_budget (publisher : OutboxPublisher)
    (exceptions : publisher.retryPolicy.retryExceptions = true)
    (always : ∀ error, publisher.retryPolicy.retryOn error = true) (start : Int)
    (actions : List Action) (final : State) (drawn : ∀ action ∈ actions, action.Drawn)
    (sendable : ∀ action ∈ actions, action.Sendable)
    (reached : run (step publisher) { clock := start } actions = some final) :
    WithinBudget publisher.retryPolicy final := by
  have initial : Budgeted publisher.retryPolicy { clock := start } :=
    ⟨⟨fun _ _ found => absurd found (Option.some_ne_none _).symm,
      fun _ member => absurd member List.not_mem_nil,
      fun _ member => absurd member List.not_mem_nil⟩,
      fun _ member => absurd member List.not_mem_nil⟩
  have met : Meets (step publisher) (fun _ action => action.Drawn ∧ action.Sendable)
      { clock := start } actions :=
    meets_of_forall _ fun action member => ⟨drawn action member, sendable action member⟩
  have budgeted : Budgeted publisher.retryPolicy final :=
    run_invariant (Budgeted publisher.retryPolicy)
      (fun _ _ _ => step_budgeted exceptions always) initial met reached
  refine ⟨fun event member => ?_, fun call member => ⟨budgeted.kept.timely call member, ?_⟩,
    budgeted.reports⟩
  · exact (budgeted.kept.stories event.id event (Table.find_mem member)).spent
  · have ⟨event, found⟩ := budgeted.kept.known call member
    have ⟨inside, same⟩ := Table.find_some.mp found
    exact ⟨event, inside, same⟩

/-- A sink that always raises on one event and returns on every other. -/
def refusing (eventId : String) : Answer :=
  if eventId = "a" then ⟨some ⟨[], "HTTP 503", none, none⟩, 1 / 2⟩ else ⟨none, 0⟩

def twiceRefused : List Action :=
  [.enqueue 0 "a" "order.created" .null .null none, .enqueue 0 "b" "order.created" .null .null none,
    .publishPending 1000000 10 60 ["a", "b"] refusing, .publishPending 9000000 10 60 ["a"] refusing,
    .publishPending 20000000 10 60 [] refusing]

theorem retry_budget_twice :
    ∃ final, run (step { retryPolicy := { maxAttempts := 2, retryOn := fun _ => true } })
        { clock := 0 } twiceRefused = some final ∧
      (final.calls.map fun call => call.record.id) = ["a", "b", "a"] ∧
      WithinBudget { maxAttempts := 2, retryOn := fun _ => true } final := by
  have within (eventId : String) : 0 ≤ (refusing eventId).draw ∧ (refusing eventId).draw ≤ 1 := by
    unfold refusing
    split <;> norm_num
  have texts (eventId : String) (error : PyError)
      (raised : (refusing eventId).failure = some error) : Columns.sendable error.text := by
    unfold refusing at raised
    split at raised
    · cases raised
      decide
    · cases raised
  have drawn : ∀ action ∈ twiceRefused, action.Drawn := by
    simp only [twiceRefused, List.forall_mem_cons]
    exact ⟨trivial, trivial, within, within, within, fun _ member => absurd member List.not_mem_nil⟩
  have sendable : ∀ action ∈ twiceRefused, action.Sendable := by
    simp only [twiceRefused, List.forall_mem_cons]
    exact ⟨trivial, trivial, fun _ _ eventId _ => texts eventId, fun _ _ eventId _ => texts eventId,
      fun _ _ eventId _ => texts eventId, fun _ member => absurd member List.not_mem_nil⟩
  have runs : ((run (step { retryPolicy := { maxAttempts := 2, retryOn := fun _ => true } })
      { clock := 0 } twiceRefused).map fun final =>
        final.calls.map fun call => call.record.id) = some ["a", "b", "a"] := by
    decide +kernel
  have ⟨final, reached, called⟩ := Option.map_eq_some_iff.mp runs
  exact ⟨final, reached, called,
    retry_budget _ rfl (fun _ => rfl) 0 twiceRefused final drawn sendable reached⟩

/-- A sink whose error quotes a NUL character, pass after pass. -/
def unprintable (_ : String) : Answer := ⟨some ⟨[], "bad reply \x00", none, none⟩, 1 / 2⟩

def thriceUnprintable : List Action :=
  [.enqueue 0 "a" "order.created" .null .null none,
    .publishPending 1000000 10 60 ["a"] unprintable,
      .publishPending 70000000 10 60 ["a"] unprintable,
    .publishPending 140000000 10 60 ["a"] unprintable]

/-- The failure is never recorded, so the third of two calls is made, and a fourth would follow. -/
theorem budget_exceeded :
    ¬∀ (publisher : OutboxPublisher), publisher.retryPolicy.retryExceptions = true →
      (∀ error, publisher.retryPolicy.retryOn error = true) →
      ∀ (start : Int) (actions : List Action) (final : State),
        (∀ action ∈ actions, action.Drawn) →
        run (step publisher) { clock := start } actions = some final →
        WithinBudget publisher.retryPolicy final := by
  intro budget
  have runs : ((run (step { retryPolicy := { maxAttempts := 2, retryOn := fun _ => true } })
      { clock := 0 } thriceUnprintable).map fun final =>
        (final.events.rows.map OutboxRecord.id, (callsOf final.calls "a").length)) =
      some (["a"], 3) := by
    decide +kernel
  have ⟨final, reached, called⟩ := Option.map_eq_some_iff.mp runs
  have drawn : ∀ action ∈ thriceUnprintable, action.Drawn := by
    have within (eventId : String) :
        0 ≤ (unprintable eventId).draw ∧ (unprintable eventId).draw ≤ 1 := by
      unfold unprintable
      norm_num
    simp only [thriceUnprintable, List.forall_mem_cons]
    exact ⟨trivial, within, within, within, fun _ member => absurd member List.not_mem_nil⟩
  have spent := (budget { retryPolicy := { maxAttempts := 2, retryOn := fun _ => true } } rfl
    (fun _ => rfl) 0 thriceUnprintable final drawn reached).1
  simp only [Prod.mk.injEq] at called
  obtain ⟨event, member, same⟩ := List.mem_map.mp
    (show "a" ∈ final.events.rows.map OutboxRecord.id by simp [called.1])
  have bounded := (spent event member).bounded
  rw [same, called.2] at bounded
  exact absurd bounded (by decide)

end Runs

end AiPlatform.Outbox.RetryBudget

import AiPlatform.Queue.Worker

set_option autoImplicit false

/- Where each message is and how it got there. All that a run does to one message is its view; the
views that occur are the four stages below. -/
namespace AiPlatform.Queue

open Machine

/-- What the gateway, the worker and the histories hold of one message. -/
structure View where
  queued : List QueueMessage := []
  inFlight : List QueueMessage := []
  acknowledged : List QueueMessage := []
  deadLettered : List QueueMessage := []
  delivering : List QueueMessage := []
  outcomes : List (Option PyError) := []
  requeues : Nat := 0
  deliveries : Nat := 0

def State.view (state : State) (id : String) : View where
  queued := state.gateway.queue.filter (·.id = id)
  inFlight := (state.gateway.inflight.find id).toList
  acknowledged := state.acknowledged.filter (·.id = id)
  deadLettered := state.gateway.deadLetter.filter (·.id = id)
  delivering := (state.active.map Delivery.message).filter (·.id = id)
  outcomes := (state.outcomes.filter (·.1 = id)).map Prod.snd
  requeues := state.requeued.count id
  deliveries := state.received.count id

def View.places (view : View) : List QueueMessage :=
  view.queued ++ view.inFlight ++ view.acknowledged ++ view.deadLettered

def retryable (error : PyError) : Prop := error.isinstance nonRetryableMessageErrorClass = false

/-- A failure that ends the deliveries, after the earlier failures `errors`. -/
def Final (worker : AsyncPollingWorker) (errors : List PyError) (last : PyError) : Prop :=
  ¬retryable last ∨ (errors.length : Int) + 1 = worker.maxAttempts

/-- The message after the failures `errors`, all of which were retried. -/
def retried (id : String) (body : Json) (errors : List PyError) : QueueMessage :=
  ⟨id, body, errors.length + 1⟩

inductive Stage (worker : AsyncPollingWorker) (id : String) (body : Json) : View → Prop
  | queued (errors : List PyError) (all : ∀ error ∈ errors, retryable error)
      (below : (errors.length : Int) < worker.maxAttempts) :
      Stage worker id body
        { queued := [retried id body errors]
          outcomes := errors.map some
          requeues := errors.length
          deliveries := errors.length }
  | inFlight (errors : List PyError) (all : ∀ error ∈ errors, retryable error)
      (below : (errors.length : Int) < worker.maxAttempts) :
      Stage worker id body
        { inFlight := [retried id body errors]
          delivering := [retried id body errors]
          outcomes := errors.map some
          requeues := errors.length
          deliveries := errors.length + 1 }
  | acknowledged (errors : List PyError) (all : ∀ error ∈ errors, retryable error)
      (below : (errors.length : Int) < worker.maxAttempts) :
      Stage worker id body
        { acknowledged := [retried id body errors]
          outcomes := errors.map some ++ [none]
          requeues := errors.length
          deliveries := errors.length + 1 }
  | deadLettered (errors : List PyError) (last : PyError) (all : ∀ error ∈ errors, retryable error)
      (below : (errors.length : Int) < worker.maxAttempts) (final : Final worker errors last) :
      Stage worker id body
        { deadLettered := [retried id body errors]
          outcomes := errors.map some ++ [some last]
          requeues := errors.length
          deliveries := errors.length + 1 }

/-- Each message sent is at one of its stages, and of other ids nothing is known. -/
structure Tracked (worker : AsyncPollingWorker) (state : State) : Prop where
  opened : state.gateway.closed = false
  unsent : ∀ id, state.sent.find id = none → state.view id = {}
  sent : ∀ id message, state.sent.find id = some message →
    Stage worker id message.body (state.view id)

theorem init_tracked (worker : AsyncPollingWorker) : Tracked worker {} where
  opened := rfl
  unsent _ _ := rfl
  sent _ _ found := nomatch found

section Steps

variable {worker : AsyncPollingWorker} {state next : State}

theorem send_tracked {id : String} {payload : Json} (tracked : Tracked worker state)
    (sent : send state id payload = some next) : Tracked worker next := by
  unfold send at sent
  split at sent
  · obtain rfl := Option.some.inj sent
    exact tracked
  · rename_i gateway accepted
    obtain ⟨table, inserted, rfl⟩ := Option.map_eq_some_iff.mp sent
    have fresh : state.sent.find id = none := (Table.insert_some.mp inserted).1
    have shape : gateway = { state.gateway with
        queue := state.gateway.queue ++ [{ id := id, body := payload }] } := by
      unfold InMemoryQueueGateway.send at accepted
      split at accepted
      · cases accepted
      · exact (Except.ok.inj accepted).symm
    subst shape
    have view : ∀ other, State.view { state with
        gateway := { state.gateway with
          queue := state.gateway.queue ++ [{ id := id, body := payload }] }
        sent := table } other = { state.view other with
          queued := (state.view other).queued ++
            if id = other then [{ id := id, body := payload }] else [] } := by
      intro other
      by_cases same : id = other <;> simp [State.view, same]
    refine ⟨tracked.opened, ?_, ?_⟩
    · intro other missing
      rw [Table.find_insert inserted] at missing
      split at missing
      · cases missing
      · rename_i apart
        rw [view, if_neg (fun same => apart same.symm), List.append_nil]
        exact tracked.unsent other missing
    · intro other message found
      rw [Table.find_insert inserted] at found
      split at found
      · rename_i here
        subst here
        obtain rfl := Option.some.inj found
        rw [view, tracked.unsent _ fresh, if_pos rfl]
        exact .queued [] (by simp) worker.positiveAttempts
      · rename_i apart
        rw [view, if_neg (fun same => apart same.symm), List.append_nil]
        exact tracked.sent other message found

theorem start_tracked {position : Nat} (tracked : Tracked worker state)
    (started : start worker state position = some next) : Tracked worker next := by
  unfold start at started
  split at started
  · rename_i delivery taken
    split at started
    · obtain rfl := Option.some.inj started
      obtain ⟨inside, stored⟩ := List.getElem?_eq_some_iff.mp taken
      have same : (state.active.set position { delivery with running := true }).map
          Delivery.message = state.active.map Delivery.message := by
        rw [List.map_set]
        apply List.ext_getElem?
        intro index
        rw [List.getElem?_set]
        split
        · rename_i here
          subst here
          simp [inside, ← stored]
        · rfl
      have view : ∀ id, State.view { state with
          active := state.active.set position { delivery with running := true } } id =
          state.view id := by
        intro id
        simp only [State.view, same]
      exact ⟨tracked.opened, fun id missing => (view id).trans (tracked.unsent id missing),
        fun id message found => by rw [view]; exact tracked.sent id message found⟩
    · cases started
  · cases started

theorem receive_open {gateway : InMemoryQueueGateway} (opened : gateway.closed = false)
    (maxMessages : Int) :
    gateway.receive maxMessages = (gateway.queue.take (max maxMessages 1).toNat, { gateway with
      queue := gateway.queue.drop (max maxMessages 1).toNat
      inflight := (gateway.queue.take (max maxMessages 1).toNat).foldl Table.put
        gateway.inflight }) := by
  simp [InMemoryQueueGateway.receive, opened]

theorem count_ids (messages : List QueueMessage) (id : String) :
    (messages.map QueueMessage.id).count id = (messages.filter (·.id = id)).length := by
  rw [List.count, List.countP_map, List.countP_eq_length_filter]
  congr 1

/-- A batch takes a message out of the queue or passes it by. -/
theorem view_tick (id : String) (room : ¬worker.maxConcurrent * 2 ≤ state.active.length)
    (opened : state.gateway.closed = false) :
    ∃ taken left, (state.view id).queued = taken ++ left ∧
      (tick worker state).view id = { state.view id with
        queued := left
        inFlight := taken.getLast?.elim (state.view id).inFlight ([·])
        delivering := (state.view id).delivering ++ taken
        deliveries := (state.view id).deliveries + taken.length } := by
  refine ⟨(state.gateway.queue.take (max worker.receiveBatchSize 1).toNat).filter (·.id = id),
    (state.gateway.queue.drop (max worker.receiveBatchSize 1).toNat).filter (·.id = id), ?_, ?_⟩
  · show List.filter _ _ = _
    rw [← List.filter_append, List.take_append_drop]
  · have last : ∀ newest old : Option QueueMessage,
        (newest.or old).toList = newest.elim old.toList ([·]) := by
      intro newest old
      cases newest <;> rfl
    unfold tick
    rw [if_neg room, receive_open opened]
    simp only [State.view, Table.find_foldl_put, last, List.map_append, List.filter_append,
      List.map_map, List.count_append, count_ids]
    congr 2
    exact congrArg (List.filter _) (List.map_id _)

theorem Stage.tick {id : String} {body : Json} {view : View} (stage : Stage worker id body view)
    {taken left : List QueueMessage} (split : view.queued = taken ++ left) :
    Stage worker id body { view with
      queued := left
      inFlight := taken.getLast?.elim view.inFlight ([·])
      delivering := view.delivering ++ taken
      deliveries := view.deliveries + taken.length } := by
  cases stage with
  | queued errors all below =>
      rcases List.append_eq_singleton_iff.mp split.symm with ⟨rfl, rfl⟩ | ⟨rfl, rfl⟩
      · exact .queued errors all below
      · exact .inFlight errors all below
  | inFlight errors all below =>
      obtain ⟨rfl, rfl⟩ := List.append_eq_nil_iff.mp split.symm
      exact .inFlight errors all below
  | acknowledged errors all below =>
      obtain ⟨rfl, rfl⟩ := List.append_eq_nil_iff.mp split.symm
      exact .acknowledged errors all below
  | deadLettered errors last all below final =>
      obtain ⟨rfl, rfl⟩ := List.append_eq_nil_iff.mp split.symm
      exact .deadLettered errors last all below final

theorem tick_tracked (tracked : Tracked worker state) : Tracked worker (tick worker state) := by
  by_cases room : worker.maxConcurrent * 2 ≤ state.active.length
  · unfold tick
    rw [if_pos room]
    exact tracked
  · have same : (tick worker state).sent = state.sent := by
      unfold tick
      rw [if_neg room]
    constructor
    · unfold tick
      rw [if_neg room, receive_open tracked.opened]
      exact tracked.opened
    · intro id missing
      rw [same] at missing
      obtain ⟨taken, left, split, view⟩ := view_tick id room tracked.opened
      rw [tracked.unsent id missing] at split view
      obtain ⟨rfl, rfl⟩ := List.append_eq_nil_iff.mp split.symm
      exact view
    · intro id message found
      rw [same] at found
      obtain ⟨taken, left, split, view⟩ := view_tick id room tracked.opened
      rw [view]
      exact (tracked.sent id message found).tick split

/-- What `_dispatch` makes of the message in flight, after the handler's `failure`. -/
def View.answer (view : View) (worker : AsyncPollingWorker) (copy : QueueMessage) :
    Option PyError → View
  | none => { view with
      inFlight := []
      delivering := []
      outcomes := view.outcomes ++ [none]
      acknowledged := view.acknowledged ++ [copy] }
  | some error =>
      if worker.requeue copy.receiveCount error then { view with
        inFlight := []
        delivering := []
        outcomes := view.outcomes ++ [some error]
        requeues := view.requeues + 1
        queued := view.queued ++ [{ copy with receiveCount := copy.receiveCount + 1 }] }
      else { view with
        inFlight := []
        delivering := []
        outcomes := view.outcomes ++ [some error]
        deadLettered := view.deadLettered ++ [copy] }

theorem active_split {active : List Delivery} {position : Nat} {delivery : Delivery}
    (taken : active[position]? = some delivery) :
    ∃ before after, active.map Delivery.message = before ++ delivery.message :: after ∧
      (active.eraseIdx position).map Delivery.message = before ++ after := by
  obtain ⟨inside, stored⟩ := List.getElem?_eq_some_iff.mp taken
  refine ⟨(active.take position).map Delivery.message,
    (active.drop (position + 1)).map Delivery.message, ?_, ?_⟩
  · rw [← List.map_cons, ← List.map_append, ← stored, List.getElem_cons_drop,
      List.take_append_drop]
  · rw [← List.map_append, List.eraseIdx_eq_take_drop_succ]

theorem filter_rest_own {before after : List QueueMessage} {copy : QueueMessage}
    (only : (before ++ copy :: after).filter (·.id = copy.id) = [copy]) :
    (before ++ after).filter (·.id = copy.id) = [] := by
  rw [List.filter_append, List.filter_cons_of_pos (by simp)] at only
  have size := congrArg List.length only
  simp only [List.length_append, List.length_cons, List.length_nil] at size
  rw [List.filter_append]
  apply List.eq_nil_of_length_eq_zero
  rw [List.length_append]
  omega

theorem filter_rest_other {before after : List QueueMessage} {copy : QueueMessage} {other : String}
    (apart : other ≠ copy.id) :
    (before ++ after).filter (·.id = other) =
      (before ++ copy :: after).filter (·.id = other) := by
  have skipped : ¬copy.id = other := apart.symm
  rw [List.filter_append, List.filter_append, List.filter_cons_of_neg (by simpa using skipped)]

theorem finish_view {position : Nat} {failure : Option PyError} {copy : QueueMessage}
    (taken : state.active[position]? = some ⟨copy, true⟩)
    (stored : state.gateway.inflight.find copy.id = some copy)
    (only : (state.view copy.id).delivering = [copy])
    (finished : finish worker state position failure = some next) :
    next.gateway.closed = state.gateway.closed ∧ next.sent = state.sent ∧
      next.view copy.id = (state.view copy.id).answer worker copy failure ∧
      ∀ other, other ≠ copy.id → next.view other = state.view other := by
  obtain ⟨before, after, whole, erased⟩ := active_split taken
  have own : (before ++ after).filter (·.id = copy.id) = [] := by
    apply filter_rest_own
    rw [← whole]
    exact only
  have foreign : ∀ other, other ≠ copy.id →
      (before ++ after).filter (·.id = other) =
        (before ++ copy :: after).filter (·.id = other) :=
    fun other apart => filter_rest_other apart
  have skipped : ∀ other, other ≠ copy.id → ¬copy.id = other := fun other apart => apart.symm
  unfold finish at finished
  rw [taken] at finished
  cases failure with
  | none =>
      obtain rfl := Option.some.inj finished
      refine ⟨rfl, rfl, ?_, ?_⟩
      · simp [State.view, View.answer, InMemoryQueueGateway.ack, erased, own, stored,
          Table.find_remove]
      · intro other apart
        simp [State.view, InMemoryQueueGateway.ack, erased, foreign other apart, ← whole, stored,
          Table.find_remove, apart, skipped other apart]
  | some error =>
      obtain rfl := Option.some.inj finished
      cases again : worker.requeue copy.receiveCount error
      all_goals
        refine ⟨?_, rfl, ?_, ?_⟩
        · simp [InMemoryQueueGateway.nack, stored]
        · simp [State.view, View.answer, InMemoryQueueGateway.nack, erased, own, stored, again,
            Table.find_remove]
        · intro other apart
          simp [State.view, InMemoryQueueGateway.nack, erased, foreign other apart, ← whole,
            stored, Table.find_remove, apart, skipped other apart]

theorem requeue_true {receiveCount : Int} {error : PyError}
    (again : worker.requeue receiveCount error = true) :
    retryable error ∧ receiveCount < worker.maxAttempts := by
  simpa [AsyncPollingWorker.requeue, retryable] using again

theorem requeue_false {receiveCount : Int} {error : PyError}
    (given : worker.requeue receiveCount error = false) :
    ¬retryable error ∨ worker.maxAttempts ≤ receiveCount := by
  by_cases kind : retryable error
  · unfold retryable at kind
    simp only [AsyncPollingWorker.requeue, kind, Bool.not_false, Bool.true_and,
      decide_eq_false_iff_not, Int.not_lt] at given
    exact .inr given
  · exact .inl kind

/-- A message that is being delivered is in flight, and this delivery is its only one. -/
theorem Stage.delivering {id : String} {body : Json} {view : View}
    (stage : Stage worker id body view) {message : QueueMessage}
    (member : message ∈ view.delivering) :
    view.inFlight = [message] ∧ view.delivering = [message] := by
  cases stage with
  | queued => cases member
  | inFlight errors all below =>
      obtain rfl := List.mem_singleton.mp member
      exact ⟨rfl, rfl⟩
  | acknowledged => cases member
  | deadLettered => cases member

theorem Stage.answer {id : String} {body : Json} {view : View}
    (stage : Stage worker id body view) {message : QueueMessage}
    (member : message ∈ view.delivering) (failure : Option PyError) :
    Stage worker id body (view.answer worker message failure) := by
  cases stage with
  | queued => cases member
  | acknowledged => cases member
  | deadLettered => cases member
  | inFlight errors all below =>
      obtain rfl := List.mem_singleton.mp member
      cases failure with
      | none => exact .acknowledged errors all below
      | some error =>
          by_cases again : worker.requeue (retried id body errors).receiveCount error = true
          · obtain ⟨kind, room⟩ := requeue_true again
            have longer : ∀ earlier ∈ errors ++ [error], retryable earlier := by
              intro earlier inside
              rcases List.mem_append.mp inside with old | new
              · exact all earlier old
              · obtain rfl := List.mem_singleton.mp new
                exact kind
            have within : ((errors ++ [error]).length : Int) < worker.maxAttempts := by
              rw [List.length_append, List.length_singleton]
              exact room
            have requeued : Stage worker id body _ := .queued (errors ++ [error]) longer within
            simp only [View.answer, if_pos again]
            simpa [retried] using requeued
          · have final : Final worker errors error := by
              rcases requeue_false (Bool.eq_false_iff.mpr again) with kind | spent
              · exact .inl kind
              · have last : worker.maxAttempts ≤ (errors.length : Int) + 1 := spent
                exact .inr (by omega)
            simp only [View.answer, if_neg again]
            exact .deadLettered errors error all below final

/-- The rest of `_dispatch` acts on the message that is in flight. -/
theorem finish_tracked {position : Nat} {failure : Option PyError} (tracked : Tracked worker state)
    (finished : finish worker state position failure = some next) : Tracked worker next := by
  have shape : ∃ copy, state.active[position]? = some ⟨copy, true⟩ := by
    unfold finish at finished
    split at finished
    · rename_i copy taken
      exact ⟨copy, taken⟩
    · cases finished
  obtain ⟨copy, taken⟩ := shape
  have member : copy ∈ (state.view copy.id).delivering := by
    apply List.mem_filter.mpr
    exact ⟨List.mem_map.mpr ⟨_, List.mem_of_getElem? taken, rfl⟩, by simp⟩
  have known : ∃ message, state.sent.find copy.id = some message := by
    rw [← Option.ne_none_iff_exists']
    intro missing
    rw [tracked.unsent copy.id missing] at member
    cases member
  obtain ⟨message, sent⟩ := known
  have stage := tracked.sent copy.id message sent
  obtain ⟨flying, only⟩ := stage.delivering member
  have stored : state.gateway.inflight.find copy.id = some copy := by
    simpa [State.view] using flying
  obtain ⟨closed, same, own, foreign⟩ := finish_view taken stored only finished
  refine ⟨closed.trans tracked.opened, ?_, ?_⟩
  · intro id missing
    rw [same] at missing
    by_cases here : id = copy.id
    · rw [here, sent] at missing
      cases missing
    · rw [foreign id here]
      exact tracked.unsent id missing
  · intro id other found
    rw [same] at found
    by_cases here : id = copy.id
    · subst here
      rw [sent] at found
      obtain rfl := Option.some.inj found
      rw [own]
      exact stage.answer member failure
    · rw [foreign id here]
      exact tracked.sent id other found

theorem step_tracked {action : Action} (tracked : Tracked worker state)
    (stepped : step worker state action = some next) : Tracked worker next := by
  cases action with
  | send id payload => exact send_tracked tracked stepped
  | tick =>
      obtain rfl := Option.some.inj stepped
      exact tick_tracked tracked
  | start position => exact start_tracked tracked stepped
  | finish position failure => exact finish_tracked tracked stepped

end Steps

theorem run_tracked {worker : AsyncPollingWorker} {actions : List Action} {state : State}
    (reached : run (step worker) {} actions = some state) : Tracked worker state :=
  run_invariant_always (Tracked worker)
    (fun _ _ _ tracked stepped => step_tracked tracked stepped) (init_tracked worker) reached

/-- The failures of a message that was given up: the last one is the first that no redelivery can
fix, or came with the last delivery allowed. -/
def GivenUp (worker : AsyncPollingWorker) (outcomes : List (Option PyError)) : Prop :=
  ∃ (errors : List PyError) (last : PyError), outcomes = errors.map some ++ [some last] ∧
    (∀ error ∈ errors, retryable error) ∧ (errors.length : Int) + 1 ≤ worker.maxAttempts ∧
    (¬retryable last ∨ (errors.length : Int) + 1 = worker.maxAttempts)

section Readings

variable {worker : AsyncPollingWorker} {id : String} {body : Json} {view : View}

theorem Stage.place (stage : Stage worker id body view) :
    ∃ copy, view.places = [copy] ∧ copy.id = id ∧ copy.body = body ∧
      copy.receiveCount = 1 + view.requeues := by
  cases stage with
  | queued errors => exact ⟨retried id body errors, rfl, rfl, rfl, Int.add_comm _ _⟩
  | inFlight errors => exact ⟨retried id body errors, rfl, rfl, rfl, Int.add_comm _ _⟩
  | acknowledged errors => exact ⟨retried id body errors, rfl, rfl, rfl, Int.add_comm _ _⟩
  | deadLettered errors => exact ⟨retried id body errors, rfl, rfl, rfl, Int.add_comm _ _⟩

theorem Stage.deliveries_le (stage : Stage worker id body view) :
    (view.deliveries : Int) ≤ worker.maxAttempts := by
  cases stage <;> dsimp only <;> omega

theorem Stage.acknowledged_iff (stage : Stage worker id body view) :
    view.acknowledged ≠ [] ↔ none ∈ view.outcomes := by
  cases stage <;> simp

theorem Stage.deadLettered_once (stage : Stage worker id body view) (unqueued : view.queued = [])
    (landed : view.inFlight = []) (failed : none ∉ view.outcomes) :
    view.deadLettered.length = 1 := by
  cases stage with
  | queued => cases unqueued
  | inFlight => cases landed
  | acknowledged => simp at failed
  | deadLettered => rfl

/-- Failures that were all retried, with attempts left, do not give a message up. -/
theorem not_givenUp {errors : List PyError} (all : ∀ error ∈ errors, retryable error)
    (below : (errors.length : Int) < worker.maxAttempts) :
    ¬GivenUp worker (errors.map some) := by
  rintro ⟨earlier, last, shape, -, -, final⟩
  have split : errors = earlier ++ [last] := by
    apply List.map_injective_iff.mpr (Option.some_injective PyError)
    rw [shape, List.map_append, List.map_singleton]
  subst split
  rcases final with kind | spent
  · exact kind (all last (by simp))
  · rw [List.length_append, List.length_singleton] at below
    omega

theorem Stage.deadLettered_iff (stage : Stage worker id body view) :
    view.deadLettered ≠ [] ↔ GivenUp worker view.outcomes := by
  cases stage with
  | queued errors all below => simpa using not_givenUp all below
  | inFlight errors all below => simpa using not_givenUp all below
  | acknowledged errors all below =>
      simp only [ne_eq, not_true_eq_false, false_iff]
      rintro ⟨earlier, last, shape, -⟩
      have success : none ∈ earlier.map some ++ [some last] := by
        rw [← shape]
        simp
      simp at success
  | deadLettered errors last all below final =>
      simp only [ne_eq, List.cons_ne_self, not_false_eq_true, true_iff]
      exact ⟨errors, last, rfl, all, below, final⟩

end Readings

theorem deliveries_accounted (worker : AsyncPollingWorker) (actions : List Action) (state : State)
    (reached : run (step worker) {} actions = some state) (id : String) (message : QueueMessage)
    (sent : state.sent.find id = some message) :
    (∃ copy, (state.view id).places = [copy] ∧ copy.id = id ∧ copy.body = message.body ∧
      copy.receiveCount = 1 + (state.view id).requeues) ∧
    ((state.view id).deliveries : Int) ≤ worker.maxAttempts ∧
    ((state.view id).acknowledged ≠ [] ↔ none ∈ (state.view id).outcomes) ∧
    ((state.view id).queued = [] → (state.view id).inFlight = [] →
      none ∉ (state.view id).outcomes → (state.view id).deadLettered.length = 1) ∧
    ((state.view id).deadLettered ≠ [] ↔ GivenUp worker (state.view id).outcomes) := by
  have stage := (run_tracked reached).sent id message sent
  generalize state.view id = view at stage ⊢
  exact ⟨stage.place, stage.deliveries_le, stage.acknowledged_iff, stage.deadLettered_once,
    stage.deadLettered_iff⟩

/-- A message fails, is delivered again and is then found malformed. -/
def retriedThenMalformed : List Action :=
  [.send "m" .null, .tick, .start 0, .finish 0 (some ⟨[⟨"builtins", "Exception"⟩], "", none, none⟩),
    .tick, .start 0, .finish 0 (some ⟨[nonRetryableMessageErrorClass], "", none, none⟩)]

theorem retriedThenMalformed_accepted :
    (run (step {}) {} retriedThenMalformed).isSome = true := by decide +kernel

theorem default_concurrent : (0 : Int) < 10 := by decide

theorem default_attempts : (0 : Int) < 3 := by decide

def retriedThenMalformedEnd : State :=
  (run (step { positiveConcurrent := default_concurrent, positiveAttempts := default_attempts }) {}
    retriedThenMalformed).get retriedThenMalformed_accepted

theorem deliveries_accounted_malformed :
    (retriedThenMalformedEnd.view "m").deliveries = 2 ∧
      (retriedThenMalformedEnd.view "m").deadLettered.length = 1 := by
  have sent : retriedThenMalformedEnd.sent.find "m" = some { id := "m", body := .null } := rfl
  have accounted := deliveries_accounted {} retriedThenMalformed retriedThenMalformedEnd
    (Option.some_get retriedThenMalformed_accepted).symm "m" _ sent
  exact ⟨by decide +kernel, accounted.2.2.2.1 (List.length_eq_zero_iff.mp (by decide +kernel))
    (List.length_eq_zero_iff.mp (by decide +kernel)) (by decide +kernel)⟩

end AiPlatform.Queue

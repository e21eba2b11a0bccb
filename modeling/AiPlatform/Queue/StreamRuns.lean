import AiPlatform.Queue.StreamInvariant

set_option autoImplicit false

/- Deliveries, and what holds of every run of the stream queue. -/
namespace AiPlatform.Queue.RedisStream

open Machine

section Deliveries

variable {settings : Settings} {state : State}

theorem counts_append (state : State) (message : Message) (id : Nat) {next : State}
    (deliveries : next.deliveries = state.deliveries ++ [message]) :
    next.counts id =
      if message.id = id then state.counts id ++ [message.receiveCount] else state.counts id := by
  unfold State.counts
  rw [deliveries, List.filter_append, List.map_append]
  by_cases here : message.id = id
  · simp [here]
  · simp [here]

theorem upTo_succ (times : Nat) : upTo (times + 1) = upTo times ++ [(times : Int) + 1] := by
  simp [upTo, List.range_succ]

/-- One more delivery, reported with the next number. -/
theorem Counted.deliver (counted : Counted settings state) {message : Message} {next : State}
    (deliveries : next.deliveries = state.deliveries ++ [message])
    (number : message.receiveCount = state.times message.id + 1)
    (bound : message.receiveCount ≤ settings.maxDeliveries)
    (reached : message.id ≤ next.lastDeliveredId)
    (advanced : state.lastDeliveredId ≤ next.lastDeliveredId)
    (own : ∀ row, next.pending.find message.id = some row →
      row.timesDelivered = message.receiveCount + row.ahead)
    (others : ∀ id, id ≠ message.id → next.pending.find id = state.pending.find id) :
    Counted settings next := by
  have counts := fun id => counts_append state message id deliveries
  have same : ∀ id, id ≠ message.id → next.counts id = state.counts id := fun id apart => by
    rw [counts id, if_neg fun equal => apart equal.symm]
  have here : next.counts message.id = upTo (state.times message.id + 1) := by
    rw [counts, if_pos rfl, counted.counts, number, upTo_succ]
  have times : next.times message.id = state.times message.id + 1 := by
    rw [State.times, here]
    simp [upTo]
  constructor
  · intro id row found
    by_cases equal : id = message.id
    · rw [equal] at found ⊢
      rw [own row found, times, number]
      push_cast
      rfl
    · rw [others id equal] at found
      rw [State.times, same id equal]
      exact counted.counters id row found
  · intro id
    by_cases equal : id = message.id
    · rw [equal, times]
      exact here
    · rw [State.times, same id equal]
      exact counted.counts id
  · intro other member
    rw [deliveries] at member
    rcases List.mem_append.mp member with old | new
    · exact counted.bounded other old
    · rw [List.mem_singleton.mp new]
      exact bound
  · intro other member
    rw [deliveries] at member
    rcases List.mem_append.mp member with old | new
    · exact (counted.reached other old).trans advanced
    · rw [List.mem_singleton.mp new]
      exact reached

/-- A claimed message reaches its handler; the call holds the rest of the batch. -/
theorem Inv.handOver (inv : Inv settings state) {call : Nat} {message : Message}
    {messages : List Message} (returned : ∀ receive ∈ state.receives.rows, receive.call ≠ call)
    (own : HeldBy settings state.pending call (.inspecting [] (message :: messages))) :
    Inv settings (state.handOver message) ∧
      HeldBy settings (state.handOver message).pending call (.inspecting [] messages) := by
  obtain ⟨row, found, holder⟩ := own.claimed message.id List.mem_cons_self
  obtain ⟨fresh, distinct⟩ := List.nodup_cons.mp own.distinct
  obtain ⟨bound, counter⟩ := own.counted message List.mem_cons_self
  have rows := fun other => Table.find_modify state.pending message.id other
    (Pending.hold (some .handler)) (Pending.hold_id _)
  have elsewhere : ∀ other, other ≠ message.id →
      (state.handOver message).pending.find other = state.pending.find other := fun other apart =>
    (rows other).trans (if_neg apart)
  have here :
      (state.handOver message).pending.find message.id = some (row.hold (some .handler)) := by
    refine (rows message.id).trans ?_
    rw [if_pos rfl, found, Option.map_some]
  have before := inv.counted.counters message.id row found
  have number := counter row found
  have reached := inv.stored.delivered message.id (by rw [found]; rfl)
  refine ⟨⟨?_, ?_, ?_⟩, ?_⟩
  · exact inv.stored.frame rfl rfl rfl rfl rfl rfl fun other =>
      find_modify_isSome _ _ other _ (Pending.hold_id _)
  · refine inv.counted.deliver rfl ?_ bound reached (le_refl _) ?_ elsewhere
    · rw [Pending.ahead, holder] at before
      simp only at before
      omega
    · intro next stored
      rw [here] at stored
      obtain rfl := Option.some.inj stored
      simp only [Pending.hold, Pending.ahead]
      omega
  · constructor
    · intro receive member
      have held := inv.held.receives receive member
      have foreign : message.id ∉ receive.stage.outstanding := held.foreign found (by
        rw [holder]
        intro same
        exact returned receive member (Holder.receive.inj (Option.some.inj same)).symm)
      exact held.congr fun id outstanding => elsewhere id fun same => foreign (same ▸ outstanding)
    · intro handled member
      rcases Table.mem_put member with rfl | ⟨old, apart⟩
      · exact ⟨_, here, rfl⟩
      · exact (inv.held.running handled old).congr (elsewhere _ apart)
  · have rest : HeldBy settings state.pending call (.inspecting [] messages) :=
      ⟨distinct, fun id outstanding => own.claimed id (List.mem_cons_of_mem _ outstanding),
        fun _ absent => absurd absent List.not_mem_nil,
        fun other member => own.counted other (List.mem_cons_of_mem _ member)⟩
    exact rest.congr fun id outstanding => elsewhere id fun same => fresh (same ▸ outstanding)

theorem Inv.handOverAll (inv : Inv settings state) {call : Nat} {messages : List Message}
    (returned : ∀ receive ∈ state.receives.rows, receive.call ≠ call)
    (own : HeldBy settings state.pending call (.inspecting [] messages)) :
    Inv settings (messages.foldl State.handOver state) := by
  induction messages generalizing state with
  | nil => exact inv
  | cons message rest ih =>
      obtain ⟨next, held⟩ := inv.handOver returned own
      exact ih next returned held

/-- The first undelivered entry has the least undelivered id. -/
theorem Stored.first (stored : Stored state) {entry : Entry} {later : List Entry}
    (undelivered : state.undelivered = entry :: later) :
    entry ∈ state.stream.rows ∧ state.lastDeliveredId < entry.id ∧
      ∀ other ∈ later, entry.id < other.id := by
  have member : entry ∈ state.undelivered := by
    rw [undelivered]
    exact List.mem_cons_self
  obtain ⟨inside, after⟩ := List.mem_filter.mp member
  have ordered : (state.undelivered.map Entry.id).Pairwise (· < ·) :=
    stored.sorted.sublist (List.Sublist.map _ List.filter_sublist)
  rw [undelivered, List.map_cons, List.pairwise_cons] at ordered
  exact ⟨inside, of_decide_eq_true after, fun other listed =>
    ordered.1 other.id (List.mem_map_of_mem listed)⟩

theorem Stored.readEntry (stored : Stored state) {entry : Entry} {later : List Entry}
    (undelivered : state.undelivered = entry :: later) (consumer : String) (now : Int) :
    Stored (state.readEntry consumer now entry) := by
  obtain ⟨inside, after, least⟩ := stored.first undelivered
  have present : (state.stream.find entry.id).isSome := by
    rw [Table.find_mem inside]
    rfl
  have rows := fun other => Table.find_put state.pending
    ⟨entry.id, consumer, 1, now, some .handler⟩ other
  constructor
  · exact stored.generated
  · exact stored.generated entry.id (stored.known present)
  · exact stored.distinct
  · exact stored.conserved
  · exact stored.sorted
  · intro other isPending
    change ((state.pending.put _).find other).isSome at isPending
    rw [rows] at isPending
    split at isPending
    · rename_i here
      rw [here]
      exact present
    · exact stored.inStream other isPending
  · intro other isPending
    change ((state.pending.put _).find other).isSome at isPending
    rw [rows] at isPending
    split at isPending
    · rename_i here
      exact here.le
    · exact (stored.delivered other isPending).trans after.le
  · intro other inStream reached
    change ((state.pending.put _).find other).isSome
    rw [rows]
    split
    · rfl
    · rename_i apart
      apply stored.pended other inStream
      by_contra beyond
      obtain ⟨row, found⟩ := Option.isSome_iff_exists.mp inStream
      obtain ⟨listed, rfl⟩ := Table.find_some.mp found
      have waiting : row ∈ state.undelivered :=
        List.mem_filter.mpr ⟨listed, decide_eq_true (not_le.mp beyond)⟩
      rw [undelivered] at waiting
      have upper : row.id ≤ entry.id := reached
      rcases List.mem_cons.mp waiting with rfl | behind
      · exact apart rfl
      · have above := least row behind
        omega

theorem undelivered_readEntry (stored : Stored state) {entry : Entry} {later : List Entry}
    (undelivered : state.undelivered = entry :: later) (consumer : String) (now : Int) :
    (state.readEntry consumer now entry).undelivered = later := by
  obtain ⟨-, after, least⟩ := stored.first undelivered
  have twice : state.stream.rows.filter (fun other => decide (entry.id < other.id)) =
      state.undelivered.filter fun other => decide (entry.id < other.id) := by
    rw [State.undelivered, List.filter_filter]
    apply List.filter_congr
    intro other _
    by_cases above : entry.id < other.id
    · simp [above, after.trans above]
    · simp [above]
  change state.stream.rows.filter (fun other => decide (entry.id < other.id)) = later
  rw [twice, undelivered, List.filter_cons_of_neg (by simp)]
  exact List.filter_eq_self.mpr fun other listed => decide_eq_true (least other listed)

/-- The first entry after the last delivered one is read. -/
theorem Inv.readEntry (inv : Inv settings state) {entry : Entry} {later : List Entry}
    (undelivered : state.undelivered = entry :: later) (consumer : String) (now : Int) :
    Inv settings (state.readEntry consumer now entry) := by
  obtain ⟨inside, after, -⟩ := inv.stored.first undelivered
  have rows := fun other => Table.find_put state.pending
    ⟨entry.id, consumer, 1, now, some .handler⟩ other
  have elsewhere : ∀ other, other ≠ entry.id →
      (state.readEntry consumer now entry).pending.find other = state.pending.find other :=
    fun other apart => (rows other).trans (if_neg apart)
  have here : (state.readEntry consumer now entry).pending.find entry.id =
      some ⟨entry.id, consumer, 1, now, some .handler⟩ := (rows entry.id).trans (if_pos rfl)
  have absent : ∀ row, state.pending.find entry.id ≠ some row := by
    intro row found
    have bound := inv.stored.delivered entry.id (by rw [found]; rfl)
    omega
  have unseen : state.times entry.id = 0 := by
    have none : state.deliveries.filter (fun message => decide (message.id = entry.id)) = [] := by
      apply List.filter_eq_nil_iff.mpr
      intro message member
      have bound := inv.counted.reached message member
      simp only [decide_eq_true_eq]
      omega
    rw [State.times, State.counts, none]
    rfl
  have positive := settings.positiveDeliveries
  refine ⟨inv.stored.readEntry undelivered consumer now, ?_, ?_⟩
  · refine inv.counted.deliver rfl ?_ ?_ (le_refl _) after.le ?_ elsewhere
    · simp only [unseen]
      rfl
    · change (1 : Int) ≤ settings.maxDeliveries
      omega
    · intro row found
      change (state.readEntry consumer now entry).pending.find entry.id = some row at found
      rw [here] at found
      obtain rfl := Option.some.inj found
      rfl
  · constructor
    · intro receive member
      have held := inv.held.receives receive member
      refine held.congr fun id outstanding => elsewhere id fun same => ?_
      obtain ⟨row, found, -⟩ := held.claimed id outstanding
      exact absent row (same ▸ found)
    · intro handled member
      rcases Table.mem_put member with rfl | ⟨old, apart⟩
      · exact ⟨_, here, rfl⟩
      · exact (inv.held.running handled old).congr (elsewhere _ apart)

theorem Inv.readAll (inv : Inv settings state) (consumer : String) (now : Int) (size : Nat) :
    Inv settings ((state.undelivered.take size).foldl
      (fun state entry => state.readEntry consumer now entry) state) := by
  induction size generalizing state with
  | zero => exact inv
  | succ size ih =>
      cases undelivered : state.undelivered with
      | nil => exact inv
      | cons entry later =>
          rw [List.take_succ_cons, List.foldl_cons]
          have tail := ih (inv.readEntry undelivered consumer now)
          rw [undelivered_readEntry inv.stored undelivered] at tail
          exact tail

theorem handOver_foldl (state : State) (messages : List Message) :
    (messages.foldl State.handOver state).undelivered = state.undelivered ∧
      (messages.foldl State.handOver state).deliveries = state.deliveries ++ messages ∧
      (messages.foldl State.handOver state).acknowledged = state.acknowledged ∧
      (messages.foldl State.handOver state).dead = state.dead := by
  induction messages generalizing state with
  | nil => exact ⟨rfl, (List.append_nil _).symm, rfl, rfl⟩
  | cons message rest ih =>
      have tail := ih (state.handOver message)
      refine ⟨tail.1, ?_, tail.2.2⟩
      rw [List.foldl_cons, tail.2.1]
      exact List.append_assoc ..

theorem readEntry_foldl (state : State) (consumer : String) (now : Int) (entries : List Entry) :
    let next := entries.foldl (fun state entry => state.readEntry consumer now entry) state
    next.deliveries = state.deliveries ++ entries.map (fun entry => ⟨entry.id, entry.body, 1⟩) ∧
      next.acknowledged = state.acknowledged ∧ next.dead = state.dead := by
  induction entries generalizing state with
  | nil => exact ⟨(List.append_nil _).symm, rfl, rfl⟩
  | cons entry rest ih =>
      have tail := ih (state.readEntry consumer now entry)
      refine ⟨?_, tail.2⟩
      refine tail.1.trans ?_
      exact List.append_assoc ..

theorem Inv.readGroup (inv : Inv settings state) {receive : Receive} {messages : List Message}
    (member : receive ∈ state.receives.rows) (stage : receive.stage = .inspecting [] messages)
    (now : Int) : Inv settings (readGroup state receive messages now) := by
  have own := inv.held.receives receive member
  rw [stage] at own
  let returned : State := { state with receives := state.receives.remove receive.call }
  have start : Inv settings returned := by
    refine ⟨inv.stored.frame rfl rfl rfl rfl rfl rfl fun _ => rfl,
      inv.counted.frame rfl rfl fun _ row found => ⟨row, found, rfl⟩, ?_, inv.held.running⟩
    intro other inside
    exact inv.held.receives other (Table.mem_remove.mp inside).1
  have handed := start.handOverAll (fun other inside => (Table.mem_remove.mp inside).2) own
  have same : (messages.foldl State.handOver returned).undelivered = state.undelivered :=
    (handOver_foldl returned messages).1
  unfold RedisStream.readGroup
  dsimp only
  split
  · rw [← same]
    exact handed.readAll receive.consumer now _
  · exact handed

/-- What the end of a `receive` delivers: what it has claimed and entries not delivered before. -/
theorem readGroup_deliveries (state : State) (receive : Receive) (messages : List Message)
    (now : Int) : ∃ entries : List Entry, (∀ entry ∈ entries, entry ∈ state.stream.rows) ∧
      (readGroup state receive messages now).deliveries = state.deliveries ++ messages ++
        entries.map (fun entry => ⟨entry.id, entry.body, 1⟩) ∧
      (readGroup state receive messages now).acknowledged = state.acknowledged ∧
      (readGroup state receive messages now).dead = state.dead := by
  have handed :=
    handOver_foldl { state with receives := state.receives.remove receive.call } messages
  unfold RedisStream.readGroup
  dsimp only
  refine ⟨if 0 < receive.maxMessages - messages.length then
    state.undelivered.take (receive.maxMessages - messages.length).toNat else [], ?_, ?_⟩
  · intro entry listed
    split at listed
    · exact (List.mem_filter.mp (List.mem_of_mem_take listed)).1
    · cases listed
  · obtain ⟨deliveries, acknowledged, dead⟩ := readEntry_foldl
      (messages.foldl State.handOver { state with receives := state.receives.remove receive.call })
      receive.consumer now (if 0 < receive.maxMessages - messages.length then
        state.undelivered.take (receive.maxMessages - messages.length).toNat else [])
    refine ⟨?_, acknowledged.trans handed.2.2.1, dead.trans handed.2.2.2⟩
    rw [deliveries, handed.2.1]

end Deliveries

section Runs

variable {settings : Settings} {state next : State} {id : Nat}

/-- Everything a step can do. -/
inductive Effect (settings : Settings) (state : State) : State → Prop
  | send (id : Nat) (payload : Json) (stream : Table Entry.id) (fresh : state.lastGeneratedId < id)
      (inserted : state.stream.insert ⟨id, payload⟩ = some stream) :
      Effect settings state
        { state with stream := stream, lastGeneratedId := id, sent := state.sent ++ [id] }
  | receive (call : Nat) (consumer : String) (maxMessages : Int) (receives : Table Receive.call)
      (inserted : state.receives.insert ⟨call, consumer, maxMessages, .claiming⟩ = some receives) :
      Effect settings state { state with receives := receives }
  | autoclaim (receive : Receive) (ids : List Nat) (now : Int) (distinct : ids.Nodup)
      (eligible : ∀ id ∈ ids, state.claimable settings now id = true) :
      Effect settings state
        ((ids.foldl (fun state id => state.claimOne receive now id) state).setStage
        receive (.inspecting (ids.map state.claimed) []))
  | inspect (receive : Receive) (next : State) (member : receive ∈ state.receives.rows)
      (inspected : inspect settings state receive = some next) : Effect settings state next
  | deadLetter (receive : Receive) (message : Message) (entries : List Claimed)
      (messages : List Message) (member : receive ∈ state.receives.rows)
      (stage : receive.stage = .deadLettering message entries messages) :
      Effect settings state ((state.deadLettered message.id message.body "max_deliveries"
        (some message.receiveCount)).setStage receive (.inspecting entries messages))
  | readGroup (receive : Receive) (messages : List Message) (now : Int)
      (member : receive ∈ state.receives.rows) (stage : receive.stage = .inspecting [] messages) :
      Effect settings state (readGroup state receive messages now)
  | ack (id : Nat) (message : Message) (running : state.running.find id = some message) :
      Effect settings state { state.settle id with
        running := state.running.remove id
        acknowledged := state.acknowledged ++ [id] }
  | reject (id : Nat) (message : Message) (running : state.running.find id = some message) :
      Effect settings state (State.deadLettered { state with running := state.running.remove id }
        message.id message.body "rejected" none)
  | release (id : Nat) (message : Message) (running : state.running.find id = some message)
      (change : Pending → Pending) (keeps : ∀ row, (change row).id = row.id)
      (counter : ∀ row, (change row).timesDelivered = row.timesDelivered)
      (free : ∀ row, (change row).holder = none) :
      Effect settings state { state with
        running := state.running.remove id
        pending := state.pending.modify id change keeps }

theorem step_effect {action : Action} (stepped : step settings state action = some next) :
    Effect settings state next := by
  cases action with
  | send id payload =>
      simp only [step] at stepped
      split at stepped
      · rename_i fresh
        obtain ⟨stream, inserted, rfl⟩ := Option.map_eq_some_iff.mp stepped
        exact .send id payload stream fresh inserted
      · cases stepped
  | receive call consumer maxMessages =>
      obtain ⟨receives, inserted, rfl⟩ := Option.map_eq_some_iff.mp stepped
      exact .receive call consumer maxMessages receives inserted
  | autoclaim call now ids =>
      obtain ⟨receive, -, rest⟩ := Option.bind_eq_some_iff.mp stepped
      split at rest
      · split at rest
        · rename_i conditions
          obtain rfl := Option.some.inj rest
          exact .autoclaim receive ids now conditions.1 conditions.2.2
        · cases rest
      · cases rest
      · cases rest
  | inspect call =>
      obtain ⟨receive, found, rest⟩ := Option.bind_eq_some_iff.mp stepped
      exact .inspect receive next (Table.find_some.mp found).1 rest
  | deadLetter call =>
      obtain ⟨receive, found, rest⟩ := Option.bind_eq_some_iff.mp stepped
      split at rest
      · rename_i message entries messages stage
        obtain rfl := Option.some.inj rest
        exact .deadLetter receive message entries messages (Table.find_some.mp found).1 stage
      · cases rest
      · cases rest
  | readGroup call now =>
      obtain ⟨receive, found, rest⟩ := Option.bind_eq_some_iff.mp stepped
      split at rest
      · rename_i messages stage
        obtain rfl := Option.some.inj rest
        exact .readGroup receive messages now (Table.find_some.mp found).1 stage
      · cases rest
      · cases rest
      · cases rest
  | ack id =>
      obtain ⟨message, running, rest⟩ := Option.bind_eq_some_iff.mp stepped
      obtain rfl := Option.some.inj rest
      exact .ack id message running
  | nack id requeue consumer now =>
      obtain ⟨message, running, rest⟩ := Option.bind_eq_some_iff.mp stepped
      cases requeue with
      | true =>
          obtain rfl := Option.some.inj rest
          exact .release id message running _ (Pending.requeue_id _ _) (fun _ => rfl) fun _ => rfl
      | false =>
          obtain rfl := Option.some.inj rest
          exact .reject id message running
  | crash id =>
      obtain ⟨message, running, rest⟩ := Option.bind_eq_some_iff.mp stepped
      obtain rfl := Option.some.inj rest
      exact .release id message running _ (Pending.hold_id _) (fun _ => rfl) fun _ => rfl

theorem Inv.effect (inv : Inv settings state) (effect : Effect settings state next) :
    Inv settings next := by
  cases effect with
  | send id payload stream fresh inserted => exact inv.send fresh inserted
  | receive call consumer maxMessages receives inserted => exact inv.receive inserted
  | autoclaim receive ids now distinct eligible => exact inv.autoclaim distinct eligible
  | inspect receive _ member inspected => exact inv.inspect member inspected
  | deadLetter receive message entries messages member stage => exact inv.deadLetter member stage
  | readGroup receive messages now member stage => exact inv.readGroup member stage now
  | ack id message running => exact inv.ack running
  | reject id message running => exact inv.reject running
  | release id message running change keeps counter free => exact inv.release running counter free

theorem init_inv (settings : Settings) : Inv settings {} where
  stored :=
    { generated := nofun
      order := le_refl 0
      distinct := List.nodup_nil
      conserved := fun _ => rfl
      sorted := List.Pairwise.nil
      inStream := nofun
      delivered := nofun
      pended := nofun }
  counted := ⟨nofun, fun _ => rfl, nofun, nofun⟩
  held := ⟨nofun, nofun⟩

theorem run_inv {actions : List Action} (reached : run (step settings) {} actions = some state) :
    Inv settings state :=
  run_invariant_always (Inv settings) (fun _ _ _ inv stepped => inv.effect (step_effect stepped))
    (init_inv settings) reached

/-- How often an entry is found: undelivered, pending, acknowledged and deleted, or
dead-lettered. -/
def State.places (state : State) (id : Nat) : Nat :=
  (state.undelivered.map Entry.id).count id + (if (state.pending.find id).isSome then 1 else 0) +
    state.acknowledged.count id + state.deadIds.count id

/-- The stream holds the undelivered entries and the pending ones. -/
theorem Stored.present_eq (stored : Stored state) (id : Nat) :
    state.present id =
      (state.undelivered.map Entry.id).count id +
        if (state.pending.find id).isSome then 1 else 0 := by
  have distinct : (state.undelivered.map Entry.id).Nodup :=
    state.stream.unique.sublist (List.Sublist.map _ List.filter_sublist)
  have listed : id ∈ state.undelivered.map Entry.id ↔
      (state.stream.find id).isSome ∧ state.lastDeliveredId < id := by
    constructor
    · intro member
      obtain ⟨entry, inside, rfl⟩ := List.mem_map.mp member
      obtain ⟨stored, after⟩ := List.mem_filter.mp inside
      exact ⟨by rw [Table.find_mem stored]; rfl, of_decide_eq_true after⟩
    · rintro ⟨inStream, after⟩
      obtain ⟨entry, found⟩ := Option.isSome_iff_exists.mp inStream
      obtain ⟨inside, rfl⟩ := Table.find_some.mp found
      exact List.mem_map_of_mem (List.mem_filter.mpr ⟨inside, decide_eq_true after⟩)
  have inStream := stored.inStream id
  have delivered := stored.delivered id
  have pended := stored.pended id
  unfold State.present
  by_cases waiting : id ∈ state.undelivered.map Entry.id
  · rw [List.count_eq_one_of_mem distinct waiting, if_pos (listed.mp waiting).1, if_neg]
    intro isPending
    have after := (listed.mp waiting).2
    have before := delivered isPending
    omega
  · rw [List.count_eq_zero.mpr waiting, zero_add]
    congr 1
    apply propext
    constructor
    · intro present
      apply pended present
      by_contra beyond
      exact waiting (listed.mpr ⟨present, not_le.mp beyond⟩)
    · exact inStream

theorem Inv.places (inv : Inv settings state) (sent : id ∈ state.sent) : state.places id = 1 := by
  have count := inv.stored.conserved id
  rw [List.count_eq_one_of_mem inv.stored.distinct sent, inv.stored.present_eq] at count
  unfold State.places
  omega

/-- An entry that has left the queue. -/
def State.Settled (state : State) (id : Nat) : Prop := id ∈ state.acknowledged ∨ id ∈ state.deadIds

theorem Stored.absent (stored : Stored state) (settled : state.Settled id) :
    (state.stream.find id).isSome = false := by
  have count := stored.conserved id
  have once := List.nodup_iff_count_le_one.mp stored.distinct id
  unfold State.present at count
  by_contra present
  rw [if_pos (Bool.of_not_eq_false present)] at count
  rcases settled with acknowledged | dead
  · have positive := List.count_pos_iff.mpr acknowledged
    omega
  · have positive := List.count_pos_iff.mpr dead
    omega

theorem inspect_frame {receive : Receive} (inspected : inspect settings state receive = some next) :
    next.acknowledged = state.acknowledged ∧ next.dead = state.dead ∧
      next.deliveries = state.deliveries := by
  unfold RedisStream.inspect at inspected
  split at inspected
  · split at inspected
    · obtain rfl := Option.some.inj inspected
      exact ⟨rfl, rfl, rfl⟩
    · dsimp only at inspected
      split at inspected
      · obtain rfl := Option.some.inj inspected
        exact ⟨rfl, rfl, rfl⟩
      · obtain rfl := Option.some.inj inspected
        exact ⟨rfl, rfl, rfl⟩
  · cases inspected
  · cases inspected
  · cases inspected

theorem mem_deadIds_snoc {letter : DeadLetter} {before after : State}
    (dead : after.dead = before.dead ++ [letter]) (member : id ∈ before.deadIds) :
    id ∈ after.deadIds := by
  rw [State.deadIds, dead, List.map_append]
  exact List.mem_append_left _ member

/-- The end of a `receive` delivers no settled entry. -/
theorem Inv.readGroup_settled (inv : Inv settings state) {receive : Receive}
    {messages : List Message}
    (member : receive ∈ state.receives.rows) (stage : receive.stage = .inspecting [] messages)
    (now : Int) (settled : state.Settled id) :
    (RedisStream.readGroup state receive messages now).Settled id ∧
      (RedisStream.readGroup state receive messages now).counts id = state.counts id := by
  have own := inv.held.receives receive member
  rw [stage] at own
  have absent := inv.stored.absent settled
  obtain ⟨entries, listed, deliveries, acknowledged, dead⟩ :=
    readGroup_deliveries state receive messages now
  constructor
  · unfold State.Settled State.deadIds
    rw [acknowledged, dead]
    exact settled
  · have claimed : messages.filter (fun message => decide (message.id = id)) = [] := by
      apply List.filter_eq_nil_iff.mpr
      intro message inside
      obtain ⟨row, found, -⟩ := own.claimed message.id (List.mem_map_of_mem inside)
      have inStream := inv.stored.inStream message.id (by rw [found]; rfl)
      simp only [decide_eq_true_eq]
      rintro rfl
      exact Bool.noConfusion (absent.symm.trans inStream)
    have read : (entries.map fun entry => (⟨entry.id, entry.body, 1⟩ : Message)).filter
        (fun message => decide (message.id = id)) = [] := by
      apply List.filter_eq_nil_iff.mpr
      intro message inside
      obtain ⟨entry, member, rfl⟩ := List.mem_map.mp inside
      simp only [decide_eq_true_eq]
      rintro rfl
      rw [Table.find_mem (listed entry member)] at absent
      cases absent
    unfold State.counts
    rw [deliveries, List.filter_append, List.filter_append, claimed, read, List.append_nil,
      List.append_nil]

/-- A settled entry is neither delivered nor forgotten. -/
theorem Inv.settled_effect (inv : Inv settings state) (effect : Effect settings state next)
    (settled : state.Settled id) : next.Settled id ∧ next.counts id = state.counts id := by
  cases effect with
  | send other payload stream fresh inserted => exact ⟨settled, rfl⟩
  | receive call consumer maxMessages receives inserted => exact ⟨settled, rfl⟩
  | autoclaim receive ids now distinct eligible =>
      rw [claimOne_foldl]
      exact ⟨settled, rfl⟩
  | inspect receive _ member inspected =>
      obtain ⟨acknowledged, dead, deliveries⟩ := inspect_frame inspected
      unfold State.Settled State.deadIds State.counts
      rw [acknowledged, dead, deliveries]
      exact ⟨settled, rfl⟩
  | deadLetter receive message entries messages member stage =>
      exact ⟨settled.imp (fun acknowledged => acknowledged) (mem_deadIds_snoc rfl), rfl⟩
  | readGroup receive messages now member stage =>
      exact inv.readGroup_settled member stage now settled
  | ack other message running =>
      exact ⟨settled.imp (List.mem_append_left _) (fun dead => dead), rfl⟩
  | reject other message running =>
      exact ⟨settled.imp (fun acknowledged => acknowledged) (mem_deadIds_snoc rfl), rfl⟩
  | release other message running change keeps counter free => exact ⟨settled, rfl⟩

theorem run_settled {actions : List Action} {final : State} (inv : Inv settings state)
    (reached : run (step settings) state actions = some final) (settled : state.Settled id) :
    final.counts id = state.counts id := by
  induction actions generalizing state with
  | nil =>
      obtain rfl := Option.some.inj reached
      rfl
  | cons action rest ih =>
      obtain ⟨next, stepped, onward⟩ := run_cons_some.mp reached
      obtain ⟨later, same⟩ := inv.settled_effect (step_effect stepped) settled
      rw [ih (inv.effect (step_effect stepped)) onward later, same]

/-- Over every run of any number of consumers, each sent entry is in one place, its deliveries are
reported as 1, 2, 3, … up to the maximum, and an entry that has left the queue is not delivered
again. -/
theorem stream_queue_conserves (settings : Settings) {actions : List Action} {final : State}
    (reached : run (step settings) {} actions = some final) :
    (∀ id ∈ final.sent, final.places id = 1) ∧
      (∀ id, final.counts id = upTo (final.times id)) ∧
      (∀ message ∈ final.deliveries, message.receiveCount ≤ settings.maxDeliveries) ∧
      ∀ before after middle, actions = before ++ after →
        run (step settings) {} before = some middle → ∀ id, middle.Settled id →
          final.counts id = middle.counts id := by
  have inv := run_inv reached
  refine ⟨fun id sent => inv.places sent, inv.counted.counts, inv.counted.bounded, ?_⟩
  intro before after middle split arrived id settled
  rw [split] at reached
  obtain ⟨other, first, second⟩ := run_append_some.mp reached
  obtain rfl := Option.some.inj (arrived.symm.trans first)
  exact run_settled (run_inv arrived) second settled

/-- A consumer crashes on its first delivery; another one reclaims the entry, requeues it, and the
third delivery is over the maximum. -/
def crashAndRetry : List Action :=
  [.send 1 (.obj []), .send 2 (.obj []), .receive 0 "first" 1, .autoclaim 0 0 [],
    .readGroup 0 0, .crash 1,
    .receive 0 "second" 2, .autoclaim 0 60000 [1], .inspect 0, .readGroup 0 60000, .ack 2,
    .nack 1 true "second" 60001, .receive 0 "first" 1, .autoclaim 0 60001 [1], .inspect 0,
    .deadLetter 0, .readGroup 0 60001]

theorem crashAndRetry_accepted :
    (run (step { maxDeliveries := 2 }) {} crashAndRetry).isSome = true := by
  decide +kernel

theorem stream_queue_conserves_crashAndRetry :
    let final := (run (step { maxDeliveries := 2 }) {} crashAndRetry).get crashAndRetry_accepted
    (∀ id ∈ final.sent, final.places id = 1) ∧ final.counts 1 = upTo 2 ∧
      final.counts 2 = upTo 1 := by
  have facts := stream_queue_conserves { maxDeliveries := 2 }
    (Option.some_get crashAndRetry_accepted).symm
  exact ⟨facts.1, by decide +kernel, by decide +kernel⟩

end Runs

end AiPlatform.Queue.RedisStream

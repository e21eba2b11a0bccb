import AiPlatform.Queue.RedisStream

set_option autoImplicit false

/- What holds of the stream queue between any two commands. The counter of a pending entry is the
number of its deliveries, plus one while a `receive` has claimed it and not returned it. -/
namespace AiPlatform.Queue.RedisStream

/-- Ids of the entries a `receive` has claimed and still has to inspect or to return. -/
def Stage.outstanding : Stage → List Nat
  | .claiming => []
  | .inspecting entries messages => entries.map Claimed.id ++ messages.map Message.id
  | .deadLettering message entries messages =>
      message.id :: (entries.map Claimed.id ++ messages.map Message.id)

def Stage.entries : Stage → List Claimed
  | .claiming => []
  | .inspecting entries _ => entries
  | .deadLettering _ entries _ => entries

def Stage.messages : Stage → List Message
  | .claiming => []
  | .inspecting _ messages => messages
  | .deadLettering _ _ messages => messages

namespace State

variable (state : State)

/-- The receive counts reported for an entry, in order. -/
def counts (id : Nat) : List Int :=
  (state.deliveries.filter fun message => message.id = id).map Message.receiveCount

def times (id : Nat) : Nat := (state.counts id).length

/-- Times an entry is in the stream. -/
def present (id : Nat) : Nat := if (state.stream.find id).isSome then 1 else 0

def deadIds : List Nat := state.dead.map DeadLetter.originalMessageId

end State

/-- One for an entry that a `receive` has claimed. -/
def Pending.ahead (row : Pending) : Int :=
  match row.holder with
  | some (.receive _) => 1
  | some .handler => 0
  | none => 0

/-- 1, 2, 3, … -/
def upTo (times : Nat) : List Int := (List.range times).map fun index => (index : Int) + 1

/-- Where the entries are. -/
structure Stored (state : State) : Prop where
  generated : ∀ id ∈ state.sent, id ≤ state.lastGeneratedId
  order : state.lastDeliveredId ≤ state.lastGeneratedId
  distinct : state.sent.Nodup
  conserved : ∀ id, state.sent.count id =
    state.present id + state.acknowledged.count id + state.deadIds.count id
  sorted : (state.stream.rows.map Entry.id).Pairwise (· < ·)
  inStream : ∀ id, (state.pending.find id).isSome → (state.stream.find id).isSome
  delivered : ∀ id, (state.pending.find id).isSome → id ≤ state.lastDeliveredId
  pended : ∀ id, (state.stream.find id).isSome → id ≤ state.lastDeliveredId →
    (state.pending.find id).isSome

/-- How often they were delivered. -/
structure Counted (settings : Settings) (state : State) : Prop where
  counters : ∀ id row, state.pending.find id = some row →
    row.timesDelivered = state.times id + row.ahead
  counts : ∀ id, state.counts id = upTo (state.times id)
  bounded : ∀ message ∈ state.deliveries, message.receiveCount ≤ settings.maxDeliveries
  reached : ∀ message ∈ state.deliveries, message.id ≤ state.lastDeliveredId

/-- What a `receive` in progress holds. -/
structure HeldBy (settings : Settings) (pending : Table Pending.id) (call : Nat) (stage : Stage) :
    Prop where
  distinct : stage.outstanding.Nodup
  claimed : ∀ id ∈ stage.outstanding, ∃ row, pending.find id = some row ∧
    row.holder = some (.receive call)
  fields : ∀ entry ∈ stage.entries, entry.fields.isSome
  counted : ∀ message ∈ stage.messages, message.receiveCount ≤ settings.maxDeliveries ∧
    ∀ row, pending.find message.id = some row → row.timesDelivered = message.receiveCount

/-- What a handler in progress holds. -/
def Handled (pending : Table Pending.id) (message : Message) : Prop :=
  ∃ row, pending.find message.id = some row ∧ row.holder = some .handler

structure Held (settings : Settings) (state : State) : Prop where
  receives : ∀ receive ∈ state.receives.rows,
    HeldBy settings state.pending receive.call receive.stage
  running : ∀ message ∈ state.running.rows, Handled state.pending message

structure Inv (settings : Settings) (state : State) : Prop where
  stored : Stored state
  counted : Counted settings state
  held : Held settings state

section Frames

variable {settings : Settings} {state : State} {pending next : Table Pending.id} {call : Nat}
variable {stage : Stage} {message : Message} {id : Nat} {row : Pending}

theorem Stage.message_outstanding (stage : Stage) {message : Message}
    (member : message ∈ stage.messages) :
    message.id ∈ stage.outstanding := by
  cases stage with
  | claiming => cases member
  | inspecting entries messages =>
      exact List.mem_append_right _ (List.mem_map_of_mem member)
  | deadLettering first entries messages =>
      exact List.mem_cons_of_mem _ (List.mem_append_right _ (List.mem_map_of_mem member))

theorem HeldBy.congr (held : HeldBy settings pending call stage)
    (same : ∀ id ∈ stage.outstanding, next.find id = pending.find id) :
    HeldBy settings next call stage where
  distinct := held.distinct
  claimed := by
    intro id member
    rw [same id member]
    exact held.claimed id member
  fields := held.fields
  counted := by
    intro message member
    rw [same message.id (stage.message_outstanding member)]
    exact held.counted message member

/-- A row held by someone else is not outstanding. -/
theorem HeldBy.foreign (held : HeldBy settings pending call stage)
    (found : pending.find id = some row)
    (other : row.holder ≠ some (.receive call)) : id ∉ stage.outstanding := by
  intro member
  obtain ⟨own, stored, holder⟩ := held.claimed id member
  rw [found] at stored
  obtain rfl := Option.some.inj stored
  exact other holder

theorem Handled.foreign (handled : Handled pending message) (found : pending.find id = some row)
    (other : row.holder ≠ some .handler) : message.id ≠ id := by
  intro same
  obtain ⟨own, stored, holder⟩ := handled
  rw [same, found] at stored
  obtain rfl := Option.some.inj stored
  exact other holder

theorem Handled.congr (handled : Handled pending message)
    (same : next.find message.id = pending.find message.id) : Handled next message := by
  unfold Handled
  rw [same]
  exact handled

/-- A stage change of one call. -/
theorem Held.setStage {receive : Receive} (held : Held settings state)
    (own : HeldBy settings state.pending receive.call stage) :
    Held settings (state.setStage receive stage) where
  receives := by
    intro other member
    rcases Table.mem_put member with rfl | ⟨old, -⟩
    · exact own
    · exact held.receives other old
  running := held.running

/-- The pending rows may change, not which entries are pending. -/
theorem Stored.frame (stored : Stored state) {next : State} (stream : next.stream = state.stream)
    (generated : next.lastGeneratedId = state.lastGeneratedId)
    (delivered : next.lastDeliveredId = state.lastDeliveredId) (dead : next.dead = state.dead)
    (sent : next.sent = state.sent) (acknowledged : next.acknowledged = state.acknowledged)
    (pending : ∀ id, (next.pending.find id).isSome = (state.pending.find id).isSome) :
    Stored next where
  generated := by
    rw [sent, generated]
    exact stored.generated
  order := by
    rw [delivered, generated]
    exact stored.order
  distinct := by
    rw [sent]
    exact stored.distinct
  conserved := by
    intro id
    simp only [State.present, State.deadIds, sent, stream, acknowledged, dead]
    exact stored.conserved id
  sorted := by
    rw [stream]
    exact stored.sorted
  inStream := by
    intro id isPending
    rw [pending id] at isPending
    rw [stream]
    exact stored.inStream id isPending
  delivered := by
    intro id isPending
    rw [pending id] at isPending
    rw [delivered]
    exact stored.delivered id isPending
  pended := by
    intro id inStream reached
    rw [stream] at inStream
    rw [delivered] at reached
    rw [pending id]
    exact stored.pended id inStream reached

/-- Without a delivery the counters may move only together with the claims. -/
theorem Counted.frame (counted : Counted settings state) {next : State}
    (deliveries : next.deliveries = state.deliveries)
    (delivered : next.lastDeliveredId = state.lastDeliveredId)
    (pending : ∀ id row, next.pending.find id = some row → ∃ old, state.pending.find id = some old ∧
      row.timesDelivered - row.ahead = old.timesDelivered - old.ahead) :
    Counted settings next where
  counters := by
    intro id row found
    obtain ⟨old, stored, same⟩ := pending id row found
    have before := counted.counters id old stored
    simp only [State.times, State.counts, deliveries] at before ⊢
    omega
  counts := by
    intro id
    have before := counted.counts id
    simp only [State.times, State.counts, deliveries] at before ⊢
    exact before
  bounded := by
    rw [deliveries]
    exact counted.bounded
  reached := by
    rw [deliveries, delivered]
    exact counted.reached

theorem find_modify_isSome (pending : Table Pending.id) (id other : Nat)
    (change : Pending → Pending)
    (keeps : ∀ row, (change row).id = row.id) :
    ((pending.modify id change keeps).find other).isSome = (pending.find other).isSome := by
  rw [Table.find_modify]
  split
  · exact Option.isSome_map
  · rfl

/-- A row that changes hands, its counter along with its claim. -/
theorem modify_counters {change : Pending → Pending} (keeps : ∀ row, (change row).id = row.id)
    (moved : ∀ row, pending.find id = some row →
      (change row).timesDelivered - (change row).ahead = row.timesDelivered - row.ahead) :
    ∀ other row, (pending.modify id change keeps).find other = some row →
      ∃ old, pending.find other = some old ∧
        row.timesDelivered - row.ahead = old.timesDelivered - old.ahead := by
  intro other row found
  rw [Table.find_modify] at found
  split at found
  · rename_i here
    obtain ⟨old, stored, rfl⟩ := Option.map_eq_some_iff.mp found
    exact ⟨old, stored, moved old (here ▸ stored)⟩
  · exact ⟨row, found, rfl⟩

/-- An entry leaves the queue. -/
theorem Stored.settle (stored : Stored state)
    (isPending : (state.pending.find id).isSome) {next : State}
    (stream : next.stream = state.stream.remove id)
    (pending : next.pending = state.pending.remove id)
    (generated : next.lastGeneratedId = state.lastGeneratedId)
    (delivered : next.lastDeliveredId = state.lastDeliveredId) (sent : next.sent = state.sent)
    (recorded : ∀ other, next.acknowledged.count other + next.deadIds.count other =
      state.acknowledged.count other + state.deadIds.count other + if other = id then 1 else 0) :
    Stored next where
  generated := by
    rw [sent, generated]
    exact stored.generated
  order := by
    rw [delivered, generated]
    exact stored.order
  distinct := by
    rw [sent]
    exact stored.distinct
  conserved := by
    intro other
    have before := stored.conserved other
    have record := recorded other
    simp only [State.present, stream, sent, Table.find_remove] at before ⊢
    by_cases here : other = id
    · rw [here, if_pos (stored.inStream id isPending)] at before
      rw [if_pos here] at record
      simp only [here, if_true, Option.isSome_none, Bool.false_eq_true, if_false] at record ⊢
      omega
    · rw [if_neg here] at record ⊢
      omega
  sorted := by
    rw [stream]
    exact stored.sorted.sublist (List.Sublist.map _ List.filter_sublist)
  inStream := by
    intro other isSome
    rw [pending, Table.find_remove] at isSome
    rw [stream, Table.find_remove]
    split at isSome
    · cases isSome
    · rename_i apart
      rw [if_neg apart]
      exact stored.inStream other isSome
  delivered := by
    intro other isSome
    rw [pending, Table.find_remove] at isSome
    rw [delivered]
    split at isSome
    · cases isSome
    · exact stored.delivered other isSome
  pended := by
    intro other inStream reached
    rw [stream, Table.find_remove] at inStream
    rw [delivered] at reached
    rw [pending, Table.find_remove]
    split at inStream
    · cases inStream
    · rename_i apart
      rw [if_neg apart]
      exact stored.pended other inStream reached

theorem find_removed (pending : Table Pending.id) (id other : Nat) (apart : other ≠ id) :
    (pending.remove id).find other = pending.find other := by
  rw [Table.find_remove, if_neg apart]

theorem remove_counters (pending : Table Pending.id) (id : Nat) :
    ∀ other row, (pending.remove id).find other = some row →
      ∃ old, pending.find other = some old ∧
        row.timesDelivered - row.ahead = old.timesDelivered - old.ahead := by
  intro other row found
  rw [Table.find_remove] at found
  split at found
  · cases found
  · exact ⟨row, found, rfl⟩

/-- Rows that were held by nobody else may change or leave. -/
theorem Held.frame (held : Held settings state) {holder : Option Holder} {next : State}
    (found : state.pending.find id = some row) (holds : row.holder = holder)
    (receives : next.receives = state.receives)
    (pending : ∀ other, other ≠ id → next.pending.find other = state.pending.find other)
    (notReceive : ∀ call, holder ≠ some (.receive call))
    (running : ∀ message ∈ next.running.rows, message ∈ state.running.rows ∧ message.id ≠ id) :
    Held settings next where
  receives := by
    intro receive member
    rw [receives] at member
    have before := held.receives receive member
    have apart := before.foreign found (holds ▸ notReceive receive.call)
    exact before.congr fun other outstanding => pending other fun same => apart (same ▸ outstanding)
  running := by
    intro message member
    obtain ⟨old, apart⟩ := running message member
    exact (held.running message old).congr (pending message.id apart)

end Frames

section Steps

variable {settings : Settings} {state : State} {id : Nat}

theorem Stored.unsent (stored : Stored state)
    (fresh : state.lastGeneratedId < id) : id ∉ state.sent := by
  intro member
  have bound := stored.generated id member
  omega

/-- Every entry in the stream was sent. -/
theorem Stored.known (stored : Stored state) (inStream : (state.stream.find id).isSome) :
    id ∈ state.sent := by
  have count := stored.conserved id
  rw [State.present, if_pos inStream] at count
  apply List.count_pos_iff.mp
  omega

theorem Inv.send (inv : Inv settings state) {payload : Json} {stream : Table Entry.id}
    (fresh : state.lastGeneratedId < id)
    (inserted : state.stream.insert ⟨id, payload⟩ = some stream) :
    Inv settings
      { state with stream := stream, lastGeneratedId := id, sent := state.sent ++ [id] } where
  stored := by
    have stored := inv.stored
    have order := stored.order
    have unsent := stored.unsent fresh
    obtain ⟨absent, rows⟩ := Table.insert_some.mp inserted
    have found := Table.find_insert inserted
    constructor
    · intro other member
      rcases List.mem_append.mp member with old | new
      · exact (stored.generated other old).trans fresh.le
      · rw [List.mem_singleton.mp new]
    · exact order.trans fresh.le
    · exact List.nodup_append.mpr ⟨stored.distinct, List.nodup_singleton id,
        fun left leftMember right rightMember same =>
          unsent (List.mem_singleton.mp rightMember ▸ same ▸ leftMember)⟩
    · intro other
      have before := stored.conserved other
      simp only [State.present, State.deadIds, List.count_append, found] at before ⊢
      by_cases here : other = id
      · rw [here, absent] at before
        simp only [here, if_true, Option.isSome_some, List.count_singleton_self]
        simp only [Option.isSome_none, Bool.false_eq_true, if_false] at before
        omega
      · have other_count : List.count other [id] = 0 := by
          rw [List.count_eq_zero]
          simpa using here
        rw [if_neg here, other_count]
        exact before
    · change (stream.rows.map Entry.id).Pairwise (· < ·)
      rw [rows, List.map_append, List.pairwise_append]
      refine ⟨stored.sorted, List.pairwise_singleton _ _, ?_⟩
      intro left member right rightMember
      obtain ⟨entry, inside, rfl⟩ := List.mem_map.mp member
      obtain rfl : right = id := List.mem_singleton.mp rightMember
      have known := stored.known (by rw [Table.find_mem inside]; rfl)
      exact lt_of_le_of_lt (stored.generated _ known) fresh
    · intro other isPending
      rw [found]
      split
      · rfl
      · exact stored.inStream other isPending
    · exact stored.delivered
    · intro other inStream reached
      rw [found] at inStream
      have apart : other ≠ id := by
        have bound : other ≤ state.lastDeliveredId := reached
        omega
      rw [if_neg apart] at inStream
      exact stored.pended other inStream reached
  counted := inv.counted.frame rfl rfl fun _ row found => ⟨row, found, rfl⟩
  held := ⟨inv.held.receives, inv.held.running⟩

theorem Inv.receive (inv : Inv settings state) {call : Nat} {consumer : String} {maxMessages : Int}
    {receives : Table Receive.call}
    (inserted : state.receives.insert ⟨call, consumer, maxMessages, .claiming⟩ = some receives) :
    Inv settings { state with receives := receives } where
  stored := inv.stored.frame rfl rfl rfl rfl rfl rfl fun _ => rfl
  counted := inv.counted.frame rfl rfl fun _ row found => ⟨row, found, rfl⟩
  held := by
    refine ⟨?_, inv.held.running⟩
    intro receive member
    change receive ∈ receives.rows at member
    rw [(Table.insert_some.mp inserted).2] at member
    rcases List.mem_append.mp member with old | new
    · exact inv.held.receives receive old
    · rw [List.mem_singleton.mp new]
      exact ⟨List.nodup_nil, nofun, nofun, nofun⟩

/-- A stage change alone. -/
theorem Inv.setStage (inv : Inv settings state) {receive : Receive} {stage : Stage}
    (own : HeldBy settings state.pending receive.call stage) :
    Inv settings (state.setStage receive stage) where
  stored := inv.stored.frame rfl rfl rfl rfl rfl rfl fun _ => rfl
  counted := inv.counted.frame rfl rfl fun _ row found => ⟨row, found, rfl⟩
  held := inv.held.setStage own

theorem count_snoc (ids : List Nat) (id other : Nat) :
    (ids ++ [id]).count other = ids.count other + if other = id then 1 else 0 := by
  rw [List.count_append, List.count_singleton]
  by_cases same : other = id
  · simp [same]
  · have apart : ¬id = other := fun equal => same equal.symm
    simp [same, apart]

theorem Inv.ack (inv : Inv settings state) {message : Message}
    (running : state.running.find id = some message) :
    Inv settings { state.settle id with
      running := state.running.remove id
      acknowledged := state.acknowledged ++ [id] } := by
  obtain ⟨member, rfl⟩ := Table.find_some.mp running
  obtain ⟨row, found, holder⟩ := inv.held.running message member
  refine ⟨?_, ?_, ?_⟩
  · refine inv.stored.settle (by rw [found]; rfl) rfl rfl rfl rfl rfl fun other => ?_
    simp only [State.deadIds, State.settle, count_snoc]
    omega
  · exact inv.counted.frame rfl rfl (remove_counters state.pending _)
  · refine inv.held.frame found holder rfl ?_ (by simp) fun other => Table.mem_remove.mp
    exact find_removed state.pending message.id

theorem Inv.reject (inv : Inv settings state) {message : Message}
    (running : state.running.find id = some message) :
    Inv settings (State.deadLettered { state with running := state.running.remove id } message.id
      message.body "rejected" none) := by
  obtain ⟨member, rfl⟩ := Table.find_some.mp running
  obtain ⟨row, found, holder⟩ := inv.held.running message member
  refine ⟨?_, ?_, ?_⟩
  · refine inv.stored.settle (by rw [found]; rfl) rfl rfl rfl rfl rfl fun other => ?_
    simp only [State.deadIds, State.deadLettered, State.settle, List.map_append, List.map_cons,
      List.map_nil, count_snoc]
    omega
  · exact inv.counted.frame rfl rfl (remove_counters state.pending _)
  · refine inv.held.frame found holder rfl ?_ (by simp) fun other => Table.mem_remove.mp
    exact find_removed state.pending message.id

/-- A handler gives its entry up, with or without a change to the row. -/
theorem Inv.release (inv : Inv settings state) {message : Message}
    (running : state.running.find id = some message) {change : Pending → Pending}
    {keeps : ∀ row, (change row).id = row.id}
    (counter : ∀ row, (change row).timesDelivered = row.timesDelivered)
    (free : ∀ row, (change row).holder = none) :
    Inv settings { state with
      running := state.running.remove id
      pending := state.pending.modify id change keeps } := by
  obtain ⟨member, rfl⟩ := Table.find_some.mp running
  obtain ⟨row, found, holder⟩ := inv.held.running message member
  refine ⟨?_, ?_, ?_⟩
  · exact inv.stored.frame rfl rfl rfl rfl rfl rfl fun other =>
      find_modify_isSome state.pending message.id other change keeps
  · refine inv.counted.frame rfl rfl (modify_counters keeps fun own stored => ?_)
    rw [found] at stored
    obtain rfl := Option.some.inj stored
    rw [counter, Pending.ahead, Pending.ahead, free, holder]
  · refine inv.held.frame found holder rfl ?_ (by simp) fun other => Table.mem_remove.mp
    intro other apart
    exact (Table.find_modify state.pending message.id other change keeps).trans (if_neg apart)

/-- A `receive` moves an entry over the maximum to the dead stream. -/
theorem Inv.deadLetter (inv : Inv settings state) {receive : Receive} {message : Message}
    {entries : List Claimed} {messages : List Message} (member : receive ∈ state.receives.rows)
    (stage : receive.stage = .deadLettering message entries messages) :
    Inv settings ((state.deadLettered message.id message.body "max_deliveries"
      (some message.receiveCount)).setStage receive (.inspecting entries messages)) := by
  have own := inv.held.receives receive member
  rw [stage] at own
  obtain ⟨row, found, holder⟩ := own.claimed message.id List.mem_cons_self
  obtain ⟨fresh, distinct⟩ := List.nodup_cons.mp own.distinct
  have elsewhere : ∀ other, other ≠ message.id →
      (state.pending.remove message.id).find other = state.pending.find other :=
    find_removed state.pending message.id
  refine ⟨?_, ?_, ?_⟩
  · refine inv.stored.settle (by rw [found]; rfl) rfl rfl rfl rfl rfl fun other => ?_
    simp only [State.deadIds, State.deadLettered, State.settle, State.setStage, List.map_append,
      List.map_cons, List.map_nil, count_snoc]
    omega
  · exact inv.counted.frame rfl rfl (remove_counters state.pending _)
  · constructor
    · intro other inside
      rcases Table.mem_put inside with rfl | ⟨old, apart⟩
      · have rest : HeldBy settings state.pending receive.call (.inspecting entries messages) :=
          ⟨distinct, fun id outstanding => own.claimed id (List.mem_cons_of_mem _ outstanding),
            own.fields, own.counted⟩
        exact rest.congr fun id outstanding => elsewhere id fun same => fresh (same ▸ outstanding)
      · have before := inv.held.receives other old
        have foreign : message.id ∉ other.stage.outstanding := before.foreign found (by
          rw [holder]
          intro same
          exact apart (Holder.receive.inj (Option.some.inj same)).symm)
        exact before.congr fun id outstanding => elsewhere id fun same =>
          foreign (same ▸ outstanding)
    · intro handled inside
      have before := inv.held.running handled inside
      exact before.congr (elsewhere _ (before.foreign found (by rw [holder]; simp)))

theorem Inv.inspect (inv : Inv settings state) {receive : Receive} {next : State}
    (member : receive ∈ state.receives.rows)
    (stepped : inspect settings state receive = some next) :
    Inv settings next := by
  have own := inv.held.receives receive member
  unfold RedisStream.inspect at stepped
  cases stage : receive.stage with
  | claiming => simp [stage] at stepped
  | deadLettering message entries messages => simp [stage] at stepped
  | inspecting entries messages =>
      cases entries with
      | nil => simp [stage] at stepped
      | cons entry entries =>
          rw [stage] at own
          obtain ⟨body, fields⟩ := Option.isSome_iff_exists.mp (own.fields entry List.mem_cons_self)
          obtain ⟨row, found, holder⟩ := own.claimed entry.id List.mem_cons_self
          obtain ⟨fresh, distinct⟩ := List.nodup_cons.mp own.distinct
          simp only [stage, fields, found, Option.map_some, Option.getD_some] at stepped
          split at stepped
          · obtain rfl := Option.some.inj stepped
            exact inv.setStage ⟨own.distinct, own.claimed,
              fun other inside => own.fields other (List.mem_cons_of_mem _ inside), own.counted⟩
          · rename_i within
            obtain rfl := Option.some.inj stepped
            have moved :
              (Stage.inspecting entries (messages ++ [⟨entry.id, body, row.timesDelivered⟩])
                ).outstanding.Perm (Stage.inspecting (entry :: entries) messages).outstanding := by
              simp only [Stage.outstanding, List.map_append, List.map_cons, List.map_nil,
                ← List.append_assoc]
              exact List.perm_append_singleton _ _
            refine inv.setStage ⟨moved.nodup_iff.mpr own.distinct,
              fun id outstanding => own.claimed id (moved.mem_iff.mp outstanding),
              fun other inside => own.fields other (List.mem_cons_of_mem _ inside), ?_⟩
            intro message inside
            rcases List.mem_append.mp inside with old | new
            · exact own.counted message old
            · rw [List.mem_singleton.mp new]
              refine ⟨not_lt.mp within, fun own stored => ?_⟩
              rw [found] at stored
              rw [Option.some.inj stored]

theorem claimed_id (receive : Receive) (now : Int) (row : Pending) :
    (Pending.claim receive.consumer now receive.call row).id = row.id :=
  Pending.claim_id _ _ _ row

/-- What `XAUTOCLAIM` leaves of the pending rows. -/
def claimAll (receive : Receive) (now : Int) (pending : Table Pending.id) (ids : List Nat) :
    Table Pending.id :=
  ids.foldl (fun pending id => pending.modify id (Pending.claim receive.consumer now receive.call)
    (claimed_id receive now)) pending

theorem claimOne_foldl (receive : Receive) (now : Int) (state : State) (ids : List Nat) :
    ids.foldl (fun state id => state.claimOne receive now id) state =
      { state with pending := claimAll receive now state.pending ids } := by
  induction ids generalizing state with
  | nil => rfl
  | cons id rest ih =>
      rw [List.foldl_cons, ih]
      rfl

theorem find_claimAll (receive : Receive) (now : Int) (pending : Table Pending.id) {ids : List Nat}
    (distinct : ids.Nodup) (id : Nat) :
    (claimAll receive now pending ids).find id =
      if id ∈ ids then (pending.find id).map (Pending.claim receive.consumer now receive.call)
      else pending.find id := by
  induction ids generalizing pending with
  | nil => rfl
  | cons first rest ih =>
      obtain ⟨fresh, distinct⟩ := List.nodup_cons.mp distinct
      have tail := ih (pending.modify first (Pending.claim receive.consumer now receive.call)
        (Pending.claim_id _ _ _)) distinct
      rw [Table.find_modify] at tail
      refine tail.trans ?_
      by_cases here : id = first
      · rw [here, if_neg fresh, if_pos rfl, if_pos List.mem_cons_self]
      · simp [here]

theorem Inv.autoclaim (inv : Inv settings state) {receive : Receive} {ids : List Nat} {now : Int}
    (distinct : ids.Nodup) (eligible : ∀ id ∈ ids, state.claimable settings now id = true) :
    Inv settings ((ids.foldl (fun state id => state.claimOne receive now id) state).setStage receive
      (.inspecting (ids.map state.claimed) [])) := by
  have free : ∀ id ∈ ids, ∃ row, state.pending.find id = some row ∧ row.holder = none := by
    intro id member
    have idle := eligible id member
    unfold State.claimable at idle
    cases found : state.pending.find id with
    | none =>
        rw [found] at idle
        cases idle
    | some row =>
        rw [found] at idle
        simp only [Option.any_some, Bool.and_eq_true, decide_eq_true_eq] at idle
        exact ⟨row, rfl, idle.2⟩
  have rows := find_claimAll receive now state.pending distinct
  rw [claimOne_foldl]
  refine ⟨?_, ?_, ?_⟩
  · refine inv.stored.frame rfl rfl rfl rfl rfl rfl fun other => ?_
    change ((claimAll receive now state.pending ids).find other).isSome = _
    rw [rows]
    split
    · exact Option.isSome_map
    · rfl
  · refine inv.counted.frame rfl rfl fun other row found => ?_
    change (claimAll receive now state.pending ids).find other = some row at found
    rw [rows] at found
    split at found
    · rename_i member
      obtain ⟨old, stored, rfl⟩ := Option.map_eq_some_iff.mp found
      obtain ⟨own, ownStored, unheld⟩ := free other member
      rw [stored] at ownStored
      obtain rfl := Option.some.inj ownStored
      refine ⟨old, stored, ?_⟩
      simp only [Pending.claim, Pending.ahead, unheld]
      omega
    · exact ⟨row, found, rfl⟩
  · have elsewhere : ∀ other, other ∉ ids →
        (claimAll receive now state.pending ids).find other = state.pending.find other := by
      intro other outside
      rw [rows, if_neg outside]
    constructor
    · intro other inside
      rcases Table.mem_put inside with rfl | ⟨old, apart⟩
      · have listed : (ids.map state.claimed).map Claimed.id ++ ([] : List Message).map Message.id =
            ids := by
          rw [List.map_nil, List.append_nil, List.map_map]
          exact List.map_id' ids
        refine ⟨by simpa only [Stage.outstanding, listed] using distinct, ?_, ?_, nofun⟩
        · intro id outstanding
          simp only [Stage.outstanding, listed] at outstanding
          obtain ⟨row, found, -⟩ := free id outstanding
          refine ⟨row.claim receive.consumer now receive.call, ?_, rfl⟩
          change (claimAll receive now state.pending ids).find id = _
          rw [rows, if_pos outstanding, found, Option.map_some]
        · intro entry claimed
          obtain ⟨id, member, rfl⟩ := List.mem_map.mp claimed
          obtain ⟨row, found, -⟩ := free id member
          have inStream := inv.stored.inStream id (by rw [found]; rfl)
          simpa only [State.claimed, Option.isSome_map] using inStream
      · have before := inv.held.receives other old
        refine before.congr fun id outstanding => elsewhere id fun member => ?_
        obtain ⟨row, found, unheld⟩ := free id member
        exact before.foreign found (by rw [unheld]; simp) outstanding
    · intro handled inside
      have before := inv.held.running handled inside
      refine before.congr (elsewhere _ fun member => ?_)
      obtain ⟨row, found, unheld⟩ := free handled.id member
      exact before.foreign found (by rw [unheld]; simp) rfl

end Steps

end AiPlatform.Queue.RedisStream

import AiPlatform.Core.Value
import AiPlatform.Lib.Machine
import AiPlatform.Lib.Table

set_option autoImplicit false

/- `RedisStreamQueueGateway`: a stream, the pending entries of its consumer group and the dead
stream. A `receive` runs command by command, interleaved with the calls of other consumers. The
group is created at the stream's start before the first command, so it covers every entry. -/
namespace AiPlatform.Queue.RedisStream

/-- `QUEUE_REDIS_MAX_DELIVERIES` is positive. -/
structure Settings where
  minIdleMs : Int := 60000
  maxDeliveries : Int := 5
  positiveDeliveries : 0 < maxDeliveries := by decide

/-- Entry ids grow with each `XADD`. -/
structure Entry where
  id : Nat
  body : Json

structure Message where
  id : Nat
  body : Json
  receiveCount : Int

/-- Who works on a pending entry: a `receive` that has claimed it, or the handler it was given
to. -/
inductive Holder where
  | receive (call : Nat)
  | handler
deriving DecidableEq

structure Pending where
  id : Nat
  consumer : String
  timesDelivered : Int
  idleSince : Int
  holder : Option Holder

structure DeadLetter where
  body : Json
  originalMessageId : Nat
  reason : String
  receiveCount : Option Int

/-- A claimed entry as `XAUTOCLAIM` returns it; an entry gone from the stream has no fields. -/
structure Claimed where
  id : Nat
  fields : Option Json

inductive Stage where
  | claiming
  | inspecting (entries : List Claimed) (messages : List Message)
  | deadLettering (message : Message) (entries : List Claimed) (messages : List Message)

structure Receive where
  call : Nat
  consumer : String
  maxMessages : Int
  stage : Stage

/-- Redis, the calls of `receive` and the handlers in progress, with the history of the run. -/
structure State where
  stream : Table Entry.id := .empty
  lastGeneratedId : Nat := 0
  lastDeliveredId : Nat := 0
  pending : Table Pending.id := .empty
  dead : List DeadLetter := []
  receives : Table Receive.call := .empty
  running : Table Message.id := .empty
  sent : List Nat := []
  acknowledged : List Nat := []
  deliveries : List Message := []

inductive Action where
  | send (id : Nat) (payload : Json)
  | receive (call : Nat) (consumer : String) (maxMessages : Int)
  | autoclaim (call : Nat) (now : Int) (ids : List Nat)
  | inspect (call : Nat)
  | deadLetter (call : Nat)
  | readGroup (call : Nat) (now : Int)
  | ack (id : Nat)
  | nack (id : Nat) (requeue : Bool) (consumer : String) (now : Int)
  | crash (id : Nat)

def Pending.claim (consumer : String) (now : Int) (call : Nat) (row : Pending) : Pending :=
  { row with
    consumer := consumer
    timesDelivered := row.timesDelivered + 1
    idleSince := now
    holder := some (.receive call) }

theorem Pending.claim_id (consumer : String) (now : Int) (call : Nat) (row : Pending) :
    (row.claim consumer now call).id = row.id := rfl

def Pending.hold (holder : Option Holder) (row : Pending) : Pending := { row with holder := holder }

theorem Pending.hold_id (holder : Option Holder) (row : Pending) :
    (row.hold holder).id = row.id := rfl

/-- `XCLAIM … IDLE min_idle JUSTID` leaves the counter alone. -/
def Pending.requeue (consumer : String) (idleSince : Int) (row : Pending) : Pending :=
  { row with consumer := consumer, idleSince := idleSince, holder := none }

theorem Pending.requeue_id (consumer : String) (idleSince : Int) (row : Pending) :
    (row.requeue consumer idleSince).id = row.id := rfl

namespace State

variable (settings : Settings) (state : State)

/-- Entries after the group's last delivered id. -/
def undelivered : List Entry :=
  state.stream.rows.filter fun entry => state.lastDeliveredId < entry.id

/-- `XACK` and `XDEL`. -/
def settle (id : Nat) : State :=
  { state with
    pending := state.pending.remove id
    stream := state.stream.remove id }

/-- `_dead_letter`, one `MULTI`. -/
def deadLettered (id : Nat) (body : Json) (reason : String) (count : Option Int) : State :=
  { state.settle id with dead := state.dead ++ [⟨body, id, reason, count⟩] }

def setStage (receive : Receive) (stage : Stage) : State :=
  { state with receives := state.receives.put { receive with stage := stage } }

/-- `XAUTOCLAIM` may take an entry that has been idle for long enough. No handler or other receive
is at work on it: `min_idle` exceeds the slowest handler. -/
def claimable (now : Int) (id : Nat) : Bool :=
  (state.pending.find id).any fun row =>
    settings.minIdleMs ≤ now - row.idleSince && row.holder = none

/-- The part of `XAUTOCLAIM` that concerns one entry. -/
def claimOne (receive : Receive) (now : Int) (id : Nat) : State :=
  { state with
    pending := state.pending.modify id (Pending.claim receive.consumer now receive.call)
      (Pending.claim_id _ _ _) }

def claimed (id : Nat) : Claimed := ⟨id, (state.stream.find id).map Entry.body⟩

/-- A message of a `receive` that returns reaches its handler. -/
def handOver (message : Message) : State :=
  { state with
    pending := state.pending.modify message.id (Pending.hold (some .handler)) (Pending.hold_id _)
    running := state.running.put message
    deliveries := state.deliveries ++ [message] }

/-- The part of `XREADGROUP` that concerns one new entry, and its delivery. -/
def readEntry (consumer : String) (now : Int) (entry : Entry) : State :=
  let message : Message := ⟨entry.id, entry.body, 1⟩
  { state with
    lastDeliveredId := entry.id
    pending := state.pending.put ⟨entry.id, consumer, 1, now, some .handler⟩
    running := state.running.put message
    deliveries := state.deliveries ++ [message] }

end State

open State in
/-- The next command of a `receive` that inspects what it has claimed: `XACK` of an entry without
fields, else `XPENDING` and the comparison with the maximum. -/
def inspect (settings : Settings) (state : State) (receive : Receive) : Option State :=
  match receive.stage with
  | .inspecting (entry :: entries) messages =>
      match entry.fields with
      | none =>
          some (State.setStage { state with pending := state.pending.remove entry.id } receive
            (.inspecting entries messages))
      | some body =>
          let delivered := ((state.pending.find entry.id).map Pending.timesDelivered).getD 1
          let message : Message := ⟨entry.id, body, delivered⟩
          if settings.maxDeliveries < delivered then
            some (state.setStage receive (.deadLettering message entries messages))
          else some (state.setStage receive (.inspecting entries (messages ++ [message])))
  | .inspecting [] _ => none
  | .claiming => none
  | .deadLettering _ _ _ => none

/-- The end of `receive`: `XREADGROUP` for what is left of the batch, then the return. -/
def readGroup (state : State) (receive : Receive) (messages : List Message) (now : Int) : State :=
  let returned := { state with receives := state.receives.remove receive.call }
  let remaining := receive.maxMessages - messages.length
  let entries := if 0 < remaining then state.undelivered.take remaining.toNat else []
  entries.foldl (fun state entry => state.readEntry receive.consumer now entry)
    (messages.foldl State.handOver returned)

def step (settings : Settings) (state : State) : Action → Option State
  | .send id payload =>
      if state.lastGeneratedId < id then
        (state.stream.insert ⟨id, payload⟩).map fun stream =>
          { state with stream := stream, lastGeneratedId := id, sent := state.sent ++ [id] }
      else none
  | .receive call consumer maxMessages =>
      (state.receives.insert ⟨call, consumer, maxMessages, .claiming⟩).map fun receives =>
        { state with receives := receives }
  | .autoclaim call now ids => do
      let receive ← state.receives.find call
      match receive.stage with
      | .claiming =>
          if ids.Nodup ∧ (ids.length : Int) ≤ receive.maxMessages ∧
              (∀ id ∈ ids, state.claimable settings now id = true) then
            let entries := ids.map state.claimed
            some ((ids.foldl (fun state id => state.claimOne receive now id) state).setStage receive
              (.inspecting entries []))
          else none
      | .inspecting _ _ => none
      | .deadLettering _ _ _ => none
  | .inspect call => do
      let receive ← state.receives.find call
      inspect settings state receive
  | .deadLetter call => do
      let receive ← state.receives.find call
      match receive.stage with
      | .deadLettering message entries messages =>
          some ((state.deadLettered message.id message.body "max_deliveries"
            (some message.receiveCount)).setStage receive (.inspecting entries messages))
      | .claiming => none
      | .inspecting _ _ => none
  | .readGroup call now => do
      let receive ← state.receives.find call
      match receive.stage with
      | .inspecting [] messages => some (readGroup state receive messages now)
      | .inspecting (_ :: _) _ => none
      | .claiming => none
      | .deadLettering _ _ _ => none
  | .ack id => do
      let _ ← state.running.find id
      some { state.settle id with
        running := state.running.remove id
        acknowledged := state.acknowledged ++ [id] }
  | .nack id requeue consumer now => do
      let message ← state.running.find id
      let done := { state with running := state.running.remove id }
      if requeue then
        some { done with
          pending := state.pending.modify id
            (Pending.requeue consumer (now - settings.minIdleMs)) (Pending.requeue_id _ _) }
      else some (done.deadLettered message.id message.body "rejected" none)
  | .crash id => do
      let _ ← state.running.find id
      some { state with
        running := state.running.remove id
        pending := state.pending.modify id (Pending.hold none) (Pending.hold_id _) }

end AiPlatform.Queue.RedisStream

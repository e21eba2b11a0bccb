import AiPlatform.Lib.Linear
import AiPlatform.Lib.Machine
import AiPlatform.Tasks.Record

set_option autoImplicit false

/- `RedisTaskStore` on one key, command by command. A value is the record it encodes, and a key
never reaches its TTL here, so the TTL read before each write is only written back. -/
namespace AiPlatform.Tasks.Redis

open Machine Linear

/-- A call with its arguments; `clock` is the reading of `datetime.now` in `_update`. -/
inductive Request where
  | markProcessing (leaseSeconds now : Int)
  | markCompleted (result : Json) (clock : Int)
  | markFailed (error : String) (clock : Int)
  | reclaim (now limit maxAttempts : Int)

inductive Result where
  | claimed (applied : Bool)
  | updated
  | reclaimed (refs : List TaskRef)
  | raised (error : StoreError)
deriving DecidableEq

/-- How a call treats the key: refused before any command, `_transition` or `_update`. -/
inductive Plan where
  | refuse (error : StoreError)
  | transition (mutate : TaskRecord → Option TaskRecord)
  | update (write : TaskRecord → TaskRecord)

/-- `mutate` of `mark_processing`. -/
def claim (leaseSeconds now : Int) (task : TaskRecord) : Option TaskRecord :=
  if task.status ≠ .queued ∧ ¬ task.leaseExpired now then none
  else some (task.claim now leaseSeconds now)

/-- `mutate` of `reclaim_stale_processing`. -/
def reclaim (now maxAttempts : Int) (task : TaskRecord) : Option TaskRecord :=
  if task.leaseExpired now then some (task.settle maxAttempts now) else none

def Request.plan : Request → Plan
  | .markProcessing leaseSeconds now =>
      if leaseSeconds ≤ 0 then .refuse (.valueError "lease_seconds must be positive")
      else .transition (Redis.claim leaseSeconds now)
  | .markCompleted result clock =>
      .update fun task => task.updateStatus .completed (some result) none clock
  | .markFailed error clock =>
      .update fun task => task.updateStatus .failed none (some error) clock
  | .reclaim now limit maxAttempts =>
      if limit ≤ 0 then .refuse (.valueError "limit must be positive")
      else .transition (Redis.reclaim now maxAttempts)

/-- What a call returns once `_transition` is through: the task, if there is one, and whether it
was saved. -/
def Request.answer (taskId : String) (request : Request) (outcome : Option (TaskRecord × Bool)) :
    Result :=
  match request, outcome with
  | .markProcessing _ _, some (_, applied) => .claimed applied
  | .markProcessing _ _, none => .raised (.keyError taskId)
  | .reclaim _ _ _, some (task, true) =>
      .reclaimed (if task.status = .queued then [task.ref] else [])
  | .reclaim _ _ _, _ => .reclaimed []
  | _, _ => .updated

/-- The call as one atomic operation. -/
def Request.execute (taskId : String) (request : Request) (stored : Option TaskRecord) :
    Option TaskRecord × Result :=
  match request.plan with
  | .refuse error => (stored, .raised error)
  | .transition mutate =>
      match stored with
      | none => (none, request.answer taskId none)
      | some task =>
          match mutate task with
          | none => (stored, request.answer taskId (some (task, false)))
          | some next => (some next, request.answer taskId (some (next, true)))
  | .update write =>
      match stored with
      | none => (none, .raised (.keyError taskId))
      | some task => (some (write task), .updated)

/-- A value with the TTL it was set with. -/
structure Entry where
  task : TaskRecord
  ttl : Int

/-- Where a call is; at `scanned` it is about to `WATCH`. A transition carries the version of the
key its `WATCH` saw, an update the version its `GET` saw. -/
inductive Pc where
  | start
  | scanned
  | watched (seen : Nat)
  | mutated (seen : Nat) (next : TaskRecord)
  | queuedWrite (seen : Nat) (next : TaskRecord) (ttl : Int)
  | read (seen : Nat) (next : TaskRecord)
  | timed (seen : Nat) (next : TaskRecord) (ttl : Int)
  | returned (result : Result)

structure Call where
  id : Nat
  request : Request
  pc : Pc

/-- `version` counts the writes of the key, which is what `WATCH` looks at. -/
structure State where
  entry : Option Entry
  version : Nat
  calls : Table Call.id

def State.init (entry : Option Entry) : State := ⟨entry, 0, .empty⟩

def State.task (state : State) : Option TaskRecord := state.entry.map Entry.task

inductive Action where
  | call (id : Nat) (request : Request)
  | advance (id : Nat) (remaining : Int)

/-- `remaining if remaining and remaining > 0 else 1`. -/
def ttlFrom (remaining : Int) : Int := if 0 < remaining then remaining else 1

def setPc (pc : Pc) (call : Call) : Call := { call with pc := pc }

theorem setPc_id (pc : Pc) (call : Call) : (setPc pc call).id = call.id := rfl

def State.goto (state : State) (id : Nat) (pc : Pc) : State :=
  { state with calls := state.calls.modify id (setPc pc) (setPc_id pc) }

/-- `SETEX`. -/
def State.setex (state : State) (ttl : Int) (task : TaskRecord) : State :=
  { state with
    entry := some ⟨task, ttl⟩
    version := state.version + 1 }

/-- The next command of a transition: `WATCH`, `GET`, `TTL`, and `EXEC`, which fails when the key
was written after the `WATCH`. -/
def advanceTransition (taskId : String) (mutate : TaskRecord → Option TaskRecord) (state : State)
    (call : Call) (remaining : Int) : Option State :=
  match call.pc with
  | .start =>
      match call.request with
      | .reclaim _ _ _ =>
          -- `SCAN` lists the key once if it is there.
          if state.entry.isNone then some (state.goto call.id (.returned (.reclaimed [])))
          else some (state.goto call.id .scanned)
      | _ => some (state.goto call.id (.watched state.version))
  | .scanned => some (state.goto call.id (.watched state.version))
  | .watched seen =>
      match state.entry with
      | none => some (state.goto call.id (.returned (call.request.answer taskId none)))
      | some entry =>
          match mutate entry.task with
          | none => some (state.goto call.id
              (.returned (call.request.answer taskId (some (entry.task, false)))))
          | some next => some (state.goto call.id (.mutated seen next))
  | .mutated seen next => some (state.goto call.id (.queuedWrite seen next (ttlFrom remaining)))
  | .queuedWrite seen next ttl =>
      if seen = state.version then
        some ((state.setex ttl next).goto call.id
          (.returned (call.request.answer taskId (some (next, true)))))
      else some (state.goto call.id .scanned)
  | _ => none

/-- The next command of an update: `GET`, `TTL` and a `SETEX` nothing guards. -/
def advanceUpdate (taskId : String) (write : TaskRecord → TaskRecord) (state : State)
    (call : Call) (remaining : Int) : Option State :=
  match call.pc with
  | .start =>
      match state.entry with
      | none => some (state.goto call.id (.returned (.raised (.keyError taskId))))
      | some entry => some (state.goto call.id (.read state.version (write entry.task)))
  | .read seen next => some (state.goto call.id (.timed seen next (ttlFrom remaining)))
  | .timed _ next ttl => some ((state.setex ttl next).goto call.id (.returned .updated))
  | _ => none

def step (taskId : String) (state : State) : Action → Option State
  | .call id request =>
      (state.calls.insert ⟨id, request, .start⟩).map fun calls => { state with calls := calls }
  | .advance id remaining =>
      match state.calls.find id with
      | none => none
      | some call =>
          match call.request.plan with
          | .refuse error =>
              match call.pc with
              | .start => some (state.goto id (.returned (.raised error)))
              | _ => none
          | .transition mutate => advanceTransition taskId mutate state call remaining
          | .update write => advanceUpdate taskId write state call remaining

/-- The event of a call that has returned. -/
def Call.event (call : Call) : Option (Event Request Result) :=
  match call.pc with
  | .returned result => some ⟨call.id, call.request, result⟩
  | _ => none

def State.returned (state : State) : List (Event Request Result) :=
  state.calls.rows.filterMap Call.event

end AiPlatform.Tasks.Redis

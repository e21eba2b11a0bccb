import AiPlatform.Tasks.RedisCodec
import AiPlatform.Tasks.RedisCommands

set_option autoImplicit false

/- `RedisTaskStore` on its whole key space, for one caller at a time. `clock` is the time of the
server and of the caller's `datetime.now`. -/
namespace AiPlatform.Tasks.RedisStore

open Redis (serialize deserialize claim reclaim ttlFrom)

/-- A key with its value and the time its TTL runs out. -/
structure Entry where
  key : String
  value : Json
  deadline : Int

abbrev Db := Table Entry.key

/-- The entry a command finds: one that reached its TTL is gone. -/
def alive (clock : Int) (db : Db) (key : String) : Option Entry :=
  (db.find key).filter fun entry => clock < entry.deadline

/-- `GET`. -/
def read (clock : Int) (db : Db) (key : String) : Option Json :=
  (alive clock db key).map Entry.value

/-- `SETEX`. -/
def setex (clock : Int) (db : Db) (key : String) (ttl : Int) (value : Json) : Db :=
  db.put ⟨key, value, clock + timedelta ttl⟩

/-- `TTL`: whole seconds, rounded to the nearest; -2 is the answer for a missing key. -/
def ttl (clock : Int) (db : Db) (key : String) : Int :=
  match alive clock db key with
  | none => -2
  | some entry => (entry.deadline - clock + 500000) / microsecondsPerSecond

section Store

variable (namespace_ : String) (clock : Int)

def keyOf (taskId : String) : String := namespace_ ++ ":" ++ taskId

def create (task : TaskRecord) (db : Db) : Db :=
  let stamped := { task with createdAt := task.createdAt.or (some clock), updatedAt := some clock }
  let ttl := max ((task.expiresAt - clock).tdiv microsecondsPerSecond) 1
  setex clock db (keyOf namespace_ task.id) ttl (serialize stamped)

def get (taskId : String) (principalId : Option String) (db : Db) :
    Except StoreError (Option TaskRecord) :=
  match read clock db (keyOf namespace_ taskId) with
  | none => .ok none
  | some raw =>
      match deserialize raw with
      | none => .error .decodeError
      | some task => .ok (if principalId.all (task.principalId = ·) then some task else none)

/-- `_transition`: the task read or saved, and whether it was saved. Without other callers its
`WATCH` never fails. -/
def transition (key : String) (mutate : TaskRecord → Option TaskRecord) (db : Db) :
    Except StoreError (Option (TaskRecord × Bool) × Db) :=
  match read clock db key with
  | none => .ok (none, db)
  | some raw =>
      match deserialize raw with
      | none => .error .decodeError
      | some task =>
          match mutate task with
          | none => .ok (some (task, false), db)
          | some next =>
              .ok (some (next, true),
                setex clock db key (ttlFrom (ttl clock db key)) (serialize next))

def markProcessing (taskId : String) (leaseSeconds : Int) (now : Option Int) (db : Db) :
    Except StoreError (Bool × Db) :=
  if leaseSeconds ≤ 0 then .error (.valueError "lease_seconds must be positive")
  else
    match transition clock (keyOf namespace_ taskId) (claim leaseSeconds (now.getD clock)) db with
    | .error error => .error error
    | .ok (none, _) => .error (.keyError taskId)
    | .ok (some (_, applied), db) => .ok (applied, db)

/-- `_update`. -/
def update (taskId : String) (status : TaskStatus) (result : Option Json) (error : Option String)
    (db : Db) : Except StoreError Db :=
  let key := keyOf namespace_ taskId
  match read clock db key with
  | none => .error (.keyError taskId)
  | some raw =>
      match deserialize raw with
      | none => .error .decodeError
      | some task =>
          .ok (setex clock db key (ttlFrom (ttl clock db key))
            (serialize (task.updateStatus status result error clock)))

def markCompleted (taskId : String) (result : Json) (db : Db) : Except StoreError Db :=
  update namespace_ clock taskId .completed (some result) none db

def markFailed (taskId : String) (error : String) (db : Db) : Except StoreError Db :=
  update namespace_ clock taskId .failed none (some error) db

/-- The loop of `reclaim_stale_processing` over the keys of one `SCAN` reply: how many tasks are
settled by now, the requeued ones and the keys after it. -/
def reclaimKeys (now limit maxAttempts : Int) :
    Int → List String → Db → Except StoreError (Int × List TaskRef × Db)
  | settled, [], db => .ok (settled, [], db)
  | settled, key :: rest, db =>
      if limit ≤ settled then .ok (settled, [], db)
      else
        match transition clock key (reclaim now maxAttempts) db with
        | .error error => .error error
        | .ok (some (task, true), db) =>
            (reclaimKeys now limit maxAttempts (settled + 1) rest db).map fun (count, refs, db) =>
              (count, if task.status = .queued then task.ref :: refs else refs, db)
        | .ok (_, db) => reclaimKeys now limit maxAttempts settled rest db

/-- The loop over the `SCAN` replies, until one has the cursor 0. -/
def reclaimReplies (now limit maxAttempts : Int) :
    Int → List (List String) → Db → Except StoreError (Int × List TaskRef × Db)
  | settled, [], db => .ok (settled, [], db)
  | settled, keys :: replies, db =>
      if limit ≤ settled then .ok (settled, [], db)
      else
        match reclaimKeys clock now limit maxAttempts settled keys db with
        | .error error => .error error
        | .ok (count, refs, db) =>
            (reclaimReplies now limit maxAttempts count replies db).map fun (count, more, db) =>
              (count, refs ++ more, db)

def reclaimStaleProcessing (now limit maxAttempts : Int) (replies : List (List String)) (db : Db) :
    Except StoreError (List TaskRef × Db) :=
  if limit ≤ 0 then .error (.valueError "limit must be positive")
  else (reclaimReplies clock now limit maxAttempts 0 replies db).map fun (_, refs, db) => (refs, db)

end Store

/-- What a full iteration of `SCAN` returns: every key at least once, in any order. -/
def Scanned (db : Db) (replies : List (List String)) : Prop :=
  ∀ entry ∈ db.rows, entry.key ∈ replies.flatten

end AiPlatform.Tasks.RedisStore

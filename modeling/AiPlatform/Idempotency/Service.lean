import AiPlatform.Core.Columns
import AiPlatform.Lib.Table

set_option autoImplicit false

/- The statements of the idempotency service on its one table. `clock` is the reading of
`utcnow` or `now()` that a statement takes. -/
namespace AiPlatform.Idempotency

inductive Status where
  | inProgress
  | completed
deriving DecidableEq, Repr

/-- `insertedBy` stands for the primary key: an insert draws its `id` afresh, as it draws its claim
token, so the token names it. Rows from before claim tokens existed have none. -/
structure IdempotencyKey where
  insertedBy : Option String
  principalId : String
  key : String
  requestHash : String
  status : Status
  claimToken : Option String
  responseStatusCode : Option Int
  responseBody : Option Json
  expiresAt : Int
  createdAt : Int
  updatedAt : Int

/-- `uq_idempotency_keys_principal_key`. -/
def IdempotencyKey.index (record : IdempotencyKey) : String × String :=
  (record.principalId, record.key)

abbrev KeyTable := Table IdempotencyKey.index

abbrev RowId := (String × String) × Option String

def IdempotencyKey.id (record : IdempotencyKey) : RowId := (record.index, record.insertedBy)

structure AppError where
  code : String
  message : String
  statusCode : Int
deriving DecidableEq

def internalError : AppError :=
  ⟨"idempotency_internal_error", "Idempotency record vanished after insert conflict", 500⟩

def keyConflict : AppError :=
  ⟨"idempotency_key_conflict", "Idempotency-Key was already used for a different request", 409⟩

def keyInProgress : AppError :=
  ⟨"idempotency_key_in_progress", "Idempotency-Key is already in progress", 409⟩

/-- `IdempotencyClaim` or `IdempotencyCachedResponse`. -/
inductive Reply where
  | claim (token : String)
  | cached (statusCode : Int) (body : Json)

/-- The arguments of one `check_or_store_idempotency_key` call, with the token it draws. -/
structure Check where
  principalId : String
  key : String
  requestHash : String
  expiresAt : Int
  claimToken : String
deriving DecidableEq

def Check.index (check : Check) : String × String := (check.principalId, check.key)

/-- `_try_insert`: `none` when a row with the key exists. -/
def tryInsert (clock : Int) (check : Check) (table : KeyTable) : Option KeyTable :=
  table.insert
    { insertedBy := some check.claimToken
      principalId := check.principalId
      key := check.key
      requestHash := check.requestHash
      status := .inProgress
      claimToken := some check.claimToken
      responseStatusCode := none
      responseBody := none
      expiresAt := check.expiresAt
      createdAt := clock
      updatedAt := clock }

def isStuckInProgress (record : IdempotencyKey) (now timeoutSeconds : Int) : Bool :=
  record.status = .inProgress && timedelta timeoutSeconds ≤ now - record.updatedAt

def resetExpiredRecord (record : IdempotencyKey) (check : Check) (now : Int) : IdempotencyKey :=
  { record with
    requestHash := check.requestHash
    claimToken := some check.claimToken
    status := .inProgress
    responseStatusCode := none
    responseBody := none
    expiresAt := check.expiresAt
    updatedAt := now }

/-- `record.response_status_code or 200`. -/
def replayedStatus (statusCode : Option Int) : Int :=
  match statusCode with
  | none => 200
  | some code => if code = 0 then 200 else code

/-- `record.expires_at <= now or _is_stuck_in_progress(record)`. -/
def reclaimable (record : IdempotencyKey) (now timeoutSeconds : Int) : Bool :=
  record.expiresAt ≤ now || isStuckInProgress record now timeoutSeconds

@[simp] theorem resetExpiredRecord_index (record : IdempotencyKey) (check : Check) (now : Int) :
    (resetExpiredRecord record check now).index = record.index := rfl

@[simp] theorem resetExpiredRecord_id (record : IdempotencyKey) (check : Check) (now : Int) :
    (resetExpiredRecord record check now).id = record.id := rfl

/-- `check_or_store_idempotency_key` after its insert met a conflict. -/
def resolveConflict (now timeoutSeconds : Int) (check : Check) (table : KeyTable) :
    Except AppError Reply × KeyTable :=
  match table.find check.index with
  | none => (.error internalError, table)
  | some record =>
      if reclaimable record now timeoutSeconds then
        (.ok (.claim check.claimToken),
          table.modify check.index (fun record => resetExpiredRecord record check now)
            fun record => resetExpiredRecord_index record check now)
      else if record.requestHash ≠ check.requestHash then (.error keyConflict, table)
      else
        match record.status, record.responseBody with
        | .completed, some body =>
            (.ok (.cached (replayedStatus record.responseStatusCode) body), table)
        | _, _ => (.error keyInProgress, table)

/-- The fence of `store_idempotency_response`. -/
def IdempotencyKey.heldBy (record : IdempotencyKey) (claimToken : String) : Bool :=
  record.claimToken = some claimToken && record.status = .inProgress

/-- The body is read back as its `jsonb` column returns it. -/
def completeRecord (record : IdempotencyKey) (statusCode : Int) (body : Json) (clock : Int) :
    IdempotencyKey :=
  { record with
    status := .completed
    responseStatusCode := some statusCode
    responseBody := some (Columns.jsonb body)
    updatedAt := clock }

@[simp] theorem completeRecord_index (record : IdempotencyKey) (statusCode : Int) (body : Json)
    (clock : Int) : (completeRecord record statusCode body clock).index = record.index := rfl

@[simp] theorem completeRecord_id (record : IdempotencyKey) (statusCode : Int) (body : Json)
    (clock : Int) : (completeRecord record statusCode body clock).id = record.id := rfl

/-- The two response columns take the values. -/
def Storable (statusCode : Int) (body : Json) : Prop :=
  Columns.fitsInteger statusCode ∧ Columns.sendableJson body = true

instance (statusCode : Int) (body : Json) : Decidable (Storable statusCode body) :=
  inferInstanceAs (Decidable (_ ∧ _))

/-- `store_idempotency_response`; `none` is the error of a column that refuses its value. -/
def storeResponse (clock : Int) (index : String × String) (claimToken : String)
    (statusCode : Int) (body : Json) (table : KeyTable) : Option (Bool × KeyTable) :=
  if ¬ Storable statusCode body then none
  else if (table.find index).any (·.heldBy claimToken) then
    some (true, table.modify index (fun record => completeRecord record statusCode body clock)
      fun record => completeRecord_index record statusCode body clock)
  else some (false, table)

/-- What the bounded sub-select of the purge may return. -/
def ExpiredSelection (before limit : Int) (table : KeyTable) (expired : List RowId) : Prop :=
  expired.Nodup ∧
    expired.length =
      min limit.toNat (table.rows.filter fun record => record.expiresAt < before).length ∧
    ∀ id ∈ expired, ∃ record ∈ table.rows, record.id = id ∧ record.expiresAt < before

instance (before limit : Int) (table : KeyTable) (expired : List RowId) :
    Decidable (ExpiredSelection before limit table expired) :=
  inferInstanceAs (Decidable (_ ∧ _))

/-- The outer `DELETE` of `delete_expired_idempotency_keys`. A row that another transaction changed
since the sub-select is only checked for its id again. -/
def deleteExpired (expired : List RowId) (table : KeyTable) : KeyTable :=
  table.erase fun record => record.id ∈ expired

end AiPlatform.Idempotency

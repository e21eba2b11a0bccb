import AiPlatform.Core.Columns
import AiPlatform.Lib.Indexed
import AiPlatform.Quota.Operations

set_option autoImplicit false

/- The two tables of `PostgresQuotaStore` with their constraints and column types, the statements
its methods send, and each method as one transaction. -/
namespace AiPlatform.Quota.Postgres

open Columns

/-- `QuotaReservationRecord`. -/
structure Record where
  id : String
  subjectId : String
  resource : String
  windowKey : String
  cost : Int
  status : QuotaReservationStatus
  idempotencyKey : Option String
  resetAt : Int
deriving DecidableEq

def Record.key (record : Record) : WindowKey :=
  (record.subjectId, record.resource, record.windowKey)

/-- `uq_quota_reservations_idempotency`: a null key never clashes. -/
def Record.index (record : Record) : Option (WindowKey × String) :=
  record.idempotencyKey.map fun idempotencyKey => (record.key, idempotencyKey)

structure Tables where
  counters : Table Counter.key
  reservations : Indexed Record.id Record.index

def Tables.init : Tables := ⟨.empty, .empty⟩

abbrev Transaction (Value : Type) := StateT Tables (Except QuotaError) Value

def requireInteger (value : Int) : Transaction Unit :=
  if fitsInteger value then pure () else throw .dataError

def sendTexts (texts : List String) : Transaction Unit :=
  if ∀ text ∈ texts, sendable text then pure () else throw .dataError

/-- The assignment of a text to a `String(width)` column. -/
def varchar (width : Nat) (text : String) : Transaction String :=
  match storedText width text with
  | some stored => pure stored
  | none => throw .dataError

def findIdempotentReservation (command : ReserveQuota) : Transaction (Option Record) := do
  match command.idempotencyKey with
  | none => return none
  | some idempotencyKey =>
      sendTexts [command.subjectId, command.resource, command.windowKey, idempotencyKey]
      return (← get).reservations.findBy (command.key, idempotencyKey)

/-- `on_conflict_do_update` on the key of the counter. -/
def upsertCounter (counters : Table Counter.key) (fresh : Counter) : Table Counter.key :=
  match counters.find fresh.key with
  | none => counters.put fresh
  | some counter => counters.put { counter with limit := fresh.limit, resetAt := fresh.resetAt }

def ensureCounter (command : ReserveQuota) : Transaction Unit := do
  sendTexts [command.subjectId, command.resource, command.windowKey]
  requireInteger command.limit
  let subjectId ← varchar 255 command.subjectId
  let resource ← varchar 255 command.resource
  let windowKey ← varchar 64 command.windowKey
  let fresh := { command.freshCounter with
    subjectId := subjectId
    resource := resource
    windowKey := windowKey }
  modify fun tables => { tables with counters := upsertCounter tables.counters fresh }

def newRecord (command : ReserveQuota) : Record where
  id := command.reservationId
  subjectId := command.subjectId
  resource := command.resource
  windowKey := command.windowKey
  cost := command.cost
  status := .reserved
  idempotencyKey := command.idempotencyKey
  resetAt := command.resetAt

/-- `on_conflict_do_nothing` on any constraint, returning whether the row went in. -/
def insertReservation (command : ReserveQuota) : Transaction Bool := do
  sendTexts (command.reservationId :: command.subjectId :: command.resource ::
    command.windowKey :: command.idempotencyKey.toList)
  requireInteger command.cost
  let id ← varchar 36 command.reservationId
  let subjectId ← varchar 255 command.subjectId
  let resource ← varchar 255 command.resource
  let windowKey ← varchar 64 command.windowKey
  let idempotencyKey ← command.idempotencyKey.mapM (varchar 255)
  let record := { newRecord command with
    id := id
    subjectId := subjectId
    resource := resource
    windowKey := windowKey
    idempotencyKey := idempotencyKey }
  let tables ← get
  match tables.reservations.insert record with
  | none => return false
  | some reservations =>
      set { tables with reservations := reservations }
      return true

/-- The sum is an `Integer` too: past its range the statement fails before it compares. -/
def tryIncrementCounter (command : ReserveQuota) : Transaction (Option QuotaUsage) := do
  sendTexts [command.subjectId, command.resource, command.windowKey]
  requireInteger command.cost
  requireInteger command.limit
  let tables ← get
  match tables.counters.find command.key with
  | none => return none
  | some counter =>
      requireInteger (counter.used + command.cost)
      if counter.used + command.cost ≤ command.limit then
        let charged := { counter with
          used := counter.used + command.cost
          limit := command.limit
          resetAt := command.resetAt }
        set { tables with counters := tables.counters.put charged }
        return some (usageFromCounter charged)
      else return none

def deleteReservation (reservationId : String) : Transaction Unit := do
  sendTexts [reservationId]
  modify fun tables => { tables with reservations := tables.reservations.remove reservationId }

def setStatus (status : QuotaReservationStatus) (record : Record) : Record :=
  { record with status := status }

theorem setStatus_id (status : QuotaReservationStatus) (record : Record) :
    (setStatus status record).id = record.id := rfl

theorem setStatus_index (status : QuotaReservationStatus) (record : Record) :
    (setStatus status record).index = record.index := rfl

def claimReserved (reservationId : String) (newStatus : QuotaReservationStatus) :
    Transaction (Option Record) := do
  sendTexts [reservationId]
  let tables ← get
  match tables.reservations.find reservationId with
  | none => return none
  | some record =>
      if record.status = .reserved then
        set { tables with
          reservations := tables.reservations.modify reservationId (setStatus newStatus)
            (setStatus_id newStatus) (setStatus_index newStatus) }
        return some (setStatus newStatus record)
      else return none

def requireReservation (reservationId : String) : Transaction Record := do
  match (← get).reservations.find reservationId with
  | none => throw (.keyError reservationId)
  | some record => return record

/-- `result.one()` raises when there is no counter. -/
def usageForReservation (record : Record) : Transaction QuotaUsage := do
  match (← get).counters.find record.key with
  | none => throw .noResultFound
  | some counter => return usageFromCounter counter

def toReservation (record : Record) : Transaction QuotaReservation := do
  let usage ← usageForReservation record
  return {
    id := record.id
    subjectId := record.subjectId
    resource := record.resource
    windowKey := record.windowKey
    cost := record.cost
    status := record.status
    usage := usage
    idempotencyKey := record.idempotencyKey }

def reserve (command : ReserveQuota) : Transaction Answer := do
  match ← findIdempotentReservation command with
  | some existing => return .reservation (← toReservation existing)
  | none =>
      ensureCounter command
      if ← insertReservation command then
        match ← tryIncrementCounter command with
        | none =>
            deleteReservation command.reservationId
            return .rejected
        | some usage => return .reservation (command.reservation usage)
      else
        match ← findIdempotentReservation command with
        | none => throw (.runtimeError "quota reservation conflict without a winner")
        | some existing => return .reservation (← toReservation existing)

/-- The branch of `finalize` and `refund` that claimed nothing. -/
def settledUsage (settlement : Settlement) (reservationId : String) : Transaction Answer := do
  let record ← requireReservation reservationId
  if record.status = settlement.refusal.1 then throw settlement.refusal.2
  else return .usage (← usageForReservation record)

def finalize (reservationId : String) : Transaction Answer := do
  match ← claimReserved reservationId .finalized with
  | some claimed => return .usage (← usageForReservation claimed)
  | none => settledUsage .finalize reservationId

/-- The update of the counter a refund sends, `result.one()` included. -/
def lowerCounter (claimed : Record) : Transaction QuotaUsage := do
  let tables ← get
  match tables.counters.find claimed.key with
  | none => throw .noResultFound
  | some counter =>
      let lowered := { counter with
        used := if claimed.cost ≤ counter.used then counter.used - claimed.cost else 0 }
      set { tables with counters := tables.counters.put lowered }
      return usageFromCounter lowered

def refund (reservationId : String) : Transaction Answer := do
  match ← claimReserved reservationId .refunded with
  | some claimed => return .usage (← lowerCounter claimed)
  | none => settledUsage .refund reservationId

def getUsage (query : QuotaUsageQuery) : Transaction Answer := do
  sendTexts [query.subjectId, query.resource, query.windowKey]
  match (← get).counters.find query.key with
  | none => return .usage (usageFromQuery query)
  | some counter => return .usage (usageFromCounter counter)

/-- The two deletes of a reset. -/
def clear (cleared : WindowKey → Bool) : Transaction Unit :=
  modify fun tables =>
    { counters := tables.counters.erase fun counter => cleared counter.key
      reservations := tables.reservations.erase fun record => cleared record.key }

def resetUsage (query : QuotaUsageQuery) : Transaction Answer := do
  sendTexts [query.subjectId, query.resource]
  clear (Operation.resetUsage query).clears
  return .usage (usageFromQuery query)

def resetResource (resource : String) : Transaction Answer := do
  sendTexts [resource]
  clear (Operation.resetResource resource).clears
  return .done

def transaction : Operation → Transaction Answer
  | .reserve command => reserve command
  | .finalize reservationId => finalize reservationId
  | .refund reservationId => refund reservationId
  | .getUsage query => getUsage query
  | .resetUsage query => resetUsage query
  | .resetResource resource => resetResource resource

/-- One transaction: what it wrote is kept only if it does not raise. -/
def perform (tables : Tables) (operation : Operation) : Tables × Except QuotaError Answer :=
  match (transaction operation).run tables with
  | .ok (answer, written) => (written, .ok answer)
  | .error error => (tables, .error error)

end AiPlatform.Quota.Postgres

import AiPlatform.Lib.Machine
import AiPlatform.Quota.PostgresStore

set_option autoImplicit false

/- The transactions of `PostgresQuotaStore` statement by statement at READ COMMITTED. A statement
reads the committed rows and the rows its own transaction has written. A row that a transaction
has written stays locked until its end: a statement that needs it waits, and goes on with the
row as it is then. -/
namespace AiPlatform.Quota.Statements

open Columns
open Postgres (Record newRecord setStatus)

/-- A row of `quota_counters`. The call that inserts it draws its `uuid4`; `row` is the number of
that call. -/
structure CounterRow extends Counter where
  row : Nat
deriving DecidableEq

def CounterRow.key (row : CounterRow) : WindowKey := row.toCounter.key

structure Database where
  counters : Table CounterRow.key
  reservations : Table Record.id

/-- What a transaction has written and not committed: the rows it put and those it deleted. -/
structure Writes where
  counter : Option CounterRow := none
  reservation : Option Record := none
  goneReservations : List String := []
  goneCounters : List WindowKey := []
deriving DecidableEq

/-- The rows a transaction has locked. -/
def Writes.keys (writes : Writes) : List WindowKey :=
  writes.counter.toList.map CounterRow.key ++ writes.goneCounters

def Writes.ids (writes : Writes) : List String :=
  writes.reservation.toList.map Record.id ++ writes.goneReservations

def Database.putCounter (db : Database) : Option CounterRow → Table CounterRow.key
  | none => db.counters
  | some row => db.counters.put row

def Database.putReservation (db : Database) : Option Record → Table Record.id
  | none => db.reservations
  | some record => db.reservations.put record

/-- The commit of what a transaction has written. -/
def Database.apply (db : Database) (writes : Writes) : Database where
  counters := (db.putCounter writes.counter).erase fun row => row.key ∈ writes.goneCounters
  reservations :=
    (db.putReservation writes.reservation).erase fun record => record.id ∈ writes.goneReservations

/-- The statement a transaction comes to next, with what it has in hand. The two `deleting` ones
hold what is left of the rows the DELETE saw when it began. -/
inductive Pc where
  | find
  | existing (record : Record)
  | ensure
  | insert
  | refind
  | increment
  | withdraw
  | claim
  | claimed (record : Record)
  | require
  | settled (record : Record)
  | read
  | deleteReservations
  | deletingReservations (ids : List String)
  | deleteCounters
  | deletingCounters (rows : List (WindowKey × Nat))
  | commit (answer : Answer)
  | returned (answer : Answer)
  | raised (error : QuotaError)
  | aborted
deriving DecidableEq

structure Call where
  id : Nat
  operation : Operation
  pc : Pc
  writes : Writes := {}
deriving DecidableEq

/-- `settled` lists the reservations that committed transactions have taken out of `reserved`. -/
structure State where
  db : Database
  calls : Table Call.id
  settled : List String

def init : State := ⟨⟨.empty, .empty⟩, .empty, []⟩

/- What a statement sends: texts without NUL, integers and texts that fit their columns. -/

def checkTexts (texts : List String) : Except QuotaError Unit :=
  if ∀ text ∈ texts, sendable text then .ok () else .error .dataError

def checkInteger (value : Int) : Except QuotaError Unit :=
  if fitsInteger value then .ok () else .error .dataError

def column (width : Nat) (text : String) : Except QuotaError String :=
  match storedText width text with
  | some stored => .ok stored
  | none => .error .dataError

/-- The row `_ensure_counter` sends. -/
def counterValues (command : ReserveQuota) (row : Nat) : Except QuotaError CounterRow := do
  checkTexts [command.subjectId, command.resource, command.windowKey]
  checkInteger command.limit
  let subjectId ← column 255 command.subjectId
  let resource ← column 255 command.resource
  let windowKey ← column 64 command.windowKey
  return {
    subjectId := subjectId
    resource := resource
    windowKey := windowKey
    used := 0
    limit := command.limit
    resetAt := command.resetAt
    row := row }

/-- The row `reserve` inserts. -/
def recordValues (command : ReserveQuota) : Except QuotaError Record := do
  checkTexts (command.reservationId :: command.subjectId :: command.resource ::
    command.windowKey :: command.idempotencyKey.toList)
  checkInteger command.cost
  let id ← column 36 command.reservationId
  let subjectId ← column 255 command.subjectId
  let resource ← column 255 command.resource
  let windowKey ← column 64 command.windowKey
  let idempotencyKey ← command.idempotencyKey.mapM (column 255)
  return { newRecord command with
    id := id
    subjectId := subjectId
    resource := resource
    windowKey := windowKey
    idempotencyKey := idempotencyKey }

def findIdempotent (db : Database) (command : ReserveQuota) : Except QuotaError (Option Record) :=
  match command.idempotencyKey with
  | none => .ok none
  | some idempotencyKey => do
      checkTexts [command.subjectId, command.resource, command.windowKey, idempotencyKey]
      return db.reservations.rows.find? fun record =>
        decide (record.index = some (command.key, idempotencyKey))

/-- `on_conflict_do_update`: the row there is keeps its identity and what it has used. -/
def upserted (db : Database) (fresh : CounterRow) : CounterRow :=
  match db.counters.find fresh.key with
  | none => fresh
  | some row => { row with limit := fresh.limit, resetAt := fresh.resetAt }

/-- Two rows that a unique constraint of `quota_reservations` keeps apart. -/
def clash (left right : Record) : Bool :=
  left.id = right.id || (left.index ≠ none && left.index = right.index)

/-- The counter row as the transaction sees it. -/
def seen (db : Database) (call : Call) (key : WindowKey) : Option CounterRow :=
  match call.writes.counter with
  | some row => if row.key = key then some row else db.counters.find key
  | none => db.counters.find key

/-- `_usage_for_reservation`. -/
def usageFor (db : Database) (call : Call) (record : Record) : Except QuotaError QuotaUsage :=
  match seen db call record.key with
  | none => .error .noResultFound
  | some row => .ok (usageFromCounter row.toCounter)

/-- `_try_increment_counter` on the row that `_ensure_counter` wrote. A text that was cut to its
column is in no row, so the update then matches nothing. -/
def incremented (call : Call) (command : ReserveQuota) : Except QuotaError (Option CounterRow) := do
  checkTexts [command.subjectId, command.resource, command.windowKey]
  checkInteger command.cost
  checkInteger command.limit
  match call.writes.counter with
  | none => return none
  | some row =>
      if row.key = command.key then
        checkInteger (row.used + command.cost)
        if row.used + command.cost ≤ command.limit then
          return some { row with
            used := row.used + command.cost
            limit := command.limit
            resetAt := command.resetAt }
        else return none
      else return none

/-- The update of the counter a refund sends. -/
def lowered (row : CounterRow) (cost : Int) : CounterRow :=
  { row with used := if cost ≤ row.used then row.used - cost else 0 }

namespace State

variable (state : State) (call : Call)

/-- Another transaction has the row. -/
def counterLocked (key : WindowKey) : Bool :=
  state.calls.rows.any fun other => other.id ≠ call.id && key ∈ other.writes.keys

def reservationLocked (id : String) : Bool :=
  state.calls.rows.any fun other => other.id ≠ call.id && id ∈ other.writes.ids

/-- The insert meets a row that another transaction has written or is deleting. -/
def contested (record : Record) : Bool :=
  state.calls.rows.any fun other => other.id ≠ call.id &&
    (other.writes.reservation.any (clash record) ||
      state.db.reservations.rows.any fun row =>
        clash record row && row.id ∈ other.writes.goneReservations)

/-- A statement that raises rolls its transaction back. -/
def attempt {Value : Type} (outcome : Except QuotaError Value)
    (rest : Value → Option (Pc × Writes)) : Option (Pc × Writes) :=
  match outcome with
  | .ok value => rest value
  | .error error => some (.raised error, {})

def reserve (command : ReserveQuota) : Option (Pc × Writes) :=
  match call.pc with
  | .find =>
      attempt (findIdempotent state.db command) fun
        | some existing => some (.existing existing, call.writes)
        | none => some (.ensure, call.writes)
  | .existing record =>
      attempt (usageFor state.db call record) fun usage =>
        some (.commit (.reservation
          { id := record.id
            subjectId := record.subjectId
            resource := record.resource
            windowKey := record.windowKey
            cost := record.cost
            status := record.status
            usage := usage
            idempotencyKey := record.idempotencyKey }), call.writes)
  | .ensure =>
      attempt (counterValues command call.id) fun fresh =>
        if state.counterLocked call fresh.key then none
        else some (.insert, { call.writes with counter := some (upserted state.db fresh) })
  | .insert =>
      attempt (recordValues command) fun record =>
        if state.contested call record then none
        else if state.db.reservations.rows.any (clash record) then some (.refind, call.writes)
        else some (.increment, { call.writes with reservation := some record })
  | .refind =>
      attempt (findIdempotent state.db command) fun
        | some existing => some (.existing existing, call.writes)
        | none =>
            some (.raised (.runtimeError "quota reservation conflict without a winner"), {})
  | .increment =>
      attempt (incremented call command) fun
        | some charged =>
            some (.commit (.reservation (command.reservation (usageFromCounter charged.toCounter))),
              { call.writes with counter := some charged })
        | none => some (.withdraw, call.writes)
  | .withdraw =>
      attempt (checkTexts [command.reservationId]) fun _ =>
        some (.commit .rejected,
          { call.writes with
            reservation := call.writes.reservation.filter fun record =>
              record.id ≠ command.reservationId })
  | _ => none

/-- `finalize` and `refund`. The claim does not see a row that is not committed, and does not
wait for a row that is not `reserved`. -/
def settle (settlement : Settlement) (reservationId : String) : Option (Pc × Writes) :=
  match call.pc with
  | .claim =>
      attempt (checkTexts [reservationId]) fun _ =>
        match state.db.reservations.find reservationId with
        | none => some (.require, call.writes)
        | some record =>
            if record.status = .reserved then
              if state.reservationLocked call reservationId then none
              else
                let claimed := setStatus settlement.status record
                some (.claimed claimed, { call.writes with reservation := some claimed })
            else some (.require, call.writes)
  | .claimed record =>
      match settlement with
      | .finalize =>
          attempt (usageFor state.db call record) fun usage =>
            some (.commit (.usage usage), call.writes)
      | .refund =>
          if state.counterLocked call record.key then none
          else
            match state.db.counters.find record.key with
            | none => some (.raised .noResultFound, {})
            | some row =>
                some (.commit (.usage (usageFromCounter (lowered row record.cost).toCounter)),
                  { call.writes with counter := some (lowered row record.cost) })
  | .require =>
      match state.db.reservations.find reservationId with
      | none => some (.raised (.keyError reservationId), {})
      | some record =>
          if record.status = settlement.refusal.1 then some (.raised settlement.refusal.2, {})
          else some (.settled record, call.writes)
  | .settled record =>
      attempt (usageFor state.db call record) fun usage =>
        some (.commit (.usage usage), call.writes)
  | _ => none

def getUsage (query : QuotaUsageQuery) : Option (Pc × Writes) :=
  match call.pc with
  | .read =>
      attempt (checkTexts [query.subjectId, query.resource, query.windowKey]) fun _ =>
        match state.db.counters.find query.key with
        | none => some (.commit (.usage (usageFromQuery query)), call.writes)
        | some row => some (.commit (.usage (usageFromCounter row.toCounter)), call.writes)
  | _ => none

/-- `reset_usage` and `reset_resource`: each DELETE goes through the rows that it saw when it
began, leaves out those that are gone or changed key, and waits for those that are locked. -/
def reset (texts : List String) (clears : WindowKey → Bool) (answer : Answer) :
    Option (Pc × Writes) :=
  match call.pc with
  | .deleteReservations =>
      attempt (checkTexts texts) fun _ =>
        some (.deletingReservations
          ((state.db.reservations.rows.filter fun record => clears record.key).map Record.id),
          call.writes)
  | .deletingReservations [] => some (.deleteCounters, call.writes)
  | .deletingReservations (id :: rest) =>
      match state.db.reservations.find id with
      | none => some (.deletingReservations rest, call.writes)
      | some record =>
          if clears record.key then
            if state.reservationLocked call id then none
            else
              some (.deletingReservations rest,
                { call.writes with goneReservations := id :: call.writes.goneReservations })
          else some (.deletingReservations rest, call.writes)
  | .deleteCounters =>
      some (.deletingCounters
        ((state.db.counters.rows.filter fun row => clears row.key).map fun row =>
          (row.key, row.row)), call.writes)
  | .deletingCounters [] => some (.commit answer, call.writes)
  | .deletingCounters ((key, number) :: rest) =>
      match state.db.counters.find key with
      | none => some (.deletingCounters rest, call.writes)
      | some row =>
          if row.row = number then
            if state.counterLocked call key then none
            else
              some (.deletingCounters rest,
                { call.writes with goneCounters := key :: call.writes.goneCounters })
          else some (.deletingCounters rest, call.writes)
  | _ => none

end State

/-- The next statement of a call; `none` is a wait, or no statement left. -/
def statement (state : State) (call : Call) : Option (Pc × Writes) :=
  match call.operation with
  | .reserve command => state.reserve call command
  | .finalize reservationId => state.settle call .finalize reservationId
  | .refund reservationId => state.settle call .refund reservationId
  | .getUsage query => state.getUsage call query
  | .resetUsage query =>
      state.reset call [query.subjectId, query.resource] (Operation.resetUsage query).clears
        (.usage (usageFromQuery query))
  | .resetResource resource =>
      state.reset call [resource] (Operation.resetResource resource).clears .done

def start : Operation → Pc
  | .reserve _ => .find
  | .finalize _ => .claim
  | .refund _ => .claim
  | .getUsage _ => .read
  | .resetUsage _ => .deleteReservations
  | .resetResource _ => .deleteReservations

/-- The reservation a committed transaction took out of `reserved`: only a claim rewrites one. -/
def settles (call : Call) : List String :=
  match call.operation with
  | .finalize _ => call.writes.reservation.toList.map Record.id
  | .refund _ => call.writes.reservation.toList.map Record.id
  | _ => []

def Pc.finished : Pc → Bool
  | .returned _ => true
  | .raised _ => true
  | .aborted => true
  | _ => false

/-- `execute` runs the next statement of a call, or its commit; `abort` is a lost connection, a
deadlock or any other end that rolls back. -/
inductive Action where
  | call (id : Nat) (operation : Operation)
  | execute (id : Nat)
  | abort (id : Nat)
deriving DecidableEq

def State.update (state : State) (call : Call) : State :=
  { state with calls := state.calls.put call }

def step (state : State) : Action → Option State
  | .call id operation =>
      match state.calls.find id with
      | some _ => none
      | none => some (state.update { id := id, operation := operation, pc := start operation })
  | .execute id => do
      let call ← state.calls.find id
      match call.pc with
      | .commit answer =>
          return {
            db := state.db.apply call.writes
            calls := state.calls.put { call with pc := .returned answer, writes := {} }
            settled := state.settled ++ settles call }
      | _ =>
          let (pc, writes) ← statement state call
          return state.update { call with pc := pc, writes := writes }
  | .abort id => do
      let call ← state.calls.find id
      if call.pc.finished then none
      else some (state.update { call with pc := .aborted, writes := {} })

end AiPlatform.Quota.Statements

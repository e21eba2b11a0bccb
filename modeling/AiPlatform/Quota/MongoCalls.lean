import AiPlatform.Lib.Machine
import AiPlatform.Quota.MongoStore

set_option autoImplicit false

/- Concurrent calls on one `MongoQuotaStore`. A call is a program counter; each step sends
its next command, and every command is atomic. -/
namespace AiPlatform.Quota.Mongo

open Machine

/-- A call that starts with `_migrate_active_counters`. -/
inductive Job where
  | reserve (command : ReserveQuota)
  | getUsage (query : QuotaUsageQuery)
deriving DecidableEq

def Job.target : Job → Target
  | .reserve command => reserveTarget command
  | .getUsage query => queryTarget query

/-- The next command of a call. -/
inductive Pc where
  | migrate (job : Job)
  | touch (job : Job)
  | claimStale (job : Job) (windowKey : String) (rest : List String)
  | addToTarget (job : Job) (windowKey : String) (used : Int) (rest : List String)
  | repoint (job : Job) (windowKey : String) (rest : List String)
  | find (command : ReserveQuota)
  | ensureCounter (command : ReserveQuota)
  | insert (command : ReserveQuota)
  | refind (command : ReserveQuota)
  | charge (command : ReserveQuota)
  | withdraw (command : ReserveQuota)
  | answer (doc : Reservation)
  | readUsage (query : QuotaUsageQuery)
  | claim (settlement : Settlement) (reservationId : String)
  | require (settlement : Settlement) (reservationId : String)
  | usageFor (doc : Reservation)
  | decrement (doc : Reservation)
deriving DecidableEq

/-- Where a call goes after the migration. -/
def Job.resume : Job → Pc
  | .reserve command =>
      if command.idempotencyKey = none then .ensureCounter command else .find command
  | .getUsage query => .readUsage query

/-- The loop over the stale counters that are left. -/
def Job.migrateRest (job : Job) : List String → Pc
  | [] => job.resume
  | windowKey :: rest => .claimStale job windowKey rest

inductive Request where
  | serve (job : Job)
  | settle (settlement : Settlement) (reservationId : String)
deriving DecidableEq

def Request.entry : Request → Pc
  | .serve job => .migrate job
  | .settle settlement reservationId => .claim settlement reservationId

/-- The id drawn for the reservation of a `reserve` call. -/
def Request.drawnId : Request → Option String
  | .serve (.reserve command) => some command.reservationId
  | _ => none

inductive Reply where
  | reservation (reservation : QuotaReservation)
  | rejected
  | usage (usage : QuotaUsage)
deriving DecidableEq

inductive Event where
  | charged (call : Nat) (reservationId : String) (key : Group × String) (cost : Int)
  | settled (call : Nat) (reservationId : String) (settlement : Settlement)
  | decremented (call : Nat) (reservationId : String) (key : Group × String) (cost : Int)
  | returned (call : Nat) (request : Request) (outcome : Except QuotaError Reply)
deriving DecidableEq

inductive Next where
  | goto (pc : Pc)
  | done (outcome : Except QuotaError Reply)

structure Result where
  db : Collections
  next : Next
  events : List Event := []

/-- One command of a call. -/
def perform (call : Nat) (now : Int) (db : Collections) : Pc → Result
  | .migrate job =>
      match staleWindows db.counters job.target now with
      | [] =>
          if (db.counters.find job.target.key).isSome then ⟨db, .goto (.touch job), []⟩
          else ⟨db, .goto job.resume, []⟩
      | windowKey :: rest => ⟨db, .goto (.claimStale job windowKey rest), []⟩
  | .touch job =>
      ⟨{ db with counters := increment db.counters job.target 0 }, .goto job.resume, []⟩
  | .claimStale job windowKey rest =>
      match db.counters.find (job.target.group, windowKey) with
      | none => ⟨db, .goto (job.migrateRest rest), []⟩
      | some claimed =>
          ⟨{ db with counters := db.counters.remove (job.target.group, windowKey) },
            .goto (.addToTarget job windowKey claimed.used rest), []⟩
  | .addToTarget job windowKey used rest =>
      ⟨{ db with counters := upsert db.counters job.target used },
        .goto (.repoint job windowKey rest), []⟩
  | .repoint job windowKey rest =>
      match repoint db.reservations job.target windowKey with
      | (true, moved) => ⟨{ db with reservations := moved }, .goto (job.migrateRest rest), []⟩
      | (false, moved) => ⟨{ db with reservations := moved }, .done (.error .duplicateKeyError), []⟩
  | .find command =>
      match findIdempotentReservation db.reservations command with
      | some existing => ⟨db, .goto (.answer existing), []⟩
      | none => ⟨db, .goto (.ensureCounter command), []⟩
  | .ensureCounter command =>
      ⟨{ db with counters := upsert db.counters (reserveTarget command) 0 },
        .goto (.insert command), []⟩
  | .insert command =>
      match db.reservations.insert (reservationDoc command) with
      | some inserted => ⟨{ db with reservations := inserted }, .goto (.charge command), []⟩
      | none =>
          if command.idempotencyKey = none then ⟨db, .done (.error .duplicateKeyError), []⟩
          else ⟨db, .goto (.refind command), []⟩
  | .refind command =>
      match findIdempotentReservation db.reservations command with
      | some existing => ⟨db, .goto (.answer existing), []⟩
      | none => ⟨db, .done (.error .duplicateKeyError), []⟩
  | .charge command =>
      match db.counters.find (reserveTarget command).key with
      | none => ⟨db, .goto (.withdraw command), []⟩
      | some counter =>
          if counter.used + command.cost ≤ command.limit then
            ⟨{ db with counters := increment db.counters (reserveTarget command) command.cost },
              .done (.ok (.reservation (reservationFromDoc (reservationDoc command)
                (usageFromCounter (counter.refresh (reserveTarget command) command.cost))))),
              [.charged call command.reservationId (reserveTarget command).key command.cost]⟩
          else ⟨db, .goto (.withdraw command), []⟩
  | .withdraw command =>
      ⟨{ db with reservations := db.reservations.remove command.reservationId },
        .done (.ok .rejected), []⟩
  | .answer doc =>
      match db.counters.find doc.key with
      | none => ⟨db, .done (.error (.keyError doc.id)), []⟩
      | some counter =>
          ⟨db, .done (.ok (.reservation (reservationFromDoc doc (usageFromCounter counter)))), []⟩
  | .readUsage query =>
      match db.counters.find (queryTarget query).key with
      | none => ⟨db, .done (.ok (.usage (usageFromQuery query))), []⟩
      | some counter =>
          ⟨{ db with counters := increment db.counters (queryTarget query) 0 },
            .done (.ok (.usage (usageFromCounter (counter.refresh (queryTarget query) 0)))), []⟩
  | .claim settlement reservationId =>
      match claimReserved db.reservations reservationId settlement with
      | none => ⟨db, .goto (.require settlement reservationId), []⟩
      | some (claimed, settled) =>
          ⟨{ db with reservations := settled },
            .goto (match settlement with
              | .finalize => .usageFor claimed
              | .refund => .decrement claimed),
            [.settled call reservationId settlement]⟩
  | .require settlement reservationId =>
      match db.reservations.find reservationId with
      | none => ⟨db, .done (.error (.keyError reservationId)), []⟩
      | some doc =>
          if doc.status = settlement.refusal.1 then ⟨db, .done (.error settlement.refusal.2), []⟩
          else ⟨db, .goto (.usageFor doc), []⟩
  | .usageFor doc =>
      match db.counters.find doc.key with
      | none => ⟨db, .done (.error (.keyError doc.id)), []⟩
      | some counter => ⟨db, .done (.ok (.usage (usageFromCounter counter))), []⟩
  | .decrement doc =>
      match db.counters.find doc.key with
      | none => ⟨db, .done (.error (.keyError doc.id)), []⟩
      | some counter =>
          ⟨{ db with counters := decrement db.counters doc },
            .done (.ok (.usage (usageFromCounter (counter.lower doc.cost)))),
            [.decremented call doc.id doc.key doc.cost]⟩

structure Running where
  id : Nat
  request : Request
  pc : Pc
deriving DecidableEq

def Running.drawnId (running : Running) : Option String := running.request.drawnId

def Running.goto (running : Running) (pc : Pc) : Running := { running with pc := pc }

@[simp] theorem Running.goto_id (running : Running) (pc : Pc) : (running.goto pc).id = running.id :=
  rfl

@[simp] theorem Running.goto_drawnId (running : Running) (pc : Pc) :
    (running.goto pc).drawnId = running.drawnId := rfl

abbrev Calls := Indexed Running.id Running.drawnId

structure State where
  db : Collections
  calls : Calls
  drawn : List String
  clock : Int
  log : List Event

def State.init (start : Int) : State := ⟨⟨.empty, .empty⟩, .empty, [], start, []⟩

inductive Action where
  | start (call : Nat) (request : Request)
  | advance (call : Nat) (now : Int)
deriving DecidableEq

/-- `uuid4` draws no id twice. -/
def start (state : State) (call : Nat) (request : Request) : Option State :=
  if request.drawnId.any (· ∈ state.drawn) then none
  else (state.calls.insert ⟨call, request, request.entry⟩).map fun calls =>
    { state with calls := calls, drawn := request.drawnId.toList ++ state.drawn }

def resume (calls : Calls) (call : Nat) : Next → Calls
  | .goto pc => calls.modify call (fun running => running.goto pc)
      (fun running => running.goto_id pc) fun running => running.goto_drawnId pc
  | .done _ => calls.remove call

def Next.report (running : Running) : Next → List Event
  | .goto _ => []
  | .done outcome => [.returned running.id running.request outcome]

def advance (state : State) (call : Nat) (now : Int) : Option State :=
  (state.calls.find call).map fun running =>
    { state with
      db := (perform call now state.db running.pc).db
      calls := resume state.calls call (perform call now state.db running.pc).next
      clock := now
      log := state.log ++ (perform call now state.db running.pc).events ++
        (perform call now state.db running.pc).next.report running }

def step (state : State) : Action → Option State
  | .start call request => start state call request
  | .advance call now => if now < state.clock then none else advance state call now

end AiPlatform.Quota.Mongo

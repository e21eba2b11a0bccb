import AiPlatform.Lib.Indexed
import AiPlatform.Quota.Models

set_option autoImplicit false

/- The two collections of `MongoQuotaStore` with the unique indexes of `ensure_indexes`, and
the single commands its methods send. -/
namespace AiPlatform.Quota.Mongo

/-- A subject and a resource. -/
abbrev Group := String × String

structure Counter where
  subjectId : String
  resource : String
  windowKey : String
  used : Int
  limit : Int
  resetAt : Int
deriving DecidableEq

def Counter.group (counter : Counter) : Group := (counter.subjectId, counter.resource)

/-- `uq_quota_counters_subject_resource_window`. -/
def Counter.key (counter : Counter) : Group × String := (counter.group, counter.windowKey)

structure Reservation where
  id : String
  subjectId : String
  resource : String
  windowKey : String
  cost : Int
  status : QuotaReservationStatus
  idempotencyKey : Option String
  resetAt : Int
deriving DecidableEq

def Reservation.group (reservation : Reservation) : Group :=
  (reservation.subjectId, reservation.resource)

def Reservation.key (reservation : Reservation) : Group × String :=
  (reservation.group, reservation.windowKey)

/-- `uq_quota_reservations_idempotency`, partial on keys that are strings. -/
def Reservation.index (reservation : Reservation) : Option ((Group × String) × String) :=
  reservation.idempotencyKey.map fun idempotencyKey => (reservation.key, idempotencyKey)

structure Collections where
  counters : Table Counter.key
  reservations : Indexed Reservation.id Reservation.index

/-- What `_migrate_active_counters` reads of its command or query. -/
structure Target where
  group : Group
  windowKey : String
  limit : Int
  resetAt : Int
deriving DecidableEq

def Target.key (target : Target) : Group × String := (target.group, target.windowKey)

def reserveTarget (command : ReserveQuota) : Target :=
  ⟨(command.subjectId, command.resource), command.windowKey, command.limit, command.resetAt⟩

def queryTarget (query : QuotaUsageQuery) : Target :=
  ⟨(query.subjectId, query.resource), query.windowKey, query.limit, query.resetAt⟩

def usageFromCounter (counter : Counter) : QuotaUsage where
  subjectId := counter.subjectId
  resource := counter.resource
  windowKey := counter.windowKey
  used := counter.used
  limit := counter.limit
  remaining := max (counter.limit - counter.used) 0
  resetAt := counter.resetAt

def usageFromQuery (query : QuotaUsageQuery) : QuotaUsage where
  subjectId := query.subjectId
  resource := query.resource
  windowKey := query.windowKey
  used := 0
  limit := query.limit
  remaining := query.limit
  resetAt := query.resetAt

def reservationFromDoc (doc : Reservation) (usage : QuotaUsage) : QuotaReservation where
  id := doc.id
  subjectId := doc.subjectId
  resource := doc.resource
  windowKey := doc.windowKey
  cost := doc.cost
  status := doc.status
  usage := usage
  idempotencyKey := doc.idempotencyKey

def reservationDoc (command : ReserveQuota) : Reservation where
  id := command.reservationId
  subjectId := command.subjectId
  resource := command.resource
  windowKey := command.windowKey
  cost := command.cost
  status := .reserved
  idempotencyKey := command.idempotencyKey
  resetAt := command.resetAt

def Counter.refresh (counter : Counter) (target : Target) (amount : Int) : Counter :=
  { counter with
    used := counter.used + amount
    limit := target.limit
    resetAt := target.resetAt }

@[simp] theorem Counter.refresh_key (counter : Counter) (target : Target) (amount : Int) :
    (counter.refresh target amount).key = counter.key := rfl

@[simp] theorem Counter.refresh_used (counter : Counter) (target : Target) (amount : Int) :
    (counter.refresh target amount).used = counter.used + amount := rfl

/-- `$inc` of `used` with `$set` of limit and reset on the target's counter, if there is one. -/
def increment (counters : Table Counter.key) (target : Target) (amount : Int) :
    Table Counter.key :=
  counters.modify target.key (fun counter => counter.refresh target amount)
    fun counter => counter.refresh_key target amount

def Target.counter (target : Target) (used : Int) : Counter where
  subjectId := target.group.1
  resource := target.group.2
  windowKey := target.windowKey
  used := used
  limit := target.limit
  resetAt := target.resetAt

@[simp] theorem Target.counter_key (target : Target) (used : Int) :
    (target.counter used).key = target.key := rfl

/-- The same with `upsert=True`: a missing counter starts from zero. -/
def upsert (counters : Table Counter.key) (target : Target) (amount : Int) : Table Counter.key :=
  match counters.insert (target.counter amount) with
  | some added => added
  | none => increment counters target amount

/-- `_find_idempotent_reservation`. -/
def findIdempotentReservation (reservations : Indexed Reservation.id Reservation.index)
    (command : ReserveQuota) : Option Reservation :=
  command.idempotencyKey.bind fun idempotencyKey =>
    reservations.findBy ((reserveTarget command).key, idempotencyKey)

/-- The windows of the other counters of the group that are still active. -/
def staleWindows (counters : Table Counter.key) (target : Target) (now : Int) : List String :=
  (counters.rows.filter fun counter => counter.group = target.group &&
    (counter.windowKey ≠ target.windowKey && now < counter.resetAt)).map Counter.windowKey

def Reservation.settle (doc : Reservation) (settlement : Settlement) : Reservation :=
  { doc with status := settlement.status }

@[simp] theorem Reservation.settle_id (doc : Reservation) (settlement : Settlement) :
    (doc.settle settlement).id = doc.id := rfl

@[simp] theorem Reservation.settle_index (doc : Reservation) (settlement : Settlement) :
    (doc.settle settlement).index = doc.index := rfl

/-- `_claim_reserved`: the document before the update. -/
def claimReserved (reservations : Indexed Reservation.id Reservation.index) (id : String)
    (settlement : Settlement) :
    Option (Reservation × Indexed Reservation.id Reservation.index) :=
  match reservations.find id with
  | none => none
  | some doc =>
      if doc.status = .reserved then
        some (doc, reservations.modify id (fun doc => doc.settle settlement)
          (fun doc => doc.settle_id settlement) fun doc => doc.settle_index settlement)
      else none

def Reservation.move (doc : Reservation) (target : Target) : Reservation :=
  { doc with windowKey := target.windowKey, resetAt := target.resetAt }

@[simp] theorem Reservation.move_id (doc : Reservation) (target : Target) :
    (doc.move target).id = doc.id := rfl

/-- `update_many` document by document; a duplicate key ends it with what was done so far. -/
def moveAll (target : Target) :
    List String → Indexed Reservation.id Reservation.index →
      Bool × Indexed Reservation.id Reservation.index
  | [], reservations => (true, reservations)
  | id :: rest, reservations =>
      match reservations.rewrite id (fun doc => doc.move target) fun doc => doc.move_id target with
      | none => (false, reservations)
      | some moved => moveAll target rest moved

/-- The re-pointing of the reservations of a stale window. -/
def repoint (reservations : Indexed Reservation.id Reservation.index) (target : Target)
    (windowKey : String) : Bool × Indexed Reservation.id Reservation.index :=
  moveAll target ((reservations.table.rows.filter fun doc =>
    doc.key = (target.group, windowKey)).map Reservation.id) reservations

def Counter.lower (counter : Counter) (cost : Int) : Counter :=
  { counter with used := counter.used - cost }

@[simp] theorem Counter.lower_key (counter : Counter) (cost : Int) :
    (counter.lower cost).key = counter.key := rfl

@[simp] theorem Counter.lower_used (counter : Counter) (cost : Int) :
    (counter.lower cost).used = counter.used - cost := rfl

/-- `$inc` of `used` by minus the cost of a refunded reservation. -/
def decrement (counters : Table Counter.key) (doc : Reservation) : Table Counter.key :=
  counters.modify doc.key (fun counter => counter.lower doc.cost)
    fun counter => counter.lower_key doc.cost

end AiPlatform.Quota.Mongo

import AiPlatform.Quota.Models

set_option autoImplicit false

/- The calls of a `QuotaStore` and what the in-memory and the Postgres store share. -/
namespace AiPlatform.Quota

/-- A subject, a resource and a window. -/
abbrev WindowKey := String × String × String

structure Counter where
  subjectId : String
  resource : String
  windowKey : String
  used : Int
  limit : Int
  resetAt : Int
deriving DecidableEq

def Counter.key (counter : Counter) : WindowKey :=
  (counter.subjectId, counter.resource, counter.windowKey)

def usageFromCounter (counter : Counter) : QuotaUsage where
  subjectId := counter.subjectId
  resource := counter.resource
  windowKey := counter.windowKey
  used := counter.used
  limit := counter.limit
  remaining := max (counter.limit - counter.used) 0
  resetAt := counter.resetAt

def usageFromQuery (query : QuotaUsageQuery) : QuotaUsage where
  subjectId := query.subjectId
  resource := query.resource
  windowKey := query.windowKey
  used := 0
  limit := query.limit
  remaining := query.limit
  resetAt := query.resetAt

def ReserveQuota.key (command : ReserveQuota) : WindowKey :=
  (command.subjectId, command.resource, command.windowKey)

def QuotaUsageQuery.key (query : QuotaUsageQuery) : WindowKey :=
  (query.subjectId, query.resource, query.windowKey)

def QuotaReservation.key (reservation : QuotaReservation) : WindowKey :=
  (reservation.subjectId, reservation.resource, reservation.windowKey)

/-- The counter a first reservation of a window starts from. -/
def ReserveQuota.freshCounter (command : ReserveQuota) : Counter where
  subjectId := command.subjectId
  resource := command.resource
  windowKey := command.windowKey
  used := 0
  limit := command.limit
  resetAt := command.resetAt

@[simp] theorem ReserveQuota.freshCounter_key (command : ReserveQuota) :
    command.freshCounter.key = command.key := rfl

/-- The reservation a successful `reserve` returns. -/
def ReserveQuota.reservation (command : ReserveQuota) (usage : QuotaUsage) : QuotaReservation where
  id := command.reservationId
  subjectId := command.subjectId
  resource := command.resource
  windowKey := command.windowKey
  cost := command.cost
  status := .reserved
  usage := usage
  idempotencyKey := command.idempotencyKey

inductive Operation where
  | reserve (command : ReserveQuota)
  | finalize (reservationId : String)
  | refund (reservationId : String)
  | getUsage (query : QuotaUsageQuery)
  | resetUsage (query : QuotaUsageQuery)
  | resetResource (resource : String)
deriving DecidableEq

inductive Answer where
  | reservation (reservation : QuotaReservation)
  | rejected
  | usage (usage : QuotaUsage)
  | done
deriving DecidableEq

/-- The counter after the settlement of a reservation. -/
def Settlement.counter : Settlement → QuotaReservation → Counter → Counter
  | .finalize, _, counter => counter
  | .refund, reservation, counter =>
      { counter with used := max (counter.used - reservation.cost) 0 }

def QuotaError.isKeyError : QuotaError → Bool
  | .keyError _ => true
  | .counterKeyError _ => true
  | _ => false

/-- The id drawn for the reservation of a `reserve` call. -/
def Operation.drawnId : Operation → Option String
  | .reserve command => some command.reservationId
  | _ => none

/-- The keys a reset clears. -/
def Operation.clears : Operation → WindowKey → Bool
  | .resetUsage query, key => key.1 = query.subjectId && key.2.1 = query.resource
  | .resetResource resource, key => key.2.1 = resource
  | _, _ => false

end AiPlatform.Quota

import Mathlib.Data.String.Defs

set_option autoImplicit false

/- The quota commands and results. Costs and limits are positive by construction. -/
namespace AiPlatform.Quota

inductive QuotaReservationStatus where
  | reserved
  | finalized
  | refunded
deriving DecidableEq, Repr

/-- `__post_init__` refuses every other command. -/
structure ReserveQuota where
  subjectId : String
  resource : String
  windowKey : String
  limit : Int
  cost : Int
  resetAt : Int
  reservationId : String
  idempotencyKey : Option String
  subjectNonempty : subjectId ≠ "" := by decide
  resourceNonempty : resource ≠ "" := by decide
  windowNonempty : windowKey ≠ "" := by decide
  limitPositive : 0 < limit := by decide
  costPositive : 0 < cost := by decide
deriving DecidableEq

structure QuotaUsageQuery where
  subjectId : String
  resource : String
  windowKey : String
  limit : Int
  resetAt : Int
deriving DecidableEq

structure QuotaUsage where
  subjectId : String
  resource : String
  windowKey : String
  used : Int
  limit : Int
  remaining : Int
  resetAt : Int
deriving DecidableEq

structure QuotaReservation where
  id : String
  subjectId : String
  resource : String
  windowKey : String
  cost : Int
  status : QuotaReservationStatus
  usage : QuotaUsage
  idempotencyKey : Option String
deriving DecidableEq

/-- The errors the stores raise. -/
inductive QuotaError where
  | keyError (reservationId : String)
  | counterKeyError (key : String × String × String)
  | valueError (message : String)
  | duplicateKeyError
  | runtimeError (message : String)
  | noResultFound
  | dataError
deriving DecidableEq

/-- The two ways out of `reserved`. -/
inductive Settlement where
  | finalize
  | refund
deriving DecidableEq

def Settlement.status : Settlement → QuotaReservationStatus
  | .finalize => .finalized
  | .refund => .refunded

/-- The other settlement, and what is raised when it came first. -/
def Settlement.refusal : Settlement → QuotaReservationStatus × QuotaError
  | .finalize => (.refunded, .valueError "refunded reservation cannot be finalized")
  | .refund => (.finalized, .valueError "finalized reservation cannot be refunded")

end AiPlatform.Quota

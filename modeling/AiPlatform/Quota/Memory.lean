import AiPlatform.Lib.Table
import AiPlatform.Quota.Operations

set_option autoImplicit false

/- `MemoryQuotaStore`: three dictionaries under one lock, so every call is one step. -/
namespace AiPlatform.Quota.Memory

/-- An item of `_idempotency`. -/
structure Entry where
  key : WindowKey
  idempotencyKey : String
  reservationId : String
deriving DecidableEq

def Entry.index (entry : Entry) : WindowKey × String := (entry.key, entry.idempotencyKey)

structure Store where
  counters : Table Counter.key
  reservations : Table QuotaReservation.id
  idempotency : Table Entry.index
  closed : Bool

def Store.init : Store := ⟨.empty, .empty, .empty, false⟩

/-- `_counter_for`: the counters with the one of the command in place, and that counter. -/
def counterFor (counters : Table Counter.key) (command : ReserveQuota) :
    Table Counter.key × Counter :=
  match counters.find command.key with
  | some counter => (counters, counter)
  | none => (counters.put command.freshCounter, command.freshCounter)

def chargedCounter (command : ReserveQuota) (counter : Counter) : Counter :=
  { counter with
    used := counter.used + command.cost
    limit := command.limit
    resetAt := command.resetAt }

def reserve (store : Store) (command : ReserveQuota) : Store × Except QuotaError Answer :=
  match command.idempotencyKey.bind fun key => store.idempotency.find (command.key, key) with
  | some entry =>
      match store.reservations.find entry.reservationId with
      | some reservation => (store, .ok (.reservation reservation))
      | none => (store, .error (.keyError entry.reservationId))
  | none =>
      let (counters, counter) := counterFor store.counters command
      if command.limit < counter.used + command.cost then
        ({ store with counters := counters }, .ok .rejected)
      else
        let charged := chargedCounter command counter
        let reservation := command.reservation (usageFromCounter charged)
        ({ store with
            counters := counters.put charged
            reservations := store.reservations.put reservation
            idempotency := match command.idempotencyKey with
              | some key => store.idempotency.put ⟨command.key, key, reservation.id⟩
              | none => store.idempotency }, .ok (.reservation reservation))

def finalize (store : Store) (reservationId : String) : Store × Except QuotaError Answer :=
  match store.reservations.find reservationId with
  | none => (store, .error (.keyError reservationId))
  | some reservation =>
      match reservation.status with
      | .refunded => (store, .error Settlement.finalize.refusal.2)
      | .finalized => (store, .ok (.usage reservation.usage))
      | .reserved =>
          match store.counters.find reservation.key with
          | none => (store, .error (.counterKeyError reservation.key))
          | some counter =>
              let finalized := { reservation with
                status := .finalized
                usage := usageFromCounter counter }
              ({ store with reservations := store.reservations.put finalized },
                .ok (.usage finalized.usage))

def refund (store : Store) (reservationId : String) : Store × Except QuotaError Answer :=
  match store.reservations.find reservationId with
  | none => (store, .error (.keyError reservationId))
  | some reservation =>
      match reservation.status with
      | .finalized => (store, .error Settlement.refund.refusal.2)
      | .refunded => (store, .ok (.usage reservation.usage))
      | .reserved =>
          match store.counters.find reservation.key with
          | none => (store, .error (.counterKeyError reservation.key))
          | some counter =>
              let lowered := { counter with used := max (counter.used - reservation.cost) 0 }
              let refunded := { reservation with
                status := .refunded
                usage := usageFromCounter lowered }
              ({ store with
                  counters := store.counters.put lowered
                  reservations := store.reservations.put refunded },
                .ok (.usage refunded.usage))

def getUsage (store : Store) (query : QuotaUsageQuery) : Store × Except QuotaError Answer :=
  match store.counters.find query.key with
  | none => (store, .ok (.usage (usageFromQuery query)))
  | some counter =>
      let refreshed := { counter with limit := query.limit, resetAt := query.resetAt }
      ({ store with counters := store.counters.put refreshed },
        .ok (.usage (usageFromCounter refreshed)))

/-- The three dictionaries rebuilt without the keys that `cleared` names. -/
def clear (store : Store) (cleared : WindowKey → Bool) : Store :=
  { store with
    counters := store.counters.erase fun counter => cleared counter.key
    reservations := store.reservations.erase fun reservation => cleared reservation.key
    idempotency := store.idempotency.erase fun entry => cleared entry.key }

/-- The call once the store is known to be open. -/
def performOpen (store : Store) : Operation → Store × Except QuotaError Answer
  | .reserve command => reserve store command
  | .finalize reservationId => finalize store reservationId
  | .refund reservationId => refund store reservationId
  | .getUsage query => getUsage store query
  | .resetUsage query =>
      (clear store (Operation.resetUsage query).clears, .ok (.usage (usageFromQuery query)))
  | .resetResource resource => (clear store (Operation.resetResource resource).clears, .ok .done)

/-- `_ensure_open`, then the call. -/
def perform (store : Store) (operation : Operation) : Store × Except QuotaError Answer :=
  if store.closed then (store, .error (.runtimeError "quota store is closed"))
  else performOpen store operation

end AiPlatform.Quota.Memory

import Mathlib.Tactic.Ring
import Std.Data.String.ToInt
import AiPlatform.Core.Datetime
import AiPlatform.Lib.Machine
import AiPlatform.Quota.Models

set_option autoImplicit false

/- The windows of `resolve_fixed_window` and the retry hint of `QuotaService.reserve`. The clock
shows microseconds; its readings are taken exactly. -/
namespace AiPlatform.Quota

open Machine (bind_ok)

/-- A datetime: its fields as microseconds since the epoch and, if aware, its offset from UTC. -/
structure Reading where
  wall : Int
  offset : Option Int
  representable : Datetime.Representable wall := by decide

/-- A naive datetime is one in UTC. -/
def Reading.instant (reading : Reading) : Int := reading.wall - reading.offset.getD 0

inductive ServiceError where
  | valueError (message : String)
  | keyError (message : String) (resource : String)
  | overflowError
deriving DecidableEq

/-- `_ensure_utc`. -/
def ensureUtc (value : Reading) : Except ServiceError Reading :=
  match value.offset with
  | none => .ok { value with offset := some 0 }
  | some offset =>
      if fits : Datetime.Representable (value.wall - offset) then
        .ok { wall := value.wall - offset, offset := some 0, representable := fits }
      else .error .overflowError

/-- `datetime.fromtimestamp` of whole seconds. -/
def fromtimestamp (seconds : Int) : Except ServiceError Int :=
  if Datetime.Representable (timedelta seconds) then .ok (timedelta seconds)
  else .error (.valueError "year is out of range")

structure QuotaWindow where
  key : String
  resetAt : Int
deriving DecidableEq

/-- `int(current.timestamp())`, towards zero. -/
def epochSeconds (current : Int) : Int := current.tdiv microsecondsPerSecond

def resolveFixedWindow (now : Reading) (windowSeconds : Int) : Except ServiceError QuotaWindow :=
  if windowSeconds ≤ 0 then .error (.valueError "window_seconds must be positive")
  else do
    let current ← ensureUtc now
    let windowIndex := epochSeconds current.instant / windowSeconds
    let resetEpoch := (windowIndex + 1) * windowSeconds
    let resetAt ← fromtimestamp resetEpoch
    return { key := windowIndex.repr, resetAt := resetAt }

/-- `ceil((reset_at - now).total_seconds())`, at least one. -/
def retryAfterSeconds (resetAt now : Int) : Int :=
  max (-(-(resetAt - now) / microsecondsPerSecond)) 1

section Windows

variable (windowSeconds : Int)

/-- The index of the window of an instant. -/
def windowIndexOf (instant : Int) : Int := epochSeconds instant / windowSeconds

/-- The first instant after the window of an instant. -/
def windowEnd (instant : Int) : Int :=
  timedelta ((windowIndexOf windowSeconds instant + 1) * windowSeconds)

variable {windowSeconds}

/-- The window with an index holds the instants from `index * window_seconds` on. -/
theorem windowIndexOf_iff (positive : 0 < windowSeconds) {instant : Int} (begun : 0 ≤ instant)
    (index : Int) :
    windowIndexOf windowSeconds instant = index ↔
      timedelta (index * windowSeconds) ≤ instant ∧
        instant < timedelta ((index + 1) * windowSeconds) := by
  have seconds : epochSeconds instant = instant / 1000000 := Int.tdiv_eq_ediv_of_nonneg begun
  have bounds : windowIndexOf windowSeconds instant = index ↔
      index * windowSeconds ≤ instant / 1000000 ∧
        instant / 1000000 < (index + 1) * windowSeconds := by
    unfold windowIndexOf
    rw [seconds, ← Int.le_ediv_iff_mul_le positive, ← Int.ediv_lt_iff_lt_mul positive]
    omega
  rw [bounds]
  unfold timedelta microsecondsPerSecond
  omega

theorem windowEnd_after (positive : 0 < windowSeconds) {instant : Int} (begun : 0 ≤ instant) :
    windowEnd windowSeconds instant - timedelta windowSeconds ≤ instant ∧
      instant < windowEnd windowSeconds instant := by
  have bounds := (windowIndexOf_iff positive begun _).mp rfl
  have whole : timedelta ((windowIndexOf windowSeconds instant + 1) * windowSeconds) =
      timedelta (windowIndexOf windowSeconds instant * windowSeconds) +
        timedelta windowSeconds := by
    unfold timedelta
    ring
  unfold windowEnd
  omega

/-- An instant is in the window of another when it is between its ends. -/
theorem windowIndexOf_eq_iff (positive : 0 < windowSeconds) {first second : Int}
    (begun : 0 ≤ second) :
    windowIndexOf windowSeconds first = windowIndexOf windowSeconds second ↔
      windowEnd windowSeconds first - timedelta windowSeconds ≤ second ∧
        second < windowEnd windowSeconds first := by
  have whole : windowEnd windowSeconds first - timedelta windowSeconds =
      timedelta (windowIndexOf windowSeconds first * windowSeconds) := by
    unfold windowEnd timedelta
    ring
  rw [whole, eq_comm]
  exact windowIndexOf_iff positive begun _

theorem windowIndexOf_mono (positive : 0 < windowSeconds) {first second : Int} (begun : 0 ≤ first)
    (order : first ≤ second) :
    windowIndexOf windowSeconds first ≤ windowIndexOf windowSeconds second := by
  have earlier : epochSeconds first = first / 1000000 := Int.tdiv_eq_ediv_of_nonneg begun
  have later : epochSeconds second = second / 1000000 :=
    Int.tdiv_eq_ediv_of_nonneg (begun.trans order)
  unfold windowIndexOf
  rw [earlier, later]
  apply Int.ediv_le_ediv positive
  omega

/-- The hint is at least a second and at most a window, and leads into the next window. -/
theorem retryAfterSeconds_spec (positive : 0 < windowSeconds)
    {instant : Int} (begun : 0 ≤ instant) :
    let wait := retryAfterSeconds (windowEnd windowSeconds instant) instant
    1 ≤ wait ∧ wait ≤ windowSeconds ∧
      windowIndexOf windowSeconds (instant + timedelta wait) =
        windowIndexOf windowSeconds instant + 1 := by
  have bounds := windowEnd_after positive begun
  have shape : windowEnd windowSeconds instant =
      (windowIndexOf windowSeconds instant + 1) * windowSeconds * 1000000 := rfl
  have after : (windowIndexOf windowSeconds instant + 1 + 1) * windowSeconds =
      (windowIndexOf windowSeconds instant + 1) * windowSeconds + windowSeconds := by
    ring
  intro wait
  have ceiling : wait = max (-(-(windowEnd windowSeconds instant - instant) / 1000000)) 1 := rfl
  unfold timedelta microsecondsPerSecond at bounds ⊢
  refine ⟨by omega, by omega, ?_⟩
  apply (windowIndexOf_iff positive (by omega) _).mpr
  unfold timedelta microsecondsPerSecond
  rw [after]
  omega

end Windows

section Resolution

variable {windowSeconds : Int} {now : Reading} {window : QuotaWindow}

theorem ensureUtc_ok {utc : Reading} (converted : ensureUtc now = .ok utc) :
    utc.instant = now.instant := by
  unfold ensureUtc at converted
  cases aware : now.offset with
  | none =>
      simp only [aware] at converted
      rw [← Except.ok.inj converted]
      simp [Reading.instant, aware]
  | some offset =>
      simp only [aware] at converted
      split at converted
      · rw [← Except.ok.inj converted]
        simp [Reading.instant, aware]
      · cases converted

theorem ensureUtc_fits (instant : Datetime.Representable now.instant) :
    ∃ utc, ensureUtc now = .ok utc := by
  unfold ensureUtc
  unfold Reading.instant at instant
  cases aware : now.offset with
  | none => exact ⟨_, rfl⟩
  | some offset =>
      rw [aware, Option.getD_some] at instant
      exact ⟨_, dif_pos instant⟩

theorem resolve_ok (resolved : resolveFixedWindow now windowSeconds = .ok window) :
    Datetime.Representable (windowEnd windowSeconds now.instant) ∧
      window = ⟨(windowIndexOf windowSeconds now.instant).repr,
        windowEnd windowSeconds now.instant⟩ := by
  unfold resolveFixedWindow at resolved
  split at resolved
  · cases resolved
  · have ⟨utc, converted, rest⟩ := bind_ok.mp resolved
    have ⟨resetAt, reset, returned⟩ := bind_ok.mp rest
    rw [ensureUtc_ok converted] at reset returned
    unfold fromtimestamp at reset
    split at reset
    · rename_i fits
      rw [← Except.ok.inj returned, ← Except.ok.inj reset]
      exact ⟨fits, rfl⟩
    · cases reset

/-- A window that ends by the last datetime is resolved. -/
theorem resolve_eq (positive : 0 < windowSeconds) (begun : 0 ≤ now.instant)
    (reset : Datetime.Representable (windowEnd windowSeconds now.instant)) :
    resolveFixedWindow now windowSeconds =
      .ok ⟨(windowIndexOf windowSeconds now.instant).repr,
        windowEnd windowSeconds now.instant⟩ := by
  have bounds := windowEnd_after positive begun
  have instant : Datetime.Representable now.instant := by
    unfold Datetime.Representable Datetime.microsecondsPerDay Datetime.epochOrdinal at reset ⊢
    omega
  have ⟨utc, converted⟩ := ensureUtc_fits instant
  unfold windowEnd windowIndexOf at reset
  unfold resolveFixedWindow fromtimestamp
  rw [if_neg (not_le.mpr positive), converted]
  simp only [bind, Except.bind, ensureUtc_ok converted, reset, if_true]
  rfl

/-- A reading in the next window resolves to it. -/
theorem resolve_next {later : Reading} (positive : 0 < windowSeconds) (begun : 0 ≤ now.instant)
    (fits : Datetime.Representable (windowEnd windowSeconds now.instant))
    (forward : now.instant ≤ later.instant)
    (next : windowIndexOf windowSeconds later.instant =
      windowIndexOf windowSeconds now.instant + 1)
    (reset : Datetime.Representable (windowEnd windowSeconds later.instant)) :
    ∃ window next index, resolveFixedWindow now windowSeconds = .ok window ∧
      resolveFixedWindow later windowSeconds = .ok next ∧
      window.key.toInt? = some index ∧ next.key.toInt? = some (index + 1) ∧
      next.resetAt = window.resetAt + timedelta windowSeconds := by
  refine ⟨_, _, _, resolve_eq positive begun fits, resolve_eq positive (begun.trans forward) reset,
    Int.toInt?_repr _, ?_, ?_⟩
  · rw [next]
    exact Int.toInt?_repr _
  · unfold windowEnd
    dsimp only
    rw [next]
    unfold timedelta
    ring

end Resolution

structure QuotaPolicy where
  resource : String
  limit : Int
  windowSeconds : Int
  defaultCost : Int := 1
  resourceNonempty : resource ≠ "" := by decide
  limitPositive : 0 < limit := by decide
  windowPositive : 0 < windowSeconds := by decide
  defaultCostPositive : 0 < defaultCost := by decide

/-- `ReserveQuota.create`, with the id it draws. -/
def ReserveQuota.create (subjectId resource windowKey : String) (limit cost resetAt : Int)
    (idempotencyKey : Option String) (reservationId : String) : Except ServiceError ReserveQuota :=
  if subject : subjectId = "" then .error (.valueError "subject_id must be non-empty")
  else if named : resource = "" then .error (.valueError "resource must be non-empty")
  else if window : windowKey = "" then .error (.valueError "window_key must be non-empty")
  else if limited : limit ≤ 0 then .error (.valueError "limit must be positive")
  else if charged : cost ≤ 0 then .error (.valueError "cost must be positive")
  else .ok {
    subjectId, resource, windowKey, limit, cost, resetAt, reservationId, idempotencyKey
    subjectNonempty := subject
    resourceNonempty := named
    windowNonempty := window
    limitPositive := not_le.mp limited
    costPositive := not_le.mp charged }

/-- `RateLimitError`, with the data of a rejected reservation. -/
structure RateLimitError where
  message : String
  code : String := "rate_limit_exceeded"
  statusCode : Nat := 429
  retryAfterSeconds : Int
  data : String × String × Int × Int × String
deriving DecidableEq

/-- The `Retry-After` header. -/
def RateLimitError.headers (error : RateLimitError) : List (String × String) :=
  [("Retry-After", error.retryAfterSeconds.repr)]

namespace QuotaService

variable {Store Failure : Type}

/-- What a call raises: an error of the service, a rejection, or an error of one of the stores. -/
inductive Raised (Failure : Type) where
  | service (error : ServiceError)
  | rateLimit (error : RateLimitError)
  | failure (error : Failure)
deriving DecidableEq

/-- `_resolve_policy`. -/
def resolvePolicy (getPolicy : String → Except Failure (Option QuotaPolicy)) (resource : String)
    (policy : Option QuotaPolicy) : Except (Raised Failure) QuotaPolicy :=
  match policy with
  | some policy =>
      if policy.resource ≠ resource then
        .error (.service (.valueError "policy resource must match requested resource"))
      else .ok policy
  | none =>
      match getPolicy resource with
      | .error error => .error (.failure error)
      | .ok none =>
          .error (.service (.keyError "No quota policy configured for resource" resource))
      | .ok (some stored) => .ok stored

/-- `reserve`, over any store: `clock` is the reading it takes, `reservationId` the id it draws. -/
def reserve (getPolicy : String → Except Failure (Option QuotaPolicy))
    (storeReserve : Store → ReserveQuota → Except Failure (Option QuotaReservation) × Store)
    (store : Store) (clock : Reading) (reservationId subjectId resource : String)
    (cost : Option Int) (policy : Option QuotaPolicy) (idempotencyKey : Option String) :
    Except (Raised Failure) QuotaReservation × Store :=
  match resolvePolicy getPolicy resource policy with
  | .error raised => (.error raised, store)
  | .ok resolvedPolicy =>
      let resolvedCost := cost.getD resolvedPolicy.defaultCost
      if resolvedCost ≤ 0 then (.error (.service (.valueError "cost must be positive")), store)
      else
        let prepared := do
          let now ← ensureUtc clock
          let window ← resolveFixedWindow now resolvedPolicy.windowSeconds
          let command ← ReserveQuota.create subjectId resolvedPolicy.resource window.key
            resolvedPolicy.limit resolvedCost window.resetAt idempotencyKey reservationId
          return (now, window, command)
        match prepared with
        | .error error => (.error (.service error), store)
        | .ok (now, window, command) =>
            match storeReserve store command with
            | (.error error, saved) => (.error (.failure error), saved)
            | (.ok (some reservation), saved) => (.ok reservation, saved)
            | (.ok none, saved) =>
                (.error (.rateLimit {
                  message := "Quota exceeded for resource " ++ resolvedPolicy.resource
                  retryAfterSeconds := retryAfterSeconds window.resetAt now.instant
                  data := (subjectId, resolvedPolicy.resource, resolvedPolicy.limit, resolvedCost,
                    Datetime.isoformat window.resetAt) }), saved)

/-- A rejection carries the wait from the reading of the clock to the end of its window. -/
theorem reserve_rejected {getPolicy : String → Except Failure (Option QuotaPolicy)}
    {storeReserve : Store → ReserveQuota → Except Failure (Option QuotaReservation) × Store}
    {store saved : Store} {clock : Reading} {reservationId subjectId resource : String}
    {cost : Option Int} {policy : Option QuotaPolicy} {idempotencyKey : Option String}
    {resolved : QuotaPolicy} {error : RateLimitError}
    (configured : resolvePolicy getPolicy resource policy = .ok resolved)
    (rejected : reserve getPolicy storeReserve store clock reservationId subjectId resource cost
      policy idempotencyKey = (.error (.rateLimit error), saved)) :
    Datetime.Representable (windowEnd resolved.windowSeconds clock.instant) ∧
      error.retryAfterSeconds =
        retryAfterSeconds (windowEnd resolved.windowSeconds clock.instant) clock.instant := by
  unfold reserve at rejected
  rw [configured] at rejected
  dsimp only at rejected
  split at rejected
  · cases rejected
  · split at rejected
    · cases rejected
    · rename_i now window command prepared
      have ⟨utc, converted, rest⟩ := bind_ok.mp prepared
      have ⟨found, resolution, last⟩ := bind_ok.mp rest
      have ⟨created, _, returned⟩ := bind_ok.mp last
      have ⟨sameNow, others⟩ := Prod.mk.inj (Except.ok.inj returned)
      have ⟨sameWindow, _⟩ := Prod.mk.inj others
      have ⟨fits, shape⟩ := resolve_ok resolution
      rw [ensureUtc_ok converted] at fits shape
      split at rejected
      · cases rejected
      · cases rejected
      · have ⟨raised, _⟩ := Prod.mk.inj rejected
        rw [← QuotaService.Raised.rateLimit.inj (Except.error.inj raised), ← sameNow,
          ← sameWindow, shape, ensureUtc_ok converted]
        exact ⟨fits, rfl⟩

end QuotaService

/-- The windows partition time from the epoch on: a reading lies in its window, two readings have
the same key when they lie in the same one, and keys count up. A rejection tells the client to come
back in the next window. Every window here ends by the last datetime. -/
theorem quota_windows :
    (∀ (windowSeconds : Int) (now : Reading), 0 < windowSeconds → 0 ≤ now.instant →
      Datetime.Representable (windowEnd windowSeconds now.instant) →
      ∃ window, resolveFixedWindow now windowSeconds = .ok window ∧
        window.resetAt - timedelta windowSeconds ≤ now.instant ∧ now.instant < window.resetAt) ∧
    (∀ (windowSeconds : Int) (first second : Reading) (one other : QuotaWindow), 0 < windowSeconds →
      0 ≤ first.instant → 0 ≤ second.instant →
      resolveFixedWindow first windowSeconds = .ok one →
      resolveFixedWindow second windowSeconds = .ok other →
      (one.key = other.key ↔
        one.resetAt - timedelta windowSeconds ≤ second.instant ∧ second.instant < one.resetAt) ∧
      (first.instant ≤ second.instant → ∃ low high, one.key.toInt? = some low ∧
        other.key.toInt? = some high ∧ low ≤ high)) ∧
    (∀ (Store Failure : Type) (getPolicy : String → Except Failure (Option QuotaPolicy))
      (storeReserve : Store → ReserveQuota → Except Failure (Option QuotaReservation) × Store)
      (store saved : Store) (clock : Reading) (reservationId subjectId resource : String)
      (cost : Option Int) (policy : Option QuotaPolicy) (idempotencyKey : Option String)
      (resolved : QuotaPolicy) (error : RateLimitError), 0 ≤ clock.instant →
      QuotaService.resolvePolicy getPolicy resource policy = .ok resolved →
      QuotaService.reserve getPolicy storeReserve store clock reservationId subjectId resource cost
        policy idempotencyKey = (.error (.rateLimit error), saved) →
      1 ≤ error.retryAfterSeconds ∧ error.retryAfterSeconds ≤ resolved.windowSeconds ∧
        ∀ later : Reading, later.instant = clock.instant + timedelta error.retryAfterSeconds →
          Datetime.Representable (windowEnd resolved.windowSeconds later.instant) →
          ∃ window next index, resolveFixedWindow clock resolved.windowSeconds = .ok window ∧
            resolveFixedWindow later resolved.windowSeconds = .ok next ∧
            window.key.toInt? = some index ∧ next.key.toInt? = some (index + 1) ∧
            next.resetAt = window.resetAt + timedelta resolved.windowSeconds) := by
  refine ⟨?_, ?_, ?_⟩
  · intro windowSeconds now positive begun reset
    exact ⟨_, resolve_eq positive begun reset, windowEnd_after positive begun⟩
  · intro windowSeconds first second one other positive begun later resolvedOne resolvedOther
    rw [(resolve_ok resolvedOne).2, (resolve_ok resolvedOther).2]
    constructor
    · rw [← windowIndexOf_eq_iff positive later]
      exact Int.repr_inj
    · intro order
      exact ⟨_, _, Int.toInt?_repr _, Int.toInt?_repr _, windowIndexOf_mono positive begun order⟩
  · intro Store Failure getPolicy storeReserve store saved clock reservationId
      subjectId resource cost
      policy idempotencyKey resolved error begun configured rejected
    have ⟨fits, wait⟩ := QuotaService.reserve_rejected configured rejected
    have ⟨least, most, next⟩ := retryAfterSeconds_spec resolved.windowPositive begun
    rw [← wait] at least most next
    refine ⟨least, most, fun later after reset => ?_⟩
    rw [← after] at next
    have forward : clock.instant ≤ later.instant := by
      unfold timedelta microsecondsPerSecond at after
      omega
    exact resolve_next resolved.windowPositive begun fits forward next reset

/-- Windows of a minute: a reading half a second past another one, in the same window, and a
reservation over the limit, rejected at the first of them with half a second more than 29 to
wait. -/
theorem quota_windows_minute :
    let first : Reading := ⟨90500000, none, by decide⟩
    let second : Reading := ⟨3691000000, some 3600000000, by decide⟩
    (∃ window, resolveFixedWindow first 60 = .ok window ∧
      window.resetAt - timedelta 60 ≤ first.instant ∧ first.instant < window.resetAt) ∧
    ("1" = "1" ↔ 120000000 - timedelta 60 ≤ second.instant ∧ second.instant < 120000000) ∧
    (1 ≤ (30 : Int) ∧ (30 : Int) ≤ 60) := by
  intro first second
  let policy : QuotaPolicy := { resource := "completions", limit := 1, windowSeconds := 60 }
  let rejecting : Unit → ReserveQuota → Except Unit (Option QuotaReservation) × Unit :=
    fun store command =>
      if command.limit < command.cost then (.ok none, store) else (.error (), store)
  have partition := quota_windows.1 60 first (by decide) (by decide) (by decide)
  have keys := quota_windows.2.1 60 first second ⟨"1", 120000000⟩ ⟨"1", 120000000⟩ (by decide)
    (by decide) (by decide) (by decide +kernel) (by decide +kernel)
  have rejected := quota_windows.2.2 Unit Unit (fun _ => .ok none) rejecting () () first "r" "u"
    "completions" (some 2) (some policy) none policy
    { message := "Quota exceeded for resource completions"
      retryAfterSeconds := 30
      data := ("u", "completions", 1, 2, "1970-01-01T00:02:00+00:00") }
    (by decide) rfl (by decide +kernel)
  exact ⟨partition, keys.1, rejected.1, rejected.2.1⟩

/-- A window that would end after the last datetime. -/
theorem quota_windows_beyond :
    ¬∀ (windowSeconds : Int) (now : Reading), 0 < windowSeconds → 0 ≤ now.instant →
      ∃ window, resolveFixedWindow now windowSeconds = .ok window ∧
        window.resetAt - timedelta windowSeconds ≤ now.instant ∧ now.instant < window.resetAt := by
  intro resolves
  have ⟨window, resolved, _⟩ := resolves 1000000000000 ⟨0, none, by decide⟩ (by decide) (by decide)
  have fits := (resolve_ok resolved).1
  exact absurd fits (by decide)

end AiPlatform.Quota

import AiPlatform.Lib.Text
import AiPlatform.RateLimit.Bursts

set_option autoImplicit false

/- `IPRateLimitMiddleware` in front of the application. A request passes unchecked when its path
contains one of the excluded paths anywhere. -/
namespace AiPlatform.RateLimit

open Machine

abbrev Bytes := List UInt8

/-- An ASCII literal. -/
def bytes (text : String) : Bytes := text.toList.map fun letter => UInt8.ofNat letter.toNat

/-- `bytes.decode("latin-1")`. -/
def decodeLatin1 (value : Bytes) : String :=
  String.ofList (value.map fun byte => Char.ofNat byte.toNat)

inductive ScopeType
  | http
  | websocket
  | lifespan
deriving DecidableEq, Repr

structure Scope where
  type : ScopeType
  path : Option String := none
  client : Option (String × Nat) := none
  headers : List (Bytes × Bytes) := []
deriving DecidableEq

/-- The answer to a request that is not passed on; the request id in its body is left out. -/
structure RateLimited where
  status : Nat := 429
  code : String := "rate_limit_exceeded"
  message : String := "Too many requests from this client"
  retryAfter : Option Int
deriving DecidableEq

/-- What becomes of a request: `self.app` is called, or an error is sent. -/
inductive Outcome
  | app
  | rateLimited (response : RateLimited)
deriving DecidableEq

/-- `PlatformSettings.rate_limit_exclude_patterns`. -/
def rateLimitExcludePatterns (rateLimitExcludePaths : String) : List String :=
  Text.splitStripped rateLimitExcludePaths ','

structure IPRateLimitMiddleware where
  excludePatterns : List String := []
  trustedProxyCount : Nat := 0

namespace IPRateLimitMiddleware

variable (middleware : IPRateLimitMiddleware)

/-- `_is_excluded`. -/
def isExcluded (path : String) : Bool :=
  middleware.excludePatterns.any fun pattern => Text.isIn pattern path

/-- The addresses of all `X-Forwarded-For` headers, left to right. -/
def hops (headers : List (Bytes × Bytes)) : List String :=
  (headers.filter fun header => header.1 = bytes "x-forwarded-for").flatMap fun header =>
    Text.splitStripped (decodeLatin1 header.2) ','

/-- `_extract_client_ip`. -/
def extractClientIp (scope : Scope) : String :=
  let peer := (scope.client.map Prod.fst).getD "unknown"
  if middleware.trustedProxyCount = 0 then peer
  else
    let hops := hops scope.headers
    if hops.length < middleware.trustedProxyCount then peer
    else hops.getD (hops.length - middleware.trustedProxyCount) peer

/-- `__call__`, with the limiter that the application's resources hold, if any. -/
def call (limiter : Option (Limits × InMemoryRateLimiter.EvictionThreshold))
    (counts : InMemoryRateLimiter.Counts) (now : Rat) (scope : Scope) :
    Outcome × InMemoryRateLimiter.Counts :=
  if scope.type ≠ .http then (.app, counts)
  else
    let path := scope.path.getD ""
    if middleware.isExcluded path then (.app, counts)
    else match limiter with
      | none => (.app, counts)
      | some (limits, threshold) =>
          let clientIp := middleware.extractClientIp scope
          let (result, counted) := InMemoryRateLimiter.check limits threshold counts now clientIp
          if result.allowed then (.app, counted)
          else (.rateLimited { retryAfter := result.retryAfterSeconds }, counted)

end IPRateLimitMiddleware

structure Arrival where
  now : Rat
  scope : Scope
deriving DecidableEq

/-- The limiter's counts, the time of the last request and the requests that reached the
application, oldest first. -/
structure Gateway where
  counts : InMemoryRateLimiter.Counts := .empty
  last : Option Rat := none
  reached : List Arrival := []

def Gateway.by (gateway : Gateway) (now : Rat) : Prop := ∀ last ∈ gateway.last, last ≤ now

instance (gateway : Gateway) (now : Rat) : Decidable (gateway.by now) :=
  inferInstanceAs (Decidable (∀ last ∈ gateway.last, last ≤ now))

section Requests

variable (middleware : IPRateLimitMiddleware) (limits : Limits)
variable (threshold : InMemoryRateLimiter.EvictionThreshold)

def serve (gateway : Gateway) (arrival : Arrival) : Option Gateway :=
  if gateway.by arrival.now then
    let called :=
      middleware.call (some (limits, threshold)) gateway.counts arrival.now arrival.scope
    some {
      counts := called.2
      last := some arrival.now
      reached := if called.1 = .app then gateway.reached ++ [arrival] else gateway.reached }
  else none

/-- The limiter is asked about the request. -/
def Checked (arrival : Arrival) : Prop :=
  arrival.scope.type = .http ∧ middleware.isExcluded (arrival.scope.path.getD "") = false

instance (arrival : Arrival) : Decidable (Checked middleware arrival) :=
  inferInstanceAs (Decidable (_ ∧ _))

def checkOf (arrival : Arrival) : Check := ⟨arrival.now, middleware.extractClientIp arrival.scope⟩

/-- The limiter has seen the checked requests, and no others. -/
def Follows (gateway : Gateway) : Prop :=
  ∃ checks state, run (step limits threshold) {} checks = some state ∧
    state.counts = gateway.counts ∧ (∀ now, gateway.by now → state.by now) ∧
    state.allowed = (gateway.reached.filter fun arrival => Checked middleware arrival).map
      (checkOf middleware)

end Requests

section Serving

variable {middleware : IPRateLimitMiddleware} {limits : Limits}
variable {threshold : InMemoryRateLimiter.EvictionThreshold} {gateway next : Gateway}
variable {arrival : Arrival}

variable (limits threshold)

theorem call_unchecked (counts : InMemoryRateLimiter.Counts)
    (skipped : ¬Checked middleware arrival) :
    middleware.call (some (limits, threshold)) counts arrival.now arrival.scope =
      (.app, counts) := by
  unfold IPRateLimitMiddleware.call
  by_cases http : arrival.scope.type = .http
  · have excluded : middleware.isExcluded (arrival.scope.path.getD "") = true := by
      by_contra clean
      exact skipped ⟨http, Bool.eq_false_of_not_eq_true clean⟩
    simp only [http, excluded, ne_eq, not_true_eq_false, if_true, if_false]
  · simp only [http, ne_eq, not_false_eq_true, if_true]

theorem call_checked (counts : InMemoryRateLimiter.Counts) (checked : Checked middleware arrival) :
    let check := checkOf middleware arrival
    let answer := InMemoryRateLimiter.check limits threshold counts check.now check.key
    let called := middleware.call (some (limits, threshold)) counts arrival.now arrival.scope
    (called.1 = .app ↔ answer.1.allowed = true) ∧ called.2 = answer.2 := by
  unfold IPRateLimitMiddleware.call checkOf
  simp only [checked.1, checked.2, ne_eq, not_true_eq_false, if_false, Bool.false_eq_true]
  split
  · rename_i allowed
    exact ⟨iff_of_true rfl allowed, rfl⟩
  · rename_i refused
    exact ⟨iff_of_false (fun same => Outcome.noConfusion same) refused, rfl⟩

variable {limits threshold}

theorem Follows.serve (follows : Follows middleware limits threshold gateway)
    (served : serve middleware limits threshold gateway arrival = some next) :
    Follows middleware limits threshold next := by
  have ⟨checks, state, reached, counts, clock, allowed⟩ := follows
  unfold RateLimit.serve at served
  split at served
  · rename_i later
    have onward : ∀ now, arrival.now ≤ now → gateway.by now := by
      intro now order last ended
      exact le_trans (later last ended) order
    by_cases checked : Checked middleware arrival
    · have ⟨passes, counted⟩ := call_checked limits threshold gateway.counts checked
      have clear : state.by (checkOf middleware arrival).now := clock arrival.now later
      have stepped := step_eq limits threshold clear
      refine ⟨checks ++ [checkOf middleware arrival], _,
        run_append_some.mpr ⟨state, reached, run_cons_some.mpr ⟨_, stepped, rfl⟩⟩, ?_⟩
      obtain rfl := Option.some.inj served
      rw [counts]
      refine ⟨counted.symm, fun now after => after, ?_⟩
      by_cases passed : (InMemoryRateLimiter.check limits threshold gateway.counts
          (checkOf middleware arrival).now (checkOf middleware arrival).key).1.allowed = true
      · rw [if_pos passed, if_pos (passes.mpr passed), List.filter_append, List.map_append, allowed]
        simp [checked]
      · rw [if_neg passed, if_neg fun same => passed (passes.mp same), allowed]
    · have passed := call_unchecked limits threshold gateway.counts checked
      dsimp only at served
      rw [passed] at served
      obtain rfl := Option.some.inj served
      refine ⟨checks, state, reached, counts, fun now after => ?_, ?_⟩
      · exact clock now (onward now (after arrival.now rfl))
      · simp [checked, allowed]
  · cases served

theorem init_follows : Follows middleware limits threshold {} :=
  ⟨[], {}, rfl, rfl, fun _ _ _ ended => (nomatch ended), rfl⟩

theorem run_follows {arrivals : List Arrival}
    (ran : run (serve middleware limits threshold) {} arrivals = some gateway) :
    Follows middleware limits threshold gateway :=
  run_invariant_always (Follows middleware limits threshold)
    (fun _ _ _ follows served => follows.serve served) init_follows ran

/-- A request reaches the application at most by arriving. -/
theorem run_reached {arrivals : List Arrival}
    (ran : run (serve middleware limits threshold) {} arrivals = some gateway) :
    ∀ arrival ∈ gateway.reached, arrival ∈ arrivals := by
  have arrived : Meets (serve middleware limits threshold) (fun _ arrival => arrival ∈ arrivals) {}
      arrivals :=
    meets_of_forall _ fun _ member => member
  apply run_invariant (fun gateway => ∀ arrival ∈ gateway.reached, arrival ∈ arrivals)
    _ _ arrived ran
  · intro before arrival next kept member served other inside
    unfold serve at served
    split at served
    · obtain rfl := Option.some.inj served
      dsimp only at inside
      split at inside
      · rcases List.mem_append.mp inside with old | new
        · exact kept other old
        · rw [List.mem_singleton.mp new]
          exact member
      · exact kept other inside
    · cases served
  · intro arrival inside
    exact absurd inside List.not_mem_nil

end Serving

section Bypass

variable (middleware : IPRateLimitMiddleware) (limits : Limits)
variable (threshold : InMemoryRateLimiter.EvictionThreshold)

/-- The requests of a client in one window that reached the application by a path that is not
excluded. -/
def passed (reached : List Arrival) (ip : String) (index : Int) : Nat :=
  reached.countP fun arrival => arrival.scope.type = .http ∧
    arrival.scope.path.getD "" ∉ middleware.excludePatterns ∧
    middleware.extractClientIp arrival.scope = ip ∧ limits.windowIndex arrival.now = index

/-- What the limiter admitted bounds what reached the application by a checked path. -/
theorem passed_le {gateway : Gateway} (follows : Follows middleware limits threshold gateway)
    (equal : ∀ arrival ∈ gateway.reached, middleware.isExcluded (arrival.scope.path.getD "") →
      arrival.scope.path.getD "" ∈ middleware.excludePatterns) (ip : String) (index : Int) :
    (passed middleware limits gateway.reached ip index : Int) ≤ limits.limit := by
  have ⟨checks, state, ran, counts, clock, allowed⟩ := follows
  have capped := (run_recorded ran).capped ip index
  have counted : passed middleware limits gateway.reached ip index ≤
      admitted limits state.allowed ip index := by
    unfold passed admitted
    rw [allowed, List.countP_map, List.countP_filter]
    apply List.countP_mono_left
    intro arrival inside own
    have ⟨http, free, named, window⟩ := of_decide_eq_true own
    have checked : Checked middleware arrival := by
      refine ⟨http, Bool.eq_false_of_not_eq_true fun excluded => ?_⟩
      exact free (equal arrival inside excluded)
    simp [checked, checkOf, named, window]
  omega

/-- Requests that are not checked all pass. -/
theorem run_unchecked {arrival : Arrival} (skipped : ¬Checked middleware arrival) (count : Nat)
    (gateway : Gateway) (later : gateway.by arrival.now) :
    ∃ final, run (serve middleware limits threshold) gateway (List.replicate count arrival) =
        some final ∧
      final.reached = gateway.reached ++ List.replicate count arrival := by
  induction count generalizing gateway with
  | zero => exact ⟨gateway, rfl, (List.append_nil _).symm⟩
  | succ count ih =>
      have called := call_unchecked limits threshold gateway.counts skipped
      have served : serve middleware limits threshold gateway arrival = some
          ⟨gateway.counts, some arrival.now, gateway.reached ++ [arrival]⟩ := by
        unfold serve
        rw [if_pos later, called]
        rfl
      have again : Gateway.by ⟨gateway.counts, some arrival.now, gateway.reached ++ [arrival]⟩
          arrival.now := by
        intro last ended
        exact (Option.some.inj ended).ge
      have ⟨final, ran, reached⟩ := ih _ again
      refine ⟨final, run_cons_some.mpr ⟨_, served, ran⟩, ?_⟩
      rw [reached, List.append_assoc]
      rfl

/-- For every set of paths: no run of requests for these paths brings more than the limit through in
a window, past the excluded paths themselves, exactly when none of them contains an excluded path
without being one. -/
theorem path_choice (rateLimitExcludePaths : String) (trustedProxyCount : Nat)
    (paths : String → Prop) :
    let middleware : IPRateLimitMiddleware :=
      ⟨rateLimitExcludePatterns rateLimitExcludePaths, trustedProxyCount⟩
    (∀ arrivals gateway, (∀ arrival ∈ arrivals, paths (arrival.scope.path.getD "")) →
      run (serve middleware limits threshold) {} arrivals = some gateway →
      ∀ ip index, (passed middleware limits gateway.reached ip index : Int) ≤ limits.limit) ↔
    ∀ path, paths path → middleware.isExcluded path → path ∈ middleware.excludePatterns := by
  intro middleware
  constructor
  · intro bounded path member excluded
    by_contra free
    have positive := limits.positiveLimit
    let arrival : Arrival := ⟨0, { type := .http, path := some path, client := some ("a", 0) }⟩
    have skipped : ¬Checked middleware arrival := by
      intro checked
      have included : middleware.isExcluded path = false := checked.2
      rw [excluded] at included
      exact Bool.noConfusion included
    have ⟨final, ran, reached⟩ := run_unchecked middleware limits threshold skipped
      (limits.limit.toNat + 1) {} fun _ ended => nomatch ended
    have bound := bounded _ final (fun other inside => by
      rw [List.eq_of_mem_replicate inside]
      exact member) ran (middleware.extractClientIp arrival.scope) (limits.windowIndex arrival.now)
    have all : passed middleware limits final.reached (middleware.extractClientIp arrival.scope)
        (limits.windowIndex arrival.now) = limits.limit.toNat + 1 := by
      unfold passed
      rw [reached, List.nil_append, List.countP_replicate]
      simp [arrival, free]
    omega
  · intro equal arrivals gateway within ran ip index
    apply passed_le middleware limits threshold (run_follows ran)
    intro arrival inside
    exact equal _ (within arrival (run_reached ran arrival inside))

/-- The result of a task named like a health check is read without limit. -/
theorem path_choice_bypass :
    ¬∀ (rateLimitExcludePaths : String) (trustedProxyCount : Nat) (limits : Limits)
      (threshold : InMemoryRateLimiter.EvictionThreshold) (arrivals : List Arrival)
      (gateway : Gateway),
      let middleware : IPRateLimitMiddleware :=
        ⟨rateLimitExcludePatterns rateLimitExcludePaths, trustedProxyCount⟩
      run (serve middleware limits threshold) {} arrivals = some gateway →
      ∀ ip index, (passed middleware limits gateway.reached ip index : Int) ≤ limits.limit := by
  intro bounded
  let arrival : Arrival := ⟨0, {
    type := .http
    path := some "/api/v1/completions/tasks/healthz"
    client := some ("10.0.0.1", 4000) }⟩
  let middleware : IPRateLimitMiddleware := ⟨rateLimitExcludePatterns "/healthz,/readyz", 0⟩
  let full := run (serve middleware { limit := 1 } InMemoryRateLimiter.defaultEvictionThreshold) {}
    [arrival, arrival]
  have ran : full.isSome := by decide +kernel
  have both : ∀ gateway ∈ full,
      passed middleware { limit := 1 } gateway.reached "10.0.0.1" 0 = 2 := by
    decide +kernel
  have ⟨gateway, reached⟩ := Option.isSome_iff_exists.mp ran
  have bound := bounded "/healthz,/readyz" 0 { limit := 1 }
    InMemoryRateLimiter.defaultEvictionThreshold [arrival, arrival] gateway reached "10.0.0.1" 0
  have two := both gateway reached
  dsimp only at bound
  rw [two] at bound
  exact absurd bound (by decide)

end Bypass

end AiPlatform.RateLimit

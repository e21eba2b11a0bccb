import AiPlatform.Core.CircuitBreaker
import AiPlatform.Lib.Table

set_option autoImplicit false

/- One breaker shared by concurrent callers: each acquires once and, if it was admitted, reports at
most once, however late. The breaker does not learn who reports. -/
namespace AiPlatform.Resilience

open Machine

/-- A caller that was admitted; `probe` tells whether the breaker was half-open then. -/
structure Caller where
  id : Nat
  admittedAt : Rat
  probe : Bool
  reported : Bool := false
deriving DecidableEq

inductive Outcome where
  | success
  | failure (error : PyError)
  | release

structure Shared where
  breaker : CircuitBreaker := {}
  clock : Rat
  callers : Table Caller.id := .empty

inductive SharedCall where
  | acquire (id : Nat)
  | report (id : Nat) (outcome : Outcome)

structure SharedAction where
  now : Rat
  call : SharedCall

def Outcome.apply (policy : CircuitBreakerPolicy) (breaker : CircuitBreaker) (now : Rat) :
    Outcome → CircuitBreaker
  | .success => breaker.recordSuccess
  | .failure error => breaker.recordFailure policy now error
  | .release => breaker.releaseProbe

def markReported (caller : Caller) : Caller := { caller with reported := true }

theorem markReported_id (caller : Caller) : (markReported caller).id = caller.id := rfl

def acquire (policy : CircuitBreakerPolicy) (state : Shared) (now : Rat) (id : Nat) :
    Option Shared :=
  let (admitted, breaker) := state.breaker.tryAcquire policy now
  if (state.callers.find id).isSome then none
  else some
    { breaker := breaker
      clock := now
      callers :=
        if admitted then state.callers.put ⟨id, now, breaker.state = .halfOpen, false⟩
        else state.callers }

def report (policy : CircuitBreakerPolicy) (state : Shared) (now : Rat) (id : Nat)
    (outcome : Outcome) : Option Shared :=
  match state.callers.find id with
  | none => none
  | some caller =>
      if caller.reported then none
      else some
        { breaker := outcome.apply policy state.breaker now
          clock := now
          callers := state.callers.modify id markReported markReported_id }

def Shared.step (policy : CircuitBreakerPolicy) (state : Shared) (action : SharedAction) :
    Option Shared :=
  if action.now < state.clock then none
  else
    match action.call with
    | .acquire id => acquire policy state action.now id
    | .report id outcome => report policy state action.now id outcome

/-- No success is reported while the breaker is open. -/
def QuietWhileOpen (state : Shared) (action : SharedAction) : Prop :=
  match action.call with
  | .report _ .success => state.breaker.state ≠ .open
  | _ => True

/-- A probe that has not reported and is held for less than a cooldown. -/
def Caller.outstanding (policy : CircuitBreakerPolicy) (caller : Caller) (now : Rat) : Prop :=
  caller.probe = true ∧ caller.reported = false ∧ now < caller.admittedAt + policy.cooldownSeconds

/-- While a probe is outstanding nobody else reports. -/
def OnlyProbeReports (policy : CircuitBreakerPolicy) (state : Shared) (action : SharedAction) :
    Prop :=
  match action.call with
  | .report id _ =>
      ∀ caller ∈ state.callers.rows, caller.outstanding policy action.now → caller.id = id
  | .acquire _ => True

section Steps

variable {policy : CircuitBreakerPolicy} {state next : Shared} {action : SharedAction}

/-- What a step can do. -/
theorem shared_step_cases (stepped : state.step policy action = some next) :
    state.clock ≤ action.now ∧ next.clock = action.now ∧
      ((∃ id, action.call = .acquire id ∧ state.callers.find id = none ∧
        next.breaker = (state.breaker.tryAcquire policy action.now).2 ∧
        next.callers =
          if (state.breaker.tryAcquire policy action.now).1 then
            state.callers.put ⟨id, action.now, next.breaker.state = .halfOpen, false⟩
          else state.callers) ∨
      ∃ id outcome caller, action.call = .report id outcome ∧
        state.callers.find id = some caller ∧ caller.reported = false ∧
        next.breaker = outcome.apply policy state.breaker action.now ∧
        next.callers = state.callers.modify id markReported markReported_id) := by
  unfold Shared.step at stepped
  split at stepped
  · cases stepped
  rename_i order
  refine ⟨not_lt.mp order, ?_⟩
  cases call : action.call with
  | acquire id =>
      simp only [call, acquire] at stepped
      split at stepped
      · cases stepped
      · rename_i fresh
        obtain rfl := Option.some.inj stepped
        exact ⟨rfl, .inl ⟨id, rfl, by simpa using fresh, rfl, rfl⟩⟩
  | report id outcome =>
      simp only [call, report] at stepped
      split at stepped
      · cases stepped
      · rename_i caller found
        split at stepped
        · cases stepped
        · rename_i silent
          obtain rfl := Option.some.inj stepped
          exact ⟨rfl, .inr ⟨id, outcome, caller, rfl, found, by simpa using silent, rfl, rfl⟩⟩

end Steps

section Open

variable {policy : CircuitBreakerPolicy} {breaker : CircuitBreaker} {now deadline : Rat}

/-- A breaker that rejects until the deadline. -/
def RejectsUntil (breaker : CircuitBreaker) (deadline : Rat) : Prop :=
  breaker.state = .open ∧ breaker.openUntil = deadline

theorem RejectsUntil.tryAcquire (rejects : RejectsUntil breaker deadline) (early : now < deadline) :
    breaker.tryAcquire policy now = (false, breaker) := by
  obtain ⟨opened, rfl⟩ := rejects
  unfold CircuitBreaker.tryAcquire
  rw [opened]
  dsimp only
  rw [if_pos early]

theorem RejectsUntil.report (rejects : RejectsUntil breaker deadline) {outcome : Outcome}
    (quiet : outcome ≠ .success) : RejectsUntil (outcome.apply policy breaker now) deadline := by
  cases outcome with
  | success => exact absurd rfl quiet
  | failure error =>
      simp only [Outcome.apply, CircuitBreaker.recordFailure, rejects.1]
      split
      · exact ⟨rfl, rejects.2⟩
      · exact rejects
  | release => exact rejects

/-- The breaker opens for a cooldown from now. -/
theorem report_opens {outcome : Outcome} (elsewhere : breaker.state ≠ .open)
    (opens : (outcome.apply policy breaker now).state = .open) :
    RejectsUntil (outcome.apply policy breaker now) (now + policy.cooldownSeconds) := by
  refine ⟨opens, ?_⟩
  cases outcome with
  | success => cases opens
  | failure error =>
      simp only [Outcome.apply, CircuitBreaker.recordFailure] at opens ⊢
      split at opens
      · exact absurd opens elsewhere
      · rename_i transient
        rw [if_neg transient]
        cases shape : breaker.state with
        | closed =>
            simp only [shape] at opens ⊢
            split at opens
            · rename_i reached
              rw [if_pos reached]
              rfl
            · cases opens
        | «open» => exact absurd shape elsewhere
        | halfOpen => rfl
  | release => exact absurd opens elsewhere

theorem tryAcquire_open (opened : (breaker.tryAcquire policy now).2.state = .open) :
    breaker.state = .open := by
  unfold CircuitBreaker.tryAcquire at opened
  split at opened
  · exact opened
  · assumption
  · rw [tryProbe_state] at opened
    exact opened

variable {state next : Shared} {action : SharedAction}

theorem step_opens (stepped : state.step policy action = some next)
    (elsewhere : state.breaker.state ≠ .open) (opens : next.breaker.state = .open) :
    RejectsUntil next.breaker (action.now + policy.cooldownSeconds) := by
  obtain ⟨-, -, ⟨id, -, -, after, -⟩ | ⟨id, outcome, caller, -, -, -, after, -⟩⟩ :=
    shared_step_cases stepped
  · rw [after] at opens
    exact absurd (tryAcquire_open opens) elsewhere
  · rw [after] at opens ⊢
    exact report_opens elsewhere opens

/-- While no success is reported, an open breaker stays open until its deadline. -/
theorem step_rejects (stepped : state.step policy action = some next)
    (quiet : QuietWhileOpen state action)
    (rejects : state.clock < deadline → RejectsUntil state.breaker deadline)
    (early : next.clock < deadline) : RejectsUntil next.breaker deadline := by
  obtain ⟨order, clock, ⟨id, -, -, after, -⟩ | ⟨id, outcome, caller, call, -, -, after, -⟩⟩ :=
    shared_step_cases stepped
  · have before := rejects (by linarith)
    rw [after, before.tryAcquire (by linarith)]
    exact before
  · have before := rejects (by linarith)
    rw [after]
    apply before.report
    rintro rfl
    unfold QuietWhileOpen at quiet
    rw [call] at quiet
    exact quiet before.1

end Open

/-- From the moment it opens the breaker rejects for a whole cooldown, in every run in which no
success is reported to an open breaker. -/
theorem open_breaker_rejects {policy : CircuitBreakerPolicy} {state opened later : Shared}
    {action : SharedAction} {more : List SharedAction} {now : Rat}
    (stepped : state.step policy action = some opened)
    (elsewhere : state.breaker.state ≠ .open) (opens : opened.breaker.state = .open)
    (met : Meets (Shared.step policy) QuietWhileOpen opened more)
    (onward : run (Shared.step policy) opened more = some later)
    (order : later.clock ≤ now) (early : now < action.now + policy.cooldownSeconds) :
    (later.breaker.tryAcquire policy now).1 = false := by
  have start := step_opens stepped elsewhere opens
  have kept := run_invariant
    (fun state => state.clock < action.now + policy.cooldownSeconds →
      RejectsUntil state.breaker (action.now + policy.cooldownSeconds))
    (fun _ _ _ rejects quiet stepped => step_rejects stepped quiet rejects)
    (fun _ => start) met onward
  rw [(kept (by linarith)).tryAcquire early]

def oneStrike : CircuitBreakerPolicy where
  failureThreshold := 1

/-- Two calls are admitted. -/
def admitted : List SharedAction := [⟨0, .acquire 1⟩, ⟨0, .acquire 2⟩]

/-- The first one times out, which opens the breaker. -/
def firstFails : SharedAction := ⟨1, .report 1 (.failure timeoutError)⟩

theorem admitted_accepted :
    (run (Shared.step oneStrike) { clock := 0 } admitted).isSome = true := by decide +kernel

def admittedState : Shared :=
  (run (Shared.step oneStrike) { clock := 0 } admitted).get admitted_accepted

theorem firstFails_accepted : (admittedState.step oneStrike firstFails).isSome = true := by
  decide +kernel

def trippedState : Shared := (admittedState.step oneStrike firstFails).get firstFails_accepted

/-- The second one times out as well. -/
def secondFails : List SharedAction := [⟨2, .report 2 (.failure timeoutError)⟩]

theorem secondFails_accepted :
    (run (Shared.step oneStrike) trippedState secondFails).isSome = true := by decide +kernel

theorem open_breaker_rejects_secondFails :
    ∃ later, run (Shared.step oneStrike) trippedState secondFails = some later ∧
      (later.breaker.tryAcquire oneStrike 30).1 = false := by
  have onward := (Option.some_get secondFails_accepted).symm
  refine ⟨_, onward, open_breaker_rejects (Option.some_get firstFails_accepted).symm
    (by decide +kernel) (by decide +kernel) ?_ onward (by decide +kernel) (by decide +kernel)⟩
  exact ⟨trivial, fun _ _ => trivial⟩

/-- The second one succeeds. -/
def secondSucceeds : List SharedAction := [⟨2, .report 2 .success⟩]

theorem secondSucceeds_accepted :
    (run (Shared.step oneStrike) trippedState secondSucceeds).isSome = true := by decide +kernel

/-- A success of a call admitted earlier closes the breaker two seconds after it opened. -/
theorem late_success_closes_early :
    ∃ later, admittedState.step oneStrike firstFails = some trippedState ∧
      admittedState.breaker.state = .closed ∧ trippedState.breaker.state = .open ∧
      run (Shared.step oneStrike) trippedState secondSucceeds = some later ∧
      later.clock ≤ 3 ∧ (3 : Rat) < firstFails.now + oneStrike.cooldownSeconds ∧
      (later.breaker.tryAcquire oneStrike 3).1 = true := by
  refine ⟨_, (Option.some_get firstFails_accepted).symm, by decide +kernel, by decide +kernel,
    (Option.some_get secondSucceeds_accepted).symm, by decide +kernel, by decide +kernel, ?_⟩
  decide +kernel

section Probe

variable {policy : CircuitBreakerPolicy} {breaker : CircuitBreaker} {now : Rat}

/-- A half-open breaker whose probe was admitted at this time. -/
def Probing (policy : CircuitBreakerPolicy) (breaker : CircuitBreaker) (since : Rat) : Prop :=
  breaker.state = .halfOpen ∧ breaker.probeLeaseUntil = some (since + policy.cooldownSeconds)

theorem Probing.tryAcquire {since : Rat} (probing : Probing policy breaker since)
    (held : now < since + policy.cooldownSeconds) :
    breaker.tryAcquire policy now = (false, breaker) := by
  unfold CircuitBreaker.tryAcquire CircuitBreaker.tryProbe CircuitBreaker.leased
  rw [probing.1, probing.2]
  simp [held]

theorem tryProbe_admits (free : (breaker.tryProbe policy now).1 = true) :
    (breaker.tryProbe policy now).2.probeLeaseUntil = some (now + policy.cooldownSeconds) := by
  unfold CircuitBreaker.tryProbe at free ⊢
  split at free
  · cases free
  · rename_i idle
    rw [if_neg idle]

/-- An admission that leaves the breaker half-open leases the probe. -/
theorem tryAcquire_probe (admitted : (breaker.tryAcquire policy now).1 = true)
    (halfOpen : (breaker.tryAcquire policy now).2.state = .halfOpen) :
    Probing policy (breaker.tryAcquire policy now).2 now := by
  refine ⟨halfOpen, ?_⟩
  unfold CircuitBreaker.tryAcquire at admitted halfOpen ⊢
  cases shape : breaker.state with
  | closed =>
      simp only [shape] at halfOpen
      cases halfOpen
  | «open» =>
      simp only [shape] at admitted ⊢
      split at admitted
      · cases admitted
      · rename_i late
        rw [if_neg late]
        exact tryProbe_admits admitted
  | halfOpen =>
      simp only [shape] at admitted ⊢
      exact tryProbe_admits admitted

variable {state next : Shared} {action : SharedAction} {probe : Nat} {since : Rat}

/-- The probe is still to report, and the breaker waits for it. -/
structure Awaits (policy : CircuitBreakerPolicy) (probe : Nat) (since : Rat) (state : Shared) :
    Prop where
  caller : ∃ reported, state.callers.find probe = some ⟨probe, since, true, reported⟩
  probing : state.callers.find probe = some ⟨probe, since, true, false⟩ →
    state.clock < since + policy.cooldownSeconds → Probing policy state.breaker since

theorem step_awaits (stepped : state.step policy action = some next)
    (own : OnlyProbeReports policy state action) (awaits : Awaits policy probe since state) :
    Awaits policy probe since next := by
  obtain ⟨reported, known⟩ := awaits.caller
  obtain ⟨order, clock, ⟨id, -, fresh, after, callers⟩ |
    ⟨id, outcome, caller, call, found, silent, after, callers⟩⟩ := shared_step_cases stepped
  · have apart : probe ≠ id := by
      rintro rfl
      rw [known] at fresh
      cases fresh
    have same : next.callers.find probe = state.callers.find probe := by
      rw [callers]
      split
      · rw [Table.find_put, if_neg apart]
      · rfl
    constructor
    · exact ⟨reported, same.trans known⟩
    · intro unreported early
      have probing := awaits.probing (same.symm.trans unreported) (by linarith)
      rw [after, probing.tryAcquire (by linarith)]
      exact probing
  · by_cases mine : probe = id
    · subst mine
      have marked : next.callers.find probe = some ⟨probe, since, true, true⟩ := by
        rw [callers, Table.find_modify, if_pos rfl, known]
        rfl
      constructor
      · exact ⟨true, marked⟩
      · intro unreported
        rw [marked] at unreported
        cases unreported
    · have same : next.callers.find probe = state.callers.find probe := by
        rw [callers, Table.find_modify, if_neg mine]
      constructor
      · exact ⟨reported, same.trans known⟩
      · intro unreported early
        have member := (Table.find_some.mp (same.symm.trans unreported)).1
        unfold OnlyProbeReports at own
        rw [call] at own
        have held : action.now < since + policy.cooldownSeconds := by linarith
        exact absurd (own _ member ⟨rfl, rfl, held⟩) mine

end Probe

/-- While a probe is outstanding the breaker stays half-open and rejects every other caller, in
every run in which nobody else reports meanwhile. -/
theorem single_outstanding_probe {policy : CircuitBreakerPolicy} {state entered later : Shared}
    {probe : Nat} {since now : Rat} {more : List SharedAction}
    (stepped : state.step policy ⟨since, .acquire probe⟩ = some entered)
    (admitted : (entered.callers.find probe).isSome = true)
    (halfOpen : entered.breaker.state = .halfOpen)
    (met : Meets (Shared.step policy) (OnlyProbeReports policy) entered more)
    (onward : run (Shared.step policy) entered more = some later)
    (unreported : later.callers.find probe = some ⟨probe, since, true, false⟩)
    (order : later.clock ≤ now) (held : now < since + policy.cooldownSeconds) :
    later.breaker.state = .halfOpen ∧ (later.breaker.tryAcquire policy now).1 = false := by
  have start : Awaits policy probe since entered := by
    obtain ⟨-, -, ⟨id, call, fresh, after, callers⟩ | ⟨id, outcome, caller, call, -⟩⟩ :=
      shared_step_cases stepped
    · obtain rfl : probe = id := by simpa using call
      cases granted : (state.breaker.tryAcquire policy since).1 with
      | false =>
          rw [callers, granted, if_neg Bool.false_ne_true, fresh] at admitted
          cases admitted
      | true =>
          rw [granted, if_pos rfl, halfOpen] at callers
          constructor
          · refine ⟨false, ?_⟩
            rw [callers, Table.find_put, if_pos rfl]
            rfl
          · intro _ _
            rw [after] at halfOpen ⊢
            exact tryAcquire_probe granted halfOpen
    · cases call
  have kept := run_invariant (Awaits policy probe since)
    (fun _ _ _ awaits own stepped => step_awaits stepped own awaits) start met onward
  have probing := kept.probing unreported (by linarith)
  refine ⟨probing.1, ?_⟩
  rw [probing.tryAcquire held]

/-- The breaker's cooldown is over, and the third call is the probe. -/
def thirdProbes : SharedAction := ⟨32, .acquire 3⟩

theorem thirdProbes_accepted : (trippedState.step oneStrike thirdProbes).isSome = true := by
  decide +kernel

def probedState : Shared := (trippedState.step oneStrike thirdProbes).get thirdProbes_accepted

/-- A fourth call asks while the probe runs. -/
def fourthAsks : List SharedAction := [⟨33, .acquire 4⟩]

theorem fourthAsks_accepted :
    (run (Shared.step oneStrike) probedState fourthAsks).isSome = true := by decide +kernel

theorem single_outstanding_probe_fourthAsks :
    ∃ later, run (Shared.step oneStrike) probedState fourthAsks = some later ∧
      later.breaker.state = .halfOpen ∧ (later.breaker.tryAcquire oneStrike 61).1 = false := by
  have onward := (Option.some_get fourthAsks_accepted).symm
  refine ⟨_, onward, single_outstanding_probe (Option.some_get thirdProbes_accepted).symm
    (by decide +kernel) (by decide +kernel) ?_ onward (by decide +kernel) (by decide +kernel)
    (by decide +kernel)⟩
  exact ⟨trivial, fun _ _ => trivial⟩

/-- The second call gives up while the probe runs. -/
def secondReleases : List SharedAction := [⟨33, .report 2 .release⟩]

theorem secondReleases_accepted :
    (run (Shared.step oneStrike) probedState secondReleases).isSome = true := by decide +kernel

/-- A release by a call admitted before the breaker opened lets a second probe in. -/
theorem late_release_admits_second_probe :
    ∃ later, trippedState.step oneStrike thirdProbes = some probedState ∧
      probedState.breaker.state = .halfOpen ∧
      run (Shared.step oneStrike) probedState secondReleases = some later ∧
      later.callers.find 3 = some ⟨3, 32, true, false⟩ ∧
      later.clock ≤ 34 ∧ (34 : Rat) < 32 + oneStrike.cooldownSeconds ∧
      (later.breaker.tryAcquire oneStrike 34).1 = true := by
  refine ⟨_, (Option.some_get thirdProbes_accepted).symm, by decide +kernel,
    (Option.some_get secondReleases_accepted).symm, by decide +kernel, by decide +kernel,
    by decide +kernel, ?_⟩
  decide +kernel

end AiPlatform.Resilience

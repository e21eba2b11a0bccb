import AiPlatform.Llm.ChainWalk

set_option autoImplicit false

/- What `ainvoke` promises about its chain of targets. -/
namespace AiPlatform.Llm

open Resilience

variable {Message : Type}

/-- A walk along these targets, from these breakers. -/
structure ChainWalk (router : ModelRouter) (role : ModelRole) (deadline : Rat)
    (visits : String → Visit Message) (targets : List String) (breakers : Breakers)
    (walked : Walk Message) : Prop where
  /-- Targets are asked in chain order, and the admitted targets are those attempted. -/
  asked : (gates walked.events).map Prod.fst <+: targets
  admitted : (attempts walked.events).map Prod.fst =
    ((gates walked.events).filter Prod.snd).map Prod.fst
  order : ((attempts walked.events).map Prod.fst).Sublist targets
  once : ((attempts walked.events).map Prod.fst).Nodup
  /-- Nothing is attempted once the deadline is read as passed. -/
  inTime : ∀ tried ∈ attempts walked.events,
    (visits tried.1).time < deadline ∧ tried.2 = (visits tried.1).attempt
  firstSuccess : walked.result.toOption =
    (attempts walked.events).findSome? fun tried => tried.2.message?
  deterministic : ∀ target error, (target, .error error) ∈ attempts walked.events →
    isTransientError error = false →
    walked.result = .error (.error error) ∧
      (attempts walked.events).getLast? = some (target, .error error)
  exhausted : attempts walked.events ≠ [] → (∀ tried ∈ attempts walked.events, FailedOver tried) →
    (∀ check ∈ checks walked.events, check.2 < deadline) →
    ∃ target error, (attempts walked.events).getLast? = some (target, .error error) ∧
      walked.result = .error (.error error)
  serviceUnavailable : walked.result = .error (.serviceUnavailable llmUnavailable) ↔
    (∀ gate ∈ gates walked.events, gate.2 = false) ∧
      ∀ target ∈ targets, (visits target).time < deadline
  deadlineExceeded :
    (∃ cause, walked.result = .error (.deadlineExceeded
      (llmDeadlineExceeded router.settings.chainDeadlineText) cause)) ↔
    (∃ check ∈ checks walked.events, deadline ≤ check.2) ∨
      ∃ tried ∈ attempts walked.events, tried.2.isCut = true
  /-- Every attempt is reported once, to its own target's breaker, and the breakers change by these
  calls, by the gates and by what others do. -/
  reported : reports walked.events =
    (attempts walked.events).map fun tried => ((role, tried.1), tried.2.outcome)
  traced : Trace router.breakerPolicy role targets breakers walked.events walked.breakers
  /-- A cut attempt is the last thing of the walk, and its report leaves the failure count. -/
  cut : ∀ target attempt, (target, attempt) ∈ attempts walked.events → attempt.isCut = true →
    ∃ before now reached, walked.events = before ++ [.reported (role, target) now .releaseProbe] ∧
      Trace router.breakerPolicy role targets breakers before reached ∧
      (walked.breakers (role, target)).failureCount = (reached (role, target)).failureCount
  /-- So does the whole walk, unless another call changes it meanwhile. -/
  cutAlone : ∀ target attempt, (target, attempt) ∈ attempts walked.events → attempt.isCut = true →
    (∀ other breakers, ((visits other).meanwhile breakers (role, target)).failureCount =
      (breakers (role, target)).failureCount) →
    (walked.breakers (role, target)).failureCount = (breakers (role, target)).failureCount

variable {router : ModelRouter} {role : ModelRole} {deadline : Rat}
  {visits : String → Visit Message} {targets : List String} {lastError : Option PyError}
  {breakers : Breakers} {walked : Walk Message}

theorem no_message {earlier : List (String × Attempt Message)}
    (failed : ∀ tried ∈ earlier, FailedOver tried) :
    earlier.findSome? (fun tried => tried.2.message?) = none := by
  rw [List.findSome?_eq_none_iff]
  intro tried found
  have ⟨error, attempted, _⟩ := failed tried found
  rw [attempted]
  rfl

theorem lastFailure_concat (lastError : Option PyError)
    (earlier : List (String × Attempt Message)) (target : String) (error : PyError) :
    lastFailure lastError (earlier ++ [(target, .error error)]) = some error := by
  unfold lastFailure
  rw [List.foldl_append]
  rfl

/-- Attempts that all failed over: none, or a last one whose error is kept. -/
theorem lastFailure_cases {tried : List (String × Attempt Message)}
    (failed : ∀ attempt ∈ tried, FailedOver attempt) (lastError : Option PyError) :
    (tried = [] ∧ lastFailure lastError tried = lastError) ∨
      ∃ target error, tried.getLast? = some (target, .error error) ∧
        lastFailure lastError tried = some error := by
  rcases List.eq_nil_or_concat tried with empty | ⟨earlier, last, concat⟩
  · exact .inl ⟨empty, by rw [empty]; rfl⟩
  · have ⟨error, attempted, _⟩ := failed last (by rw [concat]; simp)
    have whole : last = (last.1, .error error) := by rw [← attempted]
    rw [whole] at concat
    refine .inr ⟨last.1, error, ?_, ?_⟩
    · rw [concat, List.concat_eq_append, List.getLast?_concat]
    · rw [concat, List.concat_eq_append, lastFailure_concat]

section Results

variable {read : List (String × Rat)} {tried : List (String × Attempt Message)}
  {result : Except Raised Message}

/-- A walk ends with the message of its last attempt, if that has one. -/
theorem Leaves.message {attempt : Attempt Message} (leaves : Leaves router attempt result) :
    attempt.message? = result.toOption := by
  cases leaves with
  | answered reply => exact reply
  | cut running error => exact Attempt.cut_silent running
  | deterministic permanent => rfl

theorem Leaves.isCut {attempt : Attempt Message} (leaves : Leaves router attempt result) :
    attempt.isCut = true ↔ ∃ cause, result = .error (.deadlineExceeded
      (llmDeadlineExceeded router.settings.chainDeadlineText) cause) := by
  cases leaves with
  | answered reply =>
      refine iff_of_false (fun cut => ?_) (fun ⟨_, same⟩ => by cases same)
      rw [Attempt.cut_silent cut] at reply
      cases reply
  | cut running error => exact iff_of_true running ⟨_, rfl⟩
  | deterministic permanent => exact iff_of_false Bool.false_ne_true fun ⟨_, same⟩ => by cases same

/-- An error that ends the walk is deterministic, and raised. -/
theorem Leaves.permanent {error : PyError} (leaves : Leaves router (.error error) result) :
    isTransientError error = false ∧ result = .error (.error error) := by
  cases leaves with
  | answered reply => cases reply
  | cut running => cases running
  | deterministic permanent => exact ⟨permanent, rfl⟩

theorem Ending.firstSuccess
    (ends : Ending router deadline visits targets lastError read tried result) :
    result.toOption = tried.findSome? fun tried => tried.2.message? := by
  cases ends with
  | left earlier last same failed leaves timely =>
      rw [same, List.findSome?_append, no_message failed]
      have ⟨target, attempt⟩ := last
      rw [Option.none_or, List.findSome?_cons, leaves.message]
      cases result <;> rfl
  | late failed passed raised =>
      rw [no_message failed, raised]
      rfl
  | spent failed timely all raised =>
      rw [no_message failed, raised]
      rfl

theorem Ending.deterministic
    (ends : Ending router deadline visits targets lastError read tried result)
    {target : String} {error : PyError} (found : (target, .error error) ∈ tried)
    (permanent : isTransientError error = false) :
    result = .error (.error error) ∧ tried.getLast? = some (target, .error error) := by
  have kept : ∀ {list : List (String × Attempt Message)}, (∀ tried ∈ list, FailedOver tried) →
      (target, .error error) ∉ list := by
    intro list failed member
    have ⟨other, same, transient⟩ := failed _ member
    injection same with same
    rw [same, transient] at permanent
    cases permanent
  cases ends with
  | left earlier last same failed leaves timely =>
      rw [same, List.mem_append, List.mem_singleton] at found
      rcases found with early | final
      · exact absurd early (kept failed)
      · rw [← final] at leaves same
        exact ⟨leaves.permanent.2, by rw [same, List.getLast?_concat]⟩
  | late failed passed raised => exact absurd found (kept failed)
  | spent failed timely all raised => exact absurd found (kept failed)

theorem Leaves.not_failedOver {last : String × Attempt Message}
    (leaves : Leaves router last.2 result) : ¬ FailedOver last := by
  intro ⟨error, attempted, transient⟩
  rw [attempted] at leaves
  have permanent := leaves.permanent.1
  rw [transient] at permanent
  cases permanent

theorem Ending.exhausted
    (ends : Ending router deadline visits targets lastError read tried result)
    (nonempty : tried ≠ []) (failed : ∀ attempt ∈ tried, FailedOver attempt)
    (timely : ∀ check ∈ read, check.2 < deadline) :
    ∃ target error, tried.getLast? = some (target, .error error) ∧
      result = .error (.error error) := by
  cases ends with
  | left earlier last same _ leaves _ =>
      have past := failed last (by rw [same]; simp)
      exact absurd past leaves.not_failedOver
  | late _ passed _ =>
      have ⟨target, _, found, past⟩ := passed
      exact absurd (timely _ found) (not_lt.mpr past)
  | spent _ _ _ raised =>
      rcases lastFailure_cases failed lastError with ⟨empty, _⟩ | ⟨target, error, last, kept⟩
      · exact absurd empty nonempty
      · exact ⟨target, error, last, by rw [raised, kept]; rfl⟩

theorem Leaves.not_unavailable {attempt : Attempt Message} {error : Idempotency.AppError} :
    ¬ Leaves router attempt (.error (.serviceUnavailable error)) := nofun

theorem Ending.serviceUnavailable
    (ends : Ending router deadline visits targets none read tried result) :
    result = .error (.serviceUnavailable llmUnavailable) ↔
      tried = [] ∧ ∀ target ∈ targets, (visits target).time < deadline := by
  cases ends with
  | left earlier last same failed leaves timely =>
      constructor
      · intro unavailable
        rw [unavailable] at leaves
        exact absurd leaves Leaves.not_unavailable
      · intro ⟨empty, _⟩
        rw [same] at empty
        exact absurd empty (List.concat_ne_nil last earlier)
  | late failed passed raised =>
      constructor
      · intro unavailable
        rw [unavailable] at raised
        cases raised
      · intro ⟨_, inTime⟩
        have ⟨target, inChain, _, past⟩ := passed
        exact absurd (inTime target inChain) (not_lt.mpr past)
  | spent failed timely all raised =>
      rcases lastFailure_cases failed none with ⟨empty, kept⟩ | ⟨target, error, last, kept⟩
      · rw [kept] at raised
        exact ⟨fun _ => ⟨empty, all⟩, fun _ => raised⟩
      · rw [kept] at raised
        constructor
        · intro unavailable
          rw [unavailable] at raised
          cases raised
        · intro ⟨empty, _⟩
          rw [empty] at last
          cases last

theorem FailedOver.not_cut {tried : String × Attempt Message} (failed : FailedOver tried) :
    tried.2.isCut = false := by
  have ⟨error, attempted, _⟩ := failed
  rw [attempted]
  rfl

theorem none_cut {list : List (String × Attempt Message)}
    (failed : ∀ tried ∈ list, FailedOver tried) :
    ¬ ∃ tried ∈ list, tried.2.isCut = true := by
  intro ⟨tried, found, running⟩
  have ended := (failed tried found).not_cut
  rw [ended] at running
  cases running

theorem cut_last {earlier : List (String × Attempt Message)} {last : String × Attempt Message}
    (failed : ∀ tried ∈ earlier, FailedOver tried) :
    (∃ attempt ∈ earlier ++ [last], attempt.2.isCut = true) ↔
      last.2.isCut = true := by
  constructor
  · intro ⟨one, found, running⟩
    rcases List.mem_append.mp found with early | final
    · exact absurd ⟨one, early, running⟩ (none_cut failed)
    · rw [List.mem_singleton.mp final] at running
      exact running
  · intro running
    exact ⟨last, by simp, running⟩

theorem none_late {read : List (String × Rat)} (timely : ∀ check ∈ read, check.2 < deadline) :
    ¬ ∃ check ∈ read, deadline ≤ check.2 := by
  intro ⟨check, found, past⟩
  exact absurd (timely check found) (not_lt.mpr past)

theorem Ending.deadlineExceeded
    (ends : Ending router deadline visits targets lastError read tried result) :
    (∃ cause, result = .error (.deadlineExceeded
      (llmDeadlineExceeded router.settings.chainDeadlineText) cause)) ↔
    (∃ check ∈ read, deadline ≤ check.2) ∨ ∃ attempt ∈ tried, attempt.2.isCut = true := by
  cases ends with
  | left earlier last same failed leaves timely =>
      rw [same, cut_last failed, leaves.isCut, or_iff_right (none_late timely)]
  | late failed passed raised =>
      have ⟨target, _, found, past⟩ := passed
      exact ⟨fun _ => .inl ⟨_, found, past⟩, fun _ => ⟨_, raised⟩⟩
  | spent failed timely all raised =>
      constructor
      · intro ⟨cause, exceeded⟩
        rw [exceeded] at raised
        cases ended : lastFailure lastError tried with
        | none =>
            rw [ended] at raised
            cases raised
        | some error =>
            rw [ended] at raised
            cases raised
      · intro ran
        rcases ran with past | running
        · exact absurd past (none_late timely)
        · exact absurd running (none_cut failed)

end Results

theorem Walks.nothing_tried
    (goes : Walks router role deadline visits targets lastError breakers walked) :
    (∀ gate ∈ gates walked.events, gate.2 = false) ↔ attempts walked.events = [] := by
  have admitted := goes.admitted
  constructor
  · intro refused
    have none_ : (gates walked.events).filter Prod.snd = [] := by
      rw [List.filter_eq_nil_iff]
      intro gate found
      rw [refused gate found]
      exact Bool.false_ne_true
    rw [none_] at admitted
    exact List.map_eq_nil_iff.mp admitted
  · intro empty gate found
    rw [empty] at admitted
    have none_ := List.map_eq_nil_iff.mp admitted.symm
    rw [List.filter_eq_nil_iff] at none_
    simpa using none_ gate found

section Cut

/-- A cut attempt is the end of its walk. -/
theorem Walks.cut_last
    (goes : Walks router role deadline visits targets lastError breakers walked)
    {target : String} {attempt : Attempt Message}
    (found : (target, attempt) ∈ attempts walked.events) (running : attempt.isCut = true) :
    ∃ before now, walked.events = before ++ [.reported (role, target) now .releaseProbe] := by
  induction goes with
  | unavailable breakers => cases found
  | exhausted error breakers => cases found
  | late passed => cases found
  | skipped timely asked goes ih =>
      have ⟨before, now, same⟩ := ih found
      exact ⟨_, now, by rw [same, List.append_assoc]⟩
  | @left slow _ _ _ _ _ timely asked leaves =>
      have same := List.mem_singleton.mp found
      injection same with slow attempted
      refine ⟨(attemptEvents role target (visits target)).dropLast, (visits target).reportedAt, ?_⟩
      subst slow
      unfold attemptEvents
      rw [← attempted, attempt.cut_outcome running]
      rfl
  | failedOver timely asked attempted transient goes ih =>
      rcases List.mem_cons.mp found with same | later
      · injection same with _ same
        rw [same, attempted] at running
        cases running
      · have ⟨before, now, same⟩ := ih later
        exact ⟨_, now, by rw [same, ← List.append_assoc]⟩

theorem CircuitBreaker.tryAcquire_failureCount (policy : CircuitBreakerPolicy)
    (breaker : CircuitBreaker) (now : Rat) :
    (breaker.tryAcquire policy now).2.failureCount = breaker.failureCount := by
  have probe : ∀ breaker : CircuitBreaker,
      (breaker.tryProbe policy now).2.failureCount = breaker.failureCount := by
    intro breaker
    unfold CircuitBreaker.tryProbe
    split
    · rfl
    · rfl
  unfold CircuitBreaker.tryAcquire
  split
  · rfl
  · split
    · rfl
    · exact probe _
  · exact probe breaker

/-- Asking for admission counts no failure, on any breaker. -/
theorem tryAcquire_count {target : String} {now : Rat} {admitted : Bool} {after : Breakers}
    (asked : router.tryAcquire breakers now target role = .ok (admitted, after))
    (key : ModelRole × String) :
    (after key).failureCount = (breakers key).failureCount := by
  unfold ModelRouter.tryAcquire at asked
  cases built : router.chain role with
  | error text =>
      rw [built] at asked
      cases asked
  | ok targets =>
      rw [built] at asked
      simp only [bind, Except.bind, pure, Except.pure] at asked
      split at asked
      · injection asked with same
        injection same with _ unchanged
        rw [unchanged]
      · injection asked with same
        injection same with _ called
        rw [← called]
        by_cases own : key = (role, target)
        · rw [own, call_self]
          exact CircuitBreaker.tryAcquire_failureCount router.breakerPolicy _ now
        · rw [call_other router breakers own]

/-- Up to its cut attempt a walk leaves the failure count of that attempt's target. -/
theorem Walks.cut_count
    (goes : Walks router role deadline visits targets lastError breakers walked)
    (distinct : targets.Nodup) {target : String} {attempt : Attempt Message}
    (found : (target, attempt) ∈ attempts walked.events) (running : attempt.isCut = true)
    (alone : ∀ other breakers, ((visits other).meanwhile breakers (role, target)).failureCount =
      (breakers (role, target)).failureCount) :
    (walked.breakers (role, target)).failureCount = (breakers (role, target)).failureCount := by
  induction goes with
  | unavailable breakers => cases found
  | exhausted error breakers => cases found
  | late passed => cases found
  | skipped timely asked goes ih =>
      rw [← tryAcquire_count asked]
      exact ih (List.nodup_cons.mp distinct).2 found
  | @left slow _ _ _ after _ timely asked leaves =>
      have same := List.mem_singleton.mp found
      injection same with slow attempted
      subst slow
      have reached := (alone target after).trans (tryAcquire_count asked (role, target))
      refine Eq.trans ?_ reached
      unfold afterAttempt
      dsimp only
      rw [call_self, ← attempted, attempt.cut_outcome running]
      rfl
  | @failedOver failed _ _ _ after _ _ timely asked attempted transient goes ih =>
      have ⟨fresh, others⟩ := List.nodup_cons.mp distinct
      rcases List.mem_cons.mp found with same | later
      · injection same with _ same
        rw [same, attempted] at running
        cases running
      · have inRest : target ∈ _ := goes.order.subset (List.mem_map_of_mem later)
        have different : (role, target) ≠ (role, failed) := by
          intro same
          injection same with _ same
          rw [same] at inRest
          exact fresh inRest
        have reached := (alone failed after).trans (tryAcquire_count asked (role, target))
        refine (ih others later).trans (Eq.trans ?_ reached)
        unfold afterAttempt
        rw [call_other router _ different]

end Cut

/-- The walk of `ainvoke` along its chain. -/
theorem ainvoke_walks (router : ModelRouter) (role : ModelRole) (start : Rat)
    (visits : String → Visit Message) (breakers : Breakers) (targets : List String)
    (built : router.chain role = .ok targets) :
    ChainWalk router role (start + router.settings.chainDeadlineSeconds) visits targets breakers
      (ainvoke router role start visits breakers) := by
  have goes := walk_walks built (start + router.settings.chainDeadlineSeconds) visits targets none
    breakers
  have same : ainvoke router role start visits breakers =
      walk router role (start + router.settings.chainDeadlineSeconds) visits targets none
        breakers := by
    unfold ainvoke
    rw [built]
  rw [same]
  have distinct := chain_nodup built
  refine
    { asked := goes.asked
      admitted := goes.admitted
      order := goes.order
      once := goes.order.nodup distinct
      inTime := goes.inTime
      firstSuccess := goes.ends.firstSuccess
      deterministic := fun target error found => goes.ends.deterministic found
      exhausted := goes.ends.exhausted
      serviceUnavailable := ?_
      deadlineExceeded := goes.ends.deadlineExceeded
      reported := goes.reported
      traced := goes.traced built
      cut := ?_
      cutAlone := fun target attempt found running => goes.cut_count distinct found running }
  · rw [goes.ends.serviceUnavailable, ← goes.nothing_tried]
  · intro target attempt found running
    have ⟨before, now, last⟩ := goes.cut_last found running
    have traced := goes.traced built
    rw [last] at traced
    have ⟨reached, earlier, reported⟩ := traced.append
    exact ⟨before, now, reached, last, earlier, reported.released_count⟩

def overloaded : PyError :=
  { mro := [⟨"openai", "InternalServerError"⟩], text := "overloaded", statusCode := some 503 }

theorem default_deadline : (0 : Rat) < 90 := by norm_num

theorem default_threshold : (0 : Int) < 3 := by decide

theorem default_cooldown : (0 : Rat) < 30 := by norm_num

def twoTargets : ModelRouter where
  settings :=
    { chatModel := "a"
      chatFallbackModels := "b, a"
      positiveDeadline := default_deadline
      positiveThreshold := default_threshold
      positiveCooldown := default_cooldown }

/-- The first target is overloaded, and the second does not answer in time. -/
def slowFallback (target : String) : Visit String :=
  if target = "a" then ⟨0, 0, .error overloaded, id, 1⟩
  else ⟨1, 1, .stillRunning .propagated, id, 90⟩

theorem ainvoke_walks_slow :
    (∃ cause, (ainvoke twoTargets .default 0 slowFallback fun _ => {}).result =
      .error (.deadlineExceeded (llmDeadlineExceeded "90") cause)) ∧
    ((ainvoke twoTargets .default 0 slowFallback fun _ => {}).breakers
      (.default, "b")).failureCount = 0 := by
  have built : twoTargets.chain .default = .ok ["a", "b"] := by decide +kernel
  have walked := ainvoke_walks twoTargets .default 0 slowFallback (fun _ => {}) ["a", "b"] built
  have found : ("b", .stillRunning .propagated) ∈
      attempts (ainvoke twoTargets .default 0 slowFallback fun _ => {}).events := by
    decide +kernel
  refine ⟨walked.deadlineExceeded.mpr (.inr ⟨_, found, rfl⟩), walked.cutAlone "b" _ found rfl ?_⟩
  intro other breakers
  unfold slowFallback
  split
  · rfl
  · rfl

/-- The first target swallows the cancellation at the deadline, and answers. -/
def answersLate (_ : String) : Visit String := ⟨0, 0, .stillRunning (.answered "late"), id, 95⟩

/-- The deadline runs out first, yet the message is returned. -/
theorem late_answer_returned :
    ¬ ((∃ cause, (ainvoke twoTargets .default 0 answersLate fun _ => {}).result =
        .error (.deadlineExceeded (llmDeadlineExceeded "90") cause)) ↔
      (∃ check ∈ checks (ainvoke twoTargets .default 0 answersLate fun _ => {}).events,
        90 ≤ check.2) ∨
      ∃ tried ∈ attempts (ainvoke twoTargets .default 0 answersLate fun _ => {}).events,
        tried.2.isStillRunning = true) := by
  intro exceeded
  have returned : (ainvoke twoTargets .default 0 answersLate fun _ => {}).result.toOption =
      some "late" := by decide +kernel
  have running : ∃ tried ∈
      attempts (ainvoke twoTargets .default 0 answersLate fun _ => {}).events,
      tried.2.isStillRunning = true := by decide +kernel
  obtain ⟨cause, raised⟩ := exceeded.mpr (.inr running)
  rw [raised] at returned
  cases returned

end AiPlatform.Llm

import AiPlatform.Llm.Runtime

set_option autoImplicit false

/- What a walk along a chain does, whatever the targets and the clocks do. -/
namespace AiPlatform.Llm

open Resilience

variable {Message : Type}

/-- The events of a turn that attempts its target. -/
def attemptEvents (role : ModelRole) (target : String) (visit : Visit Message) :
    List (Event Message) :=
  [.checked target visit.time, .asked target visit.acquiredAt true,
    .attempted target visit.attempt, .others visit.meanwhile,
    .reported (role, target) visit.reportedAt visit.attempt.outcome]

/-- The breakers after an attempt that was admitted with these. -/
def afterAttempt (router : ModelRouter) (role : ModelRole) (target : String)
    (visit : Visit Message) (acquired : Breakers) : Breakers :=
  router.call (visit.meanwhile acquired) (role, target) visit.reportedAt visit.attempt.outcome

/-- The attempts that end the walk, and what it then returns or raises. -/
inductive Leaves (router : ModelRouter) : Attempt Message → Except Raised Message → Prop
  | answered {attempt : Attempt Message} {message : Message}
      (reply : attempt.message? = some message) : Leaves router attempt (.ok message)
  | cut {attempt : Attempt Message} (running : attempt.isCut = true) (error : PyError) :
      Leaves router attempt
        (.error (.deadlineExceeded (llmDeadlineExceeded router.settings.chainDeadlineText)
          (some error)))
  | deterministic {error : PyError} (permanent : isTransientError error = false) :
      Leaves router (.error error) (.error (.error error))

section Walks

variable (router : ModelRouter) (role : ModelRole) (deadline : Rat)
  (visits : String → Visit Message)

/-- The walks of a router whose chain can be built, one turn of the loop at a time. -/
inductive Walks : List String → Option PyError → Breakers → Walk Message → Prop
  | unavailable (breakers : Breakers) :
      Walks [] none breakers ⟨.error (.serviceUnavailable llmUnavailable), breakers, []⟩
  | exhausted (error : PyError) (breakers : Breakers) :
      Walks [] (some error) breakers ⟨.error (.error error), breakers, []⟩
  | late {target : String} {rest : List String} {lastError : Option PyError} {breakers : Breakers}
      (passed : deadline ≤ (visits target).time) :
      Walks (target :: rest) lastError breakers
        ⟨.error (.deadlineExceeded
          (llmDeadlineExceeded router.settings.chainDeadlineText) lastError),
          breakers, [.checked target (visits target).time]⟩
  | skipped {target : String} {rest : List String} {lastError : Option PyError}
      {breakers after : Breakers} {later : Walk Message}
      (timely : (visits target).time < deadline)
      (asked : router.tryAcquire breakers (visits target).acquiredAt target role =
        .ok (false, after))
      (goes : Walks rest lastError after later) :
      Walks (target :: rest) lastError breakers
        { later with
          events :=
            [.checked target (visits target).time,
              .asked target (visits target).acquiredAt false] ++
              later.events }
  | left {target : String} {rest : List String} {lastError : Option PyError}
      {breakers after : Breakers} {result : Except Raised Message}
      (timely : (visits target).time < deadline)
      (asked : router.tryAcquire breakers (visits target).acquiredAt target role =
        .ok (true, after))
      (leaves : Leaves router (visits target).attempt result) :
      Walks (target :: rest) lastError breakers
        ⟨result, afterAttempt router role target (visits target) after,
          attemptEvents role target (visits target)⟩
  | failedOver {target : String} {rest : List String} {lastError : Option PyError}
      {breakers after : Breakers} {error : PyError} {later : Walk Message}
      (timely : (visits target).time < deadline)
      (asked : router.tryAcquire breakers (visits target).acquiredAt target role =
        .ok (true, after))
      (attempted : (visits target).attempt = .error error)
      (transient : isTransientError error = true)
      (goes : Walks rest (some error) (afterAttempt router role target (visits target) after)
        later) :
      Walks (target :: rest) lastError breakers
        { later with events := attemptEvents role target (visits target) ++ later.events }

end Walks

variable {router : ModelRouter} {role : ModelRole} {deadline : Rat}
  {visits : String → Visit Message} {targets : List String} {lastError : Option PyError}
  {breakers : Breakers} {walked : Walk Message}

theorem tryAcquire_built (built : router.chain role = .ok targets) (breakers : Breakers)
    (now : Rat) (target : String) :
    ∃ admitted after, router.tryAcquire breakers now target role = .ok (admitted, after) := by
  unfold ModelRouter.tryAcquire
  rw [built]
  simp only [bind, Except.bind, pure, Except.pure]
  split
  · exact ⟨_, _, rfl⟩
  · exact ⟨_, _, rfl⟩

/-- The body of the loop at a target that is asked in time and admits the call. -/
theorem pass_attempt {target : String} {visit : Visit Message} {after : Breakers}
    (lastError : Option PyError) (timely : visit.time < deadline)
    (asked : router.tryAcquire breakers visit.acquiredAt target role = .ok (true, after)) :
    (∃ result, Leaves router visit.attempt result ∧
      pass router role deadline target visit lastError breakers =
        ⟨.leave result, afterAttempt router role target visit after,
          attemptEvents role target visit⟩) ∨
    ∃ error, visit.attempt = .error error ∧ isTransientError error = true ∧
      pass router role deadline target visit lastError breakers =
        ⟨.next (some error), afterAttempt router role target visit after,
          attemptEvents role target visit⟩ := by
  have early : ¬ deadline - visit.time ≤ 0 := by linarith
  unfold pass afterAttempt attemptEvents
  simp only [early, ↓reduceIte, asked]
  cases visit.attempt with
  | message reply => exact .inl ⟨_, .answered rfl, rfl⟩
  | stillRunning ending =>
      cases ending with
      | propagated => exact .inl ⟨_, .cut rfl expiredTimeout, rfl⟩
      | raised error => exact .inl ⟨_, .cut rfl error, rfl⟩
      | answered reply => exact .inl ⟨_, .answered rfl, rfl⟩
  | error failure =>
      cases transient : isTransientError failure with
      | false =>
          refine .inl ⟨_, .deterministic transient, ?_⟩
          simp only [Attempt.underTimeout, transient, ↓reduceIte]
          rfl
      | true =>
          refine .inr ⟨failure, rfl, transient, ?_⟩
          simp only [Attempt.underTimeout, transient, Bool.true_eq_false, ↓reduceIte]
          rfl

theorem walk_walks {chain : List String} (built : router.chain role = .ok chain)
    (deadline : Rat) (visits : String → Visit Message) (targets : List String)
    (lastError : Option PyError) (breakers : Breakers) :
    Walks router role deadline visits targets lastError breakers
      (walk router role deadline visits targets lastError breakers) := by
  induction targets generalizing lastError breakers with
  | nil =>
      cases lastError with
      | none => exact .unavailable breakers
      | some error => exact .exhausted error breakers
  | cons target rest ih =>
      by_cases passed : deadline - (visits target).time ≤ 0
      · simp only [walk, pass, passed, ↓reduceIte]
        exact .late (by linarith)
      · have timely : (visits target).time < deadline := by linarith
        have ⟨admitted, after, asked⟩ :=
          tryAcquire_built built breakers (visits target).acquiredAt target
        cases admitted with
        | false =>
            simp only [walk, pass, passed, ↓reduceIte, asked]
            exact .skipped timely asked (ih lastError after)
        | true =>
            rcases pass_attempt lastError timely asked with
              ⟨result, leaves, passes⟩ | ⟨error, attempted, transient, passes⟩
            · simp only [walk, passes]
              exact .left timely asked leaves
            · simp only [walk, passes]
              exact .failedOver timely asked attempted transient (ih (some error) _)

/-- How the breakers change along the events: a gate asks its own breaker, where the chain has more
than one target, an outcome is told to its own breaker, and every other breaker stays as it is. -/
inductive Trace (policy : CircuitBreakerPolicy) (role : ModelRole) (chain : List String) :
    Breakers → List (Event Message) → Breakers → Prop
  | done (breakers : Breakers) : Trace policy role chain breakers [] breakers
  | checked {target : String} {time : Rat} {breakers final : Breakers} {rest : List (Event Message)}
      (later : Trace policy role chain breakers rest final) :
      Trace policy role chain breakers (.checked target time :: rest) final
  | ungated {target : String} {now : Rat} {breakers final : Breakers} {rest : List (Event Message)}
      (single : chain.length = 1) (later : Trace policy role chain breakers rest final) :
      Trace policy role chain breakers (.asked target now true :: rest) final
  | gated {target : String} {now : Rat} {admitted : Bool} {breakers next final : Breakers}
      {rest : List (Event Message)} (several : chain.length ≠ 1)
      (own : (breakers (role, target)).tryAcquire policy now = (admitted, next (role, target)))
      (others : ∀ key, key ≠ (role, target) → next key = breakers key)
      (later : Trace policy role chain next rest final) :
      Trace policy role chain breakers (.asked target now admitted :: rest) final
  | attempted {target : String} {attempt : Attempt Message} {breakers final : Breakers}
      {rest : List (Event Message)} (later : Trace policy role chain breakers rest final) :
      Trace policy role chain breakers (.attempted target attempt :: rest) final
  | meanwhile {change : Breakers → Breakers} {breakers final : Breakers}
      {rest : List (Event Message)} (later : Trace policy role chain (change breakers) rest final) :
      Trace policy role chain breakers (.others change :: rest) final
  | succeeded {target : String} {now : Rat} {breakers next final : Breakers}
      {rest : List (Event Message)}
      (own : next (role, target) = (breakers (role, target)).recordSuccess)
      (others : ∀ key, key ≠ (role, target) → next key = breakers key)
      (later : Trace policy role chain next rest final) :
      Trace policy role chain breakers (.reported (role, target) now .recordSuccess :: rest) final
  | failed {target : String} {now : Rat} {error : PyError} {breakers next final : Breakers}
      {rest : List (Event Message)}
      (own : next (role, target) = (breakers (role, target)).recordFailure policy now error)
      (others : ∀ key, key ≠ (role, target) → next key = breakers key)
      (later : Trace policy role chain next rest final) :
      Trace policy role chain breakers
        (.reported (role, target) now (.recordFailure error) :: rest) final
  | released {target : String} {now : Rat} {breakers next final : Breakers}
      {rest : List (Event Message)}
      (own : next (role, target) = (breakers (role, target)).releaseProbe)
      (others : ∀ key, key ≠ (role, target) → next key = breakers key)
      (later : Trace policy role chain next rest final) :
      Trace policy role chain breakers (.reported (role, target) now .releaseProbe :: rest) final

section Told

variable {target : String} {now : Rat} {admitted : Bool} {after final : Breakers}
  {chain : List String} {rest : List (Event Message)}

/-- A gate asks no breaker but its own. -/
theorem Trace.asked (built : router.chain role = .ok chain)
    (asked : router.tryAcquire breakers now target role = .ok (admitted, after))
    (later : Trace router.breakerPolicy role chain after rest final) :
    Trace router.breakerPolicy role chain breakers (.asked target now admitted :: rest) final := by
  unfold ModelRouter.tryAcquire at asked
  rw [built] at asked
  simp only [bind, Except.bind, pure, Except.pure] at asked
  split at asked
  · rename_i single
    cases asked
    exact .ungated single later
  · rename_i several
    cases asked
    refine .gated several ?_ ?_ later
    · rw [call_self]
      rfl
    · exact fun key different => call_other router breakers different now .tryAcquire

/-- The outcome of an attempt is told to the breaker of its target. -/
theorem Trace.told (attempt : Attempt Message)
    (later : Trace router.breakerPolicy role chain
      (router.call breakers (role, target) now attempt.outcome) rest final) :
    Trace router.breakerPolicy role chain breakers
      (.reported (role, target) now attempt.outcome :: rest) final := by
  have own := call_self router breakers (role, target) now attempt.outcome
  have others := fun key (different : key ≠ (role, target)) =>
    call_other router breakers different now attempt.outcome
  cases attempt with
  | message reply => exact .succeeded own others later
  | error failure => exact .failed own others later
  | stillRunning ending =>
      cases ending with
      | propagated => exact .released own others later
      | raised error => exact .released own others later
      | answered reply => exact .succeeded own others later

/-- A turn that attempts its target. -/
theorem Trace.attempt {visit : Visit Message} (built : router.chain role = .ok chain)
    (asked : router.tryAcquire breakers visit.acquiredAt target role = .ok (true, after))
    (later : Trace router.breakerPolicy role chain (afterAttempt router role target visit after)
      rest final) :
    Trace router.breakerPolicy role chain breakers
      (attemptEvents role target visit ++ rest) final :=
  .checked (.asked built asked (.attempted (.meanwhile (.told visit.attempt later))))

theorem Trace.append {policy : CircuitBreakerPolicy} {before events : List (Event Message)}
    (traced : Trace policy role chain breakers (before ++ events) final) :
    ∃ reached, Trace policy role chain breakers before reached ∧
      Trace policy role chain reached events final := by
  induction before generalizing breakers with
  | nil => exact ⟨breakers, .done breakers, traced⟩
  | cons event before ih =>
      cases traced with
      | checked later =>
          obtain ⟨reached, first, last⟩ := ih later
          exact ⟨reached, .checked first, last⟩
      | ungated single later =>
          obtain ⟨reached, first, last⟩ := ih later
          exact ⟨reached, .ungated single first, last⟩
      | gated several own others later =>
          obtain ⟨reached, first, last⟩ := ih later
          exact ⟨reached, .gated several own others first, last⟩
      | attempted later =>
          obtain ⟨reached, first, last⟩ := ih later
          exact ⟨reached, .attempted first, last⟩
      | meanwhile later =>
          obtain ⟨reached, first, last⟩ := ih later
          exact ⟨reached, .meanwhile first, last⟩
      | succeeded own others later =>
          obtain ⟨reached, first, last⟩ := ih later
          exact ⟨reached, .succeeded own others first, last⟩
      | failed own others later =>
          obtain ⟨reached, first, last⟩ := ih later
          exact ⟨reached, .failed own others first, last⟩
      | released own others later =>
          obtain ⟨reached, first, last⟩ := ih later
          exact ⟨reached, .released own others first, last⟩

/-- Giving an admission back leaves the failure count. -/
theorem Trace.released_count {policy : CircuitBreakerPolicy}
    (traced : Trace policy role chain breakers
      ([.reported (role, target) now .releaseProbe] : List (Event Message)) final) :
    (final (role, target)).failureCount = (breakers (role, target)).failureCount := by
  cases traced with
  | released own others later =>
      cases later
      rw [own]
      rfl

end Told

section Events

variable (goes : Walks router role deadline visits targets lastError breakers walked)

include goes

theorem Walks.traced {chain : List String} (built : router.chain role = .ok chain) :
    Trace router.breakerPolicy role chain breakers walked.events walked.breakers := by
  induction goes with
  | unavailable breakers => exact .done breakers
  | exhausted error breakers => exact .done breakers
  | late passed => exact .checked (.done _)
  | skipped timely asked goes ih => exact .checked (.asked built asked ih)
  | left timely asked leaves =>
      have traced := Trace.attempt built asked (.done _)
      rwa [List.append_nil] at traced
  | failedOver timely asked attempted transient goes ih => exact .attempt built asked ih

/-- The targets are asked in chain order, without a gap. -/
theorem Walks.asked : (gates walked.events).map Prod.fst <+: targets := by
  induction goes with
  | unavailable breakers => exact List.prefix_rfl
  | exhausted error breakers => exact List.prefix_rfl
  | late passed => exact List.nil_prefix
  | @skipped target _ _ _ _ _ timely asked goes ih =>
      exact (List.prefix_append_right_inj [target]).mpr ih
  | @left target _ _ _ _ _ timely asked leaves =>
      exact (List.prefix_append_right_inj [target]).mpr List.nil_prefix
  | @failedOver target _ _ _ _ _ _ timely asked attempted transient goes ih =>
      exact (List.prefix_append_right_inj [target]).mpr ih

theorem Walks.admitted :
    (attempts walked.events).map Prod.fst =
      ((gates walked.events).filter Prod.snd).map Prod.fst := by
  induction goes with
  | unavailable breakers => rfl
  | exhausted error breakers => rfl
  | late passed => rfl
  | skipped timely asked goes ih => exact ih
  | left timely asked leaves => rfl
  | @failedOver target _ _ _ _ _ _ timely asked attempted transient goes ih =>
      exact congrArg (List.cons target) ih

theorem Walks.order : ((attempts walked.events).map Prod.fst).Sublist targets := by
  rw [goes.admitted]
  have inOrder : ((gates walked.events).filter Prod.snd).Sublist (gates walked.events) :=
    List.filter_sublist
  exact (inOrder.map Prod.fst).trans goes.asked.sublist

/-- Every attempt is reported once, to the breaker of its own target. -/
theorem Walks.reported :
    reports walked.events =
      (attempts walked.events).map fun tried => ((role, tried.1), tried.2.outcome) := by
  induction goes with
  | unavailable breakers => rfl
  | exhausted error breakers => rfl
  | late passed => rfl
  | skipped timely asked goes ih => exact ih
  | left timely asked leaves => rfl
  | @failedOver target _ _ _ _ _ _ timely asked attempted transient goes ih =>
      exact congrArg (List.cons ((role, target), (visits target).attempt.outcome)) ih

theorem Walks.inTime :
    ∀ tried ∈ attempts walked.events,
      (visits tried.1).time < deadline ∧ tried.2 = (visits tried.1).attempt := by
  induction goes with
  | unavailable breakers => nofun
  | exhausted error breakers => nofun
  | late passed => nofun
  | skipped timely asked goes ih => exact ih
  | left timely asked leaves => exact List.forall_mem_singleton.mpr ⟨timely, rfl⟩
  | failedOver timely asked attempted transient goes ih =>
      exact List.forall_mem_cons.mpr ⟨⟨timely, rfl⟩, ih⟩

end Events

/-- An attempt after which the walk goes on. -/
def FailedOver (tried : String × Attempt Message) : Prop :=
  ∃ error, tried.2 = .error error ∧ isTransientError error = true

/-- `last_error` after these attempts. -/
def lastFailure (lastError : Option PyError) (tried : List (String × Attempt Message)) :
    Option PyError :=
  tried.foldl (fun last tried =>
    match tried.2 with
    | .error error => some error
    | _ => last) lastError

/-- What the loop raises after its last target. -/
def raisedAtEnd : Option PyError → Raised
  | none => .serviceUnavailable llmUnavailable
  | some error => .error error

/-- How a walk ends, given the readings before its targets and its attempts. -/
inductive Ending (router : ModelRouter) (deadline : Rat) (visits : String → Visit Message)
    (targets : List String) (lastError : Option PyError) (read : List (String × Rat))
    (tried : List (String × Attempt Message)) (result : Except Raised Message) : Prop
  | left (earlier : List (String × Attempt Message)) (last : String × Attempt Message)
      (same : tried = earlier ++ [last])
      (failed : ∀ tried ∈ earlier, FailedOver tried)
      (leaves : Leaves router last.2 result)
      (timely : ∀ check ∈ read, check.2 < deadline)
  | late (failed : ∀ attempt ∈ tried, FailedOver attempt)
      (passed : ∃ target ∈ targets,
        (target, (visits target).time) ∈ read ∧ deadline ≤ (visits target).time)
      (raised : result = .error (.deadlineExceeded
        (llmDeadlineExceeded router.settings.chainDeadlineText) (lastFailure lastError tried)))
  | spent (failed : ∀ attempt ∈ tried, FailedOver attempt)
      (timely : ∀ check ∈ read, check.2 < deadline)
      (all : ∀ target ∈ targets, (visits target).time < deadline)
      (raised : result = .error (raisedAtEnd (lastFailure lastError tried)))

/-- A turn that does not end the walk leaves its ending as it is. -/
theorem Ending.extend {rest : List String} {target : String}
    {read : List (String × Rat)} {tried : List (String × Attempt Message)}
    {result : Except Raised Message} (turn : List (String × Attempt Message))
    (timely : (visits target).time < deadline)
    (failed : ∀ tried ∈ turn, FailedOver tried)
    (ends : Ending router deadline visits rest (lastFailure lastError turn) read tried result) :
    Ending router deadline visits (target :: rest) lastError
      ((target, (visits target).time) :: read) (turn ++ tried) result := by
  have appended : lastFailure lastError (turn ++ tried) =
      lastFailure (lastFailure lastError turn) tried := List.foldl_append
  cases ends with
  | left earlier last same others leaves inTime =>
      refine .left (turn ++ earlier) last (by rw [same, List.append_assoc]) ?_ leaves ?_
      · exact List.forall_mem_append.mpr ⟨failed, others⟩
      · exact List.forall_mem_cons.mpr ⟨timely, inTime⟩
  | late others passed raised =>
      have ⟨slow, inChain, found, past⟩ := passed
      refine .late (List.forall_mem_append.mpr ⟨failed, others⟩) ?_ (by rw [appended, raised])
      exact ⟨slow, List.mem_cons_of_mem _ inChain, List.mem_cons_of_mem _ found, past⟩
  | spent others inTime all raised =>
      refine .spent (List.forall_mem_append.mpr ⟨failed, others⟩) ?_ ?_ (by rw [appended, raised])
      · exact List.forall_mem_cons.mpr ⟨timely, inTime⟩
      · exact List.forall_mem_cons.mpr ⟨timely, all⟩

theorem Walks.ends (goes : Walks router role deadline visits targets lastError breakers walked) :
    Ending router deadline visits targets lastError (checks walked.events)
      (attempts walked.events) walked.result := by
  induction goes with
  | unavailable breakers => exact .spent nofun nofun nofun rfl
  | exhausted error breakers => exact .spent nofun nofun nofun rfl
  | @late target _ _ _ passed =>
      exact .late nofun ⟨target, List.mem_cons_self, List.mem_singleton_self _, passed⟩ rfl
  | skipped timely asked goes ih => exact Ending.extend [] timely nofun ih
  | @left target _ _ _ _ _ timely asked leaves =>
      refine .left [] (target, (visits target).attempt) rfl nofun leaves ?_
      exact List.forall_mem_singleton.mpr timely
  | @failedOver target _ lastError _ _ error _ timely asked attempted transient goes ih =>
      have failed : FailedOver (target, (visits target).attempt) := ⟨error, attempted, transient⟩
      have next : lastFailure lastError [(target, (visits target).attempt)] = some error := by
        unfold lastFailure
        simp only [List.foldl_cons, attempted, List.foldl_nil]
      refine Ending.extend _ timely (List.forall_mem_singleton.mpr failed) ?_
      rw [next]
      exact ih

end AiPlatform.Llm

import AiPlatform.Idempotency.Purges

set_option autoImplicit false

/- Completion is fenced on the claim token, and a completed response is what every later call
before its expiry sees, as its columns return it. -/
namespace AiPlatform.Idempotency

open Machine

def Event.completes (token : String) : Event → Bool
  | .stored _ _ claimToken _ _ done => done && claimToken = token
  | .checked _ _ _ => false

/-- The places where a token can still be, or has been, turned into a completion. -/
def budget (state : State) (token : String) : Int :=
  state.table.total (fun record => if record.heldBy token then 1 else 0) +
    state.waiting.total (fun waiting => if waiting.check.claimToken = token then 1 else 0) +
    state.history.countP (Event.completes token)

/-- Each token is good for one completion, and one that was not drawn for none. -/
structure TokensSpent (state : State) : Prop where
  once : ∀ token, budget state token ≤ 1
  unissued : ∀ token, token ∉ state.tokens → budget state token ≤ 0

theorem heldBy_iff {record : IdempotencyKey} {token : String} :
    record.heldBy token = true ↔
      record.claimToken = some token ∧ record.status = .inProgress := by
  simp [IdempotencyKey.heldBy]

theorem Claimed.held {check : Check} {now : Int} {record : IdempotencyKey}
    (claimed : Claimed check now record) (token : String) :
    (if record.heldBy token then (1 : Int) else 0) =
      if check.claimToken = token then 1 else 0 := by
  by_cases same : check.claimToken = token
  · simp [IdempotencyKey.heldBy, claimed.claimToken, claimed.status, same]
  · simp [IdempotencyKey.heldBy, claimed.claimToken, same]

theorem resetExpiredRecord_claimed {record : IdempotencyKey} {check : Check} (now : Int)
    (index : record.index = check.index) :
    Claimed check now (resetExpiredRecord record check now) :=
  ⟨index, rfl, rfl, rfl, rfl, rfl⟩

theorem countP_checked (token : String) (history : List Event) (now : Int) (check : Check)
    (reply : Except AppError Reply) :
    (history ++ [Event.checked now check reply]).countP (Event.completes token) =
      history.countP (Event.completes token) := by
  simp [Event.completes]

/-- How one step moves a token's budget. -/
theorem Effect.budget_le {timeoutSeconds now : Int} {state next : State} {call : Call}
    (effect : Effect timeoutSeconds state now call next) (token : String) :
    budget next token ≤ budget state token ∨
      (token ∉ state.tokens ∧ token ∈ next.tokens ∧
        budget next token = budget state token + 1) := by
  cases effect with
  | inserted call check table record fresh own claimed added =>
      have held := claimed.held token
      simp only [budget, Table.total_insert added, countP_checked, held]
      by_cases same : check.claimToken = token
      · subst same
        exact .inr ⟨fresh, List.mem_cons_self, by simp; omega⟩
      · exact .inl (by simp [same])
  | waits call check waiting fresh present added =>
      simp only [budget, Table.total_insert added]
      by_cases same : check.claimToken = token
      · subst same
        exact .inr ⟨fresh, List.mem_cons_self, by simp; omega⟩
      · exact .inl (by simp [same])
  | reclaimed call check record held found lapsed =>
      left
      have claimed := resetExpiredRecord_claimed now (Table.find_some.mp found).2
      simp only [budget, Table.total_modify found, Table.total_remove held, countP_checked,
        claimed.held token]
      split <;> omega
  | answered call check reply held reason =>
      left
      simp only [budget, Table.total_remove held, countP_checked]
      split <;> omega
  | completed index claimToken statusCode body record storable found held =>
      left
      obtain ⟨own, open_⟩ := heldBy_iff.mp held
      have closed : (completeRecord record statusCode body now).heldBy token = false := by
        simp [IdempotencyKey.heldBy, completeRecord]
      simp only [budget, Table.total_modify found, closed, List.countP_append,
        List.countP_singleton, Event.completes]
      by_cases same : claimToken = token
      · simp only [IdempotencyKey.heldBy, own, open_, same]
        simp
        omega
      · simp [IdempotencyKey.heldBy, own, same]
  | refused index claimToken statusCode body unfit => exact .inl le_rfl
  | fenced index claimToken statusCode body storable free =>
      left
      simp [budget, Event.completes]
  | selected before limit expired past chosen => exact .inl le_rfl
  | rejected before limit expired invalid => exact .inl le_rfl
  | deleted expired pending =>
      left
      have fewer : (deleteExpired expired state.table).total
          (fun record => if record.heldBy token then 1 else 0) ≤
          state.table.total fun record => if record.heldBy token then 1 else 0 := by
        rw [deleteExpired, Table.total_erase]
        apply Table.total_le
        intro record _
        split
        · split <;> decide
        · exact le_rfl
      simp only [budget]
      omega
  | rolledBack expired pending => exact .inl le_rfl

theorem Effect.tokens_grow {timeoutSeconds now : Int} {state next : State} {call : Call}
    (effect : Effect timeoutSeconds state now call next) {token : String}
    (drawn : token ∈ state.tokens) : token ∈ next.tokens := by
  cases effect <;> first | exact drawn | exact List.mem_cons_of_mem _ drawn

theorem Effect.tokensSpent {timeoutSeconds now : Int} {state next : State} {call : Call}
    (effect : Effect timeoutSeconds state now call next) (spent : TokensSpent state) :
    TokensSpent next := by
  constructor
  · intro token
    rcases effect.budget_le token with less | ⟨fresh, -, grown⟩
    · exact le_trans less (spent.once token)
    · have none_ := spent.unissued token fresh
      omega
  · intro token undrawn
    have before : token ∉ state.tokens := fun drawn => undrawn (effect.tokens_grow drawn)
    rcases effect.budget_le token with less | ⟨-, drawn, -⟩
    · exact le_trans less (spent.unissued token before)
    · exact absurd drawn undrawn

theorem init_tokensSpent (start : Int) (legacy : KeyTable) :
    TokensSpent (.init start legacy) := by
  have zero : ∀ token, budget (.init start legacy) token = 0 := by
    intro token
    have none_ : (fun record : IdempotencyKey => if record.heldBy token then (1 : Int) else 0) ∘
        IdempotencyKey.withoutToken = fun _ => 0 := by
      funext record
      simp [IdempotencyKey.heldBy, IdempotencyKey.withoutToken]
    simp only [budget, State.init, Table.total_map, none_]
    simp [Table.total]
  exact ⟨fun token => by rw [zero]; decide, fun token _ => (zero token).le⟩

theorem run_tokensSpent {timeoutSeconds start : Int} {legacy : KeyTable} {actions : List Action}
    {state : State}
    (reached : run (step timeoutSeconds) (.init start legacy) actions = some state) :
    TokensSpent state :=
  run_invariant_always TokensSpent
    (fun _ _ _ spent stepped => (step_effect stepped).2.tokensSpent ⟨spent.once, spent.unissued⟩)
    (init_tokensSpent start legacy) reached

/-- A response stored with success stays as it is while it has not expired, and until then
every `check_or_store` of the key replays it (with its status code read through `replay`) or,
for another request hash, raises the conflict. -/
def ResponsesReplayed (replay : Int → Int) (timeoutSeconds : Int) (initial : State)
    (actions : List Action) : Prop :=
  ∀ before action after state next later index token statusCode body,
    actions = before ++ action :: after →
    run (step timeoutSeconds) initial before = some state →
    step timeoutSeconds state action = some next →
    run (step timeoutSeconds) next after = some later →
    action.call = .store index token statusCode body →
    next.history = state.history ++ [.stored action.now index token statusCode body true] →
    ∃ record, next.table.find index = some record ∧ record.status = .completed ∧
      record.responseStatusCode = some statusCode ∧
      record.responseBody = some (Columns.jsonb body) ∧
      (later.clock < record.expiresAt → later.table.find index = some record) ∧
      ∀ events, later.history = next.history ++ events →
        ∀ now check reply, .checked now check reply ∈ events → check.index = index →
          now < record.expiresAt →
          reply = if check.requestHash = record.requestHash
            then .ok (.cached (replay statusCode) (Columns.jsonb body)) else .error keyConflict

/-- The record of a stored response, and what calls on its key were told since. -/
structure Replays (base : List Event) (index : String × String) (record : IdempotencyKey)
    (statusCode : Int) (body : Json) (state : State) : Prop where
  kept : state.clock < record.expiresAt → state.table.find index = some record
  told : ∃ events, state.history = base ++ events ∧
    ∀ now check reply, .checked now check reply ∈ events → check.index = index →
      now < record.expiresAt →
      reply = if check.requestHash = record.requestHash
        then .ok (.cached (replayedStatus (some statusCode)) body) else .error keyConflict

section Completed

variable {timeoutSeconds now : Int} {base : List Event} {index : String × String}
  {record : IdempotencyKey} {statusCode : Int} {body : Json}

theorem not_reclaimable_of_completed (timeoutSeconds : Int) (completed : record.status = .completed)
    (running : now < record.expiresAt) : reclaimable record now timeoutSeconds = false := by
  have open_ : ¬ record.expiresAt ≤ now := by omega
  simp [reclaimable, isStuckInProgress, completed, open_]

/-- No step touches an unexpired completed record. -/
theorem Effect.keeps_completed {state next : State} {call : Call}
    (effect : Effect timeoutSeconds state now call next) (current : state.clock = now)
    (due : DeletesExpired state ⟨now, call⟩) (completed : record.status = .completed)
    (running : now < record.expiresAt) (found : state.table.find index = some record) :
    next.table.find index = some record := by
  cases effect with
  | inserted call check table fresh undrawn own claimed added =>
      have missing := (Table.insert_some.mp added).1
      have other : index ≠ fresh.index := by
        rintro rfl
        rw [found] at missing
        cases missing
      simpa only [Table.find_insert added, other, ↓reduceIte] using found
  | waits call check waiting fresh present added => exact found
  | reclaimed call check lapsedRecord held lapsedFound lapsed =>
      have other : index ≠ check.index := by
        rintro rfl
        obtain rfl := Option.some.inj (found.symm.trans lapsedFound)
        rw [not_reclaimable_of_completed timeoutSeconds completed running] at lapsed
        cases lapsed
      simpa only [Table.find_modify, other, ↓reduceIte] using found
  | answered call check reply held reason => exact found
  | completed otherIndex claimToken otherStatus otherBody open_ storable openFound held =>
      have other : index ≠ otherIndex := by
        rintro rfl
        obtain rfl := Option.some.inj (found.symm.trans openFound)
        have status := (heldBy_iff.mp held).2
        rw [completed] at status
        cases status
      simpa only [Table.find_modify, other, ↓reduceIte] using found
  | refused otherIndex claimToken otherStatus otherBody unfit => exact found
  | fenced otherIndex claimToken otherStatus otherBody storable free => exact found
  | selected before limit expired past chosen => exact found
  | rejected before limit expired invalid => exact found
  | deleted expired pending =>
      have kept : record.id ∉ expired := fun listed => by
        have old := due expired rfl record (Table.find_some.mp found).1 listed
        omega
      simp [deleteExpired, Table.find_erase, found, Option.filter, kept]
  | rolledBack expired pending => exact found

/-- What a call on the key is told while the completed record has not expired. -/
theorem Effect.tells_completed {state next : State} {call : Call}
    (effect : Effect timeoutSeconds state now call next) (completed : record.status = .completed)
    (code : record.responseStatusCode = some statusCode) (stored : record.responseBody = some body)
    (running : now < record.expiresAt) (found : state.table.find index = some record) :
    ∃ events, next.history = state.history ++ events ∧
      ∀ time check reply, .checked time check reply ∈ events → check.index = index →
        reply = if check.requestHash = record.requestHash
          then .ok (.cached (replayedStatus (some statusCode)) body) else .error keyConflict := by
  have live := not_reclaimable_of_completed timeoutSeconds completed running
  cases effect with
  | inserted call check table fresh undrawn own claimed added =>
      refine ⟨_, rfl, ?_⟩
      intro time other reply member same
      simp only [List.mem_singleton, Event.checked.injEq] at member
      obtain ⟨-, rfl, -⟩ := member
      have missing := (Table.insert_some.mp added).1
      rw [claimed.index, same, found] at missing
      cases missing
  | waits call check waiting fresh present added => exact ⟨[], by simp, by simp⟩
  | reclaimed call check lapsedRecord held lapsedFound lapsed =>
      refine ⟨_, rfl, ?_⟩
      intro time other reply member same
      simp only [List.mem_singleton, Event.checked.injEq] at member
      obtain ⟨-, rfl, -⟩ := member
      rw [same, found] at lapsedFound
      obtain rfl := Option.some.inj lapsedFound
      rw [live] at lapsed
      cases lapsed
  | answered call check reply held reason =>
      refine ⟨_, rfl, ?_⟩
      intro time other told member same
      simp only [List.mem_singleton, Event.checked.injEq] at member
      obtain ⟨-, rfl, rfl⟩ := member
      rw [same, found] at reason
      rcases reason with ⟨-, missing⟩ | ⟨old, oldFound, -, answer⟩
      · cases missing
      · obtain rfl := Option.some.inj oldFound
        rcases answer with ⟨rfl, differs⟩ | ⟨sameHash, ⟨old, -, oldBody, rfl⟩ | ⟨open_, -⟩⟩
        · rw [if_neg (fun equal => differs equal.symm)]
        · obtain rfl := Option.some.inj (stored.symm.trans oldBody)
          rw [if_pos sameHash.symm, code]
        · rcases open_ with running_ | bodiless
          · exact absurd completed running_
          · rw [stored] at bodiless
            cases bodiless
  | completed otherIndex claimToken otherStatus otherBody open_ storable openFound held =>
      exact ⟨_, rfl, by simp⟩
  | refused otherIndex claimToken otherStatus otherBody unfit => exact ⟨[], by simp, by simp⟩
  | fenced otherIndex claimToken otherStatus otherBody storable free => exact ⟨_, rfl, by simp⟩
  | selected before limit expired past chosen => exact ⟨[], by simp, by simp⟩
  | rejected before limit expired invalid => exact ⟨[], by simp, by simp⟩
  | deleted expired pending => exact ⟨[], by simp, by simp⟩
  | rolledBack expired pending => exact ⟨[], by simp, by simp⟩

theorem step_replays {state next : State} {action : Action}
    (completed : record.status = .completed) (code : record.responseStatusCode = some statusCode)
    (stored : record.responseBody = some body)
    (replays : Replays base index record statusCode body state) (due : DeletesExpired state action)
    (stepped : step timeoutSeconds state action = some next) :
    Replays base index record statusCode body next := by
  obtain ⟨later, effect⟩ := step_effect stepped
  obtain ⟨told, toldShape, answers⟩ := replays.told
  have clock : next.clock = action.now := effect.clock
  by_cases running : action.now < record.expiresAt
  · have found := replays.kept (lt_of_le_of_lt later running)
    obtain ⟨events, shape, more⟩ := effect.tells_completed completed code stored running found
    have dueNow : DeletesExpired { state with clock := action.now } ⟨action.now, action.call⟩ :=
      fun expired asked old inside listed => (due expired asked old inside listed).trans later
    refine ⟨fun _ => effect.keeps_completed rfl dueNow completed running found, told ++ events,
      ?_, ?_⟩
    · rw [shape, toldShape, List.append_assoc]
    · intro now check reply member same open_
      rcases List.mem_append.mp member with old | new
      · exact answers now check reply old same open_
      · exact more now check reply new same
  · obtain ⟨events, shape, times⟩ := effect.history
    refine ⟨fun open_ => absurd open_ (by rw [clock]; exact running), told ++ events, ?_, ?_⟩
    · rw [shape, toldShape, List.append_assoc]
    · intro now check reply member same open_
      rcases List.mem_append.mp member with old | new
      · exact answers now check reply old same open_
      · rw [times now check reply new] at open_
        exact absurd open_ running

end Completed

/-- The call that stored a response held the record under its token. -/
theorem store_step {timeoutSeconds : Int} {state next : State} {action : Action}
    {index : String × String} {token : String} {statusCode : Int} {body : Json}
    (asked : action.call = .store index token statusCode body)
    (stepped : step timeoutSeconds state action = some next) :
    (next.history = state.history ++ [.stored action.now index token statusCode body true] ∧
      ∃ record, state.table.find index = some record ∧ record.heldBy token = true ∧
        next.table.find index = some (completeRecord record statusCode body action.now)) ∨
    (next.history = state.history ++ [.stored action.now index token statusCode body false] ∧
      next.table = state.table) ∨
    ¬ Storable statusCode body ∧ next.history = state.history ∧ next.table = state.table := by
  obtain ⟨-, effect⟩ := step_effect stepped
  rw [asked] at effect
  cases effect with
  | completed _ _ _ _ record storable found held =>
      refine .inl ⟨rfl, record, found, held, ?_⟩
      simp only [Table.find_modify, ↓reduceIte, found, Option.map_some]
  | refused _ _ _ _ unfit => exact .inr (.inr ⟨unfit, rfl, rfl⟩)
  | fenced _ _ _ _ storable free => exact .inr (.inl ⟨rfl, rfl⟩)

theorem responsesReplayed (timeoutSeconds start : Int) (legacy : KeyTable) (actions : List Action)
    (unselected : Meets (step timeoutSeconds) (ReclaimsUnselected timeoutSeconds)
      (.init start legacy) actions) :
    ResponsesReplayed (fun code => if code = 0 then 200 else code) timeoutSeconds
      (.init start legacy) actions := by
  intro before action after state next later index token statusCode body shape arrived stepped
    reached asked stored
  subst shape
  have whole : run (step timeoutSeconds) (.init start legacy) (before ++ action :: after) =
      some later :=
    run_append_some.mpr ⟨state, arrived, run_cons_some.mpr ⟨next, stepped, reached⟩⟩
  have due := ((meets_append.mp (deletes_expired whole unselected)).2 state arrived).2 next stepped
  rcases store_step asked stepped with ⟨-, record, -, -, found⟩ | ⟨fenced, -⟩ | ⟨-, refused, -⟩
  · refine ⟨_, found, rfl, rfl, rfl, ?_⟩
    have replays := run_invariant
      (Replays next.history index (completeRecord record statusCode body action.now) statusCode
        (Columns.jsonb body))
      (fun _ _ _ holds due stepped => step_replays rfl rfl rfl holds due stepped)
      ⟨fun _ => found, [], by simp, by simp⟩ due reached
    refine ⟨replays.kept, ?_⟩
    intro events shape now check reply member same running
    obtain ⟨told, toldShape, answers⟩ := replays.told
    obtain rfl : events = told := List.append_cancel_left (shape.symm.trans toldShape)
    exact answers now check reply member same running
  · rw [fenced] at stored
    have equal := List.append_cancel_left stored
    simp at equal
  · rw [refused] at stored
    simp at stored

/-- Fencing and replay, for every run: a token completes at most once and only the record it
holds in progress, and a refused completion changes nothing. In a run that reclaims no row an
unfinished purge has selected, an unexpired response is replayed as stored (a status code 0 as
200). -/
theorem responses_fenced_and_replayed (timeoutSeconds start : Int) (legacy : KeyTable)
    (actions : List Action) (state : State)
    (reached : run (step timeoutSeconds) (.init start legacy) actions = some state) :
    (∀ token, state.history.countP (Event.completes token) ≤ 1) ∧
    (∀ action next index token statusCode body, action.call = .store index token statusCode body →
      step timeoutSeconds state action = some next →
      (next.history = state.history ++ [.stored action.now index token statusCode body true] ∧
        ∃ record, state.table.find index = some record ∧ record.status = .inProgress ∧
          record.claimToken = some token) ∨
      (next.history = state.history ++ [.stored action.now index token statusCode body false] ∧
        next.table = state.table) ∨
      ¬ Storable statusCode body ∧ next.history = state.history ∧ next.table = state.table) ∧
    (Meets (step timeoutSeconds) (ReclaimsUnselected timeoutSeconds) (.init start legacy) actions →
      ResponsesReplayed (fun code => if code = 0 then 200 else code) timeoutSeconds
        (.init start legacy) actions) := by
  refine ⟨?_, ?_, responsesReplayed timeoutSeconds start legacy actions⟩
  · intro token
    have once := (run_tokensSpent reached).once token
    have rows : 0 ≤ state.table.total fun record => if record.heldBy token then 1 else 0 :=
      Table.total_nonneg fun record _ => by split <;> decide
    have calls : 0 ≤ state.waiting.total
        fun waiting => if waiting.check.claimToken = token then 1 else 0 :=
      Table.total_nonneg fun waiting _ => by split <;> decide
    simp only [budget] at once
    omega
  · intro action next index token statusCode body asked stepped
    rcases store_step asked stepped with ⟨history, record, found, held, -⟩ | refused
    · exact .inl ⟨history, record, found, (heldBy_iff.mp held).2, (heldBy_iff.mp held).1⟩
    · exact .inr refused

/-- One request is completed with the given status code and then sent again. -/
def retriedRequest (statusCode : Int) : List Action :=
  [⟨0, .begin 1 ⟨"p", "k", "h", 100000000, "c1"⟩⟩,
    ⟨1000000, .store ("p", "k") "c1" statusCode (.obj [])⟩,
    ⟨2000000, .begin 2 ⟨"p", "k", "h", 102000000, "c2"⟩⟩, ⟨3000000, .resolve 2⟩]

theorem responses_replayed_for_retry :
    ResponsesReplayed (fun code => if code = 0 then 200 else code) 600 (.init 0 .empty)
      (retriedRequest 201) :=
  (responses_fenced_and_replayed 600 0 .empty (retriedRequest 201) _ rfl).2.2 (by decide)

/-- The stored status code 0 comes back as 200. -/
theorem status_zero_not_replayed :
    ¬ ResponsesReplayed id 600 (.init 0 .empty) (retriedRequest 0) := by
  intro replayed
  obtain ⟨record, found, -, -, -, -, told⟩ := replayed ((retriedRequest 0).take 1)
    ⟨1000000, .store ("p", "k") "c1" 0 (.obj [])⟩ ((retriedRequest 0).drop 2) _ _ _
      ("p", "k") "c1" 0
    (.obj []) rfl rfl rfl rfl rfl rfl
  cases found
  have answer := told _ rfl 3000000 ⟨"p", "k", "h", 102000000, "c2"⟩
    (.ok (.cached 200 (.obj []))) (List.mem_singleton.mpr rfl) rfl (by decide)
  change (Except.ok (Reply.cached 200 (.obj [])) : Except AppError Reply) =
    .ok (.cached 0 (.obj [])) at answer
  simp at answer

end AiPlatform.Idempotency

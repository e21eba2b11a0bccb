import AiPlatform.Idempotency.Calls

set_option autoImplicit false

/- When a call finds no row at its re-read. Only a purge takes rows away, so a call is told
`idempotency_internal_error` when a purge takes the row that its insert ran into. -/
namespace AiPlatform.Idempotency.Vanishing

open Machine

/-- A claim, a cached response or one of the two conflicts. -/
def Settled : Except AppError Reply → Prop
  | .ok _ => True
  | .error error => error = keyConflict ∨ error = keyInProgress

/-- The call is told something it is meant to be told. -/
def Told : Event → Prop
  | .checked _ _ reply => Settled reply
  | .stored _ _ _ _ _ _ => True

/-- The step deletes no row that a call waits to read again. -/
def Spares (state : State) (action : Action) : Prop :=
  match action.call with
  | .delete expired => ∀ waiting ∈ state.waiting.rows,
      ∀ record ∈ state.table.find waiting.check.index, record.id ∉ expired
  | _ => True

instance (state : State) : (action : Action) → Decidable (Spares state action)
  | ⟨_, .delete expired⟩ => inferInstanceAs (Decidable (∀ waiting ∈ state.waiting.rows,
      ∀ record ∈ state.table.find waiting.check.index, record.id ∉ expired))
  | ⟨_, .begin _ _⟩ | ⟨_, .resolve _⟩ | ⟨_, .store _ _ _ _⟩ | ⟨_, .select _ _ _⟩
  | ⟨_, .rollback _⟩ => .isTrue trivial

/-- A call that reads its row again finds one. -/
def Rereads (state : State) (action : Action) : Prop :=
  match action.call with
  | .resolve call => ∀ waiting ∈ state.waiting.find call,
      state.table.find waiting.check.index ≠ none
  | _ => True

/-- The row of every waiting call is there. -/
def Kept (state : State) : Prop :=
  ∀ waiting ∈ state.waiting.rows, state.table.find waiting.check.index ≠ none

section Steps

variable {timeoutSeconds now : Int} {state next : State}

theorem internalError_unsettled : ¬Settled (.error internalError) := by
  intro settled
  rcases settled with same | same
  · exact absurd same (by decide)
  · exact absurd same (by decide)

/-- No call but a purge takes a row away. -/
theorem Effect.kept {call : Call} (effect : Effect timeoutSeconds state now call next)
    (kept : Kept state) (spared : Spares state ⟨now, call⟩) : Kept next := by
  have modified : ∀ index change keeps, ∀ waiting ∈ state.waiting.rows,
      (state.table.modify index change keeps).find waiting.check.index ≠ none := by
    intro index change keeps waiting member gone
    rw [Table.find_modify] at gone
    split at gone
    · exact kept waiting member (Option.map_eq_none_iff.mp gone)
    · exact kept waiting member gone
  cases effect with
  | inserted call check table record fresh own claimed added =>
      intro waiting member gone
      dsimp only at gone
      rw [Table.find_insert added] at gone
      split at gone
      · cases gone
      · exact kept waiting member gone
  | waits call check waiting fresh present added =>
      intro each member
      dsimp only at member
      rw [(Table.insert_some.mp added).2] at member
      rcases List.mem_append.mp member with old | new
      · exact kept each old
      · rw [List.mem_singleton.mp new]
        exact present
  | reclaimed call check record held found lapsed =>
      exact fun each member => modified check.index _
        (fun record => resetExpiredRecord_index record check now) each
        (Table.mem_remove.mp member).1
  | answered call check reply held reason =>
      exact fun each member => kept each (Table.mem_remove.mp member).1
  | completed index claimToken statusCode body record storable found held =>
      exact modified index _ fun record => completeRecord_index record statusCode body now
  | refused index claimToken statusCode body unfit => exact kept
  | fenced index claimToken statusCode body storable free => exact kept
  | selected before limit expired past chosen => exact kept
  | rejected before limit expired invalid => exact kept
  | deleted expired pending =>
      intro waiting member
      obtain ⟨record, found⟩ := Option.ne_none_iff_exists'.mp (kept waiting member)
      have unlisted := spared waiting member record found
      simp [deleteExpired, Table.find_erase, found, Option.filter, unlisted]
  | rolledBack expired pending => exact kept

/-- What a step tells calls is meant to be told, unless a call reads again and finds no row. -/
theorem Effect.told {call : Call} (effect : Effect timeoutSeconds state now call next) :
    ∃ events, next.history = state.history ++ events ∧
      ((∀ event ∈ events, Told event) ↔ Rereads state ⟨now, call⟩) := by
  have one : ∀ event : Event, (∀ each ∈ [event], Told each) ↔ Told event := by
    intro event
    exact List.forall_mem_singleton
  cases effect with
  | inserted call check table record fresh own claimed added =>
      exact ⟨_, rfl, iff_of_true ((one _).mpr trivial) trivial⟩
  | waits call check waiting fresh present added =>
      exact ⟨[], (List.append_nil _).symm, iff_of_true nofun trivial⟩
  | reclaimed call check record held found lapsed =>
      refine ⟨_, rfl, iff_of_true ((one _).mpr trivial) ?_⟩
      intro waiting (here : state.waiting.find call = some waiting) gone
      rw [held] at here
      cases here
      rw [found] at gone
      cases gone
  | answered call check reply held reason =>
      refine ⟨_, rfl, (one _).trans ?_⟩
      rcases reason with ⟨vanished, missing⟩ | ⟨record, found, _, answer⟩
      · apply iff_of_false
        · intro settled
          have known : Settled reply := settled
          rw [vanished] at known
          exact internalError_unsettled known
        · intro rereads
          exact rereads _ held missing
      · apply iff_of_true
        · show Settled reply
          rcases answer with ⟨conflict, _⟩ | ⟨_, ⟨_, _, _, cached⟩ | ⟨_, busy⟩⟩
          · rw [conflict]
            exact .inl rfl
          · rw [cached]
            trivial
          · rw [busy]
            exact .inr rfl
        · intro waiting (here : state.waiting.find call = some waiting) gone
          rw [held] at here
          cases here
          rw [found] at gone
          cases gone
  | completed index claimToken statusCode body record storable found held =>
      exact ⟨_, rfl, iff_of_true ((one _).mpr trivial) trivial⟩
  | refused index claimToken statusCode body unfit =>
      exact ⟨[], (List.append_nil _).symm, iff_of_true nofun trivial⟩
  | fenced index claimToken statusCode body storable free =>
      exact ⟨_, rfl, iff_of_true ((one _).mpr trivial) trivial⟩
  | selected before limit expired past chosen =>
      exact ⟨[], (List.append_nil _).symm, iff_of_true nofun trivial⟩
  | rejected before limit expired invalid =>
      exact ⟨[], (List.append_nil _).symm, iff_of_true nofun trivial⟩
  | deleted expired pending =>
      exact ⟨[], (List.append_nil _).symm, iff_of_true nofun trivial⟩
  | rolledBack expired pending =>
      exact ⟨[], (List.append_nil _).symm, iff_of_true nofun trivial⟩

end Steps

section Actions

variable {timeoutSeconds : Int} {state next : State} {action : Action}

theorem step_told (stepped : step timeoutSeconds state action = some next) :
    ∃ events, next.history = state.history ++ events ∧
      ((∀ event ∈ events, Told event) ↔ Rereads state action) := by
  have ⟨events, grown, told⟩ := Effect.told (step_effect stepped).2
  exact ⟨events, grown, told⟩

theorem step_kept (kept : Kept state) (spares : Spares state action)
    (stepped : step timeoutSeconds state action = some next) : Kept next :=
  Effect.kept (step_effect stepped).2 kept spares

theorem rereads_of_kept (kept : Kept state) (action : Action) : Rereads state action := by
  unfold Rereads
  split
  · intro waiting held
    exact kept waiting (Table.find_some.mp held).1
  · trivial

end Actions

/-- For every run: every call is told a claim, a cached response or a conflict
exactly when each one that reads its row again finds one, as it does in every run whose purges spare
the rows that calls wait to read again. -/
theorem check_settled_iff (timeoutSeconds start : Int) (legacy : KeyTable) (actions : List Action)
    (final : State)
    (reached : run (step timeoutSeconds) (.init start legacy) actions = some final) :
    ((∀ event ∈ final.history, Told event) ↔
      Meets (step timeoutSeconds) Rereads (.init start legacy) actions) ∧
    (Meets (step timeoutSeconds) Spares (.init start legacy) actions →
      ∀ event ∈ final.history, Told event) := by
  have told : (∀ event ∈ final.history, Told event) ↔
      Meets (step timeoutSeconds) Rereads (.init start legacy) actions := by
    rw [run_log_iff State.history Told (fun _ _ _ stepped => step_told stepped) reached]
    exact and_iff_right nofun
  refine ⟨told, fun spares => told.mpr ?_⟩
  exact Meets.of_invariant (fun _ _ _ kept spares stepped => step_kept kept spares stepped)
    (fun _ action _ kept _ _ => rereads_of_kept kept action) nofun spares reached

/-- A claim expires, and a second call on the key meets the row. -/
def expiredKey : List Action :=
  [⟨0, .begin 1 ⟨"p", "k", "h", 10000000, "c1"⟩⟩,
    ⟨20000000, .begin 2 ⟨"p", "k", "h", 30000000, "c2"⟩⟩]

/-- The second call reclaims the key, and a purge takes it once it has expired again. -/
def purgedLater : List Action :=
  expiredKey ++ [⟨21000000, .resolve 2⟩,
    ⟨31000000, .select 31000000 5 [(("p", "k"), some "c1")]⟩,
    ⟨31000001, .delete [(("p", "k"), some "c1")]⟩]

theorem check_settled_iff_later :
    (run (step 600) (.init 0 .empty) purgedLater).elim False fun final =>
      ∀ event ∈ final.history, Told event := by
  apply (check_settled_iff 600 0 .empty purgedLater _ rfl).2
  decide

/-- A purge between the insert conflict and the re-read of the second call takes the row away. -/
theorem check_unsettled :
    ¬∀ (timeoutSeconds start : Int) (legacy : KeyTable) (actions : List Action) (final : State),
      run (step timeoutSeconds) (.init start legacy) actions = some final →
      ∀ event ∈ final.history, Told event := by
  intro told
  apply internalError_unsettled
  exact told 600 0 .empty (expiredKey ++
    [⟨21000000, .select 21000000 5 [(("p", "k"), some "c1")]⟩,
      ⟨21000000, .delete [(("p", "k"), some "c1")]⟩, ⟨22000000, .resolve 2⟩]) _ rfl
    (.checked 22000000 ⟨"p", "k", "h", 30000000, "c2"⟩ (.error internalError))
    (List.mem_cons_of_mem _ List.mem_cons_self)

end AiPlatform.Idempotency.Vanishing

import AiPlatform.Idempotency.Calls

set_option autoImplicit false

/- What an unfinished purge is going to delete. Its `DELETE` compares nothing but ids, so a row that
it has selected and that a retry then reclaims is lost together with the new claim. -/
namespace AiPlatform.Idempotency

open Machine

/-- The row that a waiting call reclaims when it reads again. -/
def reclaims (timeoutSeconds : Int) (state : State) (now : Int) (call : Nat) :
    Option IdempotencyKey :=
  (state.waiting.find call).bind fun waiting =>
    (state.table.find waiting.check.index).filter fun record =>
      reclaimable record now timeoutSeconds

/-- The step reclaims no row that an unfinished purge has selected. -/
def ReclaimsUnselected (timeoutSeconds : Int) (state : State) (action : Action) : Prop :=
  match action.call with
  | .resolve call => ∀ record ∈ reclaims timeoutSeconds state action.now call,
      ∀ expired ∈ state.selected, record.id ∉ expired
  | _ => True

instance (timeoutSeconds : Int) (state : State) :
    (action : Action) → Decidable (ReclaimsUnselected timeoutSeconds state action)
  | ⟨now, .resolve call⟩ => inferInstanceAs (Decidable
      (∀ record ∈ reclaims timeoutSeconds state now call,
        ∀ expired ∈ state.selected, record.id ∉ expired))
  | ⟨_, .begin _ _⟩ | ⟨_, .store _ _ _ _⟩ | ⟨_, .select _ _ _⟩ | ⟨_, .delete _⟩
  | ⟨_, .rollback _⟩ => .isTrue trivial

/-- Rows that are selected have expired, and a row to come is in no selection. -/
structure Selections (state : State) : Prop where
  expired : ∀ expired ∈ state.selected, ∀ record ∈ state.table.rows, record.id ∈ expired →
    record.expiresAt ≤ state.clock
  drawn : ∀ expired ∈ state.selected, ∀ id ∈ expired, ∀ token, id.2 = some token →
    token ∈ state.tokens
  inserted : ∀ record ∈ state.table.rows, ∀ token, record.insertedBy = some token →
    token ∈ state.tokens

theorem mem_deleteExpired {expired : List RowId} {table : KeyTable} {record : IdempotencyKey} :
    record ∈ (deleteExpired expired table).rows ↔ record ∈ table.rows ∧ record.id ∉ expired := by
  simp [deleteExpired, Table.mem_erase]

theorem eq_of_id {table : KeyTable} {left right : IdempotencyKey} (memLeft : left ∈ table.rows)
    (memRight : right ∈ table.rows) (same : left.id = right.id) : left = right :=
  Table.eq_of_key memLeft memRight (congrArg Prod.fst same)

section Steps

variable {timeoutSeconds now : Int} {state next : State}

/-- A step that selects nothing and whose rows were all there before, with the same expiry. -/
theorem Selections.mono (selections : Selections state) (later : state.clock ≤ next.clock)
    (fewer : ∀ expired ∈ next.selected, expired ∈ state.selected)
    (tokens : ∀ token ∈ state.tokens, token ∈ next.tokens)
    (rows : ∀ record ∈ next.table.rows, ∃ old ∈ state.table.rows,
      record.id = old.id ∧ record.expiresAt = old.expiresAt) : Selections next := by
  constructor
  · intro expired member record inside listed
    obtain ⟨old, before, same, expiry⟩ := rows record inside
    have due := selections.expired expired (fewer expired member) old before (same ▸ listed)
    rw [expiry]
    omega
  · intro expired member id listed token own
    exact tokens token (selections.drawn expired (fewer expired member) id listed token own)
  · intro record inside token own
    obtain ⟨old, before, same, -⟩ := rows record inside
    have insertedBy : record.insertedBy = old.insertedBy := congrArg Prod.snd same
    exact tokens token (selections.inserted old before token (insertedBy ▸ own))

theorem Selections.tick (selections : Selections state) (later : state.clock ≤ now) :
    Selections { state with clock := now } :=
  selections.mono later (fun _ member => member) (fun _ member => member)
    fun record inside => ⟨record, inside, rfl, rfl⟩

theorem Selections.inserting (selections : Selections state) {check : Check} {table : KeyTable}
    {record : IdempotencyKey} (fresh : check.claimToken ∉ state.tokens)
    (own : record.insertedBy = some check.claimToken)
    (added : state.table.insert record = some table) (history : List Event) :
    Selections { state with
      table := table
      tokens := check.claimToken :: state.tokens
      history := history } := by
  have rows : ∀ row ∈ table.rows, row ∈ state.table.rows ∨ row = record := by
    intro row inside
    rw [(Table.insert_some.mp added).2] at inside
    rcases List.mem_append.mp inside with old | new
    · exact .inl old
    · exact .inr (List.mem_singleton.mp new)
  constructor
  · intro expired member row inside listed
    rcases rows row inside with old | rfl
    · exact selections.expired expired member row old listed
    · exact absurd (selections.drawn expired member row.id listed _ own) fresh
  · intro expired member id listed token drawn
    exact List.mem_cons_of_mem _ (selections.drawn expired member id listed token drawn)
  · intro row inside token drawn
    rcases rows row inside with old | rfl
    · exact List.mem_cons_of_mem _ (selections.inserted row old token drawn)
    · rw [own] at drawn
      rw [← Option.some.inj drawn]
      exact List.mem_cons_self

theorem Selections.selecting (selections : Selections state) {before : Int} {expired : List RowId}
    (past : before ≤ state.clock)
    (chosen : ∀ id ∈ expired, ∃ record ∈ state.table.rows,
      record.id = id ∧ record.expiresAt < before) :
    Selections { state with selected := expired :: state.selected } := by
  constructor
  · intro listed member record inside here
    rcases List.mem_cons.mp member with rfl | old
    · obtain ⟨other, there, same, due⟩ := chosen record.id here
      rw [eq_of_id inside there same.symm]
      exact (due.trans_le past).le
    · exact selections.expired listed old record inside here
  · intro listed member id here token drawn
    rcases List.mem_cons.mp member with rfl | old
    · obtain ⟨record, there, rfl, -⟩ := chosen id here
      exact selections.inserted record there token drawn
    · exact selections.drawn listed old id here token drawn
  · exact selections.inserted

/-- A reclaimed row is in no selection, whatever its new expiry. -/
theorem Selections.reclaiming (selections : Selections state) {check : Check}
    {record : IdempotencyKey} (found : state.table.find check.index = some record)
    (unselected : ∀ expired ∈ state.selected, record.id ∉ expired)
    (waiting : Table Waiting.id) (history : List Event) :
    Selections { state with
      table := state.table.modify check.index
        (fun record => resetExpiredRecord record check now)
        fun record => resetExpiredRecord_index record check now
      waiting := waiting
      history := history } := by
  have rows : ∀ row ∈ (state.table.modify check.index
      (fun record => resetExpiredRecord record check now)
      fun record => resetExpiredRecord_index record check now).rows,
      row ∈ state.table.rows ∨ row = resetExpiredRecord record check now := by
    intro row inside
    rcases Table.mem_modify.mp inside with ⟨old, -⟩ | ⟨old, same, rfl⟩
    · exact .inl old
    · rw [found] at same
      rw [Option.some.inj same]
      exact .inr rfl
  constructor
  · intro expired member row inside listed
    rcases rows row inside with old | rfl
    · exact selections.expired expired member row old listed
    · exact absurd listed (unselected expired member)
  · exact selections.drawn
  · intro row inside token drawn
    rcases rows row inside with old | rfl
    · exact selections.inserted row old token drawn
    · exact selections.inserted record (Table.find_some.mp found).1 token drawn

theorem Effect.selections {call : Call} (effect : Effect timeoutSeconds state now call next)
    (current : state.clock = now) (selections : Selections state)
    (spared : ReclaimsUnselected timeoutSeconds state ⟨now, call⟩) : Selections next := by
  cases effect with
  | inserted call check table record fresh own claimed added =>
      exact selections.inserting fresh own added _
  | waits call check waiting fresh present added =>
      exact selections.mono le_rfl (fun _ member => member)
        (fun _ member => List.mem_cons_of_mem _ member) fun record inside =>
          ⟨record, inside, rfl, rfl⟩
  | reclaimed call check record held found lapsed =>
      have reclaimed : record ∈ reclaims timeoutSeconds state now call := by
        simp [reclaims, held, found, Option.filter, lapsed]
      exact selections.reclaiming found (spared record reclaimed) _ _
  | answered call check reply held reason =>
      exact selections.mono le_rfl (fun _ member => member) (fun _ member => member)
        fun record inside => ⟨record, inside, rfl, rfl⟩
  | completed index claimToken statusCode body record storable found held =>
      refine selections.mono le_rfl (fun _ member => member) (fun _ member => member) ?_
      intro row inside
      have member : row ∈ (state.table.modify index
          (fun record => completeRecord record statusCode body now)
          fun record => completeRecord_index record statusCode body now).rows := inside
      rcases Table.mem_modify.mp member with ⟨old, -⟩ | ⟨old, same, rfl⟩
      · exact ⟨row, old, rfl, rfl⟩
      · exact ⟨old, (Table.find_some.mp same).1, rfl, rfl⟩
  | refused index claimToken statusCode body unfit => exact selections
  | fenced index claimToken statusCode body storable free =>
      exact selections.mono le_rfl (fun _ member => member) (fun _ member => member)
        fun record inside => ⟨record, inside, rfl, rfl⟩
  | selected before limit expired past chosen =>
      exact selections.selecting (current ▸ past) chosen
  | rejected before limit expired invalid => exact selections
  | deleted expired pending =>
      exact selections.mono le_rfl (fun _ member => List.mem_of_mem_erase member)
        (fun _ member => member)
        fun record inside => ⟨record, (mem_deleteExpired.mp inside).1, rfl, rfl⟩
  | rolledBack expired pending =>
      exact selections.mono le_rfl (fun _ member => List.mem_of_mem_erase member)
        (fun _ member => member) fun record inside => ⟨record, inside, rfl, rfl⟩

end Steps

theorem step_selections {timeoutSeconds : Int} {state next : State} {action : Action}
    (selections : Selections state) (spared : ReclaimsUnselected timeoutSeconds state action)
    (stepped : step timeoutSeconds state action = some next) : Selections next := by
  obtain ⟨later, effect⟩ := step_effect stepped
  exact effect.selections rfl (selections.tick later) spared

theorem init_selections (start : Int) (legacy : KeyTable) : Selections (.init start legacy) := by
  constructor
  · intro expired member
    cases member
  · intro expired member
    cases member
  · intro record inside token own
    obtain ⟨old, -, rfl⟩ := List.mem_map.mp inside
    cases own

/-- The rows that a purge deletes have expired. -/
def DeletesExpired (state : State) (action : Action) : Prop :=
  ∀ expired, action.call = .delete expired → ∀ record ∈ state.table.rows, record.id ∈ expired →
    record.expiresAt ≤ state.clock

theorem Selections.deletes {timeoutSeconds : Int} {state next : State} {action : Action}
    (selections : Selections state) (stepped : step timeoutSeconds state action = some next) :
    DeletesExpired state action := by
  rintro expired asked record inside listed
  have effect := (step_effect stepped).2
  rw [asked] at effect
  cases effect with
  | deleted _ pending => exact selections.expired expired pending record inside listed

/-- A run that reclaims no selected row deletes nothing but expired rows. -/
theorem deletes_expired {timeoutSeconds start : Int} {legacy : KeyTable} {actions : List Action}
    {state : State}
    (reached : run (step timeoutSeconds) (.init start legacy) actions = some state)
    (met : Meets (step timeoutSeconds) (ReclaimsUnselected timeoutSeconds) (.init start legacy)
      actions) :
    Meets (step timeoutSeconds) DeletesExpired (.init start legacy) actions :=
  Meets.of_invariant
    (fun _ _ _ selections spared stepped => step_selections selections spared stepped)
    (fun _ _ _ selections _ stepped => selections.deletes stepped) (init_selections start legacy)
    met reached

end AiPlatform.Idempotency

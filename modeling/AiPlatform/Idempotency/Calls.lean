import AiPlatform.Idempotency.Service
import AiPlatform.Lib.Machine

set_option autoImplicit false

/- Concurrent calls on the idempotency table. A `check_or_store` is two steps: its insert, and,
after a conflict, everything from the `FOR UPDATE` re-read on, which the row lock makes one
step. A purge is two steps as well: its statement deletes after other transactions may have moved on
from the snapshot that its sub-select read. -/
namespace AiPlatform.Idempotency

open Machine

/-- A call between its insert conflict and its re-read. -/
structure Waiting where
  id : Nat
  check : Check
deriving DecidableEq

/-- What calls returned, in order. -/
inductive Event where
  | checked (now : Int) (check : Check) (reply : Except AppError Reply)
  | stored (now : Int) (index : String × String) (claimToken : String) (statusCode : Int)
      (body : Json) (done : Bool)

/-- `selected` holds what the sub-selects of unfinished purges returned. -/
structure State where
  table : KeyTable
  clock : Int
  waiting : Table Waiting.id
  selected : List (List RowId)
  tokens : List String
  history : List Event

def IdempotencyKey.withoutToken (record : IdempotencyKey) : IdempotencyKey :=
  { record with claimToken := none, insertedBy := none }

theorem withoutToken_index (record : IdempotencyKey) :
    record.withoutToken.index = record.index := rfl

/-- Rows left from before claim tokens existed carry none. -/
def State.init (start : Int) (legacy : KeyTable) : State where
  table := legacy.map IdempotencyKey.withoutToken withoutToken_index
  clock := start
  waiting := .empty
  selected := []
  tokens := []
  history := []

inductive Call where
  | begin (call : Nat) (check : Check)
  | resolve (call : Nat)
  | store (index : String × String) (claimToken : String) (statusCode : Int) (body : Json)
  | select (before limit : Int) (expired : List RowId)
  | delete (expired : List RowId)
  | rollback (expired : List RowId)

structure Action where
  now : Int
  call : Call

/-- The insert of `check_or_store`; `uuid4` never repeats a token. -/
def begin (state : State) (now : Int) (call : Nat) (check : Check) : Option State :=
  if check.claimToken ∈ state.tokens then none
  else
    match tryInsert now check state.table with
    | some table => some { state with
        table := table
        tokens := check.claimToken :: state.tokens
        history := state.history ++ [.checked now check (.ok (.claim check.claimToken))] }
    | none => (state.waiting.insert ⟨call, check⟩).map fun waiting =>
        { state with waiting := waiting, tokens := check.claimToken :: state.tokens }

def resolve (timeoutSeconds : Int) (state : State) (now : Int) (call : Nat) : Option State :=
  (state.waiting.find call).map fun waiting =>
    { state with
      table := (resolveConflict now timeoutSeconds waiting.check state.table).2
      waiting := state.waiting.remove call
      history := state.history ++ [.checked now waiting.check
        (resolveConflict now timeoutSeconds waiting.check state.table).1] }

/-- A refused statement leaves the table as it was and returns nothing. -/
def store (state : State) (now : Int) (index : String × String) (claimToken : String)
    (statusCode : Int) (body : Json) : State :=
  match storeResponse now index claimToken statusCode body state.table with
  | none => state
  | some (done, table) =>
      { state with
        table := table
        history := state.history ++ [.stored now index claimToken statusCode body done] }

/-- The cleanup loop purges up to a clock reading it took before; a `limit` that is not positive is
a `ValueError`. -/
def select (state : State) (now before limit : Int) (expired : List RowId) : Option State :=
  if now < before then none
  else if limit ≤ 0 then some state
  else if ExpiredSelection before limit state.table expired then
    some { state with selected := expired :: state.selected }
  else none

def delete (state : State) (expired : List RowId) : Option State :=
  if expired ∈ state.selected then
    some { state with
      table := deleteExpired expired state.table
      selected := state.selected.erase expired }
  else none

/-- The transaction of the purge fails, and its statement has no effect. -/
def rollback (state : State) (expired : List RowId) : Option State :=
  if expired ∈ state.selected then some { state with selected := state.selected.erase expired }
  else none

def perform (timeoutSeconds : Int) (state : State) (now : Int) : Call → Option State
  | .begin call check => begin state now call check
  | .resolve call => resolve timeoutSeconds state now call
  | .store index claimToken statusCode body =>
      some (store state now index claimToken statusCode body)
  | .select before limit expired => select state now before limit expired
  | .delete expired => delete state expired
  | .rollback expired => rollback state expired

def step (timeoutSeconds : Int) (state : State) (action : Action) : Option State :=
  if action.now < state.clock then none
  else perform timeoutSeconds { state with clock := action.now } action.now action.call

/-- The row a claim leaves behind, inserted or reset. -/
structure Claimed (check : Check) (now : Int) (record : IdempotencyKey) : Prop where
  index : record.index = check.index
  requestHash : record.requestHash = check.requestHash
  status : record.status = .inProgress
  claimToken : record.claimToken = some check.claimToken
  expiresAt : record.expiresAt = check.expiresAt
  updatedAt : record.updatedAt = now

/-- All that a step can do to the table and to the history. -/
inductive Effect (timeoutSeconds : Int) (state : State) (now : Int) : Call → State → Prop
  | inserted (call : Nat) (check : Check) (table : KeyTable) (record : IdempotencyKey)
      (fresh : check.claimToken ∉ state.tokens)
      (own : record.insertedBy = some check.claimToken) (claimed : Claimed check now record)
      (added : state.table.insert record = some table) :
      Effect timeoutSeconds state now (.begin call check)
        { state with
          table := table
          tokens := check.claimToken :: state.tokens
          history := state.history ++ [.checked now check (.ok (.claim check.claimToken))] }
  | waits (call : Nat) (check : Check) (waiting : Table Waiting.id)
      (fresh : check.claimToken ∉ state.tokens)
      (present : state.table.find check.index ≠ none)
      (added : state.waiting.insert ⟨call, check⟩ = some waiting) :
      Effect timeoutSeconds state now (.begin call check)
        { state with waiting := waiting, tokens := check.claimToken :: state.tokens }
  | reclaimed (call : Nat) (check : Check) (record : IdempotencyKey)
      (held : state.waiting.find call = some ⟨call, check⟩)
      (found : state.table.find check.index = some record)
      (lapsed : reclaimable record now timeoutSeconds = true) :
      Effect timeoutSeconds state now (.resolve call)
        { state with
          table := state.table.modify check.index
            (fun record => resetExpiredRecord record check now)
            fun record => resetExpiredRecord_index record check now
          waiting := state.waiting.remove call
          history := state.history ++ [.checked now check (.ok (.claim check.claimToken))] }
  | answered (call : Nat) (check : Check) (reply : Except AppError Reply)
      (held : state.waiting.find call = some ⟨call, check⟩)
      (reason : reply = .error internalError ∧ state.table.find check.index = none ∨
        ∃ record, state.table.find check.index = some record ∧
          reclaimable record now timeoutSeconds = false ∧
          (reply = .error keyConflict ∧ record.requestHash ≠ check.requestHash ∨
            record.requestHash = check.requestHash ∧
              ((∃ body, record.status = .completed ∧ record.responseBody = some body ∧
                  reply = .ok (.cached (replayedStatus record.responseStatusCode) body)) ∨
                (record.status ≠ .completed ∨ record.responseBody = none) ∧
                  reply = .error keyInProgress))) :
      Effect timeoutSeconds state now (.resolve call)
        { state with
          waiting := state.waiting.remove call
          history := state.history ++ [.checked now check reply] }
  | completed (index : String × String) (claimToken : String) (statusCode : Int) (body : Json)
      (record : IdempotencyKey) (storable : Storable statusCode body)
      (found : state.table.find index = some record) (held : record.heldBy claimToken = true) :
      Effect timeoutSeconds state now (.store index claimToken statusCode body)
        { state with
          table := state.table.modify index
            (fun record => completeRecord record statusCode body now)
            fun record => completeRecord_index record statusCode body now
          history := state.history ++ [.stored now index claimToken statusCode body true] }
  | refused (index : String × String) (claimToken : String) (statusCode : Int) (body : Json)
      (unfit : ¬ Storable statusCode body) :
      Effect timeoutSeconds state now (.store index claimToken statusCode body) state
  | fenced (index : String × String) (claimToken : String) (statusCode : Int) (body : Json)
      (storable : Storable statusCode body)
      (free : ∀ record, state.table.find index = some record →
        record.heldBy claimToken = false) :
      Effect timeoutSeconds state now (.store index claimToken statusCode body)
        { state with
          history := state.history ++ [.stored now index claimToken statusCode body false] }
  | selected (before limit : Int) (expired : List RowId) (past : before ≤ now)
      (chosen : ∀ id ∈ expired, ∃ record ∈ state.table.rows,
        record.id = id ∧ record.expiresAt < before) :
      Effect timeoutSeconds state now (.select before limit expired)
        { state with selected := expired :: state.selected }
  | rejected (before limit : Int) (expired : List RowId) (invalid : limit ≤ 0) :
      Effect timeoutSeconds state now (.select before limit expired) state
  | deleted (expired : List RowId) (pending : expired ∈ state.selected) :
      Effect timeoutSeconds state now (.delete expired)
        { state with
          table := deleteExpired expired state.table
          selected := state.selected.erase expired }
  | rolledBack (expired : List RowId) (pending : expired ∈ state.selected) :
      Effect timeoutSeconds state now (.rollback expired)
        { state with selected := state.selected.erase expired }

theorem begin_effect {timeoutSeconds now : Int} {state next : State} {call : Nat} {check : Check}
    (reached : begin state now call check = some next) :
    Effect timeoutSeconds state now (.begin call check) next := by
  unfold begin at reached
  split at reached
  · cases reached
  · rename_i fresh
    cases added : tryInsert now check state.table with
    | some table =>
        simp only [added] at reached
        cases reached
        exact .inserted call check table _ fresh rfl ⟨rfl, rfl, rfl, rfl, rfl, rfl⟩ added
    | none =>
        simp only [added] at reached
        obtain ⟨waiting, queued, rfl⟩ := Option.map_eq_some_iff.mp reached
        exact .waits call check waiting fresh (Table.insert_none.mp added) queued

theorem resolve_effect {timeoutSeconds now : Int} {state next : State} {call : Nat}
    (reached : resolve timeoutSeconds state now call = some next) :
    Effect timeoutSeconds state now (.resolve call) next := by
  obtain ⟨⟨id, check⟩, held, rfl⟩ := Option.map_eq_some_iff.mp reached
  obtain rfl : id = call := (Table.find_some.mp held).2
  cases found : state.table.find check.index with
  | none =>
      simp only [resolveConflict, found]
      exact .answered id check (.error internalError) held (.inl ⟨rfl, found⟩)
  | some record =>
      by_cases lapsed : reclaimable record now timeoutSeconds = true
      · simp only [resolveConflict, found, lapsed, ↓reduceIte]
        exact .reclaimed id check record held found lapsed
      · have live : reclaimable record now timeoutSeconds = false := by simpa using lapsed
        by_cases same : record.requestHash = check.requestHash
        · cases status : record.status with
          | inProgress =>
              simp only [resolveConflict, found, lapsed, same, ne_eq, not_true_eq_false,
                ↓reduceIte, status]
              exact .answered id check _ held (.inr ⟨record, found, live,
                .inr ⟨same, .inr ⟨.inl (by simp [status]), rfl⟩⟩⟩)
          | completed =>
              cases stored : record.responseBody with
              | none =>
                  simp only [resolveConflict, found, lapsed, same, ne_eq, not_true_eq_false,
                    ↓reduceIte, status, stored]
                  exact .answered id check _ held (.inr ⟨record, found, live,
                    .inr ⟨same, .inr ⟨.inr stored, rfl⟩⟩⟩)
              | some body =>
                  simp only [resolveConflict, found, lapsed, same, ne_eq, not_true_eq_false,
                    ↓reduceIte, status, stored]
                  exact .answered id check _ held (.inr ⟨record, found, live,
                    .inr ⟨same, .inl ⟨body, status, stored, rfl⟩⟩⟩)
        · simp only [resolveConflict, found, lapsed, same, ne_eq, not_false_eq_true, ↓reduceIte]
          exact .answered id check _ held (.inr ⟨record, found, live, .inl ⟨rfl, same⟩⟩)

theorem store_effect {timeoutSeconds now : Int} {state : State} {index : String × String}
    {claimToken : String} {statusCode : Int} {body : Json} :
    Effect timeoutSeconds state now (.store index claimToken statusCode body)
      (store state now index claimToken statusCode body) := by
  by_cases storable : Storable statusCode body
  · cases found : state.table.find index with
    | none =>
        simp only [store, storeResponse, storable, not_true_eq_false, found, Option.any_none,
          Bool.false_eq_true, ↓reduceIte]
        refine .fenced index claimToken statusCode body storable ?_
        intro record present
        rw [found] at present
        cases present
    | some record =>
        by_cases held : record.heldBy claimToken = true
        · simp only [store, storeResponse, storable, not_true_eq_false, found, Option.any_some,
            held, ↓reduceIte]
          exact .completed index claimToken statusCode body record storable found held
        · simp only [store, storeResponse, storable, not_true_eq_false, found, Option.any_some,
            held, Bool.false_eq_true, ↓reduceIte]
          refine .fenced index claimToken statusCode body storable ?_
          intro other present
          obtain rfl := Option.some.inj (found.symm.trans present)
          simpa using held
  · simp only [store, storeResponse, storable, not_false_eq_true, ↓reduceIte]
    exact .refused index claimToken statusCode body storable

theorem perform_effect {timeoutSeconds now : Int} {state next : State} {call : Call}
    (reached : perform timeoutSeconds state now call = some next) :
    Effect timeoutSeconds state now call next := by
  cases call with
  | begin call check => exact begin_effect reached
  | resolve call => exact resolve_effect reached
  | store index claimToken statusCode body =>
      cases reached
      exact store_effect
  | select before limit expired =>
      simp only [perform, select] at reached
      split at reached
      · cases reached
      · rename_i past
        split at reached
        · rename_i invalid
          cases reached
          exact .rejected before limit expired invalid
        · split at reached
          · rename_i selection
            cases reached
            exact .selected before limit expired (by omega) selection.2.2
          · cases reached
  | delete expired =>
      simp only [perform, delete] at reached
      split at reached
      · rename_i pending
        cases reached
        exact .deleted expired pending
      · cases reached
  | rollback expired =>
      simp only [perform, rollback] at reached
      split at reached
      · rename_i pending
        cases reached
        exact .rolledBack expired pending
      · cases reached

theorem step_effect {timeoutSeconds : Int} {state next : State} {action : Action}
    (stepped : step timeoutSeconds state action = some next) :
    state.clock ≤ action.now ∧
      Effect timeoutSeconds { state with clock := action.now } action.now action.call next := by
  unfold step at stepped
  split at stepped
  · cases stepped
  · exact ⟨by omega, perform_effect stepped⟩

@[simp] theorem Effect.clock {timeoutSeconds now : Int} {state next : State} {call : Call}
    (effect : Effect timeoutSeconds state now call next) : next.clock = state.clock := by
  cases effect <;> rfl

/-- The history only grows, and what is added carries the time of the step. -/
theorem Effect.history {timeoutSeconds now : Int} {state next : State} {call : Call}
    (effect : Effect timeoutSeconds state now call next) :
    ∃ events, next.history = state.history ++ events ∧
      ∀ time check reply, .checked time check reply ∈ events → time = now := by
  cases effect with
  | inserted call check table record fresh own claimed added =>
      exact ⟨_, rfl, by simp +contextual⟩
  | waits call check waiting fresh present added => exact ⟨[], by simp, by simp⟩
  | reclaimed call check record held found lapsed => exact ⟨_, rfl, by simp +contextual⟩
  | answered call check reply held reason => exact ⟨_, rfl, by simp +contextual⟩
  | completed index claimToken statusCode body record storable found held =>
      exact ⟨_, rfl, by simp⟩
  | refused index claimToken statusCode body unfit => exact ⟨[], by simp, by simp⟩
  | fenced index claimToken statusCode body storable free => exact ⟨_, rfl, by simp⟩
  | selected before limit expired past chosen => exact ⟨[], by simp, by simp⟩
  | rejected before limit expired invalid => exact ⟨[], by simp, by simp⟩
  | deleted expired pending => exact ⟨[], by simp, by simp⟩
  | rolledBack expired pending => exact ⟨[], by simp, by simp⟩

end AiPlatform.Idempotency

import Mathlib.Data.List.Induction
import AiPlatform.Quota.StatementsAlone

set_option autoImplicit false

/- Calls of `PostgresQuotaStore` that do not overlap: the interleaved model answers and stores what
the sequential one does. -/
namespace AiPlatform.Quota.Statements

open Machine
open Postgres (Record Tables)

variable {tables : Tables}

section Runs

variable {state : State} {call : Call}

/-- A statement that meets no lock is the one of a call that is alone. -/
theorem statement_alone
    (quiet : ∀ other ∈ state.calls.rows, other.id ≠ call.id → other.writes = {}) :
    statement state call = statement (alone state.db) call := by
  have unlocked (test : Call → Bool) (idle : ∀ other, other.writes = {} → test other = false) :
      (state.calls.rows.any fun other => other.id ≠ call.id && test other) = false := by
    rw [List.any_eq_false]
    intro other member locked
    rw [Bool.and_eq_true, decide_eq_true_eq] at locked
    rw [idle other (quiet other member locked.1)] at locked
    exact Bool.false_ne_true locked.2
  have counters (key : WindowKey) : state.counterLocked call key = false :=
    unlocked (fun other => key ∈ other.writes.keys) fun other idle => by
      rw [idle]
      rfl
  have reservations (id : String) : state.reservationLocked call id = false :=
    unlocked (fun other => id ∈ other.writes.ids) fun other idle => by
      rw [idle]
      rfl
  have contests (record : Record) : state.contested call record = false :=
    unlocked _ fun other idle => by
      rw [idle]
      simp
  unfold statement State.reserve State.settle State.getUsage State.reset
  simp only [counters, reservations, contests]
  rfl

/-- The point a call that runs by itself has come to, and the calls there are besides it. -/
structure At (before : State) (db : Database) (call : Call) (state : State) : Prop where
  db : state.db = db
  calls : ∀ id, state.calls.find id = if id = call.id then some call else before.calls.find id

theorem At.quiet {before : State} {db : Database} (here : At before db call state)
    (idle : ∀ other ∈ before.calls.rows, other.writes = {}) :
    ∀ other ∈ state.calls.rows, other.id ≠ call.id → other.writes = {} := by
  intro other member apart
  have found := Table.find_mem member
  rw [here.calls, if_neg apart] at found
  exact idle other (Table.find_some.mp found).1

theorem At.update {before : State} {db : Database} (here : At before db call state) {moved : Call}
    (same : moved.id = call.id) : At before db moved (state.update moved) := by
  refine ⟨here.db, fun id => ?_⟩
  show (state.calls.put moved).find id = _
  rw [Table.find_put, here.calls, same]
  split <;> rfl

theorem statement_commit {answer : Answer} (commits : call.pc = .commit answer) :
    statement state call = none := by
  obtain ⟨id, operation, pc, writes⟩ := call
  cases commits
  cases operation <;> rfl

theorem execute_statement {next : Pc × Writes} (found : state.calls.find call.id = some call)
    (taken : statement state call = some next) :
    step state (.execute call.id) =
      some (state.update { call with pc := next.1, writes := next.2 }) := by
  unfold step
  dsimp only
  rw [found]
  cases shape : call.pc with
  | commit answer =>
      rw [statement_commit shape] at taken
      cases taken
  | _ =>
      simp only [Option.bind_eq_bind, Option.bind_some, shape, taken]
      rfl

theorem execute_commit {answer : Answer} (found : state.calls.find call.id = some call)
    (commits : call.pc = .commit answer) :
    step state (.execute call.id) =
      some {
        db := state.db.apply call.writes
        calls := state.calls.put { call with pc := .returned answer, writes := {} }
        settled := state.settled ++ settles call } := by
  unfold step
  dsimp only
  rw [found]
  simp only [Option.bind_eq_bind, Option.bind_some, commits]
  rfl

/-- The statements that a call which is alone gets through are executed in the run. -/
theorem At.executes {before : State} {db : Database} {point last : Pc × Writes}
    (idle : ∀ other ∈ before.calls.rows, other.writes = {})
    (reaches : Relation.ReflTransGen (Advances db call) point last)
    (here : At before db { call with pc := point.1, writes := point.2 } state) :
    ∃ count after, run step state (List.replicate count (.execute call.id)) = some after ∧
      At before db { call with pc := last.1, writes := last.2 } after := by
  induction reaches using Relation.ReflTransGen.head_induction_on generalizing state with
  | refl => exact ⟨0, state, rfl, here⟩
  | @head point next advances _ ih =>
      have found := here.calls call.id
      rw [if_pos rfl] at found
      have taken : statement state { call with pc := point.1, writes := point.2 } = some next := by
        rw [statement_alone (here.quiet idle), here.db]
        exact advances
      have moved := here.update (rfl : ({ call with pc := next.1, writes := next.2 } : Call).id = _)
      have ⟨count, after, ran, arrived⟩ := ih moved
      refine ⟨count + 1, after, ?_, arrived⟩
      rw [List.replicate_succ, run_cons, execute_statement found taken]
      exact ran

/-- What a call whose transaction comes to this has returned or raised. -/
def ended : Except QuotaError Answer → Pc
  | .ok answer => .returned answer
  | .error error => .raised error

/-- A call whose statements meet no other transaction answers what `perform` does, and leaves the
same tables. -/
theorem performs_alone {id : Nat} {operation : Operation}
    (unused : state.calls.find id = none) (idle : ∀ other ∈ state.calls.rows, other.writes = {})
    (stores : Stores state.db tables) :
    ∃ count after,
      run step state (.call id operation :: List.replicate count (.execute id)) = some after ∧
        At state after.db
          ⟨id, operation, ended (Postgres.perform tables operation).2, {}⟩ after ∧
        Stores after.db (Postgres.perform tables operation).1 := by
  let call : Call := ⟨id, operation, start operation, {}⟩
  have begun : step state (.call id operation) = some (state.update call) := by
    unfold step
    dsimp only
    rw [unused]
  have entered : At state state.db call (state.update call) :=
    ⟨rfl, fun other => Table.find_put state.calls call other⟩
  have same : call.operation = operation := rfl
  have ⟨last, reaches, ends⟩ := does_transaction same stores
  have ⟨count, after, ran, arrived⟩ := entered.executes idle reaches
  unfold Postgres.perform
  cases outcome : (Postgres.transaction operation).run tables with
  | error error =>
      rw [outcome] at ends
      cases ends
      refine ⟨count, after, ?_, ⟨rfl, arrived.calls⟩, arrived.db ▸ stores⟩
      rw [run_cons, begun]
      exact ran
  | ok result =>
      obtain ⟨answer, written⟩ := result
      rw [outcome] at ends
      obtain ⟨commits, stored⟩ := ends
      have found := arrived.calls id
      rw [if_pos rfl] at found
      have shape : ({ call with pc := last.1, writes := last.2 } : Call).pc = .commit answer :=
        commits
      obtain ⟨final, committed, written, calls⟩ : ∃ final,
          step after (.execute id) = some final ∧ final.db = after.db.apply last.2 ∧
            final.calls = after.calls.put ⟨id, operation, .returned answer, {}⟩ :=
        ⟨_, execute_commit found shape, rfl, rfl⟩
      rw [arrived.db] at written
      refine ⟨count + 1, final, ?_, ⟨rfl, fun other => ?_⟩, written.symm ▸ stored⟩
      · rw [run_cons, begun, List.replicate_succ']
        exact run_append_some.mpr ⟨after, ran, run_cons_some.mpr ⟨final, committed, rfl⟩⟩
      · rw [calls, Table.find_put, arrived.calls]
        show (if other = id then _ else if other = id then _ else _) = if other = id then _ else _
        split <;> rfl

/-- The tables after these calls, one after the other. -/
def performAll (operations : List Operation) : Tables :=
  operations.foldl (fun tables operation => (Postgres.perform tables operation).1) .init

/-- What a call returned or raised after these. -/
def answered (before : List Operation) (operation : Operation) : Pc :=
  ended (Postgres.perform (performAll before) operation).2

/-- Run one after the other, the transactions answer and store what the calls of the sequential
model do. -/
theorem performs_in_turn (operations : List Operation) :
    ∃ actions after, run step init actions = some after ∧
      Stores after.db (performAll operations) ∧
      (∀ other ∈ after.calls.rows, other.writes = {}) ∧
      ∀ id, after.calls.find id = operations[id]?.map fun operation =>
        ⟨id, operation, answered (operations.take id) operation, {}⟩ := by
  induction operations using List.reverseRecOn with
  | nil =>
      refine ⟨[], init, rfl, ⟨fun _ => rfl, fun _ => rfl, ?_, ?_⟩, ?_, fun _ => rfl⟩
      · exact fun _ member => absurd member List.not_mem_nil
      · exact fun _ member => absurd member List.not_mem_nil
      · exact fun _ member => absurd member List.not_mem_nil
  | append_singleton operations operation ih =>
      have ⟨actions, state, reached, stores, idle, calls⟩ := ih
      have unused : state.calls.find operations.length = none := by
        rw [calls, List.getElem?_eq_none (Nat.le_refl _)]
        rfl
      obtain ⟨count, after, ran, arrived, stored⟩ :=
        @performs_alone _ state _ operation unused idle stores
      refine ⟨_, after, run_append_some.mpr ⟨state, reached, ran⟩, ?_, ?_, fun id => ?_⟩
      · unfold performAll
        rw [List.foldl_concat]
        exact stored
      · intro other member
        have found := Table.find_mem member
        rw [arrived.calls] at found
        split at found
        · rw [← Option.some.inj found]
        · exact idle other (Table.find_some.mp found).1
      · rw [arrived.calls]
        show (if id = operations.length then _ else _) = _
        by_cases last : id = operations.length
        · rw [if_pos last, last, List.getElem?_concat_length, List.take_left]
          rfl
        · rw [if_neg last, calls]
          rcases Nat.lt_or_gt_of_ne last with early | late
          · rw [List.getElem?_append_left early, List.take_append_of_le_length (Nat.le_of_lt early)]
          · have past : (operations ++ [operation]).length ≤ id := by
              rw [List.length_append]
              exact late
            rw [List.getElem?_eq_none (Nat.le_of_lt late), List.getElem?_eq_none past]
            rfl

end Runs

end AiPlatform.Quota.Statements

import AiPlatform.Quota.PostgresCalls
import AiPlatform.Quota.TransactionSteps

set_option autoImplicit false

/- The rows of `PostgresQuotaStore` in both of its models: its methods as transactions on two
tables, and their statements on a database with uncommitted writes. -/
namespace AiPlatform.Quota.Statements

open Columns Machine
open Postgres (Record Tables Transaction)

section Lifted

variable {First Value : Type} {tables : Tables}

/-- A check that raises or yields a value, as a step of a transaction. -/
theorem run_lift_bind (first : Except QuotaError First) (rest : First → Transaction Value) :
    (StateT.lift first >>= rest).run tables = first >>= fun value => (rest value).run tables := by
  cases first <;> rfl

theorem sendTexts_lift (texts : List String) :
    Postgres.sendTexts texts = StateT.lift (checkTexts texts) := by
  unfold Postgres.sendTexts checkTexts
  split <;> rfl

theorem requireInteger_lift (value : Int) :
    Postgres.requireInteger value = StateT.lift (checkInteger value) := by
  unfold Postgres.requireInteger checkInteger
  split <;> rfl

theorem varchar_lift (width : Nat) :
    Postgres.varchar width = fun text => StateT.lift (column width text) := by
  funext text
  unfold Postgres.varchar column
  cases storedText width text <;> rfl

theorem mapM_lift (check : String → Except QuotaError String) (text : Option String) :
    text.mapM (fun value => (StateT.lift (check value) : Transaction String)) =
      StateT.lift (text.mapM check) := by
  cases text with
  | none => rfl
  | some value =>
      show (StateT.lift (check value) >>= fun stored => pure (some stored) : Transaction _) = _
      rw [Option.mapM_some]
      cases check value <;> rfl

end Lifted

theorem ensureCounter_run (command : ReserveQuota) (number : Nat) (tables : Tables) :
    (Postgres.ensureCounter command).run tables =
      (fun fresh => ((), { tables with
        counters := Postgres.upsertCounter tables.counters fresh.toCounter })) <$>
          counterValues command number := by
  unfold Postgres.ensureCounter counterValues
  rw [sendTexts_lift, requireInteger_lift, varchar_lift, varchar_lift]
  simp only [run_lift_bind, map_bind]
  rfl

theorem insertReservation_run (command : ReserveQuota) (tables : Tables) :
    (Postgres.insertReservation command).run tables =
      (fun record =>
        match tables.reservations.insert record with
        | none => (false, tables)
        | some reservations => (true, { tables with reservations := reservations })) <$>
          recordValues command := by
  unfold Postgres.insertReservation recordValues
  rw [sendTexts_lift, requireInteger_lift, varchar_lift, varchar_lift, varchar_lift, mapM_lift]
  simp only [run_lift_bind, map_bind, map_pure]
  refine bind_congr fun _ => bind_congr fun _ => bind_congr fun id => bind_congr fun subjectId =>
    bind_congr fun resource => bind_congr fun windowKey => bind_congr fun idempotencyKey => ?_
  rw [Postgres.run_get_bind]
  generalize tables.reservations.insert _ = inserted
  cases inserted <;> rfl

/-- What the update does to the row that the upsert has left. A text that was cut is in no row. -/
theorem tryIncrementCounter_run {command : ReserveQuota} {row : CounterRow} {tables : Tables}
    (call : Call) (written : call.writes.counter = some row)
    (stored : tables.counters.find row.key = some row.toCounter)
    (absent : row.key ≠ command.key → tables.counters.find command.key = none) :
    (Postgres.tryIncrementCounter command).run tables =
      (fun
        | none => (none, tables)
        | some charged => (some (usageFromCounter charged.toCounter),
            { tables with counters := tables.counters.put charged.toCounter })) <$>
          incremented call command := by
  unfold Postgres.tryIncrementCounter incremented
  rw [sendTexts_lift, requireInteger_lift, requireInteger_lift, written]
  simp only [run_lift_bind, map_bind]
  refine bind_congr fun _ => bind_congr fun _ => bind_congr fun _ => ?_
  rw [Postgres.run_get_bind]
  by_cases same : row.key = command.key
  · rw [if_pos same, ← same, stored]
    dsimp only
    rw [requireInteger_lift, run_lift_bind]
    simp only [map_bind]
    refine bind_congr fun _ => ?_
    split <;> rfl
  · rw [if_neg same, absent same]
    rfl

/-- A text as its column holds it. -/
theorem column_length {width : Nat} {text stored : String} (sent : column width text = .ok stored) :
    stored.toList.length ≤ width := by
  unfold column storedText at sent
  split at sent
  · rename_i kept found
    cases sent
    split at found
    · rename_i fits
      cases found
      exact fits
    · split at found
      · cases found
        rw [String.toList_ofList, List.length_take]
        exact Nat.min_le_left _ _
      · cases found
  · cases sent

/-- The texts of a window as long as their columns are wide, at most. -/
def Narrow (key : WindowKey) : Prop :=
  key.1.toList.length ≤ 255 ∧ key.2.1.toList.length ≤ 255 ∧ key.2.2.toList.length ≤ 64

theorem storedKey_narrow {command : ReserveQuota} {key : WindowKey}
    (sent : storedKey command = .ok key) :
    Narrow key ∧ (Narrow command.key → key = command.key) := by
  unfold storedKey at sent
  have ⟨subjectId, subject, sent⟩ := bind_ok.mp sent
  have ⟨resource, stored, sent⟩ := bind_ok.mp sent
  have ⟨windowKey, window, sent⟩ := bind_ok.mp sent
  cases sent
  refine ⟨⟨column_length subject, column_length stored, column_length window⟩, ?_⟩
  intro ⟨shortSubject, shortResource, shortWindow⟩
  rw [column_fits shortSubject subject, column_fits shortResource stored,
    column_fits shortWindow window]

theorem recordValues_id {command : ReserveQuota} {record : Record}
    (sent : recordValues command = .ok record) :
    column 36 command.reservationId = .ok record.id := by
  unfold recordValues at sent
  have ⟨_, _, sent⟩ := bind_ok.mp sent
  have ⟨_, _, sent⟩ := bind_ok.mp sent
  have ⟨id, drawn, sent⟩ := bind_ok.mp sent
  have ⟨_, _, sent⟩ := bind_ok.mp sent
  have ⟨_, _, sent⟩ := bind_ok.mp sent
  have ⟨_, _, sent⟩ := bind_ok.mp sent
  have ⟨_, _, sent⟩ := bind_ok.mp sent
  cases sent
  exact drawn

/-- Both models hold the same rows, and no text longer than its column is wide. -/
structure Stores (db : Database) (tables : Tables) : Prop where
  counters : ∀ key, tables.counters.find key = (db.counters.find key).map CounterRow.toCounter
  reservations : ∀ id, tables.reservations.find id = db.reservations.find id
  windows : ∀ row ∈ db.counters.rows, Narrow row.key
  ids : ∀ record ∈ db.reservations.rows, record.id.toList.length ≤ 36

variable {db : Database} {tables : Tables}

theorem Stores.record_mem (stores : Stores db tables) {record : Record} :
    record ∈ tables.reservations.table.rows ↔ record ∈ db.reservations.rows := by
  have same : tables.reservations.table.find record.id = db.reservations.find record.id :=
    stores.reservations record.id
  constructor
  · intro member
    rw [Table.find_mem member] at same
    exact (Table.find_some.mp same.symm).1
  · intro member
    rw [Table.find_mem member] at same
    exact (Table.find_some.mp same).1

/-- Both models look an idempotency key up in the same way. -/
theorem Stores.findBy (stores : Stores db tables) (value : WindowKey × String) :
    tables.reservations.findBy value =
      db.reservations.rows.find? fun record => decide (record.index = some value) := by
  cases found : db.reservations.rows.find? fun record => decide (record.index = some value) with
  | some record =>
      have here := List.find?_some found
      exact Indexed.findBy_some.mpr
        ⟨stores.record_mem.mpr (List.mem_of_find?_eq_some found), of_decide_eq_true here⟩
  | none =>
      cases other : tables.reservations.findBy value with
      | none => rfl
      | some record =>
          have ⟨member, index⟩ := Indexed.findBy_some.mp other
          have apart := List.find?_eq_none.mp found record (stores.record_mem.mp member)
          exact absurd (decide_eq_true index) apart

theorem Stores.findIdempotentReservation_run (stores : Stores db tables)
    (command : ReserveQuota) :
    (Postgres.findIdempotentReservation command).run tables =
      (fun found => (found, tables)) <$> findIdempotent db command := by
  unfold Postgres.findIdempotentReservation findIdempotent
  cases command.idempotencyKey with
  | none => rfl
  | some idempotencyKey =>
      dsimp only
      rw [sendTexts_lift, run_lift_bind, map_bind]
      refine bind_congr fun _ => ?_
      rw [← stores.findBy]
      rfl

/-- The insert is refused for the rows that clash with it. -/
theorem Stores.insert_none (stores : Stores db tables) (record : Record) :
    tables.reservations.insert record = none ↔ db.reservations.rows.any (clash record) = true := by
  rw [Indexed.insert_refused, List.any_eq_true]
  refine exists_congr fun other => ?_
  rw [stores.record_mem, clash, Bool.or_eq_true, Bool.and_eq_true, decide_eq_true_eq,
    decide_eq_true_eq, decide_eq_true_eq, eq_comm (a := record.id),
    eq_comm (a := record.index) (b := other.index)]

theorem Stores.upsert (stores : Stores db tables) (fresh : CounterRow) :
    Postgres.upsertCounter tables.counters fresh.toCounter =
      tables.counters.put (upserted db fresh).toCounter := by
  have same := stores.counters fresh.key
  have key : fresh.toCounter.key = fresh.key := rfl
  unfold Postgres.upsertCounter upserted
  rw [key, same]
  cases db.counters.find fresh.key <;> rfl

theorem Stores.putCounter (stores : Stores db tables) {row : CounterRow} (narrow : Narrow row.key) :
    Stores { db with counters := db.counters.put row }
      { tables with counters := tables.counters.put row.toCounter } := by
  refine ⟨?_, stores.reservations, ?_, stores.ids⟩
  · intro key
    show (tables.counters.put row.toCounter).find key = ((db.counters.put row).find key).map _
    rw [Table.find_put, Table.find_put, stores.counters key]
    show (if key = row.key then _ else _) = _
    split <;> rfl
  · intro other member
    rcases Table.mem_put member with new | ⟨old, _⟩
    · rw [new]
      exact narrow
    · exact stores.windows other old

theorem Stores.putReservation (stores : Stores db tables) {record : Record}
    {reservations : Indexed Record.id Record.index} (short : record.id.toList.length ≤ 36)
    (found : ∀ id, reservations.find id =
      if id = record.id then some record else tables.reservations.find id) :
    Stores { db with reservations := db.reservations.put record }
      { tables with reservations := reservations } := by
  refine ⟨stores.counters, ?_, stores.windows, ?_⟩
  · intro id
    show reservations.find id = (db.reservations.put record).find id
    rw [Table.find_put, found, stores.reservations id]
  · intro other member
    rcases Table.mem_put member with new | ⟨old, _⟩
    · rw [new]
      exact short
    · exact stores.ids other old

/-- Tables whose rows are found alike store alike. -/
theorem Stores.congr (stores : Stores db tables) {other : Tables}
    (counters : ∀ key, other.counters.find key = tables.counters.find key)
    (reservations : ∀ id, other.reservations.find id = tables.reservations.find id) :
    Stores db other :=
  ⟨fun key => (counters key).trans (stores.counters key),
    fun id => (reservations id).trans (stores.reservations id), stores.windows, stores.ids⟩

theorem Stores.untouched (stores : Stores db tables) : Stores (db.apply {}) tables := by
  have same : db.apply {} = db := apply_kept db none none
  rw [same]
  exact stores

theorem usageForReservation_run (tables : Tables)
    (counters : ∀ key, tables.counters.find key = (db.counters.find key).map CounterRow.toCounter)
    (call : Call) (untouched : call.writes.counter = none) (record : Record) :
    (Postgres.usageForReservation record).run tables =
      (fun usage => (usage, tables)) <$> usageFor db call record := by
  unfold Postgres.usageForReservation usageFor seen
  rw [Postgres.run_get_bind, counters, untouched]
  cases db.counters.find record.key <;> rfl

end AiPlatform.Quota.Statements

import AiPlatform.Quota.Statements

set_option autoImplicit false

/- The balance of the two quota tables: a counter has used what its reservations cost that are not
refunded, and every reservation has a counter. Which writes keep it, and what a commit leaves
alone. -/
namespace AiPlatform.Quota.Statements

open Postgres (Record newRecord setStatus)

/-- What a reservation takes from its counter. -/
def weight (record : Record) : Int := if record.status = .refunded then 0 else record.cost

/-- What the reservations of a window take together. -/
def charged (reservations : Table Record.id) (key : WindowKey) : Int :=
  reservations.total fun record => if record.key = key then weight record else 0

/-- What the counter of a window says; without a row it is where a new one starts. -/
def usedAt (db : Database) (key : WindowKey) : Int :=
  (db.counters.find key).elim 0 fun row => row.used

structure Balanced (db : Database) : Prop where
  counted : ∀ key row, db.counters.find key = some row → row.used = charged db.reservations key
  backed : ∀ record ∈ db.reservations.rows, ∃ row, db.counters.find record.key = some row
  positive : ∀ record ∈ db.reservations.rows, 0 < record.cost

variable {db : Database} {writes : Writes} {key : WindowKey}

theorem weight_nonneg {record : Record} (positive : 0 < record.cost) : 0 ≤ weight record := by
  unfold weight
  split <;> omega

theorem charged_empty (absent : ∀ record ∈ db.reservations.rows, record.key ≠ key) :
    charged db.reservations key = 0 := by
  have none : charged db.reservations key = db.reservations.total fun _ => 0 := by
    apply Table.total_congr
    intro record member
    rw [if_neg (absent record member)]
  rw [none]
  simp [Table.total]

theorem Balanced.used (balanced : Balanced db) (key : WindowKey) :
    usedAt db key = charged db.reservations key := by
  unfold usedAt
  cases found : db.counters.find key with
  | some row => exact balanced.counted key row found
  | none =>
      apply Eq.symm
      apply charged_empty
      intro record member same
      have ⟨row, there⟩ := balanced.backed record member
      rw [same, found] at there
      cases there

theorem Balanced.charged_nonneg (balanced : Balanced db) (key : WindowKey) :
    0 ≤ charged db.reservations key := by
  apply Table.total_nonneg
  intro record member
  split
  · exact weight_nonneg (balanced.positive record member)
  · exact Int.le_refl 0

/-- A reservation takes no more than its window has been charged. -/
theorem Balanced.weight_le (balanced : Balanced db) {record : Record}
    (member : record ∈ db.reservations.rows) : weight record ≤ usedAt db record.key := by
  rw [balanced.used]
  have nonneg : ∀ other ∈ db.reservations.rows,
      0 ≤ (fun other : Record => if other.key = record.key then weight other else 0) other := by
    intro other inside
    dsimp only
    split
    · exact weight_nonneg (balanced.positive other inside)
    · exact Int.le_refl 0
  have part := Table.weight_le_total member nonneg
  rw [if_pos rfl] at part
  exact part

/-- What the row that a record replaces took. -/
def previous (db : Database) (record : Record) : Int :=
  (db.reservations.find record.id).elim 0 weight

theorem charged_put {record : Record}
    (keyed : ∀ old, db.reservations.find record.id = some old → old.key = record.key) :
    charged (db.reservations.put record) key =
      charged db.reservations key +
        if record.key = key then weight record - previous db record else 0 := by
  unfold charged previous
  cases found : db.reservations.find record.id with
  | none =>
      rw [Table.total_put_fresh found]
      simp only [Option.elim]
      split <;> omega
  | some old =>
      rw [Table.total_put_over found, keyed old found]
      simp only [Option.elim]
      split <;> omega

/-- Deleting rows of other windows changes nothing in a window. -/
theorem charged_erase {reservations : Table Record.id} {test : Record → Bool}
    (apart : ∀ record ∈ reservations.rows, test record = true → record.key ≠ key) :
    charged (reservations.erase test) key = charged reservations key := by
  unfold charged
  rw [Table.total_erase]
  apply Table.total_congr
  intro record member
  split
  · rename_i gone
    rw [if_neg (apart record member gone)]
  · rfl

theorem erase_nothing {Row Key : Type} {index : Row → Key} (table : Table index) {test : Row → Bool}
    (keeps : ∀ row, test row = false) : table.erase test = table := by
  apply Table.ext
  unfold Table.erase
  apply List.filter_eq_self.mpr
  intro row _
  rw [keeps row]
  rfl

/-- The row continues the committed one of its window, which has used this much less. -/
structure Follows (db : Database) (row : CounterRow) (amount : Int) : Prop where
  used : row.used = usedAt db row.key + amount
  same : ∀ old, db.counters.find row.key = some old → row.row = old.row

/-- Writes that keep the balance: the counter moves by what the reservation takes more. -/
inductive Even (db : Database) : Writes → Prop
  | counter {counter : Option CounterRow}
      (follows : ∀ row, counter = some row → Follows db row 0) :
      Even db ⟨counter, none, [], []⟩
  | record {record old : Record} (found : db.reservations.find record.id = some old)
      (keyed : old.key = record.key) (positive : 0 < record.cost)
      (level : weight record = weight old) : Even db ⟨none, some record, [], []⟩
  | both {row : CounterRow} {record : Record}
      (keyed : ∀ old, db.reservations.find record.id = some old → old.key = record.key)
      (positive : 0 < record.cost) (window : row.key = record.key)
      (follows : Follows db row (weight record - previous db record)) :
      Even db ⟨some row, some record, [], []⟩

/-- The deletes of a reset so far. Every reservation it deletes had its counter, which is deleted
or owed; every counter it deletes goes with all committed reservations of its window. -/
structure Resetting (db : Database) (clears : WindowKey → Bool) (owed : WindowKey → Prop)
    (writes : Writes) : Prop where
  counter : writes.counter = none
  reservation : writes.reservation = none
  present : ∀ id ∈ writes.goneReservations, ∃ record,
    db.reservations.find id = some record ∧ clears record.key = true
  paired : ∀ record ∈ db.reservations.rows, record.key ∈ writes.goneCounters →
    record.id ∈ writes.goneReservations
  owed : ∀ record ∈ db.reservations.rows, record.id ∈ writes.goneReservations →
    record.key ∈ writes.goneCounters ∨ owed record.key

theorem apply_kept (db : Database) (counter : Option CounterRow) (reservation : Option Record) :
    db.apply ⟨counter, reservation, [], []⟩ =
      ⟨db.putCounter counter, db.putReservation reservation⟩ := by
  unfold Database.apply
  rw [erase_nothing _ fun row => decide_eq_false List.not_mem_nil,
    erase_nothing _ fun record => decide_eq_false List.not_mem_nil]

theorem usedAt_find {row : CounterRow} (found : db.counters.find key = some row) :
    usedAt db key = row.used := by
  rw [usedAt, found]
  rfl

/-- A put of a counter and of a reservation keeps the balance if each window's counter moves by
what its reservations take more. -/
theorem balanced_put (balanced : Balanced db) {counter : Option CounterRow}
    {reservation : Option Record}
    (moved : ∀ row, counter = some row → row.used = charged (db.putReservation reservation) row.key)
    (left : ∀ key, (∀ row, counter = some row → row.key ≠ key) →
      charged (db.putReservation reservation) key = charged db.reservations key)
    (backed : ∀ record, reservation = some record →
      (∃ old ∈ db.reservations.rows, old.key = record.key) ∨
        ∃ row, counter = some row ∧ row.key = record.key)
    (positive : ∀ record, reservation = some record → 0 < record.cost) :
    Balanced ⟨db.putCounter counter, db.putReservation reservation⟩ := by
  have counters : ∀ key, (∃ row, db.counters.find key = some row) →
      ∃ row, (db.putCounter counter).find key = some row := by
    intro key there
    cases counter with
    | none => exact there
    | some row =>
        rw [Database.putCounter, Table.find_put]
        split
        · exact ⟨row, rfl⟩
        · exact there
  have records : ∀ record ∈ (db.putReservation reservation).rows,
      reservation = some record ∨ record ∈ db.reservations.rows := by
    intro record member
    cases reservation with
    | none => exact Or.inr member
    | some put =>
        rcases Table.mem_put member with same | ⟨old, _⟩
        · exact Or.inl (congrArg some same.symm)
        · exact Or.inr old
  refine ⟨?_, ?_, ?_⟩
  · intro key row found
    show row.used = charged (db.putReservation reservation) key
    cases counter with
    | none =>
        rw [left key (fun row none => by cases none)]
        exact balanced.counted key row found
    | some put =>
        have lookup : (db.counters.put put).find key = some row := found
        rw [Table.find_put] at lookup
        split at lookup
        · rename_i here
          rw [here, ← Option.some.inj lookup]
          exact moved put rfl
        · rename_i apart
          rw [left key (fun row same there => apart (by
            rw [Option.some.inj same]
            exact there.symm))]
          exact balanced.counted key row lookup
  · intro record member
    rcases records record member with put | old
    · rcases backed record put with ⟨old, inside, same⟩ | ⟨row, there, same⟩
      · rw [← same]
        exact counters old.key (balanced.backed old inside)
      · refine ⟨row, ?_⟩
        show (db.putCounter counter).find record.key = some row
        rw [there, Database.putCounter, Table.find_put, if_pos same.symm]
    · exact counters record.key (balanced.backed record old)
  · intro record member
    rcases records record member with put | old
    · exact positive record put
    · exact balanced.positive record old

theorem Balanced.even (balanced : Balanced db) (even : Even db writes) :
    Balanced (db.apply writes) := by
  cases even with
  | counter follows =>
      rw [apply_kept]
      apply balanced_put balanced
      · intro row put
        rw [(follows row put).used, balanced.used, Int.add_zero]
        rfl
      · intro key _
        rfl
      · intro record none
        cases none
      · intro record none
        cases none
  | @record record old found keyed positive level =>
      have stays : ∀ key, charged (db.reservations.put record) key =
          charged db.reservations key := by
        intro key
        have same : ∀ other, db.reservations.find record.id = some other →
            other.key = record.key := by
          intro other there
          rw [Option.some.inj (there.symm.trans found)]
          exact keyed
        rw [charged_put same, previous, found]
        simp only [Option.elim]
        split <;> omega
      rw [apply_kept]
      apply balanced_put balanced
      · intro row none
        cases none
      · intro key _
        exact stays key
      · intro put same
        rw [← Option.some.inj same]
        exact Or.inl ⟨old, (Table.find_some.mp found).1, keyed⟩
      · intro put same
        rw [← Option.some.inj same]
        exact positive
  | @both row record keyed positive window follows =>
      rw [apply_kept]
      apply balanced_put balanced
      · intro put same
        rw [← Option.some.inj same, follows.used, balanced.used]
        show _ = charged (db.reservations.put record) row.key
        rw [charged_put keyed, if_pos window.symm]
      · intro key apart
        show charged (db.reservations.put record) key = _
        rw [charged_put keyed, if_neg, Int.add_zero]
        rw [← window]
        exact apart row rfl
      · intro put same
        rw [← Option.some.inj same]
        exact Or.inr ⟨row, rfl, window⟩
      · intro put same
        rw [← Option.some.inj same]
        exact positive

theorem Balanced.reset {clears : WindowKey → Bool} (balanced : Balanced db)
    (resetting : Resetting db clears (fun _ => False) writes) : Balanced (db.apply writes) := by
  have shape : db.apply writes =
      ⟨db.counters.erase fun row => row.key ∈ writes.goneCounters,
        db.reservations.erase fun record => record.id ∈ writes.goneReservations⟩ := by
    unfold Database.apply
    rw [resetting.counter, resetting.reservation]
    rfl
  rw [shape]
  refine ⟨?_, ?_, ?_⟩
  · intro key row found
    dsimp only at found ⊢
    rw [Table.find_erase, Option.filter_eq_some_iff] at found
    have here := (Table.find_some.mp found.1).2
    rw [charged_erase, balanced.counted key row found.1]
    intro record member gone same
    rcases resetting.owed record member (of_decide_eq_true gone) with deleted | owed
    · rw [same, ← here] at deleted
      simp [deleted] at found
    · exact owed
  · intro record member
    have ⟨inside, kept⟩ := Table.mem_erase.mp member
    have ⟨row, there⟩ := balanced.backed record inside
    refine ⟨row, ?_⟩
    dsimp only
    rw [Table.find_erase, Option.filter_eq_some_iff]
    refine ⟨there, ?_⟩
    have here : row.key = record.key := (Table.find_some.mp there).2
    by_cases gone : record.key ∈ writes.goneCounters
    · have deleted := resetting.paired record inside gone
      simp [deleted] at kept
    · simp [here, gone]
  · intro record member
    exact balanced.positive record (Table.mem_erase.mp member).1

end AiPlatform.Quota.Statements

import AiPlatform.Quota.Ledger

set_option autoImplicit false

/- What each open transaction has in hand, statement by statement, and that the locks keep it true
while other transactions commit. -/
namespace AiPlatform.Quota.Statements

open Machine
open Postgres (Record newRecord setStatus setStatus_id)

/-- No row is locked by both. -/
structure Apart (left right : Writes) : Prop where
  keys : ∀ key ∈ left.keys, key ∉ right.keys
  ids : ∀ id ∈ left.ids, id ∉ right.ids

theorem Apart.symm {left right : Writes} (apart : Apart left right) : Apart right left where
  keys _ inRight inLeft := apart.keys _ inLeft inRight
  ids _ inRight inLeft := apart.ids _ inLeft inRight

theorem apart_nothing (writes : Writes) : Apart {} writes where
  keys _ inside := absurd inside List.not_mem_nil
  ids _ inside := absurd inside List.not_mem_nil

/-- What a commit may do to rows that others rely on: a counter stays the same row, a new
reservation comes with its counter, and a counter goes with its reservations. -/
structure Orderly (db : Database) (writes : Writes) : Prop where
  rows : ∀ row, writes.counter = some row →
    ∀ old, db.counters.find row.key = some old → row.row = old.row
  records : ∀ record, writes.reservation = some record →
    (∃ old, db.reservations.find record.id = some old ∧ old.key = record.key) ∨
      record.key ∈ writes.keys
  paired : ∀ record ∈ db.reservations.rows, record.key ∈ writes.goneCounters →
    record.id ∈ writes.goneReservations

variable {db : Database} {writes mine : Writes} {key : WindowKey}

theorem Even.orderly (even : Even db writes) : Orderly db writes := by
  have nothing : ∀ record ∈ db.reservations.rows, record.key ∈ ([] : List WindowKey) →
      record.id ∈ ([] : List String) := by
    intro record _ gone
    cases gone
  cases even with
  | counter follows =>
      refine ⟨fun row put => (follows row put).same, ?_, nothing⟩
      intro record none
      cases none
  | @record record old found keyed positive level =>
      refine ⟨?_, ?_, nothing⟩
      · intro row none
        cases none
      · intro put same
        rw [← Option.some.inj same]
        exact Or.inl ⟨old, found, keyed⟩
  | @both row record keyed positive window follows =>
      refine ⟨?_, ?_, nothing⟩
      · intro put same
        rw [← Option.some.inj same]
        exact follows.same
      · intro put same
        rw [← Option.some.inj same, ← window]
        apply Or.inr
        exact List.mem_append_left _ (List.mem_singleton_self row.key)

theorem Resetting.orderly {clears : WindowKey → Bool} {owed : WindowKey → Prop}
    (resetting : Resetting db clears owed writes) : Orderly db writes := by
  refine ⟨?_, ?_, resetting.paired⟩
  · intro row put
    rw [resetting.counter] at put
    cases put
  · intro record put
    rw [resetting.reservation] at put
    cases put

theorem find_counters_apply (free : key ∉ writes.keys) :
    (db.apply writes).counters.find key = db.counters.find key := by
  have ⟨notPut, notGone⟩ := not_or.mp fun inside => free (List.mem_append.mpr inside)
  have put : (db.putCounter writes.counter).find key = db.counters.find key := by
    cases counter : writes.counter with
    | none => rfl
    | some row =>
        rw [Database.putCounter, Table.find_put, if_neg]
        intro same
        apply notPut
        rw [counter, same]
        exact List.mem_singleton_self row.key
  show ((db.putCounter writes.counter).erase _).find key = _
  rw [Table.find_erase, put]
  cases found : db.counters.find key with
  | none => rfl
  | some row =>
      have here : row.key = key := (Table.find_some.mp found).2
      simp [Option.filter, here, notGone]

theorem find_reservations_apply {id : String} (free : id ∉ writes.ids) :
    (db.apply writes).reservations.find id = db.reservations.find id := by
  have ⟨notPut, notGone⟩ := not_or.mp fun inside => free (List.mem_append.mpr inside)
  have put : (db.putReservation writes.reservation).find id = db.reservations.find id := by
    cases reservation : writes.reservation with
    | none => rfl
    | some record =>
        rw [Database.putReservation, Table.find_put, if_neg]
        intro same
        apply notPut
        rw [reservation, same]
        exact List.mem_singleton_self record.id
  show ((db.putReservation writes.reservation).erase _).find id = _
  rw [Table.find_erase, put]
  cases found : db.reservations.find id with
  | none => rfl
  | some record =>
      have here : record.id = id := (Table.find_some.mp found).2
      simp [Option.filter, here, notGone]

theorem mem_apply {record : Record} (member : record ∈ (db.apply writes).reservations.rows) :
    writes.reservation = some record ∨ record ∈ db.reservations.rows := by
  have inside := (Table.mem_erase.mp member).1
  cases reservation : writes.reservation with
  | none =>
      rw [reservation] at inside
      exact Or.inr inside
  | some put =>
      rw [reservation] at inside
      rcases Table.mem_put inside with same | ⟨old, _⟩
      · exact Or.inl (congrArg some same.symm)
      · exact Or.inr old

/-- A counter that a commit does not delete stays the same row. -/
theorem Orderly.later (orderly : Orderly db writes) {old : CounterRow}
    (found : db.counters.find key = some old) (kept : key ∉ writes.goneCounters) :
    ∃ row, (db.apply writes).counters.find key = some row ∧ row.row = old.row := by
  have put : ∃ row, (db.putCounter writes.counter).find key = some row ∧ row.row = old.row := by
    cases counter : writes.counter with
    | none => exact ⟨old, found, rfl⟩
    | some row =>
        rw [Database.putCounter, Table.find_put]
        split
        · rename_i here
          rw [here] at found
          exact ⟨row, rfl, orderly.rows row counter old found⟩
        · exact ⟨old, found, rfl⟩
  obtain ⟨row, there, same⟩ := put
  refine ⟨row, ?_, same⟩
  show ((db.putCounter writes.counter).erase _).find key = _
  have here : row.key = key := (Table.find_some.mp there).2
  rw [Table.find_erase, there]
  simp [Option.filter, here, kept]

theorem Follows.apply {row : CounterRow} {amount : Int} (follows : Follows db row amount)
    (free : row.key ∉ writes.keys) : Follows (db.apply writes) row amount where
  used := by
    rw [usedAt, find_counters_apply free]
    exact follows.used
  same := by
    rw [find_counters_apply free]
    exact follows.same

theorem Even.apply (even : Even db mine) (apart : Apart mine writes) :
    Even (db.apply writes) mine := by
  cases even with
  | counter follows =>
      apply Even.counter
      intro row put
      apply (follows row put).apply
      apply apart.keys
      rw [Writes.keys, put]
      exact List.mem_append_left _ (List.mem_singleton_self row.key)
  | @record record old found keyed positive level =>
      have free := apart.ids record.id (List.mem_append_left _ (List.mem_singleton_self record.id))
      apply Even.record _ keyed positive level
      rw [find_reservations_apply free]
      exact found
  | @both row record keyed positive window follows =>
      have freeId := apart.ids record.id
        (List.mem_append_left _ (List.mem_singleton_self record.id))
      have freeKey := apart.keys row.key
        (List.mem_append_left _ (List.mem_singleton_self row.key))
      have before : previous (db.apply writes) record = previous db record := by
        rw [previous, find_reservations_apply freeId]
        rfl
      apply Even.both _ positive window
      · rw [before]
        exact follows.apply freeKey
      · rw [find_reservations_apply freeId]
        exact keyed

theorem Resetting.apply {clears : WindowKey → Bool} {owed still : WindowKey → Prop}
    (resetting : Resetting db clears owed mine) (orderly : Orderly db writes)
    (apart : Apart mine writes)
    (carried : ∀ record ∈ db.reservations.rows, record.id ∈ mine.goneReservations →
      record.key ∉ writes.goneCounters → owed record.key → still record.key) :
    Resetting (db.apply writes) clears still mine := by
  have goneIds : ∀ id ∈ mine.goneReservations, id ∉ writes.ids := by
    intro id gone
    exact apart.ids id (List.mem_append_right _ gone)
  refine ⟨resetting.counter, resetting.reservation, ?_, ?_, ?_⟩
  · intro id gone
    rw [find_reservations_apply (goneIds id gone)]
    exact resetting.present id gone
  · intro record member gone
    rcases mem_apply member with put | old
    · rcases orderly.records record put with ⟨old, found, same⟩ | locked
      · have ⟨inside, here⟩ := Table.find_some.mp found
        rw [← here]
        apply resetting.paired old inside
        rw [same]
        exact gone
      · exact absurd locked (apart.keys record.key (List.mem_append_right _ gone))
    · exact resetting.paired record old gone
  · intro record member gone
    rcases mem_apply member with put | old
    · apply absurd _ (goneIds record.id gone)
      rw [Writes.ids, put]
      exact List.mem_append_left _ (List.mem_singleton_self record.id)
    · rcases resetting.owed record old gone with deleted | owed
      · exact Or.inl deleted
      · apply Or.inr
        apply carried record old gone _ owed
        intro deleted
        apply goneIds record.id gone
        exact List.mem_append_right _ (orderly.paired record old deleted)

/-- What the columns hold of a command's window. -/
def storedKey (command : ReserveQuota) : Except QuotaError WindowKey := do
  let subjectId ← column 255 command.subjectId
  let resource ← column 255 command.resource
  let windowKey ← column 64 command.windowKey
  return (subjectId, resource, windowKey)

/-- At most the counter is written, and nothing is charged yet. -/
def Touched (db : Database) (writes : Writes) : Prop :=
  ∃ counter, writes = ⟨counter, none, [], []⟩ ∧ ∀ row, counter = some row → Follows db row 0

/-- The counter of the command's window is locked. -/
inductive Ensured (db : Database) : Operation → Writes → Prop
  | intro {command : ReserveQuota} {row : CounterRow} (stored : storedKey command = .ok row.key)
      (follows : Follows db row 0) :
      Ensured db (.reserve command) ⟨some row, none, [], []⟩

/-- The reservation is inserted under the locked counter, which has not been charged. -/
inductive Inserted (db : Database) : Operation → Writes → Prop
  | intro {command : ReserveQuota} {row : CounterRow} {record : Record}
      (id : record.id = command.reservationId) (cost : record.cost = command.cost)
      (status : record.status = .reserved) (window : row.key = record.key)
      (follows : Follows db row 0) (fresh : db.reservations.find record.id = none) :
      Inserted db (.reserve command) ⟨some row, some record, [], []⟩

def settlementOf : Operation → Option Settlement
  | .finalize _ => some .finalize
  | .refund _ => some .refund
  | _ => none

/-- A committed reservation is locked in its new status. -/
inductive Claimed (db : Database) (operation : Operation) : Record → Writes → Prop
  | intro {settlement : Settlement} {old : Record}
    (settles : settlementOf operation = some settlement)
      (found : db.reservations.find old.id = some old) (status : old.status = .reserved) :
      Claimed db operation (setStatus settlement.status old)
        ⟨none, some (setStatus settlement.status old), [], []⟩

/-- The counter is still among the rows that the second DELETE has to go through. -/
def Owed (db : Database) (rows : List (WindowKey × Nat)) (key : WindowKey) : Prop :=
  ∃ row, db.counters.find key = some row ∧ (key, row.row) ∈ rows

/-- What a call has in hand before its next statement. -/
def Standing (db : Database) (call : Call) : Prop :=
  match call.pc with
  | .existing _ => Touched db call.writes
  | .insert => Ensured db call.operation call.writes
  | .refind => Touched db call.writes
  | .increment => Inserted db call.operation call.writes
  | .withdraw => Inserted db call.operation call.writes
  | .claimed record => Claimed db call.operation record call.writes
  | .deletingReservations _ =>
      Resetting db call.operation.clears (fun _ => True) call.writes
  | .deleteCounters => Resetting db call.operation.clears (fun _ => True) call.writes
  | .deletingCounters rows => Resetting db call.operation.clears (Owed db rows) call.writes
  | .commit _ =>
      Even db call.writes ∨ Resetting db call.operation.clears (fun _ => False) call.writes
  | _ => call.writes = {}

theorem Touched.apply (touched : Touched db mine) (apart : Apart mine writes) :
    Touched (db.apply writes) mine := by
  have ⟨counter, shape, follows⟩ := touched
  refine ⟨counter, shape, ?_⟩
  intro row put
  apply (follows row put).apply
  apply apart.keys
  rw [shape, Writes.keys, put]
  exact List.mem_append_left _ (List.mem_singleton_self row.key)

theorem Ensured.apply {operation : Operation} (ensured : Ensured db operation mine)
    (apart : Apart mine writes) : Ensured (db.apply writes) operation mine := by
  cases ensured with
  | intro stored follows =>
      apply Ensured.intro stored
      apply follows.apply
      apply apart.keys
      exact List.mem_append_left _ (List.mem_singleton_self _)

theorem Inserted.apply {operation : Operation} (inserted : Inserted db operation mine)
    (apart : Apart mine writes) : Inserted (db.apply writes) operation mine := by
  cases inserted with
  | intro id cost status window follows fresh =>
      apply Inserted.intro id cost status window
      · apply follows.apply
        apply apart.keys
        exact List.mem_append_left _ (List.mem_singleton_self _)
      · rw [find_reservations_apply]
        · exact fresh
        · apply apart.ids
          exact List.mem_append_left _ (List.mem_singleton_self _)

theorem Claimed.apply {operation : Operation} {record : Record}
    (claimed : Claimed db operation record mine) (apart : Apart mine writes) :
    Claimed (db.apply writes) operation record mine := by
  cases claimed with
  | intro settles found status =>
      apply Claimed.intro settles _ status
      rw [find_reservations_apply]
      · exact found
      · apply apart.ids
        exact List.mem_append_left _ (List.mem_singleton_self _)

/-- The commit of another transaction leaves a call what it has in hand. -/
theorem Standing.apply {call : Call} (standing : Standing db call) (orderly : Orderly db writes)
    (apart : Apart call.writes writes) : Standing (db.apply writes) call := by
  unfold Standing at standing ⊢
  split at standing
  · exact standing.apply apart
  · exact standing.apply apart
  · exact standing.apply apart
  · exact standing.apply apart
  · exact standing.apply apart
  · exact standing.apply apart
  · exact standing.apply orderly apart fun _ _ _ _ owed => owed
  · exact standing.apply orderly apart fun _ _ _ _ owed => owed
  · rename_i rows _
    apply standing.apply orderly apart
    intro record _ _ kept owed
    have ⟨old, found, listed⟩ := owed
    have ⟨row, there, same⟩ := orderly.later found kept
    refine ⟨row, there, ?_⟩
    rw [same]
    exact listed
  · rcases standing with even | resetting
    · exact Or.inl (even.apply apart)
    · exact Or.inr (resetting.apply orderly apart fun _ _ _ _ owed => owed)
  · exact standing

/-- The writes of a call that commits. -/
theorem Standing.commits {call : Call} {answer : Answer} (standing : Standing db call)
    (here : call.pc = .commit answer) (balanced : Balanced db) :
    Balanced (db.apply call.writes) ∧ Orderly db call.writes := by
  rw [Standing, here] at standing
  rcases standing with even | resetting
  · exact ⟨balanced.even even, even.orderly⟩
  · exact ⟨balanced.reset resetting, resetting.orderly⟩

end AiPlatform.Quota.Statements

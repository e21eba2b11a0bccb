import Mathlib.Logic.Relation
import AiPlatform.Quota.StoredRows

set_option autoImplicit false

/- The statements of a transaction that is alone raise, answer and write what the transaction does
as one piece. -/
namespace AiPlatform.Quota.Statements

open Columns Machine
open Postgres (Record Tables Transaction setStatus setStatus_id)

variable {db : Database} {tables : Tables}

/-- The state in which no other transaction is open. -/
def alone (db : Database) : State := ⟨db, .empty, []⟩

/-- The next statement of the call when it is alone. -/
def Advances (db : Database) (call : Call) (point next : Pc × Writes) : Prop :=
  statement (alone db) { call with pc := point.1, writes := point.2 } = some next

/-- The call goes on to raise what the transaction raises, or to commit what it writes. -/
def Does (db : Database) (call : Call) (point : Pc × Writes)
    (outcome : Except QuotaError (Answer × Tables)) : Prop :=
  ∃ last, Relation.ReflTransGen (Advances db call) point last ∧
    match outcome with
    | .error error => last = (.raised error, {})
    | .ok (answer, after) => last.1 = .commit answer ∧ Stores (db.apply last.2) after

section Attempts

variable {Value : Type} {outcome : Except QuotaError Value}
variable {rest : Value → Option (Pc × Writes)}

theorem attempt_error {error : QuotaError} (raised : outcome = .error error) :
    State.attempt outcome rest = some (.raised error, {}) := by
  rw [raised]
  rfl

theorem attempt_ok {value : Value} (sent : outcome = .ok value) :
    State.attempt outcome rest = rest value := by
  rw [sent]
  rfl

end Attempts

section Points

variable {call : Call} {point next : Pc × Writes}

theorem Does.step {outcome : Except QuotaError (Answer × Tables)}
    (taken : Advances db call point next) (rest : Does db call next outcome) :
    Does db call point outcome :=
  have ⟨last, reached, ends⟩ := rest
  ⟨last, .head taken reached, ends⟩

theorem does_raise {error : QuotaError} (taken : Advances db call point (.raised error, {})) :
    Does db call point (.error error) :=
  ⟨_, .single taken, rfl⟩

theorem does_commit {answer : Answer} {after : Tables} (writes : Writes)
    (taken : Advances db call point (.commit answer, writes))
    (stores : Stores (db.apply writes) after) : Does db call point (.ok (answer, after)) :=
  ⟨_, .single taken, rfl, stores⟩

end Points

section Reserve

variable {command : ReserveQuota} {call : Call} {row : CounterRow} {record : Record}
variable {reservations : Indexed Record.id Record.index}

theorem advances_reserve (operation : call.operation = .reserve command)
    {point next : Pc × Writes} :
    Advances db call point next ↔
      (alone db).reserve { call with pc := point.1, writes := point.2 } command = some next := by
  unfold Advances statement
  dsimp only
  rw [operation]

theorem inserted_fresh (inserted : tables.reservations.insert record = some reservations) :
    tables.reservations.find record.id = none :=
  (Table.insert_some.mp (Indexed.insert_table inserted)).1

theorem inserted_find (inserted : tables.reservations.insert record = some reservations)
    (id : String) : reservations.find id =
      if id = record.id then some record else tables.reservations.find id :=
  Table.find_insert (Indexed.insert_table inserted) id

/-- The row that went in is deleted by the id that was drawn. One that was cut stays. -/
theorem does_withdraw (operation : call.operation = .reserve command) (stores : Stores db tables)
    (narrow : Narrow row.key) (values : recordValues command = .ok record)
    (inserted : tables.reservations.insert record = some reservations) :
    Does db call (.withdraw, { counter := some row, reservation := some record })
      ((do
        Postgres.deleteReservation command.reservationId
        return Answer.rejected : Transaction Answer).run
          ⟨tables.counters.put row.toCounter, reservations⟩) := by
  have drawn := recordValues_id values
  have short := column_length drawn
  have fresh := inserted_fresh inserted
  have found := inserted_find inserted
  unfold Postgres.deleteReservation
  rw [sendTexts_lift]
  cases sent : checkTexts [command.reservationId] with
  | error error =>
      exact does_raise ((advances_reserve operation).mpr (attempt_error sent))
  | ok fine =>
      have commits : Advances db call
          (.withdraw, { counter := some row, reservation := some record })
          (.commit .rejected,
            { counter := some row
              reservation := (some record).filter fun record =>
                record.id ≠ command.reservationId }) :=
        (advances_reserve operation).mpr (attempt_ok sent)
      refine does_commit _ commits ?_
      rw [apply_kept]
      have counted := stores.putCounter narrow
      have removed (id : String) : (reservations.remove command.reservationId).find id =
          if id = command.reservationId then none else reservations.find id :=
        Table.find_remove _ _ _
      by_cases same : record.id = command.reservationId
      · rw [Option.filter_some_neg (by simp [same])]
        refine counted.congr (fun _ => rfl) fun id => ?_
        show (reservations.remove command.reservationId).find id = tables.reservations.find id
        rw [removed, found, ← same]
        split
        · rename_i here
          rw [here, fresh]
        · rfl
      · have long : ¬command.reservationId.toList.length ≤ 36 :=
          fun fits => same (column_fits fits drawn)
        have absent : db.reservations.find command.reservationId = none := by
          cases taken : db.reservations.find command.reservationId with
          | none => rfl
          | some other =>
              obtain ⟨member, here⟩ := Table.find_some.mp taken
              exact absurd (here ▸ stores.ids other member) long
        rw [Option.filter_some_pos (by simpa using same)]
        refine (counted.putReservation short found).congr (fun _ => rfl) fun id => ?_
        show (reservations.remove command.reservationId).find id = reservations.find id
        rw [removed]
        split
        · rename_i here
          rw [here, found, if_neg (fun equal => same equal.symm), stores.reservations, absent]
        · rfl

/-- The charge, or the withdrawal of the row that went in. -/
theorem does_increment (operation : call.operation = .reserve command) (stores : Stores db tables)
    (window : storedKey command = .ok row.key) (values : recordValues command = .ok record)
    (inserted : tables.reservations.insert record = some reservations) :
    Does db call (.increment, { counter := some row, reservation := some record })
      ((Postgres.tryIncrementCounter command >>= fun
        | none => do
            Postgres.deleteReservation command.reservationId
            return .rejected
        | some usage => return .reservation (command.reservation usage)).run
          ⟨tables.counters.put row.toCounter, reservations⟩) := by
  obtain ⟨narrow, own⟩ := storedKey_narrow window
  have short := column_length (recordValues_id values)
  have found := inserted_find inserted
  have stored : (tables.counters.put row.toCounter).find row.key = some row.toCounter := by
    rw [Table.find_put]
    exact if_pos rfl
  have absent : row.key ≠ command.key →
      (tables.counters.put row.toCounter).find command.key = none := by
    intro cut
    rw [Table.find_put, if_neg (fun same => cut same.symm), stores.counters]
    cases counted : db.counters.find command.key with
    | none => rfl
    | some other =>
        obtain ⟨member, here⟩ := Table.find_some.mp counted
        exact absurd (own (here ▸ stores.windows other member)) cut
  have increment : (Postgres.tryIncrementCounter command).run
      ⟨tables.counters.put row.toCounter, reservations⟩ = _ :=
    tryIncrementCounter_run
      { call with pc := .increment, writes := { counter := some row, reservation := some record } }
      rfl stored absent
  rw [StateT.run_bind, increment]
  cases tried : incremented { call with
      pc := .increment
      writes := { counter := some row, reservation := some record } } command with
  | error error =>
      exact does_raise ((advances_reserve operation).mpr (attempt_error tried))
  | ok charged =>
      cases charged with
      | none =>
          have withdraws : Advances db call
              (.increment, { counter := some row, reservation := some record })
              (.withdraw, { counter := some row, reservation := some record }) :=
            (advances_reserve operation).mpr (attempt_ok tried)
          exact .step withdraws (does_withdraw operation stores narrow values inserted)
      | some charged =>
          obtain ⟨_, _, charges⟩ := incremented_some rfl tried
          have key : charged.key = row.key := by
            rw [charges]
            rfl
          have base := (stores.putCounter (key ▸ narrow)).putReservation short found
          have commits : Advances db call
              (.increment, { counter := some row, reservation := some record })
              (.commit (.reservation (command.reservation (usageFromCounter charged.toCounter))),
                { counter := some charged, reservation := some record }) :=
            (advances_reserve operation).mpr (attempt_ok tried)
          refine does_commit _ commits ?_
          rw [apply_kept]
          refine base.congr ?_ fun _ => rfl
          intro other
          show ((tables.counters.put row.toCounter).put charged.toCounter).find other =
            (tables.counters.put charged.toCounter).find other
          rw [Table.find_put, Table.find_put, Table.find_put]
          show (if other = charged.key then _ else if other = row.key then _ else _) =
            if other = charged.key then _ else _
          rw [key]
          split <;> rfl

theorem does_existing (operation : call.operation = .reserve command) (stores : Stores db tables)
    (record : Record) :
    Does db call (.existing record, {})
      ((do return Answer.reservation (← Postgres.toReservation record) : Transaction Answer).run
        tables) := by
  have read := usageForReservation_run tables stores.counters
    { call with pc := .existing record, writes := {} } rfl record
  unfold Postgres.toReservation
  rw [bind_assoc, StateT.run_bind, read]
  cases counted : usageFor db { call with pc := .existing record, writes := {} } record with
  | error error =>
      exact does_raise ((advances_reserve operation).mpr (attempt_error counted))
  | ok usage =>
      exact does_commit {} ((advances_reserve operation).mpr (attempt_ok counted)) stores.untouched

theorem does_insert (operation : call.operation = .reserve command) (stores : Stores db tables)
    (unused : findIdempotent db command = .ok none) (window : storedKey command = .ok row.key) :
    Does db call (.insert, { counter := some row })
      ((do
        if ← Postgres.insertReservation command then
          match ← Postgres.tryIncrementCounter command with
          | none =>
              Postgres.deleteReservation command.reservationId
              return Answer.rejected
          | some usage => return .reservation (command.reservation usage)
        else
          match ← Postgres.findIdempotentReservation command with
          | none => throw (.runtimeError "quota reservation conflict without a winner")
          | some existing => return .reservation (← Postgres.toReservation existing) :
        Transaction Answer).run { tables with counters := tables.counters.put row.toCounter }) := by
  obtain ⟨narrow, _⟩ := storedKey_narrow window
  have ran := insertReservation_run command
    { tables with counters := tables.counters.put row.toCounter }
  cases values : recordValues command with
  | error error =>
      rw [StateT.run_bind, ran, values]
      exact does_raise ((advances_reserve operation).mpr (attempt_error values))
  | ok record =>
      have apart := stores.insert_none record
      have inserts : (alone db).reserve
          { call with pc := .insert, writes := { counter := some row } } command =
            if db.reservations.rows.any (clash record) then some (.refind, { counter := some row })
            else some (.increment, { counter := some row, reservation := some record }) :=
        attempt_ok values
      rw [values] at ran
      simp only [Functor.map, Except.map] at ran
      cases inserted : tables.reservations.insert record with
      | none =>
          have refused : (Postgres.insertReservation command).run
              { tables with counters := tables.counters.put row.toCounter } =
                .ok (false, { tables with counters := tables.counters.put row.toCounter }) := by
            rw [ran, inserted]
          have found : (Postgres.findIdempotentReservation command).run
              { tables with counters := tables.counters.put row.toCounter } =
                .ok (none, { tables with counters := tables.counters.put row.toCounter }) := by
            rw [(stores.putCounter narrow).findIdempotentReservation_run]
            show _ <$> findIdempotent db command = _
            rw [unused]
            rfl
          have refind : Advances db call (.insert, { counter := some row })
              (.refind, { counter := some row }) := by
            rw [advances_reserve operation, inserts, if_pos (apart.mp inserted)]
          have raises : Advances db call (.refind, { counter := some row })
              (.raised (.runtimeError "quota reservation conflict without a winner"), {}) :=
            (advances_reserve operation).mpr (attempt_ok unused)
          rw [Postgres.run_bind_ok refused, if_neg Bool.false_ne_true, Postgres.run_bind_ok found]
          exact .step refind (does_raise raises)
      | some reservations =>
          have accepted : (Postgres.insertReservation command).run
              { tables with counters := tables.counters.put row.toCounter } =
                .ok (true, ⟨tables.counters.put row.toCounter, reservations⟩) := by
            rw [ran, inserted]
          have goes : Advances db call (.insert, { counter := some row })
              (.increment, { counter := some row, reservation := some record }) := by
            have free : ¬db.reservations.rows.any (clash record) = true := by
              rw [← apart, inserted]
              exact Option.some_ne_none _
            rw [advances_reserve operation, inserts, if_neg free]
          rw [Postgres.run_bind_ok accepted, if_pos rfl]
          exact .step goes (does_increment operation stores window values inserted)

theorem does_find (operation : call.operation = .reserve command) (stores : Stores db tables) :
    Does db call (.find, {}) ((Postgres.reserve command).run tables) := by
  have ran := stores.findIdempotentReservation_run command
  unfold Postgres.reserve
  cases found : findIdempotent db command with
  | error error =>
      rw [StateT.run_bind, ran, found]
      exact does_raise ((advances_reserve operation).mpr (attempt_error found))
  | ok existing =>
      rw [found] at ran
      rw [Postgres.run_bind_ok ran]
      cases existing with
      | some record =>
          have reads : Advances db call (.find, {}) (.existing record, {}) :=
            (advances_reserve operation).mpr (attempt_ok found)
          exact .step reads (does_existing operation stores record)
      | none =>
          have ensures : Advances db call (.find, {}) (.ensure, {}) :=
            (advances_reserve operation).mpr (attempt_ok found)
          refine .step ensures ?_
          have ensured := ensureCounter_run command call.id tables
          cases values : counterValues command call.id with
          | error error =>
              rw [StateT.run_bind, ensured, values]
              exact does_raise ((advances_reserve operation).mpr (attempt_error values))
          | ok fresh =>
              have window : storedKey command = .ok (upserted db fresh).key := by
                rw [upserted_key, (counterValues_ok values).1]
              have upserts : Advances db call (.ensure, {})
                  (.insert, { counter := some (upserted db fresh) }) :=
                (advances_reserve operation).mpr (attempt_ok values)
              rw [values] at ensured
              rw [Postgres.run_bind_ok ensured, stores.upsert]
              exact .step upserts (does_insert operation stores found window)

end Reserve

theorem checkTexts_sendable {texts : List String} {fine : Unit}
    (sent : checkTexts texts = .ok fine) : ∀ text ∈ texts, sendable text := by
  unfold checkTexts at sent
  split at sent
  · assumption
  · cases sent

def settling : Settlement → String → Operation
  | .finalize, reservationId => .finalize reservationId
  | .refund, reservationId => .refund reservationId

section Settle

variable {settlement : Settlement} {reservationId : String} {call : Call} {record : Record}

theorem advances_settle (operation : call.operation = settling settlement reservationId)
    {point next : Pc × Writes} :
    Advances db call point next ↔
      (alone db).settle { call with pc := point.1, writes := point.2 } settlement reservationId =
        some next := by
  unfold Advances statement
  dsimp only
  rw [operation]
  cases settlement <;> rfl

/-- What a settlement that claims nothing reads. -/
theorem does_require (operation : call.operation = settling settlement reservationId)
    (stores : Stores db tables) :
    Does db call (.require, {}) ((Postgres.settledUsage settlement reservationId).run tables) := by
  unfold Postgres.settledUsage Postgres.requireReservation
  rw [bind_assoc, Postgres.run_get_bind, stores.reservations]
  cases found : db.reservations.find reservationId with
  | none =>
      apply does_raise
      rw [advances_settle operation]
      unfold State.settle alone
      dsimp only
      rw [found]
  | some record =>
      have reads : (alone db).settle { call with pc := .require, writes := {} } settlement
          reservationId =
            if record.status = settlement.refusal.1 then some (.raised settlement.refusal.2, {})
            else some (.settled record, {}) := by
        unfold State.settle alone
        dsimp only
        rw [found]
      dsimp only
      rw [pure_bind]
      by_cases refused : record.status = settlement.refusal.1
      · rw [if_pos refused]
        apply does_raise
        rw [advances_settle operation, reads, if_pos refused]
      · rw [if_neg refused, StateT.run_bind, usageForReservation_run tables stores.counters
          { call with pc := .settled record, writes := {} } rfl record]
        have settled : Advances db call (.require, {}) (.settled record, {}) := by
          rw [advances_settle operation, reads, if_neg refused]
        refine .step settled ?_
        cases counted : usageFor db { call with pc := .settled record, writes := {} } record with
        | error error =>
            exact does_raise ((advances_settle operation).mpr (attempt_error counted))
        | ok usage =>
            exact does_commit {} ((advances_settle operation).mpr (attempt_ok counted))
              stores.untouched

theorem Stores.marked (stores : Stores db tables)
    (found : db.reservations.find reservationId = some record)
    (status : QuotaReservationStatus) :
    Stores { db with reservations := db.reservations.put (setStatus status record) }
      (Postgres.markedTables tables reservationId status) := by
  obtain ⟨member, here⟩ := Table.find_some.mp found
  have short : (setStatus status record).id.toList.length ≤ 36 := stores.ids record member
  refine stores.putReservation short ?_
  intro id
  have lookup : (Postgres.markedTables tables reservationId status).reservations.find id = _ :=
    Table.find_modify tables.reservations.table reservationId id (setStatus status)
      (Postgres.setStatus_id status)
  have same : tables.reservations.table.find id = db.reservations.find id :=
    stores.reservations id
  refine lookup.trans ?_
  rw [setStatus_id, here, stores.reservations, same]
  split
  · rename_i equal
    rw [equal, found]
    rfl
  · rfl

theorem does_claimed_finalize (operation : call.operation = settling .finalize reservationId)
    (stores : Stores db tables) (found : db.reservations.find reservationId = some record) :
    Does db call (.claimed (setStatus .finalized record),
        { reservation := some (setStatus .finalized record) })
      ((do return Answer.usage (← Postgres.usageForReservation (setStatus .finalized record)) :
        Transaction Answer).run (Postgres.markedTables tables reservationId .finalized)) := by
  have read := usageForReservation_run
    (Postgres.markedTables tables reservationId .finalized) stores.counters
    { call with
      pc := .claimed (setStatus .finalized record)
      writes := { reservation := some (setStatus .finalized record) } } rfl
    (setStatus .finalized record)
  rw [StateT.run_bind, read]
  cases counted : usageFor db { call with
      pc := .claimed (setStatus .finalized record)
      writes := { reservation := some (setStatus .finalized record) } }
    (setStatus .finalized record) with
  | error error =>
      exact does_raise ((advances_settle operation).mpr (attempt_error counted))
  | ok usage =>
      have kept : Stores (db.apply { reservation := some (setStatus .finalized record) }) _ :=
        apply_kept db none (some (setStatus .finalized record)) ▸ stores.marked found .finalized
      exact does_commit _ ((advances_settle operation).mpr (attempt_ok counted)) kept

theorem does_claimed_refund (operation : call.operation = settling .refund reservationId)
    (stores : Stores db tables) (found : db.reservations.find reservationId = some record) :
    Does db call (.claimed (setStatus .refunded record),
        { reservation := some (setStatus .refunded record) })
      ((do return Answer.usage (← Postgres.lowerCounter (setStatus .refunded record)) :
        Transaction Answer).run (Postgres.markedTables tables reservationId .refunded)) := by
  have same := stores.counters (setStatus .refunded record).key
  unfold Postgres.lowerCounter
  rw [bind_assoc, Postgres.run_get_bind]
  unfold Postgres.markedTables
  dsimp only
  rw [same]
  cases counted : db.counters.find (setStatus .refunded record).key with
  | none =>
      apply does_raise
      rw [advances_settle operation]
      unfold State.settle alone
      dsimp only
      rw [counted]
      rfl
  | some row =>
      obtain ⟨member, here⟩ := Table.find_some.mp counted
      have narrow : Narrow (lowered row record.cost).key := stores.windows row member
      have kept := (stores.marked found .refunded).putCounter narrow
      refine does_commit
        { counter := some (lowered row record.cost)
          reservation := some (setStatus .refunded record) } ?_ ?_
      · rw [advances_settle operation]
        unfold State.settle alone
        dsimp only
        rw [counted]
        rfl
      · rw [apply_kept]
        exact kept

theorem does_claim (operation : call.operation = settling settlement reservationId)
    (stores : Stores db tables) :
    Does db call (.claim, {}) ((Postgres.settle settlement reservationId).run tables) := by
  cases sent : checkTexts [reservationId] with
  | error error =>
      have raises : Does db call (.claim, {}) (.error error) :=
        does_raise ((advances_settle operation).mpr (attempt_error sent))
      cases settlement with
      | finalize =>
          show Does db call _ ((Postgres.finalize reservationId).run tables)
          unfold Postgres.finalize Postgres.claimReserved
          rw [sendTexts_lift, sent]
          exact raises
      | refund =>
          show Does db call _ ((Postgres.refund reservationId).run tables)
          unfold Postgres.refund Postgres.claimReserved
          rw [sendTexts_lift, sent]
          exact raises
  | ok fine =>
      have sendable : Columns.sendable reservationId :=
        checkTexts_sendable sent reservationId List.mem_cons_self
      have claims : (alone db).settle { call with pc := .claim, writes := {} } settlement
          reservationId =
            match db.reservations.find reservationId with
            | none => some (.require, {})
            | some record =>
                if record.status = .reserved then
                  some (.claimed (setStatus settlement.status record),
                    { reservation := some (setStatus settlement.status record) })
                else some (.require, {}) :=
        attempt_ok sent
      by_cases reserved : ∃ record, db.reservations.find reservationId = some record ∧
          record.status = .reserved
      · obtain ⟨record, found, reserved⟩ := reserved
        have claimed (status : QuotaReservationStatus) :
            (Postgres.claimReserved reservationId status).run tables =
              .ok (some (setStatus status record),
                Postgres.markedTables tables reservationId status) := by
          rw [Postgres.claimReserved_run sendable, stores.reservations, found]
          exact if_pos reserved
        rw [found] at claims
        have goes : Advances db call (.claim, {})
            (.claimed (setStatus settlement.status record),
              { reservation := some (setStatus settlement.status record) }) := by
          rw [advances_settle operation]
          exact claims.trans (if_pos reserved)
        refine .step goes ?_
        cases settlement with
        | finalize =>
            show Does db call _ ((Postgres.finalize reservationId).run tables)
            unfold Postgres.finalize
            rw [Postgres.run_bind_ok (claimed .finalized)]
            exact does_claimed_finalize operation stores found
        | refund =>
            show Does db call _ ((Postgres.refund reservationId).run tables)
            unfold Postgres.refund
            rw [Postgres.run_bind_ok (claimed .refunded)]
            exact does_claimed_refund operation stores found
      · have unclaimed : ∀ record, tables.reservations.find reservationId = some record →
            record.status ≠ .reserved := by
          intro record found status
          rw [stores.reservations] at found
          exact reserved ⟨record, found, status⟩
        rw [Postgres.settle_unclaimed sendable unclaimed]
        have goes : Advances db call (.claim, {}) (.require, {}) := by
          rw [advances_settle operation]
          refine claims.trans ?_
          cases found : db.reservations.find reservationId with
          | none => rfl
          | some record => exact if_neg fun status => reserved ⟨record, found, status⟩
        exact .step goes (does_require operation stores)

end Settle

section Others

variable {call : Call}

theorem does_getUsage {query : QuotaUsageQuery} (operation : call.operation = .getUsage query)
    (stores : Stores db tables) :
    Does db call (.read, {}) ((Postgres.getUsage query).run tables) := by
  have advances {next : Pc × Writes} : Advances db call (.read, {}) next ↔
      (alone db).getUsage { call with pc := .read, writes := {} } query = some next := by
    unfold Advances statement
    dsimp only
    rw [operation]
  unfold Postgres.getUsage
  cases sent : checkTexts [query.subjectId, query.resource, query.windowKey] with
  | error error =>
      rw [sendTexts_lift, sent]
      exact does_raise (advances.mpr (attempt_error sent))
  | ok fine =>
      rw [Postgres.run_bind_ok (Postgres.sendTexts_run (checkTexts_sendable sent)),
        Postgres.run_get_bind, stores.counters]
      have reads : (alone db).getUsage { call with pc := .read, writes := {} } query =
          some (.commit (.usage ((db.counters.find query.key).elim (usageFromQuery query)
            fun row => usageFromCounter row.toCounter)), {}) := by
        refine (attempt_ok sent).trans ?_
        unfold alone
        cases db.counters.find query.key <;> rfl
      cases found : db.counters.find query.key with
      | none =>
          rw [found] at reads
          exact does_commit {} (advances.mpr reads) stores.untouched
      | some row =>
          rw [found] at reads
          exact does_commit {} (advances.mpr reads) stores.untouched

section Reset

variable {texts : List String} {clears : WindowKey → Bool} {answer : Answer}

/-- The statements of the call are those of a reset. -/
def Resets (db : Database) (call : Call) (texts : List String) (clears : WindowKey → Bool)
    (answer : Answer) : Prop :=
  ∀ point next, Advances db call point next ↔
    (alone db).reset { call with pc := point.1, writes := point.2 } texts clears answer = some next

theorem deletes_reservations (resets : Resets db call texts clears answer) {ids : List String}
    (present : ∀ id ∈ ids, ∃ record, db.reservations.find id = some record ∧
      clears record.key = true) (gone : List String) :
    Relation.ReflTransGen (Advances db call)
      (.deletingReservations ids, { goneReservations := gone })
      (.deleteCounters, { goneReservations := ids.reverse ++ gone }) := by
  induction ids generalizing gone with
  | nil => exact .single ((resets _ _).mpr rfl)
  | cons id rest ih =>
      obtain ⟨⟨record, found, cleared⟩, others⟩ := List.forall_mem_cons.mp present
      have deletes : Advances db call
          (.deletingReservations (id :: rest), { goneReservations := gone })
          (.deletingReservations rest, { goneReservations := id :: gone }) := by
        rw [resets]
        unfold State.reset alone
        dsimp only
        rw [found]
        exact if_pos cleared
      rw [List.reverse_cons, List.append_assoc]
      exact .head deletes (ih others (id :: gone))

theorem deletes_counters (resets : Resets db call texts clears answer)
    {rows : List (WindowKey × Nat)}
    (present : ∀ entry ∈ rows, ∃ row, db.counters.find entry.1 = some row ∧ row.row = entry.2)
    (ids : List String) (gone : List WindowKey) :
    Relation.ReflTransGen (Advances db call)
      (.deletingCounters rows, { goneReservations := ids, goneCounters := gone })
      (.commit answer,
        { goneReservations := ids, goneCounters := (rows.map Prod.fst).reverse ++ gone }) := by
  induction rows generalizing gone with
  | nil => exact .single ((resets _ _).mpr rfl)
  | cons entry rest ih =>
      obtain ⟨key, number⟩ := entry
      obtain ⟨⟨row, found, same⟩, others⟩ := List.forall_mem_cons.mp present
      have deletes : Advances db call
          (.deletingCounters ((key, number) :: rest),
            { goneReservations := ids, goneCounters := gone })
          (.deletingCounters rest, { goneReservations := ids, goneCounters := key :: gone }) := by
        rw [resets]
        unfold State.reset alone
        dsimp only
        rw [found]
        exact if_pos same
      rw [List.map_cons, List.reverse_cons, List.append_assoc]
      exact .head deletes (ih others (key :: gone))

theorem Stores.cleared (stores : Stores db tables) {ids : List String} {keys : List WindowKey}
    (records : ∀ record ∈ db.reservations.rows, record.id ∈ ids ↔ clears record.key = true)
    (rows : ∀ row ∈ db.counters.rows, row.key ∈ keys ↔ clears row.key = true) :
    Stores (db.apply { goneReservations := ids, goneCounters := keys })
      { counters := tables.counters.erase fun counter => clears counter.key
        reservations := tables.reservations.erase fun record => clears record.key } := by
  refine ⟨?_, ?_, ?_, ?_⟩
  · intro key
    show (tables.counters.erase _).find key = ((db.counters.erase _).find key).map _
    rw [Table.find_erase, Table.find_erase, stores.counters]
    cases found : db.counters.find key with
    | none => rfl
    | some row =>
        have gone := rows row (Table.find_some.mp found).1
        have same : row.toCounter.key = row.key := rfl
        by_cases cleared : clears row.key = true
        · simp [Option.filter, same, cleared, gone.mpr cleared]
        · simp [Option.filter, same, cleared, gone]
  · intro id
    have same : tables.reservations.table.find id = db.reservations.find id :=
      stores.reservations id
    show (tables.reservations.table.erase _).find id = (db.reservations.erase _).find id
    rw [Table.find_erase, Table.find_erase, same]
    cases found : db.reservations.find id with
    | none => rfl
    | some record =>
        have gone := records record (Table.find_some.mp found).1
        by_cases cleared : clears record.key = true
        · simp [Option.filter, cleared, gone.mpr cleared]
        · simp [Option.filter, cleared, gone]
  · intro row member
    exact stores.windows row (Table.mem_erase.mp member).1
  · intro record member
    exact stores.ids record (Table.mem_erase.mp member).1

/-- The keys of the rows that meet a test are in no other row. -/
theorem mem_deleted {Row Key : Type} {key : Row → Key} {table : Table key} (test : Row → Bool)
    {row : Row} (member : row ∈ table.rows) :
    key row ∈ ((table.rows.filter test).map key).reverse ++ [] ↔ test row = true := by
  rw [List.append_nil, List.mem_reverse, List.mem_map]
  constructor
  · intro ⟨other, inside, same⟩
    obtain ⟨stored, met⟩ := List.mem_filter.mp inside
    rwa [Table.eq_of_key stored member same] at met
  · exact fun met => ⟨row, List.mem_filter.mpr ⟨member, met⟩, rfl⟩

theorem does_reset (resets : Resets db call texts clears answer) (stores : Stores db tables) :
    Does db call (.deleteReservations, {})
      ((do
        Postgres.sendTexts texts
        Postgres.clear clears
        return answer : Transaction Answer).run tables) := by
  cases sent : checkTexts texts with
  | error error =>
      rw [sendTexts_lift, sent]
      exact does_raise ((resets _ _).mpr (attempt_error sent))
  | ok fine =>
      rw [Postgres.run_bind_ok (Postgres.sendTexts_run (checkTexts_sendable sent))]
      let ids := (db.reservations.rows.filter fun record => clears record.key).map Record.id
      let rows := (db.counters.rows.filter fun row => clears row.key).map fun row =>
        (row.key, row.row)
      have first : Advances db call (.deleteReservations, {}) (.deletingReservations ids, {}) :=
        (resets _ _).mpr (attempt_ok sent)
      have second : Advances db call
          (.deleteCounters, { goneReservations := ids.reverse ++ [] })
          (.deletingCounters rows, { goneReservations := ids.reverse ++ [] }) :=
        (resets _ _).mpr rfl
      have listed : ∀ id ∈ ids, ∃ record, db.reservations.find id = some record ∧
          clears record.key = true := by
        intro id member
        obtain ⟨record, inside, same⟩ := List.mem_map.mp member
        obtain ⟨stored, cleared⟩ := List.mem_filter.mp inside
        exact ⟨record, same ▸ Table.find_mem stored, cleared⟩
      have counted : ∀ entry ∈ rows, ∃ row, db.counters.find entry.1 = some row ∧
          row.row = entry.2 := by
        intro entry member
        obtain ⟨row, inside, same⟩ := List.mem_map.mp member
        obtain ⟨stored, _⟩ := List.mem_filter.mp inside
        exact ⟨row, same ▸ Table.find_mem stored, same ▸ rfl⟩
      have deleted := deletes_reservations resets listed []
      have emptied := deletes_counters resets counted (ids.reverse ++ []) []
      refine ⟨_, .head first (deleted.trans (.head second emptied)), rfl, stores.cleared ?_ ?_⟩
      · exact fun record stored => mem_deleted _ stored
      · intro row stored
        rw [List.map_map]
        exact mem_deleted _ stored

end Reset

/-- A transaction that runs by itself does what it does as one piece. -/
theorem does_transaction {operation : Operation} (same : call.operation = operation)
    (stores : Stores db tables) :
    Does db call (start operation, {}) ((Postgres.transaction operation).run tables) := by
  cases operation with
  | reserve command => exact does_find same stores
  | finalize reservationId =>
      have finalizes : call.operation = settling .finalize reservationId := same
      exact does_claim finalizes stores
  | refund reservationId =>
      have refunds : call.operation = settling .refund reservationId := same
      exact does_claim refunds stores
  | getUsage query => exact does_getUsage same stores
  | resetUsage query =>
      apply does_reset ?_ stores
      intro point next
      unfold Advances statement
      dsimp only
      rw [same]
  | resetResource resource =>
      apply does_reset ?_ stores
      intro point next
      unfold Advances statement
      dsimp only
      rw [same]

end Others

end AiPlatform.Quota.Statements

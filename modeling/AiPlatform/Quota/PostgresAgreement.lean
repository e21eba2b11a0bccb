import AiPlatform.Quota.MemoryRuns
import AiPlatform.Quota.PostgresCalls

set_option autoImplicit false

/- `MemoryQuotaStore` and `PostgresQuotaStore` run side by side: a relation between the
dictionaries and the tables that every call keeps. -/
namespace AiPlatform.Quota.Postgres

open Machine Columns
open Memory (usedAt currentCounter chargedCounter Represents Reserves Settles Session firstReserve)

/-- What both stores keep of a reservation. -/
structure Facts where
  id : String
  key : WindowKey
  cost : Int
  status : QuotaReservationStatus
  idempotencyKey : Option String
deriving DecidableEq

def Record.facts (record : Record) : Facts :=
  ⟨record.id, record.key, record.cost, record.status, record.idempotencyKey⟩

def reservationFacts (reservation : QuotaReservation) : Facts :=
  ⟨reservation.id, reservation.key, reservation.cost, reservation.status,
    reservation.idempotencyKey⟩

structure Agrees (store : Memory.Store) (tables : Tables) : Prop where
  represents : Represents store
  used : ∀ key, usedAt tables.counters key = usedAt store.counters key
  counted : ∀ record ∈ tables.reservations.table.rows, tables.counters.find record.key ≠ none
  reservations : ∀ id, (tables.reservations.find id).map Record.facts =
    (store.reservations.find id).map reservationFacts

/-- What a caller sees of an answer. -/
inductive Observation where
  | reserved (id : String) (cost : Int) (status : QuotaReservationStatus)
  | rejected
  | used (used : Int)
  | done
  | raised (error : QuotaError)
deriving DecidableEq

/-- The usage is compared for `get_usage` only. -/
def observe : Operation → Except QuotaError Answer → Observation
  | _, .error error => .raised error
  | _, .ok (.reservation reservation) =>
      .reserved reservation.id reservation.cost reservation.status
  | _, .ok .rejected => .rejected
  | .getUsage _, .ok (.usage usage) => .used usage.used
  | _, .ok _ => .done

/-- The values a call sends fit their columns, and the sum a reserve computes is an `Integer`. -/
def Storable (store : Memory.Store) : Operation → Prop
  | .reserve command =>
      Fits command ∧ usedAt store.counters command.key + command.cost ≤ integerMax
  | .finalize reservationId => sendable reservationId
  | .refund reservationId => sendable reservationId
  | .getUsage query =>
      ∀ text ∈ [query.subjectId, query.resource, query.windowKey], sendable text
  | .resetUsage query => ∀ text ∈ [query.subjectId, query.resource], sendable text
  | .resetResource resource => sendable resource

section Lookup

variable {store : Memory.Store} {tables : Tables}

theorem Agrees.record (agrees : Agrees store tables) {id : String} {reservation : QuotaReservation}
    (found : store.reservations.find id = some reservation) :
    ∃ record, tables.reservations.find id = some record ∧
      record.facts = reservationFacts reservation := by
  have same := agrees.reservations id
  rw [found, Option.map_some, Option.map_eq_some_iff] at same
  exact same

theorem Agrees.reservation (agrees : Agrees store tables) {record : Record}
    (member : record ∈ tables.reservations.table.rows) :
    ∃ reservation ∈ store.reservations.rows, record.facts = reservationFacts reservation := by
  have same := agrees.reservations record.id
  have found : tables.reservations.find record.id = some record := Table.find_mem member
  rw [found, Option.map_some] at same
  obtain ⟨reservation, stored, equal⟩ := Option.map_eq_some_iff.mp same.symm
  exact ⟨reservation, (Table.find_some.mp stored).1, equal.symm⟩

theorem Agrees.missing (agrees : Agrees store tables) {id : String} :
    tables.reservations.find id = none ↔ store.reservations.find id = none := by
  have same := agrees.reservations id
  rw [← Option.map_eq_none_iff, same, Option.map_eq_none_iff]

theorem Agrees.counter (agrees : Agrees store tables) {record : Record} {id : String}
    (found : tables.reservations.find id = some record) :
    ∃ counter, tables.counters.find record.key = some counter :=
  Option.ne_none_iff_exists'.mp (agrees.counted record (Table.find_some.mp found).1)

theorem Agrees.replay (agrees : Agrees store tables) {command : ReserveQuota}
    {idempotencyKey : String} {entry : Memory.Entry} {reservation : QuotaReservation}
    (keyed : command.idempotencyKey = some idempotencyKey)
    (listed : store.idempotency.find (command.key, idempotencyKey) = some entry)
    (found : store.reservations.find entry.reservationId = some reservation) :
    ∃ record, (command.idempotencyKey.bind fun key =>
        tables.reservations.findBy (command.key, key)) = some record ∧
      record ∈ tables.reservations.table.rows ∧ record.facts = reservationFacts reservation := by
  obtain ⟨member, index⟩ := Table.find_some.mp listed
  obtain ⟨place, name⟩ := Prod.mk.inj index
  obtain ⟨pointed, target, same, named⟩ := agrees.represents.pointed entry member
  rw [found] at target
  obtain rfl := Option.some.inj target
  obtain ⟨record, stored, facts⟩ := agrees.record found
  have inside := (Table.find_some.mp stored).1
  refine ⟨record, ?_, inside, facts⟩
  rw [keyed]
  apply Indexed.findBy_some.mpr
  have key : record.key = command.key := by
    have equal := congrArg Facts.key facts
    exact equal.trans (same.trans place)
  have idempotency : record.idempotencyKey = some idempotencyKey := by
    have equal := congrArg Facts.idempotencyKey facts
    exact equal.trans (named.trans (congrArg some name))
  exact ⟨inside, by rw [Record.index, idempotency, key]; rfl⟩

/-- No record has the index of a command whose key is free. -/
theorem Agrees.free (agrees : Agrees store tables) {command : ReserveQuota}
    (unused : ∀ idempotencyKey, command.idempotencyKey = some idempotencyKey →
      store.idempotency.find (command.key, idempotencyKey) = none)
    {record : Record} (member : record ∈ tables.reservations.table.rows)
    {idempotencyKey : String} (keyed : command.idempotencyKey = some idempotencyKey) :
    record.index ≠ some (command.key, idempotencyKey) := by
  intro index
  obtain ⟨reservation, stored, facts⟩ := agrees.reservation member
  obtain ⟨name, named, pair⟩ := Option.map_eq_some_iff.mp index
  obtain ⟨place, rfl⟩ := Prod.mk.inj pair
  have key : reservation.key = command.key := (congrArg Facts.key facts).symm.trans place
  have idempotency : reservation.idempotencyKey = some name :=
    (congrArg Facts.idempotencyKey facts).symm.trans named
  have listed := agrees.represents.listed reservation stored name idempotency
  rw [key, unused name keyed] at listed
  cases listed

theorem Agrees.unused (agrees : Agrees store tables) {command : ReserveQuota}
    (unused : ∀ idempotencyKey, command.idempotencyKey = some idempotencyKey →
      store.idempotency.find (command.key, idempotencyKey) = none) :
    (command.idempotencyKey.bind fun key => tables.reservations.findBy (command.key, key)) =
      none := by
  cases keyed : command.idempotencyKey with
  | none => rfl
  | some idempotencyKey =>
      cases found : tables.reservations.findBy (command.key, idempotencyKey) with
      | none => simp [found]
      | some record =>
          obtain ⟨member, index⟩ := Indexed.findBy_some.mp found
          exact absurd index (agrees.free unused member keyed)

theorem Agrees.insert (agrees : Agrees store tables) {command : ReserveQuota}
    (fresh : store.reservations.find command.reservationId = none)
    (unused : ∀ idempotencyKey, command.idempotencyKey = some idempotencyKey →
      store.idempotency.find (command.key, idempotencyKey) = none) :
    ∃ reservations, tables.reservations.insert (newRecord command) = some reservations := by
  cases inserted : tables.reservations.insert (newRecord command) with
  | some reservations => exact ⟨reservations, rfl⟩
  | none =>
      obtain ⟨other, member, same, present⟩ :=
        Indexed.insert_none inserted (agrees.missing.mpr fresh)
      cases keyed : command.idempotencyKey with
      | none =>
          have free : (newRecord command).index = none := by
            rw [Record.index, show (newRecord command).idempotencyKey = none from keyed]
            rfl
          exact absurd free present
      | some idempotencyKey =>
          have index : (newRecord command).index = some (command.key, idempotencyKey) := by
            rw [Record.index,
              show (newRecord command).idempotencyKey = some idempotencyKey from keyed]
            rfl
          exact absurd (same.trans index) (agrees.free unused member keyed)

end Lookup

section Calls

variable {store : Memory.Store} {tables : Tables}

theorem perform_ok (operation : Operation) {answer : Answer} {written : Tables}
    (ran : (transaction operation).run tables = .ok (answer, written)) :
    perform tables operation = (written, .ok answer) := by
  unfold perform
  rw [ran]

theorem perform_error (operation : Operation) {error : QuotaError}
    (ran : (transaction operation).run tables = .error error) :
    perform tables operation = (tables, .error error) := by
  unfold perform
  rw [ran]

/-- Both stores answer alike and agree again. -/
def AgreesAfter (operation : Operation) (memory : Memory.Store × Except QuotaError Answer)
    (postgres : Tables × Except QuotaError Answer) : Prop :=
  Agrees memory.1 postgres.1 ∧ observe operation memory.2 = observe operation postgres.2

theorem Agrees.bounded (agrees : Agrees store tables) {command : ReserveQuota}
    (within : usedAt store.counters command.key + command.cost ≤ integerMax) :
    fitsInteger (usedAt tables.counters command.key + command.cost) := by
  have nonneg : 0 ≤ usedAt store.counters command.key := by
    rw [agrees.represents.conserved]
    apply Table.total_nonneg
    intro row member
    exact Memory.weight_nonneg (agrees.represents.costs row member) command.key
  have cost := command.costPositive
  rw [agrees.used]
  unfold fitsInteger
  omega

/-- A table whose rewritten counters keep their windows counts every reservation still. -/
theorem counted_put {counters : Table Counter.key} {counter : Counter} {key : WindowKey}
    (present : counters.find key ≠ none) : (counters.put counter).find key ≠ none := by
  rw [Table.find_put]
  split
  · simp
  · exact present

theorem usedAt_refreshed (counters : Table Counter.key) (command : ReserveQuota)
    (key : WindowKey) :
    usedAt (counters.put (refreshedCounter counters command)) key = usedAt counters key := by
  have place : (refreshedCounter counters command).key = command.key :=
    Memory.currentCounter_key counters command
  have used : (refreshedCounter counters command).used = usedAt counters command.key :=
    Memory.currentCounter_used counters command
  rw [Memory.usedAt_put, place, used]
  split
  · rename_i same
    rw [same]
  · rfl

section Claimed

variable {command : ReserveQuota} {reservations : Indexed Record.id Record.index}

/-- Every reservation has its counter once the command's is there. -/
theorem Agrees.claimed_counted (agrees : Agrees store tables)
    (inserted : tables.reservations.insert (newRecord command) = some reservations) :
    ∀ record ∈ reservations.table.rows,
      (claimedTables tables command reservations).counters.find record.key ≠ none := by
  intro record member
  have ⟨_, rows⟩ := Table.insert_some.mp (Indexed.insert_table inserted)
  rw [rows, List.mem_append, List.mem_singleton] at member
  rcases member with old | new
  · exact counted_put (agrees.counted record old)
  · rw [new]
    change (claimedTables tables command reservations).counters.find command.key ≠ none
    rw [claimedTables_find]
    exact Option.some_ne_none _

/-- A row that is inserted and withdrawn again leaves the others. -/
theorem find_withdrawn (missing : tables.reservations.find command.reservationId = none)
    (inserted : tables.reservations.insert (newRecord command) = some reservations) (id : String) :
    (reservations.remove command.reservationId).find id = tables.reservations.find id := by
  change (reservations.table.remove command.reservationId).find id = _
  rw [Table.find_remove, Table.find_insert (Indexed.insert_table inserted)]
  by_cases same : id = command.reservationId
  · rw [if_pos same, same, missing]
  · rw [if_neg same]
    exact if_neg same

end Claimed

theorem Agrees.reserve (agrees : Agrees store tables) {command : ReserveQuota}
    (fresh : store.reservations.find command.reservationId = none)
    (storable : Storable store (.reserve command))
    {result : Memory.Store × Except QuotaError Answer} (reserves : Reserves store command result) :
    AgreesAfter (.reserve command) result (perform tables (.reserve command)) := by
  obtain ⟨fits, within⟩ := storable
  have represents := agrees.represents.reserve fresh reserves
  cases reserves with
  | replayed keyed listed found =>
      obtain ⟨record, replay, member, facts⟩ := agrees.replay keyed listed found
      obtain ⟨counter, counted⟩ :=
        Option.ne_none_iff_exists'.mp (agrees.counted record member)
      rw [perform_ok (.reserve command) (reserve_replayed fits replay counted)]
      refine ⟨agrees, ?_⟩
      obtain ⟨id, -, cost, status, -⟩ := Facts.mk.inj facts
      simp only [observe, id, cost, status]
  | rejected unused full written =>
      obtain ⟨reservations, inserted⟩ := agrees.insert fresh unused
      have ran := reserve_claimed fits (agrees.unused unused) inserted (agrees.bounded within)
      dsimp only at ran
      rw [agrees.used, if_neg (by omega)] at ran
      rw [perform_ok (.reserve command) ran]
      refine ⟨⟨represents, ?_, ?_, ?_⟩, rfl⟩
      · intro key
        exact (usedAt_refreshed tables.counters command key).trans
          ((agrees.used key).trans (Memory.usedAt_current written key).symm)
      · intro record member
        exact agrees.claimed_counted inserted record (Table.mem_remove.mp member).1
      · intro id
        have lookup : (claimedTables tables command
            (reservations.remove command.reservationId)).reservations.find id =
              tables.reservations.find id :=
          find_withdrawn (agrees.missing.mpr fresh) inserted id
        rw [lookup]
        exact agrees.reservations id
  | charged unused room shape written =>
      rename_i counters charged
      obtain ⟨reservations, inserted⟩ := agrees.insert fresh unused
      have ran := reserve_claimed fits (agrees.unused unused) inserted (agrees.bounded within)
      dsimp only at ran
      rw [agrees.used, if_pos room] at ran
      rw [perform_ok (.reserve command) ran]
      have used : (refreshedCounter tables.counters command).used =
          usedAt tables.counters command.key := Memory.currentCounter_used tables.counters command
      have place : (refreshedCounter tables.counters command).key = command.key :=
        Memory.currentCounter_key tables.counters command
      refine ⟨⟨represents, ?_, ?_, ?_⟩, rfl⟩
      · intro key
        dsimp only
        rw [Memory.usedAt_put, Memory.usedAt_of_find written]
        change (if key = (refreshedCounter tables.counters command).key then
          (refreshedCounter tables.counters command).used + command.cost else
            usedAt (claimedTables tables command reservations).counters key) = _
        rw [place, used, shape, agrees.used]
        split
        · change _ = (currentCounter store.counters command).used + command.cost
          rw [Memory.currentCounter_used]
        · rw [← agrees.used]
          exact usedAt_refreshed tables.counters command key
      · intro record member
        exact counted_put (agrees.claimed_counted inserted record member)
      · intro id
        change (reservations.table.find id).map Record.facts =
          ((store.reservations.put _).find id).map reservationFacts
        rw [Table.find_put, Table.find_insert (Indexed.insert_table inserted)]
        change (if id = command.reservationId then _ else _ : Option Record).map _ =
          (if id = command.reservationId then _ else _ : Option QuotaReservation).map _
        split
        · rfl
        · exact agrees.reservations id

/-- A status written on both sides. -/
theorem Agrees.marked (agrees : Agrees store tables) {id : String} {record : Record}
    {reservation : QuotaReservation} (stored : tables.reservations.find id = some record)
    (found : store.reservations.find id = some reservation)
    (facts : record.facts = reservationFacts reservation) (status : QuotaReservationStatus)
    (usage : QuotaUsage) (other : String) :
    ((markedTables tables id status).reservations.find other).map Record.facts =
      ((store.reservations.put
        { reservation with status := status, usage := usage }).find other).map
          reservationFacts := by
  obtain ⟨-, rfl⟩ := Table.find_some.mp found
  change ((tables.reservations.table.modify reservation.id (setStatus status)
    (setStatus_id status)).find other).map Record.facts = _
  rw [Table.find_modify, Table.find_put]
  change _ = (if other = reservation.id then _ else _ : Option QuotaReservation).map _
  split
  · rename_i same
    have here : tables.reservations.table.find other = some record := same ▸ stored
    rw [here]
    obtain ⟨sameId, key, cost, -, idempotency⟩ := Facts.mk.inj facts
    exact congrArg some (by
      change Facts.mk record.id record.key record.cost status record.idempotencyKey = _
      rw [sameId, key, cost, idempotency]
      rfl)
  · exact agrees.reservations other

theorem markedTables_key {id : String} {status : QuotaReservationStatus} {record : Record}
    (member : record ∈ (markedTables tables id status).reservations.table.rows) :
    ∃ old ∈ tables.reservations.table.rows, old.key = record.key := by
  have inside : record ∈ (tables.reservations.table.modify id (setStatus status)
    (setStatus_id status)).rows := member
  rcases Table.mem_modify.mp inside with ⟨old, -⟩ | ⟨old, found, rfl⟩
  · exact ⟨record, old, rfl⟩
  · exact ⟨old, (Table.find_some.mp found).1, rfl⟩

/-- A reservation that some settlement has taken is answered from the table. -/
theorem Agrees.settle_again (agrees : Agrees store tables) (settlement : Settlement) {id : String}
    (sent : sendable id) {reservation : QuotaReservation}
    (found : store.reservations.find id = some reservation)
    (settled : reservation.status ≠ .reserved) :
    ∃ usage, (settle settlement id).run tables =
      if reservation.status = settlement.refusal.1 then .error settlement.refusal.2
      else .ok (.usage usage, tables) := by
  obtain ⟨record, stored, facts⟩ := agrees.record found
  obtain ⟨counter, counted⟩ := agrees.counter stored
  have status : record.status = reservation.status := congrArg Facts.status facts
  refine ⟨usageFromCounter counter, ?_⟩
  rw [← status]
  exact Postgres.settle_again sent stored (status ▸ settled) counted settlement

theorem Agrees.refunded_used (agrees : Agrees store tables) {reservation : QuotaReservation}
    {record : Record} {old counter : Counter} (facts : record.facts = reservationFacts reservation)
    (member : reservation ∈ store.reservations.rows) (reserved : reservation.status = .reserved)
    (oldFound : store.counters.find reservation.key = some old)
    (found : tables.counters.find record.key = some counter) :
    (loweredCounter record.cost counter).used =
      (Settlement.refund.counter reservation old).used := by
  have key : record.key = reservation.key := congrArg Facts.key facts
  have cost : record.cost = reservation.cost := congrArg Facts.cost facts
  have same : counter.used = old.used := by
    have used := agrees.used reservation.key
    rw [usedAt, usedAt, oldFound, ← key, found] at used
    exact used
  have clamp := agrees.represents.refund_exact member reserved oldFound
  change (if record.cost ≤ counter.used then counter.used - record.cost else 0) =
    max (old.used - reservation.cost) 0
  rw [cost, same]
  split <;> omega

def settleOperation : Settlement → String → Operation
  | .finalize, reservationId => .finalize reservationId
  | .refund, reservationId => .refund reservationId

theorem transaction_settle (settlement : Settlement) (reservationId : String) :
    transaction (settleOperation settlement reservationId) = settle settlement reservationId := by
  cases settlement <;> rfl

theorem observe_usage (settlement : Settlement) (reservationId : String) (usage : QuotaUsage) :
    observe (settleOperation settlement reservationId) (.ok (.usage usage)) = .done := by
  cases settlement <;> rfl

theorem Agrees.settle (agrees : Agrees store tables) {settlement : Settlement} {id : String}
    (sent : sendable id) {result : Memory.Store × Except QuotaError Answer}
    (settles : Settles store settlement id result) :
    AgreesAfter (settleOperation settlement id) result
      (perform tables (settleOperation settlement id)) := by
  have represents := agrees.represents.settle settles
  have ran := transaction_settle settlement id
  cases settles with
  | unknown missing =>
      rw [perform_error (settleOperation settlement id)
        (ran ▸ settle_unknown sent (agrees.missing.mpr missing) settlement)]
      exact ⟨agrees, rfl⟩
  | refused found other =>
      obtain ⟨usage, again⟩ := agrees.settle_again settlement sent found
        (by cases settlement <;> simp [other, Settlement.refusal])
      rw [if_pos other] at again
      rw [perform_error (settleOperation settlement id) (ran ▸ again)]
      exact ⟨agrees, rfl⟩
  | repeated found already =>
      obtain ⟨usage, again⟩ := agrees.settle_again settlement sent found
        (by cases settlement <;> simp [already, Settlement.status])
      rw [if_neg (by cases settlement <;> simp [already, Settlement.status, Settlement.refusal])]
        at again
      rw [perform_ok (settleOperation settlement id) (ran ▸ again)]
      exact ⟨agrees, by rw [observe_usage, observe_usage]⟩
  | settled found reserved counted written =>
      rename_i reservation old counters
      obtain ⟨record, stored, facts⟩ := agrees.record found
      obtain ⟨counter, present⟩ := agrees.counter stored
      have taken : record.status = .reserved := (congrArg Facts.status facts).trans reserved
      have key : record.key = reservation.key := congrArg Facts.key facts
      have member := (Table.find_some.mp found).1
      have place := (Table.find_some.mp present).2
      cases settlement with
      | finalize =>
          rw [settleOperation,
            perform_ok (.finalize id) (finalize_reserved sent stored taken present)]
          refine ⟨⟨represents, ?_, ?_, agrees.marked stored found facts _ _⟩, rfl⟩
          · intro index
            change usedAt tables.counters index = usedAt counters index
            rw [agrees.used, Memory.usedAt_of_find written]
            split
            · rename_i same
              rw [same, usedAt, counted]
              rfl
            · rfl
          · intro row inside
            obtain ⟨before, kept, same⟩ := markedTables_key inside
            exact same ▸ agrees.counted before kept
      | refund =>
          rw [settleOperation, perform_ok (.refund id) (refund_reserved sent stored taken present)]
          refine ⟨⟨represents, ?_, ?_, agrees.marked stored found facts _ _⟩, rfl⟩
          · intro index
            change usedAt (tables.counters.put (loweredCounter record.cost counter)) index =
              usedAt counters index
            rw [Memory.usedAt_put, Memory.usedAt_of_find written, agrees.used,
              agrees.refunded_used facts member reserved counted present]
            change (if index = counter.key then _ else _ : Int) = _
            rw [place, key]
          · intro row inside
            obtain ⟨before, kept, same⟩ := markedTables_key inside
            exact counted_put (same ▸ agrees.counted before kept)

theorem Agrees.getUsage (agrees : Agrees store tables) {query : QuotaUsageQuery}
    (sent : ∀ text ∈ [query.subjectId, query.resource, query.windowKey], sendable text) :
    AgreesAfter (.getUsage query) (Memory.getUsage store query)
      (perform tables (.getUsage query)) := by
  have represents := agrees.represents.getUsage query
  have answer : ∃ usage, (transaction (.getUsage query)).run tables = .ok (.usage usage, tables) ∧
      usage.used = usedAt tables.counters query.key := by
    unfold transaction Postgres.getUsage
    rw [run_bind_ok (sendTexts_run sent), run_get_bind]
    cases found : tables.counters.find query.key with
    | none => exact ⟨_, rfl, by rw [usedAt, found]; rfl⟩
    | some counter => exact ⟨_, rfl, by rw [usedAt, found]; rfl⟩
  obtain ⟨usage, ran, used⟩ := answer
  rw [perform_ok (.getUsage query) ran]
  unfold Memory.getUsage at represents ⊢
  cases found : store.counters.find query.key with
  | none =>
      refine ⟨agrees, ?_⟩
      have nothing : usage.used = 0 := by
        rw [used, agrees.used, usedAt, found]
        rfl
      exact congrArg Observation.used nothing.symm
  | some counter =>
      rw [found] at represents
      have place := (Table.find_some.mp found).2
      have shown : usage.used = counter.used := by
        rw [used, agrees.used, usedAt, found]
        rfl
      refine ⟨⟨represents, ?_, agrees.counted, agrees.reservations⟩,
        congrArg Observation.used shown.symm⟩
      intro key
      dsimp only
      rw [Memory.usedAt_put, agrees.used]
      change _ = if key = counter.key then counter.used else _
      split
      · rename_i same
        rw [same, place, usedAt, found]
        rfl
      · rfl

theorem Agrees.clear (agrees : Agrees store tables) (cleared : WindowKey → Bool) :
    Agrees (Memory.clear store cleared)
      { counters := tables.counters.erase fun counter => cleared counter.key
        reservations := tables.reservations.erase fun record => cleared record.key } := by
  refine ⟨agrees.represents.clear cleared, ?_, ?_, ?_⟩
  · intro key
    change usedAt (tables.counters.erase fun counter => cleared counter.key) key =
      usedAt (store.counters.erase fun counter => cleared counter.key) key
    rw [Memory.usedAt_erase, Memory.usedAt_erase, agrees.used]
  · intro record member
    obtain ⟨inside, kept⟩ := Table.mem_erase.mp member
    obtain ⟨counter, found⟩ := Option.ne_none_iff_exists'.mp (agrees.counted record inside)
    have place := (Table.find_some.mp found).2
    dsimp only
    rw [Memory.find_erase_kept found (by rw [place]; exact kept)]
    simp
  · intro id
    change ((tables.reservations.table.erase fun record => cleared record.key).find id).map
        Record.facts =
      ((store.reservations.erase fun reservation => cleared reservation.key).find id).map
        reservationFacts
    rw [Table.find_erase, Table.find_erase]
    cases found : store.reservations.find id with
    | none =>
        have missing : tables.reservations.table.find id = none := agrees.missing.mpr found
        rw [missing]
        rfl
    | some reservation =>
        obtain ⟨record, stored, facts⟩ := agrees.record found
        have here : tables.reservations.table.find id = some record := stored
        have key : record.key = reservation.key := congrArg Facts.key facts
        rw [here]
        cases gone : cleared reservation.key <;> simp [Option.filter, key, gone, facts]

theorem Agrees.perform (agrees : Agrees store tables) {operation : Operation}
    (fresh : ∀ id, operation.drawnId = some id → store.reservations.find id = none)
    (storable : Storable store operation) :
    AgreesAfter operation (Memory.perform store operation) (perform tables operation) := by
  rw [agrees.represents.perform_eq]
  cases operation with
  | reserve command =>
      exact agrees.reserve (fresh _ rfl) storable (agrees.represents.reserves command)
  | finalize id => exact agrees.settle storable (agrees.represents.settles_finalize id)
  | refund id => exact agrees.settle storable (agrees.represents.settles_refund id)
  | getUsage query => exact agrees.getUsage storable
  | resetUsage query =>
      have ran : (transaction (.resetUsage query)).run tables = .ok (.usage (usageFromQuery query),
          { counters := tables.counters.erase fun counter =>
              (Operation.resetUsage query).clears counter.key
            reservations := tables.reservations.erase fun record =>
              (Operation.resetUsage query).clears record.key }) := by
        change (Postgres.resetUsage query).run tables = _
        unfold Postgres.resetUsage
        rw [run_bind_ok (sendTexts_run storable)]
        rfl
      rw [perform_ok _ ran]
      exact ⟨agrees.clear _, rfl⟩
  | resetResource resource =>
      have ran : (transaction (.resetResource resource)).run tables = .ok (.done,
          { counters := tables.counters.erase fun counter =>
              (Operation.resetResource resource).clears counter.key
            reservations := tables.reservations.erase fun record =>
              (Operation.resetResource resource).clears record.key }) := by
        change (Postgres.resetResource resource).run tables = _
        unfold Postgres.resetResource
        have sent : sendable resource := storable
        rw [run_bind_ok (sendTexts_run (by simpa using sent))]
        rfl
      rw [perform_ok _ ran]
      exact ⟨agrees.clear _, rfl⟩

end Calls

section Runs

/-- The same calls on both stores. -/
structure Twin where
  memory : Session
  postgres : Tables

def Twin.init : Twin := ⟨.init, .init⟩

def step (twin : Twin) (operation : Operation) : Option Twin :=
  (Memory.step twin.memory operation).map fun memory =>
    { memory := memory
      postgres := (perform twin.postgres operation).1 }

/-- The two stores show a caller the same answer. -/
def SameAnswer (twin : Twin) (operation : Operation) : Prop :=
  observe operation (Memory.perform twin.memory.store operation).2 =
    observe operation (perform twin.postgres operation).2

instance (twin : Twin) (operation : Operation) : Decidable (SameAnswer twin operation) :=
  inferInstanceAs (Decidable (_ = _))

theorem Agrees.init : Agrees .init .init :=
  ⟨.init, fun _ => rfl, fun _ member => absurd member List.not_mem_nil, fun _ => rfl⟩

theorem step_agrees {twin next : Twin} {operation : Operation}
    (sound : Memory.Sound twin.memory) (agrees : Agrees twin.memory.store twin.postgres)
    (storable : Storable twin.memory.store operation) (stepped : step twin operation = some next) :
    Memory.Sound next.memory ∧ Agrees next.memory.store next.postgres ∧
      SameAnswer twin operation := by
  obtain ⟨memory, moved, rfl⟩ := Option.map_eq_some_iff.mp stepped
  obtain ⟨fresh, stored, -⟩ := Memory.step_some moved
  have after := agrees.perform (fun id drew => sound.fresh (fresh id drew)) storable
  refine ⟨sound.step moved, ?_, after.2⟩
  rw [stored]
  exact after.1

/-- On every list of calls whose values fit their columns the two stores answer alike. -/
theorem stores_agree {operations : List Operation} {twin : Twin}
    (reached : run step .init operations = some twin)
    (storable : Meets step (fun twin operation => Storable twin.memory.store operation) .init
      operations) :
    Meets step SameAnswer .init operations := by
  have kept : ∀ before operation after,
      Memory.Sound before.memory ∧ Agrees before.memory.store before.postgres →
      Storable before.memory.store operation → step before operation = some after →
      Memory.Sound after.memory ∧ Agrees after.memory.store after.postgres := by
    rintro before operation after ⟨sound, agrees⟩ fits stepped
    have moved := step_agrees sound agrees fits stepped
    exact ⟨moved.1, moved.2.1⟩
  have answered : ∀ before operation after,
      Memory.Sound before.memory ∧ Agrees before.memory.store before.postgres →
      Storable before.memory.store operation → step before operation = some after →
      SameAnswer before operation := by
    rintro before operation after ⟨sound, agrees⟩ fits stepped
    exact (step_agrees sound agrees fits stepped).2.2
  have start : Memory.Sound Twin.init.memory ∧
      Agrees Twin.init.memory.store Twin.init.postgres :=
    ⟨⟨.init, fun _ member => absurd member List.not_mem_nil⟩, .init⟩
  exact Meets.of_invariant kept answered start storable reached

instance (command : ReserveQuota) : Decidable (Fits command) :=
  decidable_of_iff
    ((∀ text ∈ command.reservationId :: command.subjectId :: command.resource ::
        command.windowKey :: command.idempotencyKey.toList, sendable text) ∧
      command.reservationId.toList.length ≤ 36 ∧ command.subjectId.toList.length ≤ 255 ∧
      command.resource.toList.length ≤ 255 ∧ command.windowKey.toList.length ≤ 64 ∧
      (∀ idempotencyKey ∈ command.idempotencyKey, idempotencyKey.toList.length ≤ 255) ∧
      fitsInteger command.cost ∧ fitsInteger command.limit)
    ⟨fun ⟨texts, id, subject, resource, window, idempotency, cost, limit⟩ =>
        ⟨texts, id, subject, resource, window, idempotency, cost, limit⟩,
      fun fits => ⟨fits.texts, fits.id, fits.subjectId, fits.resource, fits.windowKey,
        fits.idempotencyKey, fits.cost, fits.limit⟩⟩

instance (store : Memory.Store) (operation : Operation) : Decidable (Storable store operation) :=
  match operation with
  | .reserve _ => inferInstanceAs (Decidable (_ ∧ _))
  | .finalize reservationId => inferInstanceAs (Decidable (sendable reservationId))
  | .refund reservationId => inferInstanceAs (Decidable (sendable reservationId))
  | .getUsage query => inferInstanceAs (Decidable
      (∀ text ∈ [query.subjectId, query.resource, query.windowKey], sendable text))
  | .resetUsage query => inferInstanceAs (Decidable
      (∀ text ∈ [query.subjectId, query.resource], sendable text))
  | .resetResource resource => inferInstanceAs (Decidable (sendable resource))

/-- A replay, a rejection, both settlements and a reset. -/
def mixedCalls : List Operation :=
  [.reserve firstReserve, .reserve { firstReserve with reservationId := "b" },
    .reserve { firstReserve with reservationId := "c", idempotencyKey := none },
    .finalize "a", .refund "a", .getUsage ⟨"s", "r", "w", 5, 60⟩, .resetResource "r",
    .refund "a"]

theorem mixedCalls_accepted : (run step .init mixedCalls).isSome = true := by decide +kernel

theorem stores_agree_mixed :
    Meets step (fun twin operation => Storable twin.memory.store operation) .init mixedCalls ∧
      Meets step SameAnswer .init mixedCalls := by
  have storable : Meets step (fun twin operation => Storable twin.memory.store operation) .init
      mixedCalls := by decide +kernel
  exact ⟨storable, stores_agree (Option.some_get mixedCalls_accepted).symm storable⟩

/-- A cost past the range of its column. -/
def largeReserve : ReserveQuota :=
  { firstReserve with
    limit := 2 ^ 31
    cost := 2 ^ 31
    limitPositive := by decide
    costPositive := by decide }

theorem largeReserve_accepted : (run step .init [.reserve largeReserve]).isSome = true := by
  decide +kernel

/-- The dictionaries take the large cost and the table refuses it. -/
theorem large_cost_differs :
    ¬ ∀ operations twin, run step .init operations = some twin →
      Meets step SameAnswer .init operations := by
  intro agree
  have same := agree _ _ (Option.some_get largeReserve_accepted).symm
  have apart : ¬ Meets step SameAnswer .init [.reserve largeReserve] := by decide +kernel
  exact apart same

end Runs

end AiPlatform.Quota.Postgres

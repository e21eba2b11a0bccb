import AiPlatform.Quota.MemoryInvariant
import AiPlatform.Quota.PostgresStore

set_option autoImplicit false

/- The calls of `PostgresQuotaStore` one at a time: what each statement and each transaction does
to the tables when its values fit their columns. -/
namespace AiPlatform.Quota.Postgres

open Columns
open Memory (usedAt currentCounter chargedCounter)

variable {tables : Tables} {command : ReserveQuota}

/-- The texts of a command and what its columns hold. -/
structure Fits (command : ReserveQuota) : Prop where
  texts : ∀ text ∈ command.reservationId :: command.subjectId :: command.resource ::
    command.windowKey :: command.idempotencyKey.toList, sendable text
  id : command.reservationId.toList.length ≤ 36
  subjectId : command.subjectId.toList.length ≤ 255
  resource : command.resource.toList.length ≤ 255
  windowKey : command.windowKey.toList.length ≤ 64
  idempotencyKey : ∀ idempotencyKey ∈ command.idempotencyKey, idempotencyKey.toList.length ≤ 255
  cost : fitsInteger command.cost
  limit : fitsInteger command.limit

theorem sendTexts_run {texts : List String} (sent : ∀ text ∈ texts, sendable text) :
    (sendTexts texts).run tables = .ok ((), tables) := by
  unfold sendTexts
  rw [if_pos sent]
  rfl

theorem requireInteger_run {value : Int} (fits : fitsInteger value) :
    (requireInteger value).run tables = .ok ((), tables) := by
  unfold requireInteger
  rw [if_pos fits]
  rfl

theorem varchar_run {width : Nat} {text : String} (fits : text.toList.length ≤ width) :
    (varchar width text).run tables = .ok (text, tables) := by
  unfold varchar
  rw [storedText_fits fits]
  rfl

/-- A statement that succeeds hands its value and tables to the rest of the transaction. -/
theorem run_bind_ok {First Value : Type} {first : Transaction First}
    {rest : First → Transaction Value} {before after : Tables} {value : First}
    (ran : first.run before = .ok (value, after)) :
    (first >>= rest).run before = (rest value).run after := by
  rw [StateT.run_bind, ran]
  rfl

theorem run_get_bind {Value : Type} (rest : Tables → Transaction Value) (tables : Tables) :
    (get >>= rest).run tables = (rest tables).run tables := rfl

section Sent

variable (texts : ∀ text ∈ command.reservationId :: command.subjectId :: command.resource ::
  command.windowKey :: command.idempotencyKey.toList, sendable text)

include texts

theorem window_sendable :
    ∀ text ∈ [command.subjectId, command.resource, command.windowKey], sendable text := by
  intro text member
  apply texts
  simp only [List.mem_cons, List.not_mem_nil, or_false] at member ⊢
  tauto

theorem findIdempotentReservation_run :
    (findIdempotentReservation command).run tables =
      .ok (command.idempotencyKey.bind fun key => tables.reservations.findBy (command.key, key),
        tables) := by
  unfold findIdempotentReservation
  cases keyed : command.idempotencyKey with
  | none => rfl
  | some idempotencyKey =>
      have sent : ∀ text ∈ [command.subjectId, command.resource, command.windowKey,
          idempotencyKey], sendable text := by
        intro text member
        apply texts
        simp only [List.mem_cons, List.not_mem_nil, or_false, keyed, Option.toList_some] at member ⊢
        tauto
      dsimp only
      rw [run_bind_ok (sendTexts_run sent)]
      rfl

/-- The increment raises when the sum leaves the range of its type. -/
theorem tryIncrementCounter_run (tables : Tables) (cost : fitsInteger command.cost)
    (limit : fitsInteger command.limit) :
    (tryIncrementCounter command).run tables =
      match tables.counters.find command.key with
      | none => .ok (none, tables)
      | some counter =>
          if fitsInteger (counter.used + command.cost) then
            if counter.used + command.cost ≤ command.limit then
              .ok (some (usageFromCounter (chargedCounter command counter)),
                { tables with counters := tables.counters.put (chargedCounter command counter) })
            else .ok (none, tables)
          else .error .dataError := by
  unfold tryIncrementCounter
  rw [run_bind_ok (sendTexts_run (window_sendable texts)), run_bind_ok (requireInteger_run cost),
    run_bind_ok (requireInteger_run limit), run_get_bind]
  cases tables.counters.find command.key with
  | none => rfl
  | some counter =>
      dsimp only
      by_cases fits : fitsInteger (counter.used + command.cost)
      · rw [run_bind_ok (requireInteger_run fits), if_pos fits]
        split <;> rfl
      · unfold requireInteger
        rw [if_neg fits, if_neg fits]
        rfl

end Sent

/-- The counter `_ensure_counter` leaves in the command's window. -/
def refreshedCounter (counters : Table Counter.key) (command : ReserveQuota) : Counter :=
  { currentCounter counters command with limit := command.limit, resetAt := command.resetAt }

theorem upsertCounter_fresh (counters : Table Counter.key) (command : ReserveQuota) :
    upsertCounter counters command.freshCounter =
      counters.put (refreshedCounter counters command) := by
  unfold upsertCounter refreshedCounter currentCounter
  rw [ReserveQuota.freshCounter_key]
  cases counters.find command.key <;> rfl

theorem ensureCounter_run (fits : Fits command) :
    (ensureCounter command).run tables = .ok ((), { tables with
      counters := tables.counters.put (refreshedCounter tables.counters command) }) := by
  unfold ensureCounter
  rw [run_bind_ok (sendTexts_run (window_sendable fits.texts)),
    run_bind_ok (requireInteger_run fits.limit),
    run_bind_ok (varchar_run fits.subjectId), run_bind_ok (varchar_run fits.resource),
    run_bind_ok (varchar_run fits.windowKey), ← upsertCounter_fresh]
  rfl

theorem mapM_varchar_run {width : Nat} {text : Option String}
    (fits : ∀ value ∈ text, value.toList.length ≤ width) :
    (text.mapM (varchar width)).run tables = .ok (text, tables) := by
  cases text with
  | none => rfl
  | some value =>
      simp only [Option.mapM_some]
      change (varchar width value >>= fun stored => pure (some stored)).run tables = _
      rw [run_bind_ok (varchar_run (fits value rfl))]
      rfl

theorem insertReservation_run (fits : Fits command) :
    (insertReservation command).run tables =
      match tables.reservations.insert (newRecord command) with
      | none => .ok (false, tables)
      | some reservations => .ok (true, { tables with reservations := reservations }) := by
  unfold insertReservation
  rw [run_bind_ok (sendTexts_run fits.texts), run_bind_ok (requireInteger_run fits.cost),
    run_bind_ok (varchar_run fits.id), run_bind_ok (varchar_run fits.subjectId),
    run_bind_ok (varchar_run fits.resource), run_bind_ok (varchar_run fits.windowKey),
    run_bind_ok (mapM_varchar_run fits.idempotencyKey)]
  change (match tables.reservations.insert (newRecord command) with
    | none => (pure false : Transaction Bool)
    | some reservations => do
        set { tables with reservations := reservations }
        return true).run tables = _
  split <;> rfl

theorem deleteReservation_run {reservationId : String} (sent : sendable reservationId) :
    (deleteReservation reservationId).run tables = .ok ((), { tables with
      reservations := tables.reservations.remove reservationId }) := by
  unfold deleteReservation
  rw [run_bind_ok (sendTexts_run (by simpa using sent))]
  rfl

theorem usageForReservation_run {record : Record} {counter : Counter}
    (found : tables.counters.find record.key = some counter) :
    (usageForReservation record).run tables = .ok (usageFromCounter counter, tables) := by
  unfold usageForReservation
  rw [run_get_bind, found]
  rfl

theorem toReservation_run {record : Record} {counter : Counter}
    (found : tables.counters.find record.key = some counter) :
    (toReservation record).run tables = .ok (
      { id := record.id
        subjectId := record.subjectId
        resource := record.resource
        windowKey := record.windowKey
        cost := record.cost
        status := record.status
        usage := usageFromCounter counter
        idempotencyKey := record.idempotencyKey }, tables) := by
  unfold toReservation
  rw [run_bind_ok (usageForReservation_run found)]
  rfl

/-- The reservation as a replay returns it. -/
theorem reserve_replayed (fits : Fits command) {record : Record} {counter : Counter}
    (found : (command.idempotencyKey.bind fun key =>
      tables.reservations.findBy (command.key, key)) = some record)
    (counted : tables.counters.find record.key = some counter) :
    (reserve command).run tables = .ok (.reservation
      { id := record.id
        subjectId := record.subjectId
        resource := record.resource
        windowKey := record.windowKey
        cost := record.cost
        status := record.status
        usage := usageFromCounter counter
        idempotencyKey := record.idempotencyKey }, tables) := by
  unfold reserve
  rw [run_bind_ok (findIdempotentReservation_run fits.texts), found]
  dsimp only
  rw [run_bind_ok (toReservation_run counted)]
  rfl

/-- The tables as a first `reserve` leaves them before it looks at the limit. -/
def claimedTables (tables : Tables) (command : ReserveQuota)
    (reservations : Indexed Record.id Record.index) : Tables where
  counters := tables.counters.put (refreshedCounter tables.counters command)
  reservations := reservations

theorem claimedTables_find (tables : Tables) (command : ReserveQuota)
    (reservations : Indexed Record.id Record.index) :
    (claimedTables tables command reservations).counters.find command.key =
      some (refreshedCounter tables.counters command) := by
  have place : (refreshedCounter tables.counters command).key = command.key :=
    Memory.currentCounter_key tables.counters command
  rw [claimedTables, Table.find_put, place, if_pos rfl]

theorem reserve_claimed (fits : Fits command)
    (unused : (command.idempotencyKey.bind fun key =>
      tables.reservations.findBy (command.key, key)) = none)
    {reservations : Indexed Record.id Record.index}
    (inserted : tables.reservations.insert (newRecord command) = some reservations)
    (bounded : fitsInteger (usedAt tables.counters command.key + command.cost)) :
    (reserve command).run tables =
      let charged := chargedCounter command (refreshedCounter tables.counters command)
      if usedAt tables.counters command.key + command.cost ≤ command.limit then
        .ok (.reservation (command.reservation (usageFromCounter charged)),
          { counters := (claimedTables tables command reservations).counters.put charged
            reservations := reservations })
      else .ok (.rejected,
        claimedTables tables command (reservations.remove command.reservationId)) := by
  have used : (refreshedCounter tables.counters command).used =
      usedAt tables.counters command.key := Memory.currentCounter_used tables.counters command
  have increment := tryIncrementCounter_run fits.texts
    (claimedTables tables command reservations) fits.cost fits.limit
  rw [claimedTables_find tables command reservations] at increment
  dsimp only at increment
  rw [used, if_pos bounded] at increment
  have insertion : (insertReservation command).run
      { tables with counters := tables.counters.put (refreshedCounter tables.counters command) } =
        .ok (true, claimedTables tables command reservations) := by
    rw [insertReservation_run fits, inserted]
    rfl
  unfold reserve
  rw [run_bind_ok (findIdempotentReservation_run fits.texts), unused]
  dsimp only
  rw [run_bind_ok (ensureCounter_run fits), run_bind_ok insertion, if_pos rfl]
  split
  · rename_i room
    rw [if_pos room] at increment
    rw [run_bind_ok increment]
    rfl
  · rename_i full
    rw [if_neg full] at increment
    rw [run_bind_ok increment]
    dsimp only
    rw [run_bind_ok (deleteReservation_run (fits.texts _ List.mem_cons_self))]
    rfl

def settle : Settlement → String → Transaction Answer
  | .finalize, reservationId => finalize reservationId
  | .refund, reservationId => refund reservationId

/-- The tables after the reservation under an id has taken a status. -/
def markedTables (tables : Tables) (reservationId : String) (status : QuotaReservationStatus) :
    Tables :=
  { tables with
    reservations := tables.reservations.modify reservationId (setStatus status)
      (setStatus_id status) (setStatus_index status) }

theorem claimReserved_run {reservationId : String} (sent : sendable reservationId)
    (status : QuotaReservationStatus) :
    (claimReserved reservationId status).run tables =
      match tables.reservations.find reservationId with
      | none => .ok (none, tables)
      | some record =>
          if record.status = .reserved then
            .ok (some (setStatus status record), markedTables tables reservationId status)
          else .ok (none, tables) := by
  unfold claimReserved
  rw [run_bind_ok (sendTexts_run (by simpa using sent)), run_get_bind]
  cases tables.reservations.find reservationId with
  | none => rfl
  | some record =>
      dsimp only
      split <;> rfl

theorem requireReservation_run {reservationId : String} {record : Record}
    (found : tables.reservations.find reservationId = some record) :
    (requireReservation reservationId).run tables = .ok (record, tables) := by
  unfold requireReservation
  rw [run_get_bind, found]
  rfl

/-- A settlement that claims nothing reads the reservation instead. -/
theorem settle_unclaimed {reservationId : String} (sent : sendable reservationId)
    (unclaimed : ∀ record, tables.reservations.find reservationId = some record →
      record.status ≠ .reserved) (settlement : Settlement) :
    (settle settlement reservationId).run tables =
      (settledUsage settlement reservationId).run tables := by
  have none_claimed : ∀ status, (claimReserved reservationId status).run tables =
      .ok (none, tables) := by
    intro status
    rw [claimReserved_run sent]
    split
    · rfl
    · rename_i record found
      rw [if_neg (unclaimed record found)]
  cases settlement with
  | finalize =>
      change (finalize reservationId).run tables = _
      unfold finalize
      rw [run_bind_ok (none_claimed _)]
  | refund =>
      change (refund reservationId).run tables = _
      unfold refund
      rw [run_bind_ok (none_claimed _)]

theorem settle_unknown {reservationId : String} (sent : sendable reservationId)
    (missing : tables.reservations.find reservationId = none) (settlement : Settlement) :
    (settle settlement reservationId).run tables = .error (.keyError reservationId) := by
  have raised : (requireReservation reservationId).run tables =
      .error (.keyError reservationId) := by
    unfold requireReservation
    rw [run_get_bind, missing]
    rfl
  rw [settle_unclaimed sent (by simp [missing])]
  unfold settledUsage
  rw [StateT.run_bind, raised]
  rfl

/-- A settled reservation is refused by the other settlement and read by the same one. -/
theorem settle_again {reservationId : String} (sent : sendable reservationId) {record : Record}
    {counter : Counter} (found : tables.reservations.find reservationId = some record)
    (settled : record.status ≠ .reserved)
    (counted : tables.counters.find record.key = some counter) (settlement : Settlement) :
    (settle settlement reservationId).run tables =
      if record.status = settlement.refusal.1 then .error settlement.refusal.2
      else .ok (.usage (usageFromCounter counter), tables) := by
  have unclaimed : ∀ other, tables.reservations.find reservationId = some other →
      other.status ≠ .reserved := by
    intro other stored
    rw [found] at stored
    obtain rfl := Option.some.inj stored
    exact settled
  rw [settle_unclaimed sent unclaimed]
  unfold settledUsage
  rw [run_bind_ok (requireReservation_run found)]
  split
  · rfl
  · rw [run_bind_ok (usageForReservation_run counted)]
    rfl

theorem finalize_reserved {reservationId : String} (sent : sendable reservationId)
    {record : Record} {counter : Counter}
    (found : tables.reservations.find reservationId = some record)
    (reserved : record.status = .reserved)
    (counted : tables.counters.find record.key = some counter) :
    (finalize reservationId).run tables =
      .ok (.usage (usageFromCounter counter), markedTables tables reservationId .finalized) := by
  unfold finalize
  have claimed : (claimReserved reservationId .finalized).run tables =
      .ok (some (setStatus .finalized record), markedTables tables reservationId .finalized) := by
    rw [claimReserved_run sent, found]
    dsimp only
    rw [if_pos reserved]
  have kept : (markedTables tables reservationId .finalized).counters.find
      (setStatus .finalized record).key = some counter := counted
  rw [run_bind_ok claimed]
  dsimp only
  rw [run_bind_ok (usageForReservation_run kept)]
  rfl

def loweredCounter (cost : Int) (counter : Counter) : Counter :=
  { counter with used := if cost ≤ counter.used then counter.used - cost else 0 }

theorem refund_reserved {reservationId : String} (sent : sendable reservationId)
    {record : Record} {counter : Counter}
    (found : tables.reservations.find reservationId = some record)
    (reserved : record.status = .reserved)
    (counted : tables.counters.find record.key = some counter) :
    (refund reservationId).run tables =
      .ok (.usage (usageFromCounter (loweredCounter record.cost counter)),
        { markedTables tables reservationId .refunded with
          counters := tables.counters.put (loweredCounter record.cost counter) }) := by
  unfold refund
  have claimed : (claimReserved reservationId .refunded).run tables =
      .ok (some (setStatus .refunded record), markedTables tables reservationId .refunded) := by
    rw [claimReserved_run sent, found]
    dsimp only
    rw [if_pos reserved]
  have lowered : (lowerCounter (setStatus .refunded record)).run
      (markedTables tables reservationId .refunded) =
        .ok (usageFromCounter (loweredCounter record.cost counter),
          { markedTables tables reservationId .refunded with
            counters := tables.counters.put (loweredCounter record.cost counter) }) := by
    have stored : (markedTables tables reservationId .refunded).counters.find
        (setStatus .refunded record).key = some counter := counted
    unfold lowerCounter
    rw [run_get_bind, stored]
    rfl
  rw [run_bind_ok claimed]
  dsimp only
  rw [run_bind_ok lowered]
  rfl

end AiPlatform.Quota.Postgres

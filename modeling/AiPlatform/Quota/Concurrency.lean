import AiPlatform.Quota.ResetSafety

set_option autoImplicit false

/- Interleaved `reserve`, `finalize` and `refund` transactions without resets: one reservation for
each idempotency key, one settlement for each reservation, no counter past its limit. -/
namespace AiPlatform.Quota.Statements

open Columns Machine
open Postgres (Record newRecord setStatus)

/-- No text of the command is cut to the width of its column: it fits, or is refused. -/
def Uncut (command : ReserveQuota) : Prop :=
  (∀ stored ∈ storedText 255 command.subjectId, stored = command.subjectId) ∧
    (∀ stored ∈ storedText 255 command.resource, stored = command.resource) ∧
    (∀ stored ∈ storedText 64 command.windowKey, stored = command.windowKey) ∧
    ∀ idempotencyKey ∈ command.idempotencyKey,
      ∀ stored ∈ storedText 255 idempotencyKey, stored = idempotencyKey

instance (command : ReserveQuota) : Decidable (Uncut command) :=
  inferInstanceAs (Decidable (_ ∧ _ ∧ _ ∧ _))

def UncutCall : Action → Prop
  | .call _ (.reserve command) => Uncut command
  | _ => True

/-- What the index `uq_quota_reservations_idempotency` sees of the command. -/
def commandIndex (command : ReserveQuota) : Option (WindowKey × String) :=
  command.idempotencyKey.map fun idempotencyKey => (command.key, idempotencyKey)

theorem newRecord_index (command : ReserveQuota) :
    (newRecord command).index = commandIndex command := rfl

theorem column_uncut {width : Nat} {text stored : String}
    (uncut : ∀ stored ∈ storedText width text, stored = text)
    (sent : column width text = .ok stored) : stored = text := by
  unfold column at sent
  split at sent
  · rename_i kept found
    cases sent
    exact uncut _ found
  · cases sent

theorem storedKey_uncut {command : ReserveQuota} {key : WindowKey} (uncut : Uncut command)
    (sent : storedKey command = .ok key) : key = command.key := by
  have ⟨cutSubject, cutResource, cutWindow, _⟩ := uncut
  unfold storedKey at sent
  have ⟨subjectId, subject, sent⟩ := bind_ok.mp sent
  have ⟨resource, stored, sent⟩ := bind_ok.mp sent
  have ⟨windowKey, window, sent⟩ := bind_ok.mp sent
  cases sent
  rw [column_uncut cutSubject subject, column_uncut cutResource stored,
    column_uncut cutWindow window]
  rfl

theorem idempotencyKey_uncut {command : ReserveQuota} {kept : Option String}
    (uncut : Uncut command) (sent : command.idempotencyKey.mapM (column 255) = .ok kept) :
    kept = command.idempotencyKey := by
  have ⟨_, _, _, cutKey⟩ := uncut
  cases key : command.idempotencyKey with
  | none =>
      rw [key] at sent
      cases sent
      rfl
  | some text =>
      rw [key, Option.mapM_some] at sent
      have ⟨stored, sentKey, same⟩ := bind_ok.mp sent
      cases same
      rw [column_uncut (cutKey text key) sentKey]

/-- The row that is inserted is the command's own. -/
theorem recordValues_uncut {command : ReserveQuota} {record : Record} (uncut : Uncut command)
    (short : command.reservationId.toList.length ≤ 36)
    (sent : recordValues command = .ok record) : record = newRecord command := by
  have ⟨stored, keyed, own⟩ := recordValues_ok short sent
  have ⟨subject, rest⟩ := Prod.mk.inj (storedKey_uncut uncut stored)
  have ⟨resource, window⟩ := Prod.mk.inj rest
  rw [own, subject, resource, window, idempotencyKey_uncut uncut keyed]
  rfl

/-- The reservation that holds the command's key is committed under this id. -/
def Winner (db : Database) (command : ReserveQuota) (id : String) : Prop :=
  ∃ row ∈ db.reservations.rows, row.id = id ∧ row.index = commandIndex command

/-- The row a call has written: its own, whose id and key are free, or a committed reservation in
the status it is being settled to. -/
inductive Pending (db : Database) : Operation → Record → Prop
  | own {command : ReserveQuota}
      (fresh : db.reservations.find command.reservationId = none)
      (free : ∀ row ∈ db.reservations.rows, row.index = commandIndex command →
        commandIndex command = none) : Pending db (.reserve command) (newRecord command)
  | claim {operation : Operation} {settlement : Settlement} {old : Record}
      (settles : settlementOf operation = some settlement)
      (found : db.reservations.find old.id = some old) (reserved : old.status = .reserved) :
      Pending db operation (setStatus settlement.status old)

/-- What a `reserve` has in hand or has returned is the reservation with its key. -/
def Replays (db : Database) (call : Call) : Prop :=
  ∀ command, call.operation = .reserve command →
    match call.pc with
    | .existing record => Winner db command record.id
    | .refind => command.idempotencyKey ≠ none ∧ ∃ id, Winner db command id
    | .commit (.reservation reservation) => Winner db command reservation.id ∨
        call.writes.reservation = some (newRecord command) ∧
          reservation.id = command.reservationId
    | .returned (.reservation reservation) => Winner db command reservation.id
    | _ => True

/-- The row has used no more than some command of its window allows. -/
def Bounded (calls : Table Call.id) (row : CounterRow) : Prop :=
  ∃ call ∈ calls.rows, ∃ command, call.operation = .reserve command ∧
    command.key = row.key ∧ row.used ≤ command.limit

/-- What one statement adds to a call. -/
structure Gain (state : State) (call : Call) (pc : Pc) (writes : Writes) : Prop where
  pending : ∀ record, writes.reservation = some record → Pending state.db call.operation record
  replays : Replays state.db { call with pc := pc, writes := writes }
  bounded : ∀ row, writes.counter = some row → Bounded state.calls row

variable {state next : State} {call : Call} {pc : Pc} {writes : Writes}

theorem gain_raised (state : State) (call : Call) (error : QuotaError) :
    Gain state call (.raised error) {} where
  pending record put := by cases put
  replays _ _ := trivial
  bounded row put := by cases put

theorem Gain.kept (had : Gain state call call.pc call.writes)
    (replays : Replays state.db { call with pc := pc, writes := call.writes }) :
    Gain state call pc call.writes :=
  ⟨had.pending, replays, had.bounded⟩

theorem gain_attempt {Value : Type} {outcome : Except QuotaError Value}
    {rest : Value → Option (Pc × Writes)}
    (done : State.attempt outcome rest = some (pc, writes))
    (onward : ∀ value, outcome = .ok value → rest value = some (pc, writes) →
      Gain state call pc writes) : Gain state call pc writes := by
  rcases attempt_some done with ⟨error, _, raised, nothing⟩ | ⟨value, sent, went⟩
  · rw [raised, nothing]
    exact gain_raised state call error
  · exact onward value sent went

theorem findIdempotent_winner {db : Database} {command : ReserveQuota} {record : Record}
    (found : findIdempotent db command = .ok (some record)) : Winner db command record.id := by
  have ⟨member, idempotencyKey, keyed, same⟩ := findIdempotent_some found
  refine ⟨record, member, rfl, ?_⟩
  rw [same, commandIndex, keyed]
  rfl

/-- A key that has a winner is found. -/
theorem findIdempotent_finds {db : Database} {command : ReserveQuota} {id : String}
    (winner : Winner db command id) (keyed : command.idempotencyKey ≠ none) :
    findIdempotent db command ≠ .ok none := by
  intro missing
  have ⟨row, member, _, same⟩ := winner
  unfold findIdempotent at missing
  split at missing
  · rename_i unkeyed
    exact keyed unkeyed
  · rename_i idempotencyKey named
    have ⟨_, _, sent⟩ := bind_ok.mp missing
    have absent := List.find?_eq_none.mp (Except.ok.inj sent) row member
    rw [commandIndex, named] at same
    simp [same] at absent

theorem gain_existing {command : ReserveQuota} {record : Record}
    (operation : call.operation = .reserve command) (had : Gain state call call.pc call.writes)
    (found : findIdempotent state.db command = .ok (some record)) :
    Gain state call (.existing record) call.writes := by
  apply had.kept
  intro other same
  cases operation.symm.trans same
  exact findIdempotent_winner found

/-- The upserted counter has used what the committed one has, or nothing. -/
theorem gain_ensure {command : ReserveQuota} {fresh : CounterRow}
    (operation : call.operation = .reserve command) (member : call ∈ state.calls.rows)
    (had : Gain state call call.pc call.writes)
    (bounded : ∀ row ∈ state.db.counters.rows, Bounded state.calls row)
    (window : fresh.key = command.key) (unused : fresh.used = 0) :
    Gain state call .insert
      { call.writes with counter := some (upserted state.db fresh) } := by
  refine ⟨had.pending, fun _ _ => trivial, ?_⟩
  intro row put
  obtain rfl := Option.some.inj put
  unfold upserted
  split
  · refine ⟨call, member, command, operation, window.symm, ?_⟩
    rw [unused]
    exact Int.le_of_lt command.limitPositive
  · rename_i row found
    exact bounded row (Table.find_some.mp found).1

theorem gain_insert {command : ReserveQuota}
    (operation : call.operation = .reserve command) (had : Gain state call call.pc call.writes)
    (clear : ¬ state.db.reservations.rows.any (clash (newRecord command)) = true) :
    Gain state call .increment
      { call.writes with reservation := some (newRecord command) } := by
  refine ⟨?_, fun _ _ => trivial, had.bounded⟩
  intro record put
  obtain rfl := Option.some.inj put
  rw [operation]
  apply Pending.own (insert_fresh clear)
  intro row member same
  by_contra named
  apply clear
  apply List.any_eq_true.mpr
  refine ⟨row, member, ?_⟩
  simp [clash, newRecord_index, same, named]

/-- A refused insert has met the winner of its key: its id is in no other row. -/
theorem gain_refind {command : ReserveQuota} (operation : call.operation = .reserve command)
    (had : Gain state call call.pc call.writes)
    (unused : state.db.reservations.find command.reservationId = none)
    (met : state.db.reservations.rows.any (clash (newRecord command)) = true) :
    Gain state call .refind call.writes := by
  apply had.kept
  intro other same
  cases operation.symm.trans same
  have ⟨row, member, clashes⟩ := List.any_eq_true.mp met
  rw [clash, Bool.or_eq_true] at clashes
  rcases clashes with drawn | taken
  · have same : command.reservationId = row.id := of_decide_eq_true drawn
    exact absurd same.symm (Table.find_none.mp unused row member)
  · rw [Bool.and_eq_true] at taken
    have named : (newRecord command).index ≠ none := of_decide_eq_true taken.1
    have matched : (newRecord command).index = row.index := of_decide_eq_true taken.2
    refine ⟨?_, row.id, row, member, rfl, matched.symm⟩
    intro unkeyed
    rw [newRecord_index, commandIndex, unkeyed] at named
    exact named rfl

/-- The reservation a `reserve` has written is its own. -/
theorem Pending.newRecord {db : Database} {command : ReserveQuota} {record : Record}
    (pending : Pending db (.reserve command) record) : record = Postgres.newRecord command := by
  cases pending with
  | own fresh free => rfl
  | claim settles found reserved => cases settles

theorem Inserted.reservation {db : Database} {operation : Operation}
    (inserted : Inserted db operation writes) : ∃ record, writes.reservation = some record := by
  cases inserted with
  | intro => exact ⟨_, rfl⟩

theorem Claimed.positive {db : Database} {operation : Operation} {record : Record}
    (balanced : Balanced db) (claimed : Claimed db operation record writes) : 0 < record.cost := by
  cases claimed with
  | @intro settlement old settles found reserved =>
      exact balanced.positive old (Table.find_some.mp found).1

theorem gain_charge {command : ReserveQuota} {charged : CounterRow} {usage : QuotaUsage}
    (operation : call.operation = .reserve command) (member : call ∈ state.calls.rows)
    (had : Gain state call call.pc call.writes)
    (inserted : Inserted state.db call.operation call.writes)
    (sent : incremented call command = .ok (some charged)) :
    Gain state call (.commit (.reservation (command.reservation usage)))
      { call.writes with counter := some charged } := by
  have ⟨row, counter⟩ := inserted.counter
  have ⟨window, within, shape⟩ := incremented_some counter sent
  have written := inserted.reservation
  refine ⟨had.pending, ?_, ?_⟩
  · intro other same
    cases operation.symm.trans same
    have ⟨record, put⟩ := written
    have pending := had.pending record put
    rw [operation] at pending
    refine Or.inr ⟨?_, rfl⟩
    show call.writes.reservation = _
    rw [put, pending.newRecord]
  · intro other put
    obtain rfl := Option.some.inj put
    rw [shape]
    exact ⟨call, member, command, operation, window.symm, within⟩

theorem reserve_gain {command : ReserveQuota} (operation : call.operation = .reserve command)
    (member : call ∈ state.calls.rows) (uncut : Uncut command)
    (short : command.reservationId.toList.length ≤ 36)
    (unused : call.pc = .insert → state.db.reservations.find command.reservationId = none)
    (standing : Standing state.db call) (had : Gain state call call.pc call.writes)
    (bounded : ∀ row ∈ state.db.counters.rows, Bounded state.calls row)
    (went : state.reserve call command = some (pc, writes)) : Gain state call pc writes := by
  unfold State.reserve at went
  split at went
  · apply gain_attempt went
    intro found sent went
    cases found with
    | some existing =>
        cases went
        exact gain_existing operation had sent
    | none =>
        cases went
        exact had.kept fun _ _ => trivial
  · rename_i record here
    apply gain_attempt went
    intro usage _ went
    cases went
    apply had.kept
    intro other same
    have replays := had.replays other same
    rw [here] at replays
    exact Or.inl replays
  · apply gain_attempt went
    intro fresh sent went
    split at went
    · cases went
    · cases went
      have ⟨stored, unused⟩ := counterValues_ok sent
      exact gain_ensure operation member had bounded (storedKey_uncut uncut stored) unused
  · rename_i here
    apply gain_attempt went
    intro record sent went
    obtain rfl := recordValues_uncut uncut short sent
    split at went
    · cases went
    · split at went
      · rename_i met
        cases went
        exact gain_refind operation had (unused here) met
      · rename_i clear
        cases went
        exact gain_insert operation had clear
  · apply gain_attempt went
    intro found sent went
    cases found with
    | some existing =>
        cases went
        exact gain_existing operation had sent
    | none =>
        cases went
        exact gain_raised state call _
  · rename_i here
    rw [Standing, here] at standing
    apply gain_attempt went
    intro outcome sent went
    cases outcome with
    | some charged =>
        cases went
        exact gain_charge operation member had standing sent
    | none =>
        cases went
        exact had.kept fun _ _ => trivial
  · apply gain_attempt went
    intro _ _ went
    cases went
    refine ⟨?_, fun _ _ => trivial, had.bounded⟩
    intro record put
    exact had.pending record (Option.filter_eq_some_iff.mp put).1
  · cases went

theorem settle_gain {settlement : Settlement} {reservationId : String}
    (balanced : Balanced state.db)
    (settles : settlementOf call.operation = some settlement)
    (standing : Standing state.db call) (had : Gain state call call.pc call.writes)
    (bounded : ∀ row ∈ state.db.counters.rows, Bounded state.calls row)
    (went : state.settle call settlement reservationId = some (pc, writes)) :
    Gain state call pc writes := by
  have foreign : ∀ moved : Call, moved.operation = call.operation → Replays state.db moved := by
    intro moved same command operation
    rw [← same, operation] at settles
    cases settles
  unfold State.settle at went
  split at went
  · apply gain_attempt went
    intro _ _ went
    split at went
    · cases went
      exact had.kept (foreign _ rfl)
    · rename_i record found
      split at went
      · rename_i reserved
        split at went
        · cases went
        · cases went
          refine ⟨?_, foreign _ rfl, had.bounded⟩
          intro put same
          obtain rfl := Option.some.inj same
          apply Pending.claim settles _ reserved
          rw [(Table.find_some.mp found).2]
          exact found
      · cases went
        exact had.kept (foreign _ rfl)
  · rename_i record here
    rw [Standing, here] at standing
    split at went
    · apply gain_attempt went
      intro usage _ went
      cases went
      exact had.kept (foreign _ rfl)
    · split at went
      · cases went
      · split at went
        · cases went
          exact gain_raised state call _
        · rename_i row found
          cases went
          refine ⟨had.pending, foreign _ rfl, ?_⟩
          intro put same
          obtain rfl := Option.some.inj same
          obtain ⟨owner, inside, command, named, window, within⟩ :=
            bounded row (Table.find_some.mp found).1
          refine ⟨owner, inside, command, named, window, ?_⟩
          have covered := Claimed.covered balanced standing found
          have cost := Claimed.positive balanced standing
          show (if record.cost ≤ row.used then row.used - record.cost else 0) ≤ command.limit
          rw [if_pos covered]
          omega
  · split at went
    · cases went
      exact gain_raised state call _
    · split at went
      · cases went
        exact gain_raised state call _
      · cases went
        exact had.kept (foreign _ rfl)
  · apply gain_attempt went
    intro usage _ went
    cases went
    exact had.kept (foreign _ rfl)
  · cases went

end AiPlatform.Quota.Statements

import AiPlatform.Quota.Transactions

set_option autoImplicit false

/- What each statement of a transaction leaves in hand, and which rows it locks. -/
namespace AiPlatform.Quota.Statements

open Columns Machine
open Postgres (Record newRecord setStatus setStatus_id)

theorem column_fits {width : Nat} {text stored : String} (fits : text.toList.length ≤ width)
    (sent : column width text = .ok stored) : stored = text := by
  unfold column at sent
  rw [storedText_fits fits] at sent
  cases sent
  rfl

/-- The row of an upsert is in the stored window of its command, and new to it. -/
theorem counterValues_ok {command : ReserveQuota} {number : Nat} {row : CounterRow}
    (sent : counterValues command number = .ok row) :
    storedKey command = .ok row.key ∧ row.used = 0 := by
  unfold counterValues at sent
  have ⟨_, _, sent⟩ := bind_ok.mp sent
  have ⟨_, _, sent⟩ := bind_ok.mp sent
  have ⟨subjectId, subject, sent⟩ := bind_ok.mp sent
  have ⟨resource, stored, sent⟩ := bind_ok.mp sent
  have ⟨windowKey, window, sent⟩ := bind_ok.mp sent
  cases sent
  refine ⟨?_, rfl⟩
  unfold storedKey
  rw [subject, stored, window]
  rfl

/-- The row of an insert is the command's own, but for what its columns cut. -/
theorem recordValues_ok {command : ReserveQuota} {record : Record}
    (short : command.reservationId.toList.length ≤ 36)
    (sent : recordValues command = .ok record) :
    storedKey command = .ok record.key ∧
      command.idempotencyKey.mapM (column 255) = .ok record.idempotencyKey ∧
      record = { newRecord command with
        subjectId := record.subjectId
        resource := record.resource
        windowKey := record.windowKey
        idempotencyKey := record.idempotencyKey } := by
  unfold recordValues at sent
  have ⟨_, _, sent⟩ := bind_ok.mp sent
  have ⟨_, _, sent⟩ := bind_ok.mp sent
  have ⟨id, drawn, sent⟩ := bind_ok.mp sent
  have ⟨subjectId, subject, sent⟩ := bind_ok.mp sent
  have ⟨resource, stored, sent⟩ := bind_ok.mp sent
  have ⟨windowKey, window, sent⟩ := bind_ok.mp sent
  have ⟨idempotencyKey, keyed, sent⟩ := bind_ok.mp sent
  cases sent
  refine ⟨?_, keyed, ?_⟩
  · unfold storedKey
    rw [subject, stored, window]
    rfl
  · rw [column_fits short drawn]
    rfl

theorem upserted_key (db : Database) (fresh : CounterRow) :
    (upserted db fresh).key = fresh.key := by
  unfold upserted
  split
  · rfl
  · rename_i row found
    exact (Table.find_some.mp found).2

theorem upserted_follows (db : Database) {fresh : CounterRow} (unused : fresh.used = 0) :
    Follows db (upserted db fresh) 0 := by
  have used : (upserted db fresh).used = usedAt db fresh.key := by
    unfold upserted usedAt
    split
    · rename_i missing
      rw [missing, unused]
      rfl
    · rename_i row found
      rw [found]
      rfl
  constructor
  · rw [upserted_key, used, Int.add_zero]
  · intro old found
    rw [upserted_key] at found
    unfold upserted
    rw [found]

/-- What `attempt` comes to: the error with everything rolled back, or the rest. -/
theorem attempt_some {Value : Type} {outcome : Except QuotaError Value}
    {rest : Value → Option (Pc × Writes)} {pc : Pc} {writes : Writes}
    (done : State.attempt outcome rest = some (pc, writes)) :
    (∃ error, outcome = .error error ∧ pc = .raised error ∧ writes = {}) ∨
      ∃ value, outcome = .ok value ∧ rest value = some (pc, writes) := by
  cases outcome with
  | error error =>
      cases done
      exact Or.inl ⟨error, rfl, rfl, rfl⟩
  | ok value => exact Or.inr ⟨value, rfl, done⟩

variable {state : State} {call : Call} {pc : Pc} {writes : Writes}

theorem counterLocked_false {key : WindowKey} (free : state.counterLocked call key = false) :
    ∀ other ∈ state.calls.rows, other.id ≠ call.id → key ∉ other.writes.keys := by
  intro other member apart held
  have locked := List.any_eq_false.mp free other member
  simp [apart, held] at locked

theorem reservationLocked_false {id : String} (free : state.reservationLocked call id = false) :
    ∀ other ∈ state.calls.rows, other.id ≠ call.id → id ∉ other.writes.ids := by
  intro other member apart held
  have locked := List.any_eq_false.mp free other member
  simp [apart, held] at locked

/-- After a statement the call has in hand what its next one needs, and it has locked nothing
that another transaction holds. -/
structure Advance (state : State) (call : Call) (pc : Pc) (writes : Writes) : Prop where
  standing : Standing state.db { call with pc := pc, writes := writes }
  keys : ∀ key ∈ writes.keys, key ∈ call.writes.keys ∨
    ∀ other ∈ state.calls.rows, other.id ≠ call.id → key ∉ other.writes.keys
  ids : ∀ id ∈ writes.ids, id ∈ call.writes.ids ∨
    ∀ other ∈ state.calls.rows, other.id ≠ call.id → id ∉ other.writes.ids

theorem advance_raised (state : State) (call : Call) (error : QuotaError) :
    Advance state call (.raised error) {} where
  standing := rfl
  keys _ held := absurd held List.not_mem_nil
  ids _ held := absurd held List.not_mem_nil

theorem advance_kept
    (standing : Standing state.db { call with pc := pc, writes := call.writes }) :
    Advance state call pc call.writes where
  standing := standing
  keys _ held := Or.inl held
  ids _ held := Or.inl held

/-- A statement that raises leaves nothing in hand. -/
theorem advance_attempt {Value : Type} {outcome : Except QuotaError Value}
    {rest : Value → Option (Pc × Writes)}
    (done : State.attempt outcome rest = some (pc, writes))
    (onward : ∀ value, outcome = .ok value → rest value = some (pc, writes) →
      Advance state call pc writes) : Advance state call pc writes := by
  rcases attempt_some done with ⟨error, _, raised, nothing⟩ | ⟨value, sent, went⟩
  · rw [raised, nothing]
    exact advance_raised state call error
  · exact onward value sent went

theorem Touched.even {db : Database} (touched : Touched db writes) : Even db writes := by
  have ⟨counter, shape, follows⟩ := touched
  rw [shape]
  exact .counter follows

theorem touched_nothing (db : Database) : Touched db {} :=
  ⟨none, rfl, fun _ put => by cases put⟩

theorem Ensured.touched {db : Database} {operation : Operation}
    (ensured : Ensured db operation writes) : Touched db writes := by
  cases ensured with
  | @intro command row stored follows =>
      refine ⟨some row, rfl, ?_⟩
      intro other put
      rw [← Option.some.inj put]
      exact follows

theorem weight_setStatus {record : Record} {status : QuotaReservationStatus} :
    weight (setStatus status record) = if status = .refunded then 0 else record.cost := rfl

theorem weight_reserved {record : Record} (reserved : record.status = .reserved) :
    weight record = record.cost := by
  rw [weight, reserved]
  rfl

/-- The increment takes what the reservation costs. -/
theorem incremented_some {command : ReserveQuota} {row charged : CounterRow}
    (counter : call.writes.counter = some row)
    (sent : incremented call command = .ok (some charged)) :
    row.key = command.key ∧ row.used + command.cost ≤ command.limit ∧
      charged = { row with
        used := row.used + command.cost
        limit := command.limit
        resetAt := command.resetAt } := by
  unfold incremented at sent
  have ⟨_, _, sent⟩ := bind_ok.mp sent
  have ⟨_, _, sent⟩ := bind_ok.mp sent
  have ⟨_, _, sent⟩ := bind_ok.mp sent
  rw [counter] at sent
  dsimp only at sent
  split at sent
  · rename_i window
    have ⟨_, _, sent⟩ := bind_ok.mp sent
    split at sent
    · rename_i within
      cases sent
      exact ⟨window, within, rfl⟩
    · cases sent
  · cases sent

/-- A new reservation locks its id: no transaction has a row under it. -/
theorem insert_free {record : Record}
    (present : ∀ other ∈ state.calls.rows, ∀ id ∈ other.writes.goneReservations,
      ∃ row, state.db.reservations.find id = some row)
    (quiet : state.contested call record = false)
    (fresh : state.db.reservations.find record.id = none) :
    ∀ other ∈ state.calls.rows, other.id ≠ call.id → record.id ∉ other.writes.ids := by
  intro other member apart held
  rcases List.mem_append.mp held with put | gone
  · have free := List.any_eq_false.mp quiet other member
    cases reservation : other.writes.reservation with
    | none =>
        rw [reservation] at put
        cases put
    | some row =>
        rw [reservation] at put
        have same : record.id = row.id := List.mem_singleton.mp put
        simp [apart, reservation, clash, same] at free
  · have ⟨row, found⟩ := present other member record.id gone
    rw [fresh] at found
    cases found

theorem insert_fresh {record : Record}
    (clear : ¬ state.db.reservations.rows.any (clash record) = true) :
    state.db.reservations.find record.id = none := by
  apply Table.find_none.mpr
  intro row member same
  apply clear
  apply List.any_eq_true.mpr
  refine ⟨row, member, ?_⟩
  simp [clash, same]

theorem advance_ensure {command : ReserveQuota} {fresh : CounterRow}
    (operation : call.operation = .reserve command) (nothing : call.writes = {})
    (stored : storedKey command = .ok fresh.key) (unused : fresh.used = 0)
    (free : state.counterLocked call fresh.key = false) :
    Advance state call .insert
      { call.writes with counter := some (upserted state.db fresh) } := by
  rw [nothing]
  refine ⟨?_, ?_, ?_⟩
  · show Ensured state.db call.operation _
    rw [operation]
    apply Ensured.intro
    · rw [upserted_key]
      exact stored
    · exact upserted_follows state.db unused
  · intro key held
    have same : key = (upserted state.db fresh).key := List.mem_singleton.mp held
    rw [same, upserted_key]
    exact Or.inr (counterLocked_false free)
  · intro id held
    cases held

theorem advance_insert {command : ReserveQuota} {record : Record}
    (operation : call.operation = .reserve command)
    (ensured : Ensured state.db call.operation call.writes)
    (stored : storedKey command = .ok record.key) (drawn : record.id = command.reservationId)
    (cost : record.cost = command.cost) (status : record.status = .reserved)
    (fresh : state.db.reservations.find record.id = none)
    (free : ∀ other ∈ state.calls.rows, other.id ≠ call.id → record.id ∉ other.writes.ids) :
    Advance state call .increment { call.writes with reservation := some record } := by
  generalize held : call.writes = before at ensured
  rw [operation] at ensured
  cases ensured with
  | @intro command row window follows =>
      refine ⟨?_, ?_, ?_⟩
      · show Inserted state.db call.operation _
        rw [operation]
        apply Inserted.intro drawn cost status _ follows fresh
        rw [stored] at window
        exact (Except.ok.inj window).symm
      · intro key locked
        rw [held]
        exact Or.inl locked
      · intro id locked
        have same : id = record.id := List.mem_singleton.mp locked
        rw [same]
        exact Or.inr free

theorem advance_charge {command : ReserveQuota} {row charged : CounterRow} {answer : Answer}
    (operation : call.operation = .reserve command)
    (inserted : Inserted state.db call.operation call.writes)
    (counter : call.writes.counter = some row)
    (shape : charged = { row with
      used := row.used + command.cost
      limit := command.limit
      resetAt := command.resetAt }) :
    Advance state call (.commit answer) { call.writes with counter := some charged } := by
  have key : charged.key = row.key := by
    rw [shape]
    rfl
  generalize held : call.writes = before at inserted counter
  rw [operation] at inserted
  cases inserted with
  | @intro command other record id cost status window follows fresh =>
      obtain rfl := Option.some.inj counter
      refine ⟨?_, ?_, ?_⟩
      · apply Or.inl
        apply Even.both
        · intro old found
          rw [fresh] at found
          cases found
        · rw [cost]
          exact command.costPositive
        · rw [key]
          exact window
        · constructor
          · rw [key, weight_reserved status, previous, fresh, cost, shape]
            have start := follows.used
            simp only [Option.elim]
            omega
          · rw [key, shape]
            exact follows.same
      · intro other locked
        rw [held]
        have same : other = charged.key := List.mem_singleton.mp locked
        rw [same, key]
        exact Or.inl (List.mem_singleton_self _)
      · intro other locked
        rw [held]
        exact Or.inl locked

/-- The compensating delete takes back the one row that the call inserted. -/
theorem advance_withdraw {command : ReserveQuota} {answer : Answer}
    (operation : call.operation = .reserve command)
    (inserted : Inserted state.db call.operation call.writes) :
    Advance state call (.commit answer)
      { call.writes with
        reservation := call.writes.reservation.filter fun record =>
          record.id ≠ command.reservationId } := by
  generalize held : call.writes = before at inserted
  rw [operation] at inserted
  cases inserted with
  | @intro command row record id cost status window follows fresh =>
      have deleted : (some record).filter
          (fun record => decide (record.id ≠ command.reservationId)) = none := by
        simp [id]
      dsimp only
      rw [deleted]
      refine ⟨?_, ?_, ?_⟩
      · apply Or.inl
        apply Even.counter
        intro other put
        rw [← Option.some.inj put]
        exact follows
      · intro other locked
        rw [held]
        exact Or.inl locked
      · intro other locked
        cases locked

theorem Inserted.counter {db : Database} {operation : Operation}
    (inserted : Inserted db operation writes) : ∃ row, writes.counter = some row := by
  cases inserted with
  | intro => exact ⟨_, rfl⟩

theorem reserve_advance {command : ReserveQuota} (operation : call.operation = .reserve command)
    (short : command.reservationId.toList.length ≤ 36)
    (present : ∀ other ∈ state.calls.rows, ∀ id ∈ other.writes.goneReservations,
      ∃ row, state.db.reservations.find id = some row)
    (standing : Standing state.db call)
    (went : state.reserve call command = some (pc, writes)) : Advance state call pc writes := by
  unfold State.reserve at went
  unfold Standing at standing
  split at went
  · rename_i here
    rw [here] at standing
    apply advance_attempt went
    intro found _ went
    cases found with
    | some existing =>
        cases went
        apply advance_kept
        rw [show call.writes = {} from standing]
        exact touched_nothing state.db
    | none =>
        cases went
        exact advance_kept standing
  · rename_i here
    rw [here] at standing
    apply advance_attempt went
    intro usage _ went
    cases went
    exact advance_kept (Or.inl (Touched.even standing))
  · rename_i here
    rw [here] at standing
    apply advance_attempt went
    intro fresh sent went
    have ⟨stored, unused⟩ := counterValues_ok sent
    split at went
    · cases went
    · rename_i free
      cases went
      exact advance_ensure operation standing stored unused (Bool.eq_false_iff.mpr free)
  · rename_i here
    rw [here] at standing
    apply advance_attempt went
    intro record sent went
    have ⟨stored, _, own⟩ := recordValues_ok short sent
    split at went
    · cases went
    · rename_i quiet
      split at went
      · cases went
        exact advance_kept (Ensured.touched standing)
      · rename_i clear
        cases went
        have fresh := insert_fresh clear
        exact advance_insert operation standing stored (congrArg Record.id own)
          (congrArg Record.cost own) (congrArg Record.status own) fresh
          (insert_free present (Bool.eq_false_iff.mpr quiet) fresh)
  · rename_i here
    rw [here] at standing
    apply advance_attempt went
    intro found _ went
    cases found with
    | some existing =>
        cases went
        exact advance_kept standing
    | none =>
        cases went
        exact advance_raised state call _
  · rename_i here
    rw [here] at standing
    apply advance_attempt went
    intro outcome sent went
    cases outcome with
    | none =>
        cases went
        exact advance_kept standing
    | some charged =>
        cases went
        have ⟨row, counter⟩ := Inserted.counter standing
        exact advance_charge operation standing counter (incremented_some counter sent).2.2
  · rename_i here
    rw [here] at standing
    apply advance_attempt went
    intro _ _ went
    cases went
    exact advance_withdraw operation standing
  · cases went

theorem even_nothing (db : Database) : Even db {} := (touched_nothing db).even

theorem advance_claim {settlement : Settlement} {old : Record}
    (settles : settlementOf call.operation = some settlement) (nothing : call.writes = {})
    (found : state.db.reservations.find old.id = some old) (status : old.status = .reserved)
    (free : state.reservationLocked call old.id = false) :
    Advance state call (.claimed (setStatus settlement.status old))
      { call.writes with reservation := some (setStatus settlement.status old) } := by
  rw [nothing]
  refine ⟨.intro settles found status, ?_, ?_⟩
  · intro key held
    cases held
  · intro id held
    have same : id = old.id := List.mem_singleton.mp held
    rw [same]
    exact Or.inr (reservationLocked_false free)

/-- A finalized reservation takes what it took when it was reserved. -/
theorem Claimed.finalize {db : Database} {record : Record} (balanced : Balanced db)
    (settles : settlementOf call.operation = some .finalize)
    (claimed : Claimed db call.operation record call.writes) : Even db call.writes := by
  generalize held : call.writes = before at claimed
  cases claimed with
  | @intro settlement old named found status =>
      obtain rfl := Option.some.inj (named.symm.trans settles)
      have there : db.reservations.find (setStatus Settlement.finalize.status old).id = some old :=
        found
      apply Even.record there rfl
      · exact balanced.positive old (Table.find_some.mp found).1
      · rw [weight_reserved status]
        rfl

/-- The counter has what a refund takes from it, so the refund is never cut short at zero. -/
theorem Claimed.covered {db : Database} {record : Record} {row : CounterRow}
    (balanced : Balanced db) (claimed : Claimed db call.operation record call.writes)
    (found : db.counters.find record.key = some row) : record.cost ≤ row.used := by
  generalize held : call.writes = before at claimed
  cases claimed with
  | @intro settlement old named there status =>
      have taken := balanced.weight_le (Table.find_some.mp there).1
      have counter : db.counters.find old.key = some row := found
      rw [weight_reserved status, usedAt_find counter] at taken
      exact taken

theorem advance_lower {record : Record} {row : CounterRow} {answer : Answer}
    (balanced : Balanced state.db) (settles : settlementOf call.operation = some .refund)
    (claimed : Claimed state.db call.operation record call.writes)
    (found : state.db.counters.find record.key = some row)
    (free : state.counterLocked call record.key = false) :
    Advance state call (.commit answer)
      { call.writes with counter := some (lowered row record.cost) } := by
  have covered : record.cost ≤ row.used := claimed.covered balanced found
  have window : (lowered row record.cost).key = record.key := (Table.find_some.mp found).2
  generalize held : call.writes = before at claimed
  cases claimed with
  | @intro settlement old named there status =>
      obtain rfl := Option.some.inj (named.symm.trans settles)
      refine ⟨?_, ?_, ?_⟩
      · apply Or.inl
        apply Even.both
        · intro other same
          rw [Option.some.inj (same.symm.trans there)]
          rfl
        · exact balanced.positive old (Table.find_some.mp there).1
        · exact window
        · constructor
          · have before :
              previous state.db (setStatus Settlement.refund.status old) = old.cost := by
              rw [previous, setStatus_id, there]
              exact weight_reserved status
            rw [window, usedAt_find found, before, weight_setStatus]
            have enough : old.cost ≤ row.used := covered
            show (if old.cost ≤ row.used then row.used - old.cost else 0) =
              row.used + (0 - old.cost)
            rw [if_pos enough]
            omega
          · intro other same
            rw [window, found] at same
            rw [← Option.some.inj same]
            rfl
      · intro other locked
        have same := (List.mem_singleton.mp locked).trans window
        rw [same]
        exact Or.inr (counterLocked_false free)
      · intro other locked
        rw [held]
        exact Or.inl locked

theorem settle_advance {settlement : Settlement} {reservationId : String}
    (balanced : Balanced state.db) (settles : settlementOf call.operation = some settlement)
    (standing : Standing state.db call)
    (went : state.settle call settlement reservationId = some (pc, writes)) :
    Advance state call pc writes := by
  unfold State.settle at went
  unfold Standing at standing
  split at went
  · rename_i here
    rw [here] at standing
    apply advance_attempt went
    intro _ _ went
    split at went
    · cases went
      exact advance_kept standing
    · rename_i record found
      have same := (Table.find_some.mp found).2
      split at went
      · rename_i status
        split at went
        · cases went
        · rename_i free
          cases went
          rw [← same] at found free
          exact advance_claim settles standing found status (Bool.eq_false_iff.mpr free)
      · cases went
        exact advance_kept standing
  · rename_i record here
    rw [here] at standing
    split at went
    · apply advance_attempt went
      intro usage _ went
      cases went
      exact advance_kept (Or.inl (Claimed.finalize balanced settles standing))
    · split at went
      · cases went
      · rename_i free
        split at went
        · cases went
          exact advance_raised state call _
        · rename_i row found
          cases went
          exact advance_lower balanced settles standing found (Bool.eq_false_iff.mpr free)
  · rename_i here
    rw [here] at standing
    split at went
    · cases went
      exact advance_raised state call _
    · split at went
      · cases went
        exact advance_raised state call _
      · cases went
        exact advance_kept standing
  · rename_i record here
    rw [here] at standing
    apply advance_attempt went
    intro usage _ went
    cases went
    apply advance_kept
    rw [show call.writes = {} from standing]
    exact Or.inl (even_nothing state.db)
  · cases went

theorem getUsage_advance {query : QuotaUsageQuery} (standing : Standing state.db call)
    (went : state.getUsage call query = some (pc, writes)) : Advance state call pc writes := by
  unfold State.getUsage at went
  unfold Standing at standing
  split at went
  · rename_i here
    rw [here] at standing
    have ends : ∀ answer, Advance state call (.commit answer) call.writes := by
      intro answer
      apply advance_kept
      rw [show call.writes = {} from standing]
      exact Or.inl (even_nothing state.db)
    apply advance_attempt went
    intro _ _ went
    split at went
    · cases went
      exact ends _
    · cases went
      exact ends _
  · cases went

/-- The counter row that a call is about to delete. -/
def deleting (state : State) (call : Call) : Option CounterRow :=
  match call.pc with
  | .deletingCounters ((key, number) :: _) =>
      (state.db.counters.find key).filter fun row => row.row = number
  | _ => none

/-- By then it has deleted every committed reservation of that window. -/
def Pairs (state : State) (call : Call) : Prop :=
  ∀ row ∈ deleting state call, ∀ record ∈ state.db.reservations.rows, record.key = row.key →
    record.id ∈ call.writes.goneReservations

instance (state : State) (call : Call) : Decidable (Pairs state call) :=
  inferInstanceAs (Decidable (∀ row ∈ deleting state call, _))

theorem resetting_nothing (db : Database) (clears : WindowKey → Bool) (owed : WindowKey → Prop) :
    Resetting db clears owed {} where
  counter := rfl
  reservation := rfl
  present _ gone := absurd gone List.not_mem_nil
  paired _ _ gone := absurd gone List.not_mem_nil
  owed _ _ gone := absurd gone List.not_mem_nil

theorem Resetting.imp {db : Database} {clears : WindowKey → Bool} {owed still : WindowKey → Prop}
    (resetting : Resetting db clears owed writes)
    (implies : ∀ record ∈ db.reservations.rows, record.id ∈ writes.goneReservations →
      owed record.key → still record.key) : Resetting db clears still writes where
  counter := resetting.counter
  reservation := resetting.reservation
  present := resetting.present
  paired := resetting.paired
  owed record member gone :=
    (resetting.owed record member gone).imp id (implies record member gone)

theorem advance_deleteReservation {record : Record} {rest : List String}
    (resetting : Resetting state.db call.operation.clears (fun _ => True) call.writes)
    (found : state.db.reservations.find record.id = some record)
    (clears : call.operation.clears record.key = true)
    (free : state.reservationLocked call record.id = false) :
    Advance state call (.deletingReservations rest)
      { call.writes with goneReservations := record.id :: call.writes.goneReservations } := by
  refine ⟨⟨resetting.counter, resetting.reservation, ?_, ?_, ?_⟩, ?_, ?_⟩
  · intro id gone
    rcases List.mem_cons.mp gone with same | before
    · rw [same]
      exact ⟨record, found, clears⟩
    · exact resetting.present id before
  · intro other member gone
    exact List.mem_cons_of_mem _ (resetting.paired other member gone)
  · intro other _ _
    exact Or.inr trivial
  · intro key held
    exact Or.inl held
  · intro id held
    rcases List.mem_append.mp held with put | gone
    · exact Or.inl (List.mem_append_left _ put)
    · rcases List.mem_cons.mp gone with same | before
      · rw [same]
        exact Or.inr (reservationLocked_false free)
      · exact Or.inl (List.mem_append_right _ before)

/-- When the second DELETE begins, every deleted reservation still has its counter. -/
theorem Resetting.owes {db : Database} {clears : WindowKey → Bool} {owed : WindowKey → Prop}
    (balanced : Balanced db) (resetting : Resetting db clears owed writes) :
    Resetting db clears (Owed db ((db.counters.rows.filter fun row => clears row.key).map fun row =>
      (row.key, row.row))) writes := by
  apply resetting.imp
  intro record member gone _
  have ⟨row, found⟩ := balanced.backed record member
  have ⟨inside, here⟩ := Table.find_some.mp found
  have ⟨other, there, cleared⟩ := resetting.present record.id gone
  rw [Table.find_mem member] at there
  rw [← Option.some.inj there] at cleared
  refine ⟨row, found, ?_⟩
  apply List.mem_map.mpr
  refine ⟨row, ?_, by rw [here]⟩
  apply List.mem_filter.mpr
  refine ⟨inside, ?_⟩
  rw [here]
  exact cleared

/-- A row of the snapshot that is gone, or whose key another row has taken, was owed nothing. -/
theorem Resetting.skip {db : Database} {clears : WindowKey → Bool} {key : WindowKey} {number : Nat}
    {rest : List (WindowKey × Nat)}
    (resetting : Resetting db clears (Owed db ((key, number) :: rest)) writes)
    (dead : ∀ row, db.counters.find key = some row → row.row ≠ number) :
    Resetting db clears (Owed db rest) writes := by
  apply resetting.imp
  intro record _ _ owed
  have ⟨row, found, listed⟩ := owed
  rcases List.mem_cons.mp listed with same | later
  · have ⟨here, there⟩ := Prod.mk.inj same
    rw [here] at found
    exact absurd there (dead row found)
  · exact ⟨row, found, later⟩

theorem advance_deleteCounter {key : WindowKey} {number : Nat} {rest : List (WindowKey × Nat)}
    (resetting : Resetting state.db call.operation.clears (Owed state.db ((key, number) :: rest))
      call.writes)
    (paired : ∀ record ∈ state.db.reservations.rows, record.key = key →
      record.id ∈ call.writes.goneReservations)
    (free : state.counterLocked call key = false) :
    Advance state call (.deletingCounters rest)
      { call.writes with goneCounters := key :: call.writes.goneCounters } := by
  refine ⟨⟨resetting.counter, resetting.reservation, resetting.present, ?_, ?_⟩, ?_, ?_⟩
  · intro record member gone
    rcases List.mem_cons.mp gone with same | before
    · exact paired record member same
    · exact resetting.paired record member before
  · intro record member gone
    rcases resetting.owed record member gone with deleted | ⟨row, found, listed⟩
    · exact Or.inl (List.mem_cons_of_mem _ deleted)
    · rcases List.mem_cons.mp listed with same | later
      · rw [(Prod.mk.inj same).1]
        exact Or.inl List.mem_cons_self
      · exact Or.inr ⟨row, found, later⟩
  · intro other held
    rcases List.mem_append.mp held with put | gone
    · exact Or.inl (List.mem_append_left _ put)
    · rcases List.mem_cons.mp gone with same | before
      · rw [same]
        exact Or.inr (counterLocked_false free)
      · exact Or.inl (List.mem_append_right _ before)
  · intro id held
    exact Or.inl held

theorem reset_advance {texts : List String} {answer : Answer} (balanced : Balanced state.db)
    (pairs : Pairs state call) (standing : Standing state.db call)
    (went : state.reset call texts call.operation.clears answer = some (pc, writes)) :
    Advance state call pc writes := by
  unfold State.reset at went
  unfold Standing at standing
  split at went
  · rename_i here
    rw [here] at standing
    apply advance_attempt went
    intro _ _ went
    cases went
    apply advance_kept
    rw [show call.writes = {} from standing]
    exact resetting_nothing _ _ _
  · rename_i here
    rw [here] at standing
    cases went
    exact advance_kept standing
  · rename_i id rest here
    rw [here] at standing
    split at went
    · cases went
      exact advance_kept standing
    · rename_i record found
      have same := (Table.find_some.mp found).2
      split at went
      · rename_i clears
        split at went
        · cases went
        · rename_i free
          cases went
          rw [← same] at found free ⊢
          exact advance_deleteReservation standing found clears (Bool.eq_false_iff.mpr free)
      · cases went
        exact advance_kept standing
  · rename_i here
    rw [here] at standing
    cases went
    exact advance_kept (Resetting.owes balanced standing)
  · rename_i here
    rw [here] at standing
    cases went
    apply advance_kept
    apply Or.inr
    apply Resetting.imp standing
    intro record _ _ owed
    have ⟨row, _, listed⟩ := owed
    cases listed
  · rename_i key number rest here
    rw [here] at standing
    split at went
    · rename_i missing
      cases went
      apply advance_kept
      apply Resetting.skip standing
      intro row found
      rw [missing] at found
      cases found
    · rename_i row found
      split at went
      · rename_i alive
        split at went
        · cases went
        · rename_i free
          cases went
          have aimed : row ∈ deleting state call := by
            rw [deleting, here]
            exact Option.filter_eq_some_iff.mpr ⟨found, decide_eq_true alive⟩
          have paired := pairs row aimed
          rw [(Table.find_some.mp found).2] at paired
          exact advance_deleteCounter standing paired (Bool.eq_false_iff.mpr free)
      · rename_i other
        cases went
        apply advance_kept
        apply Resetting.skip standing
        intro put there
        rw [← Option.some.inj (found.symm.trans there)]
        exact other
  · cases went

end AiPlatform.Quota.Statements

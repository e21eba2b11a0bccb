import AiPlatform.Quota.Refusals

set_option autoImplicit false

/- What a reset leaves to later calls: no reservation without a counter, and so no call that finds
its reservation and fails for lack of one. -/
namespace AiPlatform.Quota.Statements

open Machine
open Postgres (Record newRecord setStatus)

/-- The transaction has deleted nothing. -/
structure Plain (writes : Writes) : Prop where
  reservations : writes.goneReservations = []
  counters : writes.goneCounters = []

variable {state next : State} {call : Call} {pc : Pc} {writes : Writes}

theorem plain_nothing : Plain {} := ⟨rfl, rfl⟩

theorem plain_attempt {Value : Type} {outcome : Except QuotaError Value}
    {rest : Value → Option (Pc × Writes)}
    (done : State.attempt outcome rest = some (pc, writes))
    (onward : ∀ value, rest value = some (pc, writes) → Plain writes) : Plain writes := by
  rcases attempt_some done with ⟨_, _, _, nothing⟩ | ⟨value, _, went⟩
  · rw [nothing]
    exact plain_nothing
  · exact onward value went

theorem reserve_plain {command : ReserveQuota} (plain : Plain call.writes)
    (went : state.reserve call command = some (pc, writes)) : Plain writes := by
  unfold State.reserve at went
  split at went
  · apply plain_attempt went
    intro found went
    cases found <;> (cases went; exact plain)
  · apply plain_attempt went
    intro usage went
    cases went
    exact plain
  · apply plain_attempt went
    intro fresh went
    split at went
    · cases went
    · cases went
      exact ⟨plain.reservations, plain.counters⟩
  · apply plain_attempt went
    intro record went
    split at went
    · cases went
    · split at went
      · cases went
        exact plain
      · cases went
        exact ⟨plain.reservations, plain.counters⟩
  · apply plain_attempt went
    intro found went
    cases found with
    | some existing =>
        cases went
        exact plain
    | none =>
        cases went
        exact plain_nothing
  · apply plain_attempt went
    intro outcome went
    cases outcome with
    | some charged =>
        cases went
        exact ⟨plain.reservations, plain.counters⟩
    | none =>
        cases went
        exact plain
  · apply plain_attempt went
    intro _ went
    cases went
    exact ⟨plain.reservations, plain.counters⟩
  · cases went

theorem settle_plain {settlement : Settlement} {reservationId : String}
    (plain : Plain call.writes)
    (went : state.settle call settlement reservationId = some (pc, writes)) : Plain writes := by
  unfold State.settle at went
  split at went
  · apply plain_attempt went
    intro _ went
    split at went
    · cases went
      exact plain
    · split at went
      · split at went
        · cases went
        · cases went
          exact ⟨plain.reservations, plain.counters⟩
      · cases went
        exact plain
  · split at went
    · apply plain_attempt went
      intro usage went
      cases went
      exact plain
    · split at went
      · cases went
      · split at went
        · cases went
          exact plain_nothing
        · cases went
          exact ⟨plain.reservations, plain.counters⟩
  · split at went
    · cases went
      exact plain_nothing
    · split at went
      · cases went
        exact plain_nothing
      · cases went
        exact plain
  · apply plain_attempt went
    intro usage went
    cases went
    exact plain
  · cases went

theorem getUsage_plain {query : QuotaUsageQuery} (plain : Plain call.writes)
    (went : state.getUsage call query = some (pc, writes)) : Plain writes := by
  unfold State.getUsage at went
  split at went
  · apply plain_attempt went
    intro _ went
    split at went
    · cases went
      exact plain
    · cases went
      exact plain
  · cases went

/-- Only a reset deletes rows that others rely on. -/
theorem statement_plain (kind : resets call.operation = false) (plain : Plain call.writes)
    (went : statement state call = some (pc, writes)) : Plain writes := by
  unfold statement at went
  split at went
  · exact reserve_plain plain went
  · exact settle_plain plain went
  · exact settle_plain plain went
  · exact getUsage_plain plain went
  · rename_i operation
    rw [operation] at kind
    cases kind
  · rename_i operation
    rw [operation] at kind
    cases kind

theorem statement_finished (ended : call.pc.finished = true) : statement state call = none := by
  unfold statement State.reserve State.settle State.getUsage State.reset
  cases here : call.pc <;> rw [here] at ended <;> first
    | contradiction
    | (cases call.operation <;> rfl)

/-- The record in hand has a counter, and the call has not failed for lack of one. -/
structure Backed (db : Database) (call : Call) : Prop where
  counter : ∀ record, call.pc.inHand = some record → ∃ row, db.counters.find record.key = some row
  served : call.pc ≠ .raised .noResultFound

theorem Backed.statement (balanced : Balanced state.db) (backed : Backed state.db call)
    (went : statement state call = some (pc, writes)) :
    Backed state.db { call with pc := pc, writes := writes } := by
  have outcome := statement_outcome went
  constructor
  · intro record held
    have ⟨old, member, status, shape⟩ := outcome.found record held
    rw [shape]
    exact balanced.backed old member
  · intro raised
    cases outcome.refused _ raised with
    | counterless held missing =>
        have ⟨row, found⟩ := backed.counter _ held
        rw [missing] at found
        cases found

/-- A commit that deletes no counter leaves the record in hand its counter. -/
theorem Backed.apply {db : Database} (backed : Backed db call) (orderly : Orderly db writes)
    (plain : Plain writes) : Backed (db.apply writes) call where
  counter record held := by
    have ⟨old, found⟩ := backed.counter record held
    have kept : record.key ∉ writes.goneCounters := by
      rw [plain.counters]
      exact List.not_mem_nil
    have ⟨row, there, _⟩ := orderly.later found kept
    exact ⟨row, there⟩
  served := backed.served

def Untroubled : Action → Prop
  | .call _ operation => resets operation = false
  | _ => True

/-- The calls of `old` have ended; since then no reset has been called. -/
structure Later (old : Table Call.id) (state : State) : Prop where
  inv : Inv state
  grown : ∀ id, state.calls.find id = none → old.find id = none
  ended : ∀ call ∈ state.calls.rows, old.find call.id ≠ none → call.pc.finished = true
  kind : ∀ call ∈ state.calls.rows, old.find call.id = none → resets call.operation = false
  plain : ∀ call ∈ state.calls.rows, old.find call.id = none → Plain call.writes
  backed : ∀ call ∈ state.calls.rows, old.find call.id = none → Backed state.db call

variable {old : Table Call.id}

/-- A call that still runs has been called since. -/
theorem Later.running (later : Later old state) (member : call ∈ state.calls.rows)
    (active : call.pc.finished = false) : old.find call.id = none := by
  cases known : old.find call.id with
  | none => rfl
  | some before =>
      have ended := later.ended call member (by rw [known]; exact Option.some_ne_none before)
      rw [active] at ended
      cases ended

theorem find_put_none {calls : Table Call.id} {id : Nat}
    (unused : (calls.put call).find id = none) : calls.find id = none := by
  rw [Table.find_put] at unused
  split at unused
  · cases unused
  · exact unused

theorem Later.update (later : Later old state) (moved : Call) (inv : Inv (state.update moved))
    (recent : old.find moved.id = none) (kind : resets moved.operation = false)
    (plain : Plain moved.writes) (backed : Backed state.db moved) :
    Later old (state.update moved) := by
  refine ⟨inv, fun id unused => later.grown id (find_put_none unused), ?_, ?_, ?_, ?_⟩
  · intro other member known
    rcases Table.mem_put member with same | ⟨before, _⟩
    · rw [same] at known
      exact absurd recent known
    · exact later.ended other before known
  · intro other member unknown
    rcases Table.mem_put member with same | ⟨before, _⟩
    · rw [same]
      exact kind
    · exact later.kind other before unknown
  · intro other member unknown
    rcases Table.mem_put member with same | ⟨before, _⟩
    · rw [same]
      exact plain
    · exact later.plain other before unknown
  · intro other member unknown
    rcases Table.mem_put member with same | ⟨before, _⟩
    · rw [same]
      exact backed
    · exact later.backed other before unknown

theorem Later.commit (later : Later old state) (found : state.calls.find call.id = some call)
    {answer : Answer} (here : call.pc = .commit answer) (settled : List String)
    (inv : Inv {
      db := state.db.apply call.writes
      calls := state.calls.put { call with pc := .returned answer, writes := {} }
      settled := settled }) :
    Later old {
      db := state.db.apply call.writes
      calls := state.calls.put { call with pc := .returned answer, writes := {} }
      settled := settled } := by
  have member := (Table.find_some.mp found).1
  have recent := later.running member (by rw [here]; rfl)
  have plain := later.plain call member recent
  have orderly := ((later.inv.standing call member).commits here later.inv.balanced).2
  refine ⟨inv, fun id unused => later.grown id (find_put_none unused), ?_, ?_, ?_, ?_⟩
  · intro other inside known
    rcases Table.mem_put inside with same | ⟨before, _⟩
    · rw [same]
      rfl
    · exact later.ended other before known
  · intro other inside unknown
    rcases Table.mem_put inside with same | ⟨before, _⟩
    · rw [same]
      exact later.kind call member recent
    · exact later.kind other before unknown
  · intro other inside unknown
    rcases Table.mem_put inside with same | ⟨before, _⟩
    · rw [same]
      exact plain_nothing
    · exact later.plain other before unknown
  · intro other inside unknown
    rcases Table.mem_put inside with same | ⟨before, _⟩
    · rw [same]
      constructor
      · intro record held
        cases held
      · intro raised
        cases raised
    · exact (later.backed other before unknown).apply orderly plain

theorem deleting_finished (ended : call.pc.finished = true) : deleting state call = none := by
  unfold deleting
  split
  · rename_i here
    rw [here] at ended
    cases ended
  · rfl

/-- No reset is under way, so none deletes a counter. -/
theorem Later.paired (later : Later old state) (action : Action) : Paired state action := by
  cases action with
  | execute id =>
      intro call found kind row aimed
      have member := (Table.find_some.mp found).1
      cases known : old.find call.id with
      | none =>
          rw [later.kind call member known] at kind
          cases kind
      | some before =>
          have ended := later.ended call member (by rw [known]; exact Option.some_ne_none before)
          rw [deleting_finished ended] at aimed
          cases aimed
  | call id operation => trivial
  | abort id => trivial

theorem Later.step {action : Action} (later : Later old state) (fresh : Fresh state action)
    (untroubled : Untroubled action) (taken : step state action = some next) :
    Later old next := by
  have inv := later.inv.step fresh (later.paired action) taken
  cases stepped taken with
  | @call id operation unused =>
      apply later.update _ inv (later.grown id unused) untroubled plain_nothing
      constructor
      · intro record held
        cases operation <;> cases held
      · intro raised
        cases operation <;> cases raised
  | commit found here => exact later.commit found here _ inv
  | @statement call pc writes found went =>
      have member := (Table.find_some.mp found).1
      have active : call.pc.finished = false := by
        cases ended : call.pc.finished with
        | false => rfl
        | true =>
            rw [statement_finished ended] at went
            cases went
      have recent := later.running member active
      have kind := later.kind call member recent
      have plain := statement_plain kind (later.plain call member recent) went
      exact later.update _ inv recent kind plain
        ((later.backed call member recent).statement later.inv.balanced went)
  | @abort call found active =>
      have member := (Table.find_some.mp found).1
      have recent := later.running member active
      apply later.update _ inv recent (later.kind call member recent) plain_nothing
      constructor
      · intro record held
        cases held
      · intro raised
        cases raised

theorem Later.run {actions : List Action} (later : Later old state)
    (fresh : Meets Statements.step Fresh state actions)
    (untroubled : ∀ action ∈ actions, Untroubled action)
    (reached : Machine.run Statements.step state actions = some next) : Later old next :=
  run_invariant (Later old) (fun _ _ _ holds guard taken => holds.step guard.1 guard.2 taken) later
    (fresh.and (meets_of_forall state untroubled)) reached

/-- Every reservation has its counter, which has used what the window's reservations cost that are
not refunded; and once all calls have ended, no later one fails for lack of a counter. -/
structure ResetSafe (state : State) : Prop where
  kept : ∀ record ∈ state.db.reservations.rows, ∃ row,
    state.db.counters.find record.key = some row ∧
      row.used = charged state.db.reservations record.key
  later : (∀ call ∈ state.calls.rows, call.pc.finished = true) → ∀ actions final,
    run step state actions = some final → Meets step Fresh state actions →
    (∀ action ∈ actions, Untroubled action) →
    ∀ call ∈ final.calls.rows, state.calls.find call.id = none →
      call.pc ≠ .raised .noResultFound

/-- Resets and reserves in any order keep the tables together, as long as a reset that deletes a
counter has deleted every committed reservation of that window. -/
theorem resets_keep_counters (actions : List Action) (state : State)
    (reached : run step init actions = some state) (fresh : Meets step Fresh init actions)
    (paired : Meets step Paired init actions) : ResetSafe state := by
  have inv := inv_run init_inv fresh paired reached
  constructor
  · intro record member
    have ⟨row, found⟩ := inv.balanced.backed record member
    exact ⟨row, found, inv.balanced.counted record.key row found⟩
  · intro ended rest final went drawn untroubled call member recent
    have start : Later state.calls state := by
      have known : ∀ call ∈ state.calls.rows, state.calls.find call.id ≠ none := by
        intro call member
        rw [Table.find_mem member]
        exact Option.some_ne_none call
      refine ⟨inv, fun id unused => unused, fun call member _ => ended call member, ?_, ?_, ?_⟩
      · intro call member unknown
        exact absurd unknown (known call member)
      · intro call member unknown
        exact absurd unknown (known call member)
      · intro call member unknown
        exact absurd unknown (known call member)
    exact ((start.run drawn untroubled went).backed call member recent).served

theorem ten_positive : (0 : Int) < 10 := by decide

theorem three_positive : (0 : Int) < 3 := by decide

/-- A `reserve` of three out of ten in one window. -/
def spend (reservationId : String) (idempotencyKey : Option String) : Operation :=
  .reserve
    { subjectId := "user-1"
      resource := "completions"
      windowKey := "2026-01-01"
      limit := 10
      cost := 3
      resetAt := 0
      reservationId := reservationId
      idempotencyKey := idempotencyKey
      limitPositive := ten_positive
      costPositive := three_positive }

def clearing : Operation := .resetUsage ⟨"user-1", "completions", "2026-01-01", 10, 0⟩

def turns (id count : Nat) : List Action := List.replicate count (.execute id)

/-- The second `reserve` starts once the reset has deleted both rows, and waits for its counter. -/
def orderlyReset : List Action :=
  [.call 1 (spend "first" none)] ++ turns 1 5 ++ [.call 2 clearing] ++ turns 2 5 ++
    [.call 3 (spend "second" none)] ++ turns 3 1 ++ turns 2 2 ++ turns 3 4

theorem orderlyReset_accepted : (run step init orderlyReset).isSome = true := by decide +kernel

theorem resets_keep_counters_orderly :
    ResetSafe ((run step init orderlyReset).get orderlyReset_accepted) :=
  resets_keep_counters orderlyReset _ (Option.some_get orderlyReset_accepted).symm
    (by decide +kernel) (by decide +kernel)

/-- The second `reserve` holds the counter and has inserted its reservation, but not committed,
when the reset deletes the reservations; it commits before the reset comes to the counters. -/
def strandingReset : List Action :=
  [.call 1 (spend "first" none)] ++ turns 1 5 ++ [.call 2 (spend "second" none)] ++ turns 2 3 ++
    [.call 3 clearing] ++ turns 3 4 ++ turns 2 2 ++ turns 3 3

theorem strandingReset_accepted : (run step init strandingReset).isSome = true := by decide +kernel

/-- All three calls have ended, and the second reservation has no counter; finalizing it fails. -/
theorem strandingReset_unsafe :
    Meets step Fresh init strandingReset ∧
      (∀ call ∈ ((run step init strandingReset).get strandingReset_accepted).calls.rows,
        ∃ answer, call.pc = .returned answer) ∧
      ¬ ResetSafe ((run step init strandingReset).get strandingReset_accepted) ∧
      ((run step init (strandingReset ++ [.call 4 (.finalize "second")] ++ turns 4 2)).bind
        fun state => (state.calls.find 4).map Call.pc) = some (.raised .noResultFound) := by
  refine ⟨by decide +kernel, ?_, ?_, by decide +kernel⟩
  · have returned : ∀ call ∈ ((run step init strandingReset).get
        strandingReset_accepted).calls.rows, (match call.pc with
        | .returned _ => true
        | _ => false) = true := by decide +kernel
    intro call member
    have ends := returned call member
    split at ends
    · rename_i answer here
      exact ⟨answer, here⟩
    · cases ends
  · intro safe
    have stranded : ∃ record ∈ ((run step init strandingReset).get
        strandingReset_accepted).db.reservations.rows,
        ((run step init strandingReset).get
          strandingReset_accepted).db.counters.find record.key = none := by decide +kernel
    have ⟨record, member, missing⟩ := stranded
    have ⟨row, found, _⟩ := safe.kept record member
    rw [missing] at found
    cases found

end AiPlatform.Quota.Statements

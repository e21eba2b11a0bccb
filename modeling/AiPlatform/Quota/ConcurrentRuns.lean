import AiPlatform.Quota.Concurrency

set_option autoImplicit false

/- The runs without resets, and what holds of the committed rows and of every answer in each state
they reach. -/
namespace AiPlatform.Quota.Statements

open Machine
open Postgres (Record newRecord setStatus)

/-- What holds between any two steps of a run without resets whose texts are not cut. -/
structure Keyed (state : State) : Prop where
  inv : Inv state
  kind : ∀ call ∈ state.calls.rows, resets call.operation = false
  plain : ∀ call ∈ state.calls.rows, Plain call.writes
  uncut : ∀ call ∈ state.calls.rows, ∀ command, call.operation = .reserve command → Uncut command
  drawn : ∀ left ∈ state.calls.rows, ∀ right ∈ state.calls.rows,
    left.operation.drawnId = right.operation.drawnId → left.operation.drawnId ≠ none →
      left.id = right.id
  gained : ∀ call ∈ state.calls.rows, Gain state call call.pc call.writes
  owned : ∀ record ∈ state.db.reservations.rows, ∃ call ∈ state.calls.rows,
    call.operation.drawnId = some record.id ∧ call.pc.finished = true
  unique : ∀ left ∈ state.db.reservations.rows, ∀ right ∈ state.db.reservations.rows,
    left.index = right.index → left.index ≠ none → left = right
  bounded : ∀ row ∈ state.db.counters.rows, Bounded state.calls row
  quiet : ∀ call ∈ state.calls.rows, ∀ message, call.pc ≠ .raised (.runtimeError message)
  once : state.settled.Nodup
  known : ∀ id ∈ state.settled, ∃ record, state.db.reservations.find id = some record
  flipped : ∀ record ∈ state.db.reservations.rows,
    record.status ≠ .reserved ↔ record.id ∈ state.settled

theorem init_keyed : Keyed init := by
  refine ⟨init_inv, ?_, ?_, ?_, ?_, ?_, ?_, ?_, ?_, ?_, ?_, ?_, ?_⟩ <;> simp [init]

variable {state next : State} {call : Call} {pc : Pc} {writes : Writes}

/-- A call keeps its operation, so what has bounded a counter still does. -/
theorem Bounded.put {calls : Table Call.id} {row : CounterRow} {moved : Call}
    (bounded : Bounded calls row)
    (same : ∀ old, calls.find moved.id = some old → old.operation = moved.operation) :
    Bounded (calls.put moved) row := by
  have ⟨owner, inside, command, operation, window, within⟩ := bounded
  by_cases here : owner.id = moved.id
  · refine ⟨moved, ?_, command, ?_, window, within⟩
    · apply (Table.find_some.mp (_ : (calls.put moved).find moved.id = some moved)).1
      rw [Table.find_put, if_pos rfl]
    · rw [← same owner (by rw [← here]; exact Table.find_mem inside)]
      exact operation
  · refine ⟨owner, ?_, command, operation, window, within⟩
    apply (Table.find_some.mp (_ : (calls.put moved).find owner.id = some owner)).1
    rw [Table.find_put, if_neg here]
    exact Table.find_mem inside

theorem Gain.later {moved : Call} {db : Database} {settled : List String}
    (gain : Gain ⟨db, state.calls, settled⟩ call pc writes)
    (same : ∀ old, state.calls.find moved.id = some old → old.operation = moved.operation) :
    Gain ⟨db, state.calls.put moved, settled⟩ call pc writes :=
  ⟨gain.pending, gain.replays, fun row put => (gain.bounded row put).put same⟩

theorem mem_calls_put {calls : Table Call.id} {moved other : Call}
    (member : other ∈ calls.rows) (apart : other.id ≠ moved.id) :
    other ∈ (calls.put moved).rows := by
  apply (Table.find_some.mp (_ : (calls.put moved).find other.id = some other)).1
  rw [Table.find_put, if_neg apart]
  exact Table.find_mem member

/-- A call that has not ended moves on, and no row is committed. -/
theorem Keyed.update (keyed : Keyed state) (moved : Call) (inv : Inv (state.update moved))
    (before : ∀ old, state.calls.find moved.id = some old →
      old.operation = moved.operation ∧ old.pc.finished = false)
    (kind : resets moved.operation = false) (plain : Plain moved.writes)
    (uncut : ∀ command, moved.operation = .reserve command → Uncut command)
    (drawn : ∀ other ∈ state.calls.rows, other.id ≠ moved.id →
      other.operation.drawnId = moved.operation.drawnId → other.operation.drawnId = none)
    (gain : Gain state moved moved.pc moved.writes)
    (quiet : ∀ message, moved.pc ≠ .raised (.runtimeError message)) :
    Keyed (state.update moved) := by
  have same : ∀ old, state.calls.find moved.id = some old → old.operation = moved.operation :=
    fun old found => (before old found).1
  refine ⟨inv, ?_, ?_, ?_, ?_, ?_, ?_, keyed.unique, ?_, ?_, keyed.once, keyed.known,
    keyed.flipped⟩
  · intro other member
    rcases Table.mem_put member with here | ⟨old, _⟩
    · rw [here]
      exact kind
    · exact keyed.kind other old
  · intro other member
    rcases Table.mem_put member with here | ⟨old, _⟩
    · rw [here]
      exact plain
    · exact keyed.plain other old
  · intro other member
    rcases Table.mem_put member with here | ⟨old, _⟩
    · rw [here]
      exact uncut
    · exact keyed.uncut other old
  · intro left leftMember right rightMember equal present
    rcases Table.mem_put leftMember with leftHere | ⟨leftOld, leftApart⟩
    · rcases Table.mem_put rightMember with rightHere | ⟨rightOld, rightApart⟩
      · rw [leftHere, rightHere]
      · rw [leftHere] at equal present
        rw [drawn right rightOld rightApart equal.symm] at equal
        exact absurd equal present
    · rcases Table.mem_put rightMember with rightHere | ⟨rightOld, _⟩
      · rw [rightHere] at equal
        exact absurd (drawn left leftOld leftApart equal) present
      · exact keyed.drawn left leftOld right rightOld equal present
  · intro other member
    rcases Table.mem_put member with here | ⟨old, _⟩
    · rw [here]
      exact gain.later same
    · exact (keyed.gained other old).later same
  · intro record member
    have ⟨owner, inside, drew, ended⟩ := keyed.owned record member
    refine ⟨owner, mem_calls_put inside ?_, drew, ended⟩
    intro here
    have found := Table.find_mem inside
    rw [here] at found
    rw [(before owner found).2] at ended
    cases ended
  · intro row member
    exact (keyed.bounded row member).put same
  · intro other member
    rcases Table.mem_put member with here | ⟨old, _⟩
    · rw [here]
      exact quiet
    · exact keyed.quiet other old

/-- The id that a running `reserve` has drawn is in no committed row. -/
theorem Keyed.unused (keyed : Keyed state) (member : call ∈ state.calls.rows)
    {command : ReserveQuota} (operation : call.operation = .reserve command)
    (active : call.pc.finished = false) :
    state.db.reservations.find command.reservationId = none := by
  cases found : state.db.reservations.find command.reservationId with
  | none => rfl
  | some record =>
      have ⟨inside, here⟩ := Table.find_some.mp found
      have ⟨owner, ownerMember, drew, ended⟩ := keyed.owned record inside
      have mine : call.operation.drawnId = some record.id := by
        rw [operation, here]
        rfl
      have sameId := keyed.drawn owner ownerMember call member (drew.trans mine.symm)
        (by rw [drew]; exact Option.some_ne_none record.id)
      rw [Table.eq_of_key ownerMember member sameId, active] at ended
      cases ended

theorem Keyed.gain (keyed : Keyed state) (member : call ∈ state.calls.rows)
    (went : statement state call = some (pc, writes)) : Gain state call pc writes := by
  have had := keyed.gained call member
  have standing := keyed.inv.standing call member
  unfold statement at went
  split at went
  · rename_i command operation
    apply reserve_gain operation member (keyed.uncut call member command operation) _ _ standing
      had keyed.bounded went
    · apply keyed.inv.short call member
      rw [operation]
      rfl
    · intro here
      exact keyed.unused member operation (by rw [here]; rfl)
  · rename_i operation
    exact settle_gain keyed.inv.balanced (by rw [operation]; rfl) standing had keyed.bounded went
  · rename_i operation
    exact settle_gain keyed.inv.balanced (by rw [operation]; rfl) standing had keyed.bounded went
  · rename_i query operation
    have foreign : ∀ moved : Call, moved.operation = call.operation → Replays state.db moved := by
      intro moved same command other
      rw [same, operation] at other
      cases other
    unfold State.getUsage at went
    split at went
    · apply gain_attempt went
      intro _ _ went
      split at went
      · cases went
        exact had.kept (foreign _ rfl)
      · cases went
        exact had.kept (foreign _ rfl)
    · cases went
  · rename_i operation
    have kind := keyed.kind call member
    rw [operation] at kind
    cases kind
  · rename_i operation
    have kind := keyed.kind call member
    rw [operation] at kind
    cases kind

/-- An insert that was refused finds the row it met. -/
theorem Keyed.quiet_statement (keyed : Keyed state) (member : call ∈ state.calls.rows)
    (went : statement state call = some (pc, writes)) (message : String) :
    pc ≠ .raised (.runtimeError message) := by
  intro raised
  cases (statement_outcome went).refused _ raised with
  | winnerless here operation missing =>
      have replays := (keyed.gained call member).replays _ operation
      rw [here] at replays
      have ⟨named, id, winner⟩ := replays
      exact findIdempotent_finds winner named missing

theorem Keyed.statement (keyed : Keyed state) (found : state.calls.find call.id = some call)
    (inv : Inv (state.update { call with pc := pc, writes := writes }))
    (went : Statements.statement state call = some (pc, writes)) :
    Keyed (state.update { call with pc := pc, writes := writes }) := by
  have member := (Table.find_some.mp found).1
  have kind := keyed.kind call member
  have active : call.pc.finished = false := by
    cases ended : call.pc.finished with
    | false => rfl
    | true =>
        rw [statement_finished ended] at went
        cases went
  apply keyed.update _ inv
  · intro old there
    obtain rfl := Option.some.inj (found.symm.trans there)
    exact ⟨rfl, active⟩
  · exact kind
  · exact statement_plain kind (keyed.plain call member) went
  · exact keyed.uncut call member
  · intro other inside apart same
    by_contra present
    exact apart (keyed.drawn other inside call member same present)
  · have gain := Keyed.gain keyed member went
    exact ⟨gain.pending, gain.replays, gain.bounded⟩
  · exact keyed.quiet_statement member went

section Commit

variable {db : Database}

theorem plain_reservations (plain : Plain writes) :
    (db.apply writes).reservations = db.putReservation writes.reservation := by
  apply erase_nothing
  intro record
  rw [plain.reservations]
  exact decide_eq_false List.not_mem_nil

theorem plain_counters (plain : Plain writes) :
    (db.apply writes).counters = db.putCounter writes.counter := by
  apply erase_nothing
  intro row
  rw [plain.counters]
  exact decide_eq_false List.not_mem_nil

/-- The reservations after a commit that deletes nothing. -/
theorem mem_commit {record : Record} (plain : Plain writes) :
    record ∈ (db.apply writes).reservations.rows ↔ writes.reservation = some record ∨
      record ∈ db.reservations.rows ∧
        ∀ put, writes.reservation = some put → record.id ≠ put.id := by
  have found : record ∈ (db.putReservation writes.reservation).rows ↔
      (db.putReservation writes.reservation).find record.id = some record :=
    ⟨Table.find_mem, fun there => (Table.find_some.mp there).1⟩
  rw [plain_reservations plain, found]
  cases written : writes.reservation with
  | none =>
      simp only [Database.putReservation, reduceCtorEq, false_or, false_implies, implies_true,
        and_true]
      exact ⟨fun there => (Table.find_some.mp there).1, Table.find_mem⟩
  | some put =>
      rw [Database.putReservation, Table.find_put]
      by_cases here : record.id = put.id
      · rw [if_pos here]
        constructor
        · intro same
          exact Or.inl same
        · rintro (same | ⟨_, apart⟩)
          · exact same
          · exact absurd here (apart put rfl)
      · rw [if_neg here]
        constructor
        · intro there
          refine Or.inr ⟨(Table.find_some.mp there).1, ?_⟩
          intro other same
          rw [← Option.some.inj same]
          exact here
        · rintro (same | ⟨inside, _⟩)
          · rw [Option.some.inj same] at here
            exact absurd rfl here
          · exact Table.find_mem inside

/-- A commit keeps the rows but for their status. -/
theorem Pending.keeps {operation : Operation} (plain : Plain writes)
    (pending : ∀ record, writes.reservation = some record → Pending db operation record)
    {row : Record} (member : row ∈ db.reservations.rows) :
    ∃ later ∈ (db.apply writes).reservations.rows, later.id = row.id ∧ later.index = row.index := by
  by_cases here : ∃ put, writes.reservation = some put ∧ row.id = put.id
  · have ⟨put, written, same⟩ := here
    refine ⟨put, (mem_commit plain).mpr (Or.inl written), same.symm, ?_⟩
    cases pending put written with
    | own fresh free =>
        have absent := Table.find_none.mp fresh row member
        exact absurd same absent
    | @claim _ settlement old settles found reserved =>
        have inside := (Table.find_some.mp found).1
        rw [Table.eq_of_key member inside same]
        rfl
  · refine ⟨row, (mem_commit plain).mpr (Or.inr ⟨member, ?_⟩), rfl, rfl⟩
    intro put written same
    exact here ⟨put, written, same⟩

/-- What a commit adds has the index of a committed row, or of a command of its own window. -/
theorem Pending.apply {operation other : Operation} {record : Record} {mine : Writes}
    (plain : Plain writes) (apart : Apart mine writes)
    (written : mine.reservation = some record) (pending : Pending db operation record)
    (locks : db.reservations.find record.id = none → record.key ∈ mine.keys)
    (theirs : ∀ put, writes.reservation = some put → Pending db other put)
    (theirLocks : ∀ put, writes.reservation = some put →
      db.reservations.find put.id = none → put.key ∈ writes.keys) :
    Pending (db.apply writes) operation record := by
  have freeId : record.id ∉ writes.ids := by
    apply apart.ids
    rw [Writes.ids, written]
    exact List.mem_append_left _ (List.mem_singleton_self record.id)
  cases pending with
  | @own command fresh free =>
      apply Pending.own
      · exact (find_reservations_apply freeId).trans fresh
      · intro row member same
        rcases (mem_commit plain).mp member with put | ⟨old, _⟩
        · cases theirs row put with
          | @own yours freshYours freeYours =>
              by_contra named
              have key : yours.key = command.key := by
                cases mineKey : command.idempotencyKey with
                | none =>
                    rw [commandIndex, mineKey] at named
                    exact absurd rfl named
                | some text =>
                    rw [newRecord_index, commandIndex, commandIndex, mineKey] at same
                    cases yoursKey : yours.idempotencyKey with
                    | none =>
                        rw [yoursKey] at same
                        cases same
                    | some other =>
                        rw [yoursKey] at same
                        exact congrArg Prod.fst (Option.some.inj same)
              have locked := theirLocks _ put freshYours
              have held : command.key ∈ mine.keys := locks fresh
              rw [← key] at held
              exact apart.keys yours.key held locked
          | @claim _ settlement old settles found reserved =>
              exact free old (Table.find_some.mp found).1 same
        · exact free row old same
  | claim settles found reserved =>
      exact .claim settles ((find_reservations_apply freeId).trans found) reserved

end Commit

theorem Inserted.locked {db : Database} {operation : Operation}
    (inserted : Inserted db operation writes) {record : Record}
    (written : writes.reservation = some record) : record.key ∈ writes.keys := by
  cases inserted with
  | intro id cost status window follows fresh =>
      rw [← Option.some.inj written, ← window]
      exact List.mem_append_left _ (List.mem_singleton_self _)

theorem Claimed.committed {db : Database} {operation : Operation} {claimed record : Record}
    (standing : Claimed db operation claimed writes) (written : writes.reservation = some record) :
    db.reservations.find record.id ≠ none := by
  cases standing with
  | @intro settlement old settles found reserved =>
      rw [← Option.some.inj written]
      show db.reservations.find old.id ≠ none
      rw [found]
      exact Option.some_ne_none old

theorem Touched.unwritten {db : Database} (touched : Touched db writes) :
    writes.reservation = none := by
  have ⟨_, shape, _⟩ := touched
  rw [shape]

/-- A new reservation is written under the lock of its counter. -/
theorem Standing.locks {db : Database} (standing : Standing db call) {record : Record}
    (written : call.writes.reservation = some record)
    (fresh : db.reservations.find record.id = none) : record.key ∈ call.writes.keys := by
  have orderly : Orderly db call.writes → record.key ∈ call.writes.keys := by
    intro orderly
    rcases orderly.records record written with ⟨old, found, _⟩ | locked
    · rw [fresh] at found
      cases found
    · exact locked
  have unwritten : call.writes.reservation = none → record.key ∈ call.writes.keys := by
    intro none
    rw [none] at written
    cases written
  unfold Standing at standing
  split at standing
  · exact unwritten standing.unwritten
  · exact unwritten standing.touched.unwritten
  · exact unwritten standing.unwritten
  · exact standing.locked written
  · exact standing.locked written
  · exact absurd fresh (standing.committed written)
  · exact unwritten standing.reservation
  · exact unwritten standing.reservation
  · exact unwritten standing.reservation
  · rcases standing with even | resetting
    · exact orderly even.orderly
    · exact orderly resetting.orderly
  · exact unwritten (by rw [standing])

theorem Winner.apply {db : Database} {operation : Operation} (plain : Plain writes)
    (pending : ∀ record, writes.reservation = some record → Pending db operation record)
    {command : ReserveQuota} {id : String} (winner : Winner db command id) :
    Winner (db.apply writes) command id := by
  have ⟨row, member, here, same⟩ := winner
  have ⟨later, inside, sameId, sameIndex⟩ := Pending.keeps plain pending member
  exact ⟨later, inside, sameId.trans here, sameIndex.trans same⟩

theorem Replays.apply {db : Database} {operation : Operation} (plain : Plain writes)
    (pending : ∀ record, writes.reservation = some record → Pending db operation record)
    (replays : Replays db call) : Replays (db.apply writes) call := by
  intro command same
  have before := replays command same
  split
  · rename_i record here
    rw [here] at before
    exact before.apply plain pending
  · rename_i here
    rw [here] at before
    have ⟨named, id, winner⟩ := before
    exact ⟨named, id, winner.apply plain pending⟩
  · rename_i reservation here
    rw [here] at before
    exact before.imp (fun winner => winner.apply plain pending) id
  · rename_i reservation here
    rw [here] at before
    exact Winner.apply plain pending before
  · trivial

theorem settles_unwritten (none : call.writes.reservation = none) : settles call = [] := by
  unfold settles
  rw [none]
  split <;> rfl

theorem settles_claim {settlement : Settlement} {record : Record}
    (settled : settlementOf call.operation = some settlement)
    (written : call.writes.reservation = some record) : settles call = [record.id] := by
  unfold settles
  rw [written]
  split
  · rfl
  · rfl
  · rename_i notFinalize notRefund
    unfold settlementOf at settled
    split at settled
    · rename_i reservationId operation
      exact absurd operation (notFinalize reservationId)
    · rename_i reservationId operation
      exact absurd operation (notRefund reservationId)
    · cases settled

/-- Two committed reservations never share an idempotency key. -/
theorem Keyed.commit_unique (keyed : Keyed state) (member : call ∈ state.calls.rows) :
    ∀ left ∈ (state.db.apply call.writes).reservations.rows,
      ∀ right ∈ (state.db.apply call.writes).reservations.rows,
        left.index = right.index → left.index ≠ none → left = right := by
  have plain := keyed.plain call member
  -- A row that is written shares its index with no other row than the one it replaces.
  have mixed : ∀ put, call.writes.reservation = some put → ∀ old ∈ state.db.reservations.rows,
      old.id ≠ put.id → old.index = put.index → old.index = none := by
    intro put written old inside apart same
    have pending := (keyed.gained call member).pending put written
    generalize call.operation = called at pending
    cases pending with
    | own fresh free =>
        rw [same]
        exact free old inside same
    | @claim _ settlement replaced settled found reserved =>
        by_contra present
        have one := keyed.unique old inside replaced (Table.find_some.mp found).1 same present
        rw [one] at apart
        exact apart rfl
  intro left leftMember right rightMember same present
  rcases (mem_commit plain).mp leftMember with leftPut | ⟨leftOld, leftApart⟩
  · rcases (mem_commit plain).mp rightMember with rightPut | ⟨rightOld, rightApart⟩
    · exact Option.some.inj (leftPut.symm.trans rightPut)
    · have absent := mixed left leftPut right rightOld (rightApart left leftPut) same.symm
      rw [same] at present
      exact absurd absent present
  · rcases (mem_commit plain).mp rightMember with rightPut | ⟨rightOld, _⟩
    · exact absurd (mixed right rightPut left leftOld (leftApart right rightPut) same) present
    · exact keyed.unique left leftOld right rightOld same present

/-- A commit takes no row of the reservations away. -/
theorem Keyed.commit_known (keyed : Keyed state) (member : call ∈ state.calls.rows) {id : String}
    (there : ∃ record, state.db.reservations.find id = some record) :
    ∃ record, (state.db.apply call.writes).reservations.find id = some record := by
  have ⟨record, found⟩ := there
  have ⟨inside, here⟩ := Table.find_some.mp found
  have ⟨later, laterMember, same, _⟩ :=
    Pending.keeps (keyed.plain call member) (keyed.gained call member).pending inside
  exact ⟨later, Table.find_some.mpr ⟨laterMember, same.trans here⟩⟩

/-- A new row is reserved and not listed. -/
theorem Keyed.commit_own (keyed : Keyed state) (member : call ∈ state.calls.rows)
    {command : ReserveQuota} (written : call.writes.reservation = some (newRecord command))
    (fresh : state.db.reservations.find command.reservationId = none) :
    ∀ record ∈ (state.db.apply call.writes).reservations.rows,
      record.status ≠ .reserved ↔ record.id ∈ state.settled := by
  intro record inside
  rcases (mem_commit (keyed.plain call member)).mp inside with same | ⟨old, _⟩
  · obtain rfl := Option.some.inj (written.symm.trans same)
    constructor
    · intro status
      exact absurd rfl status
    · intro listed
      have ⟨row, found⟩ := keyed.known _ listed
      have missing : state.db.reservations.find (newRecord command).id = none := fresh
      rw [missing] at found
      cases found
  · exact keyed.flipped record old

/-- A row that is settled joins the list, and it alone. -/
theorem Keyed.commit_claim (keyed : Keyed state) (member : call ∈ state.calls.rows)
    {put : Record} (written : call.writes.reservation = some put)
    (flipped : put.status ≠ .reserved) :
    ∀ record ∈ (state.db.apply call.writes).reservations.rows,
      record.status ≠ .reserved ↔ record.id ∈ state.settled ++ [put.id] := by
  intro record inside
  rw [List.mem_append, List.mem_singleton]
  rcases (mem_commit (keyed.plain call member)).mp inside with same | ⟨kept, apart⟩
  · rw [← Option.some.inj (written.symm.trans same)]
    exact iff_of_true flipped (Or.inr rfl)
  · rw [keyed.flipped record kept]
    constructor
    · exact Or.inl
    · rintro (listed | here)
      · exact listed
      · exact absurd here (apart _ written)

/-- A row leaves `reserved` in the one commit that is listed for it. -/
theorem Keyed.commit_settled (keyed : Keyed state) (member : call ∈ state.calls.rows) :
    (state.settled ++ settles call).Nodup ∧
      (∀ id ∈ state.settled ++ settles call, ∃ record,
        (state.db.apply call.writes).reservations.find id = some record) ∧
      ∀ record ∈ (state.db.apply call.writes).reservations.rows,
        record.status ≠ .reserved ↔ record.id ∈ state.settled ++ settles call := by
  cases written : call.writes.reservation with
  | none =>
      rw [settles_unwritten written, List.append_nil]
      refine ⟨keyed.once, fun id listed => keyed.commit_known member (keyed.known id listed), ?_⟩
      intro record inside
      rcases (mem_commit (keyed.plain call member)).mp inside with put | ⟨old, _⟩
      · rw [written] at put
        cases put
      · exact keyed.flipped record old
  | some put =>
      have pending := (keyed.gained call member).pending put written
      generalize operation : call.operation = called at pending
      cases pending with
      | @own command fresh free =>
          have nothing : settles call = [] := by
            unfold settles
            rw [operation]
          rw [nothing, List.append_nil]
          exact ⟨keyed.once, fun id listed => keyed.commit_known member (keyed.known id listed),
            keyed.commit_own member written fresh⟩
      | @claim _ settlement old settled found reserved =>
          rw [← operation] at settled
          rw [settles_claim settled written]
          have unlisted : old.id ∉ state.settled := by
            intro listed
            exact (keyed.flipped old (Table.find_some.mp found).1).mpr listed reserved
          refine ⟨?_, ?_, ?_⟩
          · rw [List.nodup_append]
            refine ⟨keyed.once, List.nodup_singleton _, ?_⟩
            intro id listed other single same
            rw [List.mem_singleton.mp single] at same
            rw [same] at listed
            exact unlisted listed
          · intro id listed
            apply keyed.commit_known member
            rcases List.mem_append.mp listed with before | here
            · exact keyed.known id before
            · rw [List.mem_singleton.mp here]
              exact ⟨old, found⟩
          · apply keyed.commit_claim member written
            intro status
            cases settlement <;> cases status

/-- The rows of the counters after a commit have used what some command allows. -/
theorem Keyed.commit_bounded (keyed : Keyed state) (member : call ∈ state.calls.rows)
    {row : CounterRow} (inside : row ∈ (state.db.apply call.writes).counters.rows) :
    Bounded state.calls row := by
  rw [plain_counters (keyed.plain call member)] at inside
  cases written : call.writes.counter with
  | none =>
      rw [written] at inside
      exact keyed.bounded row inside
  | some put =>
      rw [written] at inside
      rcases Table.mem_put inside with same | ⟨old, _⟩
      · rw [same]
        exact (keyed.gained call member).bounded put written
      · exact keyed.bounded row old

/-- A committed reservation is the row of a call that has returned. -/
theorem Keyed.commit_owned (keyed : Keyed state) (found : state.calls.find call.id = some call)
    {answer : Answer} (here : call.pc = .commit answer) {record : Record}
    (inside : record ∈ (state.db.apply call.writes).reservations.rows) :
    ∃ owner ∈ (state.calls.put { call with pc := .returned answer, writes := {} }).rows,
      owner.operation.drawnId = some record.id ∧ owner.pc.finished = true := by
  have member := (Table.find_some.mp found).1
  have plain := keyed.plain call member
  have stays : ∀ row ∈ state.db.reservations.rows, row.id = record.id →
      ∃ owner ∈ (state.calls.put { call with pc := .returned answer, writes := {} }).rows,
        owner.operation.drawnId = some record.id ∧ owner.pc.finished = true := by
    intro row rowMember same
    have ⟨owner, ownerMember, drew, ended⟩ := keyed.owned row rowMember
    rw [same] at drew
    refine ⟨owner, mem_calls_put ownerMember ?_, drew, ended⟩
    intro sameCall
    rw [Table.eq_of_key ownerMember member sameCall, here] at ended
    cases ended
  rcases (mem_commit plain).mp inside with put | ⟨old, _⟩
  · have pending := (keyed.gained call member).pending record put
    have ⟨called, operation⟩ : ∃ called, call.operation = called := ⟨_, rfl⟩
    rw [operation] at pending
    cases pending with
    | @own command fresh free =>
        refine ⟨{ call with pc := .returned answer, writes := {} }, ?_, ?_, rfl⟩
        · have self : (state.calls.put { call with pc := .returned answer, writes := {} }).find
              call.id = some { call with pc := .returned answer, writes := {} } := by
            rw [Table.find_put]
            exact if_pos rfl
          exact (Table.find_some.mp self).1
        · show call.operation.drawnId = _
          rw [operation]
          rfl
    | @claim _ settlement old settled there reserved =>
        exact stays old (Table.find_some.mp there).1 rfl
  · exact stays record old rfl

/-- What a `reserve` returns is committed with it. -/
theorem Keyed.commit_replays (keyed : Keyed state) (member : call ∈ state.calls.rows)
    {answer : Answer} (here : call.pc = .commit answer) :
    Replays (state.db.apply call.writes) { call with pc := .returned answer, writes := {} } := by
  have plain := keyed.plain call member
  have gain := keyed.gained call member
  intro command operation
  have before := gain.replays command operation
  dsimp only at before ⊢
  rw [here] at before
  cases answer with
  | reservation reservation =>
      rcases before with winner | ⟨written, same⟩
      · exact winner.apply plain gain.pending
      · refine ⟨newRecord command, (mem_commit plain).mpr (Or.inl written), same.symm, rfl⟩
  | rejected => trivial
  | usage usage => trivial
  | done => trivial

theorem Keyed.commit (keyed : Keyed state) (found : state.calls.find call.id = some call)
    {answer : Answer} (here : call.pc = .commit answer)
    (inv : Inv {
      db := state.db.apply call.writes
      calls := state.calls.put { call with pc := .returned answer, writes := {} }
      settled := state.settled ++ settles call }) :
    Keyed {
      db := state.db.apply call.writes
      calls := state.calls.put { call with pc := .returned answer, writes := {} }
      settled := state.settled ++ settles call } := by
  have member := (Table.find_some.mp found).1
  have plain := keyed.plain call member
  have gain := keyed.gained call member
  have ⟨once, known, flipped⟩ := keyed.commit_settled member
  have same : ∀ old, state.calls.find call.id = some old → old.operation = call.operation := by
    intro old there
    rw [Option.some.inj (found.symm.trans there)]
  refine ⟨inv, ?_, ?_, ?_, ?_, ?_, ?_, keyed.commit_unique member, ?_, ?_, once, known, flipped⟩
  · intro other inside
    rcases Table.mem_put inside with here | ⟨old, _⟩
    · rw [here]
      exact keyed.kind call member
    · exact keyed.kind other old
  · intro other inside
    rcases Table.mem_put inside with here | ⟨old, _⟩
    · rw [here]
      exact plain_nothing
    · exact keyed.plain other old
  · intro other inside
    rcases Table.mem_put inside with here | ⟨old, _⟩
    · rw [here]
      exact keyed.uncut call member
    · exact keyed.uncut other old
  · intro left leftInside right rightInside equal present
    have origin : ∀ moved ∈ (state.calls.put
        { call with pc := .returned answer, writes := {} }).rows, ∃ old ∈ state.calls.rows,
        old.id = moved.id ∧ old.operation = moved.operation := by
      intro moved inside
      rcases Table.mem_put inside with here | ⟨old, _⟩
      · exact ⟨call, member, by rw [here], by rw [here]⟩
      · exact ⟨moved, old, rfl, rfl⟩
    have ⟨oldLeft, leftMember, leftId, leftCalled⟩ := origin left leftInside
    have ⟨oldRight, rightMember, rightId, rightCalled⟩ := origin right rightInside
    rw [← leftCalled] at equal present
    rw [← rightCalled] at equal
    rw [← leftId, ← rightId]
    exact keyed.drawn oldLeft leftMember oldRight rightMember equal present
  · intro other inside
    rcases Table.mem_put inside with here' | ⟨old, apart⟩
    · rw [here']
      refine ⟨?_, keyed.commit_replays member here, ?_⟩
      · intro record put
        cases put
      · intro row put
        cases put
    · have their := keyed.gained other old
      have free := keyed.inv.apart other old call member apart
      refine ⟨?_, their.replays.apply plain gain.pending, ?_⟩
      · intro record put
        exact (their.pending record put).apply plain free put
          (fun fresh => (keyed.inv.standing other old).locks put fresh) gain.pending
          (fun mine written fresh => (keyed.inv.standing call member).locks written fresh)
      · intro row put
        exact (their.bounded row put).put same
  · intro record inside
    exact keyed.commit_owned found here inside
  · intro row inside
    exact (keyed.commit_bounded member inside).put same
  · intro other inside message
    rcases Table.mem_put inside with here | ⟨old, _⟩
    · rw [here]
      intro raised
      cases raised
    · exact keyed.quiet other old message

theorem Keyed.paired (keyed : Keyed state) (action : Action) : Paired state action := by
  cases action with
  | execute id =>
      intro call found kind
      rw [keyed.kind call (Table.find_some.mp found).1] at kind
      cases kind
  | call id operation => trivial
  | abort id => trivial

theorem Keyed.step {action : Action} (keyed : Keyed state) (fresh : Fresh state action)
    (untroubled : Untroubled action) (uncut : UncutCall action)
    (taken : step state action = some next) : Keyed next := by
  have inv := keyed.inv.step fresh (keyed.paired action) taken
  cases stepped taken with
  | @call id operation unused =>
      apply keyed.update _ inv
      · intro old there
        cases unused.symm.trans there
      · exact untroubled
      · exact plain_nothing
      · intro command same
        cases same
        exact uncut
      · intro other inside _ same
        by_contra present
        have ⟨drawn, drew⟩ := Option.ne_none_iff_exists'.mp present
        exact (fresh drawn (same.symm.trans drew)).2 other inside drew
      · refine ⟨?_, ?_, ?_⟩
        · intro record put
          cases put
        · intro command same
          cases same
          trivial
        · intro row put
          cases put
      · intro message raised
        cases operation <;> cases raised
  | commit found here => exact keyed.commit found here inv
  | statement found went => exact keyed.statement found inv went
  | @abort call found active =>
      have member := (Table.find_some.mp found).1
      apply keyed.update _ inv
      · intro old there
        obtain rfl := Option.some.inj (found.symm.trans there)
        exact ⟨rfl, active⟩
      · exact keyed.kind call member
      · exact plain_nothing
      · exact keyed.uncut call member
      · intro other inside apart same
        by_contra present
        exact apart (keyed.drawn other inside call member same present)
      · refine ⟨?_, fun _ _ => trivial, ?_⟩
        · intro record put
          cases put
        · intro row put
          cases put
      · intro message raised
        cases raised

/-- The promises of the store on its committed rows and on what its calls return. -/
structure Guarantees (state : State) : Prop where
  counted : ∀ row ∈ state.db.counters.rows,
    row.used = charged state.db.reservations row.key ∧ 0 ≤ row.used
  unclamped : ∀ call ∈ state.calls.rows, ∀ record, call.pc = .claimed record →
    ∀ row, state.db.counters.find record.key = some row → record.cost ≤ row.used
  capped : ∀ row ∈ state.db.counters.rows, ∀ limit,
    (∀ call ∈ state.calls.rows, ∀ command, call.operation = .reserve command →
      command.key = row.key → command.limit = limit) → row.used ≤ limit
  unique : ∀ left ∈ state.db.reservations.rows, ∀ right ∈ state.db.reservations.rows,
    left.index = right.index → left.index ≠ none → left = right
  replayed : ∀ call ∈ state.calls.rows, ∀ command, call.operation = .reserve command →
    ∀ reservation, call.pc = .returned (.reservation reservation) →
      ∃ record ∈ state.db.reservations.rows,
        record.id = reservation.id ∧ record.index = commandIndex command
  settledOnce : state.settled.Nodup ∧ ∀ record ∈ state.db.reservations.rows,
    record.status ≠ .reserved ↔ record.id ∈ state.settled
  quiet : ∀ call ∈ state.calls.rows, ∀ message, call.pc ≠ .raised (.runtimeError message)

theorem Keyed.guarantees (keyed : Keyed state) : Guarantees state where
  counted row member := by
    have counted := keyed.inv.balanced.counted row.key row (Table.find_mem member)
    refine ⟨counted, ?_⟩
    rw [counted]
    exact keyed.inv.balanced.charged_nonneg row.key
  unclamped call member record here row found := by
    have standing := keyed.inv.standing call member
    rw [Standing, here] at standing
    exact Claimed.covered keyed.inv.balanced standing found
  capped row member limit same := by
    obtain ⟨call, inside, command, operation, window, within⟩ := keyed.bounded row member
    rw [same call inside command operation window] at within
    exact within
  unique := keyed.unique
  replayed call member command operation reservation here := by
    have replays := (keyed.gained call member).replays command operation
    rw [here] at replays
    exact replays
  settledOnce := ⟨keyed.once, keyed.flipped⟩
  quiet := keyed.quiet

/-- In every state that interleaved transactions reach without resets, with fresh ids and texts
that their columns do not cut. -/
theorem concurrent_quota (actions : List Action) (state : State)
    (reached : run step init actions = some state) (fresh : Meets step Fresh init actions)
    (untroubled : ∀ action ∈ actions, Untroubled action)
    (uncut : ∀ action ∈ actions, UncutCall action) : Guarantees state := by
  apply Keyed.guarantees
  exact run_invariant Keyed
    (fun _ _ _ holds guard taken => holds.step guard.1 guard.2.1 guard.2.2 taken) init_keyed
    (fresh.and ((meets_of_forall init untroubled).and (meets_of_forall init uncut))) reached

instance (action : Action) : Decidable (Untroubled action) :=
  match action with
  | .call _ operation => inferInstanceAs (Decidable (resets operation = false))
  | .execute _ => .isTrue trivial
  | .abort _ => .isTrue trivial

instance (action : Action) : Decidable (UncutCall action) :=
  match action with
  | .call _ (.reserve command) => inferInstanceAs (Decidable (Uncut command))
  | .call _ (.finalize _) => .isTrue trivial
  | .call _ (.refund _) => .isTrue trivial
  | .call _ (.getUsage _) => .isTrue trivial
  | .call _ (.resetUsage _) => .isTrue trivial
  | .call _ (.resetResource _) => .isTrue trivial
  | .execute _ => .isTrue trivial
  | .abort _ => .isTrue trivial

/-- Two calls with one key race for a window in which a third is refunded. -/
def racing : List Action :=
  [.call 1 (spend "first" (some "key")), .call 2 (spend "second" (some "key"))] ++
    turns 1 1 ++ turns 2 1 ++ turns 1 4 ++ [.call 3 (.refund "first")] ++ turns 2 1 ++
    turns 3 1 ++ [.abort 3] ++ turns 2 4 ++ [.call 4 (.refund "first")] ++ turns 4 3

theorem racing_accepted : (run step init racing).isSome = true := by decide +kernel

theorem concurrent_quota_racing : Guarantees ((run step init racing).get racing_accepted) :=
  concurrent_quota racing _ (Option.some_get racing_accepted).symm (by decide +kernel)
    (by decide +kernel) (by decide +kernel)

/-- A key of 256 characters whose last is a blank: the column cuts it. -/
def longKey : String := String.ofList (List.replicate 255 'k' ++ [' '])

def cutKey : List Action :=
  [.call 1 (spend "first" (some longKey))] ++ turns 1 5 ++
    [.call 2 (spend "second" (some longKey))] ++ turns 2 4

theorem cutKey_raises :
    (run step init cutKey).map (fun state => (state.calls.find 2).map Call.pc) =
      some (some (.raised (.runtimeError "quota reservation conflict without a winner"))) := by
  decide +kernel

theorem cutKey_accepted : (run step init cutKey).isSome = true := by
  have ends := congrArg Option.isSome cutKey_raises
  rwa [Option.isSome_map] at ends

/-- The second `reserve` meets the first reservation, and does not find it under the full key. -/
theorem cutKey_conflicts : Meets step Fresh init cutKey ∧
    (∀ action ∈ cutKey, Untroubled action) ∧
      ((((run step init cutKey).get cutKey_accepted).calls.find 2).map Call.pc) =
        some (.raised (.runtimeError "quota reservation conflict without a winner")) ∧
      ¬ Guarantees ((run step init cutKey).get cutKey_accepted) := by
  have raised : ((((run step init cutKey).get cutKey_accepted).calls.find 2).map Call.pc) =
      some (.raised (.runtimeError "quota reservation conflict without a winner")) := by
    have ⟨state, reached, ends⟩ := Option.map_eq_some_iff.mp cutKey_raises
    rw [Option.get_of_eq_some cutKey_accepted reached]
    exact ends
  refine ⟨by decide +kernel, by decide +kernel, raised, ?_⟩
  intro guarantees
  have ⟨call, found, here⟩ := Option.map_eq_some_iff.mp raised
  exact guarantees.quiet call (Table.find_some.mp found).1 _ here

end AiPlatform.Quota.Statements

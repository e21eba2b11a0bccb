import AiPlatform.Quota.MongoConservation

set_option autoImplicit false

/- Concurrent refunds and finalizes of one charged reservation: one of them moves it, and
what every other one answers follows from that. -/
namespace AiPlatform.Quota.Mongo

open Machine

def Event.settles (id : String) : Event → Bool
  | .settled _ reservationId _ => reservationId = id
  | _ => false

def Event.lowers (id : String) : Event → Bool
  | .decremented _ reservationId _ _ => reservationId = id
  | _ => false

/-- A refund or finalize of the reservation shows in the event. -/
def Event.concerns (id : String) : Event → Bool
  | .charged _ _ _ _ => false
  | .settled _ reservationId _ => reservationId = id
  | .decremented _ reservationId _ _ => reservationId = id
  | .returned _ (.serve _) _ => false
  | .returned _ (.settle _ reservationId) _ => reservationId = id

/-- What a settlement of a reservation answers once `winner` has moved it. -/
def Verdict (winner settlement : Settlement) (outcome : Except QuotaError Reply) : Prop :=
  if settlement = winner then ∃ usage, outcome = .ok (.usage usage)
  else outcome = .error settlement.refusal.2

/-- The call will lower the counter for the reservation. -/
def Pc.lowering (id : String) : Pc → Int
  | .decrement doc => if doc.id = id then 1 else 0
  | _ => 0

structure Unsettled (origin : List Event) (doc : Reservation) (state : State) : Prop where
  stored : state.db.reservations.table.find doc.id = some doc
  unawaited : ∀ running ∈ state.calls.table.rows, running.pc.awaits doc.id = false
  waiting : ∀ running ∈ state.calls.table.rows, ∀ settlement,
    running.request = .settle settlement doc.id → running.pc = .claim settlement doc.id
  told : ∃ events, state.log = origin ++ events ∧ ∀ event ∈ events, event.concerns doc.id = false

/-- What the log shows of a settled reservation. -/
structure Account (doc : Reservation) (winner : Settlement) (events : List Event) : Prop where
  once : events.countP (Event.settles doc.id) = 1
  mover : ∃ call, .settled call doc.id winner ∈ events
  lowered : ∀ call key cost, .decremented call doc.id key cost ∈ events →
    key = doc.key ∧ cost = doc.cost
  answered : ∀ call settlement outcome,
    .returned call (.settle settlement doc.id) outcome ∈ events → Verdict winner settlement outcome

structure Settled (origin : List Event) (doc : Reservation) (winner : Settlement) (state : State) :
    Prop where
  stored : state.db.reservations.table.find doc.id = some (doc.settle winner)
  unawaited : ∀ running ∈ state.calls.table.rows, running.pc.awaits doc.id = false
  waiting : ∀ running ∈ state.calls.table.rows, ∀ settlement,
    running.request = .settle settlement doc.id →
      running.pc = .claim settlement doc.id ∨ running.pc = .require settlement doc.id ∨
        settlement = winner ∧
          ((∃ read, running.pc = .usageFor read) ∨ winner = .refund ∧ running.pc = .decrement doc)
  told : ∃ events, state.log = origin ++ events ∧ Account doc winner events ∧
    (events.countP (Event.lowers doc.id) : Int) +
      state.calls.table.total (fun running => running.pc.lowering doc.id) =
        if winner = .refund then 1 else 0

/-- No call comes to await a claim that is stored already. -/
theorem unawaited_kept {state : State} {running : Running} {now : Int} {id : String}
    {doc : Reservation} (found : state.calls.table.find running.id = some running)
    (stored : state.db.reservations.table.find id = some doc)
    (unawaited : ∀ row ∈ state.calls.table.rows, row.pc.awaits id = false) :
    ∀ row ∈ (advanced state running now).calls.table.rows, row.pc.awaits id = false := by
  refine forall_resume found unawaited (fun _ _ _ holds => holds) ?_
  intro pc moves idle
  by_contra waits
  have awaits : pc.awaits id = true := by simpa [Running.goto] using waits
  cases pc <;> simp only [Pc.awaits, Bool.false_eq_true, decide_eq_true_eq] at awaits
  case charge command =>
    obtain ⟨inserts, -⟩ := goto_charge moves
    rw [inserts] at moves
    simp only [perform] at moves
    split at moves
    · rename_i inserted
      have missing := (Table.insert_some.mp (Indexed.insert_table inserted)).1
      have same : (reservationDoc command).id = id := awaits
      rw [same, stored] at missing
      cases missing
    · split at moves <;> cases moves
  case withdraw command =>
    obtain ⟨charges, -, -⟩ := goto_withdraw moves
    simp [charges, Pc.awaits, awaits] at idle

/-- A command of a call that does not settle the reservation leaves no trace on it. -/
structure Foreign (id : String) (call : Nat) (now : Int) (db : Collections) (pc : Pc)
    (running : Running) : Prop where
  stored : ∀ doc, db.reservations.table.find id = some doc →
    (perform call now db pc).db.reservations.table.find id = some doc
  events : ∀ event ∈ (perform call now db pc).events, event.concerns id = false
  report : ∀ event ∈ (perform call now db pc).next.report running, event.concerns id = false
  lowering : pc.lowering id = 0
  lowersNext : (perform call now db pc).next.weight (Pc.lowering id) = 0

theorem Pc.fits.lowering {pc : Pc} {request : Request} {id : String} (fits : pc.fits request)
    (foreign : ∀ settlement, request ≠ .settle settlement id) : pc.lowering id = 0 := by
  cases pc <;> try rfl
  rename_i doc
  simp only [Pc.fits] at fits
  simp only [Pc.lowering]
  exact if_neg fun same => foreign .refund (by rw [fits, same])

theorem foreign_of_request {id : String} {call : Nat} {now : Int} {db : Collections} {pc : Pc}
    {running : Running} (fits : pc.fits running.request) (plain : pc.plain db)
    (unawaited : pc.awaits id = false)
    (foreign : ∀ settlement, running.request ≠ .settle settlement id) :
    Foreign id call now db pc running := by
  constructor
  · intro doc stored
    have change := perform_reservation call now db pc id
    generalize (perform call now db pc).db.reservations.table.find id = after at change ⊢
    rw [stored] at change
    cases change with
    | same => rfl
    | withdrawn command _ withdraws here => simp [withdraws, Pc.awaits, here] at unawaited
    | settled settlement _ claims open_ =>
        rw [claims] at fits
        exact absurd fits (foreign settlement)
    | moved job windowKey rest _ moves =>
        rw [moves] at plain
        exact plain.elim
  · intro event member
    have shows := perform_shows call now db pc
    generalize (perform call now db pc).events = events at shows member
    generalize (perform call now db pc).next = next at shows
    cases shows with
    | nothing => cases member
    | charged command usage =>
        obtain rfl := List.mem_singleton.mp member
        rfl
    | settled settlement other doc found open_ =>
        obtain rfl := List.mem_singleton.mp member
        have apart : other ≠ id := fun same => foreign settlement (by rw [fits, same])
        simp [Event.concerns, apart]
    | decremented doc usage =>
        obtain rfl := List.mem_singleton.mp member
        have apart : doc.id ≠ id := fun same => foreign .refund (by rw [fits, same])
        simp [Event.concerns, apart]
  · intro event member
    cases ends : (perform call now db pc).next with
    | goto next =>
        rw [ends] at member
        cases member
    | done outcome =>
        rw [ends] at member
        obtain rfl := List.mem_singleton.mp member
        cases shape : running.request with
        | serve job => rfl
        | settle settlement other =>
            have apart : other ≠ id := fun same => foreign settlement (by rw [shape, same])
            simp [Event.concerns, apart]
  · exact fits.lowering foreign
  · cases moves : (perform call now db pc).next with
    | goto next => exact (perform_fits fits moves).lowering foreign
    | done outcome => rfl

theorem Event.settles_of_concerns {id : String} {event : Event}
    (quiet : event.concerns id = false) :
    event.settles id = false ∧ event.lowers id = false := by
  cases event <;> simp_all [Event.concerns, Event.settles, Event.lowers]

theorem Account.append {doc : Reservation} {winner : Settlement} {events more : List Event}
    (account : Account doc winner events) (quiet : ∀ event ∈ more, event.settles doc.id = false)
    (lowered : ∀ call key cost, .decremented call doc.id key cost ∈ more →
      key = doc.key ∧ cost = doc.cost)
    (answered : ∀ call settlement outcome,
      .returned call (.settle settlement doc.id) outcome ∈ more →
        Verdict winner settlement outcome) : Account doc winner (events ++ more) := by
  obtain ⟨call, moved⟩ := account.mover
  have silent : more.countP (Event.settles doc.id) = 0 :=
    List.countP_eq_zero.mpr fun event member => by simp [quiet event member]
  refine ⟨?_, ⟨call, List.mem_append_left _ moved⟩, ?_, ?_⟩
  · rw [List.countP_append, account.once, silent]
  · intro call key cost member
    rcases List.mem_append.mp member with old | new
    · exact account.lowered call key cost old
    · exact lowered call key cost new
  · intro call settlement outcome member
    rcases List.mem_append.mp member with old | new
    · exact account.answered call settlement outcome old
    · exact answered call settlement outcome new

section Step

variable {window : Group → String} {origin : List Event} {doc : Reservation} {state : State}
  {running : Running} {now : Int}

/-- Only a settlement of the reservation can have its counter yet to lower. -/
theorem OneWindow.lowering_idle (one : OneWindow window state) {id : String}
    (light : ∀ row ∈ state.calls.table.rows, ∀ settlement,
      row.request = .settle settlement id → row.pc.lowering id = 0) :
    state.calls.table.total (fun running => running.pc.lowering id) = 0 := by
  have nothing : ∀ row ∈ state.calls.table.rows, row.pc.lowering id = 0 := by
    intro row inside
    by_cases foreign : ∀ settlement, row.request ≠ .settle settlement id
    · exact (one.fits row inside).lowering foreign
    · obtain ⟨settlement, asked⟩ := not_forall_not.mp foreign
      exact light row inside settlement asked
  rw [Table.total_congr nothing]
  simp [Table.total]

theorem perform_claim {db : Collections} {id : String} {doc : Reservation} (call : Nat) (now : Int)
    (settlement : Settlement) (found : db.reservations.find id = some doc)
    (open_ : doc.status = .reserved) :
    perform call now db (.claim settlement id) =
      ⟨{ db with
          reservations := db.reservations.modify id (fun doc => doc.settle settlement)
            (fun doc => doc.settle_id settlement) fun doc => doc.settle_index settlement },
        .goto (match settlement with
          | .finalize => .usageFor doc
          | .refund => .decrement doc), [.settled call id settlement]⟩ := by
  cases settlement <;> simp [perform, claimReserved, found, open_]

theorem Unsettled.foreign (unsettled : Unsettled origin doc state) (one : OneWindow window state)
    (found : state.calls.table.find running.id = some running)
    (foreign : ∀ settlement, running.request ≠ .settle settlement doc.id) :
    Unsettled origin doc (advanced state running now) := by
  have member := (Table.find_some.mp found).1
  have apart : Foreign doc.id running.id now state.db running.pc running :=
    foreign_of_request (one.fits running member) (one.calls running member)
      (unsettled.unawaited running member) foreign
  refine ⟨apart.stored doc unsettled.stored,
    unawaited_kept found unsettled.stored unsettled.unawaited,
    ?_, ?_⟩
  · exact forall_resume found unsettled.waiting (fun _ _ _ holds => holds)
      fun pc _ _ settlement asked => absurd asked (foreign settlement)
  · obtain ⟨events, shape, quiet⟩ := unsettled.told
    refine ⟨events ++ ((perform running.id now state.db running.pc).events ++
      (perform running.id now state.db running.pc).next.report running), ?_, ?_⟩
    · simp [advanced, shape]
    · intro event inside
      rcases List.mem_append.mp inside with old | new
      · exact quiet event old
      · rcases List.mem_append.mp new with shown | reported
        · exact apart.events event shown
        · exact apart.report event reported

/-- What a command must meet to keep a reservation settled as it is. -/
theorem Settled.after {winner : Settlement} (settled : Settled origin doc winner state)
    (found : state.calls.table.find running.id = some running)
    (stored : (perform running.id now state.db running.pc).db.reservations.table.find doc.id =
      some (doc.settle winner))
    (next : ∀ pc, (perform running.id now state.db running.pc).next = .goto pc → ∀ settlement,
      running.request = .settle settlement doc.id →
        pc = .claim settlement doc.id ∨ pc = .require settlement doc.id ∨ settlement = winner ∧
          ((∃ read, pc = .usageFor read) ∨ winner = .refund ∧ pc = .decrement doc))
    (quiet : ∀ event ∈ (perform running.id now state.db running.pc).events,
      event.settles doc.id = false)
    (lowered : ∀ call key cost,
      .decremented call doc.id key cost ∈ (perform running.id now state.db running.pc).events →
        key = doc.key ∧ cost = doc.cost)
    (answered : ∀ settlement outcome, running.request = .settle settlement doc.id →
      (perform running.id now state.db running.pc).next = .done outcome →
        Verdict winner settlement outcome)
    (balance : ((perform running.id now state.db running.pc).events.countP
        (Event.lowers doc.id) : Int) - running.pc.lowering doc.id +
      (perform running.id now state.db running.pc).next.weight (Pc.lowering doc.id) = 0) :
    Settled origin doc winner (advanced state running now) := by
  refine ⟨stored, unawaited_kept found settled.stored settled.unawaited, ?_, ?_⟩
  · exact forall_resume found settled.waiting (fun _ _ _ holds => holds)
      fun pc moves _ settlement asked => next pc moves settlement asked
  · obtain ⟨events, shape, account, books⟩ := settled.told
    have reports : ∀ event ∈ (perform running.id now state.db running.pc).next.report running,
        ∃ outcome, (perform running.id now state.db running.pc).next = .done outcome ∧
          event = .returned running.id running.request outcome := by
      intro event inside
      cases ends : (perform running.id now state.db running.pc).next with
      | goto pc =>
          rw [ends] at inside
          cases inside
      | done outcome =>
          rw [ends] at inside
          exact ⟨outcome, rfl, List.mem_singleton.mp inside⟩
    refine ⟨events ++ ((perform running.id now state.db running.pc).events ++
      (perform running.id now state.db running.pc).next.report running),
      by simp [advanced, shape], account.append ?_ ?_ ?_, ?_⟩
    · intro event inside
      rcases List.mem_append.mp inside with shown | reported
      · exact quiet event shown
      · obtain ⟨outcome, -, rfl⟩ := reports event reported
        rfl
    · intro call key cost inside
      rcases List.mem_append.mp inside with shown | reported
      · exact lowered call key cost shown
      · obtain ⟨outcome, -, impossible⟩ := reports _ reported
        cases impossible
    · intro call settlement outcome inside
      rcases List.mem_append.mp inside with shown | reported
      · exact absurd shown returned_not_shown
      · obtain ⟨other, ends, same⟩ := reports _ reported
        simp only [Event.returned.injEq] at same
        obtain ⟨-, asked, rfl⟩ := same
        exact answered settlement outcome asked.symm ends
    · have silent : ((perform running.id now state.db running.pc).next.report running).countP
          (Event.lowers doc.id) = 0 := by
        cases (perform running.id now state.db running.pc).next <;> rfl
      have total := total_resume found (perform running.id now state.db running.pc).next
        (Pc.lowering doc.id)
      simp only [advanced, List.countP_append, silent]
      omega

theorem Settled.foreign {winner : Settlement} (settled : Settled origin doc winner state)
    (one : OneWindow window state) (found : state.calls.table.find running.id = some running)
    (foreign : ∀ settlement, running.request ≠ .settle settlement doc.id) :
    Settled origin doc winner (advanced state running now) := by
  have member := (Table.find_some.mp found).1
  have apart : Foreign doc.id running.id now state.db running.pc running :=
    foreign_of_request (one.fits running member) (one.calls running member)
      (settled.unawaited running member) foreign
  refine settled.after found (apart.stored _ settled.stored) ?_ ?_ ?_ ?_ ?_
  · exact fun pc _ settlement asked => absurd asked (foreign settlement)
  · exact fun event inside => (Event.settles_of_concerns (apart.events event inside)).1
  · intro call key cost inside
    have silent := apart.events _ inside
    simp [Event.concerns] at silent
  · exact fun settlement _ asked => absurd asked (foreign settlement)
  · have none_lowered : (perform running.id now state.db running.pc).events.countP
        (Event.lowers doc.id) = 0 :=
      List.countP_eq_zero.mpr fun event inside => by
        simp [(Event.settles_of_concerns (apart.events event inside)).2]
    rw [none_lowered, apart.lowering, apart.lowersNext]
    rfl

/-- The first settlement to reach the reservation moves it. -/
theorem Unsettled.moved (unsettled : Unsettled origin doc state) (one : OneWindow window state)
    (open_ : doc.status = .reserved)
    (found : state.calls.table.find running.id = some running) {settlement : Settlement}
    (asked : running.request = .settle settlement doc.id) :
    Settled origin doc settlement (advanced state running now) := by
  have member := (Table.find_some.mp found).1
  have claims := unsettled.waiting running member settlement asked
  have present : state.db.reservations.find doc.id = some doc := unsettled.stored
  have result := perform_claim running.id now settlement present open_
  rw [← claims] at result
  have idle : state.calls.table.total (fun running => running.pc.lowering doc.id) = 0 := by
    refine one.lowering_idle ?_
    intro row inside other same
    rw [unsettled.waiting row inside other same]
    rfl
  refine ⟨?_, unawaited_kept found unsettled.stored unsettled.unawaited, ?_, ?_⟩
  · simp only [advanced, result, Indexed.modify, Table.find_modify, ↓reduceIte, unsettled.stored,
      Option.map_some]
  · refine forall_resume found unsettled.waiting (fun _ _ _ holds other same =>
      .inl (holds other same)) ?_
    intro pc moves _ other same
    rw [result] at moves
    have equal : Request.settle settlement doc.id = .settle other doc.id := asked.symm.trans same
    simp only [Request.settle.injEq, and_true] at equal
    subst equal
    cases settlement <;> cases moves
    · exact .inr (.inr ⟨rfl, .inl ⟨doc, rfl⟩⟩)
    · exact .inr (.inr ⟨rfl, .inr ⟨rfl, rfl⟩⟩)
  · obtain ⟨events, shape, quiet⟩ := unsettled.told
    have settles : events.countP (Event.settles doc.id) = 0 :=
      List.countP_eq_zero.mpr fun event inside => by
        simp [(Event.settles_of_concerns (quiet event inside)).1]
    have lowers : events.countP (Event.lowers doc.id) = 0 :=
      List.countP_eq_zero.mpr fun event inside => by
        simp [(Event.settles_of_concerns (quiet event inside)).2]
    refine ⟨events ++
      [.settled running.id doc.id settlement], ?_, ⟨?_, ⟨running.id, by simp⟩, ?_, ?_⟩,
      ?_⟩
    · simp [advanced, result, shape, Next.report]
    · simp [settles, Event.settles]
    · intro call key cost inside
      rcases List.mem_append.mp inside with old | new
      · have silent := quiet _ old
        simp [Event.concerns] at silent
      · simp at new
    · intro call other outcome inside
      rcases List.mem_append.mp inside with old | new
      · have silent := quiet _ old
        simp [Event.concerns] at silent
      · simp at new
    · have total := total_resume found (perform running.id now state.db running.pc).next
        (Pc.lowering doc.id)
      have light : running.pc.lowering doc.id = 0 := by
        rw [claims]
        rfl
      rw [idle, light, result] at total
      simp only [advanced, result, List.countP_append, lowers]
      rw [total]
      cases settlement <;> simp [Event.lowers, Next.weight, Pc.lowering]

theorem Settlement.refusal_eq (settlement winner : Settlement) :
    winner.status = settlement.refusal.1 ↔ settlement ≠ winner := by
  cases settlement <;> cases winner <;> decide

/-- Every later settlement finds the reservation moved and answers accordingly. -/
theorem Settled.late {winner : Settlement} (settled : Settled origin doc winner state)
    (one : OneWindow window state) (found : state.calls.table.find running.id = some running)
    {settlement : Settlement} (asked : running.request = .settle settlement doc.id) :
    Settled origin doc winner (advanced state running now) := by
  have member := (Table.find_some.mp found).1
  have plain := one.calls running member
  have present : state.db.reservations.find doc.id = some (doc.settle winner) := settled.stored
  have same : ∀ other, running.request = .settle other doc.id → other = settlement := by
    intro other again
    have equal : Request.settle settlement doc.id = .settle other doc.id := asked.symm.trans again
    simpa using equal.symm
  rcases settled.waiting running member settlement asked with claims | requires |
    ⟨rfl, reads | lowers⟩
  · have closed : (doc.settle winner).status ≠ .reserved := by
      cases winner <;> simp [Reservation.settle, Settlement.status]
    have result : perform running.id now state.db running.pc =
        ⟨state.db, .goto (.require settlement doc.id), []⟩ := by
      simp [claims, perform, claimReserved, present, closed]
    refine settled.after found (by rw [result]; exact settled.stored) ?_ (by simp [result])
      (by simp [result]) (by simp [result]) (by rw [result, claims]; rfl)
    intro pc moves other again
    rw [result] at moves
    cases moves
    rw [same other again]
    exact .inr (.inl rfl)
  · by_cases won : settlement = winner
    · subst won
      have matched : (doc.settle settlement).status ≠ settlement.refusal.1 := fun refused =>
        (Settlement.refusal_eq settlement settlement).mp refused rfl
      have result : perform running.id now state.db running.pc =
          ⟨state.db, .goto (.usageFor (doc.settle settlement)), []⟩ := by
        simp [requires, perform, present, matched]
      refine settled.after found (by rw [result]; exact settled.stored) ?_ (by simp [result])
        (by simp [result]) (by simp [result]) (by rw [result, requires]; rfl)
      intro pc moves other again
      rw [result] at moves
      cases moves
      exact .inr (.inr ⟨same other again, .inl ⟨_, rfl⟩⟩)
    · have refused : (doc.settle winner).status = settlement.refusal.1 :=
        (Settlement.refusal_eq settlement winner).mpr won
      have result : perform running.id now state.db running.pc =
          ⟨state.db, .done (.error settlement.refusal.2), []⟩ := by
        simp [requires, perform, present, refused]
      refine settled.after found (by rw [result]; exact settled.stored) (by simp [result])
        (by simp [result]) (by simp [result]) ?_ (by rw [result, requires]; rfl)
      intro other outcome again ends
      rw [result] at ends
      cases ends
      rw [same other again, Verdict, if_neg won]
  · obtain ⟨read, reads⟩ := reads
    rw [reads] at plain
    obtain ⟨counter, counted⟩ := Option.ne_none_iff_exists'.mp plain
    have result : perform running.id now state.db running.pc =
        ⟨state.db, .done (.ok (.usage (usageFromCounter counter))), []⟩ := by
      simp [reads, perform, counted]
    refine settled.after found (by rw [result]; exact settled.stored) (by simp [result])
      (by simp [result]) (by simp [result]) ?_ (by rw [result, reads]; rfl)
    intro other outcome again ends
    rw [result] at ends
    cases ends
    rw [same other again, Verdict, if_pos rfl]
    exact ⟨_, rfl⟩
  · obtain ⟨-, lowers⟩ := lowers
    rw [lowers] at plain
    obtain ⟨counter, counted⟩ := Option.ne_none_iff_exists'.mp plain.1
    have result : perform running.id now state.db running.pc =
        ⟨{ state.db with counters := decrement state.db.counters doc },
          .done (.ok (.usage (usageFromCounter (counter.lower doc.cost)))),
          [.decremented running.id doc.id doc.key doc.cost]⟩ := by
      simp [lowers, perform, counted]
    refine settled.after found (by rw [result]; exact settled.stored) (by simp [result])
      (by simp [result, Event.settles]) (by simp +contextual [result]) ?_
      (by rw [result, lowers]; simp [Pc.lowering, Next.weight, Event.lowers])
    intro other outcome again ends
    rw [result] at ends
    cases ends
    rw [same other again, Verdict, if_pos rfl]
    exact ⟨_, rfl⟩

end Step

theorem Request.entry_lowering (request : Request) (id : String) :
    request.entry.lowering id = 0 := by
  cases request <;> rfl

theorem Request.entry_awaits (request : Request) (id : String) :
    request.entry.awaits id = false := by
  cases request <;> rfl

theorem step_settled {window : Group → String} {origin : List Event} {doc : Reservation}
    {winner : Settlement} {state next : State} {action : Action} (one : OneWindow window state)
    (settled : Settled origin doc winner state) (stepped : step state action = some next) :
    Settled origin doc winner next := by
  cases action with
  | start call request =>
      obtain ⟨-, calls, added, rfl⟩ := step_start stepped
      refine ⟨settled.stored, ?_, ?_, ?_⟩
      · intro running member
        rcases mem_start added member with old | rfl
        · exact settled.unawaited running old
        · exact request.entry_awaits doc.id
      · intro running member settlement asked
        rcases mem_start added member with old | rfl
        · exact settled.waiting running old settlement asked
        · have shape : request = .settle settlement doc.id := asked
          subst shape
          exact .inl rfl
      · obtain ⟨events, shape, account, books⟩ := settled.told
        refine ⟨events, shape, account, ?_⟩
        rw [Table.total_insert added, Request.entry_lowering]
        omega
  | advance call now =>
      obtain ⟨-, running, found, rfl, rfl⟩ := step_advance stepped
      by_cases foreign : ∀ settlement, running.request ≠ .settle settlement doc.id
      · exact settled.foreign one found foreign
      · obtain ⟨settlement, asked⟩ := not_forall_not.mp foreign
        exact settled.late one found asked

theorem step_unsettled {window : Group → String} {origin : List Event} {doc : Reservation}
    {state next : State} {action : Action} (open_ : doc.status = .reserved)
    (one : OneWindow window state) (unsettled : Unsettled origin doc state)
    (stepped : step state action = some next) :
    Unsettled origin doc next ∨ ∃ winner, Settled origin doc winner next := by
  cases action with
  | start call request =>
      obtain ⟨-, calls, added, rfl⟩ := step_start stepped
      refine .inl ⟨unsettled.stored, ?_, ?_, unsettled.told⟩
      · intro running member
        rcases mem_start added member with old | rfl
        · exact unsettled.unawaited running old
        · exact request.entry_awaits doc.id
      · intro running member settlement asked
        rcases mem_start added member with old | rfl
        · exact unsettled.waiting running old settlement asked
        · have shape : request = .settle settlement doc.id := asked
          subst shape
          rfl
  | advance call now =>
      obtain ⟨-, running, found, rfl, rfl⟩ := step_advance stepped
      by_cases foreign : ∀ settlement, running.request ≠ .settle settlement doc.id
      · exact .inl (unsettled.foreign one found foreign)
      · obtain ⟨settlement, asked⟩ := not_forall_not.mp foreign
        exact .inr ⟨settlement, unsettled.moved one open_ found asked⟩

theorem run_settlement {window : Group → String} {origin : List Event} {doc : Reservation}
    {state final : State} {actions : List Action} (open_ : doc.status = .reserved)
    (one : OneWindow window state)
    (start : Unsettled origin doc state ∨ ∃ winner, Settled origin doc winner state)
    (windowed : ∀ action ∈ actions, action.within window)
    (reached : run step state actions = some final) :
    OneWindow window final ∧
      (Unsettled origin doc final ∨ ∃ winner, Settled origin doc winner final) ∧
      ∀ winner, Settled origin doc winner state → Settled origin doc winner final := by
  have kept : ∀ (middle : State) (action : Action) (next : State),
      (OneWindow window middle ∧
        (Unsettled origin doc middle ∨ ∃ winner, Settled origin doc winner middle) ∧
        ∀ winner, Settled origin doc winner state → Settled origin doc winner middle) →
      action.within window → step middle action = some next →
      OneWindow window next ∧
        (Unsettled origin doc next ∨ ∃ winner, Settled origin doc winner next) ∧
        ∀ winner, Settled origin doc winner state → Settled origin doc winner next := by
    rintro middle action next ⟨one, phase, stays⟩ within stepped
    refine ⟨step_oneWindow one within stepped, ?_, ?_⟩
    · rcases phase with unsettled | ⟨winner, settled⟩
      · exact step_unsettled open_ one unsettled stepped
      · exact .inr ⟨winner, step_settled one settled stepped⟩
    · exact fun winner before => step_settled one (stays winner before) stepped
  exact run_invariant _ kept ⟨one, start, fun _ before => before⟩
    (meets_of_forall _ windowed) reached

/-- What an event adds to the counter of a window. -/
def Event.delta (key : Group × String) : Event → Int
  | .charged _ _ counterKey cost => if counterKey = key then cost else 0
  | .decremented _ _ counterKey cost => if counterKey = key then -cost else 0
  | _ => 0

theorem perform_delta (call : Nat) (now : Int) {db : Collections} {pc : Pc} (plain : pc.plain db)
    (key : Group × String) :
    usedAt (perform call now db pc).db.counters key =
      usedAt db.counters key +
        ((perform call now db pc).events.map (Event.delta key)).sum := by
  have refreshed : ∀ (target : Target) (amount : Int) (counter : Counter),
      db.counters.find target.key = some counter →
      usedAt (increment db.counters target amount) key =
        usedAt db.counters key + if target.key = key then amount else 0 := by
    intro target amount counter found
    unfold usedAt
    rw [find_increment]
    by_cases here : key = target.key
    · subst here
      simp [found]
    · have apart : target.key ≠ key := fun same => here same.symm
      simp [here, apart]
  have touched : ∀ target : Target, usedAt (increment db.counters target 0) key =
      usedAt db.counters key := by
    intro target
    cases found : db.counters.find target.key with
    | none => rw [increment, Table.modify_missing found]
    | some counter => simp [refreshed target 0 counter found]
  cases pc
  case touch job => simp [perform, touched]
  case ensureCounter command =>
    simp only [perform, usedAt, find_upsert]
    split
    · cases db.counters.find key <;> simp [Target.counter]
    · simp
  case charge command =>
    simp only [perform]
    split
    · simp
    · rename_i counter found
      split
      · simp [refreshed _ _ counter found, Event.delta]
      · simp
  case readUsage query =>
    simp only [perform]
    split <;> simp [touched]
  case decrement doc =>
    obtain ⟨counter, found⟩ := Option.ne_none_iff_exists'.mp plain.1
    simp only [perform, found, usedAt, decrement, Table.find_modify]
    by_cases here : key = doc.key
    · subst here
      simp [found, Event.delta]
      omega
    · have apart : doc.key ≠ key := fun same => here same.symm
      simp [here, apart, Event.delta]
  case claimStale job windowKey rest => exact plain.elim
  case addToTarget job windowKey used rest => exact plain.elim
  case claim settlement id =>
    simp only [perform]
    split <;> simp [Event.delta]
  all_goals
    simp only [perform]
    repeat' split
    all_goals simp

theorem run_delta {window : Group → String} {state final : State} {actions : List Action}
    (one : OneWindow window state) (windowed : ∀ action ∈ actions, action.within window)
    (reached : run step state actions = some final) (key : Group × String) :
    ∃ events, final.log = state.log ++ events ∧
      usedAt final.db.counters key =
        usedAt state.db.counters key + (events.map (Event.delta key)).sum := by
  have kept : ∀ (middle : State) (action : Action) (next : State),
      (OneWindow window middle ∧ ∃ events, middle.log = state.log ++ events ∧
        usedAt middle.db.counters key =
          usedAt state.db.counters key + (events.map (Event.delta key)).sum) →
      action.within window → step middle action = some next →
      OneWindow window next ∧ ∃ events, next.log = state.log ++ events ∧
        usedAt next.db.counters key =
          usedAt state.db.counters key + (events.map (Event.delta key)).sum := by
    rintro middle action next ⟨one, events, shape, sum⟩ within stepped
    refine ⟨step_oneWindow one within stepped, ?_⟩
    cases action with
    | start call request =>
        obtain ⟨-, calls, -, rfl⟩ := step_start stepped
        exact ⟨events, shape, sum⟩
    | advance call now =>
        obtain ⟨-, running, found, rfl, rfl⟩ := step_advance stepped
        have plain := one.calls running (Table.find_some.mp found).1
        have delta := perform_delta running.id now plain key
        have silent : (((perform running.id now middle.db running.pc).next.report running).map
            (Event.delta key)).sum = 0 := by
          cases (perform running.id now middle.db running.pc).next <;> rfl
        refine ⟨events ++ (perform running.id now middle.db running.pc).events ++
          (perform running.id now middle.db running.pc).next.report running,
          by simp [advanced, shape], ?_⟩
        simp only [advanced, List.map_append, List.sum_append, silent]
        omega
  exact (run_invariant _ kept ⟨one, [], by simp, by simp⟩ (meets_of_forall _ windowed) reached).2

/-- Of the refunds and finalizes of a charged reservation, in any interleaving, exactly one moves
it; its kind is the final status for good, the counter is lowered by the cost once for a refund
and never for a finalize, and every call answers by its kind. -/
theorem settled_exactly_once (window : Group → String) (start : Int) (before after : List Action)
    (state final : State) (doc : Reservation)
    (reached : run step (.init start) before = some state)
    (onward : run step state after = some final)
    (windowed : ∀ action ∈ before ++ after, action.within window)
    (stored : state.db.reservations.table.find doc.id = some doc)
    (open_ : doc.status = .reserved)
    (completed : ∀ running ∈ state.calls.table.rows, running.pc.awaits doc.id = false)
    (untouched : ∀ running ∈ state.calls.table.rows, ∀ settlement,
      running.request ≠ .settle settlement doc.id)
    (called : ∃ call settlement, .start call (.settle settlement doc.id) ∈ after)
    (finished : ∀ running ∈ final.calls.table.rows, ∀ settlement,
      running.request ≠ .settle settlement doc.id) :
    ∃ winner events, final.log = state.log ++ events ∧
      final.db.reservations.table.find doc.id = some (doc.settle winner) ∧
      Account doc winner events ∧
      events.countP (Event.lowers doc.id) = (if winner = .refund then 1 else 0) ∧
      (∀ key, usedAt final.db.counters key =
        usedAt state.db.counters key + (events.map (Event.delta key)).sum) ∧
      (∀ call settlement, .start call (.settle settlement doc.id) ∈ after →
        ∃ outcome, .returned call (.settle settlement doc.id) outcome ∈ events) ∧
      ∀ first second middle settled, after = first ++ second →
        run step state first = some middle →
        middle.db.reservations.table.find doc.id = some settled → settled.status ≠ .reserved →
        settled = doc.settle winner := by
  have one : OneWindow window state :=
    run_oneWindow (fun action member => windowed action (List.mem_append_left _ member)) reached
  have windowedAfter : ∀ action ∈ after, action.within window := fun action member =>
    windowed action (List.mem_append_right _ member)
  have unsettled : Unsettled state.log doc state :=
    ⟨stored, completed, fun running member settlement asked =>
      absurd asked (untouched running member settlement), [], by simp, by simp⟩
  obtain ⟨finalOne, phase, -⟩ := run_settlement open_ one (.inl unsettled) windowedAfter onward
  have answers : ∀ call settlement, .start call (.settle settlement doc.id) ∈ after →
      ∃ events outcome, final.log = state.log ++ events ∧
        .returned call (.settle settlement doc.id) outcome ∈ events := by
    intro call settlement member
    rcases run_started onward member with ⟨running, inside, -, asked⟩ | served
    · exact absurd asked (finished running inside settlement)
    · exact served
  rcases phase with still | ⟨winner, settled⟩
  · obtain ⟨call, settlement, member⟩ := called
    obtain ⟨events, outcome, shape, told⟩ := answers call settlement member
    obtain ⟨quietEvents, quietShape, quiet⟩ := still.told
    obtain rfl := List.append_cancel_left (shape.symm.trans quietShape)
    have silent := quiet _ told
    simp [Event.concerns] at silent
  · obtain ⟨events, shape, account, books⟩ := settled.told
    have idle : final.calls.table.total (fun running => running.pc.lowering doc.id) = 0 :=
      finalOne.lowering_idle fun row inside settlement asked =>
        absurd asked (finished row inside settlement)
    refine ⟨winner, events, shape, settled.stored, account, ?_, ?_, ?_, ?_⟩
    · rw [idle] at books
      by_cases refunded : winner = .refund
      · rw [if_pos refunded] at books ⊢
        omega
      · rw [if_neg refunded] at books ⊢
        omega
    · intro key
      obtain ⟨others, otherShape, sum⟩ := run_delta one windowedAfter onward key
      obtain rfl := List.append_cancel_left (shape.symm.trans otherShape)
      exact sum
    · intro call settlement member
      obtain ⟨others, outcome, otherShape, told⟩ := answers call settlement member
      obtain rfl := List.append_cancel_left (shape.symm.trans otherShape)
      exact ⟨outcome, told⟩
    · intro first second middle moved split early found closed
      subst split
      obtain ⟨middle', early', late⟩ := run_append_some.mp onward
      obtain rfl := Option.some.inj (early.symm.trans early')
      obtain ⟨middleOne, middlePhase, -⟩ := run_settlement open_ one (.inl unsettled)
        (fun action member => windowedAfter action (List.mem_append_left _ member)) early
      rcases middlePhase with unmoved | ⟨other, movedAlready⟩
      · rw [unmoved.stored] at found
        cases found
        exact absurd open_ closed
      · obtain ⟨-, -, stays⟩ := run_settlement open_ middleOne (.inr ⟨other, movedAlready⟩)
          (fun action member => windowedAfter action (List.mem_append_right _ member)) late
        have same := (stays other movedAlready).stored
        rw [settled.stored] at same
        rw [movedAlready.stored] at found
        rw [← Option.some.inj found, Option.some.inj same]

def chargedReservation : List Action :=
  [.start 1 (keyedReserve "a"), .advance 1 0, .advance 1 0, .advance 1 0,
    .advance 1 0, .advance 1 0]

/-- A refund and a finalize race for a charged reservation. -/
def racingSettlements : List Action :=
  [.start 2 (.settle .refund "a"), .start 3 (.settle .finalize "a"), .advance 3 1, .advance 2 2,
    .advance 2 3, .advance 3 4]

theorem chargedReservation_accepted :
    (run step (.init 0) chargedReservation).isSome = true := by
  decide +kernel

theorem racingSettlements_accepted :
    (run step ((run step (.init 0) chargedReservation).get chargedReservation_accepted)
      racingSettlements).isSome = true := by
  decide +kernel

theorem racing_settlements_exactly_once :
    ∃ state final, run step (.init 0) chargedReservation = some state ∧
      run step state racingSettlements = some final ∧
      ∃ winner, final.db.reservations.table.find "a" = some
        (Reservation.settle ⟨"a", "s", "r", "w", 2, .reserved, some "k", 100⟩ winner) := by
  have reached := (Option.some_get chargedReservation_accepted).symm
  have onward := (Option.some_get racingSettlements_accepted).symm
  obtain ⟨winner, events, -, stored, -⟩ := settled_exactly_once (fun _ => "w") 0
    chargedReservation racingSettlements _ _ ⟨"a", "s", "r", "w", 2, .reserved, some "k", 100⟩
    reached onward (by decide) (by decide +kernel) rfl (by decide +kernel) (by
      intro running member settlement
      have idle : ((run step (.init 0) chargedReservation).get
        chargedReservation_accepted).calls.table.rows = [] := by decide +kernel
      rw [idle] at member
      cases member) ⟨2, .refund, List.mem_cons_self⟩ (by
      intro running member settlement
      have idle : ((run step ((run step (.init 0) chargedReservation).get
        chargedReservation_accepted) racingSettlements).get
          racingSettlements_accepted).calls.table.rows = [] := by decide +kernel
      rw [idle] at member
      cases member)
  exact ⟨_, _, reached, onward, winner, stored⟩

end AiPlatform.Quota.Mongo

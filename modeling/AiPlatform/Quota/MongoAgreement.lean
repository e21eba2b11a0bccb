import AiPlatform.Quota.MongoConservation

set_option autoImplicit false

/- What `reserve` calls with one key return: a reservation that stays and is charged once,
unless its claim is withdrawn after another call has read it. -/
namespace AiPlatform.Quota.Mongo

open Machine

def Event.charges (id : String) : Event → Bool
  | .charged _ reservationId _ _ => reservationId = id
  | _ => false

def Event.returns (id : String) : Event → Bool
  | .returned _ _ (.ok (.reservation reservation)) => reservation.id = id
  | _ => false

/-- The cost of the reservation was added to its counter, once. -/
def ChargedOnce (log : List Event) (doc : Reservation) : Prop :=
  log.countP (Event.charges doc.id) = 1 ∧
    ∃ call, .charged call doc.id doc.key doc.cost ∈ log

/-- Every returned reservation is stored and charged once, and the counters hold what the stored
reservations cost. -/
def Agreement (state : State) : Prop :=
  (∀ call request reservation,
    .returned call request (.ok (.reservation reservation)) ∈ state.log →
    ∃ doc usage, reservation = reservationFromDoc doc usage ∧
      state.db.reservations.table.find doc.id = some doc ∧ ChargedOnce state.log doc) ∧
    ∀ key, usedAt state.db.counters key = windowHeld state.db.reservations key

def Action.reserves : Action → Bool
  | .start _ (.settle _ _) => false
  | _ => true

def Pc.answers (id : String) : Pc → Bool
  | .answer doc => doc.id = id
  | _ => false

/-- A call withdraws its claim only if no other call has read it. -/
def withdrawsUnread (state : State) (action : Action) : Bool :=
  match action.pc state with
  | some (.withdraw command) =>
      (state.calls.table.rows.all fun other => !other.pc.answers command.reservationId) &&
        state.log.all fun event => !event.returns command.reservationId
  | _ => true

def Request.isServe : Request → Bool
  | .serve _ => true
  | .settle _ _ => false

structure Agreed (state : State) : Prop where
  serves : ∀ running ∈ state.calls.table.rows, running.request.isServe = true
  drawn : ∀ running ∈ state.calls.table.rows, ∀ id, running.drawnId = some id → id ∈ state.drawn
  claims : ∀ running ∈ state.calls.table.rows, ∀ command,
    running.pc = .charge command ∨ running.pc = .withdraw command →
    state.db.reservations.table.find command.reservationId = some (reservationDoc command)
  answers : ∀ running ∈ state.calls.table.rows, ∀ doc, running.pc = .answer doc →
    state.db.reservations.table.find doc.id = some doc
  returned : ∀ call request reservation,
    .returned call request (.ok (.reservation reservation)) ∈ state.log →
    ∃ doc usage, reservation = reservationFromDoc doc usage ∧
      state.db.reservations.table.find doc.id = some doc
  uncharged : ∀ running ∈ state.calls.table.rows, ∀ id, running.drawnId = some id →
    state.log.countP (Event.charges id) = 0
  fresh : ∀ id, id ∉ state.drawn → state.log.countP (Event.charges id) = 0
  charged : ∀ doc ∈ state.db.reservations.table.rows,
    (∀ running ∈ state.calls.table.rows, running.pc.awaits doc.id = false) →
    ChargedOnce state.log doc

theorem Agreed.init (start : Int) : Agreed (.init start) := by
  constructor <;> simp [State.init, Indexed.empty]

theorem report_charges (running : Running) (next : Next) (id : String) :
    (next.report running).countP (Event.charges id) = 0 := by
  cases next <;> rfl

/-- Only the success of its own `reserve` call charges a claim. -/
theorem events_charges {call : Nat} {now : Int} {db : Collections} {pc : Pc} {id : String}
    (unawaited : pc.awaits id = false ∨ ∃ next, (perform call now db pc).next = .goto next) :
    (perform call now db pc).events.countP (Event.charges id) = 0 := by
  have shows := perform_shows call now db pc
  generalize (perform call now db pc).next = next at shows unawaited
  generalize (perform call now db pc).events = events at shows
  cases shows with
  | nothing => rfl
  | charged command usage =>
      rcases unawaited with other | ⟨next, moves⟩
      · have apart : command.reservationId ≠ id := by simpa [Pc.awaits] using other
        simp [Event.charges, apart]
      · cases moves
  | settled settlement id doc found open_ => rfl
  | decremented doc usage => rfl

theorem Pc.fits.not_claim {pc : Pc} {request : Request} (fits : pc.fits request)
    (serves : request.isServe = true) (settlement : Settlement) (id : String) :
    pc ≠ .claim settlement id := by
  rintro rfl
  simp only [Pc.fits] at fits
  rw [fits] at serves
  cases serves

section Step

variable {window : Group → String} {state : State} {running : Running} {now : Int}

/-- Without refunds, finalizes and migrations a reservation stays as it is until withdrawn. -/
theorem stored_kept (call : Nat) (now : Int) {db : Collections} {pc : Pc} {request : Request}
    (fits : pc.fits request) (serves : request.isServe = true) (plain : pc.plain db)
    {id : String} {doc : Reservation} (stored : db.reservations.table.find id = some doc)
    (kept : ∀ command, pc = .withdraw command → command.reservationId ≠ id) :
    (perform call now db pc).db.reservations.table.find id = some doc := by
  have change := perform_reservation call now db pc id
  generalize (perform call now db pc).db.reservations.table.find id = after at change ⊢
  rw [stored] at change
  cases change with
  | same => rfl
  | withdrawn command _ withdraws here => exact absurd here.symm (kept command withdraws)
  | settled settlement _ claims open_ => exact absurd claims (fits.not_claim serves settlement id)
  | moved job windowKey rest _ moves =>
      rw [moves] at plain
      exact plain.elim

/-- The call that stops awaiting a stored claim has charged it. -/
theorem charged_now (one : OneWindow window state) (agreed : Agreed state)
    (found : state.calls.table.find running.id = some running) {doc : Reservation}
    (stored : (perform running.id now state.db running.pc).db.reservations.table.find doc.id =
      some doc) (awaits : running.pc.awaits doc.id = true)
    (quiet : ∀ row ∈ (advanced state running now).calls.table.rows,
      row.pc.awaits doc.id = false) :
    ChargedOnce (advanced state running now).log doc := by
  have member := (Table.find_some.mp found).1
  have fits := one.fits running member
  have serves := agreed.serves running member
  have plain := one.calls running member
  have none_before := agreed.uncharged running member doc.id (fits.drawnId awaits)
  cases shape : running.pc <;>
    simp only [shape, Pc.awaits, Bool.false_eq_true, decide_eq_true_eq] at awaits
  case withdraw command =>
    rw [shape] at stored
    have left : (state.db.reservations.table.remove doc.id).find doc.id = some doc := by
      simpa [perform, Indexed.remove, Indexed.erase, Table.remove, awaits] using stored
    rw [Table.find_remove, if_pos rfl] at left
    cases left
  case charge command =>
    have claim := agreed.claims running member command (.inl shape)
    have same := stored_kept running.id now fits serves plain claim (by simp [shape])
    rw [awaits, stored] at same
    obtain rfl := Option.some.inj same
    have shows := perform_shows running.id now state.db (.charge command)
    generalize moves : (perform running.id now state.db (.charge command)).next = next at shows
    generalize told : (perform running.id now state.db (.charge command)).events = events at shows
    cases shows with
    | nothing _ _ refused late lost =>
        exfalso
        have row := mem_resume_own (.withdraw command) found
        rw [← refused command rfl, ← moves, ← shape] at row
        have awaited := quiet _ row
        simp [Running.goto, Pc.awaits, reservationDoc] at awaited
    | charged _ usage =>
        refine ⟨?_, running.id, ?_⟩
        · simp only [advanced, shape, told, List.countP_append, report_charges, none_before]
          simp [Event.charges, reservationDoc]
        · simp only [advanced, shape, told, List.mem_append, List.mem_singleton]
          exact .inl (.inr rfl)

/-- The call that awaits a claim is the only one that drew its id. -/
theorem awaits_alone (one : OneWindow window state) (member : running ∈ state.calls.table.rows)
    {id : String} (awaits : running.pc.awaits id = true) {other : Running}
    (inside : other ∈ state.calls.table.rows) (apart : other.id ≠ running.id) :
    other.drawnId ≠ some id := by
  intro drew
  have mine : running.drawnId = some id := (one.fits running member).drawnId awaits
  refine apart (congrArg Running.id (state.calls.indexed other inside running member
    (drew.trans mine.symm) ?_))
  rw [drew]
  simp

theorem withdrawsUnread_withdraw (found : state.calls.table.find running.id = some running)
    (unread : withdrawsUnread state (.advance running.id now) = true) {command : ReserveQuota}
    (withdraws : running.pc = .withdraw command) :
    (∀ other ∈ state.calls.table.rows, ∀ doc, other.pc = .answer doc →
      command.reservationId ≠ doc.id) ∧
    ∀ call request reservation,
      .returned call request (.ok (.reservation reservation)) ∈ state.log →
        command.reservationId ≠ reservation.id := by
  have sends : Action.pc state (.advance running.id now) = some (.withdraw command) := by
    simp [Action.pc, Indexed.find, found, withdraws]
  simp only [withdrawsUnread, sends, Bool.and_eq_true, List.all_eq_true] at unread
  constructor
  · intro other inside doc answers same
    have free := unread.1 other inside
    simp [answers, Pc.answers, same] at free
  · intro call request reservation inside same
    have free := unread.2 _ inside
    simp [Event.returns, same] at free

/-- A stored claim that the call did not await was there before, and charged. -/
theorem charged_before (one : OneWindow window state) (agreed : Agreed state)
    (found : state.calls.table.find running.id = some running) {doc : Reservation}
    (stored : (perform running.id now state.db running.pc).db.reservations.table.find doc.id =
      some doc) (silent : running.pc.awaits doc.id = false)
    (quiet : ∀ row ∈ (advanced state running now).calls.table.rows,
      row.pc.awaits doc.id = false) :
    ChargedOnce (advanced state running now).log doc := by
  have member := (Table.find_some.mp found).1
  have fits := one.fits running member
  have plain := one.calls running member
  have change := perform_reservation running.id now state.db running.pc doc.id
  generalize origin : state.db.reservations.table.find doc.id = before at change
  rw [stored] at change
  have old : before = some doc := by
    cases change with
    | same => rfl
    | inserted command inserts own =>
        exfalso
        have moves :
            (perform running.id now state.db running.pc).next = .goto (.charge command) := by
          rw [inserts] at stored ⊢
          exact insert_charges (own ▸ origin) (by rw [← own, stored]; simp)
        have awaited := quiet (running.goto (.charge command))
          (by simp only [advanced, moves]; exact mem_resume_own _ found)
        simp [Running.goto, Pc.awaits, reservationDoc] at awaited
    | settled settlement old claims open_ =>
        exact absurd claims (fits.not_claim (agreed.serves running member) settlement _)
    | moved job windowKey rest old moves =>
        rw [moves] at plain
        exact plain.elim
  have earlier : ∀ row ∈ state.calls.table.rows, row.pc.awaits doc.id = false := by
    intro row inside
    by_cases apart : row.id = running.id
    · rw [Table.eq_of_key inside member apart]
      exact silent
    · exact quiet row (mem_resume_other _ inside apart)
  obtain ⟨once, call, event⟩ :=
    agreed.charged doc (Table.find_some.mp (origin.trans old)).1 earlier
  refine ⟨?_, call, ?_⟩
  · simp only [advanced, List.countP_append, report_charges, events_charges (.inl silent), once]
  · simp [advanced, event]

/-- What was returned before stays stored, and what the call returns is stored. -/
theorem returned_stored (one : OneWindow window state) (agreed : Agreed state)
    (found : state.calls.table.find running.id = some running)
    (unread : withdrawsUnread state (.advance running.id now) = true) {call : Nat}
    {request : Request} {reservation : QuotaReservation}
    (told : .returned call request (.ok (.reservation reservation)) ∈
      (advanced state running now).log) :
    ∃ doc usage, reservation = reservationFromDoc doc usage ∧
      (advanced state running now).db.reservations.table.find doc.id = some doc := by
  have member := (Table.find_some.mp found).1
  have kept := @stored_kept running.id now state.db running.pc running.request
    (one.fits running member) (agreed.serves running member) (one.calls running member)
  simp only [advanced, List.mem_append] at told
  rcases told with (old | event) | report
  · obtain ⟨doc, usage, same, stored⟩ := agreed.returned call request reservation old
    refine ⟨doc, usage, same, kept stored ?_⟩
    intro command withdraws
    have own : doc.id = reservation.id := by
      rw [same]
      rfl
    rw [own]
    exact (withdrawsUnread_withdraw found unread withdraws).2 call request reservation old
  · exact absurd event returned_not_shown
  · generalize ends : (perform running.id now state.db running.pc).next = next at report
    cases next with
    | goto pc => cases report
    | done outcome =>
        simp only [Next.report, List.mem_singleton, Event.returned.injEq] at report
        obtain ⟨-, -, rfl⟩ := report
        rcases done_reservation ends with ⟨command, usage, charges, rfl⟩ |
          ⟨doc, usage, answers, rfl⟩
        · refine ⟨reservationDoc command, usage, rfl, kept ?_ (by simp [charges])⟩
          exact agreed.claims running member command (.inl charges)
        · exact ⟨doc, usage, rfl, kept (agreed.answers running member doc answers)
            (by simp [answers])⟩

theorem advanced_agreed (one : OneWindow window state) (agreed : Agreed state)
    (found : state.calls.table.find running.id = some running)
    (unread : withdrawsUnread state (.advance running.id now) = true) :
    Agreed (advanced state running now) := by
  have member := (Table.find_some.mp found).1
  have fits := one.fits running member
  have kept := @stored_kept running.id now state.db running.pc running.request fits
    (agreed.serves running member) (one.calls running member)
  constructor
  case serves =>
    exact forall_resume found agreed.serves (fun _ _ _ holds => holds) fun _ _ holds => holds
  case drawn =>
    exact forall_resume found agreed.drawn (fun _ _ _ holds => holds) fun _ _ holds => holds
  case claims =>
    refine forall_resume found agreed.claims ?_ ?_
    · intro row inside apart holds command shape
      refine kept (holds command shape) ?_
      intro withdrawn withdraws same
      have awaits : running.pc.awaits withdrawn.reservationId = true := by
        simp [withdraws, Pc.awaits]
      refine awaits_alone one member awaits inside apart ((one.fits row inside).drawnId ?_)
      rcases shape with shape | shape <;> simp [shape, Pc.awaits, same]
    · intro pc moves holds command shape
      rcases shape with shape | shape <;> simp only [Running.goto] at shape <;> subst shape
      · exact (goto_charge moves).2
      · obtain ⟨charges, same, -⟩ := goto_withdraw moves
        simp only [advanced, same]
        exact holds command (.inl charges)
  case answers =>
    refine forall_resume found agreed.answers ?_ ?_
    · intro row inside apart holds doc answers
      exact kept (holds doc answers) fun command withdraws =>
        (withdrawsUnread_withdraw found unread withdraws).1 row inside doc answers
    · intro pc moves holds doc answers
      simp only [Running.goto] at answers
      subst answers
      obtain ⟨command, -, search, same⟩ := goto_answer moves
      simp only [advanced, same]
      exact Table.find_mem (findIdempotentReservation_mem search).1
  case returned =>
    intro call request reservation told
    exact returned_stored one agreed found unread told
  case uncharged =>
    refine forall_resume found agreed.uncharged ?_ ?_
    · intro row inside apart holds id drew
      have silent : running.pc.awaits id = false := by
        by_contra awaits
        exact awaits_alone one member (by simpa using awaits) inside apart drew
      simp only [advanced, List.countP_append, report_charges, events_charges (.inl silent),
        holds id drew]
    · intro pc moves holds id drew
      simp only [advanced, List.countP_append, report_charges, events_charges (.inr ⟨pc, moves⟩),
        holds id drew]
  case fresh =>
    intro id undrawn
    have silent : running.pc.awaits id = false := by
      by_contra awaits
      exact undrawn (agreed.drawn running member id (fits.drawnId (by simpa using awaits)))
    simp only [advanced, List.countP_append, report_charges, events_charges (.inl silent),
      agreed.fresh id undrawn]
  case charged =>
    intro doc inside quiet
    have here : (perform running.id now state.db running.pc).db.reservations.table.find doc.id =
        some doc := Table.find_mem inside
    cases awaits : running.pc.awaits doc.id with
    | true => exact charged_now one agreed found here awaits quiet
    | false => exact charged_before one agreed found here awaits quiet

end Step

/-- Without settlements no refund moves anything. -/
theorem Agreed.refundsCharged {window : Group → String} {state next : State} {action : Action}
    (agreed : Agreed state) (one : OneWindow window state)
    (stepped : step state action = some next) : refundsCharged state action = true := by
  cases action with
  | start call request => rfl
  | advance call now =>
      obtain ⟨-, running, found, rfl, -⟩ := step_advance stepped
      have member := (Table.find_some.mp found).1
      have sends : Action.pc state (.advance running.id now) = some running.pc := by
        simp [Action.pc, Indexed.find, found]
      unfold Mongo.refundsCharged
      rw [sends]
      split
      · rename_i id claims
        exact absurd (Option.some.inj claims)
          ((one.fits running member).not_claim (agreed.serves running member) .refund id)
      · rfl

theorem step_agreed {window : Group → String} {state next : State} {action : Action}
    (one : OneWindow window state) (agreed : Agreed state) (reserves : action.reserves = true)
    (unread : withdrawsUnread state action = true) (stepped : step state action = some next) :
    Agreed next := by
  cases action with
  | advance call now =>
      obtain ⟨-, running, found, rfl, rfl⟩ := step_advance stepped
      exact advanced_agreed one agreed found unread
  | start call request =>
      obtain ⟨undrawn, calls, added, rfl⟩ := step_start stepped
      have entry :
          (∀ id, request.entry.awaits id = false) ∧ ∀ doc, request.entry ≠ .answer doc := by
        cases request <;> exact ⟨fun _ => rfl, by simp [Request.entry]⟩
      constructor
      case serves =>
        intro running member
        rcases mem_start added member with old | rfl
        · exact agreed.serves running old
        · cases request with
          | serve job => rfl
          | settle settlement id => cases reserves
      case drawn =>
        intro running member id drew
        rcases mem_start added member with old | rfl
        · exact List.mem_append_right _ (agreed.drawn running old id drew)
        · apply List.mem_append_left
          have same : request.drawnId = some id := drew
          simp [same]
      case claims =>
        intro running member command shape
        rcases mem_start added member with old | rfl
        · exact agreed.claims running old command shape
        · have idle := entry.1 command.reservationId
          rcases shape with shape | shape <;> simp only at shape <;> simp [shape, Pc.awaits] at idle
      case answers =>
        intro running member doc shape
        rcases mem_start added member with old | rfl
        · exact agreed.answers running old doc shape
        · exact absurd shape (entry.2 doc)
      case returned => exact agreed.returned
      case uncharged =>
        intro running member id drew
        rcases mem_start added member with old | rfl
        · exact agreed.uncharged running old id drew
        · exact agreed.fresh id (undrawn id drew)
      case fresh =>
        intro id absent
        exact agreed.fresh id fun present => absent (List.mem_append_right _ present)
      case charged =>
        intro doc member quiet
        refine agreed.charged doc member fun running old => quiet running ?_
        simp [(Table.insert_some.mp added).2, old]

/-- In every run of `reserve` calls in which no claim is withdrawn after another call has read it,
all returned reservations are there when the calls have finished, each charged once. -/
theorem agreement_of_withdrawsUnread (window : Group → String) (start : Int)
    (actions : List Action) (state : State)
    (reached : run step (.init start) actions = some state)
    (windowed : ∀ action ∈ actions, action.within window)
    (reserves : ∀ action ∈ actions, action.reserves = true)
    (unread : Meets step (fun state action => withdrawsUnread state action = true) (.init start)
      actions)
    (idle : state.calls.table.rows = []) : Agreement state := by
  have kept : ∀ (state : State) (action : Action) (next : State),
      (Ledger state ∧ OneWindow window state ∧ Agreed state) →
      (action.within window ∧ action.reserves = true) ∧ withdrawsUnread state action = true →
      step state action = some next → Ledger next ∧ OneWindow window next ∧ Agreed next := by
    rintro state action next ⟨ledger, one, agreed⟩ ⟨⟨within, reserves⟩, unread⟩ stepped
    obtain ⟨inPlace, spared⟩ := one.guards stepped
    exact ⟨step_ledger ledger (agreed.refundsCharged one stepped) inPlace spared stepped,
      step_oneWindow one within stepped, step_agreed one agreed reserves unread stepped⟩
  have setting : Meets step (fun _ action => action.within window ∧ action.reserves = true)
      (.init start) actions :=
    meets_of_forall _ fun action member => ⟨windowed action member, reserves action member⟩
  obtain ⟨ledger, one, agreed⟩ := run_invariant _ kept
    ⟨Ledger.init start, OneWindow.init window start, Agreed.init start⟩
    (setting.and unread) reached
  refine ⟨?_, ledger.used_eq_held one idle⟩
  intro call request reservation returned
  obtain ⟨doc, usage, same, stored⟩ := agreed.returned call request reservation returned
  refine ⟨doc, usage, same, stored, agreed.charged doc (Table.find_some.mp stored).1 ?_⟩
  simp [idle]

theorem tight_limit : (0 : Int) < 3 := by decide

/-- A `reserve` of cost 2 with a limit of 3. -/
def tightReserve (id : String) (idempotencyKey : String) : Request :=
  .serve (.reserve
    { subjectId := "s"
      resource := "r"
      windowKey := "w"
      limit := 3
      cost := 2
      resetAt := 100
      reservationId := id
      idempotencyKey := some idempotencyKey
      subjectNonempty := subject_sample
      resourceNonempty := resource_sample
      windowNonempty := window_sample
      limitPositive := tight_limit
      costPositive := cost_sample })

/-- A second call with the key returns the first one's claim, which is then charged. -/
def sharedClaim : List Action :=
  [.start 1 (tightReserve "a" "k"), .advance 1 0, .advance 1 0, .advance 1 0, .advance 1 0,
    .start 2 (tightReserve "b" "k"), .advance 2 1, .advance 2 1, .advance 2 1, .advance 2 1,
    .advance 1 2]

theorem sharedClaim_accepted : (run step (.init 0) sharedClaim).isSome = true := by
  decide +kernel

theorem agreement_on_shared_claim :
    ∃ state, run step (.init 0) sharedClaim = some state ∧ Agreement state := by
  have reached := (Option.some_get sharedClaim_accepted).symm
  exact ⟨_, reached, agreement_of_withdrawsUnread (fun _ => "w") 0 sharedClaim _ reached
    (by decide) (by decide) (by decide +kernel) (by decide +kernel)⟩

/-- Another key fills the window before the first call charges the claim that the second has
returned. -/
def withdrawnClaim : List Action :=
  [.start 1 (tightReserve "a" "k"), .advance 1 0, .advance 1 0, .advance 1 0, .advance 1 0,
    .start 2 (tightReserve "b" "k"), .advance 2 1, .advance 2 1, .advance 2 1, .advance 2 1,
    .start 3 (tightReserve "c" "j"), .advance 3 2, .advance 3 2, .advance 3 2, .advance 3 2,
    .advance 3 2, .advance 3 2, .advance 1 3, .advance 1 3]

theorem withdrawnClaim_accepted : (run step (.init 0) withdrawnClaim).isSome = true := by
  decide +kernel

theorem returned_claim_withdrawn :
    ((∀ action ∈ withdrawnClaim, action.within fun _ => "w") ∧
      (∀ action ∈ withdrawnClaim, action.limited fun _ => 3) ∧
      ∀ action ∈ withdrawnClaim, action.reserves = true) ∧
    ¬ ∀ state, run step (.init 0) withdrawnClaim = some state →
      state.calls.table.rows = [] → Agreement state := by
  refine ⟨⟨by decide, by decide, by decide⟩, ?_⟩
  intro agreement
  have held := agreement _ (Option.some_get withdrawnClaim_accepted).symm (by decide +kernel)
  obtain ⟨doc, usage, same, stored, -⟩ := held.1 2 (tightReserve "b" "k")
    ⟨"a", "s", "r", "w", 2, .reserved, ⟨"s", "r", "w", 0, 3, 3, 100⟩, some "k"⟩
    (by decide +kernel)
  have own : doc.id = "a" := (congrArg QuotaReservation.id same).symm
  have missing : ((run step (.init 0) withdrawnClaim).get
      withdrawnClaim_accepted).db.reservations.table.find "a" = none := by
    decide +kernel
  rw [own, missing] at stored
  cases stored

end AiPlatform.Quota.Mongo

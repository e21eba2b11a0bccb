import AiPlatform.Quota.MongoLedger

set_option autoImplicit false

/- Runs in which every subject and resource has one window: no migration has anything to move,
and counters stay for good. -/
namespace AiPlatform.Quota.Mongo

open Machine

def Request.within (window : Group → String) : Request → Prop
  | .serve job => job.target.windowKey = window job.target.group
  | .settle _ _ => True

instance (window : Group → String) (request : Request) : Decidable (request.within window) :=
  match request with
  | .serve job => inferInstanceAs (Decidable (job.target.windowKey = window job.target.group))
  | .settle _ _ => inferInstanceAs (Decidable True)

/-- The call names the one window of its subject and resource. -/
def Action.within (window : Group → String) : Action → Prop
  | .start _ request => request.within window
  | .advance _ _ => True

instance (window : Group → String) (action : Action) : Decidable (action.within window) :=
  match action with
  | .start _ request => inferInstanceAs (Decidable (request.within window))
  | .advance _ _ => inferInstanceAs (Decidable True)

/-- Outside the migration loop, and with the counter in place that the command relies on. -/
def Pc.plain (db : Collections) : Pc → Prop
  | .claimStale _ _ _ => False
  | .addToTarget _ _ _ _ => False
  | .repoint _ _ _ => False
  | .insert command => db.counters.find (reserveTarget command).key ≠ none
  | .refind command => db.counters.find (reserveTarget command).key ≠ none
  | .charge command => db.counters.find (reserveTarget command).key ≠ none
  | .withdraw command => db.counters.find (reserveTarget command).key ≠ none
  | .answer doc => db.counters.find doc.key ≠ none
  | .usageFor doc => db.counters.find doc.key ≠ none
  | .decrement doc => db.counters.find doc.key ≠ none ∧ 0 < doc.cost
  | _ => True

structure OneWindow (window : Group → String) (state : State) : Prop where
  fits : ∀ running ∈ state.calls.table.rows, running.pc.fits running.request
  requests : ∀ running ∈ state.calls.table.rows, running.request.within window
  counters : ∀ counter ∈ state.db.counters.rows, counter.windowKey = window counter.group
  reservations : ∀ doc ∈ state.db.reservations.table.rows, doc.windowKey = window doc.group ∧
    0 < doc.cost ∧ state.db.counters.find doc.key ≠ none
  calls : ∀ running ∈ state.calls.table.rows, running.pc.plain state.db

theorem Job.resume_plain (job : Job) (db : Collections) : job.resume.plain db := by
  cases job with
  | reserve command =>
      simp only [Job.resume]
      split <;> trivial
  | getUsage query => trivial

section Commands

variable {window : Group → String} {db : Collections} {pc : Pc} {request : Request}

theorem Pc.refreshes_within (fits : pc.fits request) (within : request.within window)
    {target : Target} {amount : Int} (named : pc.refreshes = some (target, amount)) :
    target.windowKey = window target.group := by
  cases pc <;> simp only [Pc.refreshes, Option.some.injEq, Prod.mk.injEq, reduceCtorEq] at named
  all_goals
    obtain ⟨rfl, -⟩ := named
    simp only [Pc.fits] at fits
    rw [fits] at within
    exact within

/-- Outside the migration loop no counter goes. -/
theorem Pc.plain.counter_kept {call : Nat} {now : Int} (plain : pc.plain db)
    {key : Group × String} (present : db.counters.find key ≠ none) :
    (perform call now db pc).db.counters.find key ≠ none := by
  have change := perform_counter call now db pc key
  generalize (perform call now db pc).db.counters.find key = after at change ⊢
  obtain ⟨counter, found⟩ := Option.ne_none_iff_exists'.mp present
  rw [found] at change
  cases change with
  | same => simp
  | refreshed target amount _ named here fits => simp
  | claimed job windowKey rest _ claims here =>
      rw [claims] at plain
      exact plain.elim
  | lowered doc _ lowers here => simp

theorem Pc.plain.kept {call : Nat} {now : Int} {other : Pc} (plain : pc.plain db)
    (holds : other.plain db) : other.plain (perform call now db pc).db := by
  cases other
  case decrement doc => exact ⟨plain.counter_kept holds.1, holds.2⟩
  all_goals first | trivial | exact plain.counter_kept holds

theorem findIdempotentReservation_mem {reservations : Indexed Reservation.id Reservation.index}
    {command : ReserveQuota} {doc : Reservation}
    (found : findIdempotentReservation reservations command = some doc) :
    doc ∈ reservations.table.rows ∧ doc.key = (reserveTarget command).key ∧
      doc.idempotencyKey = command.idempotencyKey := by
  unfold findIdempotentReservation at found
  obtain ⟨idempotencyKey, asked, search⟩ := Option.bind_eq_some_iff.mp found
  obtain ⟨member, indexed⟩ := Indexed.findBy_some.mp search
  simp only [Reservation.index, Option.map_eq_some_iff, Prod.mk.injEq] at indexed
  obtain ⟨own, stored, same, rfl⟩ := indexed
  exact ⟨member, same, stored.trans asked.symm⟩

theorem staleWindows_nil (counters : ∀ counter ∈ db.counters.rows,
    counter.windowKey = window counter.group) {target : Target}
    (within : target.windowKey = window target.group) (now : Int) :
    staleWindows db.counters target now = [] := by
  simp only [staleWindows, List.map_eq_nil_iff, List.filter_eq_nil_iff, Bool.and_eq_true,
    decide_eq_true_eq, not_and]
  intro counter member own other
  exact absurd (by rw [counters counter member, own, within]) other

theorem perform_plain {call : Nat} {now : Int} {next : Pc} (fits : pc.fits request)
    (within : request.within window) (plain : pc.plain db)
    (counters : ∀ counter ∈ db.counters.rows, counter.windowKey = window counter.group)
    (reservations : ∀ doc ∈ db.reservations.table.rows, doc.windowKey = window doc.group ∧
      0 < doc.cost ∧ db.counters.find doc.key ≠ none)
    (moves : (perform call now db pc).next = .goto next) :
    next.plain (perform call now db pc).db := by
  cases pc
  case migrate job =>
    simp only [Pc.fits] at fits
    rw [fits] at within
    have nothing := staleWindows_nil counters within now
    simp only [perform, nothing] at moves ⊢
    split at moves <;> cases moves
    · trivial
    · exact job.resume_plain _
  case touch job =>
    cases moves
    exact job.resume_plain _
  case find command =>
    simp only [perform] at moves ⊢
    split at moves <;> rename_i found <;> cases moves
    · exact (reservations _ (findIdempotentReservation_mem found).1).2.2
    · trivial
  case ensureCounter command =>
    cases moves
    simp [Pc.plain, perform, find_upsert]
  case insert command =>
    simp only [perform] at moves ⊢
    split at moves
    · cases moves
      exact plain
    · split at moves <;> cases moves
      rename_i keyed
      simp only [keyed, ↓reduceIte]
      exact plain
  case refind command =>
    simp only [perform] at moves ⊢
    split at moves <;> rename_i found <;> cases moves
    exact (reservations _ (findIdempotentReservation_mem found).1).2.2
  case charge command =>
    simp only [perform] at moves ⊢
    split at moves
    · cases moves
      exact plain
    · split at moves
      · cases moves
      · rename_i full
        cases moves
        simp only [full, ↓reduceIte]
        exact plain
  case claim settlement reservationId =>
    simp only [perform] at moves ⊢
    split at moves
    · cases moves
      trivial
    · rename_i claimed settled found
      obtain ⟨stored, -, -, -⟩ := claimReserved_some found
      have facts := reservations claimed (Table.find_some.mp stored).1
      cases settlement <;> cases moves
      · exact facts.2.2
      · exact ⟨facts.2.2, facts.2.1⟩
  case require settlement reservationId =>
    simp only [perform] at moves ⊢
    split at moves
    · cases moves
    · rename_i doc found
      split at moves <;> cases moves
      rename_i open_
      simp only [open_, ↓reduceIte]
      exact (reservations doc (Table.find_some.mp found).1).2.2
  case claimStale job windowKey rest => exact plain.elim
  case addToTarget job windowKey used rest => exact plain.elim
  case repoint job windowKey rest => exact plain.elim
  all_goals
    simp only [perform] at moves
    repeat' split at moves
    all_goals cases moves

end Commands

theorem OneWindow.init (window : Group → String) (start : Int) :
    OneWindow window (.init start) := by
  constructor
  all_goals
    intro row member
    cases member

theorem step_oneWindow {window : Group → String} {state next : State} {action : Action}
    (one : OneWindow window state) (within : action.within window)
    (stepped : step state action = some next) : OneWindow window next := by
  cases action with
  | start call request =>
      obtain ⟨-, calls, added, rfl⟩ := step_start stepped
      refine ⟨?_, ?_, one.counters, one.reservations, ?_⟩
      all_goals
        intro running member
        rcases mem_start added member with old | rfl
      · exact one.fits running old
      · exact request.entry_fits
      · exact one.requests running old
      · exact within
      · exact one.calls running old
      · cases request <;> trivial
  | advance call now =>
      obtain ⟨-, running, found, rfl, rfl⟩ := step_advance stepped
      have member := (Table.find_some.mp found).1
      have plain := one.calls running member
      have fits := one.fits running member
      have named := one.requests running member
      refine ⟨?_, ?_, ?_, ?_, ?_⟩
      · exact forall_resume found one.fits (fun _ _ _ fits => fits)
          fun pc moves fits => perform_fits fits moves
      · exact forall_resume found one.requests (fun _ _ _ holds => holds) fun _ _ holds => holds
      · intro counter inside
        have change := perform_counter running.id now state.db running.pc counter.key
        have here : (perform running.id now state.db running.pc).db.counters.find counter.key =
            some counter := Table.find_mem inside
        rw [here] at change
        cases old : state.db.counters.find counter.key with
        | some before =>
            obtain ⟨stored, same⟩ := Table.find_some.mp old
            have windowed := one.counters before stored
            obtain ⟨group, windowKey⟩ := Prod.mk.inj same
            rw [← windowKey, ← group, windowed]
        | none =>
            rw [old] at change
            cases change with
            | created target amount named' own creates =>
                exact Pc.refreshes_within fits named named'
      · intro doc inside
        have change := perform_reservation running.id now state.db running.pc doc.id
        have here : (perform running.id now state.db running.pc).db.reservations.table.find doc.id =
            some doc := Table.find_mem inside
        rw [here] at change
        have stored : ∀ before, state.db.reservations.table.find doc.id = some before →
            before.windowKey = window before.group ∧ 0 < before.cost ∧
              (perform running.id now state.db running.pc).db.counters.find before.key ≠ none := by
          intro before old
          obtain ⟨windowed, cost, present⟩ := one.reservations before (Table.find_some.mp old).1
          exact ⟨windowed, cost, plain.counter_kept present⟩
        generalize origin : state.db.reservations.table.find doc.id = before at change
        cases change with
        | same => exact stored doc origin
        | inserted command inserts own =>
            rw [inserts] at plain fits
            simp only [Pc.fits] at fits
            rw [fits] at named
            refine ⟨named, command.costPositive, ?_⟩
            exact (one.calls running member).counter_kept plain
        | settled settlement old claims open_ => exact stored old origin
        | moved job windowKey rest old moves =>
            rw [moves] at plain
            exact plain.elim
      · exact forall_resume found one.calls (fun _ _ _ holds => plain.kept holds)
          fun pc moves _ => perform_plain fits named plain one.counters one.reservations moves

theorem run_oneWindow {window : Group → String} {start : Int} {state : State}
    {actions : List Action} (windowed : ∀ action ∈ actions, action.within window)
    (reached : run step (.init start) actions = some state) : OneWindow window state := by
  have kept : ∀ (state : State) (action : Action) (next : State), OneWindow window state →
      action.within window → step state action = some next → OneWindow window next :=
    fun _ _ _ one within stepped => step_oneWindow one within stepped
  exact run_invariant _ kept (OneWindow.init window start) (meets_of_forall _ windowed) reached

end AiPlatform.Quota.Mongo

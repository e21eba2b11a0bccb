import AiPlatform.Quota.MongoCalls

set_option autoImplicit false

/- What one step can do: to the calls in flight, to a counter, to a reservation. -/
namespace AiPlatform.Quota.Mongo

open Machine

/-- The state after `running` has sent its next command. -/
def advanced (state : State) (running : Running) (now : Int) : State :=
  { state with
    db := (perform running.id now state.db running.pc).db
    calls := resume state.calls running.id (perform running.id now state.db running.pc).next
    clock := now
    log := state.log ++ (perform running.id now state.db running.pc).events ++
      (perform running.id now state.db running.pc).next.report running }

theorem step_start {state next : State} {call : Nat} {request : Request}
    (stepped : step state (.start call request) = some next) :
    (∀ id, request.drawnId = some id → id ∉ state.drawn) ∧
      ∃ calls, state.calls.table.insert ⟨call, request, request.entry⟩ = some calls.table ∧
        next = { state with calls := calls, drawn := request.drawnId.toList ++ state.drawn } := by
  simp only [step, start] at stepped
  split at stepped
  · cases stepped
  · rename_i fresh
    obtain ⟨calls, added, rfl⟩ := Option.map_eq_some_iff.mp stepped
    refine ⟨?_, calls, Indexed.insert_table added, rfl⟩
    intro id drawn used
    simp [drawn, used] at fresh

theorem step_advance {state next : State} {call : Nat} {now : Int}
    (stepped : step state (.advance call now) = some next) :
    state.clock ≤ now ∧ ∃ running, state.calls.table.find call = some running ∧
      running.id = call ∧ next = advanced state running now := by
  simp only [step] at stepped
  split at stepped
  · cases stepped
  · rename_i late
    obtain ⟨running, found, rfl⟩ := Option.map_eq_some_iff.mp stepped
    obtain rfl : running.id = call := (Table.find_some.mp found).2
    exact ⟨by omega, running, found, rfl, rfl⟩

theorem mem_resume {calls : Calls} {running row : Running} {next : Next}
    (found : calls.table.find running.id = some running)
    (member : row ∈ (resume calls running.id next).table.rows) :
    (row ∈ calls.table.rows ∧ row.id ≠ running.id) ∨ ∃ pc, next = .goto pc ∧
      row = running.goto pc := by
  cases next with
  | done outcome => exact .inl (Table.mem_remove.mp member)
  | goto pc =>
      simp only [resume, Indexed.modify] at member
      rcases Table.mem_modify.mp member with other | ⟨old, here, rfl⟩
      · exact .inl other
      · obtain rfl := Option.some.inj (found.symm.trans here)
        exact .inr ⟨pc, rfl, rfl⟩

theorem mem_resume_other {calls : Calls} {running row : Running} (next : Next)
    (member : row ∈ calls.table.rows) (apart : row.id ≠ running.id) :
    row ∈ (resume calls running.id next).table.rows := by
  cases next with
  | done outcome => exact Table.mem_remove.mpr ⟨member, apart⟩
  | goto pc =>
      simp only [resume, Indexed.modify]
      exact Table.mem_modify.mpr (.inl ⟨member, apart⟩)

theorem mem_resume_own {calls : Calls} {running : Running} (pc : Pc)
    (found : calls.table.find running.id = some running) :
    running.goto pc ∈ (resume calls running.id (.goto pc)).table.rows := by
  simp only [resume, Indexed.modify]
  exact Table.mem_modify.mpr (.inr ⟨running, found, rfl⟩)

/-- What holds of every call in flight still holds after a step if it holds of the call that
moved and the others do not mind the command. -/
theorem forall_resume {calls : Calls} {running : Running} {next : Next}
    {holds after : Running → Prop} (found : calls.table.find running.id = some running)
    (before : ∀ row ∈ calls.table.rows, holds row)
    (others : ∀ row ∈ calls.table.rows, row.id ≠ running.id → holds row → after row)
    (own : ∀ pc, next = .goto pc → holds running → after (running.goto pc)) :
    ∀ row ∈ (resume calls running.id next).table.rows, after row := by
  intro row member
  rcases mem_resume found member with ⟨old, apart⟩ | ⟨pc, moves, rfl⟩
  · exact others row old apart (before row old)
  · exact own pc moves (before running (Table.find_some.mp found).1)

theorem mem_start {calls started : Table Running.id} {call : Running} {row : Running}
    (added : calls.insert call = some started) (member : row ∈ started.rows) :
    row ∈ calls.rows ∨ row = call := by
  rw [(Table.insert_some.mp added).2] at member
  simpa using member

/-- The weight of what a call does next. -/
def Next.weight (weight : Pc → Int) : Next → Int
  | .goto pc => weight pc
  | .done _ => 0

theorem total_resume {calls : Calls} {running : Running}
    (found : calls.table.find running.id = some running) (next : Next) (weight : Pc → Int) :
    (resume calls running.id next).table.total (fun row => weight row.pc) =
      calls.table.total (fun row => weight row.pc) - weight running.pc + next.weight weight := by
  cases next with
  | done outcome =>
      have removed := Table.total_remove found (fun row => weight row.pc)
      simp only [resume, Next.weight, Indexed.remove, Indexed.erase]
      simp only [Table.remove] at removed
      omega
  | goto pc =>
      exact Table.total_modify found _ (fun running => running.goto_id pc) fun row => weight row.pc

/-- A call and the commands left to it. -/
def Pc.fits : Pc → Request → Prop
  | .migrate job, request => request = .serve job
  | .touch job, request => request = .serve job
  | .claimStale job _ _, request => request = .serve job
  | .addToTarget job _ _ _, request => request = .serve job
  | .repoint job _ _, request => request = .serve job
  | .find command, request => request = .serve (.reserve command)
  | .ensureCounter command, request => request = .serve (.reserve command)
  | .insert command, request => request = .serve (.reserve command)
  | .refind command, request => request = .serve (.reserve command)
  | .charge command, request => request = .serve (.reserve command)
  | .withdraw command, request => request = .serve (.reserve command)
  | .answer _, request => ∃ command, request = .serve (.reserve command)
  | .readUsage query, request => request = .serve (.getUsage query)
  | .claim settlement reservationId, request => request = .settle settlement reservationId
  | .require settlement reservationId, request => request = .settle settlement reservationId
  | .usageFor doc, request => ∃ settlement, request = .settle settlement doc.id
  | .decrement doc, request => request = .settle .refund doc.id

theorem Request.entry_fits (request : Request) : request.entry.fits request := by
  cases request <;> rfl

theorem Job.resume_fits (job : Job) : job.resume.fits (.serve job) := by
  cases job with
  | reserve command =>
      simp only [Job.resume]
      split <;> rfl
  | getUsage query => rfl

theorem Job.migrateRest_fits (job : Job) (rest : List String) :
    (job.migrateRest rest).fits (.serve job) := by
  cases rest with
  | nil => exact job.resume_fits
  | cons windowKey rest => rfl

theorem claimReserved_some {reservations settled : Indexed Reservation.id Reservation.index}
    {id : String} {settlement : Settlement} {doc : Reservation}
    (claimed : claimReserved reservations id settlement = some (doc, settled)) :
    reservations.table.find id = some doc ∧ doc.id = id ∧ doc.status = .reserved ∧
      settled = reservations.modify id (fun doc => doc.settle settlement)
        (fun doc => doc.settle_id settlement) fun doc => doc.settle_index settlement := by
  unfold claimReserved at claimed
  split at claimed
  · cases claimed
  · rename_i found
    split at claimed
    · rename_i open_
      cases claimed
      exact ⟨found, (Table.find_some.mp found).2, open_, rfl⟩
    · cases claimed

theorem claimReserved_none {reservations : Indexed Reservation.id Reservation.index}
    {id : String} {settlement : Settlement}
    (refused : claimReserved reservations id settlement = none) :
    ∀ doc, reservations.table.find id = some doc → doc.status ≠ .reserved := by
  intro doc found open_
  have present : reservations.find id = some doc := found
  simp [claimReserved, present, open_] at refused

theorem perform_fits {call : Nat} {now : Int} {db : Collections} {pc next : Pc} {request : Request}
    (fits : pc.fits request) (moves : (perform call now db pc).next = .goto next) :
    next.fits request := by
  cases pc <;> simp only [perform, Pc.fits] at moves fits
  case migrate job =>
    subst fits
    split at moves
    · split at moves <;> cases moves
      · rfl
      · exact job.resume_fits
    · cases moves
      rfl
  case touch job =>
    subst fits
    cases moves
    exact job.resume_fits
  case claimStale job windowKey rest =>
    subst fits
    split at moves <;> cases moves
    · exact job.migrateRest_fits rest
    · rfl
  case addToTarget job windowKey used rest =>
    subst fits
    cases moves
    rfl
  case repoint job windowKey rest =>
    subst fits
    split at moves <;> cases moves
    exact job.migrateRest_fits rest
  case claim settlement reservationId =>
    subst fits
    split at moves
    · cases moves
      rfl
    · rename_i claimed settled found
      obtain ⟨-, own, -, -⟩ := claimReserved_some found
      cases settlement <;> cases moves
      · exact ⟨.finalize, by rw [own]⟩
      · exact congrArg _ own.symm
  case require settlement reservationId =>
    subst fits
    split at moves
    · cases moves
    · rename_i doc found
      split at moves <;> cases moves
      exact ⟨settlement, by rw [(Table.find_some.mp found).2]⟩
  all_goals
    first
    | (split at moves <;> first | (split at moves <;> cases moves <;> simp_all [Pc.fits])
                                | (cases moves <;> simp_all [Pc.fits]))
    | (cases moves <;> simp_all [Pc.fits])

theorem find_increment (counters : Table Counter.key) (target : Target) (amount : Int)
    (key : Group × String) :
    (increment counters target amount).find key =
      if key = target.key then (counters.find key).map fun counter => counter.refresh target amount
      else counters.find key :=
  Table.find_modify _ _ _ _ _

theorem find_upsert (counters : Table Counter.key) (target : Target) (amount : Int)
    (key : Group × String) :
    (upsert counters target amount).find key =
      if key = target.key then
        some (((counters.find key).map fun counter => counter.refresh target amount).getD
          (target.counter amount))
      else counters.find key := by
  unfold upsert
  split
  · rename_i added inserted
    rw [Table.find_insert inserted, Target.counter_key]
    split
    · rename_i here
      have missing := (Table.insert_some.mp inserted).1
      rw [Target.counter_key, ← here] at missing
      rw [missing]
      rfl
    · rfl
  · rename_i refused
    rw [find_increment]
    split
    · rename_i here
      have present := Table.insert_none.mp refused
      rw [Target.counter_key, ← here] at present
      obtain ⟨counter, found⟩ := Option.ne_none_iff_exists'.mp present
      rw [found]
      rfl
    · rfl

/-- The counter a command refreshes, and by how much it raises it. -/
def Pc.refreshes : Pc → Option (Target × Int)
  | .touch job => some (job.target, 0)
  | .addToTarget job _ used _ => some (job.target, used)
  | .ensureCounter command => some (reserveTarget command, 0)
  | .charge command => some (reserveTarget command, command.cost)
  | .readUsage query => some (queryTarget query, 0)
  | _ => none

/-- The commands with `upsert=True`. -/
def Pc.creates : Pc → Bool
  | .addToTarget _ _ _ _ => true
  | .ensureCounter _ => true
  | _ => false

/-- All that a command can do to one counter. -/
inductive CounterChange (pc : Pc) (key : Group × String) : Option Counter → Option Counter → Prop
  | same (counter : Option Counter) : CounterChange pc key counter counter
  | refreshed (target : Target) (amount : Int) (counter : Counter)
      (named : pc.refreshes = some (target, amount)) (here : key = target.key)
      (fits : ∀ command, pc = .charge command → counter.used + command.cost ≤ command.limit) :
      CounterChange pc key (some counter) (some (counter.refresh target amount))
  | created (target : Target) (amount : Int) (named : pc.refreshes = some (target, amount))
      (here : key = target.key) (creates : pc.creates = true) :
      CounterChange pc key none (some (target.counter amount))
  | claimed (job : Job) (windowKey : String) (rest : List String) (counter : Counter)
      (claims : pc = .claimStale job windowKey rest) (here : key = (job.target.group, windowKey)) :
      CounterChange pc key (some counter) none
  | lowered (doc : Reservation) (counter : Counter) (lowers : pc = .decrement doc)
      (here : key = doc.key) : CounterChange pc key (some counter) (some (counter.lower doc.cost))

theorem CounterChange.of_eq {pc : Pc} {key : Group × String} {before after : Option Counter}
    (same : after = before) : CounterChange pc key before after := by
  subst same
  exact .same _

theorem CounterChange.of_increment {pc : Pc} {key : Group × String} {counters : Table Counter.key}
    {target : Target} {amount : Int} (named : pc.refreshes = some (target, amount))
    (fits : ∀ command counter, pc = .charge command → counters.find target.key = some counter →
      counter.used + command.cost ≤ command.limit) :
    CounterChange pc key (counters.find key) ((increment counters target amount).find key) := by
  rw [find_increment]
  split
  · rename_i here
    cases found : counters.find key with
    | none => exact .same _
    | some counter =>
        exact .refreshed target amount counter named here fun command charges =>
          fits command counter charges (here ▸ found)
  · exact .same _

theorem CounterChange.of_upsert {pc : Pc} {key : Group × String} {counters : Table Counter.key}
    {target : Target} {amount : Int} (named : pc.refreshes = some (target, amount))
    (creates : pc.creates = true) :
    CounterChange pc key (counters.find key) ((upsert counters target amount).find key) := by
  rw [find_upsert]
  split
  · rename_i here
    cases counters.find key with
    | none => exact .created target amount named here creates
    | some counter =>
        refine .refreshed target amount counter named here ?_
        rintro command rfl
        cases creates
  · exact .same _

theorem perform_counter (call : Nat) (now : Int) (db : Collections) (pc : Pc)
    (key : Group × String) :
    CounterChange pc key (db.counters.find key)
      ((perform call now db pc).db.counters.find key) := by
  cases pc
  case touch job => exact .of_increment rfl (by simp)
  case addToTarget job windowKey used rest => exact .of_upsert rfl rfl
  case ensureCounter command => exact .of_upsert rfl rfl
  case charge command =>
    simp only [perform]
    cases found : db.counters.find (reserveTarget command).key with
    | none => exact .same _
    | some counter =>
        by_cases fits : counter.used + command.cost ≤ command.limit
        · simp only [fits, ↓reduceIte]
          refine .of_increment rfl ?_
          intro other present charges here
          obtain rfl := Option.some.inj (found.symm.trans here)
          cases charges
          exact fits
        · simp only [fits, ↓reduceIte]
          exact .same _
  case readUsage query =>
    simp only [perform]
    split
    · exact .same _
    · exact .of_increment rfl (by simp)
  case claimStale job windowKey rest =>
    simp only [perform]
    split
    · exact .same _
    · rename_i counter found
      dsimp only
      rw [Table.find_remove]
      split
      · rename_i here
        rw [here, found]
        exact .claimed job windowKey rest counter rfl rfl
      · exact .same _
  case decrement doc =>
    simp only [perform]
    split
    · exact .same _
    · rename_i counter found
      simp only [decrement, Table.find_modify]
      split
      · rename_i here
        rw [here, found]
        exact .lowered doc counter rfl rfl
      · exact .same _
  all_goals
    apply CounterChange.of_eq
    simp only [perform]
    repeat' split
    all_goals rfl

/-- All that a command can do to one reservation. -/
inductive ReservationChange (pc : Pc) (id : String) :
    Option Reservation → Option Reservation → Prop
  | same (doc : Option Reservation) : ReservationChange pc id doc doc
  | inserted (command : ReserveQuota) (inserts : pc = .insert command)
      (here : id = command.reservationId) :
      ReservationChange pc id none (some (reservationDoc command))
  | withdrawn (command : ReserveQuota) (doc : Option Reservation)
      (withdraws : pc = .withdraw command) (here : id = command.reservationId) :
      ReservationChange pc id doc none
  | settled (settlement : Settlement) (doc : Reservation) (claims : pc = .claim settlement id)
      (open_ : doc.status = .reserved) :
      ReservationChange pc id (some doc) (some (doc.settle settlement))
  | moved (job : Job) (windowKey : String) (rest : List String) (doc : Reservation)
      (moves : pc = .repoint job windowKey rest) :
      ReservationChange pc id (some doc) (some (doc.move job.target))

theorem find_moveAll (target : Target) (ids : List String)
    (reservations : Indexed Reservation.id Reservation.index) (id : String) :
    (moveAll target ids reservations).2.table.find id = reservations.table.find id ∨
      ∃ doc, reservations.table.find id = some doc ∧
        (moveAll target ids reservations).2.table.find id = some (doc.move target) := by
  induction ids generalizing reservations with
  | nil => exact .inl rfl
  | cons head rest ih =>
      simp only [moveAll]
      cases rewritten : reservations.rewrite head (fun doc => doc.move target)
          (fun doc => doc.move_id target) with
      | none => exact .inl rfl
      | some moved =>
          have table := Indexed.rewrite_table rewritten
          have here : moved.table.find id =
              if id = head then (reservations.table.find id).map fun doc => doc.move target
              else reservations.table.find id := by
            rw [table, Table.find_modify]
          simp only
          by_cases same : id = head
          · rw [if_pos same] at here
            cases found : reservations.table.find id with
            | none =>
                rw [found] at here
                rcases ih moved with kept | ⟨doc, present, -⟩
                · exact .inl (kept.trans here)
                · rw [here] at present
                  cases present
            | some doc =>
                rw [found] at here
                refine .inr ⟨doc, rfl, ?_⟩
                rcases ih moved with kept | ⟨again, present, result⟩
                · exact kept.trans here
                · obtain rfl := Option.some.inj (here.symm.trans present)
                  exact result
          · rw [if_neg same] at here
            rw [← here]
            exact ih moved

theorem ReservationChange.of_eq {pc : Pc} {id : String} {before after : Option Reservation}
    (same : after = before) : ReservationChange pc id before after := by
  subst same
  exact .same _

theorem perform_reservation (call : Nat) (now : Int) (db : Collections) (pc : Pc) (id : String) :
    ReservationChange pc id (db.reservations.table.find id)
      ((perform call now db pc).db.reservations.table.find id) := by
  cases pc
  case insert command =>
    simp only [perform]
    split
    · rename_i added inserted
      have table := Indexed.insert_table inserted
      dsimp only
      rw [Table.find_insert table]
      split
      · rename_i here
        rw [here, (Table.insert_some.mp table).1]
        exact .inserted command rfl rfl
      · exact .same _
    · split <;> exact .same _
  case withdraw command =>
    change ReservationChange _ id _ ((db.reservations.table.remove command.reservationId).find id)
    rw [Table.find_remove]
    split
    · rename_i here
      exact .withdrawn command _ rfl here
    · exact .same _
  case claim settlement reservationId =>
    simp only [perform]
    cases claimed : claimReserved db.reservations reservationId settlement with
    | none => exact .same _
    | some pair =>
        obtain ⟨doc, settled⟩ := pair
        obtain ⟨found, -, open_, rfl⟩ := claimReserved_some claimed
        simp only [Indexed.modify, Table.find_modify]
        split
        · rename_i here
          rw [here, found]
          exact .settled settlement doc rfl open_
        · exact .same _
  case repoint job windowKey rest =>
    have moved := find_moveAll job.target ((db.reservations.table.rows.filter fun doc =>
      doc.key = (job.target.group, windowKey)).map Reservation.id) db.reservations id
    have result : (perform call now db (.repoint job windowKey rest)).db.reservations =
        (repoint db.reservations job.target windowKey).2 := by
      simp only [perform]
      split <;> simp_all
    rw [result]
    rcases moved with same | ⟨doc, found, changed⟩
    · exact .of_eq same
    · rw [found]
      simp only [repoint, changed]
      exact .moved job windowKey rest doc rfl
  all_goals
    apply ReservationChange.of_eq
    simp only [perform]
    repeat' split
    all_goals rfl

/-- The migration hands over to the first command of the call proper. -/
theorem Job.migrateRest_cases (job : Job) (rest : List String) :
    (∃ windowKey later, job.migrateRest rest = .claimStale job windowKey later) ∨
      (∃ command, job.migrateRest rest = .find command) ∨
      (∃ command, job.migrateRest rest = .ensureCounter command) ∨
      ∃ query, job.migrateRest rest = .readUsage query := by
  cases rest with
  | cons windowKey later => exact .inl ⟨windowKey, later, rfl⟩
  | nil =>
      cases job with
      | getUsage query => exact .inr (.inr (.inr ⟨query, rfl⟩))
      | reserve command =>
          simp only [Job.migrateRest, Job.resume]
          split
          · exact .inr (.inr (.inl ⟨command, rfl⟩))
          · exact .inr (.inl ⟨command, rfl⟩)

theorem Job.resume_eq (job : Job) : job.resume = job.migrateRest [] := rfl

section Goto

variable {call : Nat} {now : Int} {db : Collections} {pc : Pc}

/-- The statements that lead to an answer, a charge or a withdrawal. -/
def Pc.Precedes (pc : Pc) : Pc → Prop
  | .answer _ => ∃ command, pc = .find command ∨ pc = .refind command
  | .charge command => pc = .insert command
  | .withdraw command => pc = .charge command
  | _ => True

theorem Pc.precedes_migrateRest (pc : Pc) (job : Job) (rest : List String) :
    pc.Precedes (job.migrateRest rest) := by
  rcases job.migrateRest_cases rest with ⟨_, _, shape⟩ | ⟨_, shape⟩ | ⟨_, shape⟩ | ⟨_, shape⟩
  all_goals
    rw [shape]
    trivial

theorem goto_precedes {target : Pc} (moves : (perform call now db pc).next = .goto target) :
    pc.Precedes target := by
  cases pc
  all_goals
    simp only [perform, Job.resume_eq] at moves
    repeat' split at moves
    all_goals cases moves
    all_goals
      first
      | exact Pc.precedes_migrateRest _ _ _
      | simp [Pc.Precedes]

theorem goto_answer {doc : Reservation}
    (moves : (perform call now db pc).next = .goto (.answer doc)) :
    ∃ command, (pc = .find command ∨ pc = .refind command) ∧
      findIdempotentReservation db.reservations command = some doc ∧
      (perform call now db pc).db = db := by
  obtain ⟨command, source⟩ := goto_precedes moves
  refine ⟨command, source, ?_⟩
  rcases source with rfl | rfl
  · simp only [perform] at moves ⊢
    split at moves <;> cases moves
    rename_i found
    exact ⟨found, rfl⟩
  · simp only [perform] at moves ⊢
    split at moves <;> cases moves
    rename_i found
    exact ⟨found, rfl⟩

theorem goto_charge {command : ReserveQuota}
    (moves : (perform call now db pc).next = .goto (.charge command)) :
    pc = .insert command ∧ (perform call now db pc).db.reservations.table.find
      command.reservationId = some (reservationDoc command) := by
  have source : pc = .insert command := goto_precedes moves
  subst source
  refine ⟨rfl, ?_⟩
  simp only [perform] at moves ⊢
  split at moves
  · rename_i inserted
    have found := Table.find_insert (Indexed.insert_table inserted) command.reservationId
    simpa [reservationDoc] using found
  · split at moves <;> cases moves

theorem goto_withdraw {command : ReserveQuota}
    (moves : (perform call now db pc).next = .goto (.withdraw command)) :
    pc = .charge command ∧ (perform call now db pc).db = db ∧
      (perform call now db pc).events = [] := by
  have source : pc = .charge command := goto_precedes moves
  subst source
  refine ⟨rfl, ?_⟩
  simp only [perform] at moves ⊢
  split at moves
  · exact ⟨rfl, rfl⟩
  · split at moves
    · cases moves
    · rename_i full
      simp [full]

/-- A call returns a reservation after charging it or after reading it. -/
theorem done_reservation {reservation : QuotaReservation}
    (ends : (perform call now db pc).next = .done (.ok (.reservation reservation))) :
    (∃ command usage, pc = .charge command ∧
      reservation = reservationFromDoc (reservationDoc command) usage) ∨
    ∃ doc usage, pc = .answer doc ∧ reservation = reservationFromDoc doc usage := by
  cases pc
  case charge command =>
    simp only [perform] at ends
    split at ends
    · cases ends
    · split at ends <;> cases ends
      exact .inl ⟨command, _, rfl, rfl⟩
  case answer doc =>
    simp only [perform] at ends
    split at ends <;> cases ends
    exact .inr ⟨doc, _, rfl, rfl⟩
  all_goals
    exfalso
    simp only [perform] at ends
    repeat' split at ends
    all_goals cases ends

/-- All that the log can show of a command. -/
inductive Shows (call : Nat) (db : Collections) : Pc → Next → List Event → Prop
  | nothing (pc : Pc) (next : Next)
      (refused : ∀ command, pc = .charge command → next = .goto (.withdraw command))
      (late : ∀ settlement id, pc = .claim settlement id →
        next = .goto (.require settlement id) ∧
          ∀ doc, db.reservations.table.find id = some doc → doc.status ≠ .reserved)
      (lost : ∀ doc, pc = .decrement doc → db.counters.find doc.key = none) :
      Shows call db pc next []
  | charged (command : ReserveQuota) (usage : QuotaUsage) :
      Shows call db (.charge command)
        (.done (.ok (.reservation (reservationFromDoc (reservationDoc command) usage))))
        [.charged call command.reservationId (reserveTarget command).key command.cost]
  | settled (settlement : Settlement) (id : String) (doc : Reservation)
      (found : db.reservations.table.find id = some doc) (open_ : doc.status = .reserved) :
      Shows call db (.claim settlement id)
        (.goto (match settlement with
          | .finalize => .usageFor doc
          | .refund => .decrement doc))
        [.settled call id settlement]
  | decremented (doc : Reservation) (usage : QuotaUsage) :
      Shows call db (.decrement doc) (.done (.ok (.usage usage)))
        [.decremented call doc.id doc.key doc.cost]

theorem perform_shows (call : Nat) (now : Int) (db : Collections) (pc : Pc) :
    Shows call db pc (perform call now db pc).next (perform call now db pc).events := by
  cases pc
  case charge command =>
    simp only [perform]
    split
    · exact .nothing _ _ (by simp) (by simp) (by simp)
    · split
      · exact .charged command _
      · exact .nothing _ _ (by simp) (by simp) (by simp)
  case claim settlement id =>
    simp only [perform]
    cases claimed : claimReserved db.reservations id settlement with
    | none =>
        refine .nothing _ _ (by simp) ?_ (by simp)
        rintro _ _ ⟨⟩
        exact ⟨rfl, claimReserved_none claimed⟩
    | some pair =>
        obtain ⟨doc, settled⟩ := pair
        obtain ⟨found, -, open_, -⟩ := claimReserved_some claimed
        exact .settled settlement id doc found open_
  case decrement doc =>
    simp only [perform]
    split
    · rename_i missing
      refine .nothing _ _ (by simp) (by simp) ?_
      rintro _ ⟨⟩
      exact missing
    · exact .decremented doc _
  all_goals
    have quiet : ∀ result : Result, result.events = [] → ∀ pc : Pc,
        (∀ command, pc ≠ .charge command) → (∀ settlement id, pc ≠ .claim settlement id) →
        (∀ doc, pc ≠ .decrement doc) → Shows call db pc result.next result.events := by
      intro result silent pc uncharged unclaimed undone
      rw [silent]
      exact .nothing pc _ (fun command here => absurd here (uncharged command))
        (fun settlement id here => absurd here (unclaimed settlement id))
        fun doc here => absurd here (undone doc)
    apply quiet
    · simp only [perform]
      repeat' split
      all_goals rfl
    all_goals simp

theorem returned_not_shown {outcome : Except QuotaError Reply} {request : Request} {other : Nat} :
    .returned other request outcome ∉ (perform call now db pc).events := by
  have shows := perform_shows call now db pc
  generalize (perform call now db pc).events = events at shows
  generalize (perform call now db pc).next = next at shows
  cases shows <;> simp

/-- An insert that succeeds is followed by its charge. -/
theorem insert_charges {command : ReserveQuota}
    (missing : db.reservations.table.find command.reservationId = none)
    (stored : (perform call now db (.insert command)).db.reservations.table.find
      command.reservationId ≠ none) :
    (perform call now db (.insert command)).next = .goto (.charge command) := by
  simp only [perform] at stored ⊢
  split
  · rfl
  · rename_i refused
    simp only [refused] at stored
    split at stored <;> exact absurd missing stored

end Goto

theorem step_log {state next : State} {action : Action} (stepped : step state action = some next) :
    ∃ events, next.log = state.log ++ events := by
  cases action with
  | start call request =>
      obtain ⟨-, calls, -, rfl⟩ := step_start stepped
      exact ⟨[], by simp⟩
  | advance call now =>
      obtain ⟨-, running, -, -, rfl⟩ := step_advance stepped
      exact ⟨_, List.append_assoc _ _ _⟩

theorem run_log {state final : State} {actions : List Action}
    (reached : run step state actions = some final) :
    ∃ events, final.log = state.log ++ events := by
  refine run_invariant_always (fun later => ∃ events, later.log = state.log ++ events) ?_
    ⟨[], by simp⟩ reached
  rintro middle action next ⟨events, shape⟩ stepped
  obtain ⟨more, grown⟩ := step_log stepped
  exact ⟨events ++ more, by rw [grown, shape, List.append_assoc]⟩

/-- The call is in flight, or it has returned since the log read `origin`. -/
def Served (origin : List Event) (call : Nat) (request : Request) (state : State) : Prop :=
  (∃ running ∈ state.calls.table.rows, running.id = call ∧ running.request = request) ∨
    ∃ events outcome, state.log = origin ++ events ∧ .returned call request outcome ∈ events

theorem step_served {origin : List Event} {call : Nat} {request : Request} {state next : State}
    {action : Action} (shape : ∃ events, state.log = origin ++ events)
    (served : Served origin call request state) (stepped : step state action = some next) :
    Served origin call request next := by
  rcases served with ⟨running, inside, rfl, rfl⟩ | ⟨events, outcome, told, returned⟩
  · cases action with
    | start other asked =>
        obtain ⟨-, calls, added, rfl⟩ := step_start stepped
        exact .inl ⟨running, by simp [(Table.insert_some.mp added).2, inside], rfl, rfl⟩
    | advance other now =>
        obtain ⟨-, moved, found, rfl, rfl⟩ := step_advance stepped
        by_cases same : running.id = moved.id
        · obtain rfl := Table.eq_of_key inside (Table.find_some.mp found).1 same
          cases ends : (perform running.id now state.db running.pc).next with
          | goto pc =>
              refine .inl ⟨running.goto pc, ?_, rfl, rfl⟩
              simp only [advanced, ends]
              exact mem_resume_own pc found
          | done outcome =>
              obtain ⟨events, past⟩ := shape
              refine .inr ⟨events ++ (perform running.id now state.db running.pc).events ++
                [.returned running.id running.request outcome], outcome, ?_, by simp⟩
              simp [advanced, ends, Next.report, past]
        · exact .inl ⟨running, mem_resume_other _ inside same, rfl, rfl⟩
  · obtain ⟨more, grown⟩ := step_log stepped
    exact .inr ⟨events ++ more, outcome, by rw [grown, told, List.append_assoc],
      List.mem_append_left _ returned⟩

/-- A call that was started is in flight or has returned. -/
theorem run_started {state final : State} {actions : List Action} {call : Nat} {request : Request}
    (reached : run step state actions = some final) (member : .start call request ∈ actions) :
    Served state.log call request final := by
  obtain ⟨before, after, rfl⟩ := List.append_of_mem member
  obtain ⟨middle, earlier, later⟩ := run_append_some.mp reached
  obtain ⟨next, started, onward⟩ := run_cons_some.mp later
  obtain ⟨past, shape⟩ := run_log earlier
  obtain ⟨-, calls, added, rfl⟩ := step_start started
  have inFlight : ∃ running ∈ calls.table.rows, running.id = call ∧ running.request = request :=
    ⟨⟨call, request, request.entry⟩, by simp [(Table.insert_some.mp added).2], rfl, rfl⟩
  have kept : ∀ (one : State) (action : Action) (two : State),
      (∃ events, one.log = state.log ++ events) ∧ Served state.log call request one →
      step one action = some two →
      (∃ events, two.log = state.log ++ events) ∧ Served state.log call request two := by
    rintro one action two ⟨⟨events, known⟩, served⟩ stepped
    obtain ⟨more, grown⟩ := step_log stepped
    exact ⟨⟨events ++ more, by rw [grown, known, List.append_assoc]⟩,
      step_served ⟨events, known⟩ served stepped⟩
  refine (run_invariant_always _ kept ?_ onward).2
  exact ⟨⟨past, shape⟩, .inl inFlight⟩

end AiPlatform.Quota.Mongo

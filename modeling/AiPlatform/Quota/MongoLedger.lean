import AiPlatform.Quota.MongoSteps

set_option autoImplicit false

/- The books of a subject and resource: what its counters hold, together with what calls in
flight have taken out or not yet charged, is what its reservations cost. -/
namespace AiPlatform.Quota.Mongo

open Machine

/-- What the counters of the group hold together. -/
def groupUsed (counters : Table Counter.key) (group : Group) : Int :=
  counters.total fun counter => if counter.group = group then counter.used else 0

/-- What a reservation that is not refunded costs its group. -/
def Reservation.held (group : Group) (doc : Reservation) : Int :=
  if doc.group = group ∧ doc.status ≠ .refunded then doc.cost else 0

def groupHeld (reservations : Indexed Reservation.id Reservation.index) (group : Group) : Int :=
  reservations.table.total (Reservation.held group)

/-- What the command left to a call will still add to the counters of the group: usage taken
from a stale counter, a claim to be charged or withdrawn, less a refund to be subtracted. -/
def Pc.weight (group : Group) : Pc → Int
  | .addToTarget job _ used _ => if job.target.group = group then used else 0
  | .charge command => if (reserveTarget command).group = group then command.cost else 0
  | .withdraw command => if (reserveTarget command).group = group then command.cost else 0
  | .decrement doc => if doc.group = group then -doc.cost else 0
  | _ => 0

@[simp] theorem Job.resume_weight (job : Job) (group : Group) : job.resume.weight group = 0 := by
  cases job with
  | reserve command =>
      simp only [Job.resume]
      split <;> rfl
  | getUsage query => rfl

@[simp] theorem Job.migrateRest_weight (job : Job) (rest : List String) (group : Group) :
    (job.migrateRest rest).weight group = 0 := by
  cases rest with
  | nil => exact job.resume_weight group
  | cons windowKey rest => rfl

@[simp] theorem Request.entry_weight (request : Request) (group : Group) :
    request.entry.weight group = 0 := by
  cases request <;> rfl

theorem Counter.group_eq {counter : Counter} {group : Group} {windowKey : String}
    (same : counter.key = (group, windowKey)) : counter.group = group :=
  (Prod.mk.inj same).1

section Totals

variable {counters : Table Counter.key} {target : Target} {counter : Counter}

theorem groupUsed_increment (amount : Int) (found : counters.find target.key = some counter)
    (group : Group) :
    groupUsed (increment counters target amount) group =
      groupUsed counters group + if target.group = group then amount else 0 := by
  have total := Table.total_modify found (fun counter => counter.refresh target amount)
    (fun counter => counter.refresh_key target amount)
    (fun counter => if counter.group = group then counter.used else 0)
  have own : counter.group = target.group := Counter.group_eq (Table.find_some.mp found).2
  have refreshed : (counter.refresh target amount).group = target.group := own
  simp only [refreshed, own, Counter.refresh_used] at total
  unfold groupUsed increment
  rw [total]
  split <;> omega

theorem groupUsed_refresh (counters : Table Counter.key) (target : Target) (group : Group) :
    groupUsed (increment counters target 0) group = groupUsed counters group := by
  cases found : counters.find target.key with
  | none => rw [increment, Table.modify_missing found]
  | some counter =>
      rw [groupUsed_increment 0 found]
      split <;> omega

theorem groupUsed_upsert (counters : Table Counter.key) (target : Target) (amount : Int)
    (group : Group) :
    groupUsed (upsert counters target amount) group =
      groupUsed counters group + if target.group = group then amount else 0 := by
  unfold upsert
  split
  · rename_i added inserted
    exact Table.total_insert inserted _
  · rename_i refused
    obtain ⟨counter, found⟩ := Option.ne_none_iff_exists'.mp (Table.insert_none.mp refused)
    exact groupUsed_increment amount found group

theorem groupUsed_remove {group : Group} {windowKey : String}
    (found : counters.find (group, windowKey) = some counter) (other : Group) :
    groupUsed (counters.remove (group, windowKey)) other =
      groupUsed counters other - if group = other then counter.used else 0 := by
  have total := Table.total_remove found
    (fun counter => if counter.group = other then counter.used else 0)
  rw [Counter.group_eq (Table.find_some.mp found).2] at total
  exact total

theorem groupUsed_decrement {doc : Reservation} (found : counters.find doc.key = some counter)
    (group : Group) :
    groupUsed (decrement counters doc) group =
      groupUsed counters group - if doc.group = group then doc.cost else 0 := by
  have total := Table.total_modify found (fun counter => counter.lower doc.cost)
    (fun counter => counter.lower_key doc.cost)
    (fun counter => if counter.group = group then counter.used else 0)
  have own : counter.group = doc.group := Counter.group_eq (Table.find_some.mp found).2
  have lowered : (counter.lower doc.cost).group = doc.group := own
  simp only [lowered, own, Counter.lower_used] at total
  unfold groupUsed decrement
  rw [total]
  split <;> omega

end Totals

section Reservations

variable {reservations : Indexed Reservation.id Reservation.index}

theorem total_moveAll {weight : Reservation → Int} (target : Target)
    (kept : ∀ doc : Reservation, weight (doc.move target) = weight doc) (ids : List String)
    (reservations : Indexed Reservation.id Reservation.index) :
    (moveAll target ids reservations).2.table.total weight = reservations.table.total weight := by
  induction ids generalizing reservations with
  | nil => rfl
  | cons head rest ih =>
      simp only [moveAll]
      split
      · rfl
      · rename_i moved rewritten
        rw [ih, Indexed.rewrite_table rewritten]
        cases found : reservations.table.find head with
        | none => rw [Table.modify_missing found]
        | some doc =>
            rw [Table.total_modify found, kept]
            omega

theorem groupHeld_repoint (reservations : Indexed Reservation.id Reservation.index)
    (target : Target) (windowKey : String) (group : Group) :
    groupHeld (repoint reservations target windowKey).2 group = groupHeld reservations group :=
  total_moveAll target (fun _ => rfl) _ _

theorem groupHeld_settle {id : String} {doc : Reservation} (settlement : Settlement)
    (found : reservations.table.find id = some doc) (open_ : doc.status = .reserved)
    (group : Group) :
    groupHeld (reservations.modify id (fun doc => doc.settle settlement)
        (fun doc => doc.settle_id settlement) fun doc => doc.settle_index settlement) group =
      groupHeld reservations group -
        match settlement with
        | .finalize => 0
        | .refund => if doc.group = group then doc.cost else 0 := by
  have total := Table.total_modify found (fun doc => doc.settle settlement)
    (fun doc => doc.settle_id settlement) (Reservation.held group)
  have settled : (doc.settle settlement).group = doc.group := rfl
  unfold groupHeld
  simp only [Indexed.modify]
  rw [total]
  cases settlement <;> simp [Reservation.held, Reservation.settle, Settlement.status, open_,
    show ({ doc with status := .refunded } : Reservation).group = doc.group from rfl,
    show ({ doc with status := .finalized } : Reservation).group = doc.group from rfl]

end Reservations

/-- A claim that its `reserve` call has inserted and not yet charged, as it is stored. -/
def Uncharged (db : Collections) (command : ReserveQuota) : Prop :=
  ∃ doc, db.reservations.table.find command.reservationId = some doc ∧
    doc.group = (reserveTarget command).group ∧ doc.cost = command.cost ∧ doc.status ≠ .refunded

/-- What the books rely on: a claim still to be charged is stored and not refunded, and the
counter that a refund will lower is there. -/
def Pc.booked (db : Collections) : Pc → Prop
  | .charge command => Uncharged db command
  | .withdraw command => Uncharged db command
  | .decrement doc => db.counters.find doc.key ≠ none
  | _ => True

/-- No command moves the books. -/
theorem perform_balance (call : Nat) (now : Int) {db : Collections} {pc : Pc}
    (booked : pc.booked db) (group : Group) :
    groupUsed (perform call now db pc).db.counters group +
        (perform call now db pc).next.weight (Pc.weight group) -
        groupHeld (perform call now db pc).db.reservations group =
      groupUsed db.counters group + pc.weight group - groupHeld db.reservations group := by
  cases pc
  case touch job =>
    simp only [perform, groupUsed_refresh, Next.weight, Job.resume_weight]
    rfl
  case claimStale job windowKey rest =>
    simp only [perform]
    split
    · simp only [Next.weight, Job.migrateRest_weight]
      rfl
    · rename_i claimed found
      simp only [Next.weight, Pc.weight, groupUsed_remove found]
      omega
  case addToTarget job windowKey used rest =>
    simp only [perform, groupUsed_upsert, Next.weight, Pc.weight]
    omega
  case repoint job windowKey rest =>
    have held := groupHeld_repoint db.reservations job.target windowKey group
    simp only [perform]
    split <;> rename_i shape <;> rw [shape] at held <;>
      simp only [held, Next.weight, Job.migrateRest_weight] <;> rfl
  case ensureCounter command => simp [perform, groupUsed_upsert, Next.weight, Pc.weight]
  case insert command =>
    simp only [perform]
    split
    · rename_i added inserted
      have held := Table.total_insert (Indexed.insert_table inserted) (Reservation.held group)
      have fresh : (reservationDoc command).status ≠ .refunded := by simp [reservationDoc]
      have cost : Reservation.held group (reservationDoc command) =
          if (reserveTarget command).group = group then command.cost else 0 := by
        simp only [Reservation.held, fresh, ne_eq, not_false_eq_true, and_true]
        rfl
      simp only [Next.weight, Pc.weight, groupHeld]
      omega
    · split <;> simp [Next.weight, Pc.weight]
  case charge command =>
    simp only [perform]
    split
    · rfl
    · rename_i counter found
      split
      · simp only [Next.weight, Pc.weight, groupUsed_increment command.cost found]
        omega
      · rfl
  case withdraw command =>
    obtain ⟨doc, found, own, cost, kept⟩ := booked
    have total := Table.total_remove found (Reservation.held group)
    have held : Reservation.held group doc =
        if (reserveTarget command).group = group then command.cost else 0 := by
      simp [Reservation.held, kept, own, cost]
    simp only [perform, Next.weight, Pc.weight, groupHeld, Indexed.remove, Indexed.erase]
    simp only [Table.remove] at total
    omega
  case readUsage query =>
    simp only [perform]
    split
    · rfl
    · simp [groupUsed_refresh, Next.weight, Pc.weight]
  case claim settlement reservationId =>
    simp only [perform]
    cases claimed : claimReserved db.reservations reservationId settlement with
    | none => rfl
    | some pair =>
        obtain ⟨doc, settled⟩ := pair
        obtain ⟨found, -, open_, rfl⟩ := claimReserved_some claimed
        have held := groupHeld_settle settlement found open_ group
        cases settlement <;> simp only [Next.weight, Pc.weight] at held ⊢ <;> rw [held]
        · omega
        · split <;> omega
  case decrement doc =>
    obtain ⟨counter, found⟩ := Option.ne_none_iff_exists'.mp booked
    simp only [perform, found, Next.weight, Pc.weight, groupUsed_decrement found]
    split <;> omega
  all_goals
    simp only [perform]
    repeat' split
    all_goals
      simp only [Next.weight, Job.resume_weight]
      try rfl

/-- The command that an action sends. -/
def Action.pc (state : State) : Action → Option Pc
  | .start _ _ => none
  | .advance call _ => (state.calls.find call).map Running.pc

/-- The call has inserted the claim `id` and not yet charged it, or not yet withdrawn it. -/
def Pc.awaits (id : String) : Pc → Bool
  | .charge command => command.reservationId = id
  | .withdraw command => command.reservationId = id
  | _ => false

/-- A refund moves no claim that its own `reserve` call has yet to charge. -/
def refundsCharged (state : State) (action : Action) : Bool :=
  match action.pc state with
  | some (.claim .refund id) => state.calls.table.rows.all fun other => !other.pc.awaits id
  | _ => true

/-- A refund moves its reservation only while the counter of its window is there. -/
def refundsInPlace (state : State) (action : Action) : Bool :=
  match action.pc state with
  | some (.claim .refund id) =>
      (state.db.reservations.find id).all fun doc => (state.db.counters.find doc.key).isSome
  | _ => true

def Pc.lowers (key : Group × String) : Pc → Bool
  | .decrement doc => doc.key = key
  | _ => false

/-- A migration deletes no counter that a refund has yet to lower. -/
def sparesRefunds (state : State) (action : Action) : Bool :=
  match action.pc state with
  | some (.claimStale job windowKey _) =>
      state.calls.table.rows.all fun other => !other.pc.lowers (job.target.group, windowKey)
  | _ => true

structure Ledger (state : State) : Prop where
  fits : ∀ running ∈ state.calls.table.rows, running.pc.fits running.request
  booked : ∀ running ∈ state.calls.table.rows, running.pc.booked state.db
  balanced : ∀ group, groupUsed state.db.counters group +
    state.calls.table.total (fun running => running.pc.weight group) =
      groupHeld state.db.reservations group

theorem Job.resume_booked (job : Job) (db : Collections) : job.resume.booked db := by
  cases job with
  | reserve command =>
      simp only [Job.resume]
      split <;> trivial
  | getUsage query => trivial

theorem Job.migrateRest_booked (job : Job) (rest : List String) (db : Collections) :
    (job.migrateRest rest).booked db := by
  cases rest with
  | nil => exact job.resume_booked db
  | cons windowKey rest => trivial

/-- The next command of a call is booked after the one before it. -/
theorem perform_booked {call : Nat} {now : Int} {db : Collections} {pc next : Pc}
    (booked : pc.booked db)
    (inPlace : ∀ id doc, pc = .claim .refund id → db.reservations.table.find id = some doc →
      db.counters.find doc.key ≠ none)
    (moves : (perform call now db pc).next = .goto next) :
    next.booked (perform call now db pc).db := by
  cases pc
  case migrate job =>
    simp only [perform] at moves
    split at moves
    · split at moves <;> cases moves
      · trivial
      · exact job.resume_booked _
    · cases moves
      trivial
  case touch job =>
    cases moves
    exact job.resume_booked _
  case claimStale job windowKey rest =>
    simp only [perform] at moves
    split at moves <;> cases moves
    · exact job.migrateRest_booked rest _
    · trivial
  case repoint job windowKey rest =>
    simp only [perform] at moves
    split at moves <;> cases moves
    exact job.migrateRest_booked rest _
  case insert command =>
    simp only [perform] at moves ⊢
    split at moves
    · rename_i added inserted
      cases moves
      have found := Table.find_insert (Indexed.insert_table inserted) command.reservationId
      refine ⟨reservationDoc command, ?_, rfl, rfl, by simp [reservationDoc]⟩
      simpa [reservationDoc] using found
    · split at moves <;> cases moves
      trivial
  case charge command =>
    simp only [perform] at moves ⊢
    split at moves
    · cases moves
      exact booked
    · split at moves
      · cases moves
      · rename_i full
        cases moves
        simp only [full, ↓reduceIte]
        exact booked
  case claim settlement reservationId =>
    simp only [perform] at moves ⊢
    split at moves
    · cases moves
      trivial
    · rename_i claimed settled found
      obtain ⟨stored, -, -, -⟩ := claimReserved_some found
      cases settlement <;> cases moves
      · trivial
      · exact inPlace reservationId claimed rfl stored
  case addToTarget job windowKey used rest =>
    cases moves
    trivial
  case ensureCounter command =>
    cases moves
    trivial
  all_goals
    simp only [perform] at moves
    repeat' split at moves
    all_goals
      cases moves
      try trivial

/-- What another call relies on survives a command that meets the guards. -/
theorem Pc.booked.kept {call : Nat} {now : Int} {db : Collections} {pc other : Pc}
    (booked : other.booked db)
    (charged : ∀ id, pc = .claim .refund id → other.awaits id = false)
    (spared : ∀ job windowKey rest, pc = .claimStale job windowKey rest →
      other.lowers (job.target.group, windowKey) = false)
    (apart : ∀ command, pc = .withdraw command → other.awaits command.reservationId = false) :
    other.booked (perform call now db pc).db := by
  have stored : ∀ command, other.awaits command.reservationId = true → Uncharged db command →
      Uncharged (perform call now db pc).db command := by
    rintro command awaits ⟨doc, found, own, cost, kept⟩
    have change := perform_reservation call now db pc command.reservationId
    generalize settledTo : (perform call now db pc).db.reservations.table.find
      command.reservationId = after at change
    rw [found] at change
    cases change with
    | same => exact ⟨doc, settledTo, own, cost, kept⟩
    | withdrawn withdrawn _ withdraws here =>
        have free := apart withdrawn withdraws
        rw [← here, awaits] at free
        cases free
    | settled settlement _ claims open_ =>
        cases settlement with
        | finalize =>
            exact ⟨_, settledTo, own, cost, by simp [Reservation.settle, Settlement.status]⟩
        | refund =>
            have free := charged _ claims
            rw [awaits] at free
            cases free
    | moved job windowKey rest _ moves => exact ⟨_, settledTo, own, cost, kept⟩
  cases other
  case charge command => exact stored command (by simp [Pc.awaits]) booked
  case withdraw command => exact stored command (by simp [Pc.awaits]) booked
  case decrement doc =>
    have change := perform_counter call now db pc doc.key
    change (perform call now db pc).db.counters.find doc.key ≠ none
    obtain ⟨counter, found⟩ := Option.ne_none_iff_exists'.mp booked
    generalize (perform call now db pc).db.counters.find doc.key = after at change
    rw [found] at change
    cases change with
    | same => simp
    | refreshed target amount _ named here fits => simp
    | claimed job windowKey rest _ claims here =>
        have free := spared job windowKey rest claims
        simp [Pc.lowers, here] at free
    | lowered other _ lowers here => simp
  all_goals trivial

theorem Pc.fits.drawnId {pc : Pc} {request : Request} {id : String} (fits : pc.fits request)
    (awaits : pc.awaits id = true) : request.drawnId = some id := by
  cases pc <;> simp only [Pc.awaits, Bool.false_eq_true, decide_eq_true_eq] at awaits
  all_goals
    simp only [Pc.fits] at fits
    rw [fits, ← awaits]
    rfl

/-- A claim is awaited by the one call that drew its id. -/
theorem awaits_unique {state : State}
    (fits : ∀ running ∈ state.calls.table.rows, running.pc.fits running.request)
    {left right : Running} {id : String} (leftMember : left ∈ state.calls.table.rows)
    (rightMember : right ∈ state.calls.table.rows) (leftAwaits : left.pc.awaits id = true)
    (rightAwaits : right.pc.awaits id = true) : left = right := by
  have leftDrew : left.drawnId = some id := (fits left leftMember).drawnId leftAwaits
  have rightDrew : right.drawnId = some id := (fits right rightMember).drawnId rightAwaits
  refine state.calls.indexed left leftMember right rightMember (leftDrew.trans rightDrew.symm) ?_
  rw [leftDrew]
  simp

theorem Ledger.init (start : Int) : Ledger (.init start) := by
  refine ⟨?_, ?_, ?_⟩
  · intro running member
    cases member
  · intro running member
    cases member
  · intro group
    rfl

theorem step_ledger {state next : State} {action : Action} (ledger : Ledger state)
    (charged : refundsCharged state action = true) (inPlace : refundsInPlace state action = true)
    (spared : sparesRefunds state action = true) (stepped : step state action = some next) :
    Ledger next := by
  cases action with
  | start call request =>
      obtain ⟨-, calls, added, rfl⟩ := step_start stepped
      refine ⟨?_, ?_, ?_⟩
      · intro running member
        rcases mem_start added member with old | rfl
        · exact ledger.fits running old
        · exact request.entry_fits
      · intro running member
        rcases mem_start added member with old | rfl
        · exact ledger.booked running old
        · cases request <;> trivial
      · intro group
        have balanced := ledger.balanced group
        have total := Table.total_insert added (fun running => running.pc.weight group)
        simp only [Request.entry_weight] at total
        dsimp only
        omega
  | advance call now =>
      obtain ⟨-, running, found, rfl, rfl⟩ := step_advance stepped
      have sends : Action.pc state (.advance running.id now) = some running.pc := by
        simp [Action.pc, Indexed.find, found]
      simp only [refundsCharged, sends] at charged
      simp only [refundsInPlace, sends] at inPlace
      simp only [sparesRefunds, sends] at spared
      have member := (Table.find_some.mp found).1
      refine ⟨?_, ?_, ?_⟩
      · exact forall_resume found ledger.fits (fun _ _ _ fits => fits)
          fun pc moves fits => perform_fits fits moves
      · refine forall_resume found ledger.booked ?_ ?_
        · intro row old apart booked
          refine booked.kept ?_ ?_ ?_
          · intro id claims
            rw [claims] at charged
            simpa using List.all_eq_true.mp charged row old
          · intro job windowKey rest claims
            rw [claims] at spared
            simpa using List.all_eq_true.mp spared row old
          · intro command withdraws
            by_contra awaits
            have own : running.pc.awaits command.reservationId = true := by
              simp [withdraws, Pc.awaits]
            exact apart (congrArg Running.id
              (awaits_unique ledger.fits old member (by simpa using awaits) own))
        · intro pc moves booked
          refine perform_booked booked ?_ moves
          intro id doc claims stored
          rw [claims] at inPlace
          have present : (state.db.counters.find doc.key).isSome = true := by
            simpa [Indexed.find, stored] using inPlace
          exact Option.isSome_iff_ne_none.mp present
      · intro group
        have balance := perform_balance running.id now (ledger.booked running member) group
        have total := total_resume found (perform running.id now state.db running.pc).next
          (Pc.weight group)
        have balanced := ledger.balanced group
        simp only [advanced]
        omega

end AiPlatform.Quota.Mongo

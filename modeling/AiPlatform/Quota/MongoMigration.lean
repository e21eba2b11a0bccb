import AiPlatform.Quota.MongoConservation

set_option autoImplicit false

/- Window migration under concurrency. While a stale counter is deleted and its usage not yet
added to the target, the usage is in no counter; what other calls do in that gap decides
whether it is kept. -/
namespace AiPlatform.Quota.Mongo

open Machine

/-- Usage that a migration of the group has taken out and not yet added to its target. -/
def Pc.carried (group : Group) : Pc → Int
  | .addToTarget job _ used _ => if job.target.group = group then used else 0
  | _ => 0

/-- What the target will hold when the active counters of its group have been migrated. -/
def migratedTotal (state : State) (now : Int) (target : Target) : Int :=
  state.db.counters.total (fun counter =>
    if counter.group = target.group ∧
        (counter.windowKey = target.windowKey ∨ now < counter.resetAt) then counter.used
    else 0) +
    state.calls.table.total fun running => running.pc.carried target.group

/-- With no call in flight nothing is lost or counted twice, and every refund is subtracted. -/
def Conserved (state : State) : Prop :=
  state.calls.table.rows = [] →
    (∀ group, groupUsed state.db.counters group = groupHeld state.db.reservations group) ∧
      ∀ call id, .settled call id .refund ∈ state.log →
        ∃ key cost, .decremented call id key cost ∈ state.log

/-- A charge that is admitted leaves the migrated total within the limit. -/
def AdmitsWithinLimit (state : State) (action : Action) : Prop :=
  ∀ call now running command counter, action = .advance call now →
    state.calls.table.find call = some running → running.pc = .charge command →
    state.db.counters.find (reserveTarget command).key = some counter →
    counter.used + command.cost ≤ command.limit →
    migratedTotal state now (reserveTarget command) + command.cost ≤ command.limit

def Pc.carries (group : Group) : Pc → Bool
  | .addToTarget job _ _ _ => job.target.group = group
  | _ => false

/-- No `reserve` charges while a migration of its group is between its delete and its add. -/
def chargesOutsideGap (state : State) (action : Action) : Bool :=
  match action.pc state with
  | some (.charge command) =>
      state.calls.table.rows.all fun other => !other.pc.carries (reserveTarget command).group
  | _ => true

/-- No `reserve` charges while another window of its group is active. -/
def chargesOnlyActive (state : State) : Action → Bool
  | .start _ _ => true
  | .advance call now =>
      match (state.calls.find call).map Running.pc with
      | some (.charge command) => state.db.counters.rows.all fun counter =>
          counter.group ≠ (reserveTarget command).group ||
            (counter.windowKey = command.windowKey || counter.resetAt ≤ now)
      | _ => true

def Request.rivals (job : Job) : Request → Bool
  | .serve other => other.target.group = job.target.group &&
      other.target.windowKey ≠ job.target.windowKey
  | .settle _ _ => false

/-- Calls on one group that are in flight together name one window. -/
def oneWindowInFlight (state : State) : Action → Bool
  | .start _ (.serve job) => state.calls.table.rows.all fun other => !other.request.rivals job
  | _ => true

/-- The refunds and charges of the run stay out of the migrations' way. -/
def keepsApart (state : State) (action : Action) : Bool :=
  refundsCharged state action && (refundsInPlace state action &&
    (sparesRefunds state action && chargesOutsideGap state action))

/-- The windows a migration has yet to claim. -/
def Pc.stale : Pc → List String
  | .claimStale _ windowKey rest => windowKey :: rest
  | .addToTarget _ _ _ rest => rest
  | .repoint _ _ rest => rest
  | _ => []

@[simp] theorem Job.resume_stale (job : Job) : job.resume.stale = [] := by
  cases job with
  | reserve command =>
      simp only [Job.resume]
      split <;> rfl
  | getUsage query => rfl

@[simp] theorem Job.migrateRest_stale (job : Job) (rest : List String) :
    (job.migrateRest rest).stale = rest := by
  cases rest with
  | nil => exact job.resume_stale
  | cons windowKey rest => rfl

/-- Past its first read, a call knows every other active window of its group. -/
structure Swept (state : State) : Prop where
  fits : ∀ running ∈ state.calls.table.rows, running.pc.fits running.request
  same : ∀ left ∈ state.calls.table.rows, ∀ right ∈ state.calls.table.rows, ∀ mine other,
    left.request = .serve mine → right.request = .serve other →
    mine.target.group = other.target.group → mine.target.windowKey = other.target.windowKey
  swept : ∀ running ∈ state.calls.table.rows, ∀ job, running.request = .serve job →
    running.pc ≠ .migrate job → ∀ counter ∈ state.db.counters.rows,
      counter.group = job.target.group → counter.windowKey ≠ job.target.windowKey →
      counter.resetAt ≤ state.clock ∨ counter.windowKey ∈ running.pc.stale

theorem Pc.refreshes_job {pc : Pc} {request : Request} {target : Target} {amount : Int}
    (fits : pc.fits request) (named : pc.refreshes = some (target, amount)) :
    ∃ job, request = .serve job ∧ job.target = target := by
  cases pc <;> simp only [Pc.refreshes, Option.some.injEq, Prod.mk.injEq, reduceCtorEq] at named
  all_goals
    obtain ⟨rfl, -⟩ := named
    simp only [Pc.fits] at fits
    exact ⟨_, fits, rfl⟩

/-- A command leaves the counters of the windows that its call does not name as they are, or
lowers or deletes them. -/
theorem other_window_kept {call : Nat} {now : Int} {db : Collections} {pc : Pc}
    {request : Request} (fits : pc.fits request) {counter : Counter}
    (member : counter ∈ (perform call now db pc).db.counters.rows)
    (other : ∀ job, request = .serve job → job.target.key ≠ counter.key) :
    ∃ old ∈ db.counters.rows, old.key = counter.key ∧ old.resetAt = counter.resetAt := by
  have change := perform_counter call now db pc counter.key
  rw [Table.find_mem member] at change
  generalize origin : db.counters.find counter.key = before at change
  cases change with
  | same =>
      obtain ⟨stored, key⟩ := Table.find_some.mp origin
      exact ⟨counter, stored, rfl, rfl⟩
  | refreshed target amount old named here charged =>
      obtain ⟨job, asked, rfl⟩ := Pc.refreshes_job fits named
      exact absurd here.symm (other job asked)
  | created target amount named here creates =>
      obtain ⟨job, asked, rfl⟩ := Pc.refreshes_job fits named
      exact absurd here.symm (other job asked)
  | lowered doc old lowers here =>
      obtain ⟨stored, key⟩ := Table.find_some.mp origin
      exact ⟨old, stored, rfl, rfl⟩

/-- The first read finds every active counter of another window. -/
theorem migrate_sweeps {call : Nat} {now : Int} {db : Collections} {job : Job} {next : Pc}
    (moves : (perform call now db (.migrate job)).next = .goto next) {counter : Counter}
    (member : counter ∈ (perform call now db (.migrate job)).db.counters.rows)
    (own : counter.group = job.target.group) (other : counter.windowKey ≠ job.target.windowKey) :
    counter.resetAt ≤ now ∨ counter.windowKey ∈ next.stale := by
  have listed : counter ∈ db.counters.rows → now < counter.resetAt →
      counter.windowKey ∈ staleWindows db.counters job.target now := by
    intro stored active
    refine List.mem_map_of_mem (List.mem_filter.mpr ⟨stored, ?_⟩)
    simp [own, other, active]
  simp only [perform] at moves member
  cases stale : staleWindows db.counters job.target now with
  | nil =>
      rw [stale] at listed
      simp only [stale] at member
      left
      by_contra active
      refine absurd (listed ?_ (by omega)) List.not_mem_nil
      split at member <;> exact member
  | cons windowKey rest =>
      simp only [stale] at moves member
      rw [stale] at listed
      cases moves
      by_cases active : now < counter.resetAt
      · exact .inr (listed member active)
      · exact .inl (by omega)

/-- Each turn of the loop strikes off only a window that has no counter left. -/
theorem migrate_continues {call : Nat} {now : Int} {db : Collections} {pc next : Pc} {job : Job}
    (fits : pc.fits (.serve job)) (moves : (perform call now db pc).next = .goto next)
    {counter : Counter} (member : counter ∈ (perform call now db pc).db.counters.rows)
    (own : counter.group = job.target.group) (listed : counter.windowKey ∈ pc.stale) :
    counter.windowKey ∈ next.stale := by
  cases pc <;> simp only [Pc.stale, List.not_mem_nil] at listed
  case claimStale job windowKey rest =>
    cases fits
    simp only [perform] at moves member
    have key : counter.windowKey = windowKey → counter.key = (job.target.group, windowKey) :=
      fun same => by rw [Counter.key, own, same]
    cases found : db.counters.find (job.target.group, windowKey) with
    | none =>
        simp only [found] at moves member
        cases moves
        rw [Job.migrateRest_stale]
        rcases List.mem_cons.mp listed with same | later
        · exact absurd (key same) (Table.find_none.mp found counter member)
        · exact later
    | some claimed =>
        simp only [found] at moves member
        cases moves
        rcases List.mem_cons.mp listed with same | later
        · exact absurd (key same) (Table.mem_remove.mp member).2
        · exact later
  case addToTarget job windowKey used rest =>
    cases moves
    exact listed
  case repoint job windowKey rest =>
    simp only [perform] at moves
    split at moves <;> cases moves
    rw [Job.migrateRest_stale]
    exact listed

theorem Swept.init (start : Int) : Swept (.init start) := by
  constructor <;> simp [State.init, Indexed.empty]

theorem Swept.started {state : State} {call : Nat} {request : Request} {calls : Calls}
    (swept : Swept state) (together : oneWindowInFlight state (.start call request) = true)
    (added : state.calls.table.insert ⟨call, request, request.entry⟩ = some calls.table) :
    Swept { state with calls := calls, drawn := request.drawnId.toList ++ state.drawn } := by
  have agrees : ∀ row ∈ state.calls.table.rows, ∀ mine other, row.request = .serve mine →
      request = .serve other → mine.target.group = other.target.group →
      mine.target.windowKey = other.target.windowKey := by
    rintro row old mine other asked rfl group
    have free := List.all_eq_true.mp together row old
    simpa [asked, Request.rivals, group] using free
  refine ⟨?_, ?_, ?_⟩
  · intro running member
    rcases mem_start added member with old | rfl
    · exact swept.fits running old
    · exact request.entry_fits
  · intro left leftMember right rightMember mine other leftAsked rightAsked group
    rcases mem_start added leftMember with leftOld | rfl <;>
      rcases mem_start added rightMember with rightOld | rfl
    · exact swept.same left leftOld right rightOld mine other leftAsked rightAsked group
    · exact agrees left leftOld mine other leftAsked rightAsked group
    · exact (agrees right rightOld other mine rightAsked leftAsked group.symm).symm
    · have equal : Request.serve mine = .serve other := leftAsked.symm.trans rightAsked
      cases equal
      rfl
  · intro running member job asked past
    rcases mem_start added member with old | rfl
    · exact swept.swept running old job asked past
    · have shape : request = .serve job := asked
      subst shape
      exact absurd rfl past

section Advance

variable {state : State} {running : Running} {now : Int}

/-- The counters of a group that the calls of the group do not target are old ones. -/
theorem Swept.kept (swept : Swept state) (member : running ∈ state.calls.table.rows)
    {row : Running} (inside : row ∈ state.calls.table.rows) {job : Job}
    (asked : row.request = .serve job) {counter : Counter}
    (present : counter ∈ (advanced state running now).db.counters.rows)
    (own : counter.group = job.target.group) (other : counter.windowKey ≠ job.target.windowKey) :
    ∃ old ∈ state.db.counters.rows, old.key = counter.key ∧ old.resetAt = counter.resetAt := by
  refine other_window_kept (swept.fits running member) present ?_
  intro mine served key
  obtain ⟨group, windowKey⟩ := Prod.mk.inj key
  refine other ?_
  rw [← windowKey]
  exact swept.same running member row inside mine job served asked (group.trans own)

/-- What a call past its sweep knew of the other windows holds of the counters that are kept. -/
theorem Swept.still (swept : Swept state) (member : running ∈ state.calls.table.rows)
    {row : Running} (inside : row ∈ state.calls.table.rows) {job : Job}
    (asked : row.request = .serve job) (past : row.pc ≠ .migrate job) {counter : Counter}
    (present : counter ∈ (advanced state running now).db.counters.rows)
    (own : counter.group = job.target.group) (other : counter.windowKey ≠ job.target.windowKey) :
    counter.resetAt ≤ state.clock ∨ counter.windowKey ∈ row.pc.stale := by
  obtain ⟨old, stored, key, reset⟩ := swept.kept member inside asked present own other
  obtain ⟨group, windowKey⟩ := Prod.mk.inj key
  have settled := swept.swept row inside job asked past old stored (group.trans own)
    (windowKey ▸ other)
  rwa [reset, windowKey] at settled

theorem Swept.advanced (swept : Swept state) (later : state.clock ≤ now)
    (found : state.calls.table.find running.id = some running) :
    Swept (advanced state running now) := by
  have member := (Table.find_some.mp found).1
  have fits := swept.fits running member
  have requests : ∀ row ∈ (Mongo.advanced state running now).calls.table.rows,
      ∃ old ∈ state.calls.table.rows, old.request = row.request := by
    intro row inside
    rcases mem_resume found inside with ⟨old, -⟩ | ⟨pc, -, rfl⟩
    · exact ⟨row, old, rfl⟩
    · exact ⟨running, member, rfl⟩
  refine ⟨?_, ?_, ?_⟩
  · exact forall_resume found swept.fits (fun _ _ _ fits => fits)
      fun pc moves fits => perform_fits fits moves
  · intro left leftMember right rightMember mine other leftAsked rightAsked group
    obtain ⟨leftOld, leftInside, leftSame⟩ := requests left leftMember
    obtain ⟨rightOld, rightInside, rightSame⟩ := requests right rightMember
    exact swept.same leftOld leftInside rightOld rightInside mine other
      (leftSame.trans leftAsked) (rightSame.trans rightAsked) group
  · intro row inside job asked past counter present own other
    rcases mem_resume found inside with ⟨rowOld, -⟩ | ⟨pc, moves, rfl⟩
    · rcases swept.still member rowOld asked past present own other with expired | listed
      · exact .inl (le_trans expired later)
      · exact .inr listed
    · by_cases first : running.pc = .migrate job
      · simp only [Mongo.advanced, first] at present
        rw [first] at moves
        exact migrate_sweeps moves present own other
      · have served : running.request = .serve job := asked
        rcases swept.still member member served first present own other with expired | listed
        · exact .inl (le_trans expired later)
        · rw [served] at fits
          exact .inr (migrate_continues fits moves present own listed)

end Advance

theorem step_swept {state next : State} {action : Action} (swept : Swept state)
    (together : oneWindowInFlight state action = true) (stepped : step state action = some next) :
    Swept next := by
  cases action with
  | start call request =>
      obtain ⟨-, calls, added, rfl⟩ := step_start stepped
      exact swept.started together added
  | advance call now =>
      obtain ⟨later, running, found, rfl, rfl⟩ := step_advance stepped
      exact swept.advanced later found

/-- When all calls of a group in flight name one window, a charge finds no other one active. -/
theorem Swept.chargesOnlyActive {state next : State} {action : Action} (swept : Swept state)
    (stepped : step state action = some next) : chargesOnlyActive state action = true := by
  cases action with
  | start call request => rfl
  | advance call now =>
      obtain ⟨later, running, found, rfl, -⟩ := step_advance stepped
      have member := (Table.find_some.mp found).1
      have present : state.calls.find running.id = some running := found
      simp only [Mongo.chargesOnlyActive, present, Option.map_some]
      split
      · rename_i command charges
        have fits := swept.fits running member
        have pc := Option.some.inj charges
        rw [pc] at fits
        simp only [Pc.fits] at fits
        simp only [List.all_eq_true, Bool.or_eq_true, decide_eq_true_eq]
        intro counter stored
        by_cases own : counter.group = (reserveTarget command).group
        · by_cases here : counter.windowKey = command.windowKey
          · exact .inr (.inl here)
          · have settled := swept.swept running member (.reserve command) fits (by simp [pc])
              counter stored own here
            rw [pc] at settled
            rcases settled with expired | listed
            · exact .inr (.inr (le_trans expired later))
            · cases listed
        · exact .inl own
      · rfl

/-- A refund that has moved its reservation has lowered a counter or is about to. -/
def Subtracted (state : State) : Prop :=
  ∀ call id, .settled call id .refund ∈ state.log →
    (∃ key cost, .decremented call id key cost ∈ state.log) ∨
      ∃ running ∈ state.calls.table.rows, running.id = call ∧
        ∃ doc, running.pc = .decrement doc ∧ doc.id = id

/-- The command that follows a refund's move of its reservation. -/
theorem settled_goes_on {call other : Nat} {now : Int} {db : Collections} {pc : Pc} {id : String}
    (told : .settled other id .refund ∈ (perform call now db pc).events) :
    other = call ∧ ∃ doc, (perform call now db pc).next = .goto (.decrement doc) ∧ doc.id = id := by
  have shows := perform_shows call now db pc
  generalize (perform call now db pc).events = events at shows told
  generalize (perform call now db pc).next = next at shows ⊢
  cases shows with
  | nothing => cases told
  | charged command usage => simp at told
  | settled settlement id doc found open_ =>
      simp only [List.mem_singleton, Event.settled.injEq] at told
      obtain ⟨rfl, rfl, rfl⟩ := told
      exact ⟨rfl, doc, rfl, (Table.find_some.mp found).2⟩
  | decremented doc usage => simp at told

/-- A decrement that finds its counter shows in the log. -/
theorem decrement_shows (call : Nat) (now : Int) {db : Collections} {doc : Reservation}
    (present : db.counters.find doc.key ≠ none) :
    .decremented call doc.id doc.key doc.cost ∈ (perform call now db (.decrement doc)).events := by
  obtain ⟨counter, found⟩ := Option.ne_none_iff_exists'.mp present
  simp [perform, found]

theorem step_subtracted {state next : State} {action : Action} (ledger : Ledger state)
    (subtracted : Subtracted state) (stepped : step state action = some next) :
    Subtracted next := by
  cases action with
  | start call request =>
      obtain ⟨-, calls, added, rfl⟩ := step_start stepped
      intro call id told
      rcases subtracted call id told with lowered | ⟨running, inside, rest⟩
      · exact .inl lowered
      · exact .inr ⟨running, by simp [(Table.insert_some.mp added).2, inside], rest⟩
  | advance call now =>
      obtain ⟨-, running, found, rfl, rfl⟩ := step_advance stepped
      have member := (Table.find_some.mp found).1
      intro call id told
      simp only [advanced, List.mem_append] at told
      rcases told with (old | new) | report
      · rcases subtracted call id old with ⟨key, cost, lowered⟩ |
          ⟨row, inside, rfl, doc, lowers, own⟩
        · exact .inl ⟨key, cost, by simp [advanced, lowered]⟩
        · by_cases same : row.id = running.id
          · obtain rfl := Table.eq_of_key inside member same
            have booked := ledger.booked row member
            rw [lowers] at booked
            refine .inl ⟨doc.key, doc.cost, ?_⟩
            have shown := decrement_shows row.id now booked
            rw [own] at shown
            simp [advanced, lowers, shown]
          · exact .inr ⟨row, mem_resume_other _ inside same, rfl, doc, lowers, own⟩
      · obtain ⟨rfl, doc, moves, own⟩ := settled_goes_on new
        refine .inr ⟨running.goto (.decrement doc), ?_, rfl, doc, rfl, own⟩
        simp only [advanced, moves]
        exact mem_resume_own _ found
      · cases ends : (perform running.id now state.db running.pc).next with
        | goto pc =>
            rw [ends] at report
            cases report
        | done outcome =>
            rw [ends] at report
            simp [Next.report] at report

/-- A charge outside every gap, with no other window active, sees all that its group uses. -/
theorem admits_of_guards {state : State} {action : Action}
    (apart : chargesOutsideGap state action = true)
    (active : chargesOnlyActive state action = true) : AdmitsWithinLimit state action := by
  rintro call now running command counter rfl found charges counted fits
  have present : state.calls.find call = some running := found
  simp only [chargesOutsideGap, Action.pc, present, Option.map_some, charges,
    List.all_eq_true] at apart
  simp only [chargesOnlyActive, present, Option.map_some, charges, List.all_eq_true,
    Bool.or_eq_true, decide_eq_true_eq] at active
  have idle : state.calls.table.total
      (fun running => running.pc.carried (reserveTarget command).group) = 0 := by
    have nothing : ∀ row ∈ state.calls.table.rows,
        row.pc.carried (reserveTarget command).group = 0 := by
      intro row inside
      have free := apart row inside
      cases shape : row.pc <;> try rfl
      rename_i job windowKey used rest
      have foreign : job.target.group ≠ (reserveTarget command).group := by
        simpa [shape, Pc.carries] using free
      exact if_neg foreign
    rw [Table.total_congr nothing]
    simp [Table.total]
  obtain ⟨stored, key⟩ := Table.find_some.mp counted
  have rest : ∀ other ∈ state.db.counters.rows, (if other.key = counter.key then 0 else
      if other.group = (reserveTarget command).group ∧
        (other.windowKey = (reserveTarget command).windowKey ∨ now < other.resetAt) then other.used
      else 0) = (0 : Int) := by
    intro other inside
    split
    · rfl
    · rename_i different
      apply if_neg
      rintro ⟨own, here | running⟩
      · refine different ?_
        rw [key, Counter.key, own, here]
        rfl
      · rcases active other inside with foreign | here | expired
        · exact foreign own
        · refine different ?_
          rw [key, Counter.key, own, here]
          rfl
        · omega
  have used : state.db.counters.total (fun other =>
      if other.group = (reserveTarget command).group ∧
        (other.windowKey = (reserveTarget command).windowKey ∨ now < other.resetAt) then other.used
      else 0) = counter.used := by
    obtain ⟨group, windowKey⟩ := Prod.mk.inj key
    rw [Table.total_split stored, Table.total_congr rest, if_pos ⟨group, .inl windowKey⟩]
    simp [Table.total]
  unfold migratedTotal
  omega

/-- In every run whose refunds and charges stay out of the migrations' way, with one active window
at every charge or one window named by the calls in flight, migration loses and double counts
nothing, refunds are subtracted and no charge is admitted above the limit. -/
theorem migration_conserves (start : Int) (actions : List Action) (state : State)
    (reached : run step (.init start) actions = some state)
    (apart : Meets step (fun state action => keepsApart state action = true) (.init start) actions)
    (active : Meets step (fun state action => chargesOnlyActive state action = true) (.init start)
        actions ∨
      Meets step (fun state action => oneWindowInFlight state action = true)
        (.init start) actions) :
    Conserved state ∧ Meets step AdmitsWithinLimit (.init start) actions := by
  have kept : ∀ (state : State) (action : Action) (next : State),
      (Ledger state ∧ Subtracted state) → keepsApart state action = true →
      step state action = some next → Ledger next ∧ Subtracted next := by
    rintro state action next ⟨ledger, subtracted⟩ apart stepped
    simp only [keepsApart, Bool.and_eq_true] at apart
    obtain ⟨charged, inPlace, spared, -⟩ := apart
    exact ⟨step_ledger ledger charged inPlace spared stepped,
      step_subtracted ledger subtracted stepped⟩
  have initial : Ledger (.init start) ∧ Subtracted (.init start) :=
    ⟨Ledger.init start, fun call id told => absurd told List.not_mem_nil⟩
  obtain ⟨ledger, subtracted⟩ := run_invariant _ kept initial apart reached
  have onlyActive : Meets step (fun state action => chargesOnlyActive state action = true)
      (.init start) actions := by
    rcases active with active | together
    · exact active
    · have sweeps : ∀ (state : State) (action : Action) (next : State), Swept state →
          oneWindowInFlight state action = true → step state action = some next → Swept next :=
        fun _ _ _ swept together stepped => step_swept swept together stepped
      exact Meets.of_invariant sweeps
        (fun _ _ _ swept _ stepped => swept.chargesOnlyActive stepped)
        (Swept.init start) together reached
  refine ⟨?_, ?_⟩
  · intro idle
    refine ⟨?_, ?_⟩
    · intro group
      have books := ledger.balanced group
      have nothing : state.calls.table.total (fun running => running.pc.weight group) = 0 := by
        simp [Table.total, idle]
      omega
    · intro call id told
      rcases subtracted call id told with lowered | ⟨running, inside, -⟩
      · exact lowered
      · rw [idle] at inside
        cases inside
  · refine (apart.and onlyActive).imp ?_
    rintro state action ⟨apart, active⟩
    simp only [keepsApart, Bool.and_eq_true] at apart
    exact admits_of_guards apart.2.2.2 active

/-- A `reserve` in the window that ends at `resetAt`. -/
def windowReserve (id windowKey : String) (resetAt : Int)
    (nonempty : windowKey ≠ "" := by decide) : Request :=
  .serve (.reserve
    { subjectId := "s"
      resource := "r"
      windowKey := windowKey
      limit := 10
      cost := 2
      resetAt := resetAt
      reservationId := id
      idempotencyKey := none
      subjectNonempty := subject_sample
      resourceNonempty := resource_sample
      windowNonempty := nonempty
      limitPositive := limit_sample
      costPositive := cost_sample })

/-- A reservation of the old window is charged. -/
def oldReservation : List Action :=
  [.start 1 (windowReserve "a" "old" 100), .advance 1 0, .advance 1 0, .advance 1 0, .advance 1 0]

/-- The refund is over before the next window's call migrates the usage. -/
def refundThenMigrate : List Action :=
  oldReservation ++
    [.start 2 (.settle .refund "a"), .advance 2 1, .advance 2 1,
      .start 3 (windowReserve "b" "new" 200), .advance 3 2, .advance 3 2,
        .advance 3 2, .advance 3 2,
      .advance 3 2, .advance 3 2, .advance 3 2]

theorem refundThenMigrate_accepted : (run step (.init 0) refundThenMigrate).isSome = true := by
  decide +kernel

theorem migration_conserves_after_refund :
    ∃ state, run step (.init 0) refundThenMigrate = some state ∧ Conserved state := by
  have reached := (Option.some_get refundThenMigrate_accepted).symm
  exact ⟨_, reached, (migration_conserves 0 refundThenMigrate _ reached (by decide +kernel)
    (.inr (by decide +kernel))).1⟩

/-- The migration falls between the refund's two commands. -/
def refundDuringMigration : List Action :=
  oldReservation ++
    [.start 2 (.settle .refund "a"), .advance 2 1, .start 3 (windowReserve "b" "new" 200),
      .advance 3 2, .advance 3 2, .advance 2 3, .advance 3 4, .advance 3 4,
        .advance 3 4, .advance 3 4,
      .advance 3 4]

theorem refundDuringMigration_accepted :
    (run step (.init 0) refundDuringMigration).isSome = true := by
  decide +kernel

/-- The refund is answered with a `KeyError` and its cost stays in the new window for good. -/
theorem refund_lost_in_migration :
    ¬ ∀ state, run step (.init 0) refundDuringMigration = some state → Conserved state := by
  intro conserved
  have held := conserved _ (Option.some_get refundDuringMigration_accepted).symm (by decide +kernel)
  have books := held.1 ("s", "r")
  revert books
  decide +kernel

end AiPlatform.Quota.Mongo

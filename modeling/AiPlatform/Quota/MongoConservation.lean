import AiPlatform.Quota.MongoWindow

set_option autoImplicit false

/- Conservation and limit safety in one window, for any interleaving of reserves, finalizes and
refunds. -/
namespace AiPlatform.Quota.Mongo

open Machine

def usedAt (counters : Table Counter.key) (key : Group × String) : Int :=
  (counters.find key).elim 0 Counter.used

/-- The cost of the stored reservations of a window that are not refunded. -/
def windowHeld (reservations : Indexed Reservation.id Reservation.index)
    (key : Group × String) : Int :=
  reservations.table.total fun doc =>
    if doc.key = key ∧ doc.status ≠ .refunded then doc.cost else 0

/-- What the quota promises in every state. -/
def QuotaSound (limit : Group → Int) (state : State) : Prop :=
  (∀ counter ∈ state.db.counters.rows, 0 ≤ counter.used ∧ counter.used ≤ limit counter.group) ∧
    (state.calls.table.rows = [] → ∀ key,
      usedAt state.db.counters key = windowHeld state.db.reservations key)

/-- The call carries the fixed limit of its subject and resource. -/
def Action.limited (limit : Group → Int) : Action → Prop
  | .start _ (.serve job) => job.target.limit = limit job.target.group
  | _ => True

instance (limit : Group → Int) (action : Action) : Decidable (action.limited limit) :=
  match action with
  | .start _ (.serve job) => inferInstanceAs (Decidable (job.target.limit = limit job.target.group))
  | .start _ (.settle _ _) => inferInstanceAs (Decidable True)
  | .advance _ _ => inferInstanceAs (Decidable True)

def Request.limited (limit : Group → Int) : Request → Prop
  | .serve job => job.target.limit = limit job.target.group
  | .settle _ _ => True

structure Limited (limit : Group → Int) (state : State) : Prop where
  requests : ∀ running ∈ state.calls.table.rows, running.request.limited limit
  counters : ∀ counter ∈ state.db.counters.rows, counter.used ≤ limit counter.group

section Window

variable {window : Group → String} {state : State} {group : Group}

theorem OneWindow.key_eq (one : OneWindow window state) {counter : Counter}
    (member : counter ∈ state.db.counters.rows) (own : counter.group = group) :
    counter.key = (group, window group) := by
  rw [Counter.key, own, one.counters counter member, own]

/-- The one counter of a group holds all that the group uses. -/
theorem OneWindow.groupUsed_eq (one : OneWindow window state) (group : Group) :
    groupUsed state.db.counters group = usedAt state.db.counters (group, window group) := by
  unfold groupUsed usedAt
  cases found : state.db.counters.find (group, window group) with
  | none =>
      have nothing : ∀ counter ∈ state.db.counters.rows,
          (if counter.group = group then counter.used else 0) = (0 : Int) := by
        intro counter member
        rw [if_neg fun own => Table.find_none.mp found counter member (one.key_eq member own)]
      rw [Table.total_congr nothing]
      simp [Table.total]
  | some counter =>
      obtain ⟨member, here⟩ := Table.find_some.mp found
      rw [Table.total_split member]
      have rest : ∀ other ∈ state.db.counters.rows, (if other.key = counter.key then 0 else
          if other.group = group then other.used else 0) = (0 : Int) := by
        intro other inside
        split
        · rfl
        · rename_i apart
          exact if_neg fun own => apart ((one.key_eq inside own).trans here.symm)
      rw [Table.total_congr rest, if_pos (Counter.group_eq here)]
      simp [Table.total]

theorem OneWindow.groupHeld_eq (one : OneWindow window state) (group : Group) :
    groupHeld state.db.reservations group =
      windowHeld state.db.reservations (group, window group) := by
  unfold groupHeld windowHeld
  apply Table.total_congr
  intro doc member
  have windowed := (one.reservations doc member).1
  have same : doc.group = group ↔ doc.key = (group, window group) := by
    simp only [Reservation.key, Prod.mk.injEq]
    constructor
    · intro own
      exact ⟨own, by rw [windowed, own]⟩
    · exact And.left
  simp only [Reservation.held, same]

/-- Nothing is stored under a window that is not the group's. -/
theorem OneWindow.windowHeld_elsewhere (one : OneWindow window state) {windowKey : String}
    (other : windowKey ≠ window group) :
    windowHeld state.db.reservations (group, windowKey) = 0 := by
  have nothing : ∀ doc ∈ state.db.reservations.table.rows,
      (if doc.key = (group, windowKey) ∧ doc.status ≠ .refunded then doc.cost else 0) =
        (0 : Int) := by
    intro doc member
    apply if_neg
    rintro ⟨here, -⟩
    obtain ⟨own, named⟩ := Prod.mk.inj here
    exact other (by rw [← named, (one.reservations doc member).1, own])
  rw [windowHeld, Table.total_congr nothing]
  simp [Table.total]

theorem OneWindow.usedAt_elsewhere (one : OneWindow window state) {windowKey : String}
    (other : windowKey ≠ window group) : usedAt state.db.counters (group, windowKey) = 0 := by
  have missing : state.db.counters.find (group, windowKey) = none := by
    apply Table.find_none.mpr
    intro counter member here
    obtain ⟨own, named⟩ := Prod.mk.inj here
    exact other (by rw [← named, one.counters counter member, own])
  simp [usedAt, missing]

/-- The claim a call in flight stored and has yet to charge. -/
def Pc.uncharged : Pc → Option String
  | .charge command => some command.reservationId
  | .withdraw command => some command.reservationId
  | _ => none

theorem Pc.uncharged_awaits {pc : Pc} {id : String} (chosen : pc.uncharged = some id) :
    pc.awaits id = true := by
  cases pc <;> simp [Pc.uncharged, Pc.awaits] at chosen ⊢ <;> exact chosen

/-- What the calls in flight have yet to charge is covered by stored claims. -/
theorem Ledger.weight_le_held (ledger : Ledger state) (one : OneWindow window state)
    (group : Group) :
    state.calls.table.total (fun running => running.pc.weight group) ≤
      groupHeld state.db.reservations group := by
  refine Table.total_le_of_matching (fun running => running.pc.uncharged) ?_ ?_ ?_ ?_
  · intro doc member
    have cost := (one.reservations doc member).2.1
    unfold Reservation.held
    split <;> omega
  · intro running member single
    have plain := one.calls running member
    cases shape : running.pc <;> simp only [Pc.uncharged, shape, reduceCtorEq] at single <;>
      simp only [Pc.weight, le_refl]
    case addToTarget job windowKey used rest =>
      rw [shape] at plain
      exact plain.elim
    case decrement doc =>
      rw [shape] at plain
      have cost := plain.2
      split <;> omega
  · intro running member id chosen
    have booked := ledger.booked running member
    have covered : ∀ command : ReserveQuota, Uncharged state.db command →
        ∃ doc, state.db.reservations.table.find command.reservationId = some doc ∧
          (if (reserveTarget command).group = group then command.cost else 0) ≤
            Reservation.held group doc := by
      rintro command ⟨doc, found, own, cost, kept⟩
      refine ⟨doc, found, ?_⟩
      simp [Reservation.held, kept, own, cost]
    cases shape : running.pc <;>
      simp only [Pc.uncharged, shape, Option.some.injEq, reduceCtorEq] at chosen
    all_goals
      subst chosen
      rw [shape] at booked
      exact covered _ booked
  · intro left leftMember right rightMember same chosen
    obtain ⟨id, mine⟩ := Option.ne_none_iff_exists'.mp chosen
    exact awaits_unique ledger.fits leftMember rightMember (Pc.uncharged_awaits mine)
      (Pc.uncharged_awaits (same ▸ mine))

end Window

theorem Limited.init (limit : Group → Int) (start : Int) : Limited limit (.init start) := by
  constructor
  all_goals
    intro row member
    cases member

theorem step_limited {limit : Group → Int} {window : Group → String} {state next : State}
    {action : Action} (one : OneWindow window state) (limited : Limited limit state)
    (carries : action.limited limit) (stepped : step state action = some next) :
    Limited limit next := by
  cases action with
  | start call request =>
      obtain ⟨-, calls, added, rfl⟩ := step_start stepped
      refine ⟨?_, limited.counters⟩
      intro running member
      rcases mem_start added member with old | rfl
      · exact limited.requests running old
      · cases request with
        | serve job => exact carries
        | settle settlement reservationId => trivial
  | advance call now =>
      obtain ⟨-, running, found, rfl, rfl⟩ := step_advance stepped
      have member := (Table.find_some.mp found).1
      have plain := one.calls running member
      have fits := one.fits running member
      have carried := limited.requests running member
      refine ⟨forall_resume found limited.requests
        (fun _ _ _ holds => holds) fun _ _ holds => holds,
        ?_⟩
      intro counter inside
      have change := perform_counter running.id now state.db running.pc counter.key
      have here : (perform running.id now state.db running.pc).db.counters.find counter.key =
          some counter := Table.find_mem inside
      rw [here] at change
      generalize origin : state.db.counters.find counter.key = before at change
      have stored : ∀ old, before = some old → old.used ≤ limit counter.group := by
        intro old same
        obtain ⟨oldMember, key⟩ := Table.find_some.mp (origin.trans same)
        have below := limited.counters old oldMember
        rwa [show old.group = counter.group from (Prod.mk.inj key).1] at below
      cases change with
      | same => exact stored counter rfl
      | refreshed target amount old named own fitsLimit =>
          have below := stored old rfl
          cases shape : running.pc <;>
            simp only [shape, Pc.refreshes, Option.some.injEq, Prod.mk.injEq, reduceCtorEq] at named
          case charge command =>
            obtain ⟨rfl, rfl⟩ := named
            rw [shape] at fits
            simp only [Pc.fits] at fits
            rw [fits] at carried
            have room := fitsLimit command shape
            have same : (old.refresh (reserveTarget command) command.cost).group =
                (reserveTarget command).group := (Prod.mk.inj own).1
            rw [same, Counter.refresh_used]
            have bound : command.limit = limit (reserveTarget command).group := carried
            omega
          case addToTarget job windowKey used rest =>
            rw [shape] at plain
            exact plain.elim
          all_goals
            obtain ⟨-, rfl⟩ := named
            rw [Counter.refresh_used]
            exact (Int.add_zero old.used).symm ▸ below
      | created target amount named own creates =>
          cases shape : running.pc <;> simp only [shape, Pc.creates, Bool.false_eq_true] at creates
          case ensureCounter command =>
            simp only [shape, Pc.refreshes, Option.some.injEq, Prod.mk.injEq] at named
            obtain ⟨rfl, rfl⟩ := named
            rw [shape] at fits
            simp only [Pc.fits] at fits
            rw [fits] at carried
            have bound : command.limit = limit (reserveTarget command).group := carried
            have positive := command.limitPositive
            change (0 : Int) ≤ limit (reserveTarget command).group
            omega
          case addToTarget job windowKey used rest =>
            rw [shape] at plain
            exact plain.elim
      | lowered doc old lowers own =>
          have below := stored old rfl
          rw [lowers] at plain
          have cost := plain.2
          rw [Counter.lower_used]
          exact le_trans (by omega) below

/-- In one window a refund finds its counter and no migration deletes one. -/
theorem OneWindow.guards {window : Group → String} {state next : State} {action : Action}
    (one : OneWindow window state) (stepped : step state action = some next) :
    refundsInPlace state action = true ∧ sparesRefunds state action = true := by
  cases action with
  | start call request => exact ⟨rfl, rfl⟩
  | advance call now =>
      obtain ⟨-, running, found, rfl, -⟩ := step_advance stepped
      have sends : Action.pc state (.advance running.id now) = some running.pc := by
        simp [Action.pc, Indexed.find, found]
      have plain := one.calls running (Table.find_some.mp found).1
      constructor
      · unfold refundsInPlace
        rw [sends]
        split
        · rename_i id claims
          cases stored : state.db.reservations.find id with
          | none => rfl
          | some doc =>
              have present := (one.reservations doc (Table.find_some.mp stored).1).2.2
              simpa using Option.isSome_iff_ne_none.mpr present
        · rfl
      · unfold sparesRefunds
        rw [sends]
        split
        · rename_i job windowKey rest claims
          rw [Option.some.inj claims] at plain
          exact plain.elim
        · rfl

/-- With no call in flight the books are in the counters. -/
theorem Ledger.used_eq_held {window : Group → String} {state : State} (ledger : Ledger state)
    (one : OneWindow window state) (idle : state.calls.table.rows = []) (key : Group × String) :
    usedAt state.db.counters key = windowHeld state.db.reservations key := by
  obtain ⟨group, windowKey⟩ := key
  by_cases here : windowKey = window group
  · have books := ledger.balanced group
    have nothing : state.calls.table.total (fun running => running.pc.weight group) = 0 := by
      simp [Table.total, idle]
    rw [here, ← one.groupUsed_eq group, ← one.groupHeld_eq group]
    omega
  · rw [one.usedAt_elsewhere here, one.windowHeld_elsewhere here]

theorem quotaSound_of_invariants {window : Group → String} {limit : Group → Int} {state : State}
    (ledger : Ledger state) (one : OneWindow window state) (limited : Limited limit state) :
    QuotaSound limit state := by
  constructor
  · intro counter member
    refine ⟨?_, limited.counters counter member⟩
    have books := ledger.balanced counter.group
    have covered := ledger.weight_le_held one counter.group
    have used := one.groupUsed_eq counter.group
    rw [← one.key_eq member rfl, usedAt, Table.find_mem member, Option.elim_some] at used
    omega
  · exact ledger.used_eq_held one

/-- In every run in which no refund moves a claim that its own call has yet to charge, `used`
stays between zero and the limit, and equals the cost of the reservations that are not refunded
whenever no call is in flight. -/
theorem quotaSound_of_refundsCharged (window : Group → String) (limit : Group → Int) (start : Int)
    (actions : List Action) (state : State)
    (reached : run step (.init start) actions = some state)
    (windowed : ∀ action ∈ actions, action.within window)
    (limited : ∀ action ∈ actions, action.limited limit)
    (charged : Meets step (fun state action => refundsCharged state action = true) (.init start)
      actions) : QuotaSound limit state := by
  have kept : ∀ (state : State) (action : Action) (next : State),
      (Ledger state ∧ OneWindow window state ∧ Limited limit state) →
      (action.within window ∧ action.limited limit) ∧ refundsCharged state action = true →
      step state action = some next →
      Ledger next ∧ OneWindow window next ∧ Limited limit next := by
    rintro state action next ⟨ledger, one, bounded⟩ ⟨⟨within, carries⟩, charged⟩ stepped
    obtain ⟨inPlace, spared⟩ := one.guards stepped
    exact ⟨step_ledger ledger charged inPlace spared stepped, step_oneWindow one within stepped,
      step_limited one bounded carries stepped⟩
  have setting : Meets step (fun _ action => action.within window ∧ action.limited limit)
      (.init start) actions :=
    meets_of_forall _ fun action member => ⟨windowed action member, limited action member⟩
  obtain ⟨ledger, one, bounded⟩ := run_invariant _ kept
    ⟨Ledger.init start, OneWindow.init window start, Limited.init limit start⟩
    (setting.and charged) reached
  exact quotaSound_of_invariants ledger one bounded

/-- Calls settle only reservations that some `reserve` has returned. -/
def settlesReturned (state : State) (action : Action) : Bool :=
  match action with
  | .start _ (.settle _ id) => state.log.any fun event =>
      match event with
      | .returned _ _ (.ok (.reservation reservation)) => reservation.id = id
      | _ => false
  | _ => true

theorem subject_sample : "s" ≠ "" := by decide

theorem resource_sample : "r" ≠ "" := by decide

theorem window_sample : "w" ≠ "" := by decide

theorem limit_sample : (0 : Int) < 10 := by decide

theorem cost_sample : (0 : Int) < 2 := by decide

/-- A `reserve` of cost 2 under one idempotency key. -/
def keyedReserve (id : String) : Request :=
  .serve (.reserve
    { subjectId := "s"
      resource := "r"
      windowKey := "w"
      limit := 10
      cost := 2
      resetAt := 100
      reservationId := id
      idempotencyKey := some "k"
      subjectNonempty := subject_sample
      resourceNonempty := resource_sample
      windowNonempty := window_sample
      limitPositive := limit_sample
      costPositive := cost_sample })

/-- The first call has charged its claim when the second returns it and a refund follows. -/
def refundAfterCharge : List Action :=
  [.start 1 (keyedReserve "a"), .advance 1 0, .advance 1 0, .advance 1 0, .advance 1 0,
    .advance 1 0, .start 2 (keyedReserve "b"), .advance 2 1, .advance 2 1, .advance 2 1,
    .advance 2 1, .start 3 (.settle .refund "a"), .advance 3 2, .advance 3 2]

theorem refundAfterCharge_accepted : (run step (.init 0) refundAfterCharge).isSome = true := by
  decide +kernel

theorem quotaSound_after_refund :
    ∃ state, run step (.init 0) refundAfterCharge = some state ∧
      QuotaSound (fun _ => 10) state := by
  have reached := (Option.some_get refundAfterCharge_accepted).symm
  exact ⟨_, reached, quotaSound_of_refundsCharged (fun _ => "w") (fun _ => 10) 0 refundAfterCharge _
    reached (by decide) (by decide) (by decide +kernel)⟩

/-- The first call has not charged its claim when the second returns it and a refund follows. -/
def refundBeforeCharge : List Action :=
  [.start 1 (keyedReserve "a"), .advance 1 0, .advance 1 0, .advance 1 0, .advance 1 0,
    .start 2 (keyedReserve "b"), .advance 2 1, .advance 2 1, .advance 2 1, .advance 2 1,
    .start 3 (.settle .refund "a"), .advance 3 2, .advance 3 2]

theorem refundBeforeCharge_accepted : (run step (.init 0) refundBeforeCharge).isSome = true := by
  decide +kernel

theorem refund_before_charge_overdraws :
    ((∀ action ∈ refundBeforeCharge, action.within fun _ => "w") ∧
      (∀ action ∈ refundBeforeCharge, action.limited fun _ => 10) ∧
      Meets step (fun state action => settlesReturned state action = true) (.init 0)
        refundBeforeCharge) ∧
    ¬ ∀ state, run step (.init 0) refundBeforeCharge = some state →
      QuotaSound (fun _ => 10) state := by
  refine ⟨⟨by decide, by decide, by decide +kernel⟩, ?_⟩
  intro sound
  have held := sound _ (Option.some_get refundBeforeCharge_accepted).symm
  have bounds := held.1 ⟨"s", "r", "w", -2, 10, 100⟩ (by decide +kernel)
  exact absurd bounds.1 (by decide)

end AiPlatform.Quota.Mongo

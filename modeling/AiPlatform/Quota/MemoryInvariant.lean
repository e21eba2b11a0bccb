import AiPlatform.Quota.Memory

set_option autoImplicit false

/- The three dictionaries of `MemoryQuotaStore` agree in every reachable state. -/
namespace AiPlatform.Quota.Memory

def usedAt (counters : Table Counter.key) (key : WindowKey) : Int :=
  (counters.find key).elim 0 Counter.used

/-- What a reservation that is not refunded costs a window. -/
def weight (key : WindowKey) (reservation : QuotaReservation) : Int :=
  if reservation.key = key ∧ reservation.status ≠ .refunded then reservation.cost else 0

def held (reservations : Table QuotaReservation.id) (key : WindowKey) : Int :=
  reservations.total (weight key)

structure Represents (store : Store) : Prop where
  opened : store.closed = false
  costs : ∀ reservation ∈ store.reservations.rows, 0 < reservation.cost
  counted : ∀ reservation ∈ store.reservations.rows, store.counters.find reservation.key ≠ none
  conserved : ∀ key, usedAt store.counters key = held store.reservations key
  pointed : ∀ entry ∈ store.idempotency.rows, ∃ reservation,
    store.reservations.find entry.reservationId = some reservation ∧ reservation.key = entry.key ∧
      reservation.idempotencyKey = some entry.idempotencyKey
  listed : ∀ reservation ∈ store.reservations.rows, ∀ idempotencyKey,
    reservation.idempotencyKey = some idempotencyKey →
      store.idempotency.find (reservation.key, idempotencyKey) =
        some ⟨reservation.key, idempotencyKey, reservation.id⟩

theorem Represents.init : Represents .init := by
  constructor <;> simp [Store.init, usedAt, held]

section Dictionaries

variable {counters : Table Counter.key} {reservations : Table QuotaReservation.id}

theorem usedAt_put (counters : Table Counter.key) (counter : Counter) (key : WindowKey) :
    usedAt (counters.put counter) key =
      if key = counter.key then counter.used else usedAt counters key := by
  unfold usedAt
  rw [Table.find_put]
  split <;> rfl

theorem held_put_fresh {reservation : QuotaReservation}
    (fresh : reservations.find reservation.id = none) (key : WindowKey) :
    held (reservations.put reservation) key = held reservations key + weight key reservation :=
  Table.total_put_fresh fresh _

theorem held_put_over {old reservation : QuotaReservation}
    (found : reservations.find reservation.id = some old) (key : WindowKey) :
    held (reservations.put reservation) key =
      held reservations key - weight key old + weight key reservation :=
  Table.total_put_over found _

theorem weight_nonneg {reservation : QuotaReservation} (cost : 0 < reservation.cost)
    (key : WindowKey) : 0 ≤ weight key reservation := by
  unfold weight
  split <;> omega

/-- The counter of the command's window, a new one of zero if there is none. -/
def currentCounter (counters : Table Counter.key) (command : ReserveQuota) : Counter :=
  (counters.find command.key).getD command.freshCounter

theorem currentCounter_key (counters : Table Counter.key) (command : ReserveQuota) :
    (currentCounter counters command).key = command.key := by
  unfold currentCounter
  cases found : counters.find command.key with
  | none => rfl
  | some counter => exact (Table.find_some.mp found).2

theorem currentCounter_used (counters : Table Counter.key) (command : ReserveQuota) :
    (currentCounter counters command).used = usedAt counters command.key := by
  unfold currentCounter usedAt
  cases counters.find command.key <;> rfl

/-- `_counter_for` puts the current counter in place. -/
theorem counterFor_spec (counters : Table Counter.key) (command : ReserveQuota) :
    (counterFor counters command).2 = currentCounter counters command ∧
      ∀ key, (counterFor counters command).1.find key =
        if key = command.key then some (currentCounter counters command)
        else counters.find key := by
  unfold counterFor currentCounter
  cases found : counters.find command.key with
  | none =>
      refine ⟨rfl, fun key => ?_⟩
      rw [Table.find_put]
      rfl
  | some counter =>
      refine ⟨rfl, fun key => ?_⟩
      dsimp only
      split
      · rename_i same
        rw [same, found]
        rfl
      · rfl

theorem usedAt_of_find {other : Table Counter.key} {place : WindowKey} {counter : Counter}
    (written : ∀ key, other.find key = if key = place then some counter else counters.find key)
    (key : WindowKey) :
    usedAt other key = if key = place then counter.used else usedAt counters key := by
  unfold usedAt
  rw [written]
  split <;> rfl

theorem present_of_find {other : Table Counter.key} {place : WindowKey} {counter : Counter}
    (written : ∀ key, other.find key = if key = place then some counter else counters.find key)
    (key : WindowKey) (present : counters.find key ≠ none) : other.find key ≠ none := by
  rw [written]
  split
  · simp
  · exact present

theorem usedAt_erase (counters : Table Counter.key) (cleared : WindowKey → Bool)
    (key : WindowKey) :
    usedAt (counters.erase fun counter => cleared counter.key) key =
      if cleared key then 0 else usedAt counters key := by
  unfold usedAt
  rw [Table.find_erase]
  cases found : counters.find key with
  | none => simp
  | some counter =>
      obtain ⟨-, rfl⟩ := Table.find_some.mp found
      cases gone : cleared counter.key <;> simp [Option.filter, gone]

/-- A counter put in place as it was, or new with nothing used, leaves every use alone. -/
theorem usedAt_current {other : Table Counter.key} {command : ReserveQuota}
    (written : ∀ key, other.find key =
      if key = command.key then some (currentCounter counters command) else counters.find key)
    (key : WindowKey) : usedAt other key = usedAt counters key := by
  rw [usedAt_of_find written]
  split
  · rename_i same
    rw [same, currentCounter_used]
  · rfl

end Dictionaries

/-- All that `finalize` and `refund` can do. -/
inductive Settles (store : Store) (settlement : Settlement) (reservationId : String) :
    Store × Except QuotaError Answer → Prop where
  | unknown (missing : store.reservations.find reservationId = none) :
      Settles store settlement reservationId (store, .error (.keyError reservationId))
  | refused {reservation : QuotaReservation}
      (found : store.reservations.find reservationId = some reservation)
      (other : reservation.status = settlement.refusal.1) :
      Settles store settlement reservationId (store, .error settlement.refusal.2)
  | repeated {reservation : QuotaReservation}
      (found : store.reservations.find reservationId = some reservation)
      (already : reservation.status = settlement.status) :
      Settles store settlement reservationId (store, .ok (.usage reservation.usage))
  | settled {reservation : QuotaReservation} {counter : Counter} {counters : Table Counter.key}
      (found : store.reservations.find reservationId = some reservation)
      (reserved : reservation.status = .reserved)
      (counted : store.counters.find reservation.key = some counter)
      (written : ∀ key, counters.find key =
        if key = reservation.key then some (settlement.counter reservation counter)
        else store.counters.find key) :
      Settles store settlement reservationId
        ({ store with
            counters := counters
            reservations := store.reservations.put { reservation with
              status := settlement.status
              usage := usageFromCounter (settlement.counter reservation counter) } },
          .ok (.usage (usageFromCounter (settlement.counter reservation counter))))

/-- All that `reserve` can do. -/
inductive Reserves (store : Store) (command : ReserveQuota) :
    Store × Except QuotaError Answer → Prop where
  | replayed {idempotencyKey : String} {entry : Entry} {reservation : QuotaReservation}
      (keyed : command.idempotencyKey = some idempotencyKey)
      (listed : store.idempotency.find (command.key, idempotencyKey) = some entry)
      (found : store.reservations.find entry.reservationId = some reservation) :
      Reserves store command (store, .ok (.reservation reservation))
  | rejected {counters : Table Counter.key}
      (unused : ∀ idempotencyKey, command.idempotencyKey = some idempotencyKey →
        store.idempotency.find (command.key, idempotencyKey) = none)
      (full : command.limit < usedAt store.counters command.key + command.cost)
      (written : ∀ key, counters.find key =
        if key = command.key then some (currentCounter store.counters command)
        else store.counters.find key) :
      Reserves store command ({ store with counters := counters }, .ok .rejected)
  | charged {counters : Table Counter.key} {charged : Counter}
      (unused : ∀ idempotencyKey, command.idempotencyKey = some idempotencyKey →
        store.idempotency.find (command.key, idempotencyKey) = none)
      (room : usedAt store.counters command.key + command.cost ≤ command.limit)
      (counter : charged = chargedCounter command (currentCounter store.counters command))
      (written : ∀ key, counters.find key =
        if key = command.key then some charged else store.counters.find key) :
      Reserves store command
        ({ store with
            counters := counters
            reservations := store.reservations.put (command.reservation (usageFromCounter charged))
            idempotency := match command.idempotencyKey with
              | some key => store.idempotency.put ⟨command.key, key, command.reservationId⟩
              | none => store.idempotency },
          .ok (.reservation (command.reservation (usageFromCounter charged))))

section Operations

variable {store : Store}

/-- A reservation that is not refunded is part of what its window uses. -/
theorem Represents.cost_le_used (represents : Represents store) {reservation : QuotaReservation}
    (member : reservation ∈ store.reservations.rows) (live : reservation.status ≠ .refunded) :
    reservation.cost ≤ usedAt store.counters reservation.key := by
  rw [represents.conserved]
  have part := Table.weight_le_total member
    (fun row inside => weight_nonneg (represents.costs row inside) reservation.key)
  have own : weight reservation.key reservation = reservation.cost := by
    simp [weight, live]
  unfold held
  omega

theorem Represents.getUsage (represents : Represents store) (query : QuotaUsageQuery) :
    Represents (getUsage store query).1 := by
  unfold Memory.getUsage
  split
  · exact represents
  · rename_i counter found
    have here := (Table.find_some.mp found).2
    refine ⟨represents.opened, represents.costs, ?_, ?_, represents.pointed, represents.listed⟩
    · intro reservation member
      dsimp only
      rw [Table.find_put]
      split
      · simp
      · exact represents.counted reservation member
    · intro key
      dsimp only
      rw [usedAt_put, ← represents.conserved]
      split
      · rename_i same
        have own : key = query.key := same.trans here
        rw [own, usedAt, found]
        rfl
      · rfl

theorem find_erase_kept {Row Key : Type} {label : Row → Key} [DecidableEq Key] {table : Table label}
    {test : Row → Bool} {row : Row} {index : Key} (found : table.find index = some row)
    (kept : test row = false) : (table.erase test).find index = some row := by
  rw [Table.find_erase, found]
  simp [Option.filter, kept]

/-- A reset clears whole windows, in the three dictionaries alike. -/
theorem Represents.clear (represents : Represents store) (cleared : WindowKey → Bool) :
    Represents (clear store cleared) := by
  refine ⟨represents.opened, ?_, ?_, ?_, ?_, ?_⟩
  · intro reservation member
    exact represents.costs reservation (Table.mem_erase.mp member).1
  · intro reservation member
    obtain ⟨stored, kept⟩ := Table.mem_erase.mp member
    obtain ⟨counter, found⟩ := Option.ne_none_iff_exists'.mp (represents.counted reservation stored)
    have here := (Table.find_some.mp found).2
    simp only [Memory.clear]
    rw [find_erase_kept found (by rw [here]; exact kept)]
    simp
  · intro key
    have total : held (store.reservations.erase fun reservation => cleared reservation.key) key =
        if cleared key then 0 else held store.reservations key := by
      unfold held
      rw [Table.total_erase]
      cases gone : cleared key with
      | true =>
          have nothing : ∀ row ∈ store.reservations.rows,
              (if cleared row.key = true then 0 else weight key row) = 0 := by
            intro row _
            split
            · rfl
            · rename_i stays
              apply if_neg
              rintro ⟨same, -⟩
              exact stays (same ▸ gone)
          rw [Table.total_congr nothing]
          simp [Table.total]
      | false =>
          rw [if_neg (by simp)]
          apply Table.total_congr
          intro row _
          split
          · rename_i away
            symm
            apply if_neg
            rintro ⟨same, -⟩
            rw [same, gone] at away
            cases away
          · rfl
    simp only [Memory.clear]
    rw [total, ← represents.conserved, usedAt_erase]
  · intro entry member
    obtain ⟨stored, kept⟩ := Table.mem_erase.mp member
    obtain ⟨reservation, found, same, keyed⟩ := represents.pointed entry stored
    exact ⟨reservation, find_erase_kept found (by rw [same]; exact kept), same, keyed⟩
  · intro reservation member idempotencyKey keyed
    obtain ⟨stored, kept⟩ := Table.mem_erase.mp member
    exact find_erase_kept (represents.listed reservation stored idempotencyKey keyed) kept

/-- The rewrite of one reservation, when the counters move by the change of its weight. -/
theorem Represents.rewrite (represents : Represents store) (old changed : QuotaReservation)
    (found : store.reservations.find changed.id = some old) (sameKey : changed.key = old.key)
    (sameCost : changed.cost = old.cost) (sameIndex : changed.idempotencyKey = old.idempotencyKey)
    {counters : Table Counter.key}
    (present : ∀ key, store.counters.find key ≠ none → counters.find key ≠ none)
    (balanced : ∀ key, usedAt counters key =
      usedAt store.counters key - weight key old + weight key changed) :
    Represents { store with
      counters := counters
      reservations := store.reservations.put changed } := by
  obtain ⟨stored, sameId⟩ := Table.find_some.mp found
  refine ⟨represents.opened, ?_, ?_, ?_, ?_, ?_⟩
  · intro reservation member
    rcases Table.mem_put member with rfl | ⟨inside, -⟩
    · rw [sameCost]
      exact represents.costs old stored
    · exact represents.costs reservation inside
  · intro reservation member
    apply present
    rcases Table.mem_put member with rfl | ⟨inside, -⟩
    · rw [sameKey]
      exact represents.counted old stored
    · exact represents.counted reservation inside
  · intro key
    dsimp only
    rw [held_put_over found, ← represents.conserved, balanced]
  · intro entry member
    obtain ⟨reservation, target, same, keyed⟩ := represents.pointed entry member
    dsimp only
    rw [Table.find_put]
    split
    · rename_i here
      rw [here, found] at target
      obtain rfl := Option.some.inj target
      exact ⟨changed, rfl, sameKey.trans same, sameIndex.trans keyed⟩
    · exact ⟨reservation, target, same, keyed⟩
  · intro reservation member idempotencyKey keyed
    rcases Table.mem_put member with rfl | ⟨inside, -⟩
    · rw [sameKey, ← sameId]
      exact represents.listed old stored idempotencyKey (sameIndex ▸ keyed)
    · exact represents.listed reservation inside idempotencyKey keyed

/-- The clamp of `refund` never takes effect. -/
theorem Represents.refund_exact (represents : Represents store) {reservation : QuotaReservation}
    {counter : Counter} (member : reservation ∈ store.reservations.rows)
    (reserved : reservation.status = .reserved)
    (found : store.counters.find reservation.key = some counter) :
    max (counter.used - reservation.cost) 0 = counter.used - reservation.cost := by
  have below := represents.cost_le_used member (by rw [reserved]; decide)
  rw [usedAt, found] at below
  have enough : reservation.cost ≤ counter.used := below
  omega

theorem Represents.settles_finalize (represents : Represents store) (reservationId : String) :
    Settles store .finalize reservationId (finalize store reservationId) := by
  unfold Memory.finalize
  split
  · rename_i missing
    exact .unknown missing
  · rename_i reservation found
    split
    · rename_i refunded
      exact .refused found refunded
    · rename_i finalized
      exact .repeated found finalized
    · rename_i reserved
      split
      · rename_i missing
        exact absurd missing (represents.counted reservation (Table.find_some.mp found).1)
      · rename_i counter counted
        apply Settles.settled found reserved counted
        intro key
        split
        · rename_i same
          rw [same, counted]
          rfl
        · rfl

theorem Represents.settles_refund (represents : Represents store) (reservationId : String) :
    Settles store .refund reservationId (refund store reservationId) := by
  unfold Memory.refund
  split
  · rename_i missing
    exact .unknown missing
  · rename_i reservation found
    split
    · rename_i finalized
      exact .refused found finalized
    · rename_i refunded
      exact .repeated found refunded
    · rename_i reserved
      split
      · rename_i missing
        exact absurd missing (represents.counted reservation (Table.find_some.mp found).1)
      · rename_i counter counted
        apply Settles.settled found reserved counted
        intro key
        rw [Table.find_put, ← (Table.find_some.mp counted).2]
        rfl

/-- A settlement moves its counter by what the reservation no longer weighs. -/
theorem Represents.settlement_balanced (represents : Represents store) (settlement : Settlement)
    {reservation : QuotaReservation} {counter : Counter}
    (member : reservation ∈ store.reservations.rows) (reserved : reservation.status = .reserved)
    (counted : store.counters.find reservation.key = some counter) (key : WindowKey)
    (usage : QuotaUsage) :
    (if key = reservation.key then (settlement.counter reservation counter).used
      else usedAt store.counters key) =
      usedAt store.counters key - weight key reservation +
        weight key { reservation with status := settlement.status, usage := usage } := by
  by_cases same : key = reservation.key
  · have own : usedAt store.counters key = counter.used := by
      rw [same, usedAt, counted]
      rfl
    have full : weight key reservation = reservation.cost := by
      simp [weight, same, reserved]
    have exact_refund := represents.refund_exact member reserved counted
    rw [if_pos same, own, full]
    cases settlement with
    | finalize =>
        have left : weight key { reservation with status := .finalized, usage := usage } =
            reservation.cost := by
          simp [weight, QuotaReservation.key, same]
        simp only [Settlement.status, Settlement.counter, left]
        omega
    | refund =>
        have left : weight key { reservation with status := .refunded, usage := usage } = 0 := by
          simp [weight]
        simp only [Settlement.status, Settlement.counter, left]
        omega
  · have before : weight key reservation = 0 := if_neg fun both => same both.1.symm
    have after : weight key { reservation with status := settlement.status, usage := usage } = 0 :=
      if_neg fun both => same both.1.symm
    rw [if_neg same, before, after]
    omega

theorem Represents.settle (represents : Represents store) {settlement : Settlement}
    {reservationId : String} {result : Store × Except QuotaError Answer}
    (settles : Settles store settlement reservationId result) : Represents result.1 := by
  cases settles with
  | unknown _ => exact represents
  | refused _ _ => exact represents
  | repeated _ _ => exact represents
  | settled found reserved counted written =>
      rename_i reservation counter counters
      obtain ⟨member, here⟩ := Table.find_some.mp found
      apply represents.rewrite reservation
        { reservation with
          status := settlement.status
          usage := usageFromCounter (settlement.counter reservation counter) }
        (by rw [here]; exact found) rfl rfl rfl
      · intro key present
        rw [written]
        split
        · simp
        · exact present
      · intro key
        rw [← represents.settlement_balanced settlement member reserved counted key, usedAt,
          written]
        split <;> rfl

/-- A first reservation under its id and idempotency key. -/
theorem Represents.charge (represents : Represents store) {command : ReserveQuota}
    (fresh : store.reservations.find command.reservationId = none)
    (unused : ∀ idempotencyKey, command.idempotencyKey = some idempotencyKey →
      store.idempotency.find (command.key, idempotencyKey) = none)
    {counters : Table Counter.key} {charged : Counter} {usage : QuotaUsage}
    (written : ∀ key, counters.find key =
      if key = command.key then some charged else store.counters.find key)
    (balance : charged.used = usedAt store.counters command.key + command.cost) :
    Represents { store with
      counters := counters
      reservations := store.reservations.put (command.reservation usage)
      idempotency := match command.idempotencyKey with
        | some key => store.idempotency.put ⟨command.key, key, command.reservationId⟩
        | none => store.idempotency } := by
  have apart : ∀ reservation ∈ store.reservations.rows, reservation.id ≠ command.reservationId :=
    Table.find_none.mp fresh
  have keptEntry : ∀ index entry, store.idempotency.find index = some entry →
      (match command.idempotencyKey with
        | some key => store.idempotency.put ⟨command.key, key, command.reservationId⟩
        | none => store.idempotency).find index = some entry := by
    intro index entry found
    split
    · rename_i idempotencyKey keyed
      rw [Table.find_put, if_neg, found]
      rintro rfl
      have missing := unused idempotencyKey keyed
      rw [show (command.key, idempotencyKey) =
        Entry.index ⟨command.key, idempotencyKey, command.reservationId⟩ from rfl, found] at missing
      cases missing
    · exact found
  refine ⟨represents.opened, ?_, ?_, ?_, ?_, ?_⟩
  · intro reservation member
    rcases Table.mem_put member with rfl | ⟨inside, -⟩
    · exact command.costPositive
    · exact represents.costs reservation inside
  · intro reservation member
    dsimp only
    rcases Table.mem_put member with rfl | ⟨inside, -⟩
    · rw [written]
      exact ne_of_eq_of_ne (if_pos rfl) (Option.some_ne_none _)
    · exact present_of_find written _ (represents.counted reservation inside)
  · intro key
    dsimp only
    rw [held_put_fresh fresh, ← represents.conserved, usedAt_of_find written]
    have own : weight key (command.reservation usage) =
        if command.key = key then command.cost else 0 := by
      apply if_congr _ rfl rfl
      exact ⟨fun both => both.1, fun same => ⟨same, nofun⟩⟩
    rw [own]
    by_cases same : key = command.key
    · rw [if_pos same, if_pos same.symm, balance, same]
    · rw [if_neg same, if_neg fun equal => same equal.symm]
      omega
  · intro entry member
    have stays : entry ∈ store.idempotency.rows → ∃ reservation,
        (store.reservations.put (command.reservation usage)).find entry.reservationId =
            some reservation ∧ reservation.key = entry.key ∧
          reservation.idempotencyKey = some entry.idempotencyKey := by
      intro inside
      obtain ⟨reservation, found, same, keyed⟩ := represents.pointed entry inside
      refine ⟨reservation, ?_, same, keyed⟩
      rw [Table.find_put, if_neg, found]
      intro here
      obtain ⟨stored, named⟩ := Table.find_some.mp found
      exact apart reservation stored (named.trans here)
    dsimp only at member
    split at member
    · rename_i idempotencyKey keyed
      rcases Table.mem_put member with rfl | ⟨inside, -⟩
      · exact ⟨command.reservation usage, by rw [Table.find_put]; exact if_pos rfl, rfl, keyed⟩
      · exact stays inside
    · exact stays member
  · intro reservation member idempotencyKey keyed
    rcases Table.mem_put member with rfl | ⟨inside, -⟩
    · have used : command.idempotencyKey = some idempotencyKey := keyed
      dsimp only
      rw [used]
      dsimp only
      rw [Table.find_put]
      exact if_pos rfl
    · exact keptEntry _ _ (represents.listed reservation inside idempotencyKey keyed)

theorem Represents.reserves (represents : Represents store) (command : ReserveQuota) :
    Reserves store command (reserve store command) := by
  unfold Memory.reserve
  split
  · rename_i entry found
    obtain ⟨idempotencyKey, keyed, listed⟩ := Option.bind_eq_some_iff.mp found
    obtain ⟨reservation, target, -, -⟩ :=
      represents.pointed entry (Table.find_some.mp listed).1
    split
    · rename_i stored
      exact .replayed keyed listed stored
    · rename_i missing
      rw [missing] at target
      cases target
  · rename_i missing
    have unused : ∀ idempotencyKey, command.idempotencyKey = some idempotencyKey →
        store.idempotency.find (command.key, idempotencyKey) = none := by
      intro idempotencyKey keyed
      rw [keyed] at missing
      exact missing
    obtain ⟨current, written⟩ := counterFor_spec store.counters command
    have used := currentCounter_used store.counters command
    dsimp only
    rw [current, used]
    split
    · rename_i full
      exact .rejected unused full written
    · rename_i room
      apply Reserves.charged unused (by omega) rfl
      intro key
      have place : (chargedCounter command (currentCounter store.counters command)).key =
          command.key := currentCounter_key store.counters command
      rw [Table.find_put, place, written]
      split <;> rfl

theorem Represents.reserve (represents : Represents store) {command : ReserveQuota}
    (fresh : store.reservations.find command.reservationId = none)
    {result : Store × Except QuotaError Answer} (reserves : Reserves store command result) :
    Represents result.1 := by
  cases reserves with
  | replayed _ _ _ => exact represents
  | rejected unused full written =>
      refine ⟨represents.opened, represents.costs, ?_, ?_, represents.pointed, represents.listed⟩
      · intro reservation member
        exact present_of_find written _ (represents.counted reservation member)
      · intro key
        rw [usedAt_current written, represents.conserved]
  | charged unused room counter written =>
      apply represents.charge fresh unused written
      rw [counter, ← currentCounter_used]
      rfl

theorem Represents.performOpen (represents : Represents store) {operation : Operation}
    (fresh : ∀ id, operation.drawnId = some id → store.reservations.find id = none) :
    Represents (performOpen store operation).1 := by
  cases operation with
  | reserve command => exact represents.reserve (fresh _ rfl) (represents.reserves command)
  | finalize reservationId => exact represents.settle (represents.settles_finalize reservationId)
  | refund reservationId => exact represents.settle (represents.settles_refund reservationId)
  | getUsage query => exact represents.getUsage query
  | resetUsage query => exact represents.clear _
  | resetResource resource => exact represents.clear _

theorem Represents.perform_eq (represents : Represents store) (operation : Operation) :
    perform store operation = Memory.performOpen store operation := by
  rw [perform, represents.opened]
  rfl

end Operations

end AiPlatform.Quota.Memory

import AiPlatform.Lib.Machine
import AiPlatform.Quota.MemoryInvariant

set_option autoImplicit false

/- Runs of `MemoryQuotaStore`: calls one after the other, each reservation under a fresh id. -/
namespace AiPlatform.Quota.Memory

open Machine

/-- The store and the ids drawn for it so far. -/
structure Session where
  store : Store
  drawn : List String

def Session.init : Session := ⟨.init, []⟩

def step (session : Session) (operation : Operation) : Option Session :=
  if ∀ id ∈ operation.drawnId, id ∉ session.drawn then
    some
      { store := (perform session.store operation).1
        drawn := operation.drawnId.toList ++ session.drawn }
  else none

section Invariant

variable {store : Store}

/-- The ids of the stored reservations were drawn. -/
structure Sound (session : Session) : Prop where
  represents : Represents session.store
  drawn : ∀ reservation ∈ session.store.reservations.rows, reservation.id ∈ session.drawn

theorem Reserves.ids {command : ReserveQuota} {result : Store × Except QuotaError Answer}
    (reserves : Reserves store command result) {reservation : QuotaReservation}
    (member : reservation ∈ result.1.reservations.rows) :
    reservation.id = command.reservationId ∨
      ∃ old ∈ store.reservations.rows, old.id = reservation.id := by
  cases reserves with
  | replayed _ _ _ => exact .inr ⟨reservation, member, rfl⟩
  | rejected _ _ _ => exact .inr ⟨reservation, member, rfl⟩
  | charged _ _ _ _ =>
      rcases Table.mem_put member with rfl | ⟨inside, -⟩
      · exact .inl rfl
      · exact .inr ⟨reservation, inside, rfl⟩

theorem Settles.ids {settlement : Settlement} {reservationId : String}
    {result : Store × Except QuotaError Answer}
    (settles : Settles store settlement reservationId result) {reservation : QuotaReservation}
    (member : reservation ∈ result.1.reservations.rows) :
    ∃ old ∈ store.reservations.rows, old.id = reservation.id := by
  cases settles with
  | unknown _ => exact ⟨reservation, member, rfl⟩
  | refused _ _ => exact ⟨reservation, member, rfl⟩
  | repeated _ _ => exact ⟨reservation, member, rfl⟩
  | settled found reserved counted written =>
      rename_i old _ _
      rcases Table.mem_put member with rfl | ⟨inside, -⟩
      · exact ⟨old, (Table.find_some.mp found).1, rfl⟩
      · exact ⟨reservation, inside, rfl⟩

theorem getUsage_reservations (store : Store) (query : QuotaUsageQuery) :
    (getUsage store query).1.reservations = store.reservations := by
  unfold getUsage
  split <;> rfl

/-- A call stores no reservation under an id that was not there or drawn for it. -/
theorem performOpen_ids (represents : Represents store) (operation : Operation)
    {reservation : QuotaReservation}
    (member : reservation ∈ (performOpen store operation).1.reservations.rows) :
    operation.drawnId = some reservation.id ∨
      ∃ old ∈ store.reservations.rows, old.id = reservation.id := by
  cases operation with
  | reserve command =>
      rcases (represents.reserves command).ids member with named | kept
      · exact .inl (congrArg some named.symm)
      · exact .inr kept
  | finalize reservationId => exact .inr ((represents.settles_finalize reservationId).ids member)
  | refund reservationId => exact .inr ((represents.settles_refund reservationId).ids member)
  | getUsage query =>
      rw [performOpen, getUsage_reservations] at member
      exact .inr ⟨reservation, member, rfl⟩
  | resetUsage query => exact .inr ⟨reservation, (Table.mem_erase.mp member).1, rfl⟩
  | resetResource resource => exact .inr ⟨reservation, (Table.mem_erase.mp member).1, rfl⟩

theorem step_some {session next : Session} {operation : Operation}
    (stepped : step session operation = some next) :
    (∀ id, operation.drawnId = some id → id ∉ session.drawn) ∧
      next.store = (perform session.store operation).1 ∧
      next.drawn = operation.drawnId.toList ++ session.drawn := by
  unfold step at stepped
  split at stepped
  · rename_i fresh
    obtain rfl := Option.some.inj stepped
    exact ⟨fun id drew => fresh id (Option.mem_def.mpr drew), rfl, rfl⟩
  · cases stepped

theorem Sound.fresh {session : Session} (sound : Sound session) {id : String}
    (undrawn : id ∉ session.drawn) : session.store.reservations.find id = none := by
  apply Table.find_none.mpr
  intro reservation member same
  exact undrawn (same ▸ sound.drawn reservation member)

theorem Sound.step {session next : Session} {operation : Operation} (sound : Sound session)
    (stepped : step session operation = some next) : Sound next := by
  obtain ⟨fresh, stored, drew⟩ := step_some stepped
  rw [sound.represents.perform_eq] at stored
  constructor
  · rw [stored]
    apply sound.represents.performOpen
    intro id drawn
    exact sound.fresh (fresh id drawn)
  · rw [stored, drew]
    intro reservation member
    rcases performOpen_ids sound.represents operation member with named | ⟨old, inside, same⟩
    · simp [named]
    · exact List.mem_append_right _ (same ▸ sound.drawn old inside)

theorem Sound.run {session : Session} {operations : List Operation}
    (reached : run Memory.step .init operations = some session) : Sound session :=
  run_invariant_always Sound (fun _ _ _ sound stepped => sound.step stepped)
    ⟨.init, fun _ member => absurd member List.not_mem_nil⟩ reached

end Invariant

section Limit

variable {store : Store} {key : WindowKey} {limit : Int}

def Within (key : WindowKey) (limit : Int) (store : Store) : Prop :=
  ∀ counter, store.counters.find key = some counter → counter.used ≤ limit

theorem Within.reserve (within : Within key limit store) {command : ReserveQuota}
    (agreed : command.key = key → command.limit = limit)
    {result : Store × Except QuotaError Answer} (reserves : Reserves store command result) :
    Within key limit result.1 := by
  intro counter found
  cases reserves with
  | replayed _ _ _ => exact within counter found
  | rejected unused full written =>
      rw [written] at found
      split at found
      · rename_i same
        obtain rfl := Option.some.inj found
        have positive := command.limitPositive
        have own := agreed same.symm
        unfold currentCounter
        cases current : store.counters.find command.key with
        | none =>
            change (0 : Int) ≤ limit
            omega
        | some old => exact within old (same ▸ current)
      · exact within counter found
  | charged unused room shape written =>
      rw [written] at found
      split at found
      · rename_i same
        obtain rfl := Option.some.inj found
        have own := agreed same.symm
        rw [shape]
        change (currentCounter store.counters command).used + command.cost ≤ limit
        rw [currentCounter_used]
        omega
      · exact within counter found

theorem Within.settle (within : Within key limit store) (represents : Represents store)
    {settlement : Settlement} {reservationId : String} {result : Store × Except QuotaError Answer}
    (settles : Settles store settlement reservationId result) : Within key limit result.1 := by
  intro counter found
  cases settles with
  | unknown _ => exact within counter found
  | refused _ _ => exact within counter found
  | repeated _ _ => exact within counter found
  | settled stored reserved counted written =>
      rename_i reservation old counters
      have member := (Table.find_some.mp stored).1
      rw [written] at found
      split at found
      · rename_i same
        obtain rfl := Option.some.inj found
        have before := within old (same ▸ counted)
        have cost := represents.costs reservation member
        have clamp := represents.refund_exact member reserved counted
        cases settlement with
        | finalize => exact before
        | refund =>
            change max (old.used - reservation.cost) 0 ≤ limit
            omega
      · exact within counter found

theorem Within.clear (within : Within key limit store) (cleared : WindowKey → Bool) :
    Within key limit (clear store cleared) := by
  intro counter found
  have kept : (store.counters.erase fun counter => cleared counter.key).find key = some counter :=
    found
  rw [Table.find_erase, Option.filter_eq_some_iff] at kept
  exact within counter kept.1

theorem Within.getUsage (within : Within key limit store) (query : QuotaUsageQuery) :
    Within key limit (getUsage store query).1 := by
  intro counter found
  unfold Memory.getUsage at found
  split at found
  · exact within counter found
  · rename_i old current
    have place := (Table.find_some.mp current).2
    rw [Table.find_put] at found
    split at found
    · rename_i same
      obtain rfl := Option.some.inj found
      have here : key = query.key := same.trans place
      exact within old (here ▸ current)
    · exact within counter found

theorem Within.performOpen (within : Within key limit store) (represents : Represents store)
    {operation : Operation}
    (agreed : ∀ command, operation = .reserve command → command.key = key → command.limit = limit) :
    Within key limit (performOpen store operation).1 := by
  cases operation with
  | reserve command => exact within.reserve (agreed command rfl) (represents.reserves command)
  | finalize reservationId =>
      exact within.settle represents (represents.settles_finalize reservationId)
  | refund reservationId => exact within.settle represents (represents.settles_refund reservationId)
  | getUsage query => exact within.getUsage query
  | resetUsage query => exact within.clear _
  | resetResource resource => exact within.clear _

/-- A window whose reserves carry one limit stays within it. -/
theorem Within.run {session : Session} {operations : List Operation}
    (agreed : ∀ command, .reserve command ∈ operations → command.key = key → command.limit = limit)
    (reached : run step .init operations = some session) : Within key limit session.store := by
  have guarded : Meets step (fun _ operation => ∀ command, operation = .reserve command →
      command.key = key → command.limit = limit) .init operations := by
    apply meets_of_forall
    intro operation member command shape
    exact agreed command (shape ▸ member)
  have start : Sound .init ∧ Within key limit Session.init.store :=
    ⟨⟨.init, fun _ member => absurd member List.not_mem_nil⟩, fun _ found => nomatch found⟩
  refine (run_invariant (fun session => Sound session ∧ Within key limit session.store) ?_ start
    guarded reached).2
  rintro before operation after ⟨sound, within⟩ agree stepped
  refine ⟨sound.step stepped, ?_⟩
  rw [(step_some stepped).2.1, sound.represents.perform_eq]
  exact within.performOpen sound.represents agree

end Limit

section Failures

variable {store : Store}

/-- The call returned nothing or raised. -/
def Failed : Except QuotaError Answer → Prop
  | .ok .rejected => True
  | .ok _ => False
  | .error _ => True

/-- Nothing a later call depends on differs. -/
structure Untouched (store next : Store) : Prop where
  used : ∀ key, usedAt next.counters key = usedAt store.counters key
  reservations : next.reservations = store.reservations
  idempotency : next.idempotency = store.idempotency

theorem Untouched.refl (store : Store) : Untouched store store := ⟨fun _ => rfl, rfl, rfl⟩

theorem Reserves.failed {command : ReserveQuota} {result : Store × Except QuotaError Answer}
    (reserves : Reserves store command result) (failed : Failed result.2) :
    Untouched store result.1 := by
  cases reserves with
  | replayed _ _ _ => exact .refl store
  | rejected _ _ written => exact ⟨usedAt_current written, rfl, rfl⟩
  | charged _ _ _ _ => exact failed.elim

theorem Settles.failed {settlement : Settlement} {reservationId : String}
    {result : Store × Except QuotaError Answer}
    (settles : Settles store settlement reservationId result) (failed : Failed result.2) :
    Untouched store result.1 := by
  cases settles with
  | unknown _ => exact .refl store
  | refused _ _ => exact .refl store
  | repeated _ _ => exact .refl store
  | settled _ _ _ _ => exact failed.elim

theorem getUsage_answer (store : Store) (query : QuotaUsageQuery) :
    ∃ usage, (getUsage store query).2 = .ok (.usage usage) := by
  unfold getUsage
  split
  · exact ⟨_, rfl⟩
  · exact ⟨_, rfl⟩

theorem performOpen_failed (represents : Represents store) {operation : Operation}
    (failed : Failed (performOpen store operation).2) :
    Untouched store (performOpen store operation).1 := by
  cases operation with
  | reserve command => exact (represents.reserves command).failed failed
  | finalize reservationId => exact (represents.settles_finalize reservationId).failed failed
  | refund reservationId => exact (represents.settles_refund reservationId).failed failed
  | getUsage query =>
      obtain ⟨usage, answered⟩ := getUsage_answer store query
      rw [performOpen, answered] at failed
      exact failed.elim
  | resetUsage query => exact failed.elim
  | resetResource resource => exact failed.elim

theorem Reserves.no_error {command : ReserveQuota} {result : Store × Except QuotaError Answer}
    (reserves : Reserves store command result) (error : QuotaError) : result.2 ≠ .error error := by
  cases reserves <;> nofun

theorem Settles.keyError {settlement : Settlement} {reservationId : String}
    {result : Store × Except QuotaError Answer}
    (settles : Settles store settlement reservationId result) {error : QuotaError}
    (raised : result.2 = .error error) (kind : error.isKeyError = true) :
    store.reservations.find reservationId = none := by
  cases settles with
  | unknown missing => exact missing
  | refused found other =>
      obtain rfl := Except.error.inj raised
      cases settlement <;> cases kind
  | repeated found already => cases raised
  | settled found reserved counted written => cases raised

/-- Only a settlement of an unknown id raises `KeyError`. -/
theorem performOpen_keyError (represents : Represents store) {operation : Operation}
    {error : QuotaError} (raised : (performOpen store operation).2 = .error error)
    (kind : error.isKeyError = true) :
    ∃ reservationId, (operation = .finalize reservationId ∨ operation = .refund reservationId) ∧
      store.reservations.find reservationId = none := by
  cases operation with
  | reserve command => exact absurd raised ((represents.reserves command).no_error error)
  | finalize reservationId =>
      exact ⟨reservationId, .inl rfl,
        (represents.settles_finalize reservationId).keyError raised kind⟩
  | refund reservationId =>
      exact ⟨reservationId, .inr rfl,
        (represents.settles_refund reservationId).keyError raised kind⟩
  | getUsage query =>
      obtain ⟨usage, answered⟩ := getUsage_answer store query
      rw [performOpen, answered] at raised
      cases raised
  | resetUsage query => cases raised
  | resetResource resource => cases raised

end Failures

/-- In every reachable state the three dictionaries agree, and so no later call fails on them. -/
theorem memory_store_consistent {operations : List Operation} {session : Session}
    (reached : run step .init operations = some session) :
    (∀ reservation ∈ session.store.reservations.rows,
      session.store.counters.find reservation.key ≠ none) ∧
    (∀ counter ∈ session.store.counters.rows,
      counter.used = held session.store.reservations counter.key) ∧
    (∀ entry ∈ session.store.idempotency.rows, ∃ reservation,
      session.store.reservations.find entry.reservationId = some reservation ∧
        reservation.key = entry.key ∧ reservation.idempotencyKey = some entry.idempotencyKey) ∧
    (∀ counter ∈ session.store.counters.rows, ∀ limit,
      (∀ command, .reserve command ∈ operations → command.key = counter.key →
        command.limit = limit) → counter.used ≤ limit) ∧
    (∀ reservation ∈ session.store.reservations.rows, reservation.status = .reserved →
      ∀ counter, session.store.counters.find reservation.key = some counter →
        max (counter.used - reservation.cost) 0 = counter.used - reservation.cost) ∧
    ∀ operation next, step session operation = some next →
      (∀ error, (perform session.store operation).2 = .error error → error.isKeyError = true →
        ∃ reservationId,
          (operation = .finalize reservationId ∨ operation = .refund reservationId) ∧
            session.store.reservations.find reservationId = none) ∧
      (Failed (perform session.store operation).2 → Untouched session.store next.store) := by
  have represents := (Sound.run reached).represents
  refine ⟨represents.counted, ?_, represents.pointed, ?_, ?_, ?_⟩
  · intro counter member
    rw [← represents.conserved, usedAt, Table.find_mem member, Option.elim_some]
  · intro counter member limit agreed
    exact Within.run agreed reached counter (Table.find_mem member)
  · intro reservation member reserved counter counted
    exact represents.refund_exact member reserved counted
  · intro operation next stepped
    rw [(step_some stepped).2.1, represents.perform_eq]
    exact ⟨fun error => performOpen_keyError represents, performOpen_failed represents⟩

theorem subject_sample : "s" ≠ "" := by decide

theorem resource_sample : "r" ≠ "" := by decide

theorem window_sample : "w" ≠ "" := by decide

theorem limit_sample : (0 : Int) < 5 := by decide

theorem cost_sample : (0 : Int) < 3 := by decide

def firstReserve : ReserveQuota where
  subjectId := "s"
  resource := "r"
  windowKey := "w"
  limit := 5
  cost := 3
  resetAt := 60
  reservationId := "a"
  idempotencyKey := some "k"
  subjectNonempty := subject_sample
  resourceNonempty := resource_sample
  windowNonempty := window_sample
  limitPositive := limit_sample
  costPositive := cost_sample

def reserveAndRefund : List Operation :=
  [.reserve firstReserve, .reserve { firstReserve with reservationId := "b" },
    .reserve { firstReserve with reservationId := "c", idempotencyKey := none }, .refund "a"]

theorem reserveAndRefund_accepted : (run step .init reserveAndRefund).isSome = true := by
  decide +kernel

/-- Three calls draw on one window and a refund empties it. -/
theorem memory_store_consistent_refunded :
    ((run step .init reserveAndRefund).get reserveAndRefund_accepted).store.counters.rows.map
        Counter.used = [0] ∧
      ∀ entry ∈ ((run step .init reserveAndRefund).get
        reserveAndRefund_accepted).store.idempotency.rows, ∃ reservation,
        ((run step .init reserveAndRefund).get
          reserveAndRefund_accepted).store.reservations.find entry.reservationId =
            some reservation ∧ reservation.key = entry.key ∧
          reservation.idempotencyKey = some entry.idempotencyKey :=
  ⟨by decide +kernel,
    (memory_store_consistent (Option.some_get reserveAndRefund_accepted).symm).2.2.1⟩

end AiPlatform.Quota.Memory

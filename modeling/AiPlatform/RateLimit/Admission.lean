import AiPlatform.Lib.Machine
import AiPlatform.RateLimit.Windows

set_option autoImplicit false

/- What the in-memory limiter admits in any run. Its counts are those of the checks it allowed, and
their weighted sum stays within the limit as time goes on. -/
namespace AiPlatform.RateLimit

open Machine InMemoryRateLimiter

/-- A limiter with the time of its last check and the checks it allowed, oldest first. -/
structure State where
  counts : Counts := .empty
  last : Option Rat := none
  allowed : List Check := []

/-- The clock does not go back. -/
def State.by (state : State) (now : Rat) : Prop := ∀ last ∈ state.last, last ≤ now

instance (state : State) (now : Rat) : Decidable (state.by now) :=
  inferInstanceAs (Decidable (∀ last ∈ state.last, last ≤ now))

def step (limits : Limits) (threshold : EvictionThreshold) (state : State) (check : Check) :
    Option State :=
  if state.by check.now then
    let checked := InMemoryRateLimiter.check limits threshold state.counts check.now check.key
    some {
      counts := checked.2
      last := some check.now
      allowed := if checked.1.allowed then state.allowed ++ [check] else state.allowed }
  else none

theorem step_eq (limits : Limits) (threshold : EvictionThreshold) {state : State} {check : Check}
    (later : state.by check.now) :
    step limits threshold state check =
      let checked := InMemoryRateLimiter.check limits threshold state.counts check.now check.key
      some ⟨checked.2, some check.now,
        if checked.1.allowed then state.allowed ++ [check] else state.allowed⟩ :=
  if_pos later

/-- The allowed checks of a key in each window. -/
def admitted (limits : Limits) (allowed : List Check) : Ledger := fun key index =>
  allowed.countP fun check => check.key = key ∧ limits.windowIndex check.now = index

theorem admitted_snoc (limits : Limits) (allowed : List Check) (check : Check) :
    admitted limits (allowed ++ [check]) =
      (admitted limits allowed).record check.key (limits.windowIndex check.now) := by
  funext key index
  unfold admitted Ledger.record
  rw [List.countP_append, List.countP_singleton]
  by_cases here : key = check.key ∧ index = limits.windowIndex check.now
  · have own : check.key = key ∧ limits.windowIndex check.now = index := ⟨here.1.symm, here.2.symm⟩
    rw [if_pos (decide_eq_true own), if_pos here]
  · have apart : ¬(check.key = key ∧ limits.windowIndex check.now = index) :=
      fun own => here ⟨own.1.symm, own.2.symm⟩
    rw [if_neg (by simpa using apart), if_neg here, Nat.add_zero]

namespace Limits

variable (limits : Limits)

theorem elapsed_nonneg (now : Rat) : 0 ≤ limits.elapsed now :=
  sub_nonneg.mpr (limits.windowIndex_le now)

theorem elapsed_lt (now : Rat) : limits.elapsed now < limits.windowSeconds := by
  have bound := limits.lt_windowIndex now
  unfold elapsed
  linarith

/-- The share of its window that is still to come. -/
def left (now : Rat) : Rat := 1 - limits.elapsed now / limits.windowSeconds

theorem left_pos (now : Rat) : 0 < limits.left now := by
  have short := (div_lt_one limits.windowSeconds_pos).mpr (limits.elapsed_lt now)
  unfold left
  linarith

theorem left_le_one (now : Rat) : limits.left now ≤ 1 := by
  have begun := div_nonneg (limits.elapsed_nonneg now) limits.windowSeconds_pos.le
  unfold left
  linarith

theorem left_anti {earlier now : Rat} (order : earlier ≤ now)
    (same : limits.windowIndex now = limits.windowIndex earlier) :
    limits.left now ≤ limits.left earlier := by
  have longer : limits.elapsed earlier ≤ limits.elapsed now := by
    unfold elapsed
    rw [same]
    linarith
  have share := div_le_div_of_nonneg_right longer limits.windowSeconds_pos.le
  unfold left
  linarith

theorem carried_eq (now : Rat) (previous : Int) :
    limits.carried now previous = ((previous : Rat) * limits.left now).floor := by
  have weight : max (1 - limits.elapsed now / limits.windowSeconds) 0 = limits.left now :=
    max_eq_left (limits.left_pos now).le
  unfold carried
  rw [weight]

theorem carried_zero (now : Rat) : limits.carried now 0 = 0 := by
  rw [carried_eq, Int.cast_zero, zero_mul]
  rfl

theorem carried_nonneg (now : Rat) {previous : Int} (nonneg : 0 ≤ previous) :
    0 ≤ limits.carried now previous := by
  rw [carried_eq, Rat.le_floor_iff, Int.cast_zero]
  exact mul_nonneg (Int.cast_nonneg nonneg) (limits.left_pos now).le

theorem carried_le (now : Rat) {previous : Int} (nonneg : 0 ≤ previous) :
    limits.carried now previous ≤ previous := by
  have part := mul_le_mul_of_nonneg_left (limits.left_le_one now)
    (Int.cast_nonneg nonneg : (0 : Rat) ≤ previous)
  rw [mul_one] at part
  have floors := Rat.floor_monotone part
  rw [Rat.floor_intCast] at floors
  rw [carried_eq]
  exact floors

theorem carried_anti {earlier now : Rat} (order : earlier ≤ now)
    (same : limits.windowIndex now = limits.windowIndex earlier) {previous : Int}
    (nonneg : 0 ≤ previous) : limits.carried now previous ≤ limits.carried earlier previous := by
  rw [carried_eq, carried_eq]
  apply Rat.floor_monotone
  exact mul_le_mul_of_nonneg_left (limits.left_anti order same) (Int.cast_nonneg nonneg)

end Limits

theorem Ledger.weighted_nonneg (limits : Limits) (ledger : Ledger) (check : Check) :
    0 ≤ ledger.weighted limits check := by
  have carried := limits.carried_nonneg check.now
    (Int.natCast_nonneg (ledger check.key (limits.windowIndex check.now - 1)))
  unfold weighted
  omega

theorem Ledger.weighted_zero (limits : Limits) {ledger : Ledger} {check : Check}
    (current : ledger check.key (limits.windowIndex check.now) = 0)
    (previous : ledger check.key (limits.windowIndex check.now - 1) = 0) :
    ledger.weighted limits check = 0 := by
  have nothing := limits.carried_zero check.now
  unfold weighted
  rw [current, previous, Nat.cast_zero, nothing]
  rfl

/-- Time alone only lowers a weighted count: within a window its share falls, and a window that
ends becomes the previous one. -/
theorem Ledger.weighted_anti (limits : Limits) {ledger : Ledger} {key : String} {earlier now : Rat}
    (order : earlier ≤ now)
    (future : ∀ index, limits.windowIndex earlier < index → ledger key index = 0) :
    ledger.weighted limits ⟨now, key⟩ ≤ ledger.weighted limits ⟨earlier, key⟩ := by
  have mono := limits.windowIndex_mono order
  have start := ledger.weighted_nonneg limits ⟨earlier, key⟩
  by_cases same : limits.windowIndex now = limits.windowIndex earlier
  · have falls := limits.carried_anti order same
      (Int.natCast_nonneg (ledger key (limits.windowIndex earlier - 1)))
    unfold weighted
    dsimp only
    rw [same]
    omega
  · have current : ledger key (limits.windowIndex now) = 0 := future _ (by omega)
    by_cases next : limits.windowIndex now - 1 = limits.windowIndex earlier
    · have least := limits.carried_nonneg earlier
        (Int.natCast_nonneg (ledger key (limits.windowIndex earlier - 1)))
      have most := limits.carried_le now
        (Int.natCast_nonneg (ledger key (limits.windowIndex earlier)))
      unfold weighted
      dsimp only
      rw [current, next]
      omega
    · have previous : ledger key (limits.windowIndex now - 1) = 0 := future _ (by omega)
      have rolled : ledger.weighted limits ⟨now, key⟩ = 0 := weighted_zero limits current previous
      omega

/-- What every run keeps. -/
structure Admitting (limits : Limits) (state : State) : Prop where
  shows : ∀ now, state.by now → ∀ key,
    Shows limits key now state.counts (admitted limits state.allowed)
  times : ∀ check ∈ state.allowed, ∃ last ∈ state.last, check.now ≤ last
  within : ∀ last ∈ state.last, ∀ key,
    (admitted limits state.allowed).weighted limits ⟨last, key⟩ ≤ limits.limit

theorem init_admitting (limits : Limits) : Admitting limits {} where
  shows _ _ _ _ _ := rfl
  times _ inside := absurd inside List.not_mem_nil
  within _ now := nomatch now

section Steps

variable {limits : Limits} {threshold : EvictionThreshold} {state next : State} {check : Check}

theorem Admitting.future (admitting : Admitting limits state) {now : Rat} (later : state.by now)
    (key : String) {index : Int} (ahead : limits.windowIndex now < index) :
    admitted limits state.allowed key index = 0 := by
  apply List.countP_eq_zero.mpr
  intro check inside counted
  have ⟨last, ended, before⟩ := admitting.times check inside
  have order := limits.windowIndex_mono (le_trans before (later last ended))
  have here := (of_decide_eq_true counted).2
  omega

/-- The weighted count of a key is within the limit at any later time. -/
theorem Admitting.weighted_le (admitting : Admitting limits state) {now : Rat}
    (later : state.by now) (key : String) :
    (admitted limits state.allowed).weighted limits ⟨now, key⟩ ≤ limits.limit := by
  have positive := limits.positiveLimit
  cases shape : state.last with
  | none =>
      have nothing : ∀ index, admitted limits state.allowed key index = 0 := by
        intro index
        apply List.countP_eq_zero.mpr
        intro check inside
        have ⟨last, ended, _⟩ := admitting.times check inside
        rw [shape] at ended
        cases ended
      have zero : (admitted limits state.allowed).weighted limits ⟨now, key⟩ = 0 :=
        Ledger.weighted_zero limits (nothing _) (nothing _)
      omega
  | some last =>
      have start := admitting.within last shape key
      have own : state.by last := by
        intro other ended
        rw [shape] at ended
        rw [Option.some.inj ended]
      have anti := (admitted limits state.allowed).weighted_anti limits (later last shape)
        fun index ahead => admitting.future own key ahead
      omega

/-- What one check does: it is decided by the weighted count of its key. -/
theorem step_cases (admitting : Admitting limits state)
    (stepped : step limits threshold state check = some next) :
    state.by check.now ∧ next.last = some check.now ∧
      next.counts =
        (InMemoryRateLimiter.check limits threshold state.counts check.now check.key).2 ∧
      (limits.limit ≤ (admitted limits state.allowed).weighted limits check ∧
          next.allowed = state.allowed ∨
        (admitted limits state.allowed).weighted limits check < limits.limit ∧
          next.allowed = state.allowed ++ [check]) := by
  unfold step at stepped
  split at stepped
  · rename_i later
    have answer :
        (InMemoryRateLimiter.check limits threshold state.counts check.now check.key).1 =
          ((admitted limits state.allowed).check limits check).1 :=
      memory_answer (admitting.shows check.now later check.key)
    dsimp only at stepped
    rw [answer] at stepped
    obtain rfl := Option.some.inj stepped
    refine ⟨later, rfl, rfl, ?_⟩
    by_cases blocked : limits.limit ≤ (admitted limits state.allowed).weighted limits check
    · simp only [Ledger.check, blocked, if_true, Bool.false_eq_true, if_false, true_and, true_or]
    · simp only [Ledger.check, blocked, if_false, if_true, false_and, false_or, and_true]
      omega
  · cases stepped

theorem Ledger.weighted_record (limits : Limits) (ledger : Ledger) (check : Check) :
    (ledger.record check.key (limits.windowIndex check.now)).weighted limits check =
      ledger.weighted limits check + 1 := by
  have previous : limits.windowIndex check.now - 1 ≠ limits.windowIndex check.now := by omega
  unfold weighted record
  simp only [true_and, if_true, previous, if_false, Nat.cast_add, Nat.cast_one]
  omega

theorem Ledger.weighted_record_other (limits : Limits) (ledger : Ledger) (index : Int)
    {key : String} {check : Check} (apart : check.key ≠ key) :
    (ledger.record key index).weighted limits check = ledger.weighted limits check := by
  unfold weighted record
  simp only [apart, false_and, if_false]

theorem Admitting.past (admitting : Admitting limits state) (later : state.by check.now) :
    ∀ other ∈ state.allowed, other.now ≤ check.now := by
  intro other inside
  have ⟨last, ended, before⟩ := admitting.times other inside
  exact le_trans before (later last ended)

/-- An allowed check leaves every key within the limit, its own by what it has left. -/
theorem Admitting.within_record (admitting : Admitting limits state) (later : state.by check.now)
    (open_ : (admitted limits state.allowed).weighted limits check < limits.limit) (key : String) :
    ((admitted limits state.allowed).record check.key (limits.windowIndex check.now)).weighted
      limits
      ⟨check.now, key⟩ ≤ limits.limit := by
  by_cases mine : key = check.key
  · have counted := (admitted limits state.allowed).weighted_record limits check
    rw [mine]
    show ((admitted limits state.allowed).record check.key
      (limits.windowIndex check.now)).weighted limits check ≤ limits.limit
    omega
  · rw [Ledger.weighted_record_other limits _ _ mine]
    exact admitting.weighted_le later key

theorem Admitting.step (admitting : Admitting limits state)
    (stepped : step limits threshold state check = some next) : Admitting limits next := by
  have ⟨later, last, counts, decided⟩ := step_cases admitting stepped
  have own : ∀ now, next.by now → check.now ≤ now := by
    intro now after
    exact after check.now last
  have ledger : admitted limits next.allowed =
      ((admitted limits state.allowed).check limits check).2 := by
    unfold Ledger.check
    rcases decided with ⟨blocked, same⟩ | ⟨open_, added⟩
    · rw [if_pos blocked, same]
    · rw [if_neg (not_le.mpr open_), added, admitted_snoc]
  constructor
  · intro now after key
    have here := admitting.shows check.now later
    rw [counts, ledger]
    apply Shows.later (own now after)
    intro index recent
    exact countOf_check (here check.key) recent (here key index recent)
  · intro other inside
    refine ⟨check.now, last, ?_⟩
    rcases decided with ⟨blocked, same⟩ | ⟨open_, added⟩
    · rw [same] at inside
      exact admitting.past later other inside
    · rw [added] at inside
      rcases List.mem_append.mp inside with old | new
      · exact admitting.past later other old
      · rw [List.mem_singleton.mp new]
  · intro ended named key
    rw [last] at named
    rw [← Option.some.inj named]
    rcases decided with ⟨blocked, same⟩ | ⟨open_, added⟩
    · rw [same]
      exact admitting.weighted_le later key
    · rw [added, admitted_snoc]
      exact admitting.within_record later open_ key

end Steps

theorem run_admitting {limits : Limits} {threshold : EvictionThreshold} {checks : List Check}
    {state : State} (reached : run (step limits threshold) {} checks = some state) :
    Admitting limits state :=
  run_invariant_always (Admitting limits) (fun _ _ _ admitting stepped => admitting.step stepped)
    (init_admitting limits) reached

/-- What the counts of the previous window still count for. -/
def carriedOf (limits : Limits) (counts : Counts) (key : String) (now : Rat) : Int :=
  ((countOf counts key (limits.windowIndex now - 1) : Rat) *
    (1 - limits.elapsed now / limits.windowSeconds)).floor

/-- A count is kept or, when its window can no longer be read, evicted. -/
theorem evictIfNeeded_cases (threshold : EvictionThreshold) (counts : Counts) (current : Int)
    (key : String) (index : Int) :
    countOf (evictIfNeeded threshold counts current) key index = countOf counts key index ∨
      index < current - 1 ∧ countOf (evictIfNeeded threshold counts current) key index = 0 := by
  by_cases recent : current - 1 ≤ index
  · exact .inl (countOf_evictIfNeeded threshold counts key recent)
  · unfold evictIfNeeded
    split
    · exact .inl rfl
    · right
      refine ⟨by omega, ?_⟩
      unfold countOf
      rw [Table.find_erase]
      cases found : counts.find (key, index) with
      | none => rfl
      | some bucket =>
          have window : bucket.windowIndex = index :=
            (Prod.mk.inj (Table.find_some.mp found).2).2
          have stale : bucket.windowIndex < current - 1 := by omega
          simp [Option.filter, stale]

section Answers

variable {limits : Limits} {counts : Counts} {ledger : Ledger}
variable (threshold : EvictionThreshold) (check : Check)

/-- A check is blocked when the weighted count has reached the limit. -/
theorem blocked_iff (shows : Shows limits check.key check.now counts ledger) :
    (InMemoryRateLimiter.check limits threshold counts check.now check.key).1.allowed = false ↔
      limits.limit ≤ ledger.weighted limits check := by
  have answer : (InMemoryRateLimiter.check limits threshold counts check.now check.key).1 =
      (ledger.check limits check).1 := memory_answer shows
  rw [answer]
  unfold Ledger.check
  split
  · rename_i blocked
    exact ⟨fun _ => blocked, fun _ => rfl⟩
  · rename_i passed
    exact ⟨fun refused => Bool.noConfusion refused, fun blocked => absurd blocked passed⟩

/-- A blocked check only evicts. -/
theorem blocked_counts (shows : Shows limits check.key check.now counts ledger)
    (blocked : limits.limit ≤ ledger.weighted limits check) :
    (InMemoryRateLimiter.check limits threshold counts check.now check.key).2 =
      evictIfNeeded threshold counts (limits.windowIndex check.now) := by
  rw [memory_check shows]
  exact if_pos blocked

/-- What is left to a key after an allowed check, by the counts it leaves. -/
theorem allowed_remaining (shows : Shows limits check.key check.now counts ledger)
    (open_ : ledger.weighted limits check < limits.limit) :
    let checked := InMemoryRateLimiter.check limits threshold counts check.now check.key
    checked.1.remaining =
      limits.limit - countOf checked.2 check.key (limits.windowIndex check.now) -
        carriedOf limits checked.2 check.key check.now := by
  have recent : limits.windowIndex check.now - 1 ≤ limits.windowIndex check.now := by omega
  have apart : limits.windowIndex check.now - 1 ≠ limits.windowIndex check.now := by omega
  have recorded : (ledger.check limits check).2 =
      ledger.record check.key (limits.windowIndex check.now) := by
    unfold Ledger.check
    rw [if_neg (not_le.mpr open_)]
  have remaining : (ledger.check limits check).1.remaining =
      max (limits.limit - (ledger.weighted limits check + 1)) 0 := by
    unfold Ledger.check
    rw [if_neg (not_le.mpr open_)]
  have current : countOf
      (InMemoryRateLimiter.check limits threshold counts check.now check.key).2 check.key
        (limits.windowIndex check.now) =
          (ledger check.key (limits.windowIndex check.now) : Int) + 1 := by
    rw [countOf_check shows recent (shows _ recent), recorded]
    simp [Ledger.record]
  have previous : countOf
      (InMemoryRateLimiter.check limits threshold counts check.now check.key).2 check.key
        (limits.windowIndex check.now - 1) =
      (ledger check.key (limits.windowIndex check.now - 1) : Int) := by
    rw [countOf_check shows le_rfl (shows _ le_rfl), recorded]
    simp [Ledger.record, apart]
  have carried := limits.carried_eq check.now (ledger check.key (limits.windowIndex check.now - 1))
  unfold Limits.left at carried
  dsimp only
  rw [memory_answer shows, remaining]
  unfold carriedOf
  rw [current, previous, ← carried, max_eq_left]
  all_goals
    unfold Ledger.weighted at *
    omega

end Answers

/-- In every run: the counts stay within the limit, at any later time and with the weight of the
previous window; a blocked check changes no count that can still be read; an allowed one returns
what is left of the limit after it. -/
theorem admission_invariant (limits : Limits) (threshold : EvictionThreshold) (checks : List Check)
    (state : State) (reached : run (step limits threshold) {} checks = some state) (now : Rat)
    (later : state.by now) (key : String) :
    countOf state.counts key (limits.windowIndex now) ≤ limits.limit ∧
    countOf state.counts key (limits.windowIndex now) + carriedOf limits state.counts key now ≤
      limits.limit ∧
    let checked := InMemoryRateLimiter.check limits threshold state.counts now key
    (checked.1.allowed = false → ∀ other index,
      countOf checked.2 other index = countOf state.counts other index ∨
        index < limits.windowIndex now - 1 ∧ countOf checked.2 other index = 0) ∧
    (checked.1.allowed = true →
      checked.1.remaining =
        limits.limit - countOf checked.2 key (limits.windowIndex now) -
          carriedOf limits checked.2 key now) := by
  have admitting := run_admitting reached
  have shows : Shows limits key now state.counts (admitted limits state.allowed) :=
    admitting.shows now later key
  have within := admitting.weighted_le later key
  have current := shows (limits.windowIndex now) (by omega)
  have previous := shows (limits.windowIndex now - 1) le_rfl
  have nonneg := limits.carried_nonneg now
    (Int.natCast_nonneg (admitted limits state.allowed key (limits.windowIndex now - 1)))
  have carried := limits.carried_eq now
    (admitted limits state.allowed key (limits.windowIndex now - 1))
  refine ⟨?_, ?_, ?_, ?_⟩
  · dsimp only [Ledger.weighted] at within
    omega
  · unfold Limits.left at carried
    unfold carriedOf
    rw [current, previous, ← carried]
    exact within
  · intro refused other index
    have blocked := (blocked_iff threshold ⟨now, key⟩ shows).mp refused
    have swept := blocked_counts threshold ⟨now, key⟩ shows blocked
    dsimp only at swept ⊢
    rw [swept]
    exact evictIfNeeded_cases threshold state.counts (limits.windowIndex now) other index
  · intro passed
    have open_ : (admitted limits state.allowed).weighted limits ⟨now, key⟩ < limits.limit := by
      by_contra full
      have refused := (blocked_iff threshold ⟨now, key⟩ shows).mpr (not_lt.mp full)
      dsimp only at refused passed
      rw [refused] at passed
      exact Bool.noConfusion passed
    exact allowed_remaining threshold ⟨now, key⟩ shows open_

/-- Two requests in one window still count for one in the middle of the next. -/
theorem admission_invariant_rolled :
    ∃ state, run (step { limit := 2 } ⟨1, by decide⟩) {} [⟨0, "a"⟩, ⟨59, "a"⟩] = some state ∧
      countOf state.counts "a" (Limits.windowIndex { limit := 2 } 90) +
        carriedOf { limit := 2 } state.counts "a" 90 ≤ 2 ∧
      carriedOf { limit := 2 } state.counts "a" 90 = 1 := by
  let full := run (step { limit := 2 } ⟨1, by decide⟩) {} [⟨0, "a"⟩, ⟨59, "a"⟩]
  have ran : full.isSome := by decide +kernel
  have later : ∀ state ∈ full, state.by 90 := by decide +kernel
  have carried : ∀ state ∈ full, carriedOf { limit := 2 } state.counts "a" 90 = 1 := by
    decide +kernel
  have ⟨state, reached⟩ := Option.isSome_iff_exists.mp ran
  have invariant := admission_invariant { limit := 2 } ⟨1, by decide⟩ [⟨0, "a"⟩, ⟨59, "a"⟩] state
    reached 90 (later state reached) "a"
  exact ⟨state, reached, invariant.2.1, carried state reached⟩

/-- A blocked check evicts a count of an old window. -/
theorem blocked_check_evicts :
    ¬∀ (limits : Limits) (threshold : EvictionThreshold) (checks : List Check) (state : State),
      run (step limits threshold) {} checks = some state → ∀ now, state.by now → ∀ key,
      (InMemoryRateLimiter.check limits threshold state.counts now key).1.allowed = false →
      ∀ other index,
        countOf (InMemoryRateLimiter.check limits threshold state.counts now key).2 other index =
          countOf state.counts other index := by
  intro unchanged
  let limits : Limits := { limit := 1 }
  let full := run (step limits ⟨2, by decide⟩) {} [⟨0, "a"⟩, ⟨300, "b"⟩]
  have ran : full.isSome := by decide +kernel
  have later : ∀ state ∈ full, state.by 301 := by decide +kernel
  have refused : ∀ state ∈ full, (InMemoryRateLimiter.check limits ⟨2, by decide⟩ state.counts 301
      "b").1.allowed = false := by
    decide +kernel
  have evicted : ∀ state ∈ full, countOf (InMemoryRateLimiter.check limits ⟨2, by decide⟩
      state.counts 301 "b").2 "a" 0 ≠ countOf state.counts "a" 0 := by
    decide +kernel
  have ⟨state, reached⟩ := Option.isSome_iff_exists.mp ran
  have same := unchanged limits ⟨2, by decide⟩ [⟨0, "a"⟩, ⟨300, "b"⟩] state reached 301
    (later state reached) "b" (refused state reached) "a" 0
  exact evicted state reached same

end AiPlatform.RateLimit

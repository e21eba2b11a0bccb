import AiPlatform.RateLimit.Admission

set_option autoImplicit false

/- How many checks of one key are allowed in any interval as long as a window. Two buckets blended
and rounded down are no sliding window: when less than one check of a full previous window still
counts, a full window can follow it within `window_seconds`. -/
namespace AiPlatform.RateLimit

open Machine InMemoryRateLimiter

/-- The allowed checks of a key from `start` on, for as long as a window. -/
def burst (limits : Limits) (allowed : List Check) (key : String) (start : Rat) : Nat :=
  allowed.countP fun check =>
    check.key = key ∧ start ≤ check.now ∧ check.now < start + limits.windowSeconds

/-- No interval of the length of a window holds two limits. -/
def BurstFree (limits : Limits) (state : State) : Prop :=
  ∀ key start, (burst limits state.allowed key start : Int) < 2 * limits.limit

/-- The allowed checks of a key in one window, from `start` on. -/
def since (limits : Limits) (allowed : List Check) (key : String)
    (start : Rat) (index : Int) : Nat :=
  (allowed.filter fun check => check.key = key ∧ limits.windowIndex check.now = index).countP
    fun check => start ≤ check.now

/-- The first allowed check of a key in a window. -/
def opened (limits : Limits) (allowed : List Check) (key : String) (index : Int) : Option Check :=
  (allowed.filter fun check => check.key = key ∧ limits.windowIndex check.now = index).head?

/-- The check would fill its window less than a window after a full previous one began to fill,
and less than one check of the previous window still counts. -/
def DoubleBurst (limits : Limits) (state : State) (check : Check) : Prop :=
  let index := limits.windowIndex check.now
  countOf state.counts check.key index = limits.limit - 1 ∧
    countOf state.counts check.key (index - 1) = limits.limit ∧
    limits.limit * (1 - limits.elapsed check.now / limits.windowSeconds) < 1 ∧
    ∃ first ∈ opened limits state.allowed check.key (index - 1),
      check.now < first.now + limits.windowSeconds

instance (limits : Limits) (state : State) (check : Check) :
    Decidable (DoubleBurst limits state check) :=
  inferInstanceAs (Decidable (_ ∧ _ ∧ _ ∧ _))

section Intervals

variable (limits : Limits) (allowed : List Check) (key : String) (start : Rat) (index : Int)

theorem admitted_eq : admitted limits allowed key index =
    (allowed.filter fun check => check.key = key ∧ limits.windowIndex check.now = index).length :=
  List.countP_eq_length_filter

theorem since_le : since limits allowed key start index ≤ admitted limits allowed key index := by
  rw [admitted_eq]
  exact List.countP_le_length

/-- A window counts in full when its first check does. -/
theorem since_eq_iff :
    since limits allowed key start index = admitted limits allowed key index ↔
      ∀ check ∈ allowed, check.key = key → limits.windowIndex check.now = index →
        start ≤ check.now := by
  rw [admitted_eq]
  unfold since
  rw [List.countP_eq_length]
  simp only [List.mem_filter, decide_eq_true_eq, and_imp]

theorem since_cons (check : Check) :
    since limits (check :: allowed) key start index =
      since limits allowed key start index +
        if check.key = key ∧ limits.windowIndex check.now = index ∧ start ≤ check.now then 1
        else 0 := by
  unfold since
  rw [List.countP_filter, List.countP_filter, List.countP_cons]
  congr 2
  simp only [Bool.and_eq_true, decide_eq_true_eq, eq_iff_iff]
  tauto

theorem burst_cons (check : Check) :
    burst limits (check :: allowed) key start =
      burst limits allowed key start +
        if check.key = key ∧ start ≤ check.now ∧ check.now < start + limits.windowSeconds then 1
        else 0 := by
  unfold burst
  rw [List.countP_cons]
  simp only [decide_eq_true_eq]

end Intervals

variable {limits : Limits} {allowed : List Check} {key : String} {start now : Rat}

theorem lt_of_windowIndex_lt {earlier : Rat}
    (order : limits.windowIndex earlier < limits.windowIndex now) : earlier < now := by
  by_contra back
  have mono := limits.windowIndex_mono (not_lt.mp back)
  omega

/-- Less than a window lies in two adjacent windows. -/
theorem windowIndex_near {earlier : Rat} (order : earlier ≤ now)
    (recent : now < earlier + limits.windowSeconds) :
    limits.windowIndex earlier = limits.windowIndex now - 1 ∨
      limits.windowIndex earlier = limits.windowIndex now := by
  have mono := limits.windowIndex_mono order
  have begun := limits.windowIndex_le now
  have ended := limits.lt_windowIndex earlier
  have positive := limits.windowSeconds_pos
  have bound : ((limits.windowIndex now : Int) : Rat) < limits.windowIndex earlier + 2 := by
    apply lt_of_mul_lt_mul_right _ positive.le
    linarith
  have close : limits.windowIndex now < limits.windowIndex earlier + 2 := by exact_mod_cast bound
  omega

/-- An interval that reaches the present holds checks of the last two windows. -/
theorem burst_eq (key : String) (past : ∀ check ∈ allowed, check.now ≤ now)
    (recent : now < start + limits.windowSeconds) :
    burst limits allowed key start =
      since limits allowed key start (limits.windowIndex now - 1) +
        since limits allowed key start (limits.windowIndex now) := by
  induction allowed with
  | nil => rfl
  | cons check rest ih =>
      have before := past check List.mem_cons_self
      rw [burst_cons, since_cons, since_cons, ih fun other inside =>
        past other (List.mem_cons_of_mem _ inside)]
      by_cases counted : check.key = key ∧ start ≤ check.now
      · have inside : check.now < start + limits.windowSeconds := by linarith
        rcases windowIndex_near before (by linarith : now < check.now + limits.windowSeconds) with
          previous | current
        · have apart : limits.windowIndex now - 1 ≠ limits.windowIndex now := by omega
          simp only [counted, inside, previous, apart, true_and, false_and, if_true, if_false]
          omega
        · have apart : limits.windowIndex now ≠ limits.windowIndex now - 1 := by omega
          simp only [counted, inside, current, apart, true_and, false_and, if_true, if_false]
          omega
      · have outside : ∀ rest : Prop, ¬(check.key = key ∧ start ≤ check.now ∧ rest) := by tauto
        have elsewhere : ∀ window : Prop, ¬(check.key = key ∧ window ∧ start ≤ check.now) := by
          tauto
        rw [if_neg (outside _), if_neg (elsewhere _), if_neg (elsewhere _)]
        omega

/-- What every run keeps: no window is over the limit. -/
structure Recorded (limits : Limits) (state : State) : Prop where
  admitting : Admitting limits state
  ordered : state.allowed.Pairwise fun earlier later => earlier.now ≤ later.now
  capped : ∀ key index, (admitted limits state.allowed key index : Int) ≤ limits.limit

theorem init_recorded (limits : Limits) : Recorded limits {} where
  admitting := init_admitting limits
  ordered := List.Pairwise.nil
  capped _ _ := limits.positiveLimit.le

section Steps

variable {threshold : EvictionThreshold} {state next : State} {check : Check} {index : Int}

theorem Recorded.step (recorded : Recorded limits state)
    (stepped : step limits threshold state check = some next) : Recorded limits next := by
  have ⟨later, last, counts, decided⟩ := step_cases recorded.admitting stepped
  have past := recorded.admitting.past later
  constructor
  · exact recorded.admitting.step stepped
  · rcases decided with ⟨blocked, same⟩ | ⟨open_, added⟩
    · rw [same]
      exact recorded.ordered
    · rw [added]
      apply List.pairwise_append.mpr
      refine ⟨recorded.ordered, List.pairwise_singleton _ _, ?_⟩
      intro other inside new here
      rw [List.mem_singleton.mp here]
      exact past other inside
  · intro key index
    have before := recorded.capped key index
    rcases decided with ⟨blocked, same⟩ | ⟨open_, added⟩
    · rw [same]
      exact before
    · have nonneg := limits.carried_nonneg check.now (Int.natCast_nonneg
        (admitted limits state.allowed check.key (limits.windowIndex check.now - 1)))
      rw [added, admitted_snoc]
      unfold Ledger.record
      split
      · rename_i here
        unfold Ledger.weighted at open_
        rw [here.1, here.2]
        push_cast
        omega
      · exact before

theorem opened_first (recorded : Recorded limits state) {index : Int} {first : Check}
    (begun : opened limits state.allowed key index = some first) :
    first.key = key ∧ limits.windowIndex first.now = index ∧
      ∀ check ∈ state.allowed, check.key = key → limits.windowIndex check.now = index →
        first.now ≤ check.now := by
  have ⟨rest, shape⟩ := List.head?_eq_some_iff.mp begun
  have sorted := recorded.ordered.filter fun check =>
    check.key = key ∧ limits.windowIndex check.now = index
  have inside : first ∈ state.allowed.filter fun check =>
      check.key = key ∧ limits.windowIndex check.now = index := by
    rw [shape]
    exact List.mem_cons_self
  have own := of_decide_eq_true (List.mem_filter.mp inside).2
  refine ⟨own.1, own.2, ?_⟩
  intro check member named window
  have filtered : check ∈ state.allowed.filter fun check =>
      check.key = key ∧ limits.windowIndex check.now = index :=
    List.mem_filter.mpr ⟨member, decide_eq_true ⟨named, window⟩⟩
  rw [shape] at sorted filtered
  rcases List.mem_cons.mp filtered with head | tail
  · rw [head]
  · exact List.rel_of_pairwise_cons sorted tail

/-- The counts that `DoubleBurst` reads are those of the allowed checks. -/
theorem doubleBurst_iff (recorded : Recorded limits state) (later : state.by check.now) :
    DoubleBurst limits state check ↔
      (admitted limits state.allowed check.key (limits.windowIndex check.now) : Int) =
          limits.limit - 1 ∧
        (admitted limits state.allowed check.key (limits.windowIndex check.now - 1) : Int) =
          limits.limit ∧
        limits.carried check.now limits.limit = 0 ∧
        ∃ first ∈ opened limits state.allowed check.key (limits.windowIndex check.now - 1),
          check.now < first.now + limits.windowSeconds := by
  have shows := recorded.admitting.shows check.now later check.key
  have current := shows (limits.windowIndex check.now) (by omega)
  have previous := shows (limits.windowIndex check.now - 1) le_rfl
  have nonneg := limits.carried_nonneg check.now limits.positiveLimit.le
  have carried : limits.limit * (1 - limits.elapsed check.now / limits.windowSeconds) < 1 ↔
      limits.carried check.now limits.limit = 0 := by
    have floors : (limits.limit * limits.left check.now).floor < 1 ↔
        limits.limit * limits.left check.now < ((1 : Int) : Rat) := Rat.floor_lt_iff
    rw [← limits.carried_eq, Int.cast_one] at floors
    exact floors.symm.trans (by omega)
  unfold DoubleBurst
  dsimp only
  rw [current, previous, carried]

theorem burst_append (key : String) (start : Rat) (check : Check) :
    burst limits (allowed ++ [check]) key start =
      burst limits allowed key start +
        if check.key = key ∧ start ≤ check.now ∧ check.now < start + limits.windowSeconds then 1
        else 0 := by
  unfold burst
  rw [List.countP_append, List.countP_singleton]
  simp only [decide_eq_true_eq]

theorem next_by (last : next.last = some check.now) : next.by check.now := by
  intro ended named
  rw [last] at named
  exact (Option.some.inj named).ge

theorem opened_of_pos (filled : 0 < admitted limits allowed key index) :
    ∃ first, opened limits allowed key index = some first ∧ first ∈ allowed := by
  rw [admitted_eq] at filled
  have ⟨first, rest, shape⟩ := List.exists_cons_of_length_pos filled
  have begun : opened limits allowed key index = some first := by
    unfold opened
    rw [shape]
    rfl
  have inside : first ∈ allowed.filter fun check =>
      check.key = key ∧ limits.windowIndex check.now = index := by
    rw [shape]
    exact List.mem_cons_self
  exact ⟨first, begun, (List.mem_filter.mp inside).1⟩

/-- An allowed check that makes an interval hold two limits is a double burst: the interval holds
all of both windows. -/
theorem double_of_full (recorded : Recorded limits state)
    (stepped : step limits threshold state check = some next)
    (added : next.allowed = state.allowed ++ [check])
    (open_ : (admitted limits state.allowed).weighted limits check < limits.limit)
    (recent : check.now < start + limits.windowSeconds)
    (full : 2 * limits.limit ≤ burst limits next.allowed check.key start) :
    DoubleBurst limits state check := by
  obtain ⟨later, last, counts, decided⟩ := step_cases recorded.admitting stepped
  have kept := recorded.step stepped
  have split := burst_eq check.key (kept.admitting.past (next_by last)) recent
  have previousPart :=
    since_le limits next.allowed check.key start (limits.windowIndex check.now - 1)
  have currentPart := since_le limits next.allowed check.key start (limits.windowIndex check.now)
  have previousCap := kept.capped check.key (limits.windowIndex check.now - 1)
  have currentCap := kept.capped check.key (limits.windowIndex check.now)
  have whole := (since_eq_iff limits next.allowed check.key start
    (limits.windowIndex check.now - 1)).mp (by omega)
  have current : admitted limits next.allowed check.key (limits.windowIndex check.now) =
      admitted limits state.allowed check.key (limits.windowIndex check.now) + 1 := by
    rw [added, admitted_snoc]
    simp [Ledger.record]
  have previous : admitted limits next.allowed check.key (limits.windowIndex check.now - 1) =
      admitted limits state.allowed check.key (limits.windowIndex check.now - 1) := by
    rw [added, admitted_snoc]
    simp [Ledger.record]
  have positive := limits.positiveLimit
  obtain ⟨first, begun, member⟩ : ∃ first, opened limits state.allowed check.key
      (limits.windowIndex check.now - 1) = some first ∧ first ∈ state.allowed :=
    opened_of_pos (by omega)
  obtain ⟨named, window, least⟩ := opened_first recorded begun
  have reaches : start ≤ first.now := by
    apply whole first _ named window
    rw [added]
    exact List.mem_append_left _ member
  rw [doubleBurst_iff recorded later]
  have fullPrevious : (admitted limits state.allowed check.key
      (limits.windowIndex check.now - 1) : Int) = limits.limit := by
    omega
  have nonneg := limits.carried_nonneg check.now positive.le
  unfold Ledger.weighted at open_
  rw [fullPrevious] at open_
  exact ⟨by omega, fullPrevious, by omega, first, begun, by linarith⟩

/-- Without a double burst, no interval comes to hold two limits. -/
theorem BurstFree.step (recorded : Recorded limits state) (free : BurstFree limits state)
    (single : ¬DoubleBurst limits state check)
    (stepped : step limits threshold state check = some next) : BurstFree limits next := by
  have ⟨later, last, counts, decided⟩ := step_cases recorded.admitting stepped
  intro key start
  have before := free key start
  rcases decided with ⟨blocked, same⟩ | ⟨open_, added⟩
  · rw [same]
    exact before
  · by_cases inside : check.key = key ∧ start ≤ check.now ∧
        check.now < start + limits.windowSeconds
    · by_contra full
      rw [← inside.1] at full
      exact single (double_of_full recorded stepped added open_ inside.2.2 (not_lt.mp full))
    · rw [added, burst_append, if_neg inside]
      exact before

/-- A double burst is let through, and the interval from the first check of the previous window
then holds two limits. -/
theorem DoubleBurst.full (recorded : Recorded limits state)
    (double : DoubleBurst limits state check)
    (stepped : step limits threshold state check = some next) : ¬BurstFree limits next := by
  have ⟨later, last, counts, decided⟩ := step_cases recorded.admitting stepped
  have ⟨current, previous, carried, first, begun, recent⟩ :=
    (doubleBurst_iff recorded later).mp double
  have ⟨named, window, least⟩ := opened_first recorded begun
  have weighted : (admitted limits state.allowed).weighted limits check = limits.limit - 1 := by
    unfold Ledger.weighted
    rw [previous, current, carried]
    omega
  rcases decided with ⟨blocked, same⟩ | ⟨open_, added⟩
  · omega
  · have split := burst_eq check.key (recorded.admitting.past later) recent
    have wholePrevious := (since_eq_iff limits state.allowed check.key first.now
      (limits.windowIndex check.now - 1)).mpr least
    have wholeCurrent := (since_eq_iff limits state.allowed check.key first.now
      (limits.windowIndex check.now)).mpr fun other _ _ here => by
        have order : limits.windowIndex first.now < limits.windowIndex other.now := by omega
        exact (lt_of_windowIndex_lt order).le
    have order : limits.windowIndex first.now < limits.windowIndex check.now := by omega
    have reaches := (lt_of_windowIndex_lt order).le
    intro free
    have bound := free check.key first.now
    rw [added, burst_append, if_pos ⟨rfl, reaches, recent⟩] at bound
    push_cast at bound
    omega

end Steps

theorem run_recorded {threshold : EvictionThreshold} {checks : List Check} {state : State}
    (reached : run (step limits threshold) {} checks = some state) : Recorded limits state :=
  run_invariant_always (Recorded limits) (fun _ _ _ recorded stepped => recorded.step stepped)
    (init_recorded limits) reached

/-- The allowed checks stay on record. -/
theorem run_allowed {threshold : EvictionThreshold} {checks : List Check} {state final : State}
    (recorded : Recorded limits state)
    (reached : run (step limits threshold) state checks = some final) :
    state.allowed <+: final.allowed := by
  have kept : Recorded limits final ∧ state.allowed <+: final.allowed := by
    apply run_invariant_always (fun next => Recorded limits next ∧ state.allowed <+: next.allowed)
      _ ⟨recorded, List.prefix_rfl⟩ reached
    intro middle check next ⟨here, before⟩ stepped
    have ⟨later, last, counts, decided⟩ := step_cases here.admitting stepped
    refine ⟨here.step stepped, ?_⟩
    rcases decided with ⟨blocked, same⟩ | ⟨open_, added⟩
    · rw [same]
      exact before
    · rw [added]
      exact before.trans (List.prefix_append _ _)
  exact kept.2

theorem BurstFree.of_prefix {state final : State} (free : BurstFree limits final)
    (grown : state.allowed <+: final.allowed) : BurstFree limits state := by
  intro key start
  have more : burst limits state.allowed key start ≤ burst limits final.allowed key start :=
    grown.sublist.countP_le
  have bound := free key start
  omega

/-- In every run no interval as long as a window holds two limits, exactly when no check is a
double burst. -/
theorem burst_bound (limits : Limits) (threshold : EvictionThreshold) (checks : List Check)
    (final : State) (reached : run (step limits threshold) {} checks = some final) :
    BurstFree limits final ↔
      Meets (step limits threshold) (fun state check => ¬DoubleBurst limits state check) {}
        checks := by
  constructor
  · intro free
    apply meets_iff.mpr
    intro before check after middle shape arrived double
    rw [shape, run_append_some] at reached
    have ⟨state, first, rest⟩ := reached
    rw [arrived] at first
    obtain rfl := Option.some.inj first
    have ⟨next, stepped, onward⟩ := run_cons_some.mp rest
    have recorded := run_recorded arrived
    exact double.full recorded stepped (free.of_prefix (run_allowed (recorded.step stepped) onward))
  · intro met
    have kept : Recorded limits final ∧ BurstFree limits final := by
      apply run_invariant (fun state => Recorded limits state ∧ BurstFree limits state) _ _ met
        reached
      · intro state check next ⟨recorded, free⟩ single stepped
        exact ⟨recorded.step stepped, free.step recorded single stepped⟩
      · refine ⟨init_recorded limits, fun key start => ?_⟩
        have positive := limits.positiveLimit
        show (0 : Int) < 2 * limits.limit
        omega
    exact kept.2

/-- A request a window and a second after another one is no double burst. -/
theorem burst_bound_apart :
    ∃ final, run (step { limit := 1 } defaultEvictionThreshold) {} [⟨0, "a"⟩, ⟨61, "a"⟩] =
        some final ∧
      final.allowed = [⟨0, "a"⟩, ⟨61, "a"⟩] ∧ BurstFree { limit := 1 } final := by
  let full := run (step { limit := 1 } defaultEvictionThreshold) {} [⟨0, "a"⟩, ⟨61, "a"⟩]
  have ran : full.isSome := by decide +kernel
  have both : ∀ final ∈ full, final.allowed = [⟨0, "a"⟩, ⟨61, "a"⟩] := by decide +kernel
  have ⟨final, reached⟩ := Option.isSome_iff_exists.mp ran
  refine ⟨final, reached, both final reached, ?_⟩
  apply (burst_bound { limit := 1 } defaultEvictionThreshold [⟨0, "a"⟩, ⟨61, "a"⟩] final
    reached).mpr
  decide +kernel

/-- With a limit of one, the second half of a window after a request lets another one through
within a minute. -/
theorem burst_crosses_boundary :
    ¬∀ (limits : Limits) (threshold : EvictionThreshold) (checks : List Check) (final : State),
      run (step limits threshold) {} checks = some final → BurstFree limits final := by
  intro free
  let limits : Limits := { limit := 1 }
  let full := run (step limits defaultEvictionThreshold) {} [⟨30, "a"⟩, ⟨66, "a"⟩]
  have ran : full.isSome := by decide +kernel
  have two : ∀ final ∈ full, burst limits final.allowed "a" 30 = 2 := by decide +kernel
  have ⟨final, reached⟩ := Option.isSome_iff_exists.mp ran
  have bound := free limits defaultEvictionThreshold [⟨30, "a"⟩, ⟨66, "a"⟩] final reached "a" 30
  rw [two final reached] at bound
  exact absurd bound (by decide)

end AiPlatform.RateLimit

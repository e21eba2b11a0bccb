import AiPlatform.RateLimit.Admission

set_option autoImplicit false

/- What a blocked client is told to wait. Redis rounds the rest of the window up; the in-memory
limiter truncates it, so its hint can end inside the window that blocked the client. -/
namespace AiPlatform.RateLimit

open Machine

/-- The hint leads into a later window. -/
def Reaches (limits : Limits) (now : Rat) (retryAfterSeconds : Option Int) : Prop :=
  ∃ seconds ∈ retryAfterSeconds, limits.windowIndex now < limits.windowIndex (now + seconds)

/-- The rest of the window is at most a second, or whole seconds. -/
def WholeRest (limits : Limits) (now : Rat) : Prop :=
  limits.windowSeconds - limits.elapsed now ≤ 1 ∨
    ((limits.windowSeconds - limits.elapsed now).floor : Rat) =
      limits.windowSeconds - limits.elapsed now

instance (limits : Limits) (now : Rat) (seconds : Option Int) :
    Decidable (Reaches limits now seconds) :=
  inferInstanceAs (Decidable (∃ wait ∈ seconds, _))

instance (limits : Limits) (now : Rat) : Decidable (WholeRest limits now) :=
  inferInstanceAs (Decidable (_ ∨ _))

section Hints

variable (limits : Limits) (now : Rat)

theorem rest_pos : 0 < limits.windowSeconds - limits.elapsed now := by
  have short := limits.elapsed_lt now
  linarith

/-- A later window begins when the rest of this one has passed. -/
theorem later_iff (wait : Rat) :
    limits.windowIndex now < limits.windowIndex (now + wait) ↔
      limits.windowSeconds - limits.elapsed now ≤ wait := by
  have positive := limits.windowSeconds_pos
  have index : limits.windowIndex now + 1 ≤ limits.windowIndex (now + wait) ↔
      ((limits.windowIndex now + 1 : Int) : Rat) ≤ (now + wait) / limits.windowSeconds :=
    Rat.le_floor_iff
  rw [← Int.add_one_le_iff, index, le_div_iff₀ positive]
  unfold Limits.elapsed
  push_cast
  constructor <;>
    · intro order
      linarith

/-- The in-memory hint. -/
theorem truncated_reaches :
    Reaches limits now
        (some (max (truncate (limits.windowSeconds - limits.elapsed now)) 1)) ↔
      WholeRest limits now := by
  have positive := rest_pos limits now
  unfold Reaches WholeRest
  simp only [Option.mem_def, Option.some.injEq, exists_eq_left']
  rw [later_iff, truncate_of_nonneg positive.le, Int.cast_max, le_max_iff, Int.cast_one, or_comm]
  apply or_congr_right
  have below := Rat.floor_le (limits.windowSeconds - limits.elapsed now)
  exact ⟨fun above => le_antisymm below above, fun equal => equal.ge⟩

/-- The hint of the script. -/
theorem rounded_reaches {rest : Int}
    (rounded : rest = (limits.windowSeconds - limits.elapsed now).ceil) :
    Reaches limits now (some (max (if rest < 1 then 1 else rest) 1)) := by
  refine ⟨_, rfl, (later_iff limits now _).mpr ?_⟩
  have above : limits.windowSeconds - limits.elapsed now ≤
      ((limits.windowSeconds - limits.elapsed now).ceil : Rat) := Rat.le_ceil
  have most : rest ≤ max (if rest < 1 then 1 else rest) 1 := by omega
  have cast : (rest : Rat) ≤ (max (if rest < 1 then 1 else rest) 1 : Int) := Int.cast_le.mpr most
  rw [← rounded] at above
  exact above.trans cast

theorem memory_hint (threshold : InMemoryRateLimiter.EvictionThreshold)
    (counts : InMemoryRateLimiter.Counts) (key : String)
    (blocked : (InMemoryRateLimiter.check limits threshold counts now key).1.allowed = false) :
    (InMemoryRateLimiter.check limits threshold counts now key).1.retryAfterSeconds =
      some (max (truncate (limits.windowSeconds - limits.elapsed now)) 1) := by
  have shape := check_eq limits threshold counts ⟨now, key⟩
  dsimp only at shape
  rw [shape] at blocked ⊢
  split at blocked
  · rename_i full
    rw [if_pos full]
  · exact Bool.noConfusion blocked

theorem redis_hint (keyPrefix : String) (db : RedisRateLimiter.Db) (key : String)
    (blocked : (RedisRateLimiter.check limits keyPrefix db now key).1.allowed = false) :
    Reaches limits now
      (RedisRateLimiter.check limits keyPrefix db now key).1.retryAfterSeconds := by
  have rounded := rounded_reaches limits now rfl
  unfold RedisRateLimiter.check at blocked ⊢
  rw [checkScript_eq] at blocked ⊢
  by_cases full : limits.limit ≤
      RedisRateLimiter.get now db
        (RedisRateLimiter.windowKey (keyPrefix ++ ":" ++ key) (limits.windowIndex now)) +
      limits.carried now (RedisRateLimiter.get now db
        (RedisRateLimiter.windowKey (keyPrefix ++ ":" ++ key) (limits.windowIndex now - 1)))
  · simpa [full] using rounded
  · simp [full] at blocked

end Hints

/-- Whatever the counts: the hint of the in-memory limiter leads into a later window exactly when
the rest of this one is at most a second or whole seconds; the hint of the Redis limiter always. -/
theorem retry_after_reaches (limits : Limits) (now : Rat) (key : String) :
    (∀ (threshold : InMemoryRateLimiter.EvictionThreshold) (counts : InMemoryRateLimiter.Counts),
      (InMemoryRateLimiter.check limits threshold counts now key).1.allowed = false →
      (Reaches limits now
          (InMemoryRateLimiter.check limits threshold counts now key).1.retryAfterSeconds ↔
        WholeRest limits now)) ∧
    ∀ (keyPrefix : String) (db : RedisRateLimiter.Db),
      (RedisRateLimiter.check limits keyPrefix db now key).1.allowed = false →
      Reaches limits now
        (RedisRateLimiter.check limits keyPrefix db now key).1.retryAfterSeconds := by
  constructor
  · intro threshold counts blocked
    rw [memory_hint limits now threshold counts key blocked]
    exact truncated_reaches limits now
  · intro keyPrefix db blocked
    exact redis_hint limits now keyPrefix db key blocked

/-- One request a minute: at 20 seconds 40 whole seconds are left, at 20.5 the script rounds up. -/
theorem retry_after_reaches_next :
    Reaches { limit := 1 } 20
        (InMemoryRateLimiter.check { limit := 1 } InMemoryRateLimiter.defaultEvictionThreshold
          (Table.empty.put ⟨"a", 0, 1⟩) 20 "a").1.retryAfterSeconds ∧
      Reaches { limit := 1 } (41 / 2)
        (RedisRateLimiter.check { limit := 1 } "rate-limit"
          (Table.empty.put ⟨RedisRateLimiter.windowKey "rate-limit:a" 0, 1, some 120⟩)
          (41 / 2) "a").1.retryAfterSeconds :=
  ⟨((retry_after_reaches { limit := 1 } 20 "a").1 InMemoryRateLimiter.defaultEvictionThreshold
      (Table.empty.put ⟨"a", 0, 1⟩) (by decide +kernel)).mpr (by decide +kernel),
    (retry_after_reaches { limit := 1 } (41 / 2) "a").2 "rate-limit" _ (by decide +kernel)⟩

/-- Half a second after its only request, the client is told to wait 59 seconds of the 59.5 left. -/
theorem retry_after_falls_short :
    ¬∀ (limits : Limits) (threshold : InMemoryRateLimiter.EvictionThreshold) (checks : List Check)
      (state : State), run (step limits threshold) {} checks = some state → ∀ now, state.by now →
      ∀ key, (InMemoryRateLimiter.check limits threshold state.counts now key).1.allowed = false →
        Reaches limits now
          (InMemoryRateLimiter.check limits threshold state.counts now
            key).1.retryAfterSeconds := by
  intro reaches
  let limits : Limits := { limit := 1 }
  let threshold := InMemoryRateLimiter.defaultEvictionThreshold
  let full := run (step limits threshold) {} [⟨0, "a"⟩]
  have ran : full.isSome := by decide +kernel
  have later : ∀ state ∈ full, state.by (1 / 2) := by decide +kernel
  have blocked : ∀ state ∈ full,
      (InMemoryRateLimiter.check limits threshold state.counts (1 / 2) "a").1.allowed = false := by
    decide +kernel
  have short : ∀ state ∈ full, ¬Reaches limits (1 / 2)
      (InMemoryRateLimiter.check limits threshold state.counts
        (1 / 2) "a").1.retryAfterSeconds := by
    decide +kernel
  have ⟨state, reached⟩ := Option.isSome_iff_exists.mp ran
  exact short state reached (reaches limits threshold [⟨0, "a"⟩] state reached (1 / 2)
    (later state reached) "a" (blocked state reached))

end AiPlatform.RateLimit

import AiPlatform.Lib.Trace
import AiPlatform.RateLimit.Service
import Mathlib.Tactic.Linarith

set_option autoImplicit false

/- The limiters over any traffic. Both follow a ledger that counts every admitted request by its
key and window and never forgets one: a window that a later check can still read is not evicted by
the one and has not expired in the other. -/
namespace AiPlatform.RateLimit

structure Check where
  now : Rat
  key : String
deriving DecidableEq

abbrev Ledger := String → Int → Nat

namespace Limits

variable (limits : Limits)

def windowIndex (now : Rat) : Int := (now / limits.windowSeconds).floor

def elapsed (now : Rat) : Rat := now - limits.windowIndex now * limits.windowSeconds

/-- What the previous window still counts for. -/
def carried (now : Rat) (previous : Int) : Int :=
  (previous * max (1 - limits.elapsed now / limits.windowSeconds) 0).floor

theorem windowSeconds_pos : (0 : Rat) < limits.windowSeconds :=
  Int.cast_pos.mpr limits.positiveWindow

theorem windowIndex_mono {earlier now : Rat} (order : earlier ≤ now) :
    limits.windowIndex earlier ≤ limits.windowIndex now := by
  have positive := limits.windowSeconds_pos
  exact Rat.floor_monotone (div_le_div_of_nonneg_right order positive.le)

theorem windowIndex_le (now : Rat) : limits.windowIndex now * limits.windowSeconds ≤ now := by
  have positive := limits.windowSeconds_pos
  rw [← le_div_iff₀ positive]
  exact Rat.floor_le _

theorem lt_windowIndex (now : Rat) : now < (limits.windowIndex now + 1) * limits.windowSeconds := by
  have positive := limits.windowSeconds_pos
  rw [← div_lt_iff₀ positive]
  have bound := Rat.lt_floor_add_one (now / limits.windowSeconds)
  push_cast at bound
  exact bound

end Limits

def Ledger.record (ledger : Ledger) (key : String) (windowIndex : Int) : Ledger :=
  fun other index =>
  if other = key ∧ index = windowIndex then ledger other index + 1 else ledger other index

/-- The weighted count a check is decided by. -/
def Ledger.weighted (limits : Limits) (ledger : Ledger) (check : Check) : Int :=
  ledger check.key (limits.windowIndex check.now) +
    limits.carried check.now (ledger check.key (limits.windowIndex check.now - 1))

def Ledger.check (limits : Limits) (ledger : Ledger) (check : Check) : RateLimitResult × Ledger :=
  if limits.limit ≤ ledger.weighted limits check then
    let wait := truncate (limits.windowSeconds - limits.elapsed check.now)
    ({ allowed := false, remaining := 0, retryAfterSeconds := some (max wait 1) }, ledger)
  else
    ({ allowed := true, remaining := max (limits.limit - (ledger.weighted limits check + 1)) 0 },
      ledger.record check.key (limits.windowIndex check.now))

theorem truncate_of_nonneg {value : Rat} (nonneg : 0 ≤ value) : truncate value = value.floor := by
  rw [truncate, Rat.floor_def]
  exact Int.tdiv_eq_ediv_of_nonneg (Rat.num_nonneg.mpr nonneg)

theorem truncate_carried (limits : Limits) (now : Rat) (previous : Nat) :
    truncate ((previous : Int) * max (1 - limits.elapsed now / limits.windowSeconds) 0) =
      limits.carried now previous := by
  apply truncate_of_nonneg
  have weight := le_max_right (1 - limits.elapsed now / limits.windowSeconds) 0
  exact mul_nonneg (by exact_mod_cast Nat.zero_le previous) weight

section Memory

open InMemoryRateLimiter

variable {limits : Limits} {threshold : EvictionThreshold} {counts : Counts} {ledger : Ledger}
variable {check : Check} {key : String} {now : Rat}

/-- The table shows the ledger's counts of a key in every window that can still be read. -/
def Shows (limits : Limits) (key : String) (now : Rat) (counts : Counts) (ledger : Ledger) : Prop :=
  ∀ index, limits.windowIndex now - 1 ≤ index → countOf counts key index = ledger key index

theorem Shows.later {earlier : Rat} (order : earlier ≤ now)
    (shows : Shows limits key earlier counts ledger) : Shows limits key now counts ledger := by
  intro index recent
  have mono := limits.windowIndex_mono order
  exact shows index (by omega)

theorem countOf_put (counts : Counts) (bucket : Bucket) (key : String) (index : Int) :
    countOf (counts.put bucket) key index =
      if key = bucket.key ∧ index = bucket.windowIndex then bucket.count
      else countOf counts key index := by
  unfold countOf
  rw [Table.find_put]
  by_cases same : key = bucket.key ∧ index = bucket.windowIndex
  · rw [if_pos same, if_pos (by rw [same.1, same.2]; rfl)]
    rfl
  · have apart : (key, index) ≠ bucket.index := fun named => same (Prod.mk.inj named)
    rw [if_neg same, if_neg apart]

/-- An eviction drops no window that can still be read. -/
theorem countOf_evictIfNeeded (threshold : EvictionThreshold) (counts : Counts) (key : String)
    {current index : Int} (recent : current - 1 ≤ index) :
    countOf (evictIfNeeded threshold counts current) key index = countOf counts key index := by
  unfold evictIfNeeded
  split
  · rfl
  · unfold countOf
    rw [Table.find_erase]
    cases found : counts.find (key, index) with
    | none => rfl
    | some bucket =>
        have named : bucket.index = (key, index) := (Table.find_some.mp found).2
        have window : bucket.windowIndex = index := (Prod.mk.inj named).2
        have kept : ¬bucket.windowIndex < current - 1 := by omega
        simp [Option.filter, kept]

/-- What the evicted table makes the previous window count for. -/
def tableCarried (limits : Limits) (kept : Counts) (now : Rat) (key : String) : Int :=
  truncate (countOf kept key (limits.windowIndex now - 1) *
    max (1 - limits.elapsed now / limits.windowSeconds) 0)

theorem check_eq (limits : Limits) (threshold : EvictionThreshold)
    (counts : Counts) (check : Check) :
    InMemoryRateLimiter.check limits threshold counts check.now check.key =
      let kept := evictIfNeeded threshold counts (limits.windowIndex check.now)
      let current := countOf kept check.key (limits.windowIndex check.now)
      let carried := tableCarried limits kept check.now check.key
      if limits.limit ≤ current + carried then
        (⟨false, 0, some (max (truncate (limits.windowSeconds - limits.elapsed check.now)) 1)⟩,
          kept)
      else (⟨true, max (limits.limit - (current + 1 + carried)) 0, none⟩,
        kept.put ⟨check.key, limits.windowIndex check.now, current + 1⟩) := rfl

/-- The check, with the counts it reads taken from the ledger. -/
theorem memory_check (shows : Shows limits check.key check.now counts ledger) :
    InMemoryRateLimiter.check limits threshold counts check.now check.key =
      let kept := evictIfNeeded threshold counts (limits.windowIndex check.now)
      ((ledger.check limits check).1,
        if limits.limit ≤ ledger.weighted limits check then kept
        else kept.put ⟨check.key, limits.windowIndex check.now,
          ledger check.key (limits.windowIndex check.now) + 1⟩) := by
  have recent : limits.windowIndex check.now - 1 ≤ limits.windowIndex check.now := by omega
  have current := countOf_evictIfNeeded threshold counts check.key recent
  have previous := countOf_evictIfNeeded threshold counts check.key
    (le_refl (limits.windowIndex check.now - 1))
  rw [shows _ recent] at current
  rw [shows _ le_rfl] at previous
  rw [check_eq]
  simp only [tableCarried, current, previous, truncate_carried, Ledger.check, Ledger.weighted]
  by_cases blocked : limits.limit ≤ (ledger check.key (limits.windowIndex check.now) : Int) +
      limits.carried check.now (ledger check.key (limits.windowIndex check.now - 1))
  · simp only [blocked, if_true]
  · simp only [blocked, if_false, add_right_comm]

/-- A check counts at most for its own key, in the current window. -/
theorem countOf_check (shows : Shows limits check.key check.now counts ledger) {index : Int}
    (recent : limits.windowIndex check.now - 1 ≤ index)
    (same : countOf counts key index = ledger key index) :
    countOf (InMemoryRateLimiter.check limits threshold counts check.now check.key).2 key index =
      ((ledger.check limits check).2 key index : Nat) := by
  have kept := countOf_evictIfNeeded threshold counts key recent
  rw [memory_check shows]
  unfold Ledger.check
  by_cases blocked : limits.limit ≤ ledger.weighted limits check
  · simp only [blocked, if_true]
    rw [kept, same]
  · simp only [blocked, if_false, Ledger.record]
    rw [countOf_put]
    by_cases here : key = check.key ∧ index = limits.windowIndex check.now
    · rw [if_pos here, if_pos here, here.1, here.2]
      push_cast
      rfl
    · rw [if_neg here, if_neg here, kept, same]

/-- A check of another key leaves the key's counts alone. -/
theorem countOf_check_other (threshold : EvictionThreshold) (counts : Counts)
    (other : key ≠ check.key)
    {index : Int} (recent : limits.windowIndex check.now - 1 ≤ index) :
    countOf (InMemoryRateLimiter.check limits threshold counts check.now check.key).2 key index =
      countOf counts key index := by
  have kept := countOf_evictIfNeeded threshold counts key recent
  rw [check_eq]
  dsimp only
  split
  · exact kept
  · rw [countOf_put, if_neg fun same => other same.1]
    exact kept

theorem memory_answer (shows : Shows limits check.key check.now counts ledger) :
    (InMemoryRateLimiter.check limits threshold counts check.now check.key).1 =
      (ledger.check limits check).1 := by
  rw [memory_check shows]

/-- The limiter follows the ledger on every key. -/
theorem memory_simulates (limits : Limits) (threshold : EvictionThreshold) :
    Service.Simulates
      (fun counts check => InMemoryRateLimiter.check limits threshold counts check.now check.key)
      (Ledger.check limits) Check.now (fun _ => true)
      (fun now counts ledger => ∀ key, Shows limits key now counts ledger) id id where
  later := fun order shows key => (shows key).later order
  answered := fun _ shows => memory_answer (shows _)
  matched := fun _ shows key index recent =>
    countOf_check (shows _) recent (shows key index recent)
  silent := nofun

/-- On one key the limiter follows a ledger of that key's checks alone. -/
theorem memory_isolates (limits : Limits) (threshold : EvictionThreshold) (key : String) :
    Service.Simulates
      (fun counts check => InMemoryRateLimiter.check limits threshold counts check.now check.key)
      (Ledger.check limits) Check.now (fun check => check.key = key)
      (fun now counts ledger => Shows limits key now counts ledger) id id where
  later := Shows.later
  answered := by
    intro counts ledger check own shows
    rw [← of_decide_eq_true own] at shows
    exact memory_answer shows
  matched := by
    intro counts ledger check own shows index recent
    have here := shows index recent
    rw [← of_decide_eq_true own] at shows
    exact countOf_check shows recent here
  silent := by
    intro counts ledger check other shows index recent
    have apart : key ≠ check.key := fun same => of_decide_eq_false other same.symm
    rw [countOf_check_other threshold counts apart recent]
    exact shows index recent

end Memory

section Redis

open RedisRateLimiter

variable {limits : Limits} {keyPrefix : String} {db : Db} {ledger : Ledger}
    {check : Check} {now : Rat}

/-- A readable window's key holds the ledger's count and outlives the window after it. -/
def Keeps (limits : Limits) (count : Nat) (index : Int) : Option RedisKey → Prop
  | none => count = 0
  | some stored => stored.value = count ∧
      ∃ deadline, stored.expireAt = some deadline ∧ (index + 2) * limits.windowSeconds ≤ deadline

def Mirrors (limits : Limits) (keyPrefix : String) (now : Rat) (db : Db) (ledger : Ledger) : Prop :=
  ∀ key index, limits.windowIndex now - 1 ≤ index →
    Keeps limits (ledger key index) index (db.find (windowKey (keyPrefix ++ ":" ++ key) index))

theorem Mirrors.later {earlier : Rat} (order : earlier ≤ now)
    (mirrors : Mirrors limits keyPrefix earlier db ledger) :
    Mirrors limits keyPrefix now db ledger := by
  intro key index recent
  have mono := limits.windowIndex_mono order
  exact mirrors key index (by omega)

/-- A key whose window can still be read has not expired. -/
theorem Keeps.alive {count : Nat} {index : Int} {name : String}
    (recent : limits.windowIndex now - 1 ≤ index)
    (keeps : Keeps limits count index (db.find name)) :
    RedisRateLimiter.alive now db name = db.find name := by
  unfold RedisRateLimiter.alive
  cases found : db.find name with
  | none => rfl
  | some stored =>
      rw [found] at keeps
      obtain ⟨-, deadline, expiry, reaches⟩ := keeps
      have bound := limits.lt_windowIndex now
      have positive := limits.windowSeconds_pos
      have order : ((limits.windowIndex now : Int) : Rat) + 1 ≤ index + 2 := by
        have cast : ((limits.windowIndex now - 1 : Int) : Rat) ≤ index := Int.cast_le.mpr recent
        push_cast at cast
        linarith
      have scaled := mul_le_mul_of_nonneg_right order positive.le
      have live : now < deadline := by linarith
      simp [Option.filter, expiry, live]

theorem Keeps.get {count : Nat} {index : Int} {name : String}
    (recent : limits.windowIndex now - 1 ≤ index)
    (keeps : Keeps limits count index (db.find name)) :
    RedisRateLimiter.get now db name = count := by
  unfold RedisRateLimiter.get
  rw [keeps.alive recent]
  cases found : db.find name with
  | none =>
      rw [found] at keeps
      have zero : count = 0 := keeps
      rw [zero]
      rfl
  | some stored =>
      rw [found] at keeps
      exact keeps.1

/-- `INCR` and the `EXPIRE` after it. -/
def bump (now : Rat) (db : Db) (name : String) (windowSeconds : Int) : Db :=
  let (newCurrent, counted) := incr now db name
  if newCurrent = 1 then expire now counted name (windowSeconds * 2) else counted

theorem find_incr (now : Rat) (db : Db) (name other : String) :
    (incr now db name).2.find other =
      if other = name then
        some ⟨name, (incr now db name).1, (alive now db name).bind RedisKey.expireAt⟩
      else db.find other := by
  unfold incr
  cases live : RedisRateLimiter.alive now db name with
  | none => exact Table.find_put ..
  | some stored =>
      have found := (Option.filter_eq_some_iff.mp live).1
      obtain ⟨-, rfl⟩ := Table.find_some.mp found
      exact Table.find_put ..

theorem find_expire (now : Rat) (db : Db) (name other : String) (seconds : Int) :
    (expire now db name seconds).find other =
      if other = name then (db.find other).map (RedisKey.expiring (now + seconds))
      else db.find other :=
  Table.find_modify ..

theorem find_bump_other (now : Rat) (db : Db) {name other : String} (apart : other ≠ name)
    (windowSeconds : Int) : (bump now db name windowSeconds).find other = db.find other := by
  have counted := find_incr now db name other
  rw [if_neg apart] at counted
  simp only [bump]
  split
  · rw [find_expire, if_neg apart, counted]
  · exact counted

/-- The key of a request counted now outlives the next window. -/
theorem deadline_reaches (limits : Limits) (now : Rat) :
    ((limits.windowIndex now : Int) + 2 : Rat) * limits.windowSeconds ≤
      now + (limits.windowSeconds * 2 : Int) := by
  have bound := limits.windowIndex_le now
  push_cast
  linarith

theorem Keeps.incr {count : Nat} {name : String}
    (keeps : Keeps limits count (limits.windowIndex now) (db.find name)) :
    (RedisRateLimiter.incr now db name).1 = count + 1 := by
  have live : RedisRateLimiter.alive now db name = db.find name := keeps.alive (by omega)
  unfold RedisRateLimiter.incr
  rw [live]
  cases found : db.find name with
  | none =>
      rw [found] at keeps
      have zero : count = 0 := keeps
      rw [zero]
      rfl
  | some stored =>
      rw [found] at keeps
      simp only [keeps.1]

/-- A new key is given its deadline; a counted one keeps the deadline of the window's first
request. -/
theorem Keeps.bump {count : Nat} {name : String}
    (keeps : Keeps limits count (limits.windowIndex now) (db.find name)) :
    Keeps limits (count + 1) (limits.windowIndex now)
      ((RateLimit.bump now db name limits.windowSeconds).find name) := by
  have live : RedisRateLimiter.alive now db name = db.find name := keeps.alive (by omega)
  have counted := find_incr now db name name
  rw [if_pos rfl, keeps.incr, live] at counted
  simp only [RateLimit.bump]
  split
  · rw [find_expire, if_pos rfl, counted]
    exact ⟨rfl, _, rfl, deadline_reaches limits now⟩
  · rename_i later
    rw [keeps.incr] at later
    rw [counted]
    cases found : db.find name with
    | none =>
        rw [found] at keeps
        have zero : count = 0 := keeps
        rw [zero] at later
        exact absurd rfl later
    | some stored =>
        rw [found] at keeps
        obtain ⟨-, deadline, expiry, reaches⟩ := keeps
        exact ⟨rfl, deadline, expiry, reaches⟩

theorem weight_eq (fading : Rat) : (if fading < 0 then 0 else fading) = max fading 0 := by
  split
  · rename_i negative
    exact (max_eq_right negative.le).symm
  · rename_i nonneg
    exact (max_eq_left (not_lt.mp nonneg)).symm

theorem checkScript_eq (limits : Limits) (baseKey : String) (now : Rat) (db : Db) :
    checkScript baseKey limits.windowSeconds limits.limit now db =
      let currentKey := windowKey baseKey (limits.windowIndex now)
      let carried := limits.carried now
        (RedisRateLimiter.get now db (windowKey baseKey (limits.windowIndex now - 1)))
      let rest := (limits.windowSeconds - limits.elapsed now).ceil
      let retryAfter := if rest < 1 then 1 else rest
      if limits.limit ≤ RedisRateLimiter.get now db currentKey + carried then
        ((RedisRateLimiter.get now db currentKey + carried, retryAfter, 0), db)
      else (((RedisRateLimiter.incr now db currentKey).1 + carried, retryAfter, 1),
        bump now db currentKey limits.windowSeconds) := by
  simp only [checkScript, weight_eq]
  rfl

/-- The check, with the counts it reads taken from the ledger. -/
theorem redis_check (mirrors : Mirrors limits keyPrefix check.now db ledger) :
    let answer := RedisRateLimiter.check limits keyPrefix db check.now check.key
    (answer.1.allowed, answer.1.remaining) =
        ((ledger.check limits check).1.allowed, (ledger.check limits check).1.remaining) ∧
      answer.2 = if limits.limit ≤ ledger.weighted limits check then db
        else bump check.now db
          (windowKey (keyPrefix ++ ":" ++ check.key) (limits.windowIndex check.now))
          limits.windowSeconds := by
  have recent : limits.windowIndex check.now - 1 ≤ limits.windowIndex check.now := by omega
  have current := (mirrors check.key _ recent).get recent
  have previous := (mirrors check.key _ le_rfl).get le_rfl
  have counted := (mirrors check.key _ recent).incr
  simp only [RedisRateLimiter.check, checkScript_eq, current, previous, counted, Ledger.check,
    Ledger.weighted]
  by_cases blocked : limits.limit ≤ (ledger check.key (limits.windowIndex check.now) : Int) +
      limits.carried check.now (ledger check.key (limits.windowIndex check.now - 1))
  · simp [blocked]
  · simp [blocked, add_right_comm]

theorem redis_simulates (limits : Limits) (keyPrefix : String) :
    Service.Simulates
      (fun db check => RedisRateLimiter.check limits keyPrefix db check.now check.key)
      (Ledger.check limits) Check.now (fun _ => true) (Mirrors limits keyPrefix)
      (fun result => (result.allowed, result.remaining))
      (fun result => (result.allowed, result.remaining)) where
  later := Mirrors.later
  answered := fun _ mirrors => (redis_check mirrors).1
  matched := by
    intro db ledger check _ mirrors key index recent
    rw [(redis_check mirrors).2]
    unfold Ledger.check
    split
    · exact mirrors key index recent
    · simp only [Ledger.record]
      split
      · rename_i here
        rw [here.1, here.2]
        exact (mirrors check.key _ (by omega)).bump
      · rename_i elsewhere
        rw [find_bump_other]
        · exact mirrors key index recent
        · intro same
          have parts := Keys.numbered_inj same
          exact elsewhere ⟨String.append_right_inj _ |>.mp parts.1, parts.2⟩
  silent := nofun

end Redis

section Runs

/-- The results of a run of checks, from an empty table. -/
def memoryResults (limits : Limits) (threshold : InMemoryRateLimiter.EvictionThreshold)
    (checks : List Check) : List (Check × RateLimitResult) :=
  Service.trace
    (fun counts check => InMemoryRateLimiter.check limits threshold counts check.now check.key)
    Table.empty checks

/-- The results of a run of checks, from an empty database. -/
def redisResults (limits : Limits) (keyPrefix : String) (checks : List Check) :
    List (Check × RateLimitResult) :=
  Service.trace (fun db check => RedisRateLimiter.check limits keyPrefix db check.now check.key)
    Table.empty checks

/-- What the limiters have to agree on: the wait they advise is rounded differently. -/
def verdict (entry : Check × RateLimitResult) : Check × Bool × Int :=
  (entry.1, entry.2.allowed, entry.2.remaining)

/-- A clock that does not go back. -/
def Ordered (checks : List Check) : Prop := (checks.map Check.now).Pairwise (· ≤ ·)

instance (checks : List Check) : Decidable (Ordered checks) :=
  inferInstanceAs (Decidable ((checks.map Check.now).Pairwise (· ≤ ·)))

theorem shows_empty (limits : Limits) (key : String) (now : Rat) :
    Shows limits key now Table.empty fun _ _ => 0 := fun _ _ => rfl

theorem memoryResults_eq (limits : Limits) (threshold : InMemoryRateLimiter.EvictionThreshold)
    {checks : List Check} (ordered : Ordered checks) :
    memoryResults limits threshold checks =
      Service.trace (Ledger.check limits) (fun _ _ => 0) checks := by
  have equal := (memory_simulates limits threshold).trace_eq ordered
    fun check _ key => shows_empty limits key check.now
  simpa [memoryResults] using equal

/-- On a shared clock the two limiters admit the same requests and leave the same remainder. -/
theorem limiters_agree (limits : Limits) (threshold : InMemoryRateLimiter.EvictionThreshold)
    (keyPrefix : String) {checks : List Check} (ordered : Ordered checks) :
    (memoryResults limits threshold checks).map verdict =
      (redisResults limits keyPrefix checks).map verdict := by
  have start : ∀ check ∈ checks, Mirrors limits keyPrefix check.now Table.empty fun _ _ => 0 :=
    fun _ _ _ _ _ => rfl
  have equal := (redis_simulates limits keyPrefix).trace_eq ordered start
  rw [List.filter_true, List.filter_true] at equal
  rw [memoryResults_eq limits threshold ordered]
  exact equal.symm

/-- Two requests a minute: the third is refused, the next window starts with a weight, and an idle
gap clears it. -/
def boundary : List Check :=
  [⟨0, "a"⟩, ⟨1, "a"⟩, ⟨2, "b"⟩, ⟨59, "a"⟩, ⟨61, "a"⟩, ⟨119, "a"⟩, ⟨119, "a"⟩, ⟨500, "a"⟩]

theorem limiters_agree_boundary :
    Ordered boundary ∧
      (memoryResults { limit := 2 } ⟨1, by decide⟩ boundary).map verdict =
        (redisResults { limit := 2 } "rate-limit" boundary).map verdict ∧
      (memoryResults { limit := 2 } ⟨1, by decide⟩ boundary).map (fun entry => entry.2.allowed) =
        [true, true, true, false, true, true, false, true] :=
  ⟨by decide +kernel, limiters_agree { limit := 2 } ⟨1, by decide⟩ "rate-limit" (by decide +kernel),
    by decide +kernel⟩

/-- A key's results are those of its own checks, whatever the other keys do and whenever the table
is swept. -/
theorem rate_limit_isolation (limits : Limits)
    (first second : InMemoryRateLimiter.EvictionThreshold) (key : String) {left right : List Check}
    (leftOrdered : Ordered left) (rightOrdered : Ordered right)
    (same : left.filter (fun check => check.key = key) =
      right.filter fun check => check.key = key) :
    (memoryResults limits first left).filter (fun entry => entry.1.key = key) =
      (memoryResults limits second right).filter fun entry => entry.1.key = key := by
  have isolated : ∀ (threshold : InMemoryRateLimiter.EvictionThreshold) (checks : List Check),
      Ordered checks →
        (memoryResults limits threshold checks).filter (fun entry => entry.1.key = key) =
        Service.trace (Ledger.check limits) (fun _ _ => 0)
          (checks.filter fun check => check.key = key) := by
    intro threshold checks ordered
    have equal := (memory_isolates limits threshold key).trace_eq ordered
      fun check _ => shows_empty limits key check.now
    simpa [memoryResults] using equal
  rw [isolated first left leftOrdered, isolated second right rightOrdered, same]

theorem rate_limit_isolation_sweep :
    (memoryResults { limit := 1 } ⟨1, by decide⟩
        [⟨0, "a"⟩, ⟨0, "b"⟩, ⟨60, "c"⟩, ⟨70, "a"⟩, ⟨120, "a"⟩]).filter
          (fun entry => entry.1.key = "a") =
      (memoryResults { limit := 1 } InMemoryRateLimiter.defaultEvictionThreshold
        [⟨0, "a"⟩, ⟨70, "a"⟩, ⟨90, "b"⟩, ⟨120, "a"⟩]).filter fun entry => entry.1.key = "a" :=
  rate_limit_isolation { limit := 1 } ⟨1, by decide⟩
    InMemoryRateLimiter.defaultEvictionThreshold "a"
    (by decide +kernel) (by decide +kernel) (by decide +kernel)

end Runs

end AiPlatform.RateLimit

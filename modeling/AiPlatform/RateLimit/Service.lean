import AiPlatform.Lib.Keys
import AiPlatform.Lib.Table
import Mathlib.Data.Rat.Floor

set_option autoImplicit false

/- The sliding-window rate limiters. Times are exact seconds, read inside the check; Lua's numbers
are exact too, so a window index is written with all its digits. -/
namespace AiPlatform.RateLimit

/-- What both constructors check. -/
structure Limits where
  limit : Int
  windowSeconds : Int := 60
  positiveLimit : 0 < limit := by decide
  positiveWindow : 0 < windowSeconds := by decide

structure RateLimitResult where
  allowed : Bool
  remaining : Int
  retryAfterSeconds : Option Int := none
deriving DecidableEq, Repr

/-- Python's `int`: towards zero. -/
def truncate (value : Rat) : Int := value.num.tdiv value.den

namespace InMemoryRateLimiter

structure Bucket where
  key : String
  windowIndex : Int
  count : Int
deriving DecidableEq

def Bucket.index (bucket : Bucket) : String × Int := (bucket.key, bucket.windowIndex)

abbrev Counts := Table Bucket.index

/-- `eviction_threshold`, positive by the constructor's check. -/
abbrev EvictionThreshold := { threshold : Int // 0 < threshold }

def defaultEvictionThreshold : EvictionThreshold := ⟨10000, by decide⟩

/-- `_counts.get((key, window_index), 0)`. -/
def countOf (counts : Counts) (key : String) (windowIndex : Int) : Int :=
  ((counts.find (key, windowIndex)).map Bucket.count).getD 0

def evictIfNeeded (evictionThreshold : EvictionThreshold) (counts : Counts)
    (currentWindowIndex : Int) : Counts :=
  if (counts.rows.length : Int) < evictionThreshold.1 then counts
  else
    let staleThreshold := currentWindowIndex - 1
    counts.erase fun bucket => bucket.windowIndex < staleThreshold

def check (limits : Limits) (evictionThreshold : EvictionThreshold) (counts : Counts) (now : Rat)
    (key : String) : RateLimitResult × Counts :=
  let windowIndex := (now / limits.windowSeconds).floor
  let elapsed := now - windowIndex * limits.windowSeconds
  let previousWeight := max (1 - elapsed / limits.windowSeconds) 0
  let kept := evictIfNeeded evictionThreshold counts windowIndex
  let current := countOf kept key windowIndex
  let previous := countOf kept key (windowIndex - 1)
  let weighted := current + truncate (previous * previousWeight)
  if limits.limit ≤ weighted then
    ({ allowed := false
       remaining := 0
       retryAfterSeconds := some (max (truncate (limits.windowSeconds - elapsed)) 1) }, kept)
  else
    let weightedAfter := (current + 1) + truncate (previous * previousWeight)
    ({ allowed := true, remaining := max (limits.limit - weightedAfter) 0 },
      kept.put ⟨key, windowIndex, current + 1⟩)

end InMemoryRateLimiter

namespace RedisRateLimiter

/-- A Redis key with its integer value and, once `EXPIRE` has set it, its deadline. -/
structure RedisKey where
  name : String
  value : Int
  expireAt : Option Rat
deriving DecidableEq

abbrev Db := Table RedisKey.name

/-- A key is gone at its deadline. -/
def alive (now : Rat) (db : Db) (name : String) : Option RedisKey :=
  (db.find name).filter fun stored => stored.expireAt.all fun deadline => now < deadline

/-- `tonumber(redis.call('GET', name) or '0')`. -/
def get (now : Rat) (db : Db) (name : String) : Int :=
  ((alive now db name).map RedisKey.value).getD 0

/-- `INCR` keeps the deadline of a live key; a new key has none. -/
def incr (now : Rat) (db : Db) (name : String) : Int × Db :=
  match alive now db name with
  | none => (1, db.put ⟨name, 1, none⟩)
  | some stored => (stored.value + 1, db.put { stored with value := stored.value + 1 })

def RedisKey.expiring (deadline : Rat) (stored : RedisKey) : RedisKey :=
  { stored with expireAt := some deadline }

theorem RedisKey.expiring_name (deadline : Rat) (stored : RedisKey) :
    (stored.expiring deadline).name = stored.name := rfl

def expire (now : Rat) (db : Db) (name : String) (seconds : Int) : Db :=
  db.modify name (RedisKey.expiring (now + seconds)) (RedisKey.expiring_name _)

/-- `base_key .. ':' .. window_index`. -/
def windowKey (baseKey : String) (windowIndex : Int) : String :=
  baseKey ++ ":" ++ windowIndex.repr

/-- `_CHECK_SCRIPT`: the weighted count, the seconds to wait and whether the request passes. -/
def checkScript (baseKey : String) (windowSeconds limit : Int) (now : Rat) (db : Db) :
    (Int × Int × Int) × Db :=
  let windowIndex := (now / windowSeconds).floor
  let elapsed := now - windowIndex * windowSeconds
  let currentKey := windowKey baseKey windowIndex
  let previousKey := windowKey baseKey (windowIndex - 1)
  let current := get now db currentKey
  let previous := get now db previousKey
  let fading := 1 - elapsed / windowSeconds
  let previousWeight := if fading < 0 then 0 else fading
  let weighted := current + (previous * previousWeight).floor
  let rest := (windowSeconds - elapsed).ceil
  let retryAfter := if rest < 1 then 1 else rest
  if limit ≤ weighted then ((weighted, retryAfter, 0), db)
  else
    let (newCurrent, counted) := incr now db currentKey
    let saved :=
      if newCurrent = 1 then expire now counted currentKey (windowSeconds * 2) else counted
    let weightedAfter := newCurrent + (previous * previousWeight).floor
    ((weightedAfter, retryAfter, 1), saved)

def check (limits : Limits) (keyPrefix : String) (db : Db) (now : Rat) (key : String) :
    RateLimitResult × Db :=
  let ((weighted, retryAfter, passed), saved) :=
    checkScript (keyPrefix ++ ":" ++ key) limits.windowSeconds limits.limit now db
  let allowed := passed != 0
  if allowed = false then
    ({ allowed := false, remaining := 0, retryAfterSeconds := some (max retryAfter 1) }, saved)
  else ({ allowed := true, remaining := max (limits.limit - weighted) 0 }, saved)

end RedisRateLimiter

end AiPlatform.RateLimit

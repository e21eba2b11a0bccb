import Mathlib.Algebra.Order.Field.Rat
import Mathlib.Algebra.Order.Floor.Ring
import Mathlib.Data.Rat.Floor
import AiPlatform.Lib.Table

set_option autoImplicit false

/- The cache gateways. Instants are milliseconds, so a duration of `ttl` seconds is `ttl * 1000`
of them. A call has one instant. -/
namespace AiPlatform.Cache

/-- What both constructors check. -/
structure Config where
  keyPrefix : String := "app"
  defaultTtlSeconds : Rat := 300
  positiveDefault : 0 < defaultTtlSeconds := by decide

inductive CacheError where
  | valueError (message : String)
  | runtimeError (message : String)
  | unicodeDecodeError
deriving DecidableEq

/-- The one of Lean's core, and no other that an import may bring. -/
local instance decidableEqBytes : DecidableEq ByteArray := ByteArray.instDecidableEq

structure Entry where
  name : String
  value : ByteArray
  expiresAt : Rat
deriving DecidableEq

abbrev Entries := Table Entry.name

def Entry.elapsed (entry : Entry) (now : Int) : Bool := entry.expiresAt ≤ now

/-- A dictionary from keys to values, in insertion order. -/
abbrev Dict := Table (Prod.fst : String × ByteArray → String)

def ttlNotPositive : CacheError := .valueError "ttl_seconds must be positive"

/-- `_key` of both gateways. -/
def Config.key (config : Config) (key : String) : String := config.keyPrefix ++ ":" ++ key

/-- The duration both `_resolve_ttl` and `_resolve_ttl_ms` check. -/
def Config.ttl (config : Config) (ttlSeconds : Option Rat) : Rat :=
  ttlSeconds.getD config.defaultTtlSeconds

inductive Operation where
  | get (key : String)
  | set (key : String) (value : ByteArray) (ttlSeconds : Option Rat)
  | delete (key : String)
  | exists_ (key : String)
  | getMany (keys : List String)
  | setMany (items : Dict) (ttlSeconds : Option Rat)
  | deleteMany (keys : List String)

inductive Answer where
  | value (found : Option ByteArray)
  | none_
  | flag (answer : Bool)
  | values (found : Dict)
  | count (removed : Nat)
  | raised (error : CacheError)
deriving DecidableEq

namespace MemoryCacheGateway

structure Gateway where
  values : Entries := Table.empty
  closed : Bool := false

variable (config : Config) (now : Int)

def ensureOpen (gateway : Gateway) : Except CacheError Unit :=
  if gateway.closed then .error (.runtimeError "cache is closed") else .ok ()

def resolveTtl (ttlSeconds : Option Rat) : Except CacheError Rat :=
  let ttl := config.ttl ttlSeconds
  if ttl ≤ 0 then .error ttlNotPositive else .ok ttl

/-- `_read` drops an entry it finds elapsed. -/
def read (values : Entries) (name : String) : Option ByteArray × Entries :=
  match values.find name with
  | none => (none, values)
  | some stored =>
      if stored.elapsed now then (none, values.remove name) else (some stored.value, values)

/-- `_values.pop(name, None) is not None`. -/
def pop (values : Entries) (name : String) : Bool × Entries :=
  ((values.find name).isSome, values.remove name)

def getMany (values : Entries) (result : Dict) : List String → Dict × Entries
  | [] => (result, values)
  | key :: rest =>
      let (value, kept) := read now values (config.key key)
      match value with
      | none => getMany kept result rest
      | some value => getMany kept (result.put (key, value)) rest

def setMany (expiresAt : Rat) (values : Entries) (items : List (String × ByteArray)) : Entries :=
  items.foldl (fun kept item => kept.put ⟨config.key item.1, item.2, expiresAt⟩) values

def deleteMany (values : Entries) (removed : Nat) : List String → Nat × Entries
  | [] => (removed, values)
  | key :: rest =>
      let (existed, kept) := pop values (config.key key)
      deleteMany kept (if existed then removed + 1 else removed) rest

def performOpen (values : Entries) : Operation → Except CacheError (Answer × Entries)
  | .get key =>
      let (value, kept) := read now values (config.key key)
      .ok (.value value, kept)
  | .set key value ttlSeconds => do
      let ttl ← resolveTtl config ttlSeconds
      return (.none_, values.put ⟨config.key key, value, now + ttl * 1000⟩)
  | .delete key =>
      let (existed, kept) := pop values (config.key key)
      .ok (.flag existed, kept)
  | .exists_ key =>
      let (value, kept) := read now values (config.key key)
      .ok (.flag value.isSome, kept)
  | .getMany keys =>
      let (found, kept) := getMany config now values Table.empty keys
      .ok (.values found, kept)
  | .setMany items ttlSeconds => do
      let ttl ← resolveTtl config ttlSeconds
      return (.none_, setMany config (now + ttl * 1000) values items.rows)
  | .deleteMany keys =>
      let (removed, kept) := deleteMany config values 0 keys
      .ok (.count removed, kept)

/-- Every operation starts with `_ensure_open`. -/
def perform (gateway : Gateway) (operation : Operation) : Answer × Gateway :=
  match ensureOpen gateway with
  | .error error => (.raised error, gateway)
  | .ok _ =>
      match performOpen config now gateway.values operation with
      | .error error => (.raised error, gateway)
      | .ok (answer, values) => (answer, { gateway with values := values })

def close (_ : Gateway) : Gateway := { values := Table.empty, closed := true }

end MemoryCacheGateway

namespace RedisCacheGateway

/-- A value as the client hands it out: a client built with `decode_responses` decodes it. -/
inductive Reply where
  | bytes (value : ByteArray)
  | str (value : String)

variable (decodeResponses : Bool) (config : Config) (now : Int)

def reply (raw : ByteArray) : Except CacheError Reply :=
  if decodeResponses then
    match String.fromUTF8? raw with
    | none => .error .unicodeDecodeError
    | some text => .ok (.str text)
  else .ok (.bytes raw)

def coerceBytes : Option Reply → Option ByteArray
  | none => none
  | some (.bytes value) => some value
  | some (.str text) => some text.toUTF8

def resolveTtlMs (ttlSeconds : Option Rat) : Except CacheError Int :=
  let ttl := config.ttl ttlSeconds
  if ttl ≤ 0 then .error ttlNotPositive else .ok (max (ttl * 1000).ceil 1)

/-- A key is gone at its deadline. -/
def alive (db : Entries) (name : String) : Option Entry :=
  (db.find name).filter fun stored => !stored.elapsed now

/-- `GET`. -/
def get (db : Entries) (name : String) : Except CacheError (Option Reply) :=
  match alive now db name with
  | none => .ok none
  | some stored => (reply decodeResponses stored.value).map some

/-- `SET name value PX ttlMs`. -/
def set (db : Entries) (name : String) (value : ByteArray) (ttlMs : Int) : Entries :=
  db.put ⟨name, value, (now + ttlMs : Int)⟩

/-- `DEL`: the number of live keys removed. -/
def del (db : Entries) (removed : Nat) : List String → Nat × Entries
  | [] => (removed, db)
  | name :: rest =>
      del (db.remove name) (if (alive now db name).isSome then removed + 1 else removed) rest

/-- The dictionary of `get_many`. -/
def collect (result : Dict) : List (String × Option Reply) → Dict
  | [] => result
  | (key, raw) :: rest =>
      match coerceBytes raw with
      | none => collect result rest
      | some value => collect (result.put (key, value)) rest

def performOpen (db : Entries) : Operation → Except CacheError (Answer × Entries)
  | .get key => do
      let raw ← get decodeResponses now db (config.key key)
      return (.value (coerceBytes raw), db)
  | .set key value ttlSeconds => do
      let ttlMs ← resolveTtlMs config ttlSeconds
      return (.none_, set now db (config.key key) value ttlMs)
  | .delete key =>
      let (removed, kept) := del now db 0 [config.key key]
      .ok (.flag (removed != 0), kept)
  | .exists_ key => .ok (.flag (alive now db (config.key key)).isSome, db)
  | .getMany keys =>
      if keys.isEmpty then .ok (.values Table.empty, db)
      else do
        let rawValues ← (keys.map config.key).mapM (get decodeResponses now db)
        return (.values (collect Table.empty (keys.zip rawValues)), db)
  | .setMany items ttlSeconds =>
      if items.rows.isEmpty then .ok (.none_, db)
      else do
        let ttlMs ← resolveTtlMs config ttlSeconds
        return (.none_, items.rows.foldl
          (fun kept item => set now kept (config.key item.1) item.2 ttlMs) db)
  | .deleteMany keys =>
      if keys.isEmpty then .ok (.count 0, db)
      else
        let (removed, kept) := del now db 0 (keys.map config.key)
        .ok (.count removed, kept)

def perform (db : Entries) (operation : Operation) : Answer × Entries :=
  match performOpen decodeResponses config now db operation with
  | .error error => (.raised error, db)
  | .ok (answer, kept) => (answer, kept)

end RedisCacheGateway

end AiPlatform.Cache

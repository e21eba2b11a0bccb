import Mathlib.Tactic.Linarith
import AiPlatform.Cache.Gateways
import AiPlatform.Lib.Trace

set_option autoImplicit false

/- The gateways side by side. The memory gateway may still store entries that have elapsed; the live
entries are the same on both sides after every call. -/
namespace AiPlatform.Cache

open RedisCacheGateway (alive coerceBytes reply)

variable {decodeResponses : Bool} {config : Config} {now : Int} {values db : Entries}

/-- Both sides hold the same live entries. -/
def Agree (now : Int) (values db : Entries) : Prop :=
  ∀ name, alive now values name = alive now db name

/-- An entry that has elapsed and is still stored. -/
def stale (now : Int) (values : Entries) (name : String) : Bool :=
  (values.find name).any fun stored => stored.elapsed now

theorem elapsed_later {earlier : Int} (order : earlier ≤ now) {entry : Entry}
    (gone : entry.elapsed earlier = true) : entry.elapsed now = true := by
  simp only [Entry.elapsed, decide_eq_true_eq] at gone ⊢
  have cast : (earlier : Rat) ≤ now := Int.cast_le.mpr order
  linarith

theorem alive_later {earlier : Int} (order : earlier ≤ now) (entries : Entries) (name : String) :
    alive now entries name = (alive earlier entries name).filter fun entry =>
      !entry.elapsed now := by
  unfold alive
  cases found : entries.find name with
  | none => rfl
  | some entry =>
      cases gone : entry.elapsed earlier with
      | true => simp [Option.filter, gone, elapsed_later order gone]
      | false => simp [Option.filter, gone]

theorem Agree.later {earlier : Int} (order : earlier ≤ now) (agree : Agree earlier values db) :
    Agree now values db := by
  intro name
  rw [alive_later order values, alive_later order db, agree name]

theorem alive_put (entries : Entries) (entry : Entry) (name : String) :
    alive now (entries.put entry) name =
      if name = entry.name then (some entry).filter (fun entry => !entry.elapsed now)
      else alive now entries name := by
  unfold alive
  rw [Table.find_put]
  split
  · rfl
  · rfl

theorem alive_remove (entries : Entries) (removed name : String) :
    alive now (entries.remove removed) name =
      if name = removed then none else alive now entries name := by
  unfold alive
  rw [Table.find_remove]
  split
  · rfl
  · rfl

theorem Agree.put (agree : Agree now values db) (entry : Entry) :
    Agree now (values.put entry) (db.put entry) := by
  intro name
  rw [alive_put, alive_put, agree name]

theorem Agree.remove (agree : Agree now values db) (name : String) :
    Agree now (values.remove name) (db.remove name) := by
  intro other
  rw [alive_remove, alive_remove, agree other]

/-- A stored entry is live or stale. -/
theorem find_isSome (now : Int) (values : Entries) (name : String) :
    (values.find name).isSome = ((alive now values name).isSome || stale now values name) := by
  unfold alive stale
  cases found : values.find name with
  | none => rfl
  | some entry => cases gone : entry.elapsed now <;> simp [Option.filter, gone]

theorem alive_of_stale {name : String} (old : stale now values name = true) :
    alive now values name = none := by
  unfold stale at old
  unfold alive
  cases found : values.find name with
  | none => rfl
  | some entry =>
      rw [found] at old
      have gone : entry.elapsed now = true := old
      simp [Option.filter, gone]

theorem stale_remove (values : Entries) (removed name : String) :
    stale now (values.remove removed) name =
      (decide (name ≠ removed) && stale now values name) := by
  unfold stale
  rw [Table.find_remove]
  by_cases same : name = removed <;> simp [same]

section Memory

open MemoryCacheGateway

theorem read_value (now : Int) (values : Entries) (name : String) :
    (read now values name).1 = (alive now values name).map Entry.value := by
  unfold MemoryCacheGateway.read alive
  cases found : values.find name with
  | none => rfl
  | some entry => cases gone : entry.elapsed now <;> simp [Option.filter, gone]

/-- A read drops only what has elapsed. -/
theorem read_alive (values : Entries) (name other : String) :
    alive now (read now values name).2 other = alive now values other := by
  unfold MemoryCacheGateway.read
  cases found : values.find name with
  | none => rfl
  | some entry =>
      cases gone : entry.elapsed now with
      | false => simp [gone]
      | true =>
          simp only [gone, if_true]
          rw [alive_remove]
          split
          · rename_i same
            rw [same, alive_of_stale]
            simp [stale, found, gone]
          · rfl

/-- What a bulk read adds to its result for one key. -/
def pick (config : Config) (now : Int) (entries : Entries) (result : Dict) (key : String) : Dict :=
  match alive now entries (config.key key) with
  | none => result
  | some entry => result.put (key, entry.value)

theorem getMany_spec (config : Config) (now : Int) (keys : List String)
    (values : Entries) (result : Dict) :
    (getMany config now values result keys).1 = keys.foldl (pick config now values) result ∧
      ∀ name, alive now (getMany config now values result keys).2 name = alive now values name := by
  induction keys generalizing values result with
  | nil => exact ⟨rfl, fun _ => rfl⟩
  | cons key rest ih =>
      have same :
          pick config now (read now values (config.key key)).2 = pick config now values := by
        funext result key
        simp only [pick, read_alive]
      have value := read_value now values (config.key key)
      simp only [getMany, List.foldl_cons]
      cases live : alive now values (config.key key) with
      | none =>
          rw [live, Option.map_none] at value
          simp only [value, pick, live]
          have tail := ih (read now values (config.key key)).2 result
          rw [same] at tail
          exact ⟨tail.1, fun name => (tail.2 name).trans (read_alive values _ name)⟩
      | some entry =>
          rw [live, Option.map_some] at value
          simp only [value, pick, live]
          have tail := ih (read now values (config.key key)).2 (result.put (key, entry.value))
          rw [same] at tail
          exact ⟨tail.1, fun name => (tail.2 name).trans (read_alive values _ name)⟩

end Memory

section Redis

open RedisCacheGateway

/-- The client can hand the entry's value out. -/
def Decodes (decodeResponses : Bool) (entry : Entry) : Prop :=
  decodeResponses = true → (String.fromUTF8? entry.value).isSome = true

instance (entry : Entry) : Decidable (Decodes decodeResponses entry) :=
  inferInstanceAs (Decidable (_ → _))

/-- The value under the name can be handed out, if it is there. -/
def Readable (decodeResponses : Bool) (now : Int) (entries : Entries) (name : String) : Prop :=
  ∀ entry ∈ alive now entries name, Decodes decodeResponses entry

instance (name : String) : Decidable (Readable decodeResponses now values name) :=
  inferInstanceAs (Decidable (∀ entry ∈ alive now values name, _))

theorem reply_decodes {entry : Entry} (decodes : Decodes decodeResponses entry) :
    ∃ raw, reply decodeResponses entry.value = .ok raw ∧
      coerceBytes (some raw) = some entry.value := by
  unfold reply
  cases decodeResponses with
  | false => exact ⟨.bytes entry.value, rfl, rfl⟩
  | true =>
      have valid := decodes rfl
      cases decoded : String.fromUTF8? entry.value with
      | none =>
          rw [decoded] at valid
          cases valid
      | some text =>
          refine ⟨.str text, rfl, ?_⟩
          unfold String.fromUTF8? at decoded
          split at decoded
          · obtain rfl := Option.some.inj decoded
            rfl
          · cases decoded

theorem reply_fails {entry : Entry} (fails : ¬Decodes decodeResponses entry) :
    reply decodeResponses entry.value = .error .unicodeDecodeError := by
  unfold reply
  cases decodeResponses with
  | false => exact absurd nofun fails
  | true =>
      cases decoded : String.fromUTF8? entry.value with
      | none => rfl
      | some text => exact absurd (fun _ => by rw [decoded]; rfl) fails

theorem get_readable {name : String} (readable : Readable decodeResponses now db name) :
    ∃ raw, get decodeResponses now db name = .ok raw ∧
      coerceBytes raw = (alive now db name).map Entry.value := by
  unfold RedisCacheGateway.get
  cases live : alive now db name with
  | none => exact ⟨none, rfl, rfl⟩
  | some entry =>
      obtain ⟨raw, replied, coerced⟩ := reply_decodes (readable entry live)
      exact ⟨some raw, by simp only [replied]; rfl, coerced⟩

theorem get_unreadable {name : String} (unreadable : ¬Readable decodeResponses now db name) :
    get decodeResponses now db name = .error .unicodeDecodeError := by
  unfold Readable at unreadable
  push Not at unreadable
  obtain ⟨entry, live, fails⟩ := unreadable
  unfold RedisCacheGateway.get
  rw [Option.mem_def.mp live]
  simp only [reply_fails fails]
  rfl

theorem mget_readable {keys : List String} (result : Dict)
    (readable : ∀ key ∈ keys, Readable decodeResponses now db (config.key key)) :
    ∃ rawValues, (keys.map config.key).mapM (get decodeResponses now db) = .ok rawValues ∧
      collect result (keys.zip rawValues) = keys.foldl (pick config now db) result := by
  induction keys generalizing result with
  | nil => exact ⟨[], rfl, rfl⟩
  | cons key rest ih =>
      obtain ⟨raw, answered, coerced⟩ := get_readable (readable key List.mem_cons_self)
      obtain ⟨rawValues, rest_answered, collected⟩ := ih (pick config now db result key)
        fun other member => readable other (List.mem_cons_of_mem _ member)
      refine ⟨raw :: rawValues, ?_, ?_⟩
      · rw [List.map_cons, List.mapM_cons, answered, rest_answered]
        rfl
      · rw [List.zip_cons_cons, List.foldl_cons, ← collected]
        simp only [collect, coerced, pick]
        cases alive now db (config.key key) <;> rfl

theorem mget_unreadable {keys : List String}
    (unreadable : ¬∀ key ∈ keys, Readable decodeResponses now db (config.key key)) :
    (keys.map config.key).mapM (get decodeResponses now db) = .error .unicodeDecodeError := by
  induction keys with
  | nil => exact absurd nofun unreadable
  | cons key rest ih =>
      rw [List.map_cons, List.mapM_cons]
      by_cases here : Readable decodeResponses now db (config.key key)
      · obtain ⟨raw, answered, -⟩ := get_readable here
        have later : ¬∀ key ∈ rest, Readable decodeResponses now db (config.key key) := by
          intro all
          apply unreadable
          intro other member
          rcases List.mem_cons.mp member with rfl | member
          · exact here
          · exact all other member
        rw [answered, ih later]
        rfl
      · rw [get_unreadable here]
        rfl

end Redis

section Calls

/-- A duration of whole milliseconds. -/
def WholeMilliseconds (ttl : Rat) : Prop := ((ttl * 1000).ceil : Rat) = ttl * 1000

instance (ttl : Rat) : Decidable (WholeMilliseconds ttl) :=
  inferInstanceAs (Decidable (((ttl * 1000).ceil : Rat) = ttl * 1000))

/-- The inputs compared: whole milliseconds, and no empty `set_many`. -/
def Operation.Valid (config : Config) : Operation → Prop
  | .set _ _ ttlSeconds => WholeMilliseconds (config.ttl ttlSeconds)
  | .setMany items ttlSeconds => items.rows ≠ [] ∧ WholeMilliseconds (config.ttl ttlSeconds)
  | .get _ => True
  | .delete _ => True
  | .exists_ _ => True
  | .getMany _ => True
  | .deleteMany _ => True

instance (config : Config) : DecidablePred (Operation.Valid config)
  | .set _ _ ttlSeconds => inferInstanceAs (Decidable (WholeMilliseconds (config.ttl ttlSeconds)))
  | .setMany items ttlSeconds =>
      inferInstanceAs (Decidable (items.rows ≠ [] ∧ WholeMilliseconds (config.ttl ttlSeconds)))
  | .get _ => .isTrue trivial
  | .delete _ => .isTrue trivial
  | .exists_ _ => .isTrue trivial
  | .getMany _ => .isTrue trivial
  | .deleteMany _ => .isTrue trivial

/-- No key deleted is elapsed and still stored, and no live value read is beyond the client. -/
def Operation.Safe (decodeResponses : Bool) (config : Config) (now : Int) (values : Entries) :
    Operation → Prop
  | .get key => Readable decodeResponses now values (config.key key)
  | .getMany keys => ∀ key ∈ keys, Readable decodeResponses now values (config.key key)
  | .delete key => stale now values (config.key key) = false
  | .deleteMany keys => ∀ key ∈ keys, stale now values (config.key key) = false
  | .set _ _ _ => True
  | .setMany _ _ => True
  | .exists_ _ => True

instance (config : Config) (now : Int) (values : Entries) :
    DecidablePred (Operation.Safe decodeResponses config now values)
  | .get key => inferInstanceAs (Decidable (Readable decodeResponses now values (config.key key)))
  | .getMany keys =>
      inferInstanceAs (Decidable
        (∀ key ∈ keys, Readable decodeResponses now values (config.key key)))
  | .delete key => inferInstanceAs (Decidable (stale now values (config.key key) = false))
  | .deleteMany keys =>
      inferInstanceAs (Decidable (∀ key ∈ keys, stale now values (config.key key) = false))
  | .set _ _ _ => .isTrue trivial
  | .setMany _ _ => .isTrue trivial
  | .exists_ _ => .isTrue trivial

/-- Both gateways compute one deadline. -/
theorem ttl_agree {ttl : Rat} (whole : WholeMilliseconds ttl) (positive : ¬ttl ≤ 0) (now : Int) :
    (now : Rat) + ttl * 1000 = (now + max (ttl * 1000).ceil 1 : Int) := by
  have scaled : (0 : Rat) < (ttl * 1000).ceil := by
    rw [whole]
    linarith
  have ceiling : 1 ≤ (ttl * 1000).ceil := by exact_mod_cast scaled
  rw [max_eq_left ceiling, Int.cast_add, whole]

theorem Agree.readable (agree : Agree now values db) (name : String) :
    Readable decodeResponses now values name ↔ Readable decodeResponses now db name := by
  unfold Readable
  rw [agree name]

theorem Agree.pick (agree : Agree now values db) : pick config now values = pick config now db := by
  funext result key
  simp only [Cache.pick, agree (config.key key)]

/-- A deletion makes no other key stale. -/
theorem stale_rest {name : String} (fresh : stale now values name = false) (keys : List String) :
    (∀ key ∈ keys, stale now (values.remove name) (config.key key) = false) ↔
      ∀ key ∈ keys, stale now values (config.key key) = false := by
  refine forall₂_congr fun key _ => ?_
  rw [stale_remove]
  by_cases same : config.key key = name
  · simp [same, fresh]
  · simp [same]

/-- The counts of two bulk deletions stay equal as long as no deleted key is stale. -/
theorem Agree.deleteMany (config : Config) (keys : List String) {removed counted : Nat}
    (above : counted ≤ removed)
    (agree : Agree now values db) :
    let left := MemoryCacheGateway.deleteMany config values removed keys
    let right := RedisCacheGateway.del now db counted (keys.map config.key)
    Agree now left.2 right.2 ∧ (left.1 = right.1 ↔
      removed = counted ∧ ∀ key ∈ keys, stale now values (config.key key) = false) := by
  induction keys generalizing values db removed counted with
  | nil => exact ⟨agree, by simp [MemoryCacheGateway.deleteMany, RedisCacheGateway.del]⟩
  | cons key rest ih =>
      have next := agree.remove (config.key key)
      have stored := find_isSome now values (config.key key)
      simp only [MemoryCacheGateway.deleteMany, MemoryCacheGateway.pop, List.map_cons,
        RedisCacheGateway.del, stored, ← agree (config.key key), List.forall_mem_cons]
      cases old : stale now values (config.key key) with
      | true =>
          have ahead : counted ≤ removed + 1 := by omega
          have tail := ih ahead next
          simp only [alive_of_stale old, Option.isSome_none, Bool.or_true, if_true,
            Bool.false_eq_true, if_false]
          refine ⟨tail.1, tail.2.trans ?_⟩
          simp only [Bool.true_eq_false, false_and, and_false, iff_false, not_and]
          omega
      | false =>
          simp only [Bool.or_false, true_and]
          split
          · have tail := ih (Nat.succ_le_succ above) next
            refine ⟨tail.1, tail.2.trans ?_⟩
            rw [stale_rest old, Nat.succ_inj]
          · have tail := ih above next
            refine ⟨tail.1, tail.2.trans ?_⟩
            rw [stale_rest old]

theorem Agree.setMany (agree : Agree now values db) (items : List (String × ByteArray))
    {expiresAt : Rat} {ttlMs : Int} (same : expiresAt = (now + ttlMs : Int)) :
    Agree now (MemoryCacheGateway.setMany config expiresAt values items)
      (items.foldl (fun kept item => RedisCacheGateway.set now kept
        (config.key item.1) item.2 ttlMs)
        db) := by
  induction items generalizing values db with
  | nil => exact agree
  | cons item rest ih =>
      apply ih
      rw [same]
      exact agree.put _

/-- The answer and the entries a call leaves. -/
def settled (entries : Entries) : Except CacheError (Answer × Entries) → Answer × Entries
  | .error error => (.raised error, entries)
  | .ok done => done

/-- The calls leave the same live entries, and answer alike exactly when `safe` holds. -/
structure Compared (now : Int) (safe : Prop) (left right : Answer × Entries) : Prop where
  agree : Agree now left.2 right.2
  answers : left.1 = right.1 ↔ safe

/-- A read that leaves the live entries alone on the left and everything on the right. -/
theorem compared_read {safe : Prop} {kept : Entries} {left right : Answer}
    (agree : Agree now values db) (unchanged : ∀ name, alive now kept name = alive now values name)
    (answers : left = right ↔ safe) : Compared now safe (left, kept) (right, db) where
  agree := fun name => (unchanged name).trans (agree name)
  answers := answers

theorem compared_get (agree : Agree now values db) (key : String) :
    Compared now (Readable decodeResponses now values (config.key key))
      (settled values (MemoryCacheGateway.performOpen config now values (.get key)))
      (settled db (RedisCacheGateway.performOpen decodeResponses config now db (.get key))) := by
  have value := read_value now values (config.key key)
  rw [agree (config.key key)] at value
  simp only [MemoryCacheGateway.performOpen, RedisCacheGateway.performOpen, agree.readable, value]
  by_cases readable : Readable decodeResponses now db (config.key key)
  · obtain ⟨raw, answered, coerced⟩ := get_readable readable
    rw [answered, ← coerced]
    exact compared_read agree (read_alive values _) (iff_of_true rfl readable)
  · rw [get_unreadable readable]
    exact compared_read agree (read_alive values _) (iff_of_false nofun readable)

theorem compared_exists (agree : Agree now values db) (key : String) :
    Compared now True
      (settled values (MemoryCacheGateway.performOpen config now values (.exists_ key)))
      (settled db
        (RedisCacheGateway.performOpen decodeResponses config now db (.exists_ key))) := by
  have value := read_value now values (config.key key)
  rw [agree (config.key key)] at value
  simp only [MemoryCacheGateway.performOpen, RedisCacheGateway.performOpen, value,
    Option.isSome_map]
  exact compared_read agree (read_alive values _) (iff_of_true rfl trivial)

theorem compared_getMany (agree : Agree now values db) (keys : List String) :
    Compared now (∀ key ∈ keys, Readable decodeResponses now values (config.key key))
      (settled values (MemoryCacheGateway.performOpen config now values (.getMany keys)))
      (settled db
        (RedisCacheGateway.performOpen decodeResponses config now db (.getMany keys))) := by
  have found := getMany_spec config now keys values Table.empty
  rw [agree.pick] at found
  simp only [MemoryCacheGateway.performOpen, RedisCacheGateway.performOpen, agree.readable, found.1]
  cases keys with
  | nil => exact compared_read agree found.2 (iff_of_true rfl nofun)
  | cons key rest =>
      rw [List.isEmpty_cons, if_neg Bool.false_ne_true]
      by_cases readable : ∀ other ∈ key :: rest, Readable decodeResponses now db (config.key other)
      · obtain ⟨rawValues, answered, collected⟩ := mget_readable Table.empty readable
        rw [answered, ← collected]
        exact compared_read agree found.2 (iff_of_true rfl readable)
      · rw [mget_unreadable readable]
        exact compared_read agree found.2 (iff_of_false nofun readable)

theorem compared_set (agree : Agree now values db) (key : String) (value : ByteArray)
    {ttlSeconds : Option Rat} (whole : WholeMilliseconds (config.ttl ttlSeconds)) :
    Compared now True
      (settled values
        (MemoryCacheGateway.performOpen config now values (.set key value ttlSeconds)))
      (settled db
        (RedisCacheGateway.performOpen decodeResponses config now db
          (.set key value ttlSeconds))) := by
  simp only [MemoryCacheGateway.performOpen, RedisCacheGateway.performOpen,
    MemoryCacheGateway.resolveTtl, RedisCacheGateway.resolveTtlMs]
  by_cases refused : config.ttl ttlSeconds ≤ 0
  · simp only [if_pos refused]
    exact ⟨agree, iff_of_true rfl trivial⟩
  · simp only [if_neg refused]
    refine ⟨?_, iff_of_true rfl trivial⟩
    change Agree now (values.put ⟨_, _, (now : Rat) + config.ttl ttlSeconds * 1000⟩) _
    rw [ttl_agree whole refused]
    exact agree.put _

theorem compared_setMany (agree : Agree now values db) {items : Dict} (filled : items.rows ≠ [])
    {ttlSeconds : Option Rat} (whole : WholeMilliseconds (config.ttl ttlSeconds)) :
    Compared now True
      (settled values
        (MemoryCacheGateway.performOpen config now values (.setMany items ttlSeconds)))
      (settled db
        (RedisCacheGateway.performOpen decodeResponses config now db
          (.setMany items ttlSeconds))) := by
  have some_items : items.rows.isEmpty = false := by simpa using filled
  simp only [MemoryCacheGateway.performOpen, RedisCacheGateway.performOpen,
    MemoryCacheGateway.resolveTtl, RedisCacheGateway.resolveTtlMs, some_items, Bool.false_eq_true,
    if_false]
  by_cases refused : config.ttl ttlSeconds ≤ 0
  · simp only [if_pos refused]
    exact ⟨agree, iff_of_true rfl trivial⟩
  · simp only [if_neg refused]
    exact ⟨agree.setMany items.rows (ttl_agree whole refused now), iff_of_true rfl trivial⟩

theorem compared_deleteMany (agree : Agree now values db) (keys : List String) :
    Compared now (∀ key ∈ keys, stale now values (config.key key) = false)
      (settled values (MemoryCacheGateway.performOpen config now values (.deleteMany keys)))
      (settled db
        (RedisCacheGateway.performOpen decodeResponses config now db (.deleteMany keys))) := by
  have deleted := agree.deleteMany config keys (le_refl 0)
  simp only [MemoryCacheGateway.performOpen, RedisCacheGateway.performOpen]
  cases keys with
  | nil => exact ⟨agree, iff_of_true rfl nofun⟩
  | cons key rest =>
      rw [List.isEmpty_cons, if_neg Bool.false_ne_true]
      refine ⟨deleted.1, ?_⟩
      simp only [settled, Answer.count.injEq]
      rw [deleted.2]
      simp

theorem compared_delete (agree : Agree now values db) (key : String) :
    Compared now (stale now values (config.key key) = false)
      (settled values (MemoryCacheGateway.performOpen config now values (.delete key)))
      (settled db (RedisCacheGateway.performOpen decodeResponses config now db (.delete key))) := by
  refine ⟨agree.remove _, ?_⟩
  have stored := find_isSome now values (config.key key)
  simp only [MemoryCacheGateway.performOpen, RedisCacheGateway.performOpen, MemoryCacheGateway.pop,
    RedisCacheGateway.del, settled, stored, ← agree (config.key key)]
  cases old : stale now values (config.key key) with
  | true => simp [alive_of_stale old]
  | false => cases alive now values (config.key key) <;> simp

theorem compared (agree : Agree now values db) {operation : Operation}
    (valid : operation.Valid config) :
    Compared now (operation.Safe decodeResponses config now values)
      (settled values (MemoryCacheGateway.performOpen config now values operation))
      (settled db (RedisCacheGateway.performOpen decodeResponses config now db operation)) := by
  cases operation with
  | get key => exact compared_get agree key
  | set key value ttlSeconds => exact compared_set agree key value valid
  | delete key => exact compared_delete agree key
  | exists_ key => exact compared_exists agree key
  | getMany keys => exact compared_getMany agree keys
  | setMany items ttlSeconds => exact compared_setMany agree valid.1 valid.2
  | deleteMany keys => exact compared_deleteMany agree keys

end Calls

section Runs

open MemoryCacheGateway (Gateway)

structure Call where
  now : Int
  operation : Operation

def serveMemory (config : Config) (gateway : Gateway) (call : Call) : Answer × Gateway :=
  MemoryCacheGateway.perform config call.now gateway call.operation

def serveRedis (decodeResponses : Bool) (config : Config) (db : Entries) (call : Call) :
    Answer × Entries :=
  RedisCacheGateway.perform decodeResponses config call.now db call.operation

theorem serveMemory_open (config : Config) {gateway : Gateway} (isOpen : gateway.closed = false)
    (call : Call) :
    serveMemory config gateway call =
      let done := settled gateway.values
        (MemoryCacheGateway.performOpen config call.now gateway.values call.operation)
      (done.1, { gateway with values := done.2 }) := by
  have opened : MemoryCacheGateway.ensureOpen gateway = .ok () := by
    rw [MemoryCacheGateway.ensureOpen, isOpen]
    rfl
  simp only [serveMemory, MemoryCacheGateway.perform, opened]
  cases MemoryCacheGateway.performOpen config call.now gateway.values call.operation with
  | error error => rfl
  | ok done => rfl

theorem serveRedis_eq (decodeResponses : Bool) (config : Config) (db : Entries) (call : Call) :
    serveRedis decodeResponses config db call =
      settled db
        (RedisCacheGateway.performOpen decodeResponses config call.now db call.operation) := by
  simp only [serveRedis, RedisCacheGateway.perform]
  cases RedisCacheGateway.performOpen decodeResponses config call.now db call.operation with
  | error error => rfl
  | ok done => rfl

theorem gateways_compare (decodeResponses : Bool) (config : Config) :
    Service.Compares (serveMemory config) (serveRedis decodeResponses config) Call.now
      (fun call => call.operation.Valid config)
      (fun now gateway db => gateway.closed = false ∧ Agree now gateway.values db)
      fun gateway call => call.operation.Safe decodeResponses config call.now gateway.values where
  later := fun order related => ⟨related.1, related.2.later order⟩
  kept := by
    intro gateway db call valid related
    rw [serveMemory_open config related.1, serveRedis_eq]
    exact ⟨related.1, (compared related.2 valid).agree⟩
  agrees := by
    intro gateway db call valid related
    rw [serveMemory_open config related.1, serveRedis_eq]
    exact (compared related.2 valid).answers

/-- From empty open gateways the answers are the same exactly when every call is safe. -/
theorem caches_agree (decodeResponses : Bool) (config : Config) {calls : List Call}
    (ordered : (calls.map Call.now).Pairwise (· ≤ ·))
    (valid : ∀ call ∈ calls, call.operation.Valid config) :
    Service.trace (serveMemory config) {} calls =
        Service.trace (serveRedis decodeResponses config) Table.empty calls ↔
      Service.Along (serveMemory config)
        (fun gateway call => call.operation.Safe decodeResponses config call.now gateway.values)
        {} calls :=
  (gateways_compare decodeResponses config).trace_eq_iff ordered valid
    fun _ _ => ⟨rfl, fun _ => rfl⟩

/-- An entry deleted after its second. -/
def lateDelete : List Call :=
  [⟨0, .set "key" ByteArray.empty (some 1)⟩, ⟨1000, .delete "key"⟩]

/-- The memory gateway counts an elapsed entry as deleted; Redis does not. -/
theorem elapsed_delete_differs :
    ((lateDelete.map Call.now).Pairwise (· ≤ ·) ∧
      ∀ call ∈ lateDelete, call.operation.Valid {}) ∧
    (Service.trace (serveMemory {}) {} lateDelete).map Prod.snd = [.none_, .flag true] ∧
      (Service.trace (serveRedis false {}) Table.empty lateDelete).map Prod.snd =
        [.none_, .flag false] := by
  decide +kernel

/-- A read in between drops the entry, and the deletes agree. -/
def readFirst : List Call :=
  [⟨0, .set "key" ByteArray.empty (some 1)⟩, ⟨1000, .get "key"⟩, ⟨1000, .delete "key"⟩]

theorem caches_agree_readFirst :
    Service.trace (serveMemory {}) {} readFirst =
      Service.trace (serveRedis true {}) Table.empty readFirst :=
  (caches_agree true {} (by decide) (by decide +kernel)).mpr (by decide +kernel)

end Runs

end AiPlatform.Cache

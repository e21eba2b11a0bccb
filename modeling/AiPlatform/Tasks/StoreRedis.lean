import AiPlatform.Tasks.RedisStore
import AiPlatform.Tasks.StoreTables

set_option autoImplicit false

/- `RedisTaskStore` has the effect of a task store on the tasks that its documents encode. -/
namespace AiPlatform.Tasks.Store

open RedisStore Datetime
open Redis (serialize deserialize Encodable deserialize_serialize ttlFrom)

/-- The tasks in the documents, in the order their keys were first set. -/
def records (db : Db) : List TaskRecord := db.rows.filterMap fun entry => deserialize entry.value

structure Keeps (namespace_ : String) (entry : Entry) (task : TaskRecord) : Prop where
  key : entry.key = keyOf namespace_ task.id
  value : entry.value = serialize task
  encodable : Encodable task

/-- The keys of the store hold the documents of these tasks. -/
def Holds (namespace_ : String) (db : Db) (tasks : TaskTable) : Prop :=
  Table.Matches (Keeps namespace_) db tasks

/-- No key has reached its TTL. -/
def Alive (clock : Int) (db : Db) : Prop := ∀ entry ∈ db.rows, clock < entry.deadline

instance (clock : Int) (db : Db) : Decidable (Alive clock db) :=
  inferInstanceAs (Decidable (∀ entry ∈ db.rows, _))

theorem keyOf_inj {namespace_ left right : String} :
    keyOf namespace_ left = keyOf namespace_ right ↔ left = right :=
  String.append_right_inj (namespace_ ++ ":")

theorem Holds.records_eq {namespace_ : String} {db : Db} {tasks : TaskTable}
    (holds : Holds namespace_ db tasks) : records db = tasks.rows := by
  unfold Holds Table.Matches at holds
  unfold records
  generalize db.rows = entries at holds
  generalize tasks.rows = kept at holds
  induction holds with
  | nil => rfl
  | cons here _ ih =>
      rw [List.filterMap_cons, here.value, deserialize_serialize here.encodable, ih]

section Commands

variable {namespace_ : String} {clock : Int} {db : Db} {tasks : TaskTable}

theorem find_holds (holds : Holds namespace_ db tasks) (taskId : String) :
    (db.find (keyOf namespace_ taskId) = none ∧ tasks.find taskId = none) ∨
      ∃ entry task, db.find (keyOf namespace_ taskId) = some entry ∧
        tasks.find taskId = some task ∧ Keeps namespace_ entry task :=
  Table.Matches.find holds fun entry task keeps => by rw [keeps.key, keyOf_inj]

theorem read_holds (holds : Holds namespace_ db tasks) (alive : Alive clock db) (taskId : String) :
    read clock db (keyOf namespace_ taskId) = (tasks.find taskId).map serialize := by
  unfold RedisStore.read RedisStore.alive
  obtain ⟨missing, absent⟩ | ⟨entry, task, found, present, keeps⟩ := find_holds holds taskId
  · rw [missing, absent]
    rfl
  · have member := (Table.find_some.mp found).1
    rw [found, present, Option.filter_some, if_pos (decide_eq_true (alive entry member)),
      Option.map_some, Option.map_some, keeps.value]

/-- A key that the store has is the key of a task. -/
theorem read_unknown (holds : Holds namespace_ db tasks) {key : String}
    (unknown : ∀ taskId, keyOf namespace_ taskId ≠ key) : read clock db key = none := by
  have missing : db.find key = none := by
    rw [Table.find_none]
    intro entry member same
    obtain ⟨task, -, keeps⟩ := Table.Matches.exists_right holds member
    exact unknown task.id (keeps.key.symm.trans same)
  rw [RedisStore.read, RedisStore.alive, missing]
  rfl

theorem encodable_of_find (holds : Holds namespace_ db tasks) {taskId : String} {task : TaskRecord}
    (found : tasks.find taskId = some task) : Encodable task := by
  obtain ⟨-, absent⟩ | ⟨entry, other, -, present, keeps⟩ := find_holds holds taskId
  · rw [absent] at found
    cases found
  · rw [present] at found
    obtain rfl := Option.some.inj found
    exact keeps.encodable

theorem setex_holds (holds : Holds namespace_ db tasks) {task : TaskRecord}
    (encodable : Encodable task) (ttl : Int) :
    Holds namespace_ (setex clock db (keyOf namespace_ task.id) ttl (serialize task))
      (tasks.put task) :=
  Table.Matches.put holds ⟨rfl, rfl, encodable⟩ fun entry other keeps => by
    rw [keeps.key]
    exact keyOf_inj

theorem setex_alive (alive : Alive clock db) {ttl : Int} (positive : 0 < ttl) (key : String)
    (value : Json) : Alive clock (setex clock db key ttl value) := by
  intro entry member
  rcases Table.mem_put member with rfl | ⟨old, -⟩
  · have later := timedelta_pos positive
    show clock < clock + timedelta ttl
    omega
  · exact alive entry old

theorem ttlFrom_pos (remaining : Int) : 0 < ttlFrom remaining := by
  unfold ttlFrom
  split <;> omega

/-- `_transition` on the task of its key. -/
theorem transition_holds (holds : Holds namespace_ db tasks) (alive : Alive clock db)
    (taskId : String) (mutate : TaskRecord → Option TaskRecord) :
    transition clock (keyOf namespace_ taskId) mutate db =
      match tasks.find taskId with
      | none => .ok (none, db)
      | some task =>
          match mutate task with
          | none => .ok (some (task, false), db)
          | some next =>
              .ok (some (next, true), setex clock db (keyOf namespace_ taskId)
                (ttlFrom (ttl clock db (keyOf namespace_ taskId))) (serialize next)) := by
  unfold transition
  rw [read_holds holds alive]
  cases found : tasks.find taskId with
  | none => rfl
  | some task =>
      have decoded := deserialize_serialize (encodable_of_find holds found)
      cases saved : mutate task with
      | none => simp only [Option.map_some, decoded, saved]
      | some next => simp only [Option.map_some, decoded, saved]

end Commands

def redisPerform (namespace_ : String) (clock : Int) (replies : List (List String)) (db : Db) :
    Operation → Answer × Db
  | .create task => (.done, create namespace_ clock task db)
  | .get taskId principalId =>
      match get namespace_ clock taskId principalId db with
      | .error error => (.raised error, db)
      | .ok task => (.found task, db)
  | .markProcessing taskId leaseSeconds now =>
      answered db .claimed (markProcessing namespace_ clock taskId leaseSeconds (some now) db)
  | .markCompleted taskId result => written db (markCompleted namespace_ clock taskId result db)
  | .markFailed taskId error => written db (markFailed namespace_ clock taskId error db)
  | .reclaim now limit maxAttempts =>
      answered db .reclaimed (reclaimStaleProcessing clock now limit maxAttempts replies db)

/-- The values have the types of the signatures: times are datetimes, a result is a dict. -/
def Operation.Typed : Operation → Prop
  | .create task => Encodable task
  | .markProcessing _ _ now => Representable now
  | .markCompleted _ result => some result ≠ some .null
  | .reclaim now _ _ => Representable now
  | _ => True

/-- The end of a lease is a datetime. -/
def Operation.Timely : Operation → Prop
  | .markProcessing _ leaseSeconds now => Representable (now + timedelta leaseSeconds)
  | _ => True

/-- The keys hold tasks again, and these are what a task store may leave. -/
def Refines (namespace_ : String) (operation : Operation) (tasks : TaskTable)
    (outcome : Answer × Db) : Prop :=
  ∃ next, Holds namespace_ outcome.2 next ∧ Does operation tasks (outcome.1, next)

theorem encodable_stamped {task : TaskRecord} (encodable : Encodable task) {clock : Int}
    (time : Representable clock) :
    Encodable
      { task with createdAt := task.createdAt.or (some clock), updatedAt := some clock } where
  lockedUntil := encodable.lockedUntil
  expiresAt := encodable.expiresAt
  createdAt := by
    intro created chosen
    cases given : task.createdAt with
    | none =>
        simp only [given, Option.none_or, Option.mem_def, Option.some.injEq] at chosen
        exact chosen ▸ time
    | some stamp =>
        simp only [given, Option.some_or, Option.mem_def, Option.some.injEq] at chosen
        exact encodable.createdAt created (chosen ▸ given)
  updatedAt := fun _ same => Option.some.inj same ▸ time
  result := encodable.result

theorem encodable_claim {task : TaskRecord} (encodable : Encodable task) {now leaseSeconds : Int}
    (time : Representable now) (lease : Representable (now + timedelta leaseSeconds)) :
    Encodable (task.claim now leaseSeconds now) where
  lockedUntil := fun _ same => Option.some.inj same ▸ lease
  expiresAt := encodable.expiresAt
  createdAt := encodable.createdAt
  updatedAt := fun _ same => Option.some.inj same ▸ time
  result := encodable.result

theorem encodable_updateStatus {task : TaskRecord} (encodable : Encodable task)
    {status : TaskStatus} {result : Option Json} {error : Option String} {clock : Int}
    (time : Representable clock) (document : result ≠ some .null) :
    Encodable (task.updateStatus status result error clock) where
  lockedUntil := fun _ none => nomatch none
  expiresAt := encodable.expiresAt
  createdAt := encodable.createdAt
  updatedAt := fun _ same => Option.some.inj same ▸ time
  result := by
    show result.or task.result ≠ some .null
    cases result with
    | none => exact encodable.result
    | some value => exact document

theorem encodable_settle {task : TaskRecord} (encodable : Encodable task) (maxAttempts : Int)
    {now : Int} (time : Representable now) : Encodable (task.settle maxAttempts now) := by
  unfold TaskRecord.settle
  split
  all_goals exact
    { lockedUntil := fun _ none => nomatch none
      expiresAt := encodable.expiresAt
      createdAt := encodable.createdAt
      updatedAt := fun _ same => Option.some.inj same ▸ time
      result := encodable.result }

theorem claim_eq (leaseSeconds now : Int) (task : TaskRecord) :
    Redis.claim leaseSeconds now task =
      if task.claimable now then some (task.claim now leaseSeconds now) else none := by
  unfold Redis.claim TaskRecord.claimable
  by_cases waiting : task.status = .queued
  · simp [waiting]
  · cases lapsed : task.leaseExpired now <;> simp [waiting]

section Operations

variable {namespace_ : String} {clock : Int} {db : Db} {tasks : TaskTable}
  (holds : Holds namespace_ db tasks) (alive : Alive clock db)

include holds

theorem redis_create {task : TaskRecord} (encodable : Encodable task) (time : Representable clock) :
    Refines namespace_ (.create task) tasks (.done, create namespace_ clock task db) := by
  refine ⟨_, setex_holds holds (encodable_stamped encodable time) _, ?_⟩
  refine effect_exact (fun _ _ _ shape => nomatch shape) ?_
  rw [content_write (Table.find_put tasks _)]
  refine Prod.ext rfl ?_
  exact write_timeless _ rfl

include alive

theorem redis_get (taskId : String) (principalId : Option String) :
    get namespace_ clock taskId principalId db = .ok ((tasks.find taskId).filter fun task =>
      principalId.all (task.principalId = ·)) := by
  unfold RedisStore.get
  rw [read_holds holds alive]
  cases found : tasks.find taskId with
  | none => rfl
  | some task =>
      rw [Option.map_some, Option.filter_some]
      simp only [deserialize_serialize (encodable_of_find holds found)]

theorem redis_markProcessing {taskId : String} {leaseSeconds now : Int} (time : Representable now)
    (lease : Representable (now + timedelta leaseSeconds)) :
    Refines namespace_ (.markProcessing taskId leaseSeconds now) tasks
      (answered db .claimed
        (markProcessing namespace_ clock taskId leaseSeconds (some now) db)) := by
  unfold RedisStore.markProcessing
  by_cases refused : leaseSeconds ≤ 0
  · rw [if_pos refused]
    exact ⟨tasks, holds, effect_refused refused⟩
  · rw [if_neg refused, Option.getD_some, transition_holds holds alive]
    cases found : tasks.find taskId with
    | none => exact ⟨tasks, holds, effect_unknown refused found⟩
    | some task =>
        have here : task.id = taskId := (Table.find_some.mp found).2
        have encodable := encodable_of_find holds found
        by_cases free : task.claimable now = true
        · simp only [claim_eq, free, ↓reduceIte]
          subst here
          refine ⟨tasks.put (task.claim now leaseSeconds now),
            setex_holds holds (encodable_claim encodable time lease) _, ?_⟩
          refine effect_claimed refused found free (timeless_claim task now leaseSeconds now) ?_
          exact content_write (Table.find_put tasks _)
        · simp only [claim_eq, free, Bool.false_eq_true, ↓reduceIte]
          exact ⟨tasks, holds, effect_busy refused found free⟩

theorem redis_finish {taskId : String} {status : TaskStatus} {result : Option Json}
    {error : Option String} (time : Representable clock) (document : result ≠ some .null) :
    ∃ next,
      Holds namespace_ (written db (update namespace_ clock taskId status result error db)).2 next ∧
      (content tasks.rows).finish taskId status result error =
        ((written db (update namespace_ clock taskId status result error db)).1,
          content next.rows) := by
  unfold RedisStore.update
  dsimp only
  rw [read_holds holds alive]
  cases found : tasks.find taskId with
  | none => exact ⟨tasks, holds, finish_missing found⟩
  | some task =>
      have here : task.id = taskId := (Table.find_some.mp found).2
      have encodable := encodable_of_find holds found
      subst here
      simp only [Option.map_some, deserialize_serialize encodable]
      refine ⟨tasks.put (task.updateStatus status result error clock),
        setex_holds holds (encodable_updateStatus encodable time document) _, ?_⟩
      refine finish_found found (timeless_updateStatus task status result error clock) ?_
      exact content_write (Table.find_put tasks _)

end Operations

section Sweep

variable {namespace_ : String} {clock now limit maxAttempts : Int}

/-- The loop went over these keys: how many tasks are settled, the refs it announces, what the keys
hold, and the tasks it settled. -/
structure Swept (namespace_ : String) (clock now limit maxAttempts settled : Int)
    (keys : List String) (before : TaskTable) (count : Int) (refs : List TaskRef) (db : Db)
    (after : TaskTable) (picked : List String) : Prop where
  holds : Holds namespace_ db after
  alive : Alive clock db
  settles : Settles now maxAttempts before.rows after.rows refs picked
  counted : count = settled + picked.length
  bounded : settled ≤ limit → count ≤ limit
  covers : limit ≤ count ∨ ∀ task ∈ before.rows, task.leaseExpired now = true →
    keyOf namespace_ task.id ∈ keys → task.id ∈ picked

theorem Swept.stop {settled : Int} {db : Db} {tasks : TaskTable} (holds : Holds namespace_ db tasks)
    (alive : Alive clock db) (full : limit ≤ settled) (keys : List String) :
    Swept namespace_ clock now limit maxAttempts settled keys tasks settled [] db tasks [] where
  holds := holds
  alive := alive
  settles := .refl now maxAttempts tasks.rows
  counted := by simp
  bounded := id
  covers := .inl full

theorem Swept.skip {settled : Int} {db : Db} {tasks : TaskTable} (holds : Holds namespace_ db tasks)
    (alive : Alive clock db) {keys : List String}
    (idle : ∀ task ∈ tasks.rows, task.leaseExpired now = true → keyOf namespace_ task.id ∉ keys) :
    Swept namespace_ clock now limit maxAttempts settled keys tasks settled [] db tasks [] where
  holds := holds
  alive := alive
  settles := .refl now maxAttempts tasks.rows
  counted := by simp
  bounded := id
  covers := .inr fun task member lapsed inside => absurd inside (idle task member lapsed)

theorem Swept.trans {settled count total : Int} {first second : List String}
    {before middle after : TaskTable} {refs more : List TaskRef} {db next : Db}
    {picked again : List String}
    (swept : Swept namespace_ clock now limit maxAttempts settled first before count refs db middle
      picked)
    (onward : Swept namespace_ clock now limit maxAttempts count second middle total more next after
      again) :
    Swept namespace_ clock now limit maxAttempts settled (first ++ second) before total
      (refs ++ more) next after (picked ++ again) where
  holds := onward.holds
  alive := onward.alive
  settles := swept.settles.trans before.unique middle.unique onward.settles
  counted := by
    have early := swept.counted
    have late := onward.counted
    rw [List.length_append]
    omega
  bounded := fun room => onward.bounded (swept.bounded room)
  covers := by
    rcases onward.covers with full | late
    · exact .inl full
    rcases swept.covers with full | early
    · have more := onward.counted
      exact .inl (by omega)
    refine .inr fun task member lapsed inside => ?_
    by_cases chosen : task.id ∈ picked
    · exact List.mem_append_left _ chosen
    apply List.mem_append_right
    have untouched : content middle.rows task.id = some (timeless task) := by
      rw [swept.settles.leaves, if_neg chosen, content_mem before.unique member]
    obtain ⟨other, present, same, seen⟩ := (content_eq_some middle.unique).mp untouched
    have still : other.leaseExpired now = true := by
      rw [← timeless_leaseExpired, seen, timeless_leaseExpired, lapsed]
    rcases List.mem_append.mp inside with scanned | left
    · exact absurd (early task member lapsed scanned) chosen
    · rw [← same] at left ⊢
      exact late other present still left

theorem settle_ref (task : TaskRecord) (maxAttempts stamp : Int) :
    (task.settle maxAttempts stamp).ref = task.ref := by
  unfold TaskRecord.settle
  split <;> rfl

theorem settle_queued (task : TaskRecord) (maxAttempts stamp : Int) :
    (task.settle maxAttempts stamp).status = .queued ↔ task.attempts < maxAttempts := by
  unfold TaskRecord.settle
  split <;> simp <;> omega

theorem Swept.one {settled : Int} {db : Db} {tasks : TaskTable} (holds : Holds namespace_ db tasks)
    (alive : Alive clock db) (time : Representable now) {task : TaskRecord}
    (found : tasks.find task.id = some task) (lapsed : task.leaseExpired now = true)
    (room : ¬ limit ≤ settled) {ttl : Int} (positive : 0 < ttl) :
    Swept namespace_ clock now limit maxAttempts settled [keyOf namespace_ task.id] tasks
      (settled + 1)
      (if (task.settle maxAttempts now).status = .queued then [(task.settle maxAttempts now).ref]
        else [])
      (setex clock db (keyOf namespace_ task.id) ttl (serialize (task.settle maxAttempts now)))
      (tasks.put (task.settle maxAttempts now)) [task.id] where
  holds := by
    have encodable := encodable_settle (encodable_of_find holds found) maxAttempts time
    rw [← settle_id task maxAttempts now]
    exact setex_holds holds encodable ttl
  alive := setex_alive alive positive _ _
  settles := by
    have member := (Table.find_some.mp found).1
    refine settles_map now (List.nodup_singleton _) ?_ ?_ ?_
    · intro taskId chosen
      rw [List.mem_singleton.mp chosen]
      exact List.mem_map.mpr ⟨task, List.mem_filter.mpr ⟨member, lapsed⟩, rfl⟩
    · intro taskId
      rw [Table.find_put, settle_id]
      simp only [List.mem_singleton]
      split
      · rename_i same
        rw [same, found, Option.map_some]
      · rfl
    · intro ref
      rw [settle_ref]
      simp only [settle_queued, List.mem_singleton]
      constructor
      · intro announced
        split at announced
        · rename_i below
          exact ⟨task, member, rfl, below, (List.mem_singleton.mp announced).symm⟩
        · cases announced
      · rintro ⟨other, inside, same, below, rfl⟩
        rw [Table.eq_of_key inside member same] at below ⊢
        rw [if_pos below]
        exact List.mem_singleton_self _
  counted := by simp
  bounded := by omega
  covers := by
    refine .inr fun other member _ inside => ?_
    have same := keyOf_inj.mp (List.mem_singleton.mp inside)
    exact List.mem_singleton.mpr same

/-- `_transition` with `reclaim` on any key: it leaves the keys alone or settles one task. -/
theorem reclaim_key (maxAttempts : Int) {settled : Int} {db : Db} {tasks : TaskTable}
    (holds : Holds namespace_ db tasks)
    (alive : Alive clock db) (time : Representable now) (room : ¬ limit ≤ settled) (key : String) :
    (∃ outcome, transition clock key (Redis.reclaim now maxAttempts) db = .ok (outcome, db) ∧
      (∀ task, outcome ≠ some (task, true)) ∧
      Swept namespace_ clock now limit maxAttempts settled [key] tasks settled [] db tasks []) ∨
    ∃ task next after picked,
      transition clock key (Redis.reclaim now maxAttempts) db = .ok (some (task, true), next) ∧
      Swept namespace_ clock now limit maxAttempts settled [key] tasks (settled + 1)
        (if task.status = .queued then [task.ref] else []) next after picked := by
  by_cases named : ∃ taskId, keyOf namespace_ taskId = key
  · obtain ⟨taskId, rfl⟩ := named
    rw [transition_holds holds alive]
    cases found : tasks.find taskId with
    | none =>
        refine .inl ⟨none, rfl, by simp, Swept.skip holds alive ?_⟩
        intro task member _ inside
        have same := keyOf_inj.mp (List.mem_singleton.mp inside)
        exact Table.find_none.mp found task member same
    | some task =>
        obtain ⟨member, rfl⟩ := Table.find_some.mp found
        by_cases lapsed : task.leaseExpired now = true
        · simp only [Redis.reclaim, lapsed, ↓reduceIte]
          exact .inr ⟨_, _, _, _, rfl,
            Swept.one holds alive time found lapsed room (ttlFrom_pos _)⟩
        · simp only [Redis.reclaim, lapsed, ↓reduceIte, Bool.false_eq_true]
          refine .inl ⟨_, rfl, by simp, Swept.skip holds alive ?_⟩
          intro other inside expired same
          have ids := keyOf_inj.mp (List.mem_singleton.mp same)
          rw [Table.eq_of_key inside member ids] at expired
          exact lapsed expired
  · have unknown : ∀ taskId, keyOf namespace_ taskId ≠ key :=
      fun taskId same => named ⟨taskId, same⟩
    have missing : transition clock key (Redis.reclaim now maxAttempts) db = .ok (none, db) := by
      unfold transition
      rw [read_unknown holds unknown]
    refine .inl ⟨none, missing, by simp, Swept.skip holds alive ?_⟩
    intro task _ _ inside
    exact unknown task.id (List.mem_singleton.mp inside)

theorem reclaimKeys_skip {settled : Int} {db : Db} {key : String}
    {outcome : Option (TaskRecord × Bool)} (room : ¬ limit ≤ settled)
    (passed : transition clock key (Redis.reclaim now maxAttempts) db = .ok (outcome, db))
    (idle : ∀ task, outcome ≠ some (task, true)) (rest : List String) :
    reclaimKeys clock now limit maxAttempts settled (key :: rest) db =
      reclaimKeys clock now limit maxAttempts settled rest db := by
  rw [reclaimKeys, if_neg room, passed]
  match outcome with
  | none => rfl
  | some (task, false) => rfl
  | some (task, true) => exact absurd rfl (idle task)

theorem reclaimKeys_settle {settled count : Int} {db next last : Db} {key : String}
    {task : TaskRecord} {rest : List String} {refs : List TaskRef} (room : ¬ limit ≤ settled)
    (passed : transition clock key (Redis.reclaim now maxAttempts) db =
      .ok (some (task, true), next))
    (swept : reclaimKeys clock now limit maxAttempts (settled + 1) rest next =
      .ok (count, refs, last)) :
    reclaimKeys clock now limit maxAttempts settled (key :: rest) db =
      .ok (count, (if task.status = .queued then [task.ref] else []) ++ refs, last) := by
  rw [reclaimKeys, if_neg room, passed]
  simp only [swept, Except.map]
  split <;> rfl

theorem sweep_keys {settled : Int} {db : Db} {tasks : TaskTable} (holds : Holds namespace_ db tasks)
    (alive : Alive clock db) (time : Representable now) (keys : List String) :
    ∃ count refs next after picked,
      reclaimKeys clock now limit maxAttempts settled keys db = .ok (count, refs, next) ∧
      Swept namespace_ clock now limit maxAttempts settled keys tasks count refs next
        after picked := by
  induction keys generalizing settled db tasks with
  | nil => exact ⟨_, _, _, _, _, rfl, Swept.skip holds alive (by simp)⟩
  | cons key rest ih =>
      by_cases full : limit ≤ settled
      · refine ⟨settled, [], db, tasks, [], ?_, Swept.stop holds alive full _⟩
        rw [reclaimKeys, if_pos full]
      obtain ⟨outcome, passed, idle, first⟩ | ⟨task, next, after, picked, passed, first⟩ :=
        reclaim_key maxAttempts holds alive time full key
      · obtain ⟨count, refs, next, after, picked, swept, onward⟩ := ih first.holds first.alive
        refine ⟨count, refs, next, after, picked, ?_, first.trans onward⟩
        rw [reclaimKeys_skip full passed idle, swept]
      · obtain ⟨count, refs, last, final, more, swept, onward⟩ := ih first.holds first.alive
        exact ⟨count, _, last, final, _, reclaimKeys_settle full passed swept, first.trans onward⟩

theorem sweep_replies {settled : Int} {db : Db} {tasks : TaskTable}
    (holds : Holds namespace_ db tasks) (alive : Alive clock db) (time : Representable now)
    (replies : List (List String)) :
    ∃ count refs next after picked,
      reclaimReplies clock now limit maxAttempts settled replies db = .ok (count, refs, next) ∧
      Swept namespace_ clock now limit maxAttempts settled replies.flatten tasks count
        refs next after
        picked := by
  induction replies generalizing settled db tasks with
  | nil => exact ⟨_, _, _, _, _, rfl, Swept.skip holds alive (by simp)⟩
  | cons keys replies ih =>
      by_cases full : limit ≤ settled
      · refine ⟨settled, [], db, tasks, [], ?_, Swept.stop holds alive full _⟩
        rw [reclaimReplies, if_pos full]
      obtain ⟨count, refs, next, after, picked, swept, first⟩ := sweep_keys holds alive time keys
      obtain ⟨total, more, last, final, again, rest, onward⟩ := ih first.holds first.alive
      refine ⟨total, refs ++ more, last, final, picked ++ again, ?_, first.trans onward⟩
      rw [reclaimReplies, if_neg full, swept]
      simp only [rest, Except.map]

/-- An iteration over all keys settles as many tasks as the limit allows. -/
theorem Swept.many {count : Int} {keys : List String} {before after : TaskTable}
    {refs : List TaskRef} {db : Db} {picked : List String} (positive : 0 < limit)
    (swept : Swept namespace_ clock now limit maxAttempts 0 keys before count refs db after picked)
    (all : ∀ task ∈ before.rows, keyOf namespace_ task.id ∈ keys) :
    picked.length = min limit.toNat (expired now before.rows).length := by
  have counted := swept.counted
  have bounded := swept.bounded (by omega)
  have within : picked.length ≤ (expired now before.rows).length := by
    have fewer := (List.subperm_of_subset swept.settles.distinct swept.settles.within).length_le
    rwa [List.length_map] at fewer
  rcases swept.covers with full | covers
  · omega
  · have everything : ((expired now before.rows).map TaskRecord.id).length ≤ picked.length := by
      apply List.Subperm.length_le
      apply List.subperm_of_subset (expired_unique before.unique now)
      intro taskId inside
      obtain ⟨task, kept, rfl⟩ := List.mem_map.mp inside
      obtain ⟨member, lapsed⟩ := List.mem_filter.mp kept
      exact covers task member lapsed (all task member)
    rw [List.length_map] at everything
    omega

theorem redis_reclaim {db : Db} {tasks : TaskTable} (holds : Holds namespace_ db tasks)
    (alive : Alive clock db) (time : Representable now) {replies : List (List String)}
    (scanned : Scanned db replies) :
    Refines namespace_ (.reclaim now limit maxAttempts) tasks
      (answered db .reclaimed (reclaimStaleProcessing clock now limit maxAttempts replies db)) := by
  unfold reclaimStaleProcessing
  by_cases refused : limit ≤ 0
  · rw [if_pos refused]
    exact ⟨tasks, holds,
      effect_exact (fun _ _ _ shape => by cases shape; exact refused) rfl⟩
  · obtain ⟨count, refs, next, after, picked, ran, swept⟩ := sweep_replies holds alive time replies
    rw [if_neg refused, ran]
    have all : ∀ task ∈ tasks.rows, keyOf namespace_ task.id ∈ replies.flatten := by
      intro task member
      obtain ⟨-, absent⟩ | ⟨entry, other, found, present, keeps⟩ := find_holds holds task.id
      · exact absurd rfl (Table.find_none.mp absent task member)
      · have inside := scanned entry (Table.find_some.mp found).1
        rw [(Table.find_some.mp found).2] at inside
        exact inside
    exact ⟨after, swept.holds,
      .settles (by omega) (swept.many (by omega) all) swept.settles⟩

/-- `RedisTaskStore` performs every operation as a task store does, on the tasks of its keys. -/
theorem redis_refines {db : Db} {tasks : TaskTable} {replies : List (List String)}
    {operation : Operation} (holds : Holds namespace_ db tasks) (alive : Alive clock db)
    (time : Representable clock) (typed : operation.Typed) (timely : operation.Timely)
    (scanned : ∀ now limit maxAttempts, operation = .reclaim now limit maxAttempts →
      Scanned db replies) :
    Refines namespace_ operation tasks (redisPerform namespace_ clock replies db operation) := by
  cases operation with
  | create task => exact redis_create holds typed time
  | get taskId principalId =>
      refine ⟨tasks, ?_, ?_⟩
      · simpa only [redisPerform, redis_get holds alive] using holds
      · simp only [redisPerform, redis_get holds alive]
        exact effect_get tasks taskId principalId
  | markProcessing taskId leaseSeconds now =>
      exact redis_markProcessing holds alive typed timely
  | markCompleted taskId result =>
      obtain ⟨next, kept, performs⟩ := redis_finish holds alive time typed
      exact ⟨next, kept, effect_exact (fun _ _ _ shape => nomatch shape) performs⟩
  | markFailed taskId error =>
      have document : (none : Option Json) ≠ some .null := nofun
      obtain ⟨next, kept, performs⟩ := redis_finish holds alive time document
      exact ⟨next, kept, effect_exact (fun _ _ _ shape => nomatch shape) performs⟩
  | reclaim now limit maxAttempts =>
      exact redis_reclaim holds alive typed (scanned now limit maxAttempts rfl)

end Sweep

end AiPlatform.Tasks.Store

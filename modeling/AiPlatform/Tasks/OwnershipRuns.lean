import AiPlatform.Tasks.Ownership

set_option autoImplicit false

/- What every store keeps of its tasks: their id, owner and type. -/
namespace AiPlatform.Tasks.Ownership

open Datetime Identity RedisStore Store
open Redis (serialize deserialize Encodable deserialize_serialize)

@[simp] theorem originOf_claim (task : TaskRecord) (now leaseSeconds stamp : Int) :
    originOf (task.claim now leaseSeconds stamp) = originOf task := rfl

@[simp] theorem originOf_updateStatus (task : TaskRecord) (status : TaskStatus)
    (result : Option Json) (error : Option String) (stamp : Int) :
    originOf (task.updateStatus status result error stamp) = originOf task := rfl

@[simp] theorem originOf_settle (task : TaskRecord) (maxAttempts stamp : Int) :
    originOf (task.settle maxAttempts stamp) = originOf task := by
  unfold TaskRecord.settle
  split
  · rfl
  · rfl

/-- The rows of a table have these origins. -/
def Rows (known : Origin → Prop) (tasks : TaskTable) : Prop :=
  ∀ task ∈ tasks.rows, known (originOf task)

/-- A document under its key. -/
structure Document (namespace_ : String) (known : Origin → Prop) (key : String)
    (task : TaskRecord) : Prop where
  key : key = keyOf namespace_ task.id
  encodable : Encodable task
  known : known (originOf task)

def Documents (namespace_ : String) (known : Origin → Prop) (db : Db) : Prop :=
  ∀ entry ∈ db.rows, ∃ task, deserialize entry.value = some task ∧
    Document namespace_ known entry.key task

/-- Everything in the store is a task with such an origin. -/
def All (backend : Backend) (known : Origin → Prop) : backend.State → Prop :=
  match backend with
  | .memory => Rows known
  | .postgres _ => Rows known
  | .redis namespace_ => fun state =>
      Documents namespace_ known state.db ∧
        ∀ update ∈ state.updates, Document namespace_ known update.1 update.2

theorem All.imp {backend : Backend} {known wider : Origin → Prop} {store : backend.State}
    (all : All backend known store) (weaker : ∀ origin, known origin → wider origin) :
    All backend wider store := by
  have document : ∀ {namespace_ key task}, Document namespace_ known key task →
      Document namespace_ wider key task := by
    intro namespace_ key task here
    exact ⟨here.key, here.encodable, weaker _ here.known⟩
  cases backend with
  | memory => exact fun task found => weaker _ (all task found)
  | postgres outbox => exact fun task found => weaker _ (all task found)
  | redis namespace_ =>
      refine ⟨fun entry found => ?_, fun update found => document (all.2 update found)⟩
      have ⟨task, decoded, here⟩ := all.1 entry found
      exact ⟨task, decoded, document here⟩

section Tables

variable {known : Origin → Prop} {tasks next : TaskTable}

theorem Rows.map (rows : Rows known tasks) {change : TaskRecord → TaskRecord}
    {keeps : ∀ task, (change task).id = task.id}
    (same : ∀ task, originOf (change task) = originOf task) :
    Rows known (tasks.map change keeps) := by
  intro task found
  have ⟨old, member, changed⟩ := List.mem_map.mp found
  rw [← changed, same]
  exact rows old member

theorem Rows.modify (rows : Rows known tasks) {taskId : String} {change : TaskRecord → TaskRecord}
    {keeps : ∀ task, (change task).id = task.id}
    (same : ∀ task, originOf (change task) = originOf task) :
    Rows known (tasks.modify taskId change keeps) := by
  apply rows.map
  intro task
  split
  · exact same task
  · rfl

theorem Rows.erase (rows : Rows known tasks) (test : TaskRecord → Bool) :
    Rows known (tasks.erase test) := fun task found => rows task (Table.mem_erase.mp found).1

theorem Rows.insert (rows : Rows known tasks) {task : TaskRecord}
    (inserted : tasks.insert task = some next) (new : known (originOf task)) : Rows known next := by
  have ⟨_, shape⟩ := Table.insert_some.mp inserted
  intro row found
  rw [shape, List.mem_append, List.mem_singleton] at found
  rcases found with old | same
  · exact rows row old
  · rw [same]
    exact new

theorem Rows.answered (rows : Rows known tasks) {Result : Type} {answer : Result → Store.Answer}
    {reply : Except StoreError (Result × TaskTable)}
    (leaves : ∀ result next, reply = .ok (result, next) → Rows known next) :
    Rows known (answered tasks answer reply).2 := by
  cases reply with
  | error error => exact rows
  | ok both => exact leaves both.1 both.2 rfl

theorem Rows.written (rows : Rows known tasks) {reply : Except StoreError TaskTable}
    (leaves : ∀ next, reply = .ok next → Rows known next) : Rows known (written tasks reply).2 := by
  cases reply with
  | error error => exact rows
  | ok next => exact leaves next rfl

theorem reclaimLoop_origins (now limit maxAttempts settled : Int) (tasks : List TaskRecord) :
    ∀ task ∈ (Memory.reclaimLoop now limit maxAttempts settled tasks).1,
      ∃ old ∈ tasks, originOf task = originOf old := by
  induction tasks generalizing settled with
  | nil =>
      intro task found
      cases found
  | cons head rest ih =>
      intro task found
      unfold Memory.reclaimLoop at found
      split at found
      · exact ⟨task, found, rfl⟩
      · split at found
        · rcases List.mem_cons.mp found with same | later
          · exact ⟨head, List.mem_cons_self, by rw [same, originOf_settle]⟩
          · obtain ⟨old, member, same⟩ := ih (settled + 1) task later
            exact ⟨old, List.mem_cons_of_mem _ member, same⟩
        · rcases List.mem_cons.mp found with same | later
          · exact ⟨head, List.mem_cons_self, by rw [same]⟩
          · obtain ⟨old, member, same⟩ := ih settled task later
            exact ⟨old, List.mem_cons_of_mem _ member, same⟩

theorem memory_finish_rows (rows : Rows known tasks) (clock : Int) (taskId : String)
    (status : TaskStatus) (result : Option Json) (error : Option String) :
    Rows known (written tasks (Memory.updateStatus clock taskId status result error tasks)).2 := by
  apply rows.written
  intro next reply
  unfold Memory.updateStatus at reply
  split at reply
  · cases reply
  · rw [← Except.ok.inj reply]
    exact rows.modify fun task => originOf_updateStatus task status result error clock

theorem memoryCall_rows (rows : Rows known tasks) {service : TaskService} {clock : Int}
    {request : Request} (called : memoryCall service clock request tasks = some next) :
    Rows known next := by
  cases request with
  | markProcessing taskId =>
      rw [← Option.some.inj called]
      apply rows.answered
      intro result next reply
      unfold Memory.markProcessing at reply
      split at reply
      · cases reply
      · split at reply
        · cases reply
        · dsimp only at reply
          split at reply
          · rw [← (Prod.mk.inj (Except.ok.inj reply)).2]
            exact rows.modify fun task => originOf_claim task _ _ _
          · rw [← (Prod.mk.inj (Except.ok.inj reply)).2]
            exact rows
  | markCompleted taskId result =>
      rw [← Option.some.inj called]
      exact memory_finish_rows rows clock taskId .completed _ none
  | markFailed taskId error =>
      rw [← Option.some.inj called]
      exact memory_finish_rows rows clock taskId .failed none _
  | reclaimStaleProcessing now limit maxAttempts announced =>
      rw [← Option.some.inj called]
      apply rows.answered
      intro result next reply
      unfold Memory.reclaimStaleProcessing at reply
      split at reply
      · cases reply
      · rw [← (Prod.mk.inj (Except.ok.inj reply)).2]
        intro task found
        obtain ⟨old, member, same⟩ := reclaimLoop_origins _ _ _ _ _ task found
        rw [same]
        exact rows old member
  | deleteExpired before limit =>
      rw [← Option.some.inj called]
      unfold memoryDelete
      split
      · exact rows
      · exact rows.erase _
  | submit id type payload principal requestId announced => cases called
  | reclaimKey key now maxAttempts => cases called
  | write index remaining => cases called

theorem postgres_finish_rows (rows : Rows known tasks) (clock : Int) (taskId : String)
    (status : TaskStatus) (result : Option Json) (error : Option String)
    (reply : Postgres.update clock taskId status result error tasks = .ok next) :
    Rows known next := by
  unfold Postgres.update at reply
  split at reply
  · cases reply
  · rw [← Except.ok.inj reply]
    exact rows.modify fun task => originOf_updateStatus task status result error clock

theorem postgres_claim_rows (rows : Rows known tasks) {clock leaseSeconds : Int} {now : Option Int}
    {taskId : String} {claimed : Bool}
    (reply : PostgresStore.markProcessing clock taskId leaseSeconds now tasks =
      .ok (claimed, next)) : Rows known next := by
  unfold PostgresStore.markProcessing at reply
  split at reply
  · cases reply
  · split at reply
    · cases reply
    · split at reply
      · cases reply
      · unfold Postgres.markProcessing at reply
        dsimp only at reply
        split at reply
        · cases reply
        · split at reply
          · rw [← (Prod.mk.inj (Except.ok.inj reply)).2]
            apply rows.map
            intro task
            split
            · exact originOf_claim task _ _ _
            · rfl
          · split at reply
            · cases reply
            · rw [← (Prod.mk.inj (Except.ok.inj reply)).2]
              exact rows

theorem postgres_reclaim_rows (rows : Rows known tasks) {clock limit maxAttempts : Int}
    {stale : List String} {refs : List TaskRef}
    (reply : PostgresStore.reclaimStaleProcessing clock limit maxAttempts stale tasks =
      .ok (refs, next)) : Rows known next := by
  unfold PostgresStore.reclaimStaleProcessing at reply
  split at reply
  · cases reply
  · split at reply
    · cases reply
    · unfold Postgres.reclaimStaleIn at reply
      split at reply
      · cases reply
      · rw [← (Prod.mk.inj (Except.ok.inj reply)).2]
        apply rows.map
        intro task
        split
        · exact originOf_settle task _ _
        · rfl

theorem postgresCall_rows (rows : Rows known tasks) {service : TaskService} {outbox : Bool}
    {clock : Int} {request : Request} {chosen : List (List String)}
    (called : postgresCall service outbox clock request chosen tasks = some next) :
    Rows known next := by
  cases request with
  | markProcessing taskId =>
      rw [← Option.some.inj called]
      exact rows.answered fun claimed next reply => postgres_claim_rows rows reply
  | markCompleted taskId result =>
      rw [← Option.some.inj called]
      apply rows.written
      intro next reply
      unfold PostgresStore.markCompleted at reply
      split at reply
      · exact postgres_finish_rows rows clock taskId .completed _ none reply
      · cases reply
  | markFailed taskId error =>
      rw [← Option.some.inj called]
      apply rows.written
      intro next reply
      unfold PostgresStore.markFailed at reply
      split at reply
      · exact postgres_finish_rows rows clock taskId .failed none _ reply
      · cases reply
  | reclaimStaleProcessing now limit maxAttempts announced =>
      unfold postgresCall at called
      dsimp only at called
      split at called
      · rw [← Option.some.inj called]
        exact rows
      · rw [← Option.some.inj called]
        exact rows.answered fun refs next reply => postgres_reclaim_rows rows reply
  | deleteExpired before limit =>
      rw [← Option.some.inj called]
      unfold postgresDelete
      split
      · exact rows
      · exact rows.erase _
  | submit id type payload principal requestId announced => cases called
  | reclaimKey key now maxAttempts => cases called
  | write index remaining => cases called

/-- A column keeps a text, or refuses it, unless it is too long and ends in a blank. -/
theorem varchar_unchanged {width : Nat} {text stored : String}
    (unblank : width < text.toList.length → text.toList.getLast? ≠ some ' ')
    (kept : PostgresStore.varchar width text = some stored) : stored = text := by
  unfold PostgresStore.varchar at kept
  split at kept
  · unfold Columns.storedText at kept
    split at kept
    · exact (Option.some.inj kept).symm
    · split at kept
      · rename_i long blanks
        have rest : text.toList.drop width ≠ [] := by
          intro short
          exact long (List.drop_eq_nil_iff.mp short)
        have blank := List.all_eq_true.mp blanks _ (List.getLast_mem rest)
        have last : text.toList.getLast? = some ' ' := by
          rw [← List.take_append_drop width text.toList, List.getLast?_append_of_ne_nil _ rest,
            List.getLast?_eq_some_getLast rest, of_decide_eq_true blank]
        exact absurd last (unblank (by omega))
      · cases kept
  · cases kept

end Tables

section Keys

variable {namespace_ : String} {known : Origin → Prop} {clock : Int} {db next : Db}

theorem Document.claim {key : String} {task : TaskRecord}
    (here : Document namespace_ known key task)
    {now leaseSeconds : Int} (time : Representable now)
    (lease : Representable (now + timedelta leaseSeconds)) :
    Document namespace_ known key (task.claim now leaseSeconds now) :=
  ⟨here.key, encodable_claim here.encodable time lease, here.known⟩

theorem Document.updateStatus {key : String} {task : TaskRecord}
    (here : Document namespace_ known key task) {status : TaskStatus} {result : Option Json}
    {error : Option String} (time : Representable clock) (document : result ≠ some .null) :
    Document namespace_ known key (task.updateStatus status result error clock) :=
  ⟨here.key, encodable_updateStatus here.encodable time document, here.known⟩

theorem Document.settle {key : String} {task : TaskRecord}
    (here : Document namespace_ known key task) {now : Int} (time : Representable now)
    (maxAttempts : Int) : Document namespace_ known key (task.settle maxAttempts now) where
  key := by
    rw [settle_id]
    exact here.key
  encodable := encodable_settle here.encodable maxAttempts time
  known := by
    rw [originOf_settle]
    exact here.known

theorem read_document (documents : Documents namespace_ known db) {key : String} {raw : Json}
    (found : read clock db key = some raw) :
    ∃ task, deserialize raw = some task ∧ Document namespace_ known key task := by
  unfold RedisStore.read RedisStore.alive at found
  have ⟨entry, kept, same⟩ := Option.map_eq_some_iff.mp found
  have ⟨present, _⟩ := Option.filter_eq_some_iff.mp kept
  have ⟨member, named⟩ := Table.find_some.mp present
  rw [← same, ← named]
  exact documents entry member

theorem setex_documents (documents : Documents namespace_ known db) {key : String}
    {task : TaskRecord} (here : Document namespace_ known key task) (ttl : Int) :
    Documents namespace_ known (setex clock db key ttl (serialize task)) := by
  intro entry found
  rcases Table.mem_put found with same | ⟨old, _⟩
  · rw [same]
    exact ⟨task, deserialize_serialize here.encodable, here⟩
  · exact documents entry old

theorem transition_documents (clock : Int)
    (documents : Documents namespace_ known db) {key : String}
    {mutate : TaskRecord → Option TaskRecord}
    (keeps : ∀ task next, Document namespace_ known key task → mutate task = some next →
      Document namespace_ known key next) :
    ∃ outcome next, transition clock key mutate db = .ok (outcome, next) ∧
      Documents namespace_ known next := by
  unfold transition
  cases found : read clock db key with
  | none => exact ⟨none, db, rfl, documents⟩
  | some raw =>
      have ⟨task, decoded, here⟩ := read_document documents found
      dsimp only
      rw [decoded]
      cases saved : mutate task with
      | none =>
          simp only [saved]
          exact ⟨_, db, rfl, documents⟩
      | some written =>
          simp only [saved]
          exact ⟨_, _, rfl, setex_documents documents (keeps task written here saved) _⟩

theorem claim_keeps (key : String) {now leaseSeconds : Int} (time : Representable now)
    (lease : Representable (now + timedelta leaseSeconds)) (task next : TaskRecord)
    (here : Document namespace_ known key task)
    (claimed : Redis.claim leaseSeconds now task = some next) :
    Document namespace_ known key next := by
  unfold Redis.claim at claimed
  split at claimed
  · cases claimed
  · rw [← Option.some.inj claimed]
    exact here.claim time lease

theorem reclaim_keeps (key : String) {now : Int} (time : Representable now) (maxAttempts : Int)
    (task next : TaskRecord) (here : Document namespace_ known key task)
    (settled : Redis.reclaim now maxAttempts task = some next) :
    Document namespace_ known key next := by
  unfold Redis.reclaim at settled
  split at settled
  · rw [← Option.some.inj settled]
    exact here.settle time maxAttempts
  · cases settled

theorem reclaimKeys_documents (clock : Int) {now : Int} (time : Representable now)
    (limit maxAttempts settled : Int) (keys : List String)
    (documents : Documents namespace_ known db) :
    ∃ count refs next, reclaimKeys clock now limit maxAttempts settled keys db =
      .ok (count, refs, next) ∧ Documents namespace_ known next := by
  induction keys generalizing settled db with
  | nil => exact ⟨settled, [], db, rfl, documents⟩
  | cons key rest ih =>
      unfold reclaimKeys
      split
      · exact ⟨settled, [], db, rfl, documents⟩
      · obtain ⟨outcome, middle, moved, kept⟩ :=
          transition_documents clock documents (reclaim_keeps key time maxAttempts)
        rw [moved]
        cases outcome with
        | none => exact ih settled kept
        | some pair =>
            obtain ⟨task, saved⟩ := pair
            cases saved with
            | false => exact ih settled kept
            | true =>
                obtain ⟨count, refs, next, swept, last⟩ := ih (settled + 1) kept
                refine ⟨count, if task.status = .queued then task.ref :: refs else refs, next,
                  ?_, last⟩
                simp only [swept, Except.map]

theorem reclaimReplies_documents (clock : Int) {now : Int} (time : Representable now)
    (limit maxAttempts settled : Int) (replies : List (List String))
    (documents : Documents namespace_ known db) :
    ∃ count refs next, reclaimReplies clock now limit maxAttempts settled replies db =
      .ok (count, refs, next) ∧ Documents namespace_ known next := by
  induction replies generalizing settled db with
  | nil => exact ⟨settled, [], db, rfl, documents⟩
  | cons keys rest ih =>
      unfold reclaimReplies
      split
      · exact ⟨settled, [], db, rfl, documents⟩
      · obtain ⟨count, refs, middle, swept, kept⟩ :=
          reclaimKeys_documents clock time limit maxAttempts settled keys documents
        obtain ⟨total, more, next, onward, last⟩ := ih count kept
        refine ⟨total, refs ++ more, next, ?_, last⟩
        rw [swept]
        simp only [onward, Except.map]

end Keys

section Steps

variable {known : Origin → Prop} {service : TaskService}

theorem claim_documents {namespace_ : String} (clock : Instant) {db : Db}
    (documents : Documents namespace_ known db) (chosen : List (List String)) (taskId : String)
    {leaseSeconds : Int} (lease : Representable (clock + timedelta leaseSeconds)) :
    Documents namespace_ known
      (redisPerform namespace_ clock chosen db (.markProcessing taskId leaseSeconds clock)).2 := by
  show Documents namespace_ known (answered db _ _).2
  unfold markProcessing
  split
  · exact documents
  · have ⟨outcome, next, moved, kept⟩ :=
      transition_documents clock documents (claim_keeps (keyOf namespace_ taskId) clock.2 lease)
    rw [Option.getD_some, moved]
    cases outcome with
    | none => exact documents
    | some pair => exact kept

theorem reclaim_documents {namespace_ : String} (clock now : Instant) {db : Db}
    (documents : Documents namespace_ known db) (chosen : List (List String))
    (limit maxAttempts : Int) :
    Documents namespace_ known
      (redisPerform namespace_ clock chosen db (.reclaim now limit maxAttempts)).2 := by
  show Documents namespace_ known (answered db _ _).2
  unfold reclaimStaleProcessing
  split
  · exact documents
  · have ⟨count, refs, next, swept, kept⟩ :=
      reclaimReplies_documents clock now.2 limit maxAttempts 0 chosen documents
    rw [swept]
    exact kept

theorem beginUpdate_all {namespace_ : String} {clock : Int} {taskId : String} {status : TaskStatus}
    {result : Option Json} {error : Option String} {state next : RedisState}
    (all : All (.redis namespace_) known state) (time : Representable clock)
    (document : result ≠ some .null)
    (called : (match beginUpdate namespace_ clock taskId status result error state with
      | .error _ => some state
      | .ok begun => some begun) = some next) : All (.redis namespace_) known next := by
  unfold beginUpdate at called
  dsimp only at called
  cases found : read clock state.db (keyOf namespace_ taskId) with
  | none =>
      rw [found] at called
      rw [← Option.some.inj called]
      exact all
  | some raw =>
      have ⟨task, decoded, here⟩ := read_document all.1 found
      rw [found] at called
      dsimp only at called
      rw [decoded] at called
      rw [← Option.some.inj called]
      refine ⟨all.1, List.forall_mem_append.mpr ⟨all.2, List.forall_mem_singleton.mpr ?_⟩⟩
      exact here.updateStatus time document

theorem finishUpdate_all {namespace_ : String} {clock : Int} {index : Nat} {remaining : Int}
    {state next : RedisState} (all : All (.redis namespace_) known state)
    (finished : finishUpdate clock index remaining state = some next) :
    All (.redis namespace_) known next := by
  unfold finishUpdate at finished
  split at finished
  · cases finished
  · rename_i key task pending
    rw [← Option.some.inj finished]
    have here := all.2 (key, task) (List.mem_of_getElem? pending)
    refine ⟨setex_documents all.1 here _, fun update found => all.2 update ?_⟩
    exact List.mem_of_mem_eraseIdx found

theorem redisCall_all {namespace_ : String} {clock : Instant} {request : Request}
    {chosen : List (List String)} {state next : RedisState}
    (all : All (.redis namespace_) known state)
    (called : redisCall service namespace_ clock request chosen state = some next) :
    All (.redis namespace_) known next := by
  cases request with
  | markProcessing taskId =>
      unfold redisCall at called
      dsimp only at called
      split at called
      · rename_i lease
        rw [← Option.some.inj called]
        exact ⟨claim_documents clock all.1 chosen taskId lease, all.2⟩
      · rw [← Option.some.inj called]
        exact all
  | markCompleted taskId result => exact beginUpdate_all all clock.2 (by simp) called
  | markFailed taskId error => exact beginUpdate_all all clock.2 (by simp) called
  | reclaimStaleProcessing now limit maxAttempts announced =>
      rw [← Option.some.inj called]
      exact ⟨reclaim_documents clock now all.1 chosen limit maxAttempts, all.2⟩
  | deleteExpired before limit =>
      rw [← Option.some.inj called]
      exact all
  | reclaimKey key now maxAttempts =>
      have ⟨outcome, db, moved, kept⟩ :=
        transition_documents clock all.1 (reclaim_keeps key now.2 maxAttempts)
      unfold redisCall at called
      dsimp only at called
      rw [moved] at called
      rw [← Option.some.inj called]
      exact ⟨kept, all.2⟩
  | write index remaining => exact finishUpdate_all all called
  | submit id type payload principal requestId announced => cases called

theorem call_all {backend : Backend} {clock : Instant} {request : Request}
    {chosen : List (List String)} {store next : backend.State} (all : All backend known store)
    (called : call service backend clock request chosen store = some next) :
    All backend known next := by
  cases backend with
  | memory => exact memoryCall_rows all called
  | postgres outbox => exact postgresCall_rows all called
  | redis namespace_ => exact redisCall_all all called

/-- A type that the `type` column of Postgres keeps as it is, or refuses. The API submits
`COMPLETION_TASK_TYPE`, which is `"completion"`. -/
def Named : Backend → Request → Prop
  | .postgres _, .submit _ type _ _ _ _ =>
      64 < type.toList.length → type.toList.getLast? ≠ some ' '
  | _, _ => True

theorem storedRow_origin {task row : TaskRecord} (id : task.id.toList.length = 36)
    (type : 64 < task.type.toList.length → task.type.toList.getLast? ≠ some ' ')
    (principalId : task.principalId.toList.getLast? ≠ some ' ')
    (stored : PostgresStore.storedRow task = some row) : originOf row = originOf task := by
  unfold PostgresStore.storedRow at stored
  simp only [Option.bind_eq_bind, Option.bind_eq_some_iff] at stored
  have ⟨storedId, sameId, storedType, sameType, storedOwner, sameOwner, request, _, rest⟩ := stored
  split at rest
  · rw [← Option.some.inj rest]
    unfold originOf
    rw [varchar_unchanged (by omega) sameId, varchar_unchanged type sameType,
      varchar_unchanged (fun _ => principalId) sameOwner]
  · cases rest

/-- A principal's id, like every stripped text, does not end in a blank. -/
theorem principal_unblank (principal : Principal) :
    principal.id.toList.getLast? ≠ some ' ' := by
  have ⟨text, same⟩ := principal.stripped
  intro blank
  rw [same] at blank
  have space := Text.strip_last text blank
  cases space

theorem create_all {backend : Backend} {clock : Instant} {announced : Bool} {task : TaskRecord}
    {store next : backend.State} (all : All backend known store) (encodable : Encodable task)
    (new : known (originOf task))
    (kept : ∀ outbox row, backend = .postgres outbox → PostgresStore.storedRow task = some row →
      originOf row = originOf task)
    (created : create backend clock announced task store = .ok next) : All backend known next := by
  cases backend with
  | memory =>
      have made : Memory.create clock task store = .ok next := created
      unfold Memory.create at made
      dsimp only at made
      split at made
      · cases made
      · rename_i inserted
        rw [← Except.ok.inj made]
        exact Rows.insert all inserted new
  | postgres outbox =>
      have made : (if outbox && !announced then .error .dataError
        else PostgresStore.create clock task store) = .ok next := created
      split at made
      · cases made
      · unfold PostgresStore.create at made
        split at made
        · cases made
        · rename_i row stored
          unfold Postgres.create at made
          split at made
          · cases made
          · rename_i inserted
            rw [← Except.ok.inj made]
            refine Rows.insert all inserted ?_
            show known (originOf row)
            rw [kept outbox row rfl stored]
            exact new
  | redis namespace_ =>
      rw [← Except.ok.inj created]
      refine ⟨setex_documents all.1 ⟨rfl, encodable_stamped encodable clock.2, new⟩ _, all.2⟩

/-- What a call submits. -/
def Request.origins : Request → List Origin
  | .submit id type _ principal _ _ => [⟨id.text, principal.id, type⟩]
  | _ => []

/-- A step keeps the origins of the tasks and adds those that it submits. -/
theorem step_all {backend : Backend} {run next : Run backend} {turn : Turn}
    (all : All backend known run.store) (named : Named backend turn.request)
    (new : ∀ origin ∈ turn.request.origins, known origin)
    (stepped : step service backend run turn = some next) : All backend known next.store := by
  unfold step at stepped
  split at stepped
  · rename_i id type payload principal requestId announced request
    rw [request] at named new
    split at stepped
    · rw [← Option.some.inj stepped]
      exact all
    · rename_i representable
      dsimp only at stepped
      split at stepped
      · rw [← Option.some.inj stepped]
        exact all
      · rename_i store created
        rw [← Option.some.inj stepped]
        refine create_all all ?_ (new _ (List.mem_singleton_self _)) ?_ created
        · exact
            { lockedUntil := nofun
              expiresAt := not_not.mp representable
              createdAt := fun _ same => Option.some.inj same ▸ turn.clock.2
              updatedAt := fun _ same => Option.some.inj same ▸ turn.clock.2
              result := nofun }
        · intro outbox row postgres stored
          subst postgres
          exact storedRow_origin id.length named (principal_unblank principal) stored
  · have ⟨store, called, same⟩ := Option.map_eq_some_iff.mp stepped
    rw [← same]
    exact call_all all called

/-- A call is logged with what it submits, unless it changes nothing. -/
theorem step_submitted {backend : Backend} {run next : Run backend} {turn : Turn}
    (stepped : step service backend run turn = some next) :
    next = run ∨ next.submitted = run.submitted ++ turn.request.origins := by
  unfold step at stepped
  split at stepped
  · rename_i id type payload principal requestId announced request
    split at stepped
    · exact .inl (Option.some.inj stepped).symm
    · dsimp only at stepped
      split at stepped
      · exact .inl (Option.some.inj stepped).symm
      · rw [← Option.some.inj stepped, request]
        exact .inr rfl
  · rename_i other
    have ⟨store, called, same⟩ := Option.map_eq_some_iff.mp stepped
    have nothing : turn.request.origins = [] := by
      unfold Request.origins
      split
      · rename_i request
        exact absurd request (other _ _ _ _ _ _)
      · rfl
    rw [← same, nothing, List.append_nil]
    exact .inr rfl

end Steps

section Reads

variable {backend : Backend}

/-- The tasks that a store answers with at this time. -/
def Stored (backend : Backend) (clock : Int) (store : backend.State) (task : TaskRecord) : Prop :=
  match backend with
  | .memory => task ∈ store.rows
  | .postgres _ => task ∈ store.rows
  | .redis _ =>
      ∃ entry ∈ store.db.rows, clock < entry.deadline ∧ deserialize entry.value = some task

/-- A store whose documents are those of tasks, under their keys. -/
def Readable (backend : Backend) (store : backend.State) : Prop :=
  All backend (fun _ => True) store

/-- Postgres takes no text with a NUL character as a parameter. -/
def Accepts (backend : Backend) (taskId principalId : String) : Prop :=
  match backend with
  | .postgres _ => Columns.sendable taskId ∧ Columns.sendable principalId
  | _ => True

theorem table_get {tasks : TaskTable} (taskId principalId : String) (task : TaskRecord) :
    (tasks.find taskId).filter (fun task => (some principalId).all (task.principalId = ·)) =
        some task ↔
      task ∈ tasks.rows ∧ task.id = taskId ∧ task.principalId = principalId := by
  rw [Option.filter_eq_some_iff, Table.find_some]
  simp only [Option.all_some, decide_eq_true_eq, and_assoc]

theorem read_iff {clock : Int} {db : Db} {key : String} {raw : Json} :
    read clock db key = some raw ↔
      ∃ entry ∈ db.rows, entry.key = key ∧ clock < entry.deadline ∧ entry.value = raw := by
  unfold RedisStore.read RedisStore.alive
  rw [Option.map_eq_some_iff]
  constructor
  · intro ⟨entry, kept, same⟩
    have ⟨present, alive⟩ := Option.filter_eq_some_iff.mp kept
    have ⟨member, named⟩ := Table.find_some.mp present
    exact ⟨entry, member, named, of_decide_eq_true alive, same⟩
  · intro ⟨entry, member, named, alive, same⟩
    have present := Table.find_some.mpr ⟨member, named⟩
    exact ⟨entry, Option.filter_eq_some_iff.mpr ⟨present, decide_eq_true alive⟩, same⟩

/-- The documents that `GET` finds are those of the tasks that are stored. -/
theorem stored_iff {namespace_ : String} {clock : Int} {state : RedisState}
    (readable : Readable (.redis namespace_) state) {task : TaskRecord} :
    Stored (.redis namespace_) clock state task ↔
      ∃ raw, read clock state.db (keyOf namespace_ task.id) = some raw ∧
        deserialize raw = some task := by
  constructor
  · intro ⟨entry, member, alive, decoded⟩
    have ⟨other, same, here⟩ := readable.1 entry member
    rw [decoded] at same
    rw [← Option.some.inj same] at here
    exact ⟨entry.value, read_iff.mpr ⟨entry, member, here.key, alive, rfl⟩, decoded⟩
  · intro ⟨raw, found, decoded⟩
    have ⟨entry, member, _, alive, same⟩ := read_iff.mp found
    exact ⟨entry, member, alive, by rw [same, decoded]⟩

theorem redis_get {namespace_ : String} {clock : Int} {state : RedisState}
    (readable : Readable (.redis namespace_) state) (taskId principalId : String) :
    ∃ found, RedisStore.get namespace_ clock taskId (some principalId) state.db = .ok found ∧
      ∀ task, found = some task ↔ Stored (.redis namespace_) clock state task ∧
        task.id = taskId ∧ task.principalId = principalId := by
  unfold RedisStore.get
  cases found : read clock state.db (keyOf namespace_ taskId) with
  | none =>
      refine ⟨none, rfl, fun task => ⟨nofun, ?_⟩⟩
      intro ⟨stored, same, _⟩
      have ⟨raw, present, _⟩ := (stored_iff readable).mp stored
      rw [same, found] at present
      cases present
  | some raw =>
      have ⟨task, decoded, here⟩ := read_document readable.1 found
      have named : taskId = task.id := keyOf_inj.mp here.key
      simp only [decoded, Option.all_some, decide_eq_true_eq]
      refine ⟨_, rfl, fun other => ?_⟩
      have one : Stored (.redis namespace_) clock state other ∧ other.id = taskId ↔
          other = task := by
        rw [stored_iff readable]
        constructor
        · intro ⟨⟨value, present, carried⟩, same⟩
          rw [same, found] at present
          rw [← Option.some.inj present, decoded] at carried
          exact (Option.some.inj carried).symm
        · intro same
          rw [same, ← named]
          exact ⟨⟨raw, found, decoded⟩, rfl⟩
      rw [← and_assoc, one]
      by_cases mine : task.principalId = principalId
      · rw [if_pos mine, Option.some.injEq]
        constructor
        · intro same
          rw [← same]
          exact ⟨rfl, mine⟩
        · intro ⟨same, _⟩
          exact same.symm
      · rw [if_neg mine]
        constructor
        · nofun
        · intro ⟨same, owner⟩
          rw [same] at owner
          exact absurd owner mine

/-- A read that the store accepts finds the task with this id and owner, if it is there. -/
theorem get_spec (clock : Int) {store : backend.State} (readable : Readable backend store)
    {taskId principalId : String} (accepts : Accepts backend taskId principalId) :
    ∃ found, get backend clock taskId (some principalId) store = .ok found ∧
      ∀ task, found = some task ↔ Stored backend clock store task ∧
        task.id = taskId ∧ task.principalId = principalId := by
  cases backend with
  | memory => exact ⟨_, rfl, fun task => table_get taskId principalId task⟩
  | postgres outbox =>
      refine ⟨_, ?_, fun task => table_get taskId principalId task⟩
      have sent : Columns.sendable taskId ∧ ∀ principal ∈ some principalId,
          Columns.sendable principal := by
        refine ⟨accepts.1, ?_⟩
        intro principal same
        rw [← Option.some.inj same]
        exact accepts.2
      exact if_pos sent
  | redis namespace_ => exact redis_get readable taskId principalId

end Reads

end AiPlatform.Tasks.Ownership

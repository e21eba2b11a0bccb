import AiPlatform.Tasks.Record

set_option autoImplicit false

/- What a `TaskStore` is for, apart from how it keeps its records and from the timestamps it
gives them. -/
namespace AiPlatform.Tasks.Store

inductive Operation where
  | create (task : TaskRecord)
  | get (taskId : String) (principalId : Option String)
  | markProcessing (taskId : String) (leaseSeconds now : Int)
  | markCompleted (taskId : String) (result : Json)
  | markFailed (taskId : String) (error : String)
  | reclaim (now limit maxAttempts : Int)

inductive Answer where
  | done
  | found (task : Option TaskRecord)
  | claimed (applied : Bool)
  | reclaimed (refs : List TaskRef)
  | raised (error : StoreError)

/-- The record without `created_at` and `updated_at`. -/
def timeless (task : TaskRecord) : TaskRecord := { task with createdAt := none, updatedAt := none }

/-- Equal answers, up to timestamps and the order of the refs. -/
def Answer.Agrees : Answer → Answer → Prop
  | .done, .done => True
  | .found left, .found right => left.map timeless = right.map timeless
  | .claimed left, .claimed right => left = right
  | .reclaimed left, .reclaimed right => ∀ ref, ref ∈ left ↔ ref ∈ right
  | .raised left, .raised right => left = right
  | _, _ => False

/-- What a store says of each id. -/
abbrev Content := String → Option TaskRecord

def content (records : List TaskRecord) : Content := fun taskId =>
  (records.find? fun task => decide (task.id = taskId)).map timeless

def Content.write (content : Content) (task : TaskRecord) : Content := fun taskId =>
  if taskId = task.id then some (timeless task) else content taskId

/-- The status write of `mark_completed` and `mark_failed`. -/
def Content.finish (content : Content) (taskId : String) (status : TaskStatus)
    (result : Option Json) (error : Option String) : Answer × Content :=
  match content taskId with
  | none => (.raised (.keyError taskId), content)
  | some task => (.done, content.write (task.updateStatus status result error 0))

/-- Every operation but a reclaim with a positive limit, on the content of a store. -/
def Content.perform (content : Content) : Operation → Answer × Content
  | .create task => (.done, content.write task)
  | .get taskId principalId =>
      (.found ((content taskId).filter fun task => principalId.all (task.principalId = ·)), content)
  | .markProcessing taskId leaseSeconds now =>
      if leaseSeconds ≤ 0 then (.raised (.valueError "lease_seconds must be positive"), content)
      else
        match content taskId with
        | none => (.raised (.keyError taskId), content)
        | some task =>
            if task.claimable now then
              (.claimed true, content.write (task.claim now leaseSeconds 0))
            else (.claimed false, content)
  | .markCompleted taskId result => content.finish taskId .completed (some result) none
  | .markFailed taskId error => content.finish taskId .failed none (some error)
  | .reclaim _ _ _ => (.raised (.valueError "limit must be positive"), content)

def expired (now : Int) (records : List TaskRecord) : List TaskRecord :=
  records.filter (·.leaseExpired now)

/-- A reclaim that settled exactly the tasks in `picked`. -/
structure Settles (now maxAttempts : Int) (before after : List TaskRecord) (refs : List TaskRef)
    (picked : List String) : Prop where
  distinct : picked.Nodup
  within : ∀ taskId ∈ picked, taskId ∈ (expired now before).map TaskRecord.id
  leaves : ∀ taskId, content after taskId =
    if taskId ∈ picked then
      (content before taskId).map fun task => timeless (task.settle maxAttempts 0)
    else content before taskId
  refs : ∀ ref, ref ∈ refs ↔
    ∃ task ∈ before, task.id ∈ picked ∧ task.attempts < maxAttempts ∧ task.ref = ref

/-- What an operation answers and leaves behind, whichever store performs it. -/
inductive Effect : Operation → List TaskRecord → Answer → List TaskRecord → Prop where
  | settles {now limit maxAttempts : Int} {before after : List TaskRecord} {refs : List TaskRef}
      {picked : List String} (positive : 0 < limit)
      (many : picked.length = min limit.toNat (expired now before).length)
      (settles : Settles now maxAttempts before after refs picked) :
      Effect (.reclaim now limit maxAttempts) before (.reclaimed refs) after
  | performs {operation : Operation} {before after : List TaskRecord} {answer : Answer}
      (other : ∀ now limit maxAttempts, operation = .reclaim now limit maxAttempts → limit ≤ 0)
      (answers : answer.Agrees ((content before).perform operation).1)
      (leaves : content after = ((content before).perform operation).2) :
      Effect operation before answer after

/-- The tasks whose lease had expired and that have no expired lease any more. -/
def settled (now : Int) (before after : List TaskRecord) : List TaskRecord :=
  (expired now before).filter fun task => !(content after task.id).any (·.leaseExpired now)

/-- A reclaim settles as many tasks as its limit allows and leaves the others alone. -/
def SettlesUpTo (now limit : Int) (before after : List TaskRecord) : Prop :=
  (settled now before after).length = min limit.toNat (expired now before).length ∧
    ∀ taskId, taskId ∉ (settled now before after).map TaskRecord.id →
      content after taskId = content before taskId

@[simp] theorem timeless_id (task : TaskRecord) : (timeless task).id = task.id := rfl

@[simp] theorem timeless_ref (task : TaskRecord) : (timeless task).ref = task.ref := rfl

@[simp] theorem timeless_principalId (task : TaskRecord) :
    (timeless task).principalId = task.principalId := rfl

@[simp] theorem timeless_attempts (task : TaskRecord) :
    (timeless task).attempts = task.attempts := rfl

@[simp] theorem timeless_leaseExpired (task : TaskRecord) (now : Int) :
    (timeless task).leaseExpired now = task.leaseExpired now := rfl

@[simp] theorem timeless_claimable (task : TaskRecord) (now : Int) :
    (timeless task).claimable now = task.claimable now := rfl

@[simp] theorem timeless_timeless (task : TaskRecord) :
    timeless (timeless task) = timeless task := rfl

theorem timeless_claim (task : TaskRecord) (now leaseSeconds stamp : Int) :
    timeless (task.claim now leaseSeconds stamp) = timeless (task.claim now leaseSeconds 0) := rfl

theorem timeless_updateStatus (task : TaskRecord) (status : TaskStatus) (result : Option Json)
    (error : Option String) (stamp : Int) :
    timeless (task.updateStatus status result error stamp) =
      timeless (task.updateStatus status result error 0) := rfl

theorem timeless_settle (task : TaskRecord) (maxAttempts stamp other : Int) :
    timeless ((timeless task).settle maxAttempts stamp) =
      timeless (task.settle maxAttempts other) := by
  unfold TaskRecord.settle
  rw [timeless_attempts]
  split <;> rfl

theorem settle_not_leaseExpired (task : TaskRecord) (maxAttempts stamp now : Int) :
    (task.settle maxAttempts stamp).leaseExpired now = false := by
  unfold TaskRecord.settle
  split <;> rfl

theorem Answer.Agrees.refl (answer : Answer) : answer.Agrees answer := by
  cases answer with
  | done => trivial
  | found task => rfl
  | claimed applied => rfl
  | reclaimed refs => exact fun ref => Iff.rfl
  | raised error => rfl

theorem Answer.Agrees.of_common {left right common : Answer} (first : left.Agrees common)
    (second : right.Agrees common) : left.Agrees right := by
  cases common <;> cases left <;> first | exact first.elim | skip
  all_goals cases right <;> first | exact second.elim | skip
  · trivial
  · exact Eq.trans first (Eq.symm second)
  · exact Eq.trans first (Eq.symm second)
  · intro ref
    rw [first ref, second ref]
  · exact Eq.trans first (Eq.symm second)

theorem Settles.refl (now maxAttempts : Int) (records : List TaskRecord) :
    Settles now maxAttempts records records [] [] where
  distinct := List.nodup_nil
  within := fun _ none => nomatch none
  leaves := fun _ => rfl
  refs := by simp

section Records

variable {records : List TaskRecord} (unique : (records.map TaskRecord.id).Nodup)

include unique

theorem content_eq_some {taskId : String} {seen : TaskRecord} :
    content records taskId = some seen ↔
      ∃ task ∈ records, task.id = taskId ∧ timeless task = seen := by
  have lookup : content records taskId =
      ((Table.mk records unique : TaskTable).find taskId).map timeless := rfl
  rw [lookup, Option.map_eq_some_iff]
  constructor
  · rintro ⟨task, found, rfl⟩
    obtain ⟨member, here⟩ := Table.find_some.mp found
    exact ⟨task, member, here, rfl⟩
  · rintro ⟨task, member, here, rfl⟩
    exact ⟨task, Table.find_some.mpr ⟨member, here⟩, rfl⟩

theorem content_mem {task : TaskRecord} (member : task ∈ records) :
    content records task.id = some (timeless task) :=
  (content_eq_some unique).mpr ⟨task, member, rfl, rfl⟩

/-- The content decides which leases have expired. -/
theorem mem_expired {now : Int} {taskId : String} :
    taskId ∈ (expired now records).map TaskRecord.id ↔
      ∃ seen, content records taskId = some seen ∧ seen.leaseExpired now = true := by
  constructor
  · intro inside
    obtain ⟨task, kept, rfl⟩ := List.mem_map.mp inside
    obtain ⟨member, lapsed⟩ := List.mem_filter.mp kept
    exact ⟨timeless task, content_mem unique member, lapsed⟩
  · rintro ⟨seen, found, lapsed⟩
    obtain ⟨task, member, rfl, rfl⟩ := (content_eq_some unique).mp found
    exact List.mem_map.mpr ⟨task, List.mem_filter.mpr ⟨member, lapsed⟩, rfl⟩

theorem expired_unique (now : Int) : ((expired now records).map TaskRecord.id).Nodup :=
  unique.sublist (List.filter_sublist.map TaskRecord.id)

theorem mem_settled {now maxAttempts : Int} {after : List TaskRecord} {refs : List TaskRef}
    {picked : List String} (settles : Settles now maxAttempts records after refs picked)
    {taskId : String} :
    taskId ∈ (settled now records after).map TaskRecord.id ↔ taskId ∈ picked := by
  have decided : ∀ task ∈ records, task.leaseExpired now = true →
      ((!(content after task.id).any (·.leaseExpired now)) = true ↔ task.id ∈ picked) := by
    intro task member lapsed
    rw [settles.leaves, content_mem unique member]
    by_cases chosen : task.id ∈ picked
    · rw [if_pos chosen, Option.map_some, Option.any_some, timeless_leaseExpired,
        settle_not_leaseExpired]
      simp [chosen]
    · rw [if_neg chosen, Option.any_some, timeless_leaseExpired, lapsed]
      simp [chosen]
  constructor
  · intro inside
    obtain ⟨task, kept, rfl⟩ := List.mem_map.mp inside
    obtain ⟨old, cleared⟩ := List.mem_filter.mp kept
    obtain ⟨member, lapsed⟩ := List.mem_filter.mp old
    exact (decided task member lapsed).mp cleared
  · intro chosen
    obtain ⟨task, old, rfl⟩ := List.mem_map.mp (settles.within taskId chosen)
    obtain ⟨member, lapsed⟩ := List.mem_filter.mp old
    exact List.mem_map.mpr
      ⟨task, List.mem_filter.mpr ⟨old, (decided task member lapsed).mpr chosen⟩, rfl⟩

theorem Settles.settlesUpTo {now limit maxAttempts : Int} {after : List TaskRecord}
    {refs : List TaskRef} {picked : List String}
    (settles : Settles now maxAttempts records after refs picked)
    (many : picked.length = min limit.toNat (expired now records).length) :
    SettlesUpTo now limit records after := by
  have nodup : ((settled now records after).map TaskRecord.id).Nodup :=
    (expired_unique unique now).sublist (List.filter_sublist.map TaskRecord.id)
  have same : ((settled now records after).map TaskRecord.id).Perm picked :=
    (List.perm_ext_iff_of_nodup nodup settles.distinct).mpr fun taskId => mem_settled unique settles
  constructor
  · rw [← many, ← same.length_eq, List.length_map]
  · intro taskId kept
    rw [mem_settled unique settles] at kept
    rw [settles.leaves, if_neg kept]

/-- With a limit for all of them, every task with an expired lease is picked. -/
theorem Settles.mem_picked {now limit maxAttempts : Int} {after : List TaskRecord}
    {refs : List TaskRef} {picked : List String}
    (settles : Settles now maxAttempts records after refs picked)
    (many : picked.length = min limit.toNat (expired now records).length)
    (ample : (expired now records).length ≤ limit.toNat) {taskId : String} :
    taskId ∈ picked ↔
      ∃ seen, content records taskId = some seen ∧ seen.leaseExpired now = true := by
  have within : picked.Subperm ((expired now records).map TaskRecord.id) :=
    List.subperm_of_subset settles.distinct settles.within
  have large : ((expired now records).map TaskRecord.id).length ≤ picked.length := by
    rw [List.length_map, many]
    omega
  rw [(within.perm_of_length_le large).mem_iff, mem_expired unique]

theorem Settles.mem_refs {now maxAttempts : Int} {after : List TaskRecord} {refs : List TaskRef}
    {picked : List String} (settles : Settles now maxAttempts records after refs picked)
    {ref : TaskRef} :
    ref ∈ refs ↔ ∃ taskId ∈ picked, ∃ seen, content records taskId = some seen ∧
      seen.attempts < maxAttempts ∧ seen.ref = ref := by
  rw [settles.refs]
  constructor
  · rintro ⟨task, member, chosen, below, rfl⟩
    exact ⟨task.id, chosen, timeless task, content_mem unique member, below, rfl⟩
  · rintro ⟨taskId, chosen, seen, found, below, rfl⟩
    obtain ⟨task, member, rfl, rfl⟩ := (content_eq_some unique).mp found
    exact ⟨task, member, chosen, below, rfl⟩

/-- Two passes in a row settle what either of them does. -/
theorem Settles.trans {now maxAttempts : Int} {middle after : List TaskRecord}
    {first second : List TaskRef} {picked more : List String}
    (uniqueMiddle : (middle.map TaskRecord.id).Nodup)
    (settles : Settles now maxAttempts records middle first picked)
    (onward : Settles now maxAttempts middle after second more) :
    Settles now maxAttempts records after (first ++ second) (picked ++ more) := by
  have apart : ∀ taskId ∈ picked, taskId ∉ more := by
    intro taskId chosen again
    obtain ⟨seen, found, lapsed⟩ := (mem_expired uniqueMiddle).mp (onward.within taskId again)
    rw [settles.leaves, if_pos chosen] at found
    obtain ⟨task, -, rfl⟩ := Option.map_eq_some_iff.mp found
    rw [timeless_leaseExpired, settle_not_leaseExpired] at lapsed
    cases lapsed
  have untouched : ∀ taskId ∈ more, content middle taskId = content records taskId := by
    intro taskId again
    rw [settles.leaves, if_neg fun chosen => apart taskId chosen again]
  constructor
  · exact List.nodup_append.mpr
      ⟨settles.distinct, onward.distinct, fun left chosen right again same =>
      apart left chosen (same ▸ again)⟩
  · intro taskId chosen
    rcases List.mem_append.mp chosen with early | late
    · exact settles.within taskId early
    · have lapsed := (mem_expired uniqueMiddle).mp (onward.within taskId late)
      rw [untouched taskId late] at lapsed
      exact (mem_expired unique).mpr lapsed
  · intro taskId
    rw [onward.leaves]
    by_cases late : taskId ∈ more
    · rw [if_pos late, if_pos (List.mem_append_right _ late), untouched taskId late]
    · rw [if_neg late, settles.leaves]
      simp only [List.mem_append, late, or_false]
  · intro ref
    rw [List.mem_append, settles.refs, onward.mem_refs uniqueMiddle]
    constructor
    · rintro (⟨task, member, chosen, below, rfl⟩ | ⟨taskId, again, seen, found, below, rfl⟩)
      · exact ⟨task, member, List.mem_append_left _ chosen, below, rfl⟩
      · rw [untouched taskId again] at found
        obtain ⟨task, member, rfl, rfl⟩ := (content_eq_some unique).mp found
        exact ⟨task, member, List.mem_append_right _ again, below, rfl⟩
    · rintro ⟨task, member, chosen, below, rfl⟩
      rcases List.mem_append.mp chosen with early | late
      · exact .inl ⟨task, member, early, below, rfl⟩
      · refine .inr ⟨task.id, late, timeless task, ?_, below, rfl⟩
        rw [untouched task.id late, content_mem unique member]

end Records

section Agreement

variable {left right : List TaskRecord} (uniqueLeft : (left.map TaskRecord.id).Nodup)
  (uniqueRight : (right.map TaskRecord.id).Nodup) (same : content left = content right)

include uniqueLeft uniqueRight same

theorem expired_length (now : Int) : (expired now left).length = (expired now right).length := by
  have perm : ((expired now left).map TaskRecord.id).Perm ((expired now right).map TaskRecord.id) :=
    (List.perm_ext_iff_of_nodup (expired_unique uniqueLeft now)
      (expired_unique uniqueRight now)).mpr
      fun taskId => by rw [mem_expired uniqueLeft, mem_expired uniqueRight, same]
  simpa using perm.length_eq

/-- Stores with the same content answer an operation alike and keep the same content, if a reclaim
does not have to choose. -/
theorem Effect.agree {operation : Operation} {answerLeft answerRight : Answer}
    {afterLeft afterRight : List TaskRecord}
    (first : Effect operation left answerLeft afterLeft)
    (second : Effect operation right answerRight afterRight)
    (ample : ∀ now limit maxAttempts, operation = .reclaim now limit maxAttempts →
      (expired now left).length ≤ limit) :
    answerLeft.Agrees answerRight ∧ content afterLeft = content afterRight := by
  cases first with
  | performs other answers leaves =>
      cases second with
      | settles positive many settles =>
          have refused := other _ _ _ rfl
          omega
      | performs _ answersRight leavesRight =>
          rw [← same] at answersRight leavesRight
          exact ⟨answers.of_common answersRight, leaves.trans leavesRight.symm⟩
  | @settles now limit maxAttempts _ _ refs picked positive many settles =>
      cases second with
      | performs other answers leaves =>
          have refused := other _ _ _ rfl
          omega
      | @settles _ _ _ _ _ refsRight pickedRight _ manyRight settlesRight =>
          have enough := ample now limit maxAttempts rfl
          have lengths := expired_length uniqueLeft uniqueRight same now
          have chosen : ∀ taskId, taskId ∈ picked ↔ taskId ∈ pickedRight := by
            intro taskId
            rw [settles.mem_picked uniqueLeft many (by omega),
              settlesRight.mem_picked uniqueRight manyRight (by omega), same]
          constructor
          · intro ref
            rw [settles.mem_refs uniqueLeft, settlesRight.mem_refs uniqueRight, same]
            simp only [chosen]
          · funext taskId
            rw [settles.leaves, settlesRight.leaves, same]
            simp only [chosen]

end Agreement

theorem Effect.settlesUpTo {now limit maxAttempts : Int} {before after : List TaskRecord}
    {answer : Answer} (effect : Effect (.reclaim now limit maxAttempts) before answer after)
    (unique : (before.map TaskRecord.id).Nodup) (positive : 0 < limit) :
    SettlesUpTo now limit before after := by
  cases effect with
  | settles _ many settles => exact settles.settlesUpTo unique many
  | performs other _ _ =>
      have refused := other _ _ _ rfl
      omega

end AiPlatform.Tasks.Store

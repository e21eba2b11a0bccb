import AiPlatform.Idempotency.Service
import AiPlatform.Lib.Batches
import AiPlatform.Outbox.Store
import AiPlatform.Tasks.Ownership

set_option autoImplicit false

/- The purges of `run_cleanup_loop`: expired tasks, old published outbox events and expired
idempotency keys, each deleted in batches until one comes back short. -/
namespace AiPlatform.Tasks.Cleanup

open Batches
open Idempotency (KeyTable IdempotencyKey RowId ExpiredSelection)
open Outbox (OutboxTable OutboxRecord OldSelection)

/-- One call of `delete_batch`, with the store around it. -/
structure Call (State : Type) where
  before : State
  deleted : Int
  after : State

/-- `calls` is the history, oldest first. -/
structure Drained (State : Type) where
  total : Int := 0
  state : State
  calls : List (Call State) := []

/-- `_drain`, from its turn-th look at `stop`; `none` when the fuel does not last. -/
def drain {State : Type} (deleteBatch : Nat → State → Except StoreError (Int × State))
    (batchSize : Int) (stop : Nat → Bool) :
    Nat → Nat → Drained State → Option (Except StoreError (Drained State))
  | 0, _, _ => none
  | fuel + 1, turn, drained =>
      if stop turn then some (.ok drained)
      else
        match deleteBatch turn drained.state with
        | .error error => some (.error error)
        | .ok (deleted, state) =>
            let next := {
              total := drained.total + deleted
              state := state
              calls := drained.calls ++ [⟨drained.state, deleted, state⟩] }
            if deleted < batchSize then some (.ok next)
            else drain deleteBatch batchSize stop fuel (turn + 1) next

def limitError : StoreError := .valueError "limit must be positive"

/-- `InMemoryTaskStore.delete_expired`, with the count that it returns. -/
def deleteExpired (before limit : Int) (tasks : TaskTable) : Except StoreError (Int × TaskTable) :=
  if limit ≤ 0 then .error limitError
  else
    let stale := (tasks.rows.filter fun task => task.expiresAt ≤ before).take limit.toNat
    .ok (stale.length, Ownership.memoryDelete before limit tasks)

/-- `delete_published_before` on the ids its sub-select returned, with the row count. -/
def deletePublishedBefore (limit : Int) (picked : List String) (events : OutboxTable) :
    Except StoreError (Int × OutboxTable) :=
  if limit ≤ 0 then .error limitError
  else .ok (events.rows.countP fun event => event.id ∈ picked,
    Outbox.deletePublishedBefore picked events)

/-- `delete_expired_idempotency_keys` on the rows its sub-select returned, with the row count. -/
def deleteExpiredKeys (limit : Int) (expired : List RowId) (keys : KeyTable) :
    Except StoreError (Int × KeyTable) :=
  if limit ≤ 0 then .error limitError
  else .ok (keys.rows.countP fun record => expired.contains record.id,
    Idempotency.deleteExpired expired keys)

/-- What the sub-selects of the calls return: any rows that qualify, as many as the limit allows. -/
structure OldEvents (cutoff limit : Int) where
  pick : Nat → OutboxTable → List String
  selects : ∀ turn events, OldSelection cutoff limit events (pick turn events)

structure ExpiredKeys (before limit : Int) where
  pick : Nat → KeyTable → List RowId
  selects : ∀ turn keys, ExpiredSelection before limit keys (pick turn keys)

theorem ids_nodup (keys : KeyTable) : (keys.rows.map IdempotencyKey.id).Nodup := by
  have unique := keys.unique
  have fst :
      keys.rows.map IdempotencyKey.index = (keys.rows.map IdempotencyKey.id).map Prod.fst := by
    rw [List.map_map]
    rfl
  rw [fst] at unique
  exact List.Nodup.of_map _ unique

/-- Sub-selects that return the first rows. -/
instance (cutoff limit : Int) : Inhabited (OldEvents cutoff limit) where
  default :=
    { pick := fun _ events => ((events.rows.filter fun event => event.status = .published &&
          event.publishedAt.any fun publishedAt => publishedAt < cutoff).take limit.toNat).map
        OutboxRecord.id
      selects := fun _ events => by
        refine ⟨events.unique.sublist (((List.take_sublist _ _).trans List.filter_sublist).map _),
          by rw [List.length_map, List.length_take], ?_⟩
        exact fun eventId member => (List.Sublist.map _ (List.take_sublist _ _)).subset member }

instance (before limit : Int) : Inhabited (ExpiredKeys before limit) where
  default :=
    { pick := fun _ keys => ((keys.rows.filter fun record => record.expiresAt < before).take
        limit.toNat).map IdempotencyKey.id
      selects := fun _ keys => by
        refine ⟨(ids_nodup keys).sublist
          (((List.take_sublist _ _).trans List.filter_sublist).map _),
          by rw [List.length_map, List.length_take], ?_⟩
        intro id member
        obtain ⟨record, chosen, same⟩ := List.mem_map.mp member
        have ⟨held, past⟩ := List.mem_filter.mp (List.mem_of_mem_take chosen)
        exact ⟨record, held, same, of_decide_eq_true past⟩ }

def expiredTask (now : Int) (task : TaskRecord) : Bool := task.expiresAt ≤ now

def oldEvent (cutoff : Int) (event : OutboxRecord) : Bool :=
  event.status = .published && event.publishedAt.any fun publishedAt => publishedAt < cutoff

def expiredKey (now : Int) (record : IdempotencyKey) : Bool := record.expiresAt < now

/-- What a purge is for: it ends, it deletes the rows that meet the test and no others, and never
more than a batch at once. -/
def Purges {Row Key : Type} {key : Row → Key} (test : Row → Bool)
    (deleteBatch : Nat → Table key → Except StoreError (Int × Table key)) (batchSize : Int)
    (table : Table key) : Prop :=
  ∃ drained, (∀ fuel, table.rows.length < fuel →
      drain deleteBatch batchSize (fun _ => false) fuel 0 { state := table } =
        some (.ok drained)) ∧
    drained.total = table.rows.countP test ∧
    drained.state = table.erase test ∧
    ∀ call ∈ drained.calls, call.deleted ≤ batchSize ∧
      call.after.rows.length + call.deleted = call.before.rows.length

/-- All three purges of a round, whatever the stores hold. -/
def Cleans (batchSize now cutoff : Int) : Prop :=
  (∀ tasks : TaskTable,
    Purges (expiredTask now) (fun _ => deleteExpired now batchSize) batchSize tasks) ∧
  (∀ (old : OldEvents cutoff batchSize) (events : OutboxTable),
    Purges (oldEvent cutoff)
      (fun turn events => deletePublishedBefore batchSize (old.pick turn events) events)
      batchSize events) ∧
  ∀ (expired : ExpiredKeys now batchSize) (keys : KeyTable),
    Purges (expiredKey now)
      (fun turn keys => deleteExpiredKeys batchSize (expired.pick turn keys) keys)
      batchSize keys

section Drain

variable {Row Key : Type} {key : Row → Key} {test : Row → Bool} {batchSize : Int}
variable {deleteBatch : Nat → Table key → Except StoreError (Int × Table key)}

/-- Every call deletes a batch. -/
def DeletesBatches (test : Row → Bool) (batchSize : Int)
    (deleteBatch : Nat → Table key → Except StoreError (Int × Table key)) : Prop :=
  ∀ turn table, ∃ (deleted : Nat) (after : Table key),
    deleteBatch turn table = .ok (deleted, after) ∧
      Batch test batchSize.toNat table after deleted

/-- The loop from any turn on: a full batch leaves less to delete, and a short one leaves nothing,
also when the rows to delete are a multiple of the batch size. -/
theorem drain_spec (positive : 0 < batchSize)
    (deletes : DeletesBatches test batchSize deleteBatch) (table : Table key) (turn : Nat)
    (total : Int) (calls : List (Call (Table key))) :
    ∃ more : List (Call (Table key)),
      (∀ fuel, table.rows.countP test < fuel →
        drain deleteBatch batchSize (fun _ => false) fuel turn ⟨total, table, calls⟩ =
          some (.ok ⟨total + table.rows.countP test, table.erase test, calls ++ more⟩)) ∧
      ∀ call ∈ more, call.deleted ≤ batchSize ∧
        call.after.rows.length + call.deleted = call.before.rows.length := by
  induction count : table.rows.countP test using Nat.strong_induction_on generalizing table turn
    total calls with
  | _ count ih =>
      subst count
      obtain ⟨deleted, after, called, batch⟩ := deletes turn table
      have size := batch.size
      have left := batch.left
      have removed := batch.removed
      have bounded : (deleted : Int) ≤ batchSize ∧
          after.rows.length + (deleted : Int) = table.rows.length := by omega
      by_cases short : (deleted : Int) < batchSize
      · refine ⟨[⟨table, deleted, after⟩], ?_, by simpa using bounded⟩
        intro fuel enough
        obtain ⟨fuel, rfl⟩ := Nat.exists_eq_add_of_lt enough
        have all : deleted = table.rows.countP test := by omega
        simp only [drain, called, if_pos short, Bool.false_eq_true, if_false]
        rw [batch.last (by omega), all]
      · obtain ⟨more, ends, later⟩ := ih (after.rows.countP test) (by omega) after (turn + 1)
          (total + deleted) (calls ++ [⟨table, deleted, after⟩]) rfl
        refine ⟨⟨table, deleted, after⟩ :: more, ?_, by simpa using ⟨bounded, later⟩⟩
        intro fuel enough
        obtain ⟨fuel, rfl⟩ := Nat.exists_eq_add_of_lt enough
        have onward := ends (table.rows.countP test + fuel) (by omega)
        simp only [drain, called, if_neg short, Bool.false_eq_true, if_false]
        rw [onward, batch.erase, List.append_assoc]
        have sum : total + deleted + (after.rows.countP test : Int) =
            total + (table.rows.countP test : Int) := by omega
        rw [sum]
        rfl

theorem DeletesBatches.purges (deletes : DeletesBatches test batchSize deleteBatch)
    (positive : 0 < batchSize) (table : Table key) :
    Purges test deleteBatch batchSize table := by
  obtain ⟨calls, ends, bounded⟩ := drain_spec positive deletes table 0 0 []
  refine ⟨_, fun fuel enough => ends fuel ?_, by simp, rfl, by simpa using bounded⟩
  exact lt_of_le_of_lt List.countP_le_length enough

end Drain

section Stores

variable {batchSize : Int}

theorem deleteExpired_batches (now : Int) (positive : 0 < batchSize) :
    DeletesBatches (expiredTask now) batchSize fun _ => deleteExpired now batchSize := by
  intro _ tasks
  let stale := (tasks.rows.filter (expiredTask now)).take batchSize.toNat
  have inside : ∀ task ∈ stale, task ∈ tasks.rows ∧ expiredTask now task = true :=
    fun task member => List.mem_filter.mp (List.mem_of_mem_take member)
  have order : stale.Sublist tasks.rows := (List.take_sublist _ _).trans List.filter_sublist
  have ⟨_, batch⟩ := batch_of_selection (expiredTask now) batchSize.toNat tasks
    (fun task => task.id ∈ stale.map TaskRecord.id) tasks.unique (fun task => by simp)
    (tasks.unique.sublist (order.map _))
    (by rw [List.length_map, List.length_take, List.countP_eq_length_filter]) (by
      intro taskId member
      obtain ⟨task, chosen, rfl⟩ := List.mem_map.mp member
      exact ⟨task, (inside task chosen).1, rfl, (inside task chosen).2⟩)
  refine ⟨_, _, ?_, batch⟩
  show deleteExpired now batchSize tasks = _
  unfold deleteExpired Ownership.memoryDelete
  rw [if_neg (Int.not_le.mpr positive), if_neg (Int.not_le.mpr positive), List.length_map]
  rfl

theorem deletePublishedBefore_batches (cutoff : Int) (positive : 0 < batchSize)
    (old : OldEvents cutoff batchSize) :
    DeletesBatches (oldEvent cutoff) batchSize fun turn events =>
      deletePublishedBefore batchSize (old.pick turn events) events := by
  intro turn events
  obtain ⟨distinct, size, inside⟩ := old.selects turn events
  have ⟨count, batch⟩ := batch_of_selection (oldEvent cutoff) batchSize.toNat events
    (fun event => event.id ∈ old.pick turn events) events.unique (fun event => by simp) distinct
    (by rw [size, List.countP_eq_length_filter]; rfl) (by
      intro eventId member
      obtain ⟨event, listed, rfl⟩ := List.mem_map.mp (inside eventId member)
      have ⟨held, meets⟩ := List.mem_filter.mp listed
      exact ⟨event, held, rfl, meets⟩)
  refine ⟨_, _, ?_, batch⟩
  show deletePublishedBefore batchSize (old.pick turn events) events = _
  unfold deletePublishedBefore
  rw [if_neg (Int.not_le.mpr positive), count]
  rfl

theorem deleteExpiredKeys_batches (now : Int) (positive : 0 < batchSize)
    (expired : ExpiredKeys now batchSize) :
    DeletesBatches (expiredKey now) batchSize fun turn keys =>
      deleteExpiredKeys batchSize (expired.pick turn keys) keys := by
  intro turn keys
  obtain ⟨distinct, size, inside⟩ := expired.selects turn keys
  have ⟨count, batch⟩ := batch_of_selection (expiredKey now) batchSize.toNat keys
    (fun record => record.id ∈ expired.pick turn keys) (ids_nodup keys) (fun record => by simp)
    distinct (by rw [size, List.countP_eq_length_filter]; rfl) (by
      intro id member
      obtain ⟨record, held, same, past⟩ := inside id member
      exact ⟨record, held, same, decide_eq_true past⟩)
  refine ⟨_, _, ?_, batch⟩
  show deleteExpiredKeys batchSize (expired.pick turn keys) keys = _
  unfold deleteExpiredKeys
  rw [if_neg (Int.not_le.mpr positive)]
  simp only [List.contains_eq_mem, count]
  rfl

/-- Cleanup removes exactly the expired rows, and ends. -/
theorem cleanup_removes_expired (positive : 0 < batchSize) (now cutoff : Int) :
    Cleans batchSize now cutoff :=
  ⟨(deleteExpired_batches now positive).purges positive,
    fun old => (deletePublishedBefore_batches cutoff positive old).purges positive,
    fun expired => (deleteExpiredKeys_batches now positive expired).purges positive⟩

theorem cleanup_removes_expired_pairs : (0 : Int) < 2 ∧ Cleans 2 1000 400 :=
  ⟨by decide, cleanup_removes_expired (by decide) 1000 400⟩

end Stores

end AiPlatform.Tasks.Cleanup

import AiPlatform.Core.Columns
import AiPlatform.Lib.Table
import Mathlib.Data.List.Perm.Subperm

set_option autoImplicit false

/- `PostgresOutboxStore`, one transaction an operation, of which only the purge lets others in
between its sub-select and its deletion. Payloads are given as their `jsonb` column keeps them. -/
namespace AiPlatform.Outbox

inductive OutboxStatus where
  | pending
  | published
  | failed
deriving DecidableEq, Repr

structure OutboxRecord where
  id : String
  eventType : String
  payload : Json
  metadata : Json := .obj []
  status : OutboxStatus := .pending
  attempts : Int := 0
  availableAt : Int
  createdAt : Int
  lockedUntil : Option Int := none
  publishedAt : Option Int := none
  error : Option String := none

abbrev OutboxTable := Table OutboxRecord.id

/-- `new_outbox_row` at clock reading `clock`; the id column default draws a fresh uuid. -/
def newOutboxRow (clock : Int) (id eventType : String) (payload : Json) : OutboxRecord :=
  { id := id, eventType := eventType, payload := payload, availableAt := clock, createdAt := clock }

/-- SQL `text LIKE pattern`: `%` is any run of characters, `_` is one, and a backslash escapes. -/
def like : List Char → List Char → Bool
  | [], text => text.isEmpty
  | '%' :: pattern, text => text.tails.any fun rest => like pattern rest
  | '_' :: pattern, _ :: text => like pattern text
  | '\\' :: literal :: pattern, letter :: text => literal == letter && like pattern text
  | literal :: pattern, letter :: text => literal == letter && like pattern text
  | _ :: _, [] => false

/-- `Column.startswith`, which leaves wildcards in the argument alone. -/
def startswith (text family : String) : Bool := like (family.toList ++ ['%']) text.toList

/-- The `WHERE` clause of `_pending_stmt`. -/
def OutboxRecord.due (event : OutboxRecord) (now : Int) (family : Option String) : Bool :=
  event.status = .pending && event.availableAt ≤ now &&
    (event.lockedUntil.all fun lock => lock ≤ now) &&
    family.all fun family => startswith event.eventType family

/-- `ORDER BY available_at, created_at`. -/
def OutboxRecord.notAfter (left right : OutboxRecord) : Prop :=
  left.availableAt < right.availableAt ∨
    left.availableAt = right.availableAt ∧ left.createdAt ≤ right.createdAt

instance (left right : OutboxRecord) : Decidable (left.notAfter right) :=
  inferInstanceAs (Decidable (_ ∨ _))

/-- What the bounded select may return. Ties in the order are left open. -/
def DueSelection (now limit : Int) (family : Option String) (events : OutboxTable)
    (picked : List String) : Prop :=
  let due := events.rows.filter (·.due now family)
  picked.Nodup ∧ picked.length = min limit.toNat due.length ∧
    (∀ eventId ∈ picked, eventId ∈ due.map OutboxRecord.id) ∧
    (picked.filterMap events.find).Pairwise OutboxRecord.notAfter ∧
    ∀ event ∈ due, event.id ∈ picked → ∀ other ∈ due, other.id ∉ picked → event.notAfter other

instance (now limit : Int) (family : Option String) (events : OutboxTable)
    (picked : List String) : Decidable (DueSelection now limit family events picked) :=
  inferInstanceAs (Decidable (_ ∧ _))

def OutboxRecord.lock (event : OutboxRecord) (expiry : Int) : OutboxRecord :=
  { event with lockedUntil := some expiry }

@[simp] theorem lock_id (event : OutboxRecord) (expiry : Int) :
    (event.lock expiry).id = event.id := rfl

/-- `claim_pending` on the rows its select returned: they are locked and read back. -/
def claimPending (now lockMicros : Int) (picked : List String) (events : OutboxTable) :
    List OutboxRecord × OutboxTable :=
  let locked := events.map
    (fun event => if event.id ∈ picked then event.lock (now + lockMicros) else event)
    fun event => by split <;> simp
  (picked.filterMap locked.find, locked)

def OutboxRecord.publish (event : OutboxRecord) (publishedAt : Int) : OutboxRecord :=
  { event with
    status := .published
    publishedAt := some publishedAt
    lockedUntil := none
    error := none }

/-- The write of `mark_failed`: an event with a next attempt is pending again. -/
def OutboxRecord.fail (event : OutboxRecord) (error : String) (availableAt : Option Int) :
    OutboxRecord :=
  { event with
    status := if availableAt.isSome then .pending else .failed
    error := some error
    attempts := event.attempts + 1
    lockedUntil := none
    availableAt := availableAt.getD event.availableAt }

@[simp] theorem publish_id (event : OutboxRecord) (publishedAt : Int) :
    (event.publish publishedAt).id = event.id := rfl

@[simp] theorem fail_id (event : OutboxRecord) (error : String) (availableAt : Option Int) :
    (event.fail error availableAt).id = event.id := rfl

/-- `mark_published`; `none` is the `KeyError` of an unknown event. -/
def markPublished (eventId : String) (publishedAt : Int) (events : OutboxTable) :
    Option OutboxTable :=
  if (events.find eventId).isNone then none
  else some (events.modify eventId (·.publish publishedAt) fun event => publish_id event _)

/-- `mark_failed`; `none` is the `KeyError` of an unknown event, or the error of the `Text` column
that refuses a NUL character. -/
def markFailed (eventId error : String) (availableAt : Option Int) (events : OutboxTable) :
    Option OutboxTable :=
  if (events.find eventId).isNone ∨ ¬ Columns.sendable error then none
  else some (events.modify eventId (·.fail error availableAt) fun event => fail_id event _ _)

/-- What the subquery of `delete_published_before` may return; it has no order. -/
def OldSelection (before limit : Int) (events : OutboxTable) (picked : List String) : Prop :=
  let old := events.rows.filter fun event =>
    event.status = .published && event.publishedAt.any fun publishedAt => publishedAt < before
  picked.Nodup ∧ picked.length = min limit.toNat old.length ∧
    ∀ eventId ∈ picked, eventId ∈ old.map OutboxRecord.id

instance (before limit : Int) (events : OutboxTable) (picked : List String) :
    Decidable (OldSelection before limit events picked) :=
  inferInstanceAs (Decidable (_ ∧ _))

/-- The outer `DELETE` of `delete_published_before`. A row that another transaction changed since
the subquery is only checked for its id again. -/
def deletePublishedBefore (picked : List String) (events : OutboxTable) : OutboxTable :=
  events.erase fun event => event.id ∈ picked

theorem find_claimPending (now lockMicros : Int) (picked : List String) (events : OutboxTable)
    (eventId : String) :
    (claimPending now lockMicros picked events).2.find eventId =
      (events.find eventId).map fun event =>
        if eventId ∈ picked then event.lock (now + lockMicros) else event := by
  simp only [claimPending, Table.find_map]
  cases found : events.find eventId with
  | none => rfl
  | some event =>
      obtain ⟨-, rfl⟩ := Table.find_some.mp found
      rfl

/-- A claimed record is a row of the locked table. -/
theorem mem_claimPending {now lockMicros : Int} {picked : List String} {events : OutboxTable}
    {event : OutboxRecord} (member : event ∈ (claimPending now lockMicros picked events).1) :
    (claimPending now lockMicros picked events).2.find event.id = some event := by
  obtain ⟨eventId, -, found⟩ := List.mem_filterMap.mp member
  obtain ⟨-, rfl⟩ := Table.find_some.mp found
  exact found

/-- A due row that the limit leaves room for is claimed. -/
theorem claimed_of_due {now limit lockMicros : Int} {family : Option String}
    {events : OutboxTable} {picked : List String} {event : OutboxRecord}
    (selected : DueSelection now limit family events picked)
    (stored : events.find event.id = some event) (due : event.due now family = true)
    (room : ((events.rows.filter (·.due now family)).length : Int) ≤ limit) :
    event.id ∈ (claimPending now lockMicros picked events).1.map OutboxRecord.id := by
  obtain ⟨distinct, size, inside, -⟩ := selected
  obtain ⟨member, -⟩ := Table.find_some.mp stored
  have whole : ((events.rows.filter (·.due now family)).map OutboxRecord.id).length ≤
      picked.length := by
    rw [List.length_map, size]
    omega
  have all := ((List.subperm_of_subset distinct inside).perm_of_length_le whole).symm.subset
  have chosen : event.id ∈ picked :=
    all (List.mem_map.mpr ⟨event, List.mem_filter.mpr ⟨member, due⟩, rfl⟩)
  have locked : (claimPending now lockMicros picked events).2.find event.id =
      some (event.lock (now + lockMicros)) := by
    rw [find_claimPending, stored, Option.map_some, if_pos chosen]
  exact List.mem_map.mpr ⟨event.lock (now + lockMicros),
    List.mem_filterMap.mpr ⟨event.id, chosen, locked⟩, rfl⟩

/-- A picked row is pending and available, and its lock, if it has one, has run out. -/
theorem picked_due {now limit : Int} {family : Option String} {events : OutboxTable}
    {picked : List String} (selected : DueSelection now limit family events picked)
    {eventId : String} (chosen : eventId ∈ picked) :
    ∃ event, events.find eventId = some event ∧ event.status = .pending ∧
      event.availableAt ≤ now ∧ ∀ lock, event.lockedUntil = some lock → lock ≤ now := by
  obtain ⟨event, listed, rfl⟩ := List.mem_map.mp (selected.2.2.1 eventId chosen)
  obtain ⟨member, due⟩ := List.mem_filter.mp listed
  simp only [OutboxRecord.due, Bool.and_eq_true, decide_eq_true_eq] at due
  refine ⟨event, Table.find_mem member, due.1.1.1, due.1.1.2, ?_⟩
  intro lock taken
  have free := due.1.2
  rw [taken, Option.all_some, decide_eq_true_eq] at free
  exact free

theorem claimed_ids {now lockMicros : Int} {picked : List String} {events : OutboxTable} :
    ((claimPending now lockMicros picked events).1.map OutboxRecord.id).Sublist picked :=
  Table.map_filterMap_find _ picked

theorem markPublished_some {eventId : String} {publishedAt : Int} {events next : OutboxTable}
    (marked : markPublished eventId publishedAt events = some next) (other : String) :
    next.find other =
      if other = eventId then (events.find other).map (·.publish publishedAt)
      else events.find other := by
  unfold markPublished at marked
  split at marked
  · cases marked
  · cases marked
    exact Table.find_modify events eventId other _ _

theorem markFailed_known {eventId error : String} {availableAt : Option Int}
    {events next : OutboxTable} (marked : markFailed eventId error availableAt events = some next) :
    ∃ event, events.find eventId = some event := by
  unfold markFailed at marked
  split at marked
  · cases marked
  · rename_i accepted
    have present : ¬ (events.find eventId).isNone = true := fun missing => accepted (.inl missing)
    exact Option.ne_none_iff_exists'.mp fun missing => present (by rw [missing]; rfl)

theorem markFailed_sent {eventId error : String} {availableAt : Option Int}
    {events next : OutboxTable} (marked : markFailed eventId error availableAt events = some next) :
    Columns.sendable error := by
  by_contra refused
  simp [markFailed, refused] at marked

theorem markFailed_sendable {eventId error : String} {availableAt : Option Int}
    {events : OutboxTable} {event : OutboxRecord} (found : events.find eventId = some event)
    (sent : Columns.sendable error) :
    markFailed eventId error availableAt events =
      some (events.modify eventId (·.fail error availableAt) fun event => fail_id event _ _) := by
  simp [markFailed, found, sent]

theorem markFailed_some {eventId error : String} {availableAt : Option Int}
    {events next : OutboxTable} (marked : markFailed eventId error availableAt events = some next)
    (other : String) :
    next.find other =
      if other = eventId then (events.find other).map (·.fail error availableAt)
      else events.find other := by
  unfold markFailed at marked
  split at marked
  · cases marked
  · cases marked
    exact Table.find_modify events eventId other _ _

end AiPlatform.Outbox

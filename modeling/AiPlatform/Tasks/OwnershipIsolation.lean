import AiPlatform.Tasks.OwnershipRuns

set_option autoImplicit false

/- `require_owned` tells a principal about its own tasks, and about nothing else. -/
namespace AiPlatform.Tasks.Ownership

open Datetime Identity Machine RedisStore
open Redis (deserialize)

instance (backend : Backend) (taskId principalId : String) :
    Decidable (Accepts backend taskId principalId) :=
  match backend with
  | .memory => .isTrue trivial
  | .postgres _ => inferInstanceAs (Decidable (_ ∧ _))
  | .redis _ => .isTrue trivial

/-- What is raised when the principal has no such task. -/
def refusal (backend : Backend) (taskId principalId : String) : Refusal :=
  if Accepts backend taskId principalId then .app (taskNotFound taskId) else .store .dataError

/-- The tasks in a store, with those that an `_update` is about to write. -/
def Holds (backend : Backend) (store : backend.State) (task : TaskRecord) : Prop :=
  match backend with
  | .memory => task ∈ store.rows
  | .postgres _ => task ∈ store.rows
  | .redis _ =>
      (∃ entry ∈ store.db.rows, deserialize entry.value = some task) ∨
        ∃ key, (key, task) ∈ store.updates

/-- The two stores hold the same tasks of this principal. -/
def Agree (backend : Backend) (principalId : String) (clock : Int) (left right : backend.State) :
    Prop :=
  ∀ task, task.principalId = principalId →
    (Stored backend clock left task ↔ Stored backend clock right task)

/-- A store from before tasks had owners. -/
def PreOwnership (backend : Backend) (store : backend.State) : Prop :=
  All backend (fun origin => origin.principalId = "") store

structure Isolated (service : TaskService) (backend : Backend) (run : Run backend) : Prop where
  /-- A task is only returned to the principal that submitted it, and under its type. -/
  owned : ∀ clock taskId (principal : Principal) type record,
    requireOwned backend clock run.store taskId principal.id type = .ok record →
    originOf record = ⟨taskId, principal.id, type⟩ ∧ originOf record ∈ run.submitted
  /-- No call changes the owner or the type of a task. -/
  kept : ∀ turn next, Named backend turn.request → step service backend run turn = some next →
    ∀ task, Holds backend next.store task →
      (∃ old, Holds backend run.store old ∧ originOf old = originOf task) ∨
        originOf task ∈ turn.request.origins
  readable : Readable backend run.store
  /-- Stores that agree on the principal's tasks answer alike. -/
  alike : ∀ clock (principal : Principal) (left right : backend.State), Readable backend left →
    Readable backend right → Agree backend principal.id clock left right → ∀ taskId type,
    requireOwned backend clock left taskId principal.id type =
      requireOwned backend clock right taskId principal.id type
  /-- A task of somebody else or of nobody is as good as missing. -/
  hidden : ∀ clock (principal : Principal) (store : backend.State), Readable backend store →
    ∀ taskId type, (∀ task, Stored backend clock store task → task.id = taskId →
      task.principalId ≠ principal.id) →
    requireOwned backend clock store taskId principal.id type =
      .error (refusal backend taskId principal.id)

section Answers

variable {backend : Backend} {clock : Int} {store : backend.State} {taskId principalId : String}

theorem get_refused (store : backend.State) (refused : ¬ Accepts backend taskId principalId) :
    get backend clock taskId (some principalId) store = .error .dataError := by
  cases backend with
  | memory => exact absurd trivial refused
  | postgres outbox =>
      apply if_neg
      intro ⟨id, owner⟩
      exact refused ⟨id, owner principalId rfl⟩
  | redis namespace_ => exact absurd trivial refused

/-- What a read finds decides what is returned. -/
theorem requireOwned_found {found : Option TaskRecord} (type : String)
    (got : get backend clock taskId (some principalId) store = .ok found) :
    requireOwned backend clock store taskId principalId type =
      match found.filter fun record => record.type = type with
      | none => .error (.app (taskNotFound taskId))
      | some record => .ok record := by
  unfold requireOwned
  rw [got]
  cases found with
  | none => rfl
  | some record =>
      rw [Option.filter_some]
      by_cases same : record.type = type
      · simp [same]
      · simp [same]

theorem requireOwned_refused (store : backend.State) (type : String)
    (refused : ¬ Accepts backend taskId principalId) :
    requireOwned backend clock store taskId principalId type = .error (.store .dataError) := by
  unfold requireOwned
  rw [get_refused store refused]

theorem requireOwned_ok {type : String} {record : TaskRecord} (readable : Readable backend store)
    (returned : requireOwned backend clock store taskId principalId type = .ok record) :
    Stored backend clock store record ∧ originOf record = ⟨taskId, principalId, type⟩ := by
  by_cases accepts : Accepts backend taskId principalId
  · have ⟨found, got, spec⟩ := get_spec clock readable accepts
    rw [requireOwned_found type got] at returned
    cases kept : found.filter fun record => record.type = type with
    | none =>
        rw [kept] at returned
        cases returned
    | some task =>
        rw [kept] at returned
        have same := Except.ok.inj returned
        rw [same] at kept
        have ⟨here, typed⟩ := Option.filter_eq_some_iff.mp kept
        have ⟨stored, id, owner⟩ := (spec record).mp here
        refine ⟨stored, ?_⟩
        unfold originOf
        rw [id, owner, of_decide_eq_true typed]
  · rw [requireOwned_refused store type accepts] at returned
    cases returned

theorem requireOwned_alike {left right : backend.State} (type : String)
    (readLeft : Readable backend left) (readRight : Readable backend right)
    (agree : Agree backend principalId clock left right) :
    requireOwned backend clock left taskId principalId type =
      requireOwned backend clock right taskId principalId type := by
  by_cases accepts : Accepts backend taskId principalId
  · have ⟨first, gotFirst, firstSpec⟩ := get_spec clock readLeft accepts
    have ⟨second, gotSecond, secondSpec⟩ := get_spec clock readRight accepts
    have same : first = second := by
      apply Option.ext
      intro task
      rw [firstSpec, secondSpec]
      constructor
      · intro ⟨stored, id, owner⟩
        exact ⟨(agree task owner).mp stored, id, owner⟩
      · intro ⟨stored, id, owner⟩
        exact ⟨(agree task owner).mpr stored, id, owner⟩
    rw [requireOwned_found type gotFirst, requireOwned_found type gotSecond, same]
  · rw [requireOwned_refused left type accepts, requireOwned_refused right type accepts]

theorem requireOwned_hidden (type : String) (readable : Readable backend store)
    (foreign : ∀ task, Stored backend clock store task → task.id = taskId →
      task.principalId ≠ principalId) :
    requireOwned backend clock store taskId principalId type =
      .error (refusal backend taskId principalId) := by
  unfold refusal
  by_cases accepts : Accepts backend taskId principalId
  · have ⟨found, got, spec⟩ := get_spec clock readable accepts
    rw [if_pos accepts, requireOwned_found type got]
    cases found with
    | none => rfl
    | some task =>
        have ⟨stored, id, owner⟩ := (spec task).mp rfl
        exact absurd owner (foreign task stored id)
  · rw [if_neg accepts, requireOwned_refused store type accepts]

end Answers

section Run

variable {service : TaskService} {backend : Backend} {known : Origin → Prop}
  {store : backend.State}

theorem all_stored {clock : Int} {task : TaskRecord} (all : All backend known store)
    (stored : Stored backend clock store task) : known (originOf task) := by
  cases backend with
  | memory => exact all task stored
  | postgres outbox => exact all task stored
  | redis namespace_ =>
      have ⟨entry, member, _, decoded⟩ := stored
      have ⟨other, same, here⟩ := all.1 entry member
      rw [decoded] at same
      rw [Option.some.inj same]
      exact here.known

theorem all_holds {task : TaskRecord} (all : All backend known store)
    (holds : Holds backend store task) : known (originOf task) := by
  cases backend with
  | memory => exact all task holds
  | postgres outbox => exact all task holds
  | redis namespace_ =>
      rcases holds with ⟨entry, member, decoded⟩ | ⟨key, pending⟩
      · have ⟨other, same, here⟩ := all.1 entry member
        rw [decoded] at same
        rw [Option.some.inj same]
        exact here.known
      · exact (all.2 (key, task) pending).known

/-- A readable store has the origins of what it holds. -/
theorem holds_all (known : Origin → Prop) (readable : Readable backend store)
    (every : ∀ task, Holds backend store task → known (originOf task)) :
    All backend known store := by
  cases backend with
  | memory => exact every
  | postgres outbox => exact every
  | redis namespace_ =>
      refine ⟨fun entry member => ?_, fun update pending => ?_⟩
      · have ⟨task, decoded, here⟩ := readable.1 entry member
        exact ⟨task, decoded, here.key, here.encodable, every task (.inl ⟨entry, member, decoded⟩)⟩
      · have here := readable.2 update pending
        exact ⟨here.key, here.encodable, every update.2 (.inr ⟨update.1, pending⟩)⟩

/-- The tasks of a run are old ones without an owner, or submitted in it. -/
def Accounted (run : Run backend) : Prop :=
  All backend (fun origin => origin.principalId = "" ∨ origin ∈ run.submitted) run.store

theorem accounted_step {run next : Run backend} {turn : Turn} (accounted : Accounted run)
    (named : Named backend turn.request) (stepped : step service backend run turn = some next) :
    Accounted next := by
  rcases step_submitted stepped with unchanged | logged
  · rw [unchanged]
    exact accounted
  · unfold Accounted
    rw [logged]
    refine step_all (accounted.imp ?_) named ?_ stepped
    · intro origin known
      exact known.imp_right (List.mem_append_left _)
    · intro origin new
      exact .inr (List.mem_append_right _ new)

end Run

/-- Task ownership over any run from a store without owned tasks. -/
theorem ownership_isolated (service : TaskService) (backend : Backend) (start : backend.State)
    (turns : List Turn) (final : Run backend) (old : PreOwnership backend start)
    (named : ∀ turn ∈ turns, Named backend turn.request)
    (reached : run (step service backend) ⟨start, []⟩ turns = some final) :
    Isolated service backend final := by
  have first : Accounted (Run.mk start []) := old.imp fun origin unowned => .inl unowned
  have preserved : ∀ (run : Run backend) (turn : Turn) (next : Run backend), Accounted run →
      Named backend turn.request → step service backend run turn = some next → Accounted next :=
    fun run turn next holds isNamed stepped => accounted_step holds isNamed stepped
  have accounted : Accounted final :=
    run_invariant Accounted preserved first (meets_of_forall _ named) reached
  have readable : Readable backend final.store := accounted.imp fun origin _ => trivial
  refine ⟨?_, ?_, readable, ?_, ?_⟩
  · intro clock taskId principal type record returned
    have ⟨stored, origin⟩ := requireOwned_ok readable returned
    refine ⟨origin, ?_⟩
    rcases all_stored accounted stored with unowned | submitted
    · rw [origin] at unowned
      exact absurd unowned principal.nonempty
    · exact submitted
  · intro turn next isNamed stepped task holds
    have all := holds_all (fun origin => (∃ old, Holds backend final.store old ∧
      originOf old = origin) ∨ origin ∈ turn.request.origins) readable
      fun task here => .inl ⟨task, here, rfl⟩
    exact all_holds (step_all all isNamed (fun origin new => .inr new) stepped) holds
  · intro clock principal left right readLeft readRight agree taskId type
    exact requireOwned_alike type readLeft readRight agree
  · intro clock principal store readStore taskId type foreign
    exact requireOwned_hidden type readStore foreign

def alice : Principal where
  id := "alice"
  subject :=
    ⟨"alice::" ++ String.ofList (List.replicate 64 '0'), [⟨"alice", [], List.replicate 32 0⟩], _,
      by decide +kernel, List.mem_singleton_self _, rfl⟩

def bob : Principal where
  id := "bob"
  subject :=
    ⟨"bob::" ++ String.ofList (List.replicate 64 '0'), [⟨"bob", [], List.replicate 32 0⟩], _,
      by decide +kernel, List.mem_singleton_self _, rfl⟩

def aliceTask : Uuid := ⟨"11111111-1111-4111-8111-111111111111", by decide⟩

/-- A row of the time before `principal_id`. -/
def legacyTasks : TaskTable where
  rows :=
    [⟨"legacy", "completion", .completed, .obj [], 10, 1, none, none, none, none, none, "", none⟩]
  unique := List.nodup_singleton _

def aliceSubmits : List Turn :=
  [⟨⟨0, by decide⟩, .submit aliceTask "completion" [] alice none true, []⟩,
    ⟨⟨1, by decide⟩, .markProcessing aliceTask.text, []⟩]

/-- The task of another principal, the one of nobody and a missing one look the same. -/
theorem ownership_isolated_bob :
    ∃ final, run (step {} (.postgres true)) ⟨legacyTasks, []⟩ aliceSubmits = some final ∧
      final.submitted = [⟨aliceTask.text, "alice", "completion"⟩] ∧
      ∀ taskId ∈ [aliceTask.text, "legacy", "missing"],
        requireOwned (.postgres true) 2 final.store taskId bob.id "completion" =
          .error (refusal (.postgres true) taskId bob.id) := by
  let full := run (step {} (.postgres true)) ⟨legacyTasks, []⟩ aliceSubmits
  have ran : full.isSome := by decide +kernel
  have logged : ∀ final ∈ full,
      final.submitted = [⟨aliceTask.text, "alice", "completion"⟩] := by decide +kernel
  have foreign : ∀ final ∈ full, ∀ task ∈ final.store.rows, task.principalId ≠ bob.id := by
    decide +kernel
  have old : ∀ task ∈ legacyTasks.rows, task.principalId = "" := by decide +kernel
  have named : ∀ turn ∈ aliceSubmits, Named (.postgres true) turn.request := by
    refine List.forall_mem_cons.mpr ⟨?_, List.forall_mem_singleton.mpr trivial⟩
    intro long
    exact absurd long (by decide)
  have ⟨final, reached⟩ := Option.isSome_iff_exists.mp ran
  have isolated := ownership_isolated {} (.postgres true) legacyTasks aliceSubmits final old named
    reached
  refine ⟨final, reached, logged final reached, fun taskId _ => ?_⟩
  exact isolated.hidden 2 bob final.store isolated.readable taskId "completion"
    fun task stored _ => foreign final reached task stored

end AiPlatform.Tasks.Ownership

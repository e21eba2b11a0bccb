import AiPlatform.Core.RequestContext
import AiPlatform.Tasks.Ownership
import AiPlatform.Tasks.Pipeline

set_option autoImplicit false

/- `POST /completions/tasks`, from the request id header and the API key to the task and outbox
rows. The id that `RequestIdMiddleware` accepts goes through the context variable as it is. -/
namespace AiPlatform.Tasks.Submission

open Columns Machine Outbox
open Identity (Principal)
open Ownership (TaskService Uuid)
open Pipeline (taskEvent taskEventFamily)
open PostgresStore (varchar varchar_fits storedRow storedRow_sendable returned)
open RequestContext (RequestIdMiddleware UuidHex Call Event firstHeader)
open BodyLimit (Scope decodeUtf8)

def completionTaskType : String := "completion"

/-- The id of a row, a fresh uuid. -/
structure RowId extends Uuid where
  plain : sendable text

/-- `get_request_id()` where the handler runs. -/
def getRequestId (call : Call) : String := call.context.getD "-"

/-- The task that `submit_completion` submits. -/
def submitCompletion (service : TaskService) (call : Call) (now : Int) (id : RowId)
    (payload : List (String × Json)) (principal : Principal) : TaskRecord :=
  service.newTask now id.text completionTaskType payload principal.id (some (getRequestId call))

/-- The row that the `INSERT` stores for an event. -/
def storedEvent (event : OutboxRecord) : Option OutboxRecord := do
  let id ← varchar 36 event.id
  let eventType ← varchar 255 event.eventType
  if sendableJson event.payload ∧ sendableJson event.metadata ∧ fitsInteger event.attempts then
    return { event with
      id := id
      eventType := eventType
      payload := jsonb event.payload
      metadata := jsonb event.metadata }
  else none

/-- The text is no longer than the column, and Postgres takes it. -/
def Fits (width : Nat) (text : String) : Prop := sendable text ∧ text.toList.length ≤ width

instance (width : Nat) (text : String) : Decidable (Fits width text) :=
  inferInstanceAs (Decidable (_ ∧ _))

/-- What the two inserts of a submission need. -/
structure FitsTables (task : TaskRecord) (event : OutboxRecord) : Prop where
  id : task.id.toList.length ≤ 36
  type : task.type.toList.length ≤ 64
  principalId : task.principalId.toList.length ≤ 255
  requestId : ∀ requestId ∈ task.requestId, requestId.toList.length ≤ 255
  eventId : event.id.toList.length ≤ 36
  eventType : event.eventType.toList.length ≤ 255
  taskStored : storedRow task = some (returned task)
  eventStored : storedEvent event = some event

/-- `PostgresTaskOutboxDispatcher.submit` builds both rows, and they fit. -/
def Submitted (clock : Int) (eventId : RowId) (task : TaskRecord) : Prop :=
  ∃ event, taskEvent clock eventId.text task.ref = some event ∧ FitsTables task event

section Rows

variable {service : TaskService} {now clock : Int} {id eventId : RowId}
variable {payload : List (String × Json)} {principal : Principal} {requestId : String}

theorem varchar_some {width : Nat} {text stored : String}
    (accepted : varchar width text = some stored) : sendable text := by
  by_contra refused
  simp [varchar, refused] at accepted

theorem storedRow_some {task row : TaskRecord} (stored : storedRow task = some row) :
    sendable task.principalId ∧ (∀ requestId ∈ task.requestId, sendable requestId) ∧
      sendableJson task.payload = true := by
  unfold storedRow at stored
  simp only [Option.bind_eq_bind, Option.bind_eq_some_iff] at stored
  obtain ⟨_, -, _, -, _, principal, _, request, last⟩ := stored
  split at last
  · rename_i accepted
    refine ⟨varchar_some principal, fun requestId same => ?_, accepted.1⟩
    rw [Option.mem_def.mp same, Option.mapM_some] at request
    obtain ⟨_, taken, -⟩ := Option.map_eq_some_iff.mp request
    exact varchar_some taken
  · cases last

theorem storedEvent_fits {event : OutboxRecord} (id : Fits 36 event.id)
    (type : Fits 255 event.eventType) (payload : storableJson event.payload = true)
    (metadata : storableJson event.metadata = true) (attempts : fitsInteger event.attempts) :
    storedEvent event = some event := by
  simp [storedEvent, varchar_fits id, varchar_fits type, jsonb_storable payload,
    jsonb_storable metadata, attempts]

/-- The task and its event are stored exactly when the three parts that come from
outside allow it. -/
theorem submitted_iff (named : requestId ≠ "") :
    Submitted clock eventId
      (service.newTask now id.text completionTaskType payload principal.id (some requestId)) ↔
      Fits 255 requestId ∧ Fits 255 principal.id ∧ sendableJson (.obj payload) = true := by
  constructor
  · rintro ⟨event, -, fits⟩
    obtain ⟨owner, request, document⟩ := storedRow_some fits.taskStored
    exact ⟨⟨request requestId rfl, fits.requestId requestId rfl⟩, ⟨owner, fits.principalId⟩,
      document⟩
  · rintro ⟨request, owner, document⟩
    have filled : id.text ≠ "" := by
      intro blank
      have length := id.length
      simp [blank] at length
    let message : TaskMessage :=
      ⟨id.text, completionTaskType, some requestId, filled, by decide, by simpa using named⟩
    let task :=
      service.newTask now id.text completionTaskType payload principal.id (some requestId)
    let event := newOutboxRow clock eventId.text (taskEventFamily ++ completionTaskType)
      message.toBody
    have idFits : Fits 36 id.text ∧ Fits 36 eventId.text :=
      ⟨⟨id.plain, id.length.le⟩, ⟨eventId.plain, eventId.length.le⟩⟩
    have typeFits : Fits 64 completionTaskType ∧
        Fits 255 (taskEventFamily ++ completionTaskType) := by decide
    have requestFits : ∀ other ∈ task.requestId, Fits 255 other := by
      intro other same
      rwa [← Option.some.inj same]
    have taskStored : storedRow task = some (returned task) :=
      storedRow_sendable idFits.1 typeFits.1 owner requestFits document rfl nofun
        (show fitsInteger 0 by decide)
    have body : storableJson message.toBody = true := by
      have keys : sendable "task_id" ∧ sendable "type" ∧ sendable completionTaskType ∧
          sendable "request_id" := by decide
      simp [TaskMessage.toBody, message, storableJson, storableFields, keys, id.plain, request.1]
    have eventStored : storedEvent event = some event :=
      storedEvent_fits idFits.2 typeFits.2 body rfl (show fitsInteger 0 by decide)
    exact ⟨event, congrArg _ message.make?_self, idFits.1.2, typeFits.1.2, owner.2,
      fun other same => (requestFits other same).2, idFits.2.2, typeFits.2.2, taskStored,
      eventStored⟩

end Rows

section Requests

variable {scope : Scope} {uuid : UuidHex} {previous : Option String} {requestId : String}

/-- A generated request id fits, and a header is taken as it is. -/
theorem requestIdOf_fits
    (accepted : ({} : RequestIdMiddleware).requestIdOf uuid scope.headers = some requestId) :
    Fits 255 requestId ↔ ∀ raw ∈ firstHeader scope.headers ({} : RequestIdMiddleware).name,
      ∀ text, decodeUtf8 raw = some text → Fits 255 text := by
  have generated : Fits 255 ("req_" ++ uuid.text) := by
    have length := uuid.length
    refine ⟨?_, by simp [length]⟩
    intro zero
    rcases List.mem_append.mp (String.toList_append ▸ zero) with start | rest
    · revert start
      decide
    · have digit := uuid.digits _ rest
      revert digit
      decide
  unfold RequestIdMiddleware.requestIdOf at accepted
  cases header : firstHeader scope.headers ({} : RequestIdMiddleware).name with
  | none =>
      rw [header] at accepted
      rw [← Option.some.inj accepted]
      simpa using generated
  | some raw =>
      rw [header] at accepted
      cases raw with
      | nil =>
          rw [← Option.some.inj accepted]
          simp only [generated, true_iff, Option.mem_some_iff, forall_eq']
          intro text decoded
          have empty : decodeUtf8 [] = some "" := RequestContext.decodeUtf8_iff.mpr rfl
          rw [← Option.some.inj (empty.symm.trans decoded)]
          decide
      | cons byte rest =>
          have decoded : decodeUtf8 (byte :: rest) = some requestId := accepted
          simp [decoded]

/-- What the handler reads is the request id, while nothing around it sets another. -/
theorem getRequestId_eq {events : List Event} {call : Call} (http : scope.type = .http)
    (accepted : ({} : RequestIdMiddleware).requestIdOf uuid scope.headers = some requestId)
    (ran : run ({} : RequestIdMiddleware).step
      (({} : RequestIdMiddleware).begin scope uuid previous) events = some call)
    (running : call.ended = none) (quiet : ∀ value, .setRequestId value ∉ events) :
    getRequestId call = requestId := by
  have underway := RequestContext.run_underway (RequestContext.begin_underway http accepted) ran
  rw [getRequestId, underway.visible quiet running]
  rfl

end Requests

def billing : Principal where
  id := "billing"
  subject :=
    ⟨"billing::" ++ String.ofList (List.replicate 64 '0'), [⟨"billing", [], List.replicate 32 0⟩],
      _, by decide +kernel, List.mem_singleton_self _, rfl⟩

def firstRow : RowId := ⟨⟨"22222222-2222-4222-8222-222222222222", by decide⟩, by decide⟩

/-- A request whose id the client chose. -/
def requestOf (text : String) : Scope :=
  { type := .http, headers := [(RateLimit.bytes "x-request-id", Text.encode text)] }

theorem requestOf_accepted {text : String} (named : text ≠ "") (uuid : UuidHex) :
    ({} : RequestIdMiddleware).requestIdOf uuid (requestOf text).headers = some text := by
  have header : firstHeader (requestOf text).headers ({} : RequestIdMiddleware).name =
      some (Text.encode text) := rfl
  have decoded : decodeUtf8 (Text.encode text) = some text := RequestContext.decodeUtf8_iff.mpr rfl
  rw [RequestIdMiddleware.requestIdOf, header]
  split
  · rename_i absent
    cases absent
  · rename_i blank
    rw [Option.some.inj blank] at decoded
    have empty : decodeUtf8 [] = some "" := RequestContext.decodeUtf8_iff.mpr rfl
    exact absurd (Option.some.inj (decoded.symm.trans empty)) named
  · rename_i raw _ same
    rwa [← Option.some.inj same]

end AiPlatform.Tasks.Submission

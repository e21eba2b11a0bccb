import AiPlatform.Core.Value

set_option autoImplicit false

/- The one message contract between task dispatch and the worker. -/
namespace AiPlatform.Tasks

/-- A validated `TaskMessage`: pydantic's `min_length=1` is part of the type. -/
structure TaskMessage where
  taskId : String
  type : String
  requestId : Option String
  namedTask : taskId ≠ ""
  namedType : type ≠ ""
  namedRequest : requestId ≠ some ""

instance : DecidableEq TaskMessage := fun first second =>
  decidable_of_iff (first.taskId = second.taskId ∧ first.type = second.type ∧
    first.requestId = second.requestId) (by cases first; cases second; simp)

/-- The constructor; `none` is the `ValidationError`. -/
def TaskMessage.make? (taskId type : String) (requestId : Option String) : Option TaskMessage :=
  if namedTask : taskId ≠ "" then
    if namedType : type ≠ "" then
      if namedRequest : requestId ≠ some "" then
        some ⟨taskId, type, requestId, namedTask, namedType, namedRequest⟩
      else none
    else none
  else none

/-- `model_dump(exclude_none=True)`. -/
def TaskMessage.toBody (message : TaskMessage) : Json :=
  .obj ([("task_id", .str message.taskId), ("type", .str message.type)] ++
    match message.requestId with
    | none => []
    | some requestId => [("request_id", .str requestId)])

def requiredText : Option Json → Option String
  | some (.str text) => if text = "" then none else some text
  | _ => none

def optionalText : Option Json → Option (Option String)
  | none => some none
  | some .null => some none
  | some (.str text) => if text = "" then none else some (some text)
  | _ => none

def messageFields : List String := ["task_id", "type", "request_id"]

def nonRetryableMessageError (text : String) : PyError :=
  { mro := [⟨"app.modules.messaging.queue.worker", "NonRetryableMessageError"⟩,
      ⟨"builtins", "Exception"⟩]
    text := text }

/-- `exc.error_count()`: one error for each bad field and for each field too many. -/
def errorCount (fields : List (String × Json)) : Nat :=
  (if (requiredText (fields.lookup "task_id")).isNone then 1 else 0) +
    (if (requiredText (fields.lookup "type")).isNone then 1 else 0) +
    (if (optionalText (fields.lookup "request_id")).isNone then 1 else 0) +
    (fields.filter fun field => field.1 ∉ messageFields).length

/-- `TaskMessage.from_body`: strict, with no extra fields. -/
def TaskMessage.fromBody (body : Json) : Except PyError TaskMessage :=
  match body with
  | .obj fields =>
      let malformed := Except.error (nonRetryableMessageError
        ("malformed task message: " ++ toString (errorCount fields) ++ " invalid field(s)"))
      if fields.all fun field => field.1 ∈ messageFields then
        match requiredText (fields.lookup "task_id"), requiredText (fields.lookup "type"),
          optionalText (fields.lookup "request_id") with
        | some taskId, some type, some requestId =>
            match TaskMessage.make? taskId type requestId with
            | some message => .ok message
            | none => malformed
        | _, _, _ => malformed
      else malformed
  | _ => .error (nonRetryableMessageError "malformed task message: 1 invalid field(s)")

theorem TaskMessage.make?_some {taskId type : String} {requestId : Option String}
    {message : TaskMessage} (made : TaskMessage.make? taskId type requestId = some message) :
    message.taskId = taskId := by
  unfold TaskMessage.make? at made
  split at made
  · split at made
    · split at made
      · obtain rfl := Option.some.inj made
        rfl
      · cases made
    · cases made
  · cases made

theorem TaskMessage.make?_self (message : TaskMessage) :
    TaskMessage.make? message.taskId message.type message.requestId = some message := by
  simp [TaskMessage.make?, message.namedTask, message.namedType, message.namedRequest]

/-- The worker parses exactly what a dispatcher publishes. -/
theorem TaskMessage.fromBody_toBody (message : TaskMessage) :
    TaskMessage.fromBody message.toBody = .ok message := by
  have built := message.make?_self
  have task := message.namedTask
  have type := message.namedType
  cases request : message.requestId with
  | none =>
      rw [request] at built
      simp [fromBody, toBody, request, messageFields, requiredText, optionalText,
        List.lookup_cons, task, type, built]
  | some requestId =>
      have named : requestId ≠ "" := by
        intro blank
        exact message.namedRequest (by rw [request, blank])
      rw [request] at built
      simp [fromBody, toBody, request, messageFields, requiredText, optionalText,
        List.lookup_cons, task, type, named, built]

/-- The body is a message about the task. -/
def Announces (body : Json) (taskId : String) : Prop :=
  ∃ message, TaskMessage.fromBody body = .ok message ∧ message.taskId = taskId

theorem Announces.toBody {body : Json} {taskId : String} {message : TaskMessage}
    (announces : Announces body taskId) (parsed : TaskMessage.fromBody body = .ok message) :
    Announces message.toBody taskId := by
  obtain ⟨other, same, about⟩ := announces
  obtain rfl := Except.ok.inj (same.symm.trans parsed)
  exact ⟨other, other.fromBody_toBody, about⟩

theorem Announces.unique {body : Json} {taskId other : String} (first : Announces body taskId)
    (second : Announces body other) : taskId = other := by
  obtain ⟨message, parsed, rfl⟩ := first
  obtain ⟨again, same, rfl⟩ := second
  obtain rfl := Except.ok.inj (parsed.symm.trans same)
  rfl

end AiPlatform.Tasks

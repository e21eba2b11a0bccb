import AiPlatform.Core.Datetime
import AiPlatform.Tasks.Record

set_option autoImplicit false

/- The JSON documents that `RedisTaskStore` keeps: `_serialize`, `_deserialize` and their round
trip. `json.dumps` and `json.loads` are inverse, so a value is the document. -/
namespace AiPlatform.Tasks.Redis

open Datetime

def statusText : TaskStatus → String
  | .queued => "queued"
  | .processing => "processing"
  | .completed => "completed"
  | .failed => "failed"

/-- `TaskStatus(text)`; `none` is the `ValueError`. -/
def statusOf (text : String) : Option TaskStatus :=
  [TaskStatus.queued, .processing, .completed, .failed].find? fun status => statusText status = text

@[simp] theorem statusOf_statusText (status : TaskStatus) :
    statusOf (statusText status) = some status := by
  cases status <;> decide

def optionalStr : Option String → Json
  | none => .null
  | some text => .str text

def optionalTime (time : Option Int) : Json := optionalStr (time.map isoformat)

def serialize (task : TaskRecord) : Json :=
  .obj
    [("id", .str task.id),
      ("type", .str task.type),
      ("principal_id", .str task.principalId),
      ("request_id", optionalStr task.requestId),
      ("status", .str (statusText task.status)),
      ("payload", task.payload),
      ("result", task.result.getD .null),
      ("error", optionalStr task.error),
      ("attempts", .num task.attempts),
      ("locked_until", optionalTime task.lockedUntil),
      ("expires_at", .str (isoformat task.expiresAt)),
      ("created_at", optionalTime task.createdAt),
      ("updated_at", optionalTime task.updatedAt)]

/- Readers of the members; `none` is an exception, or a value of another type than the record's. -/

def readStr : Json → Option String
  | .str text => some text
  | _ => none

def readNum : Json → Option Int
  | .num value => some value
  | _ => none

def readOptionalStr : Json → Option (Option String)
  | .null => some none
  | .str text => some (some text)
  | _ => none

/-- `data.get("result")`. -/
def readResult : Json → Option Json
  | .null => none
  | document => some document

/-- `_parse_dt`; a falsy value is `None`. -/
def parseDt : Json → Option (Option Int)
  | .null => some none
  | .str text => if text = "" then some none else (fromisoformat text).map some
  | .num 0 => some none
  | .float (.finite _ 0 _ _) => some none
  | .bool false => some none
  | .arr [] => some none
  | .obj [] => some none
  | _ => none

def deserialize : Json → Option TaskRecord
  | .obj fields => do
      let id ← readStr (← fields.lookup "id")
      let type ← readStr (← fields.lookup "type")
      let principalId ← readStr ((fields.lookup "principal_id").getD (.str ""))
      let requestId ← readOptionalStr ((fields.lookup "request_id").getD .null)
      let status ← statusOf (← readStr (← fields.lookup "status"))
      let payload ← fields.lookup "payload"
      let error ← readOptionalStr ((fields.lookup "error").getD .null)
      let attempts ← readNum ((fields.lookup "attempts").getD (.num 0))
      let lockedUntil ← parseDt ((fields.lookup "locked_until").getD .null)
      let expiresAt ← fromisoformat (← readStr (← fields.lookup "expires_at"))
      let createdAt ← parseDt ((fields.lookup "created_at").getD .null)
      let updatedAt ← parseDt ((fields.lookup "updated_at").getD .null)
      return {
        id := id
        type := type
        principalId := principalId
        requestId := requestId
        status := status
        payload := payload
        result := readResult ((fields.lookup "result").getD .null)
        error := error
        attempts := attempts
        lockedUntil := lockedUntil
        expiresAt := expiresAt
        createdAt := createdAt
        updatedAt := updatedAt }
  | _ => none

/-- A record that the documents can carry: its times are datetimes, and its result, if it has one,
is not the document `null`. -/
structure Encodable (task : TaskRecord) : Prop where
  lockedUntil : ∀ time ∈ task.lockedUntil, Representable time
  expiresAt : Representable task.expiresAt
  createdAt : ∀ time ∈ task.createdAt, Representable time
  updatedAt : ∀ time ∈ task.updatedAt, Representable time
  result : task.result ≠ some .null

@[simp] theorem readOptionalStr_optionalStr (text : Option String) :
    readOptionalStr (optionalStr text) = some text := by
  cases text <;> rfl

theorem isoformat_ne_empty (instant : Int) : isoformat instant ≠ "" := by
  intro empty
  have lengths := congrArg String.toList empty
  simp [isoformat, Date.text] at lengths

theorem parseDt_optionalTime {time : Option Int}
    (representable : ∀ instant ∈ time, Representable instant) :
    parseDt (optionalTime time) = some time := by
  cases time with
  | none => rfl
  | some instant =>
      show (if isoformat instant = "" then some none else
        (fromisoformat (isoformat instant)).map some) = some (some instant)
      rw [if_neg (isoformat_ne_empty instant),
        fromisoformat_isoformat (representable instant rfl), Option.map_some]

theorem readResult_getD {result : Option Json} (document : result ≠ some .null) :
    readResult (result.getD .null) = result := by
  cases result with
  | none => rfl
  | some value =>
      cases value with
      | null => exact absurd rfl document
      | bool value => rfl
      | num value => rfl
      | float value => rfl
      | str text => rfl
      | arr items => rfl
      | obj fields => rfl

theorem deserialize_serialize {task : TaskRecord} (encodable : Encodable task) :
    deserialize (serialize task) = some task := by
  have locked := parseDt_optionalTime encodable.lockedUntil
  have created := parseDt_optionalTime encodable.createdAt
  have updated := parseDt_optionalTime encodable.updatedAt
  have expires := fromisoformat_isoformat encodable.expiresAt
  have result := readResult_getD encodable.result
  simp [serialize, deserialize, List.lookup_cons, readStr, readNum, locked, created, updated,
    expires, result]

end AiPlatform.Tasks.Redis

import AiPlatform.Core.BodyLimit

set_option autoImplicit false

/- `RequestIdMiddleware` around an application. What the application does is a list of events, and
it may do anything: change the context variable and the scope state, send any headers, raise. The
messages that it receives pass by untouched. -/
namespace AiPlatform.RequestContext

open Machine
open RateLimit (Bytes)
open BodyLimit (Scope Raised Ending lower decodeUtf8)

/-- `uuid4().hex`. -/
structure UuidHex where
  text : String
  length : text.toList.length = 32
  digits : ∀ letter ∈ text.toList, letter ∈ "0123456789abcdef".toList

def named (name : Bytes) (header : Bytes × Bytes) : Bool := lower header.1 = lower name

/-- `_first_header`. -/
def firstHeader (headers : List (Bytes × Bytes)) (name : Bytes) : Option Bytes :=
  (headers.find? (named name)).map Prod.snd

/-- `_set_response_header`. -/
def setResponseHeader (headers : List (Bytes × Bytes)) (name value : Bytes) :
    List (Bytes × Bytes) :=
  (headers.filter fun header => !named name header) ++ [(name, value)]

/-- A message to the server. -/
structure Message where
  type : String
  status : Option Nat := none
  headers : Option (List (Bytes × Bytes)) := none
  body : Bytes := []
deriving DecidableEq

def Message.isStart (message : Message) : Bool := message.type = "http.response.start"

/-- A call of the middleware. `requestId` is `scope["state"]["request_id"]`, `context` the context
variable, `own` and `token` are the local variables, and `reads` is what `get_request_id` returned
to the application. -/
structure Call where
  wrapped : Bool := true
  requestId : Option String
  context : Option String
  own : String := ""
  token : Option String := none
  invoked : Nat := 0
  client : List Message := []
  reads : List String := []
  ended : Option Ending := none

/-- What the application does. A value `none` unsets. -/
inductive Event where
  | send (message : Message)
  | getRequestId
  | setRequestId (value : Option String)
  | setState (value : Option String)
  | ends (ending : Ending)

structure RequestIdMiddleware where
  headerName : String := "X-Request-ID"

namespace RequestIdMiddleware

variable (middleware : RequestIdMiddleware)

def name : Bytes := Text.encode middleware.headerName

/-- The request id of a request; `none` is the `UnicodeDecodeError`. -/
def requestIdOf (uuid : UuidHex) (headers : List (Bytes × Bytes)) : Option String :=
  match firstHeader headers middleware.name with
  | none | some [] => some ("req_" ++ uuid.text)
  | some rawRequestId => decodeUtf8 rawRequestId

/-- `__call__` up to the application. -/
def begin (scope : Scope) (uuid : UuidHex) (context : Option String) : Call :=
  if scope.type ≠ .http then
    { wrapped := false, requestId := scope.requestId, context := context, invoked := 1 }
  else match middleware.requestIdOf uuid scope.headers with
    | none =>
        { requestId := scope.requestId
          context := context
          ended := some (.raised .unicodeDecodeError) }
    | some requestId =>
        { requestId := some requestId
          context := some requestId
          own := requestId
          token := context
          invoked := 1 }

/-- `send_with_request_id`. -/
def sendWithRequestId (requestId : String) (message : Message) : Message :=
  if message.isStart then
    let headers := message.headers.getD []
    { message with
      headers := some (setResponseHeader headers middleware.name (Text.encode requestId)) }
  else message

def step (call : Call) (event : Event) : Option Call :=
  if call.ended.isSome then none
  else match event with
    | .send message =>
        let forwarded :=
          if call.wrapped then middleware.sendWithRequestId call.own message else message
        some { call with client := call.client ++ [forwarded] }
    | .getRequestId => some { call with reads := call.reads ++ [call.context.getD "-"] }
    | .setRequestId value => some { call with context := value }
    | .setState value => some { call with requestId := value }
    | .ends ending => some { call with
        context := if call.wrapped then call.token else call.context
        ended := some ending }

/-- The header of the request id, once. -/
def Stamped (requestId : String) (message : Message) : Prop :=
  (message.headers.getD []).filter (named middleware.name) =
    [(middleware.name, Text.encode requestId)]

/-- What the middleware is for, whatever the application does. -/
structure Traced (previous : Option String) (events : List Event) (call : Call) : Prop where
  invoked : call.invoked = 1
  raised : ∀ error, call.ended = some (.raised error) → .ends (.raised error) ∈ events
  restored : call.ended.isSome → call.context = previous
  named : ∃ requestId,
    (∀ message ∈ call.client, message.isStart → middleware.Stamped requestId message) ∧
      ((∀ value, .setState value ∉ events) → call.requestId = some requestId) ∧
      ((∀ value, .setRequestId value ∉ events) → ∀ read ∈ call.reads, read = requestId)

def Total (scope : Scope) (uuid : UuidHex) (previous : Option String) : Prop :=
  ∀ events call, run middleware.step (middleware.begin scope uuid previous) events = some call →
    middleware.Traced previous events call

end RequestIdMiddleware

section Calls

variable {middleware : RequestIdMiddleware} {scope : Scope} {uuid : UuidHex}
variable {requestId : String} {previous : Option String} {events : List Event} {call next : Call}

/-- Whatever the application set under the name, one header is left. -/
theorem stamped_sendWithRequestId {message : Message}
    (start : (middleware.sendWithRequestId requestId message).isStart = true) :
    middleware.Stamped requestId (middleware.sendWithRequestId requestId message) := by
  by_cases starts : message.isStart = true
  · simp [RequestIdMiddleware.Stamped, RequestIdMiddleware.sendWithRequestId, starts,
      setResponseHeader, named, List.filter_append, List.filter_filter]
  · simp [RequestIdMiddleware.sendWithRequestId, starts] at start

/-- A call that has reached the application. -/
structure Underway (middleware : RequestIdMiddleware) (requestId : String)
    (previous : Option String) (events : List Event) (call : Call) : Prop where
  wrapped : call.wrapped = true
  own : call.own = requestId
  token : call.token = previous
  invoked : call.invoked = 1
  raised : ∀ error, call.ended = some (.raised error) → .ends (.raised error) ∈ events
  restored : call.ended.isSome → call.context = previous
  stamped : ∀ message ∈ call.client, message.isStart → middleware.Stamped requestId message
  stored : (∀ value, .setState value ∉ events) → call.requestId = some requestId
  visible : (∀ value, .setRequestId value ∉ events) → call.ended = none →
    call.context = some requestId
  reads : (∀ value, .setRequestId value ∉ events) → ∀ read ∈ call.reads, read = requestId

theorem Underway.step (underway : Underway middleware requestId previous events call)
    (event : Event) (stepped : middleware.step call event = some next) :
    Underway middleware requestId previous (events ++ [event]) next := by
  obtain ⟨wrapped, own, token, invoked, raised, restored, stamped, stored, visible, reads⟩ :=
    underway
  have running : call.ended = none := by
    by_contra ended
    simp [RequestIdMiddleware.step, Option.isSome_iff_ne_none, ended] at stepped
  have earlier : ∀ {change : Option String → Event},
      (∀ value, change value ∉ events ++ [event]) → ∀ value, change value ∉ events :=
    fun quiet value member => quiet value (List.mem_append_left _ member)
  have last : ∀ {change : Option String → Event} {value : Option String}, event = change value →
      ¬∀ value, change value ∉ events ++ [event] :=
    fun same quiet => quiet _ (List.mem_append_right _ (List.mem_singleton.mpr same.symm))
  unfold RequestIdMiddleware.step at stepped
  rw [if_neg (by simp [running])] at stepped
  cases event with
  | send message =>
      obtain rfl := Option.some.inj stepped
      refine ⟨wrapped, own, token, invoked, by simp [running], restored, ?_,
        fun quiet => stored (earlier quiet), fun quiet => visible (earlier quiet),
        fun quiet => reads (earlier quiet)⟩
      intro forwarded member start
      rcases List.mem_append.mp member with old | new
      · exact stamped forwarded old start
      · rw [List.mem_singleton.mp new, if_pos wrapped, own] at start ⊢
        exact stamped_sendWithRequestId start
  | getRequestId =>
      obtain rfl := Option.some.inj stepped
      refine ⟨wrapped, own, token, invoked, by simp [running], restored, stamped,
        fun quiet => stored (earlier quiet), fun quiet => visible (earlier quiet), ?_⟩
      intro quiet read member
      rcases List.mem_append.mp member with old | new
      · exact reads (earlier quiet) read old
      · rw [List.mem_singleton.mp new, visible (earlier quiet) running]
        rfl
  | setRequestId value =>
      obtain rfl := Option.some.inj stepped
      exact ⟨wrapped, own, token, invoked, by simp [running], by simp [running], stamped,
        fun quiet => stored (earlier quiet), fun quiet => absurd quiet (last rfl),
        fun quiet => reads (earlier quiet)⟩
  | setState value =>
      obtain rfl := Option.some.inj stepped
      exact ⟨wrapped, own, token, invoked, by simp [running], restored, stamped,
        fun quiet => absurd quiet (last rfl), fun quiet => visible (earlier quiet),
        fun quiet => reads (earlier quiet)⟩
  | ends ending =>
      obtain rfl := Option.some.inj stepped
      refine ⟨wrapped, own, token, invoked, ?_, fun _ => (if_pos wrapped).trans token, stamped,
        fun quiet => stored (earlier quiet), nofun, fun quiet => reads (earlier quiet)⟩
      intro error same
      rw [Option.some.inj same]
      exact List.mem_append_right _ List.mem_cons_self

theorem run_underway (underway : Underway middleware requestId previous [] call)
    (ran : run middleware.step call events = some next) :
    Underway middleware requestId previous events next := by
  induction events using List.reverseRecOn generalizing next with
  | nil =>
      obtain rfl := Option.some.inj ran
      exact underway
  | append_singleton events event ih =>
      obtain ⟨middle, reached, last⟩ := run_append_some.mp ran
      obtain ⟨_, stepped, ended⟩ := run_cons_some.mp last
      obtain rfl := Option.some.inj ended
      exact (ih reached).step event stepped

theorem decodeUtf8_iff {value : Bytes} {text : String} :
    decodeUtf8 value = some text ↔ Text.encode text = value := by
  have encoded : ∀ text : String, text.toByteArray = ⟨(Text.encode text).toArray⟩ := by
    intro text
    rw [← String.utf8Encode_toList, List.utf8Encode]
    apply ByteArray.ext
    simp [Text.encode]
  unfold decodeUtf8 String.fromUTF8?
  constructor
  · intro decoded
    split at decoded
    · have bytes := encoded text
      rw [← Option.some.inj decoded] at bytes ⊢
      exact (congrArg (fun content => content.data.toList) bytes).symm
    · cases decoded
  · rintro rfl
    rw [← encoded, dif_pos text.isValidUTF8]
    rfl

/-- The way in, as the middleware inside sees it. -/
theorem withRequestId_eq (uuid : UuidHex) (scope : Scope) :
    BodyLimit.withRequestId ("req_" ++ uuid.text) scope =
      (({} : RequestIdMiddleware).requestIdOf uuid scope.headers).map fun requestId =>
        { scope with requestId := some requestId } := by
  have same : BodyLimit.firstHeader scope.headers "x-request-id" =
      firstHeader scope.headers ({} : RequestIdMiddleware).name := by
    have name : RateLimit.bytes "x-request-id" = lower ({} : RequestIdMiddleware).name := by decide
    rw [BodyLimit.firstHeader, name]
    rfl
  rw [BodyLimit.withRequestId, RequestIdMiddleware.requestIdOf, same]
  cases firstHeader scope.headers ({} : RequestIdMiddleware).name with
  | none => rfl
  | some raw =>
      cases raw with
      | nil => rfl
      | cons byte rest => rfl

/-- A request that is let in has a request id. -/
theorem requestIdOf_ne_empty {headers : List (Bytes × Bytes)}
    (decoded : middleware.requestIdOf uuid headers = some requestId) : requestId ≠ "" := by
  rintro rfl
  unfold RequestIdMiddleware.requestIdOf at decoded
  split at decoded
  · have filled := congrArg String.toList (Option.some.inj decoded)
    simp at filled
  · have filled := congrArg String.toList (Option.some.inj decoded)
    simp at filled
  · rename_i raw filled _
    exact filled (decodeUtf8_iff.mp decoded).symm

/-- The header decides whether the application is called. -/
theorem requestIdOf_isSome (uuid : UuidHex) (headers : List (Bytes × Bytes)) :
    (middleware.requestIdOf uuid headers).isSome = true ↔
      ∀ raw ∈ firstHeader headers middleware.name, (decodeUtf8 raw).isSome = true := by
  unfold RequestIdMiddleware.requestIdOf
  cases firstHeader headers middleware.name with
  | none => simp
  | some raw =>
      cases raw with
      | nil =>
          have empty : (decodeUtf8 []).isSome = true := by decide
          simp [empty]
      | cons byte rest => simp

theorem begin_eq (http : scope.type = .http)
    (decoded : middleware.requestIdOf uuid scope.headers = some requestId) :
    middleware.begin scope uuid previous = {
      requestId := some requestId
      context := some requestId
      own := requestId
      token := previous
      invoked := 1 } := by
  simp [RequestIdMiddleware.begin, http, decoded]

theorem begin_underway (http : scope.type = .http)
    (decoded : middleware.requestIdOf uuid scope.headers = some requestId) :
    Underway middleware requestId previous [] (middleware.begin scope uuid previous) := by
  rw [begin_eq http decoded]
  constructor <;> simp

/-- For every application: the middleware does all it is for exactly when the first header of the
name, if there is one, is UTF-8. -/
theorem request_id_total_iff (http : scope.type = .http) :
    middleware.Total scope uuid previous ↔
      ∀ raw ∈ firstHeader scope.headers middleware.name, (decodeUtf8 raw).isSome = true := by
  rw [← requestIdOf_isSome uuid]
  cases decoded : middleware.requestIdOf uuid scope.headers with
  | none =>
      simp only [Option.isSome_none, Bool.false_eq_true, iff_false]
      intro total
      have never := (total [] _ rfl).invoked
      simp [RequestIdMiddleware.begin, http, decoded] at never
  | some requestId =>
      simp only [Option.isSome_some, iff_true]
      intro events call ran
      have underway := run_underway (begin_underway http decoded) ran
      exact ⟨underway.invoked, underway.raised, underway.restored, requestId, underway.stamped,
        underway.stored, underway.reads⟩

end Calls

def firstUuid : UuidHex :=
  ⟨String.ofList (List.replicate 32 'a'), by simp, by simp⟩

/-- The first of two headers counts, and it is UTF-8. -/
theorem request_id_total_iff_named :
    ({} : RequestIdMiddleware).Total
      { type := .http
        headers := [(RateLimit.bytes "x-request-id", RateLimit.bytes "abc"),
          (RateLimit.bytes "X-Request-ID", [0xff])] } firstUuid none :=
  (request_id_total_iff rfl).mpr (by decide +kernel)

/-- A byte that is not UTF-8 ends the request before the application is called. -/
theorem request_id_total_iff_latin :
    ¬∀ (scope : Scope) (uuid : UuidHex) (previous : Option String), scope.type = .http →
      ({} : RequestIdMiddleware).Total scope uuid previous := by
  intro total
  have never := (total
    { type := .http, headers := [(RateLimit.bytes "x-request-id", [0xe9])] } firstUuid none rfl
    [] _ rfl).invoked
  revert never
  decide +kernel

end AiPlatform.RequestContext

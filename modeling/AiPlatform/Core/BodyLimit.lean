import AiPlatform.Api.Sse
import AiPlatform.Lib.Text
import AiPlatform.RateLimit.IpMiddleware

set_option autoImplicit false

/- `RequestBodyLimitMiddleware` around an application. What an application does, with all its tasks
and whatever exceptions it catches, is a list of events: the messages that its receive calls bring,
those that it sends, and how its call ends. A task may outlive the call, and come between the two
messages of a refusal. A scope that is no HTTP request passes by unchanged. -/
namespace AiPlatform.BodyLimit

open Machine RateLimit

/-- `requestId` is `scope["state"]["request_id"]`. -/
structure Scope extends RateLimit.Scope where
  requestId : Option String := none

/-- ASGI messages of both directions. -/
inductive Message where
  | request (content : Option Bytes) (moreBody : Bool)
  | disconnect
  | start (status : Nat) (headers : List (Bytes × Bytes))
  | body (content : Bytes) (moreBody : Bool)
deriving DecidableEq

/-- What the call of an application, or of the middleware, raises. -/
inductive Raised where
  | requestBodyTooLarge
  | unicodeDecodeError
  | other
deriving DecidableEq

inductive Ending where
  | returned
  | raised (error : Raised)
deriving DecidableEq

/-- Where the call of the middleware stands: it awaits the application, it has these messages of the
refusal left to send, or it has ended. -/
inductive Pc where
  | calling
  | refusing (left : List Message)
  | ended (ending : Ending)

/-- `_send_too_large` with these messages left. -/
def refusal : List Message → Pc
  | [] => .ended .returned
  | left => .refusing left

/-- What passed between the server, the middleware and the application. In `handed`, `none` is
a receive call that raised `RequestBodyTooLarge`. -/
structure Exchange where
  called : Bool := true
  responseStarted : Bool := false
  bytesReceived : Nat := 0
  handed : List (Option Message) := []
  client : List Message := []
  pc : Pc := .calling

/-- `receive` and `send` are calls of the application, `refuse` is a send of the middleware. -/
inductive Event where
  | receive (message : Message)
  | send (message : Message)
  | ends (ending : Ending)
  | refuse

/-- `bytes.lower()`. -/
def lower (name : Bytes) : Bytes :=
  name.map fun byte => if 65 ≤ byte && byte ≤ 90 then byte + 32 else byte

/-- The value of the first header of that name. -/
def firstHeader (headers : List (Bytes × Bytes)) (name : String) : Option Bytes :=
  (headers.find? fun header => lower header.1 = bytes name).map Prod.snd

/-- Digits, with single underscores between them. -/
def digits : Bytes → Option (List Nat)
  | [] => none
  | [only] => if 48 ≤ only && only ≤ 57 then some [only.toNat - 48] else none
  | first :: second :: rest =>
      if 48 ≤ first && first ≤ 57 then
        (if second = 95 then digits rest else digits (second :: rest)).map ((first.toNat - 48) :: ·)
      else none

/-- The interpreter's `sys.get_int_max_str_digits()`. -/
def maxStrDigits : Nat := 4300

/-- `int(value)` of bytes; `none` is the `ValueError`. -/
def int (value : Bytes) : Option Int :=
  let blank (byte : UInt8) : Bool := (9 ≤ byte && byte ≤ 13) || byte = 32
  let number (text : Bytes) : Option Int := do
    let found ← digits text
    if maxStrDigits < found.length then none
    return (found.foldl (fun total digit => 10 * total + digit) 0 : Nat)
  match (value.dropWhile blank).rdropWhile blank with
  | 43 :: text => number text
  | 45 :: text => (number text).map fun value => -value
  | text => number text

example : int (bytes " -1_0\t") = some (-10) := by decide +kernel

/-- `_content_length`. -/
def contentLength (scope : Scope) : Option Int :=
  (firstHeader scope.headers "content-length").bind int

def decodeUtf8 (value : Bytes) : Option String := String.fromUTF8? ⟨value.toArray⟩

/-- `_request_id_from_scope`; `none` is the error of a header that is not UTF-8, and `generated`
is the fresh id. -/
def requestIdFromScope (generated : String) (scope : Scope) : Option String :=
  match scope.requestId with
  | some requestId =>
      if requestId ≠ "" then some requestId
      else (firstHeader scope.headers "x-request-id").elim (some generated) decodeUtf8
  | none => (firstHeader scope.headers "x-request-id").elim (some generated) decodeUtf8

/-- `RequestIdMiddleware`, the outermost one, on the way in; `none` is the error of a header that
is not UTF-8. -/
def withRequestId (generated : String) (scope : Scope) : Option Scope :=
  match firstHeader scope.headers "x-request-id" with
  | none | some [] => some { scope with requestId := some generated }
  | some rawRequestId => (decodeUtf8 rawRequestId).map fun requestId =>
      { scope with requestId := some requestId }

/-- The body of the response, as `json.dumps` writes it. -/
def tooLargeBody (requestId : String) : Bytes :=
  let error := Sse.fields [("code", .str "request_body_too_large"),
    ("message", .str "Request body too large"), ("request_id", .str requestId)]
  Text.encode ((Sse.dumps (Sse.fields [("error", error)]) 2).getD "")

/-- What `_send_too_large` sends. -/
def tooLarge (requestId : String) : List Message :=
  let content := tooLargeBody requestId
  [.start 413 [(bytes "content-type", bytes "application/json"),
      (bytes "content-length", Text.encode (toString content.length)),
      (bytes "x-request-id", Text.encode requestId)],
    .body content false]

def Message.isStart : Message → Bool
  | .start _ _ => true
  | _ => false

def Message.isRequest : Message → Bool
  | .request _ _ => true
  | _ => false

/-- The bytes that a request message adds to `bytes_received`. -/
def Message.bodyLength : Message → Nat
  | .request content _ => (content.getD []).length
  | _ => 0

section Definitions

variable (maxBodyBytes : Nat) (generated : String) (scope : Scope)

/-- `_send_too_large` up to its first message. -/
def sendTooLarge (exchange : Exchange) : Exchange :=
  match requestIdFromScope generated scope with
  | some requestId => { exchange with pc := refusal (tooLarge requestId) }
  | none => { exchange with pc := .ended (.raised .unicodeDecodeError) }

/-- `__call__` of a request up to the application, which is not called for a body announced too
large. -/
def begin : Exchange :=
  match contentLength scope with
  | some length =>
      if (maxBodyBytes : Int) < length then sendTooLarge generated scope { called := false } else {}
  | none => {}

/-- `receive_with_limit` on a message that the server gave. -/
def receiveWithLimit (exchange : Exchange) (message : Message) : Exchange :=
  match message with
  | .request content _ =>
      let bytesReceived := exchange.bytesReceived + (content.getD []).length
      { exchange with
        bytesReceived := bytesReceived
        handed := exchange.handed ++ [if maxBodyBytes < bytesReceived then none else some message] }
  | _ => { exchange with handed := exchange.handed ++ [some message] }

/-- `send_with_state`. -/
def sendWithState (exchange : Exchange) (message : Message) : Exchange :=
  { exchange with
    responseStarted := exchange.responseStarted || message.isStart
    client := exchange.client ++ [message] }

/-- The end of the application's call, with the `except` clause. -/
def finish (exchange : Exchange) (ending : Ending) : Exchange :=
  if ending = .raised .requestBodyTooLarge ∧ exchange.responseStarted = false then
    sendTooLarge generated scope exchange
  else { exchange with pc := .ended ending }

def step (exchange : Exchange) : Event → Option Exchange
  | .receive message =>
      if exchange.called then some (receiveWithLimit maxBodyBytes exchange message) else none
  | .send message => if exchange.called then some (sendWithState exchange message) else none
  | .ends ending =>
      match exchange.pc with
      | .calling => some (finish generated scope exchange ending)
      | _ => none
  | .refuse =>
      match exchange.pc with
      | .refusing (message :: left) =>
          some { exchange with client := exchange.client ++ [message], pc := refusal left }
      | _ => none

end Definitions

def starts (messages : List Message) : Nat := messages.countP Message.isStart

/-- The messages that the application sent. -/
def sends (events : List Event) : List Message :=
  events.filterMap fun event => match event with
    | .send message => some message
    | _ => none

/-- The messages that its receive calls brought or should have brought. -/
def receives (events : List Event) : List Message :=
  events.filterMap fun event => match event with
    | .receive message => some message
    | _ => none

def total (messages : List Message) : Nat := (messages.map Message.bodyLength).sum

/-- What became of the receive calls: each message is handed on as it is, but a request message with
which the body is past the limit raises. -/
inductive Handed (maxBodyBytes : Nat) : List Message → List (Option Message) → Prop
  | nil : Handed maxBodyBytes [] []
  | within {messages : List Message} {handed : List (Option Message)} {message : Message}
      (earlier : Handed maxBodyBytes messages handed)
      (small : message.isRequest = false ∨ total (messages ++ [message]) ≤ maxBodyBytes) :
      Handed maxBodyBytes (messages ++ [message]) (handed ++ [some message])
  | past {messages : List Message} {handed : List (Option Message)} {message : Message}
      (earlier : Handed maxBodyBytes messages handed) (request : message.isRequest = true)
      (large : maxBodyBytes < total (messages ++ [message])) :
      Handed maxBodyBytes (messages ++ [message]) (handed ++ [none])

/-- The body bytes that reached the application. -/
def handedBytes (handed : List (Option Message)) : Nat :=
  (handed.map fun message => (message.map Message.bodyLength).getD 0).sum

section Runs

variable {maxBodyBytes : Nat} {generated : String} {scope : Scope} {exchange next final : Exchange}

theorem total_concat (messages : List Message) (message : Message) :
    total (messages ++ [message]) = total messages + message.bodyLength := by
  unfold total
  rw [List.map_append, List.sum_append, List.map_singleton, List.sum_singleton]

theorem handedBytes_concat (handed : List (Option Message)) (message : Option Message) :
    handedBytes (handed ++ [message]) =
      handedBytes handed + (message.map Message.bodyLength).getD 0 := by
  unfold handedBytes
  rw [List.map_append, List.sum_append, List.map_singleton, List.sum_singleton]

theorem bodyLength_of_not_request {message : Message} (other : message.isRequest = false) :
    message.bodyLength = 0 := by
  cases message with
  | request content moreBody => cases other
  | disconnect | start | body => rfl

/-- No more is handed on than was read, nor than the limit. -/
theorem Handed.bounded {messages : List Message} {handed : List (Option Message)}
    (read : Handed maxBodyBytes messages handed) :
    handedBytes handed ≤ total messages ∧ handedBytes handed ≤ maxBodyBytes := by
  induction read with
  | nil => exact ⟨Nat.le_refl 0, Nat.zero_le _⟩
  | @within messages handed message earlier small ih =>
      have grown : handedBytes (handed ++ [some message]) =
          handedBytes handed + message.bodyLength := handedBytes_concat handed (some message)
      rw [grown]
      rw [total_concat] at small ⊢
      rcases small with other | small
      · have empty := bodyLength_of_not_request other
        omega
      · omega
  | @past messages handed message earlier request large ih =>
      have grown : handedBytes (handed ++ [none]) = handedBytes handed + 0 :=
        handedBytes_concat handed none
      rw [grown, total_concat]
      omega

/-- What the receive calls brought so far, and what was counted for it. -/
structure Reading (maxBodyBytes : Nat) (messages : List Message) (exchange : Exchange) : Prop where
  counted : exchange.bytesReceived = total messages
  handed : Handed maxBodyBytes messages exchange.handed

theorem Reading.receive {messages : List Message} (reading : Reading maxBodyBytes messages exchange)
    (message : Message) :
    Reading maxBodyBytes (messages ++ [message])
      (receiveWithLimit maxBodyBytes exchange message) := by
  have ⟨counted, handed⟩ := reading
  cases message with
  | request content moreBody =>
      have grown : exchange.bytesReceived + (content.getD []).length =
          total (messages ++ [.request content moreBody]) := by
        rw [total_concat, counted]
        rfl
      refine ⟨grown, ?_⟩
      unfold receiveWithLimit
      dsimp only
      rw [grown]
      split
      · rename_i large
        exact .past handed rfl large
      · rename_i small
        exact .within handed (.inr (Nat.le_of_not_lt small))
  | disconnect | start | body =>
      exact ⟨by rw [total_concat]; exact counted, .within handed (.inl rfl)⟩

/-- A receive call sends nothing. -/
theorem receiveWithLimit_frame (maxBodyBytes : Nat) (exchange : Exchange) (message : Message) :
    (receiveWithLimit maxBodyBytes exchange message).pc = exchange.pc ∧
      (receiveWithLimit maxBodyBytes exchange message).client = exchange.client ∧
      (receiveWithLimit maxBodyBytes exchange message).responseStarted =
        exchange.responseStarted := by
  cases message with
  | request | disconnect | start | body => exact ⟨rfl, rfl, rfl⟩

theorem sendTooLarge_pc (generated : String) (scope : Scope) (exchange : Exchange) :
    ∃ pc, sendTooLarge generated scope exchange = { exchange with pc := pc } := by
  unfold sendTooLarge
  split
  · exact ⟨_, rfl⟩
  · exact ⟨_, rfl⟩

theorem step_receive {message : Message}
    (stepped : step maxBodyBytes generated scope exchange (.receive message) = some next) :
    next = receiveWithLimit maxBodyBytes exchange message := by
  simp only [step] at stepped
  split at stepped
  · exact (Option.some.inj stepped).symm
  · cases stepped

theorem step_send {message : Message}
    (stepped : step maxBodyBytes generated scope exchange (.send message) = some next) :
    next = sendWithState exchange message := by
  simp only [step] at stepped
  split at stepped
  · exact (Option.some.inj stepped).symm
  · cases stepped

theorem step_ends {ending : Ending}
    (stepped : step maxBodyBytes generated scope exchange (.ends ending) = some next) :
    exchange.pc = .calling ∧ next = finish generated scope exchange ending := by
  simp only [step] at stepped
  split at stepped
  · rename_i calling
    exact ⟨calling, (Option.some.inj stepped).symm⟩
  · cases stepped

theorem step_refuse (stepped : step maxBodyBytes generated scope exchange .refuse = some next) :
    ∃ message left, exchange.pc = .refusing (message :: left) ∧
      next = { exchange with client := exchange.client ++ [message], pc := refusal left } := by
  simp only [step] at stepped
  split at stepped
  · rename_i message left refusing
    exact ⟨message, left, refusing, (Option.some.inj stepped).symm⟩
  · cases stepped

theorem step_reading {messages : List Message} {event : Event}
    (reading : Reading maxBodyBytes messages exchange)
    (stepped : step maxBodyBytes generated scope exchange event = some next) :
    Reading maxBodyBytes (messages ++ receives [event]) next := by
  have ⟨counted, handed⟩ := reading
  cases event with
  | receive message =>
      rw [step_receive stepped]
      exact reading.receive message
  | send message =>
      rw [step_send stepped, show receives [.send message] = [] from rfl, List.append_nil]
      exact ⟨counted, handed⟩
  | ends ending =>
      obtain ⟨-, rfl⟩ := step_ends stepped
      rw [show receives [.ends ending] = [] from rfl, List.append_nil]
      unfold finish
      split
      · obtain ⟨pc, same⟩ := sendTooLarge_pc generated scope exchange
        rw [same]
        exact ⟨counted, handed⟩
      · exact ⟨counted, handed⟩
  | refuse =>
      obtain ⟨_, _, -, rfl⟩ := step_refuse stepped
      rw [show receives [.refuse] = [] from rfl, List.append_nil]
      exact ⟨counted, handed⟩

theorem run_reading {messages : List Message} {events : List Event}
    (reading : Reading maxBodyBytes messages exchange)
    (reached : run (step maxBodyBytes generated scope) exchange events = some final) :
    Reading maxBodyBytes (messages ++ receives events) final := by
  induction events generalizing exchange messages with
  | nil =>
      rw [← Option.some.inj reached]
      show Reading maxBodyBytes (messages ++ []) exchange
      rwa [List.append_nil]
  | cons event rest ih =>
      have ⟨next, stepped, onward⟩ := run_cons_some.mp reached
      have split : receives ([event] ++ rest) = receives [event] ++ receives rest :=
        List.filterMap_append
      rw [← List.singleton_append, split, ← List.append_assoc]
      exact ih (step_reading reading stepped) onward

theorem begin_cases (maxBodyBytes : Nat) (generated : String) (scope : Scope) :
    begin maxBodyBytes generated scope = {} ∨
      begin maxBodyBytes generated scope = sendTooLarge generated scope { called := false } := by
  unfold begin
  split
  · split
    · exact .inr rfl
    · exact .inl rfl
  · exact .inl rfl

theorem begin_reading : Reading maxBodyBytes [] (begin maxBodyBytes generated scope) := by
  rcases begin_cases maxBodyBytes generated scope with untouched | refused
  · rw [untouched]
    exact ⟨rfl, .nil⟩
  · obtain ⟨pc, same⟩ := sendTooLarge_pc generated scope { called := false }
    rw [refused, same]
    exact ⟨rfl, .nil⟩

theorem starts_eq_zero {messages : List Message} :
    starts messages = 0 ↔ messages.any Message.isStart = false := by
  unfold starts
  rw [List.countP_eq_zero, List.any_eq_false]

theorem starts_tooLarge (requestId : String) : starts (tooLarge requestId) = 1 := rfl

theorem starts_append (first second : List Message) :
    starts (first ++ second) = starts first + starts second := List.countP_append

theorem sends_append (first second : List Event) :
    sends (first ++ second) = sends first ++ sends second :=
  List.filterMap_append

theorem refusal_ne_calling (left : List Message) : refusal left ≠ .calling := by
  cases left <;> nofun

/-- What the client gets while a refusal is sent: the rest of it, and what tasks of the application
send in between. -/
structure Refused (exchange : Exchange) (left : List Message) (events : List Event)
    (final : Exchange) (rest : List Message) : Prop where
  pc : final.pc = refusal rest
  starts : starts final.client + starts rest =
    starts exchange.client + starts left + starts (sends events)
  alone : sends events = [] → final.client ++ rest = exchange.client ++ left

theorem run_refused (left : List Message) {events : List Event}
    (refusing : exchange.pc = refusal left)
    (reached : run (step maxBodyBytes generated scope) exchange events = some final) :
    ∃ rest, Refused exchange left events final rest := by
  induction events generalizing exchange left with
  | nil =>
      rw [← Option.some.inj reached]
      exact ⟨left, refusing, rfl, fun _ => rfl⟩
  | cons event rest ih =>
      have ⟨next, stepped, onward⟩ := run_cons_some.mp reached
      cases event with
      | receive message =>
          obtain rfl := step_receive stepped
          have frame := receiveWithLimit_frame maxBodyBytes exchange message
          obtain ⟨later, pc, grown, alone⟩ := ih left (frame.1.trans refusing) onward
          rw [frame.2.1] at grown alone
          exact ⟨later, pc, grown, alone⟩
      | send message =>
          obtain rfl := step_send stepped
          have still : (sendWithState exchange message).pc = refusal left := refusing
          obtain ⟨later, pc, grown, -⟩ := ih left still onward
          refine ⟨later, pc, ?_, nofun⟩
          have client : starts (sendWithState exchange message).client =
              starts exchange.client + starts [message] := starts_append _ _
          have sent : starts (sends (.send message :: rest)) =
              starts [message] + starts (sends rest) := starts_append [message] (sends rest)
          omega
      | ends ending =>
          have calling := (step_ends stepped).1
          exact absurd (refusing.symm.trans calling) (refusal_ne_calling left)
      | refuse =>
          obtain ⟨message, others, shape, rfl⟩ := step_refuse stepped
          obtain rfl : left = message :: others := by
            cases left with
            | nil => cases refusing.symm.trans shape
            | cons => exact Pc.refusing.inj (refusing.symm.trans shape)
          obtain ⟨later, pc, grown, alone⟩ := ih others rfl onward
          refine ⟨later, pc, ?_, fun silent => ?_⟩
          · have split : starts (message :: others) = starts [message] + starts others :=
              starts_append [message] others
            have client : starts (exchange.client ++ [message]) =
                starts exchange.client + starts [message] := starts_append _ _
            have sent : sends (.refuse :: rest) = sends rest := rfl
            dsimp only at grown
            rw [sent, split]
            omega
          · rw [alone silent]
            exact List.append_assoc exchange.client [message] others

/-- Once the application's call is over it does not end again. -/
theorem step_gone {event : Event} (gone : exchange.pc ≠ .calling)
    (stepped : step maxBodyBytes generated scope exchange event = some next) :
    next.pc ≠ .calling ∧ next.called = exchange.called ∧ ∀ ending, event ≠ .ends ending := by
  cases event with
  | receive message =>
      obtain rfl := step_receive stepped
      cases message with
      | request | disconnect | start | body => exact ⟨gone, rfl, nofun⟩
  | send message =>
      obtain rfl := step_send stepped
      exact ⟨gone, rfl, nofun⟩
  | ends ending => exact absurd (step_ends stepped).1 gone
  | refuse =>
      obtain ⟨message, left, -, rfl⟩ := step_refuse stepped
      exact ⟨refusal_ne_calling left, rfl, nofun⟩

theorem run_gone {events : List Event} (gone : exchange.pc ≠ .calling)
    (reached : run (step maxBodyBytes generated scope) exchange events = some final) :
    ∀ ending, .ends ending ∉ events := by
  induction events generalizing exchange with
  | nil => exact fun _ => List.not_mem_nil
  | cons event rest ih =>
      have ⟨next, stepped, onward⟩ := run_cons_some.mp reached
      obtain ⟨still, -, other⟩ := step_gone gone stepped
      intro ending member
      rcases List.mem_cons.mp member with same | later
      · exact other ending same.symm
      · exact ih still onward ending later

/-- An application that was not called sends nothing. -/
theorem run_uncalled {events : List Event} (gone : exchange.pc ≠ .calling)
    (uncalled : exchange.called = false)
    (reached : run (step maxBodyBytes generated scope) exchange events = some final) :
    sends events = [] := by
  induction events generalizing exchange with
  | nil => rfl
  | cons event rest ih =>
      have ⟨next, stepped, onward⟩ := run_cons_some.mp reached
      have ⟨still, same, other⟩ := step_gone gone stepped
      have quiet := ih still (same.trans uncalled) onward
      cases event with
      | receive message => exact quiet
      | send message => simp [step, uncalled] at stepped
      | ends ending => exact absurd rfl (other ending)
      | refuse => exact quiet

theorem ends_unique {done after before later : List Event} {ending other : Ending}
    (first : ∀ ending, .ends ending ∉ done) (last : ∀ ending, .ends ending ∉ after)
    (same : done ++ .ends ending :: after = before ++ .ends other :: later) :
    done = before ∧ ending = other ∧ after = later := by
  rcases List.append_eq_append_iff.mp same with ⟨middle, shape, tail⟩ | ⟨middle, shape, tail⟩
  · cases middle with
    | nil =>
        obtain ⟨head, rest⟩ := List.cons.inj tail
        exact ⟨by rw [shape, List.append_nil], Event.ends.inj head, rest⟩
    | cons event middle =>
        have inside : .ends other ∈ after := by
          rw [(List.cons.inj tail).2]
          exact List.mem_append_right _ List.mem_cons_self
        exact absurd inside (last other)
  · cases middle with
    | nil =>
        obtain ⟨head, rest⟩ := List.cons.inj tail
        exact ⟨by rw [shape, List.append_nil], (Event.ends.inj head).symm, rest.symm⟩
    | cons event middle =>
        have inside : .ends other ∈ done := by
          rw [shape, (List.cons.inj tail).1]
          exact List.mem_append_right _ List.mem_cons_self
        exact absurd inside (first other)

/-- The application is still running, and the client has what it sent. -/
structure Passing (exchange : Exchange) (events : List Event) : Prop where
  calling : exchange.pc = .calling
  client : exchange.client = sends events
  started : exchange.responseStarted = (sends events).any Message.isStart
  going : ∀ ending, .ends ending ∉ events

/-- Once the call has ended otherwise, the client has what the application sends. -/
theorem run_ended {ending : Ending} {events : List Event} (ended : exchange.pc = .ended ending)
    (reached : run (step maxBodyBytes generated scope) exchange events = some final) :
    final.client = exchange.client ++ sends events := by
  induction events generalizing exchange with
  | nil =>
      rw [← Option.some.inj reached]
      exact (List.append_nil exchange.client).symm
  | cons event rest ih =>
      have ⟨next, stepped, onward⟩ := run_cons_some.mp reached
      cases event with
      | receive message =>
          obtain rfl := step_receive stepped
          have frame := receiveWithLimit_frame maxBodyBytes exchange message
          rw [ih (frame.1.trans ended) onward, frame.2.1]
          rfl
      | send message =>
          obtain rfl := step_send stepped
          have still : (sendWithState exchange message).pc = .ended ending := ended
          rw [ih still onward]
          exact List.append_assoc exchange.client [message] (sends rest)
      | ends other =>
          have calling := (step_ends stepped).1
          cases ended.symm.trans calling
      | refuse =>
          obtain ⟨_, _, refusing, -⟩ := step_refuse stepped
          cases ended.symm.trans refusing

/-- The application runs on, or its call has ended and what comes after follows from that. -/
theorem run_shape {before events : List Event} (passing : Passing exchange before)
    (reached : run (step maxBodyBytes generated scope) exchange events = some final) :
    Passing final (before ++ events) ∨
      ∃ middle done ending after, events = done ++ .ends ending :: after ∧
        Passing middle (before ++ done) ∧
        run (step maxBodyBytes generated scope) (finish generated scope middle ending) after =
          some final := by
  induction events generalizing exchange before with
  | nil =>
      rw [List.append_nil]
      rw [← Option.some.inj reached]
      exact .inl passing
  | cons event rest ih =>
      have ⟨next, stepped, onward⟩ := run_cons_some.mp reached
      have ⟨calling, client, started, going⟩ := passing
      have more : (∀ ending, event ≠ .ends ending) →
          ∀ ending, .ends ending ∉ before ++ [event] := by
        intro other ending member
        rcases List.mem_append.mp member with old | new
        · exact going ending old
        · exact other ending (List.mem_singleton.mp new).symm
      have again : ∀ passed : Passing next (before ++ [event]),
          Passing final (before ++ event :: rest) ∨
            ∃ middle done ending after, event :: rest = done ++ .ends ending :: after ∧
              Passing middle (before ++ done) ∧
              run (step maxBodyBytes generated scope) (finish generated scope middle ending) after =
                some final := by
        intro passed
        have split : before ++ event :: rest = before ++ [event] ++ rest := by
          rw [List.append_assoc]
          rfl
        rcases ih passed onward with still | ⟨middle, done, ending, after, shape, passedOn, goes⟩
        · rw [split]
          exact .inl still
        · refine .inr ⟨middle, event :: done, ending, after, by rw [shape]; rfl, ?_, goes⟩
          rw [List.append_assoc] at passedOn
          exact passedOn
      cases event with
      | receive message =>
          apply again
          obtain rfl := step_receive stepped
          have frame := receiveWithLimit_frame maxBodyBytes exchange message
          have quiet : sends (before ++ [.receive message]) = sends before := by
            rw [sends_append]
            exact List.append_nil _
          exact ⟨frame.1.trans calling, by rw [quiet, frame.2.1, client],
            by rw [quiet, frame.2.2, started], more nofun⟩
      | send message =>
          apply again
          obtain rfl := step_send stepped
          have sent : sends (before ++ [.send message]) = sends before ++ [message] := by
            rw [sends_append]
            rfl
          refine ⟨calling, ?_, ?_, more nofun⟩
          · rw [sent]
            exact congrArg (· ++ [message]) client
          · rw [sent, List.any_append, ← started]
            exact congrArg (exchange.responseStarted || ·) (Bool.or_false _).symm
      | ends ending =>
          obtain ⟨-, rfl⟩ := step_ends stepped
          exact .inr ⟨exchange, [], ending, rest, rfl, by rwa [List.append_nil], onward⟩
      | refuse =>
          obtain ⟨_, _, refusing, -⟩ := step_refuse stepped
          cases calling.symm.trans refusing

theorem finish_gone (generated : String) (scope : Scope) (exchange : Exchange) (ending : Ending) :
    (finish generated scope exchange ending).pc ≠ .calling := by
  unfold finish sendTooLarge
  split
  · split
    · rename_i requestId _
      exact refusal_ne_calling (tooLarge requestId)
    · nofun
  · nofun

/-- Behind `RequestIdMiddleware` there is a request id. -/
theorem requestIdFromScope_entered {fresh : String} {outer : Scope} (generated : String)
    (entered : withRequestId fresh outer = some scope) :
    ∃ requestId, requestIdFromScope generated scope = some requestId := by
  have stamped : ∃ requestId, scope.requestId = some requestId ∧
      (requestId = "" →
        (firstHeader scope.headers "x-request-id").elim (some generated) decodeUtf8 ≠ none) := by
    unfold withRequestId at entered
    split at entered
    · rename_i absent
      rw [← Option.some.inj entered]
      refine ⟨fresh, rfl, fun _ => ?_⟩
      show (firstHeader outer.headers "x-request-id").elim _ _ ≠ none
      rw [absent]
      nofun
    · rename_i blank
      rw [← Option.some.inj entered]
      refine ⟨fresh, rfl, fun _ => ?_⟩
      show (firstHeader outer.headers "x-request-id").elim _ _ ≠ none
      rw [blank]
      nofun
    · rename_i raw _ named
      have ⟨requestId, decoded, same⟩ := Option.map_eq_some_iff.mp entered
      rw [← same]
      refine ⟨requestId, rfl, fun _ => ?_⟩
      show (firstHeader outer.headers "x-request-id").elim _ _ ≠ none
      rw [named]
      show decodeUtf8 raw ≠ none
      rw [decoded]
      nofun
  have ⟨requestId, set, fallback⟩ := stamped
  unfold requestIdFromScope
  rw [set]
  by_cases blank : requestId = ""
  · have found := Option.ne_none_iff_exists'.mp (fallback blank)
    dsimp only
    rwa [if_neg (not_not.mpr blank)]
  · dsimp only
    rw [if_pos blank]
    exact ⟨requestId, rfl⟩

/-- Behind it a refusal has two messages to send. -/
theorem sendTooLarge_entered {fresh : String} {outer : Scope} (generated : String)
    (entered : withRequestId fresh outer = some scope) :
    ∃ requestId, ∀ before : Exchange, sendTooLarge generated scope before =
      { before with pc := refusal (tooLarge requestId) } := by
  have ⟨requestId, known⟩ := requestIdFromScope_entered generated entered
  refine ⟨requestId, fun before => ?_⟩
  unfold sendTooLarge
  rw [known]

section Answered

variable {requestId : String} {done after : List Event} {middle : Exchange}

/-- The exception of a receive call is answered if nothing was started. -/
theorem Passing.refused (passing : Passing middle done)
    (answered : sendTooLarge generated scope middle =
      { middle with pc := refusal (tooLarge requestId) })
    (unstarted : starts (sends done) = 0)
    (reached : run (step maxBodyBytes generated scope)
      (finish generated scope middle (.raised .requestBodyTooLarge)) after = some final) :
    ∃ left, final.pc = refusal left ∧
      starts final.client + starts left = 1 + starts (sends after) ∧
      (sends after = [] → final.client ++ left = sends done ++ tooLarge requestId) := by
  have quiet : middle.responseStarted = false := by
    rw [passing.started, ← starts_eq_zero]
    exact unstarted
  rw [finish, if_pos ⟨rfl, quiet⟩, answered] at reached
  obtain ⟨left, pc, grown, alone⟩ := run_refused (tooLarge requestId) rfl reached
  dsimp only at grown alone
  rw [passing.client, unstarted, starts_tooLarge] at grown
  rw [passing.client] at alone
  exact ⟨left, pc, by omega, alone⟩

/-- Any other end of the application's call leaves the client with what is sent. -/
theorem Passing.ended {ending : Ending} (passing : Passing middle done)
    (other : ¬(ending = .raised .requestBodyTooLarge ∧ middle.responseStarted = false))
    (reached : run (step maxBodyBytes generated scope) (finish generated scope middle ending)
      after = some final) : final.client = sends done ++ sends after := by
  rw [finish, if_neg other] at reached
  rw [run_ended rfl reached]
  exact congrArg (· ++ sends after) passing.client

end Answered

/-- For every request, header and application, with all that its tasks do: each message that it
reads is handed on as it is, or raises where the body is past the limit, so that it gets no more
body bytes than the limit; when it lets that exception propagate before it started a response and
sends nothing more, the client gets one response, the 413; and the client has one start at most when
the application sends no more, and none after that exception has left its call. -/
theorem body_limited (maxBodyBytes : Nat) (fresh generated : String) (outer scope : Scope)
    (entered : withRequestId fresh outer = some scope) (events : List Event) (exchange : Exchange)
    (reached : run (step maxBodyBytes generated scope) (begin maxBodyBytes generated scope) events =
      some exchange) :
    Handed maxBodyBytes (receives events) exchange.handed ∧
    handedBytes exchange.handed ≤ maxBodyBytes ∧
    (∀ before after, events = before ++ .ends (.raised .requestBodyTooLarge) :: after →
      starts (sends before) = 0 → sends after = [] → ∃ requestId left,
        exchange.pc = refusal left ∧ exchange.client ++ left = sends before ++ tooLarge requestId ∧
          (left = [] → starts exchange.client = 1)) ∧
    ((∀ before after, events = before ++ .ends (.raised .requestBodyTooLarge) :: after →
        starts (sends after) = 0) →
      starts (sends events) ≤ 1 → starts exchange.client ≤ 1) := by
  have ⟨requestId, answered⟩ := sendTooLarge_entered generated entered
  have reading := run_reading begin_reading reached
  refine ⟨reading.handed, reading.handed.bounded.2, ?_⟩
  rcases begin_cases maxBodyBytes generated scope with untouched | refused
  · rw [untouched] at reached
    have passing : Passing {} [] := ⟨rfl, rfl, rfl, nofun⟩
    rcases run_shape passing reached with still | ⟨middle, done, ending, after, shape, passed, goes⟩
    · constructor
      · intro before after shape
        have member : .ends (.raised .requestBodyTooLarge) ∈ [] ++ events := by
          rw [shape]
          exact List.mem_append_right _ (List.mem_append_right _ List.mem_cons_self)
        exact absurd member (still.going _)
      · intro _ once
        rw [still.client]
        exact once
    · have passed : Passing middle done := passed
      have split : sends events = sends done ++ sends after := by
        rw [shape, sends_append]
        rfl
      constructor
      · intro before later same unstarted silent
        obtain ⟨rfl, rfl, rfl⟩ := ends_unique passed.going
          (run_gone (finish_gone generated scope middle ending) goes) (shape.symm.trans same)
        obtain ⟨left, pc, grown, alone⟩ := passed.refused (answered middle) unstarted goes
        refine ⟨requestId, left, pc, alone silent, ?_⟩
        rintro rfl
        rw [silent] at grown
        exact grown
      · intro late once
        rw [split, starts_append] at once
        by_cases cut : ending = .raised .requestBodyTooLarge ∧ middle.responseStarted = false
        · obtain ⟨rfl, quiet⟩ := cut
          have unstarted : starts (sends done) = 0 := by
            rw [starts_eq_zero, ← passed.started]
            exact quiet
          obtain ⟨left, -, grown, -⟩ := passed.refused (answered middle) unstarted goes
          have none := late done after shape
          omega
        · rw [passed.ended cut goes, starts_append]
          exact once
  · rw [refused, answered] at reached
    have gone := refusal_ne_calling (tooLarge requestId)
    obtain ⟨left, -, grown, -⟩ := run_refused (tooLarge requestId) rfl reached
    dsimp only at grown
    rw [run_uncalled gone rfl reached, starts_tooLarge] at grown
    constructor
    · intro before after shape
      have member : Event.ends (.raised .requestBodyTooLarge) ∈ events := by
        rw [shape]
        exact List.mem_append_right _ List.mem_cons_self
      exact absurd member (run_gone gone reached _)
    · intro _ _
      have none : starts ([] : List Message) = 0 := rfl
      omega

end Runs

def chunked : Scope := { type := .http, requestId := some "req_1" }

/-- The second chunk passes the limit, and the application does not catch the exception. -/
def secondChunkPast : List Event :=
  [.receive (.request (some (bytes "abc")) true), .receive (.request (some (bytes "def")) false),
    .ends (.raised .requestBodyTooLarge), .refuse, .refuse]

theorem body_limited_chunked :
    (run (step 4 "req_2" chunked) (begin 4 "req_2" chunked) secondChunkPast).elim False
      fun exchange => Handed 4 (receives secondChunkPast) exchange.handed ∧
        ∃ requestId left, exchange.pc = refusal left ∧
          exchange.client ++ left = [] ++ tooLarge requestId ∧
            (left = [] → starts exchange.client = 1) :=
  have limited := body_limited 4 "req_1" "req_2" { type := .http } chunked rfl secondChunkPast _ rfl
  ⟨limited.1, limited.2.2.1 [.receive (.request (some (bytes "abc")) true),
    .receive (.request (some (bytes "def")) false)] [.refuse, .refuse] rfl rfl rfl⟩

/-- A task that the application leaves running starts a response after the refusal. -/
def startedLate : List Event :=
  [.receive (.request (some (bytes "abcdef")) false), .ends (.raised .requestBodyTooLarge), .refuse,
    .refuse, .send (.start 200 [])]

theorem second_start_sent :
    ¬∀ (maxBodyBytes : Nat) (fresh generated : String) (outer scope : Scope)
      (events : List Event) (exchange : Exchange), withRequestId fresh outer = some scope →
      run (step maxBodyBytes generated scope) (begin maxBodyBytes generated scope) events =
        some exchange →
      starts (sends events) ≤ 1 → starts exchange.client ≤ 1 := by
  intro once
  have runs : (run (step 4 "req_2" chunked) (begin 4 "req_2" chunked) startedLate).map
      (fun exchange => starts exchange.client) = some 2 := rfl
  obtain ⟨exchange, reached, twice⟩ := Option.map_eq_some_iff.mp runs
  have single := once 4 "req_1" "req_2" { type := .http } chunked startedLate exchange rfl reached
    (by decide)
  omega

end AiPlatform.BodyLimit

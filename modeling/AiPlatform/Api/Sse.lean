import AiPlatform.Core.Value
import AiPlatform.Lib.Generator
import AiPlatform.Lib.Machine
import AiPlatform.Lib.Text

set_option autoImplicit false

/- `app/api/sse.py`: the frames of a server-sent event stream, and the response that relays an
event generator with heartbeats in between. -/
namespace AiPlatform.Sse

/-- Python values as `json.dumps` tells them apart; a float is the text of its `repr`. -/
inductive PyValue where
  | none
  | bool (value : Bool)
  | int (value : Int)
  | float (repr : String)
  | str (value : String)
  | list (items : List PyValue)
  | dict (entries : List (PyValue × PyValue))
  | object (cls : PyClass)

def hexDigits (code : Nat) : List Char :=
  [Nat.digitChar (code / 4096 % 16), Nat.digitChar (code / 256 % 16),
    Nat.digitChar (code / 16 % 16), Nat.digitChar (code % 16)]

/-- Outside the basic plane a character is escaped as its two surrogates. -/
def unicodeEscape (code : Nat) : List Char :=
  if code < 0x10000 then '\\' :: 'u' :: hexDigits code
  else '\\' :: 'u' :: hexDigits (0xd800 + (code - 0x10000) / 0x400) ++
    '\\' :: 'u' :: hexDigits (0xdc00 + (code - 0x10000) % 0x400)

def escapeChar (char : Char) : List Char :=
  if char = '\x22' then ['\\', '\x22']
  else if char = '\\' then ['\\', '\\']
  else if char = '\n' then ['\\', 'n']
  else if char = '\r' then ['\\', 'r']
  else if char = '\t' then ['\\', 't']
  else if char.toNat = 0x0c then ['\\', 'f']
  else if char.toNat = 0x08 then ['\\', 'b']
  else if 0x20 ≤ char.toNat ∧ char.toNat ≤ 0x7e then [char]
  else unicodeEscape char.toNat

/-- A string literal under `ensure_ascii`. -/
def quoted (text : String) : String :=
  String.ofList ('\x22' :: text.toList.flatMap escapeChar ++ ['\x22'])

/-- The text of a dictionary key; any other key is a `TypeError`, or a `ValueError` if it is an
integer of too many digits. -/
def keyText : PyValue → Option String
  | .none => some "null"
  | .bool value => some (if value then "true" else "false")
  | .int value => Text.decimal value
  | .float repr => some repr
  | .str value => some value
  | .list _ => Option.none
  | .dict _ => Option.none
  | .object _ => Option.none

mutual

/-- `json.dumps(value)` where the interpreter goes `depth` lists and dictionaries down; `none` is
the `TypeError` for a value that is not serializable, the `ValueError` for an integer of too many
digits, or the `RecursionError` for a value nested too deep. -/
def dumps : PyValue → Nat → Option String
  | .none, _ => some "null"
  | .bool value, _ => some (if value then "true" else "false")
  | .int value, _ => Text.decimal value
  | .float repr, _ => some repr
  | .str value, _ => some (quoted value)
  | .list _, 0 => Option.none
  | .list items, depth + 1 =>
      (dumpsItems items depth).map fun texts => "[" ++ ", ".intercalate texts ++ "]"
  | .dict _, 0 => Option.none
  | .dict entries, depth + 1 =>
      (dumpsEntries entries depth).map fun texts => "\x7b" ++ ", ".intercalate texts ++ "\x7d"
  | .object _, _ => Option.none

def dumpsItems : List PyValue → Nat → Option (List String)
  | [], _ => some []
  | value :: rest, depth => do
      let text ← dumps value depth
      let texts ← dumpsItems rest depth
      return text :: texts

def dumpsEntries : List (PyValue × PyValue) → Nat → Option (List String)
  | [], _ => some []
  | (key, value) :: rest, depth => do
      let name ← keyText key
      let text ← dumps value depth
      let texts ← dumpsEntries rest depth
      return (quoted name ++ ": " ++ text) :: texts

end

/-- A dictionary whose keys are strings. -/
def fields (entries : List (String × PyValue)) : PyValue :=
  .dict (entries.map fun entry => (.str entry.1, entry.2))

/-- How deep `json.dumps` goes before the interpreter raises a `RecursionError`. The usage in a done
frame, and the metadata in a delta frame, is a dictionary inside another. -/
class Recursion where
  depth : Nat
  frames : 2 ≤ depth

@[reducible] def thousandLevels : Recursion := ⟨1000, by decide⟩

structure ServerSentEvent where
  data : List (String × PyValue)
  event : Option String := none

def ServerSentEvent.eventLine (event : ServerSentEvent) : String :=
  match event.event with
  | some name => if name = "" then "" else "event: " ++ name ++ "\n"
  | none => ""

def ServerSentEvent.encode [Recursion] (event : ServerSentEvent) : Option String :=
  (dumps (fields event.data) Recursion.depth).map fun text =>
    event.eventLine ++ "data: " ++ text ++ "\n\n"

def ping : String := ": ping\n\n"

def streamErrorCode : String := "stream_error"

/-- An exception as the streaming code tells it apart: an `AppError` with its code, the
`StreamTimeoutError` among these, the builtin `TimeoutError`, any other `Exception`. -/
inductive Failure where
  | app (code message : String)
  | streamTimeout
  | timeout (text : String)
  | other (text : String)
deriving DecidableEq

/-- The code of the error frame: `exc.code` of an `AppError`, else `stream_error`. -/
def Failure.frameCode : Failure → String
  | .app code _ => code
  | .streamTimeout => "stream_timeout"
  | .timeout _ => streamErrorCode
  | .other _ => streamErrorCode

def errorEvent (code : String) : ServerSentEvent :=
  ⟨[("type", .str "error"), ("code", .str code)], some "error"⟩

def errorFrame [Recursion] (code : String) : String := (errorEvent code).encode.getD ""

/-- Where the response stands. `waiting` and `pinged` hold the pending task, with its result
once it is done. -/
inductive Pc where
  | priming
  | rejected (failure : Option Failure)
  | sent
  | waiting (pending : Option (Answer ServerSentEvent Failure))
  | pinged (pending : Option (Answer ServerSentEvent Failure))
  | failed
  | closed
  | disconnected

structure Response (Source : Type) where
  source : Source
  pc : Pc
  sent : List String

/-- `turn`: the awaited pull of the generator goes on. `heartbeat`: the wait times out.
`wake`: the wait finds the task done. `resume`: the client has taken the frame. -/
inductive Action where
  | turn
  | heartbeat
  | wake
  | resume
  | disconnect
deriving DecidableEq

section Response

variable [Recursion] {Source : Type} (events : Generator Source ServerSentEvent Failure)

namespace Response

def fail (response : Response Source) (code : String) : Response Source :=
  { response with sent := response.sent ++ [errorFrame code], pc := .failed }

/-- `yield event.encode()`; an event that cannot be encoded raises within the `try`. -/
def yieldEvent (response : Response Source) (event : ServerSentEvent) : Response Source :=
  match event.encode with
  | some text => { response with sent := response.sent ++ [text], pc := .sent }
  | none => response.fail streamErrorCode

/-- The `finally` block when no task is running. -/
def finish (response : Response Source) (pc : Pc) : Response Source :=
  { response with source := events.aclose response.source, pc := pc }

/-- The `finally` block while the pending task runs: it is cancelled first. -/
def finishPending (response : Response Source) (pc : Pc) : Response Source :=
  { response with source := events.aclose (events.cancel response.source), pc := pc }

end Response

/-- `first = await anext(events)` goes on; the frames begin with its event. -/
def prime (response : Response Source) : Response Source :=
  match events.turn response.source with
  | (none, source) => { response with source := source }
  | (some (.item event), source) => { response with source := source }.yieldEvent event
  | (some .stop, source) => { response with source := source }.finish events (.rejected none)
  | (some (.raise failure), source) =>
      { response with source := source }.finish events (.rejected (some failure))

/-- `event = pending.result()` and what follows it. -/
def proceed (response : Response Source) : Answer ServerSentEvent Failure → Response Source
  | .item event => response.yieldEvent event
  | .stop => response.finish events .closed
  | .raise failure => response.fail failure.frameCode

def disconnect (response : Response Source) : Option (Response Source) :=
  match response.pc with
  | .sent => some (response.finish events .disconnected)
  | .failed => some (response.finish events .disconnected)
  | .waiting none => some (response.finishPending events .disconnected)
  | .pinged none => some (response.finishPending events .disconnected)
  | .waiting (some _) => some (response.finish events .disconnected)
  | .pinged (some _) => some (response.finish events .disconnected)
  | _ => none

def step (response : Response Source) : Action → Option (Response Source)
  | .turn =>
      match response.pc with
      | .priming => some (prime events response)
      | .waiting none =>
          let (pending, source) := events.turn response.source
          some { response with source := source, pc := .waiting pending }
      | .pinged none =>
          let (pending, source) := events.turn response.source
          some { response with source := source, pc := .pinged pending }
      | _ => none
  | .heartbeat =>
      match response.pc with
      | .waiting none => some { response with sent := response.sent ++ [ping], pc := .pinged none }
      | _ => none
  | .wake =>
      match response.pc with
      | .waiting (some answer) => some (proceed events response answer)
      | _ => none
  | .resume =>
      match response.pc with
      | .sent => some { response with pc := .waiting none }
      | .pinged pending => some { response with pc := .waiting pending }
      | .failed => some (response.finish events .closed)
      | _ => none
  | .disconnect => disconnect events response

/-- `event_stream_response` before its first event. -/
def respond (source : Source) : Response Source := ⟨source, .priming, []⟩

end Response

end AiPlatform.Sse

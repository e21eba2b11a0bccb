import AiPlatform.Api.Sse

set_option autoImplicit false

/- `POST /completions/stream`: `CompletionService.stream`, the router's `_events` and the
response that relays them. The clock readings of an observation are left out. -/
namespace AiPlatform.Completions

open Sse

structure CompletionUsage where
  inputTokens : Nat
  outputTokens : Nat
  totalTokens : Nat
deriving DecidableEq

def CompletionUsage.modelDump (usage : CompletionUsage) : PyValue :=
  fields
    [("input_tokens", .int usage.inputTokens),
      ("output_tokens", .int usage.outputTokens),
      ("total_tokens", .int usage.totalTokens)]

structure CompletionStreamChunk where
  delta : String
  model : Option String := none
  usage : Option CompletionUsage := none
  finishReason : Option String := none
  metadata : List (String × PyValue) := []

structure StreamSummary where
  usage : Option CompletionUsage := none
  finishReason : Option String := none
  model : Option String := none
deriving DecidableEq

/-- `value or previous` for optional texts: the empty text is falsy. -/
def textOr (value previous : Option String) : Option String :=
  match value with
  | some text => if text = "" then previous else some text
  | none => previous

def StreamSummary.merge (summary : StreamSummary) (chunk : CompletionStreamChunk) :
    StreamSummary where
  model := textOr chunk.model summary.model
  usage := chunk.usage.or summary.usage
  finishReason := textOr chunk.finishReason summary.finishReason

/-- `model_dump(exclude_none=True)`, in the order of the fields. -/
def StreamSummary.modelDump (summary : StreamSummary) : List (String × PyValue) :=
  (summary.usage.map fun usage => ("usage", usage.modelDump)).toList ++
    (summary.finishReason.map fun reason => ("finish_reason", PyValue.str reason)).toList ++
    (summary.model.map fun model => ("model", PyValue.str model)).toList

/-- How the handler's stream ends: it returns, it raises, or it lets a deadline pass. -/
inductive Ending where
  | exhausted
  | raised (failure : Failure)
  | missed
deriving DecidableEq

structure Handler where
  chunks : List CompletionStreamChunk
  ending : Ending

/-- What `anext(chunks, None)` comes to under the timeout. `expired` is `scope.expired()`. -/
inductive Arrival where
  | chunk (chunk : CompletionStreamChunk)
  | none
  | raised (failure : Failure) (expired : Bool)

/-- One wait for the handler. A generator that has ended has nothing more to give. -/
def Handler.anext (handler : Handler) : Arrival × Handler :=
  match handler.chunks, handler.ending with
  | chunk :: rest, _ => (.chunk chunk, { handler with chunks := rest })
  | [], .exhausted => (.none, handler)
  | [], .raised failure => (.raised failure false, { handler with ending := .exhausted })
  | [], .missed => (.raised (.timeout "") true, { handler with ending := .exhausted })

inductive Outcome where
  | ok
  | error
  | timeout
  | disconnected
deriving DecidableEq

inductive Mode where
  | sync
  | stream
deriving DecidableEq

structure CompletionObservation where
  mode : Mode
  outcome : Outcome
  model : Option String
  finishReason : Option String
  inputTokens : Option Nat
  outputTokens : Option Nat
  totalTokens : Option Nat
deriving DecidableEq

def observe (mode : Mode) (outcome : Outcome) (summary : StreamSummary) :
    CompletionObservation where
  mode := mode
  outcome := outcome
  model := summary.model
  finishReason := summary.finishReason
  inputTokens := summary.usage.map CompletionUsage.inputTokens
  outputTokens := summary.usage.map CompletionUsage.outputTokens
  totalTokens := summary.usage.map CompletionUsage.totalTokens

inductive Phase where
  | fresh
  | suspended
  | finished
deriving DecidableEq

/-- The generator `CompletionService.stream`. `verdicts` is what the input guards, in order,
raise on the request; `observations` is what the sink was given. -/
structure Service where
  verdicts : List (Option Failure)
  handler : Handler
  summary : StreamSummary := {}
  phase : Phase := .fresh
  observations : List CompletionObservation := []

/-- `_check_input`: the first guard that raises. -/
def checkInput (verdicts : List (Option Failure)) : Option Failure := verdicts.findSome? id

namespace Service

/-- The `finally` block. -/
def record (service : Service) (outcome : Outcome) : Service :=
  { service with
    phase := .finished
    observations := service.observations ++ [observe .stream outcome service.summary] }

/-- The `except` clauses. -/
def leave (service : Service) (failure : Failure) :
    Option (Answer CompletionStreamChunk Failure) × Service :=
  match failure with
  | .streamTimeout => (some (.raise failure), service.record .timeout)
  | _ => (some (.raise failure), service.record .error)

/-- One round of the loop. A `TimeoutError` is the missed deadline only where the scope has
expired; the handler's own goes through. -/
def pull (service : Service) : Option (Answer CompletionStreamChunk Failure) × Service :=
  match service.handler.anext with
  | (.chunk chunk, handler) =>
      (some (.item chunk),
        { service with
          handler := handler
          phase := .suspended
          summary := service.summary.merge chunk })
  | (.none, handler) => (some .stop, { service with handler := handler }.record .ok)
  | (.raised (.timeout _) true, handler) => { service with handler := handler }.leave .streamTimeout
  | (.raised failure _, handler) => { service with handler := handler }.leave failure

def turn (service : Service) : Option (Answer CompletionStreamChunk Failure) × Service :=
  match service.phase with
  | .fresh =>
      match checkInput service.verdicts with
      | some failure => service.leave failure
      | none => service.pull
  | .suspended => service.pull
  | .finished => (some .stop, service)

/-- A generator that never started runs nothing when it is closed. -/
def aclose (service : Service) : Service :=
  match service.phase with
  | .fresh => { service with phase := .finished }
  | .suspended => service.record .disconnected
  | .finished => service

def cancel (service : Service) : Service :=
  match service.phase with
  | .finished => service
  | _ => service.record .disconnected

end Service

def serviceStream : Generator Service CompletionStreamChunk Failure where
  turn := Service.turn
  aclose := Service.aclose
  cancel := Service.cancel

def deltaEvent (chunk : CompletionStreamChunk) : ServerSentEvent where
  data :=
    [("type", .str "content.delta"), ("delta", .str chunk.delta),
      ("metadata", fields chunk.metadata)]

def doneEvent (summary : StreamSummary) : ServerSentEvent where
  data := ("type", .str "done") :: summary.modelDump

inductive EventsPhase where
  | reading
  | reported
  | finished
deriving DecidableEq

/-- The generator `_events`. It is `reported` between the done event and its return. -/
structure Events (Chunks : Type) where
  chunks : Chunks
  summary : StreamSummary := {}
  phase : EventsPhase := .reading

section Events

variable {Chunks : Type} (chunks : Generator Chunks CompletionStreamChunk Failure)

/-- A chunk without a delta gives no event: the pull goes on to the next chunk. -/
def Events.turn (events : Events Chunks) :
    Option (Answer ServerSentEvent Failure) × Events Chunks :=
  match events.phase with
  | .reading =>
      match chunks.turn events.chunks with
      | (none, source) => (none, { events with chunks := source })
      | (some (.item chunk), source) =>
          (if chunk.delta ≠ "" then some (.item (deltaEvent chunk)) else none,
            { events with chunks := source, summary := events.summary.merge chunk })
      | (some .stop, source) =>
          (some (.item (doneEvent events.summary)),
            { events with chunks := chunks.aclose source, phase := .reported })
      | (some (.raise failure), source) =>
          (some (.raise failure),
            { events with chunks := chunks.aclose source, phase := .finished })
  | .reported => (some .stop, { events with phase := .finished })
  | .finished => (some .stop, events)

/-- `aclosing` closes the chunks. The response has always pulled before it closes. -/
def Events.aclose (events : Events Chunks) : Events Chunks :=
  match events.phase with
  | .reading => { events with chunks := chunks.aclose events.chunks, phase := .finished }
  | _ => { events with phase := .finished }

def Events.cancel (events : Events Chunks) : Events Chunks :=
  match events.phase with
  | .reading =>
      { events with chunks := chunks.aclose (chunks.cancel events.chunks), phase := .finished }
  | _ => { events with phase := .finished }

def eventsStream : Generator (Events Chunks) ServerSentEvent Failure where
  turn := Events.turn chunks
  aclose := Events.aclose chunks
  cancel := Events.cancel chunks

end Events

/-- One request: the verdicts of the input guards and what the handler will do. -/
structure Call where
  verdicts : List (Option Failure) := []
  chunks : List CompletionStreamChunk
  ending : Ending

/-- `service.stream(payload)`. -/
def Call.service (call : Call) : Service where
  verdicts := call.verdicts
  handler := ⟨call.chunks, call.ending⟩

/-- The router's `stream`. -/
def Call.stream (call : Call) : Response (Events Service) := respond { chunks := call.service }

def streamEvents : Generator (Events Service) ServerSentEvent Failure :=
  eventsStream serviceStream

end AiPlatform.Completions

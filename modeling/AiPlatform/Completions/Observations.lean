import Mathlib.Data.List.Induction
import AiPlatform.Completions.Streaming

set_option autoImplicit false

/- What `CompletionService.complete` and `stream` tell their sink. Everything they await may
succeed, raise or be cancelled. A handler's `stream` is an async generator function, so that calling
it only makes the generator. The clock readings of an observation are left out. -/
namespace AiPlatform.Completions.Observations

open Sse

inductive Interruption where
  | raised (failure : Failure)
  | cancelled
deriving DecidableEq

abbrev Awaited := Except Interruption

structure CompletionResult where
  content : String
  model : Option String := none
  usage : Option CompletionUsage := none
  finishReason : Option String := none
  metadata : List (String × PyValue) := []

structure CompletionGuard (Request : Type) where
  checkInput : Request → Awaited Unit
  checkOutput : Request → CompletionResult → Awaited Unit

/-- How a step of the handler's generator ends. -/
inductive Arrival where
  | chunk (chunk : CompletionStreamChunk)
  | exhausted
  | interrupted (interruption : Interruption)

/-- A wait for the handler. A deadline that expires cancels the task, as may someone else; the step
ends as the handler takes that. Which of its deadlines the policy sets only matters for the time at
which one expires. -/
structure Wait where
  arrival : Arrival
  expired : Bool := false
  outside : Bool := false

/-- The handler. Its generator goes through these steps. -/
structure CompletionHandler (Request : Type) where
  complete : Request → Awaited CompletionResult
  stream : Request → List Wait

structure CompletionService (Request : Type) where
  handler : CompletionHandler Request
  guards : List (CompletionGuard Request) := []

/-- `asyncio.timeout` turns its own cancellation into a `TimeoutError` as it is left. -/
def Wait.timeout (wait : Wait) : Arrival :=
  match wait.arrival with
  | .interrupted .cancelled =>
      if wait.expired && !wait.outside then .interrupted (.raised (.timeout ""))
      else .interrupted .cancelled
  | arrival => arrival

/-- The wait behind its `except TimeoutError`. -/
def Wait.result (wait : Wait) : Arrival :=
  match wait.timeout with
  | .interrupted (.raised (.timeout text)) =>
      if wait.expired then .interrupted (.raised .streamTimeout)
      else .interrupted (.raised (.timeout text))
  | arrival => arrival

/-- A call of `complete`: how it ends, what the sink was given and whether the handler was
called. -/
structure Completed where
  ending : Awaited CompletionResult
  observations : List CompletionObservation
  invoked : Bool

/-- How a stream that was started ends: its generator returns, is interrupted or is closed at a
`yield`, with what the cleanup of the handler's generator raises. -/
inductive Ended where
  | returned
  | interrupted (interruption : Interruption)
  | closed (cleanup : Option Interruption)

/-- The generator `stream`: what the handler's generator has left, how often that was advanced and
closed, what was yielded and how it ended. -/
structure Stream where
  chunks : List Wait
  summary : StreamSummary := {}
  phase : Phase := .fresh
  advances : Nat := 0
  closes : Nat := 0
  yielded : List CompletionStreamChunk := []
  ended : Option Ended := none
  observations : List CompletionObservation := []

/-- What the consumer of a stream does. A cancellation while it waits is part of what it waits
for. -/
inductive Consumer where
  | next
  | aclose (cleanup : Option Interruption)

def mergeResult (summary : StreamSummary) (result : CompletionResult) : StreamSummary :=
  summary.merge {
    delta := ""
    model := result.model
    usage := result.usage
    finishReason := result.finishReason }

namespace CompletionService

variable {Request : Type} (service : CompletionService Request) (request : Request)

def checkInput : Awaited Unit := service.guards.forM fun guard => guard.checkInput request

def checkOutput (result : CompletionResult) : Awaited Unit :=
  service.guards.forM fun guard => guard.checkOutput request result

/-- The `except` clause of `complete`; a cancellation is no `Exception`. -/
def failed (invoked : Bool) (interruption : Interruption) : Completed where
  ending := .error interruption
  observations :=
    match interruption with
    | .raised _ => [observe .sync .error {}]
    | .cancelled => [observe .sync .disconnected {}]
  invoked := invoked

def complete : Completed :=
  match service.checkInput request with
  | .error interruption => failed false interruption
  | .ok () =>
      match service.handler.complete request with
      | .error interruption => failed true interruption
      | .ok result =>
          match service.checkOutput request result with
          | .error interruption => failed true interruption
          | .ok () => ⟨.ok result, [observe .sync .ok (mergeResult {} result)], true⟩

def stream : Stream where
  chunks := service.handler.stream request

end CompletionService

namespace Stream

/-- The `finally` block. -/
def finish (stream : Stream) (outcome : Outcome) (ended : Ended) : Stream :=
  { stream with
    phase := .finished
    closes := stream.closes + 1
    ended := some ended
    observations := stream.observations ++ [observe .stream outcome stream.summary] }

/-- The `except` clauses. -/
def leave (stream : Stream) (interruption : Interruption) : Stream :=
  match interruption with
  | .raised .streamTimeout => stream.finish .timeout (.interrupted interruption)
  | .raised _ => stream.finish .error (.interrupted interruption)
  | .cancelled => stream.finish .disconnected (.interrupted interruption)

/-- One round of the loop. -/
def pull (stream : Stream) : Stream :=
  match stream.chunks with
  | [] => { stream with advances := stream.advances + 1 }.finish .ok .returned
  | wait :: rest =>
      let advanced := { stream with chunks := rest, advances := stream.advances + 1 }
      match wait.result with
      | .chunk chunk =>
          { advanced with
            phase := .suspended
            summary := stream.summary.merge chunk
            yielded := stream.yielded ++ [chunk] }
      | .exhausted => advanced.finish .ok .returned
      | .interrupted interruption => advanced.leave interruption

/-- What a turn of the consumer does. A generator that never started runs nothing when it is closed,
and one that has finished runs nothing at all. -/
def step {Request : Type} (service : CompletionService Request) (request : Request)
    (stream : Stream) : Consumer → Stream
  | .next =>
      match stream.phase with
      | .fresh =>
          match service.checkInput request with
          | .error interruption => stream.leave interruption
          | .ok () => stream.pull
      | .suspended => stream.pull
      | .finished => stream
  | .aclose cleanup =>
      match stream.phase with
      | .fresh => { stream with phase := .finished }
      | .suspended => stream.finish .disconnected (.closed cleanup)
      | .finished => stream

end Stream

/-- The stream after these turns. -/
def CompletionService.consume {Request : Type} (service : CompletionService Request)
    (request : Request) (turns : List Consumer) : Stream :=
  turns.foldl (Stream.step service request) (service.stream request)

/-- The chunks of the handler, up to the step that ends its generator. -/
def chunksOf : List Wait → List CompletionStreamChunk
  | [] => []
  | wait :: rest =>
      match wait.arrival with
      | .chunk chunk => chunk :: chunksOf rest
      | _ => []

/-- The deadline expired, and the wait ended in a `TimeoutError`: its own, unless someone else had
cancelled the task as well, or one from the handler. -/
def Wait.Missed (wait : Wait) : Prop :=
  wait.expired = true ∧
    (wait.arrival = .interrupted .cancelled ∧ wait.outside = false ∨
      ∃ text, wait.arrival = .interrupted (.raised (.timeout text)))

/-- The call records once, and what it records is how it ended. -/
structure Completed.Observed {Request : Type} (service : CompletionService Request)
    (request : Request) (done : Completed) : Prop where
  once : ∃ observation, done.observations = [observation] ∧ observation.mode = .sync ∧
    (observation.outcome = .ok ↔ ∃ result, done.ending = .ok result) ∧
    observation.outcome ≠ .timeout ∧
    (observation.outcome = .error ↔ ∃ failure, done.ending = .error (.raised failure)) ∧
    (observation.outcome = .disconnected ↔ done.ending = .error .cancelled)
  invoked : done.invoked = true → ∀ guard ∈ service.guards, guard.checkInput request = .ok ()
  result : ∀ result, done.ending = .ok result ↔
    (∀ guard ∈ service.guards, guard.checkInput request = .ok ()) ∧
      service.handler.complete request = .ok result ∧
      ∀ guard ∈ service.guards, guard.checkOutput request result = .ok ()

/-- What was behind the end of a stream, given its handler's steps, what the input guards said and
the consumer's turns. -/
def Ended.Because (chunks : List Wait) (verdict : Awaited Unit) (turns : List Consumer)
    (yielded : List CompletionStreamChunk) : Ended → Prop
  | .returned => verdict = .ok () ∧ yielded = chunksOf chunks ∧
      ∀ wait, chunks[yielded.length]? = some wait → wait.arrival = .exhausted
  | .interrupted interruption => verdict = .error interruption ∨
      verdict = .ok () ∧ ∃ wait, chunks[yielded.length]? = some wait ∧
        wait.result = .interrupted interruption
  | .closed cleanup => .aclose cleanup ∈ turns

/-- A stream that has started records once as it ends, and what it records is how it ended. -/
structure Stream.Observed {Request : Type} (service : CompletionService Request)
    (request : Request) (turns : List Consumer) (stream : Stream) : Prop where
  running : stream.ended = none → stream.observations = [] ∧ stream.closes = 0
  finished : stream.phase = .finished → turns.head? = some .next → stream.ended ≠ none
  once : ∀ ended, stream.ended = some ended → stream.closes = 1 ∧
    ∃ observation, stream.observations = [observation] ∧ observation.mode = .stream ∧
      (observation.outcome = .ok ↔ ended = .returned) ∧
      (observation.outcome = .timeout ↔ ended = .interrupted (.raised .streamTimeout)) ∧
      (observation.outcome = .error ↔
        ∃ failure, failure ≠ .streamTimeout ∧ ended = .interrupted (.raised failure)) ∧
      (observation.outcome = .disconnected ↔
        ended = .interrupted .cancelled ∨ ∃ cleanup, ended = .closed cleanup)
  because : ∀ ended, stream.ended = some ended → ended.Because (service.handler.stream request)
    (service.checkInput request) turns stream.yielded
  timedOut : stream.ended = some (.interrupted (.raised .streamTimeout)) ↔
    turns.head? = some .next ∧ service.checkInput request = .error (.raised .streamTimeout) ∨
      ∃ wait ∈ (service.handler.stream request).take stream.advances,
        wait.Missed ∨ wait.arrival = .interrupted (.raised .streamTimeout)
  advanced : stream.advances ≠ 0 → ∀ guard ∈ service.guards, guard.checkInput request = .ok ()
  yields : stream.yielded <+: chunksOf (service.handler.stream request)

section Guards

variable {Request : Type} {service : CompletionService Request} {request : Request}

theorem forM_ok {Item : Type} {items : List Item} {check : Item → Awaited Unit} :
    items.forM check = .ok () ↔ ∀ item ∈ items, check item = .ok () := by
  induction items with
  | nil => exact iff_of_true rfl (fun _ member => absurd member List.not_mem_nil)
  | cons item rest ih =>
      rw [List.forall_mem_cons, ← ih]
      show (check item >>= fun _ => rest.forM check) = .ok () ↔ _
      cases check item with
      | error interruption => exact iff_of_false nofun fun ⟨passed, _⟩ => nomatch passed
      | ok _ => exact (and_iff_right rfl).symm

theorem failed_observed (invoked : Bool) (interruption : Interruption) :
    ∃ observation, (CompletionService.failed invoked interruption).observations = [observation] ∧
      observation.mode = .sync ∧
      (observation.outcome = .ok ↔
        ∃ result, (CompletionService.failed invoked interruption).ending = .ok result) ∧
      observation.outcome ≠ .timeout ∧
      (observation.outcome = .error ↔
        ∃ failure,
          (CompletionService.failed invoked interruption).ending = .error (.raised failure)) ∧
      (observation.outcome = .disconnected ↔
        (CompletionService.failed invoked interruption).ending = .error .cancelled) := by
  cases interruption with
  | raised failure =>
      exact ⟨_, rfl, rfl, iff_of_false nofun nofun, nofun, iff_of_true rfl ⟨failure, rfl⟩,
        iff_of_false nofun nofun⟩
  | cancelled =>
      exact ⟨_, rfl, rfl, iff_of_false nofun nofun, nofun, iff_of_false nofun nofun,
        iff_of_true rfl rfl⟩

/-- One observation for each way through `complete`. -/
theorem complete_observed : (service.complete request).Observed service request := by
  unfold CompletionService.complete
  cases input : service.checkInput request with
  | error interruption =>
      have blocked : ¬∀ guard ∈ service.guards, guard.checkInput request = .ok () := by
        intro passed
        have checked : service.checkInput request = .ok () := forM_ok.mpr passed
        rw [input] at checked
        cases checked
      exact ⟨failed_observed false interruption, nofun,
        fun _ => iff_of_false nofun fun ⟨passed, _⟩ => blocked passed⟩
  | ok _ =>
      have passed : ∀ guard ∈ service.guards, guard.checkInput request = .ok () :=
        forM_ok.mp input
      dsimp only
      cases handled : service.handler.complete request with
      | error interruption =>
          refine ⟨failed_observed true interruption, fun _ => passed,
            fun other => iff_of_false nofun ?_⟩
          intro ⟨_, completed, _⟩
          rw [handled] at completed
          cases completed
      | ok result =>
          dsimp only
          cases output : service.checkOutput request result with
          | error interruption =>
              refine ⟨failed_observed true interruption, fun _ => passed,
                fun other => iff_of_false nofun ?_⟩
              intro ⟨_, completed, released⟩
              have checked : service.checkOutput request other = .ok () := forM_ok.mpr released
              rw [handled] at completed
              rw [← Except.ok.inj completed, output] at checked
              cases checked
          | ok _ =>
              have released : ∀ guard ∈ service.guards,
                  guard.checkOutput request result = .ok () := forM_ok.mp output
              refine ⟨⟨_, rfl, rfl, iff_of_true rfl ⟨result, rfl⟩, nofun,
                iff_of_false nofun nofun, iff_of_false nofun nofun⟩, fun _ => passed, ?_⟩
              intro other
              constructor
              · intro same
                rw [← Except.ok.inj same]
                exact ⟨passed, handled, released⟩
              · intro ⟨_, completed, _⟩
                exact handled.symm.trans completed

end Guards

section Waits

/-- The service raises its `StreamTimeoutError` for a missed deadline and for nothing else. -/
theorem result_streamTimeout (wait : Wait) :
    wait.result = .interrupted (.raised .streamTimeout) ↔
      wait.Missed ∨ wait.arrival = .interrupted (.raised .streamTimeout) := by
  have ⟨arrival, expired, outside⟩ := wait
  unfold Wait.result Wait.timeout Wait.Missed
  cases arrival with
  | chunk chunk => simp
  | exhausted => simp
  | interrupted interruption =>
      cases interruption with
      | cancelled => cases expired <;> cases outside <;> simp
      | raised failure =>
          cases failure with
          | timeout text => cases expired <;> simp
          | streamTimeout => simp
          | app code message => simp
          | other text => simp

theorem result_of_chunk {wait : Wait} {chunk : CompletionStreamChunk}
    (arrived : wait.arrival = .chunk chunk) : wait.result = .chunk chunk := by
  unfold Wait.result Wait.timeout
  rw [arrived]

/-- Only what interrupts a step is changed on its way out of the timeout. -/
theorem arrival_of_result {wait : Wait} :
    (∀ chunk, wait.result = .chunk chunk → wait.arrival = .chunk chunk) ∧
      (wait.result = .exhausted → wait.arrival = .exhausted) := by
  have ⟨arrival, expired, outside⟩ := wait
  unfold Wait.result Wait.timeout
  cases arrival with
  | chunk chunk => exact ⟨fun _ same => same, nofun⟩
  | exhausted => exact ⟨nofun, fun _ => rfl⟩
  | interrupted interruption =>
      cases interruption with
      | cancelled => cases expired <;> cases outside <;> simp
      | raised failure =>
          cases failure with
          | timeout text => cases expired <;> simp
          | streamTimeout => simp
          | app code message => simp
          | other text => simp

/-- These steps gave these chunks. -/
abbrev Gave : List Wait → List CompletionStreamChunk → Prop :=
  List.Forall₂ fun wait chunk => wait.arrival = .chunk chunk

theorem chunksOf_append {taken : List Wait} {yielded : List CompletionStreamChunk}
    (gave : Gave taken yielded) (rest : List Wait) :
    chunksOf (taken ++ rest) = yielded ++ chunksOf rest := by
  induction gave with
  | nil => rfl
  | cons arrived _ ih =>
      rw [List.cons_append, List.cons_append, chunksOf, arrived, ← ih]

theorem Gave.snoc {taken : List Wait} {yielded : List CompletionStreamChunk} {wait : Wait}
    {chunk : CompletionStreamChunk} (gave : Gave taken yielded)
    (arrived : wait.arrival = .chunk chunk) : Gave (taken ++ [wait]) (yielded ++ [chunk]) := by
  induction gave with
  | nil => exact .cons arrived .nil
  | cons first _ ih => exact .cons first ih

/-- A step that gave a chunk timed nothing out. -/
theorem Gave.in_time {taken : List Wait} {yielded : List CompletionStreamChunk}
    (gave : Gave taken yielded) :
    ¬∃ wait ∈ taken, wait.Missed ∨ wait.arrival = .interrupted (.raised .streamTimeout) := by
  induction gave with
  | nil => exact fun ⟨_, member, _⟩ => absurd member List.not_mem_nil
  | cons arrived _ ih =>
      intro ⟨wait, member, late⟩
      rcases List.mem_cons.mp member with same | inside
      · have result := (result_streamTimeout wait).mpr late
        rw [same, result_of_chunk arrived] at result
        cases result
      · exact ih ⟨wait, inside, late⟩

end Waits

section Streams

variable {Request : Type} {service : CompletionService Request} {request : Request}
  {turns : List Consumer} {stream : Stream}

/-- A stream that has taken these steps of its handler for chunks, and has some more behind it. -/
structure Underway (service : CompletionService Request) (request : Request)
    (taken more : List Wait) (stream : Stream) : Prop where
  split : service.handler.stream request = taken ++ (more ++ stream.chunks)
  took : (service.handler.stream request).take stream.advances = taken ++ more
  gave : Gave taken stream.yielded
  closes : stream.closes = 0
  ended : stream.ended = none
  observations : stream.observations = []

theorem Underway.yields {taken more : List Wait}
    (underway : Underway service request taken more stream) :
    stream.yielded <+: chunksOf (service.handler.stream request) := by
  rw [underway.split, chunksOf_append underway.gave]
  exact List.prefix_append _ _

/-- The step after the chunks. -/
theorem Underway.after {taken more : List Wait}
    (underway : Underway service request taken more stream) :
    (service.handler.stream request)[stream.yielded.length]? = (more ++ stream.chunks).head? := by
  rw [underway.split, ← underway.gave.length_eq, List.getElem?_append_right (Nat.le_refl _),
    Nat.sub_self, List.head?_eq_getElem?]

def Ended.outcome : Ended → Outcome
  | .returned => .ok
  | .interrupted (.raised .streamTimeout) => .timeout
  | .interrupted (.raised _) => .error
  | .interrupted .cancelled => .disconnected
  | .closed _ => .disconnected

theorem Ended.outcome_iff (ended : Ended) :
    (ended.outcome = .ok ↔ ended = .returned) ∧
      (ended.outcome = .timeout ↔ ended = .interrupted (.raised .streamTimeout)) ∧
      (ended.outcome = .error ↔
        ∃ failure, failure ≠ .streamTimeout ∧ ended = .interrupted (.raised failure)) ∧
      (ended.outcome = .disconnected ↔
        ended = .interrupted .cancelled ∨ ∃ cleanup, ended = .closed cleanup) := by
  cases ended with
  | returned => simp [Ended.outcome]
  | closed cleanup => simp [Ended.outcome]
  | interrupted interruption =>
      cases interruption with
      | cancelled => simp [Ended.outcome]
      | raised failure => cases failure <;> simp [Ended.outcome]

/-- The `finally` block records what the end says, once. -/
theorem Underway.finish {taken more : List Wait}
    (underway : Underway service request taken more stream) (started : turns.head? = some .next)
    (ended : Ended) (because : ended.Because (service.handler.stream request)
      (service.checkInput request) turns stream.yielded)
    (passed : stream.advances ≠ 0 → service.checkInput request = .ok ())
    (timedOut : ended = .interrupted (.raised .streamTimeout) ↔
      service.checkInput request = .error (.raised .streamTimeout) ∨
        ∃ wait ∈ more, wait.Missed ∨ wait.arrival = .interrupted (.raised .streamTimeout)) :
    (stream.finish ended.outcome ended).Observed service request turns := by
  have one : stream.observations ++ [observe .stream ended.outcome stream.summary] =
      [observe .stream ended.outcome stream.summary] := by
    rw [underway.observations, List.nil_append]
  refine ⟨nofun, fun _ _ => nofun, ?_, ?_, ?_, fun moved => forM_ok.mp (passed moved),
    underway.yields⟩
  · intro other same
    rw [← Option.some.inj same]
    exact ⟨congrArg (· + 1) underway.closes, _, one, rfl, ended.outcome_iff⟩
  · intro other same
    rw [← Option.some.inj same]
    exact because
  · show some ended = _ ↔ _ ∨ ∃ wait ∈ List.take stream.advances _, _
    have last : (∃ wait ∈ taken ++ more,
          wait.Missed ∨ wait.arrival = .interrupted (.raised .streamTimeout)) ↔
        ∃ wait ∈ more, wait.Missed ∨ wait.arrival = .interrupted (.raised .streamTimeout) := by
      constructor
      · intro ⟨wait, member, late⟩
        rcases List.mem_append.mp member with early | inside
        · exact absurd ⟨wait, early, late⟩ underway.gave.in_time
        · exact ⟨wait, inside, late⟩
      · exact fun ⟨wait, inside, late⟩ => ⟨wait, List.mem_append_right _ inside, late⟩
    rw [underway.took, Option.some_inj, timedOut, last, and_iff_right started]

/-- Where a stream stands after some turns. -/
inductive Standing (service : CompletionService Request) (request : Request)
    (turns : List Consumer) : Stream → Prop
  | fresh (idle : turns = []) : Standing service request turns (service.stream request)
  | unstarted (cleanup : Option Interruption) (never : turns.head? = some (.aclose cleanup)) :
      Standing service request turns { service.stream request with phase := .finished }
  | reading (stream : Stream) (taken : List Wait) (started : turns.head? = some .next)
      (suspended : stream.phase = .suspended) (passed : service.checkInput request = .ok ())
      (advances : stream.advances = taken.length)
      (underway : Underway service request taken [] stream) : Standing service request turns stream
  | settled (stream : Stream) (started : turns.head? = some .next)
      (finished : stream.phase = .finished) (observed : stream.Observed service request turns) :
      Standing service request turns stream

theorem leave_eq (stream : Stream) (interruption : Interruption) :
    stream.leave interruption =
      stream.finish (Ended.interrupted interruption).outcome (.interrupted interruption) := by
  cases interruption with
  | cancelled => rfl
  | raised failure => cases failure <;> rfl

/-- The step that is taken next. -/
theorem Underway.advance {taken rest : List Wait} {wait : Wait}
    (underway : Underway service request taken [] stream)
    (advances : stream.advances = taken.length) (left : stream.chunks = wait :: rest) :
    Underway service request taken [wait]
      { stream with chunks := rest, advances := stream.advances + 1 } := by
  have split : service.handler.stream request = taken ++ wait :: rest := by
    rw [underway.split, left]
    rfl
  refine ⟨split, ?_, underway.gave, underway.closes, underway.ended, underway.observations⟩
  show List.take (stream.advances + 1) _ = _
  rw [split, advances, List.take_length_add_append]
  rfl

theorem chunksOf_exhausted {chunks : List Wait}
    (ends : ∀ wait, chunks.head? = some wait → wait.arrival = .exhausted) :
    chunksOf chunks = [] := by
  cases chunks with
  | nil => rfl
  | cons wait rest => rw [chunksOf, ends wait rfl]

/-- The handler's generator returns, at a last step or without one. -/
theorem Underway.returns {taken more : List Wait}
    (underway : Underway service request taken more stream) (started : turns.head? = some .next)
    (passed : service.checkInput request = .ok ())
    (ends : ∀ wait, (more ++ stream.chunks).head? = some wait → wait.arrival = .exhausted)
    (quiet : ∀ wait ∈ more, wait.arrival = .exhausted) :
    (stream.finish .ok .returned).Observed service request turns := by
  refine underway.finish started .returned ⟨passed, ?_, ?_⟩ (fun _ => passed) ?_
  · rw [underway.split, chunksOf_append underway.gave, chunksOf_exhausted ends, List.append_nil]
  · intro wait found
    rw [underway.after] at found
    exact ends wait found
  · rw [passed]
    refine iff_of_false nofun ?_
    rintro (blocked | ⟨wait, member, late⟩)
    · cases blocked
    · have result := (result_streamTimeout wait).mpr late
      unfold Wait.result Wait.timeout at result
      rw [quiet wait member] at result
      cases result

theorem Underway.interrupts {taken : List Wait} {wait : Wait} {interruption : Interruption}
    (underway : Underway service request taken [wait] stream) (started : turns.head? = some .next)
    (passed : service.checkInput request = .ok ())
    (result : wait.result = .interrupted interruption) :
    (stream.leave interruption).Observed service request turns := by
  rw [leave_eq]
  refine underway.finish started (.interrupted interruption)
    (.inr ⟨passed, wait, underway.after, result⟩) (fun _ => passed) ?_
  rw [passed]
  constructor
  · intro same
    rw [Ended.interrupted.inj same] at result
    exact .inr ⟨wait, List.mem_cons_self, (result_streamTimeout wait).mp result⟩
  · rintro (blocked | ⟨other, member, late⟩)
    · cases blocked
    · rw [List.mem_singleton.mp member, ← result_streamTimeout, result] at late
      rw [Arrival.interrupted.inj late]

theorem leave_finished (stream : Stream) (interruption : Interruption) :
    (stream.leave interruption).phase = .finished := by
  rw [leave_eq]
  rfl

/-- A round of the loop: another chunk, or the end. -/
theorem Underway.pull {taken : List Wait} (underway : Underway service request taken [] stream)
    (advances : stream.advances = taken.length) (started : turns.head? = some .next)
    (passed : service.checkInput request = .ok ()) :
    Standing service request turns stream.pull := by
  unfold Stream.pull
  cases left : stream.chunks with
  | nil =>
      have whole : service.handler.stream request = taken := by
        rw [underway.split, left, List.append_nil, List.append_nil]
      have took : (service.handler.stream request).take (stream.advances + 1) = taken ++ [] := by
        rw [whole, advances, List.append_nil, List.take_of_length_le (Nat.le_succ _)]
      have advanced : Underway service request taken []
          { stream with chunks := [], advances := stream.advances + 1 } :=
        ⟨left ▸ underway.split, took, underway.gave, underway.closes, underway.ended,
          underway.observations⟩
      apply Standing.settled _ started rfl
      exact advanced.returns started passed nofun fun _ member => absurd member List.not_mem_nil
  | cons wait rest =>
      have advanced := underway.advance advances left
      cases result : wait.result with
      | chunk chunk =>
          dsimp only
          rw [result]
          have arrived := arrival_of_result.1 chunk result
          apply Standing.reading _ (taken ++ [wait]) started rfl passed
          · rw [List.length_append]
            exact congrArg (· + 1) advances
          · refine ⟨?_, ?_, underway.gave.snoc arrived, underway.closes, underway.ended,
              underway.observations⟩
            · rw [List.append_assoc]
              exact advanced.split
            · rw [List.append_nil]
              exact advanced.took
      | exhausted =>
          dsimp only
          rw [result]
          have arrived := arrival_of_result.2 result
          apply Standing.settled _ started rfl
          apply advanced.returns started passed
          · intro other found
            rw [← Option.some.inj found]
            exact arrived
          · intro other member
            rw [List.mem_singleton.mp member]
            exact arrived
      | interrupted interruption =>
          dsimp only
          rw [result]
          apply Standing.settled _ started (leave_finished _ interruption)
          exact advanced.interrupts started passed result

theorem stream_underway : Underway service request [] [] (service.stream request) :=
  ⟨rfl, rfl, .nil, rfl, rfl, rfl⟩

theorem Ended.Because.later {chunks : List Wait} {verdict : Awaited Unit}
    {yielded : List CompletionStreamChunk} {ended : Ended}
    (because : ended.Because chunks verdict turns yielded) (turn : Consumer) :
    ended.Because chunks verdict (turns ++ [turn]) yielded := by
  cases ended with
  | returned => exact because
  | interrupted interruption => exact because
  | closed cleanup => exact List.mem_append_left _ because

/-- A stream that has ended is the same whatever its consumer does. -/
theorem Stream.Observed.later (observed : stream.Observed service request turns)
    (started : turns.head? = some .next) (turn : Consumer) :
    stream.Observed service request (turns ++ [turn]) := by
  have same : (turns ++ [turn]).head? = turns.head? := by
    rw [List.head?_append, started]
    rfl
  refine ⟨observed.running, ?_, observed.once,
    fun ended is => (observed.because ended is).later turn, ?_, observed.advanced, observed.yields⟩
  · rw [same]
    exact observed.finished
  · rw [same]
    exact observed.timedOut

theorem Standing.step (standing : Standing service request turns stream) (turn : Consumer) :
    Standing service request (turns ++ [turn]) (stream.step service request turn) := by
  have later {first : Consumer} (started : turns.head? = some first) :
      (turns ++ [turn]).head? = some first := by
    rw [List.head?_append, started]
    rfl
  cases standing with
  | fresh idle =>
      rw [idle]
      cases turn with
      | aclose cleanup => exact .unstarted cleanup rfl
      | next =>
          unfold Stream.step CompletionService.stream
          dsimp only
          cases verdict : service.checkInput request with
          | error interruption =>
              dsimp only
              rw [leave_eq]
              apply Standing.settled _ rfl rfl
              refine stream_underway.finish rfl (.interrupted interruption) (.inl verdict)
                (fun moved => absurd rfl moved) ?_
              rw [verdict]
              constructor
              · intro same
                exact .inl (congrArg _ (Ended.interrupted.inj same))
              · rintro (same | ⟨wait, member, _⟩)
                · rw [Except.error.inj same]
                · exact absurd member List.not_mem_nil
          | ok _ => exact stream_underway.pull rfl rfl verdict
  | unstarted cleanup never =>
      cases turn with
      | next => exact .unstarted cleanup (later never)
      | aclose other => exact .unstarted cleanup (later never)
  | reading _ taken started suspended passed advances underway =>
      unfold Stream.step
      rw [suspended]
      cases turn with
      | next => exact underway.pull advances (later started) passed
      | aclose cleanup =>
          apply Standing.settled _ (later started) rfl
          refine underway.finish (later started) (.closed cleanup)
            (List.mem_append_right _ List.mem_cons_self) (fun _ => passed) ?_
          rw [passed]
          refine iff_of_false nofun ?_
          rintro (blocked | ⟨wait, member, _⟩)
          · cases blocked
          · exact List.not_mem_nil member
  | settled _ started finished observed =>
      have still : stream.step service request turn = stream := by
        unfold Stream.step
        rw [finished]
        cases turn <;> rfl
      rw [still]
      exact .settled stream (later started) finished (observed.later started turn)

theorem Standing.observed (standing : Standing service request turns stream) :
    stream.Observed service request turns := by
  have unmoved : ∀ wait, wait ∉ (service.handler.stream request).take 0 :=
    fun _ => List.not_mem_nil
  cases standing with
  | fresh idle =>
      refine ⟨fun _ => ⟨rfl, rfl⟩, nofun, nofun, nofun, iff_of_false nofun ?_,
        fun moved => absurd rfl moved, List.nil_prefix⟩
      rintro (⟨started, _⟩ | ⟨wait, member, _⟩)
      · rw [idle] at started
        cases started
      · exact unmoved wait member
  | unstarted cleanup never =>
      refine ⟨fun _ => ⟨rfl, rfl⟩, ?_, nofun, nofun, iff_of_false nofun ?_,
        fun moved => absurd rfl moved, List.nil_prefix⟩
      · intro _ started
        cases never.symm.trans started
      · rintro (⟨started, _⟩ | ⟨wait, member, _⟩)
        · cases never.symm.trans started
        · exact unmoved wait member
  | reading _ taken started suspended passed advances underway =>
      refine ⟨fun _ => ⟨underway.observations, underway.closes⟩, ?_, ?_, ?_, ?_,
        fun _ => forM_ok.mp passed, underway.yields⟩
      · intro finished
        cases suspended.symm.trans finished
      · intro ended is
        cases underway.ended.symm.trans is
      · intro ended is
        cases underway.ended.symm.trans is
      · rw [underway.ended, underway.took, List.append_nil, passed]
        refine iff_of_false nofun ?_
        rintro (⟨_, blocked⟩ | late)
        · cases blocked
        · exact underway.gave.in_time late
  | settled _ _ _ observed => exact observed

theorem consume_standing (service : CompletionService Request) (request : Request)
    (turns : List Consumer) : Standing service request turns (service.consume request turns) := by
  induction turns using List.reverseRecOn with
  | nil => exact .fresh rfl
  | append_singleton turns turn ih =>
      unfold CompletionService.consume at ih ⊢
      rw [List.foldl_concat]
      exact ih.step turn

end Streams

/-- Whatever the guards, the handler and the consumer do, `complete` and a stream that was started
record one observation, and it says how the call ended. -/
theorem completions_observed {Request : Type} (service : CompletionService Request)
    (request : Request) (turns : List Consumer) :
    (service.complete request).Observed service request ∧
      (service.consume request turns).Observed service request turns :=
  ⟨complete_observed, (consume_standing service request turns).observed⟩

/-- A handler that raises `StreamTimeoutError` itself is recorded as one that missed its
deadline. -/
theorem timeout_unexpired :
    ¬∀ (service : CompletionService Unit) (turns : List Consumer),
      ∀ observation ∈ (service.consume () turns).observations,
        observation.outcome = .timeout ↔
          ∃ wait ∈ (service.handler.stream ()).take (service.consume () turns).advances,
            wait.expired = true := by
  intro all
  have ⟨wait, member, expired⟩ := (all
    { handler :=
        { complete := fun _ => .error .cancelled
          stream := fun _ => [{ arrival := .interrupted (.raised .streamTimeout) }] } }
    [.next] (observe .stream .timeout {}) List.mem_cons_self).mp rfl
  rw [List.mem_singleton.mp member] at expired
  cases expired

end AiPlatform.Completions.Observations

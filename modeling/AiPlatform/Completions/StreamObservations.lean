import AiPlatform.Completions.Observations

set_option autoImplicit false

/- The generator `stream` as the response pulls it and as its sink observes it: one run seen from
two sides. -/
namespace AiPlatform.Completions.Observations

open Sse

/-- What a guard with this verdict comes to. -/
def awaited : Option Failure → Awaited Unit
  | none => .ok ()
  | some failure => .error (.raised failure)

/-- The steps of the handler's generator while nobody cancels the task. A deadline that it lets
pass cancels its last step. -/
def waits (handler : Handler) : List Wait :=
  (handler.chunks.map fun chunk => { arrival := .chunk chunk }) ++
    match handler.ending with
    | .exhausted => []
    | .raised failure => [{ arrival := .interrupted (.raised failure) }]
    | .missed => [{ arrival := .interrupted .cancelled, expired := true }]

/-- A service whose guards and handler do on the request what the call says. -/
structure Serves {Request : Type} (source : CompletionService Request) (request : Request)
    (call : Call) : Prop where
  guards : source.guards.map (fun guard => guard.checkInput request) = call.verdicts.map awaited
  handler : source.handler.stream request = waits call.service.handler

/-- Both sides have come to the same point of the run. -/
structure Alike (service : Service) (stream : Stream) : Prop where
  summary : stream.summary = service.summary
  phase : stream.phase = service.phase
  observations : stream.observations = service.observations

/-- Alike, and with the same guards and steps still ahead. -/
structure Lockstep {Request : Type} (source : CompletionService Request) (request : Request)
    (service : Service) (stream : Stream) : Prop extends Alike service stream where
  ahead : stream.chunks = waits service.handler
  judged : source.checkInput request = awaited (checkInput service.verdicts)

/-- What a turn tells the consumer is what it did to the stream. -/
def Told (before after : Stream) : Answer CompletionStreamChunk Failure → Prop
  | .item chunk => after.yielded = before.yielded ++ [chunk]
  | .stop => after.yielded = before.yielded ∧
      (before.phase = .finished ∨ after.ended = some .returned)
  | .raise failure => after.yielded = before.yielded ∧
      after.ended = some (.interrupted (.raised failure))

def Turned {Request : Type} (source : CompletionService Request) (request : Request)
    (before after : Stream) (turn : Option (Answer CompletionStreamChunk Failure) × Service) :
    Prop :=
  Lockstep source request turn.2 after ∧ ∃ answer, turn.1 = some answer ∧ Told before after answer

/-- The service after a turn of its consumer. -/
def advance (service : Service) : Consumer → Service
  | .next => service.turn.2
  | .aclose _ => service.aclose

/-- The chunks that these turns are answered with. -/
def items : Service → List Consumer → List CompletionStreamChunk
  | _, [] => []
  | service, .aclose _ :: turns => items service.aclose turns
  | service, .next :: turns =>
      match service.turn with
      | (some (.item chunk), next) => chunk :: items next turns
      | (_, next) => items next turns

/-- A service that does on every request what the call says. -/
def serving (call : Call) : CompletionService Unit where
  handler :=
    { complete := fun _ => .error .cancelled
      stream := fun _ => waits call.service.handler }
  guards := call.verdicts.map fun verdict =>
    { checkInput := fun _ => awaited verdict
      checkOutput := fun _ _ => .ok () }

theorem serving_serves (call : Call) : Serves (serving call) () call := by
  refine ⟨?_, rfl⟩
  unfold serving
  rw [List.map_map]
  rfl

section Turns

variable {Request : Type} {source : CompletionService Request} {request : Request}
variable {service : Service} {stream : Stream}

theorem Alike.record (alike : Alike service stream) (outcome : Outcome) (ended : Ended) :
    Alike (service.record outcome) (stream.finish outcome ended) := by
  refine ⟨alike.summary, rfl, ?_⟩
  show stream.observations ++ _ = service.observations ++ _
  rw [alike.observations, alike.summary]

theorem Lockstep.record (lockstep : Lockstep source request service stream) (outcome : Outcome)
    (ended : Ended) :
    Lockstep source request (service.record outcome) (stream.finish outcome ended) :=
  ⟨lockstep.toAlike.record outcome ended, lockstep.ahead, lockstep.judged⟩

theorem Lockstep.leave (lockstep : Lockstep source request service stream) (failure : Failure) :
    Turned source request stream (stream.leave (.raised failure)) (service.leave failure) := by
  cases failure with
  | streamTimeout => exact ⟨lockstep.record .timeout _, _, rfl, rfl, rfl⟩
  | app code message => exact ⟨lockstep.record .error _, _, rfl, rfl, rfl⟩
  | timeout text => exact ⟨lockstep.record .error _, _, rfl, rfl, rfl⟩
  | other text => exact ⟨lockstep.record .error _, _, rfl, rfl, rfl⟩

/-- A round of the loop, whatever the handler's next step is. -/
theorem Lockstep.pull (lockstep : Lockstep source request service stream) :
    Turned source request stream stream.pull service.pull := by
  obtain ⟨verdicts, ⟨chunks, ending⟩, summary, phase, observations⟩ := service
  obtain ⟨⟨merged, suspended, given⟩, ahead, judged⟩ := lockstep
  unfold Stream.pull Service.pull Handler.anext
  rw [ahead]
  have still (rest : Handler) :
      Lockstep source request ⟨verdicts, rest, summary, phase, observations⟩
        { stream with chunks := waits rest, advances := stream.advances + 1 } :=
    ⟨⟨merged, suspended, given⟩, rfl, judged⟩
  cases chunks with
  | cons chunk rest =>
      have next : stream.summary.merge chunk = summary.merge chunk :=
        congrArg (·.merge chunk) merged
      exact ⟨⟨⟨next, rfl, given⟩, rfl, judged⟩, .item chunk, rfl, rfl⟩
  | nil =>
      cases ending with
      | exhausted => exact ⟨(still ⟨[], .exhausted⟩).record .ok _, .stop, rfl, rfl, .inr rfl⟩
      | missed => exact (still ⟨[], .exhausted⟩).leave .streamTimeout
      | raised failure =>
          have leaves := (still ⟨[], .exhausted⟩).leave failure
          cases failure with
          | app code message => exact leaves
          | streamTimeout => exact leaves
          | timeout text => exact leaves
          | other text => exact leaves

theorem Lockstep.turn (lockstep : Lockstep source request service stream) :
    Turned source request stream (stream.step source request .next) service.turn := by
  unfold Stream.step Service.turn
  rw [lockstep.phase, lockstep.judged]
  cases finished : service.phase with
  | fresh =>
      cases checkInput service.verdicts with
      | none => exact lockstep.pull
      | some failure => exact lockstep.leave failure
  | suspended => exact lockstep.pull
  | finished => exact ⟨lockstep, .stop, rfl, rfl, .inl (lockstep.phase.trans finished)⟩

theorem Lockstep.aclose (lockstep : Lockstep source request service stream)
    (cleanup : Option Interruption) :
    Lockstep source request service.aclose (stream.step source request (.aclose cleanup)) := by
  unfold Stream.step Service.aclose
  rw [lockstep.phase]
  cases service.phase with
  | fresh => exact ⟨⟨lockstep.summary, rfl, lockstep.observations⟩, lockstep.ahead, lockstep.judged⟩
  | suspended => exact lockstep.record .disconnected _
  | finished => exact lockstep

/-- A cancellation of the task is how the step ends that was being awaited: one of the handler, or
that of a guard. -/
theorem Lockstep.cancel {other : CompletionService Request} {wait : Wait} {rest : List Wait}
    (lockstep : Lockstep source request service stream)
    (cancelled : wait.result = .interrupted .cancelled)
    (guards : other.checkInput request = .ok () ∨ other.checkInput request = .error .cancelled) :
    Alike service.cancel ({ stream with chunks := wait :: rest }.step other request .next) := by
  have pulled : Stream.pull { stream with chunks := wait :: rest } =
      { stream with chunks := rest, advances := stream.advances + 1 }.leave .cancelled := by
    unfold Stream.pull
    dsimp only
    rw [cancelled]
  unfold Stream.step Service.cancel
  dsimp only
  rw [pulled, lockstep.phase]
  have recorded := (lockstep.toAlike.record .disconnected .returned).observations
  cases finished : service.phase with
  | fresh =>
      rcases guards with passed | interrupted
      · rw [passed]
        exact ⟨lockstep.summary, rfl, recorded⟩
      · rw [interrupted]
        exact ⟨lockstep.summary, rfl, recorded⟩
  | suspended => exact ⟨lockstep.summary, rfl, recorded⟩
  | finished => exact ⟨lockstep.summary, finished.symm, lockstep.observations⟩

theorem Lockstep.yielded (lockstep : Lockstep source request service stream) (turn : Consumer)
    (turns : List Consumer) :
    (stream.step source request turn).yielded ++ items (advance service turn) turns =
      stream.yielded ++ items service (turn :: turns) := by
  cases turn with
  | aclose cleanup =>
      unfold Stream.step
      cases stream.phase <;> rfl
  | next =>
      have ⟨_, answer, answered, told⟩ := lockstep.turn
      rw [items]
      unfold advance
      rcases turned : service.turn with ⟨given, next⟩
      rw [turned] at answered
      cases answered
      cases answer with
      | item chunk =>
          have more : (stream.step source request .next).yielded = stream.yielded ++ [chunk] := told
          rw [more, List.append_assoc]
          rfl
      | stop => rw [told.1]
      | raise failure => rw [told.1]

theorem Lockstep.run (lockstep : Lockstep source request service stream) (turns : List Consumer) :
    Lockstep source request (turns.foldl advance service)
        (turns.foldl (Stream.step source request) stream) ∧
      (turns.foldl (Stream.step source request) stream).yielded =
        stream.yielded ++ items service turns := by
  induction turns generalizing service stream with
  | nil => exact ⟨lockstep, (List.append_nil _).symm⟩
  | cons turn turns ih =>
      have next : Lockstep source request (advance service turn)
          (stream.step source request turn) := by
        cases turn with
        | next => exact lockstep.turn.1
        | aclose cleanup => exact lockstep.aclose cleanup
      have ⟨after, given⟩ := ih next
      exact ⟨after, given.trans (lockstep.yielded turn turns)⟩

theorem checkInput_awaited {guards : List (CompletionGuard Request)}
    {verdicts : List (Option Failure)}
    (judged : guards.map (fun guard => guard.checkInput request) = verdicts.map awaited) :
    guards.forM (fun guard => guard.checkInput request) = awaited (checkInput verdicts) := by
  induction guards generalizing verdicts with
  | nil =>
      rw [List.map_eq_nil_iff.mp judged.symm]
      rfl
  | cons guard guards ih =>
      cases verdicts with
      | nil => cases judged
      | cons verdict verdicts =>
          have ⟨first, others⟩ := List.cons.inj judged
          have judges : guard.checkInput request = awaited verdict := first
          show (guard.checkInput request >>= fun _ => guards.forM _) = _
          rw [judges]
          cases verdict with
          | some failure => rfl
          | none =>
              show guards.forM _ = awaited (checkInput verdicts)
              exact ih others

end Turns

/-- Under the same turns of its consumer, the generator that the response pulls and the one that
the sink observes yield the same chunks and record the same. -/
theorem stream_lockstep {Request : Type} {source : CompletionService Request} {request : Request}
    {call : Call} (serves : Serves source request call) (turns : List Consumer) :
    Lockstep source request (turns.foldl advance call.service) (source.consume request turns) ∧
      (source.consume request turns).yielded = items call.service turns :=
  Lockstep.run ⟨⟨rfl, rfl, rfl⟩, serves.handler, checkInput_awaited serves.guards⟩ turns

theorem chunksOf_waits (handler : Handler) : chunksOf (waits handler) = handler.chunks := by
  obtain ⟨chunks, ending⟩ := handler
  induction chunks with
  | nil => cases ending <;> rfl
  | cons chunk rest ih => exact congrArg (chunk :: ·) ih

/-- The chunks a response pulls are the handler's, in order, and a stream that was pulled has
recorded once by the time it has finished. -/
theorem call_observed (call : Call) (turns : List Consumer) :
    items call.service turns <+: call.chunks ∧
      (turns.head? = some .next → (turns.foldl advance call.service).phase = .finished →
        ∃ observation, (turns.foldl advance call.service).observations = [observation] ∧
          observation.mode = .stream) := by
  have ⟨lockstep, given⟩ := stream_lockstep (serving_serves call) turns
  have observed := (consume_standing (serving call) () turns).observed
  constructor
  · have yields : _ <+: chunksOf (waits call.service.handler) := observed.yields
    rw [given, chunksOf_waits] at yields
    exact yields
  · intro started finished
    have ends := observed.finished (lockstep.phase.trans finished) started
    have ⟨ended, is⟩ := Option.ne_none_iff_exists'.mp ends
    have ⟨_, observation, one, mode, _⟩ := observed.once ended is
    exact ⟨observation, lockstep.observations.symm.trans one, mode⟩

end AiPlatform.Completions.Observations

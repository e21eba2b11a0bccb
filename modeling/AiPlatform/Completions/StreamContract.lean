import AiPlatform.Api.SseRelay
import AiPlatform.Completions.Streaming

set_option autoImplicit false

/- The streaming contract end to end: what each of the three generators yields, and what the
client of the composed stream receives. -/
namespace AiPlatform.Completions

open Sse Machine

/-- The last value that is there and not empty. -/
def lastText (texts : List (Option String)) : Option String :=
  ((texts.filterMap id).filter fun text => text ≠ "").getLast?

/-- What a handler has reported after these chunks. -/
def reported (chunks : List CompletionStreamChunk) : StreamSummary where
  usage := (chunks.filterMap fun chunk => chunk.usage).getLast?
  finishReason := lastText (chunks.map fun chunk => chunk.finishReason)
  model := lastText (chunks.map fun chunk => chunk.model)

theorem lastText_snoc (texts : List (Option String)) (text : Option String) :
    lastText (texts ++ [text]) = textOr text (lastText texts) := by
  unfold lastText textOr
  cases text with
  | none => simp
  | some text =>
      by_cases empty : text = ""
      · simp [empty]
      · simp [empty]

/-- Merging keeps the last non-empty value of each field. -/
theorem reported_snoc (chunks : List CompletionStreamChunk) (chunk : CompletionStreamChunk) :
    reported (chunks ++ [chunk]) = (reported chunks).merge chunk := by
  unfold reported StreamSummary.merge
  rw [List.map_append, List.map_append, List.map_singleton, List.map_singleton, lastText_snoc,
    lastText_snoc]
  cases usage : chunk.usage <;> simp [usage]

/-- The exception of an ending, as the service raises it. -/
def Ending.failure : Ending → Option Failure
  | .exhausted => none
  | .raised failure => some failure
  | .missed => some .streamTimeout

def Ending.outcome : Ending → Outcome
  | .exhausted => .ok
  | .raised .streamTimeout => .timeout
  | .raised _ => .error
  | .missed => .timeout

/-- The service has yielded `taken` and recorded nothing yet. -/
structure Reading (taken : List CompletionStreamChunk) (call : Call) (service : Service) :
    Prop where
  split : call.chunks = taken ++ service.handler.chunks
  ending : service.handler.ending = call.ending
  summary : service.summary = reported taken
  admitted : service.phase = .suspended ∨
    service.phase = .fresh ∧ checkInput service.verdicts = none
  silent : service.observations = []

variable {call : Call} {taken : List CompletionStreamChunk} {service : Service}

theorem Reading.turn (reading : Reading taken call service) : service.turn = service.pull := by
  unfold Service.turn
  rcases reading.admitted with suspended | ⟨fresh, passed⟩
  · rw [suspended]
  · rw [fresh]
    dsimp only
    rw [passed]

theorem leave_raise (service : Service) (failure : Failure) :
    (service.leave failure).1 = some (.raise failure) := by
  unfold Service.leave
  split <;> rfl

theorem leave_phase (service : Service) (failure : Failure) :
    (service.leave failure).2.phase = .finished := by
  unfold Service.leave
  split <;> rfl

theorem leave_observations (service : Service) (failure : Failure) :
    (service.leave failure).2.observations = service.observations ++
      [observe .stream (Ending.raised failure).outcome service.summary] := by
  unfold Service.leave
  cases failure <;> rfl

/-- The service is done and the sink has its one observation. -/
structure Recorded (call : Call) (service : Service) : Prop where
  finished : service.phase = .finished
  observed : service.observations = [observe .stream call.ending.outcome (reported call.chunks)]

theorem leave_recorded (handler : Handler) (failure : Failure)
    (reading : Reading taken call service)
    (all : taken = call.chunks)
    (outcome : call.ending.outcome = (Ending.raised failure).outcome) :
    Recorded call ({ service with handler := handler }.leave failure).2 where
  finished := leave_phase _ failure
  observed := by
    rw [leave_observations, outcome, ← all]
    dsimp only
    rw [reading.silent, reading.summary]
    rfl

/-- At the end of the chunks the service raises what the ending is, and records once. -/
theorem Reading.ends (reading : Reading taken call service)
    (empty : service.handler.chunks = []) :
    ∃ last, serviceStream.Yields service [] call.ending.failure last ∧ Recorded call last := by
  have all : taken = call.chunks := by
    rw [reading.split, empty, List.append_nil]
  have ending := reading.ending
  have pulled : serviceStream.turn service = service.pull := reading.turn
  cases ends : call.ending with
  | exhausted =>
      rw [ends] at ending
      have stops : service.pull = (some .stop, service.record .ok) := by
        simp only [Service.pull, Handler.anext, empty, ending]
      refine ⟨service.record .ok, .stop (pulled.trans stops), rfl, ?_⟩
      show service.observations ++ [observe .stream .ok service.summary] = _
      rw [reading.silent, reading.summary, ends, all]
      rfl
  | raised failure =>
      rw [ends] at ending
      have raises : service.pull =
          { service with handler := ⟨service.handler.chunks, .exhausted⟩ }.leave failure := by
        simp only [Service.pull, Handler.anext, empty, ending]
      have recorded := leave_recorded ⟨service.handler.chunks, .exhausted⟩ failure reading all
        (congrArg Ending.outcome ends)
      exact ⟨_,
        .raise (pulled.trans (raises.trans (Prod.ext (leave_raise _ failure) rfl))), recorded⟩
  | missed =>
      rw [ends] at ending
      have raises : service.pull =
          { service with handler := ⟨service.handler.chunks, .exhausted⟩ }.leave
            .streamTimeout := by
        simp only [Service.pull, Handler.anext, empty, ending]
      have outcome : call.ending.outcome = (Ending.raised .streamTimeout).outcome := by
        rw [ends]
        rfl
      have recorded := leave_recorded ⟨service.handler.chunks, .exhausted⟩ .streamTimeout reading
        all outcome
      exact ⟨_, .raise (pulled.trans raises), recorded⟩

/-- The service yields the handler's chunks and ends as the handler does. -/
theorem service_yields (rest : List CompletionStreamChunk) {taken : List CompletionStreamChunk}
    {service : Service} (reading : Reading taken call service)
    (held : service.handler.chunks = rest) :
    ∃ last, serviceStream.Yields service rest call.ending.failure last ∧ Recorded call last := by
  induction rest generalizing taken service with
  | nil => exact reading.ends held
  | cons chunk rest ih =>
      let next : Service :=
        { service with
          handler := ⟨rest, service.handler.ending⟩
          phase := .suspended
          summary := service.summary.merge chunk }
      have gives : serviceStream.turn service = (some (.item chunk), next) := by
        show service.turn = _
        rw [reading.turn]
        simp only [Service.pull, Handler.anext, held, next]
      have onward : Reading (taken ++ [chunk]) call next :=
        { split := by
            rw [reading.split, held, List.append_assoc]
            rfl
          ending := reading.ending
          summary := by
            rw [reported_snoc, ← reading.summary]
          admitted := Or.inl rfl
          silent := reading.silent }
      have ⟨last, later, recorded⟩ := ih onward rfl
      exact ⟨last, .item gives later, recorded⟩

theorem call_reading (passed : checkInput call.verdicts = none) :
    Reading [] call call.service where
  split := rfl
  ending := rfl
  summary := rfl
  admitted := Or.inr ⟨rfl, passed⟩
  silent := rfl

/-- The delta events of the chunks, then the done event when the chunks have run out. -/
def eventsOf (chunks : List CompletionStreamChunk) : List ServerSentEvent :=
  (chunks.filter fun chunk => chunk.delta ≠ "").map deltaEvent

def doneEvents (ending : Option Failure) (summary : StreamSummary) : List ServerSentEvent :=
  match ending with
  | none => [doneEvent summary]
  | some _ => []

section Events

variable {Chunks : Type} {chunks : Generator Chunks CompletionStreamChunk Failure}

/-- Whatever yields the chunks, `_events` yields their deltas in order and reports at the end
what they have merged to. -/
theorem events_yields {source last : Chunks} {rest : List CompletionStreamChunk}
    {ending : Option Failure} (yields : chunks.Yields source rest ending last)
    (taken : List CompletionStreamChunk) :
    ∃ final, (eventsStream chunks).Yields ⟨source, reported taken, .reading⟩
        (eventsOf rest ++ doneEvents ending (reported (taken ++ rest))) ending final ∧
      final.phase = .finished ∧ final.chunks = chunks.aclose last := by
  induction yields generalizing taken with
  | @stop source last turned =>
      have reports : (eventsStream chunks).turn ⟨source, reported taken, .reading⟩ =
          (some (.item (doneEvent (reported taken))),
            ⟨chunks.aclose last, reported taken, .reported⟩) := by
        simp only [eventsStream, Events.turn, turned]
      refine ⟨⟨chunks.aclose last, reported taken, .finished⟩, ?_, rfl, rfl⟩
      rw [List.append_nil]
      exact .item reports (.stop rfl)
  | @raise source last failure turned =>
      have raises : (eventsStream chunks).turn ⟨source, reported taken, .reading⟩ =
          (some (.raise failure), ⟨chunks.aclose last, reported taken, .finished⟩) := by
        simp only [eventsStream, Events.turn, turned]
      exact ⟨⟨chunks.aclose last, reported taken, .finished⟩, .raise raises, rfl, rfl⟩
  | @item source next last chunk rest ending turned later ih =>
      have ⟨final, onward, finished, closed⟩ := ih (taken ++ [chunk])
      have gives : (eventsStream chunks).turn ⟨source, reported taken, .reading⟩ =
          (if chunk.delta ≠ "" then some (.item (deltaEvent chunk)) else none,
            ⟨next, reported (taken ++ [chunk]), .reading⟩) := by
        simp only [eventsStream, Events.turn, turned, reported_snoc]
      rw [List.append_assoc, List.singleton_append] at onward
      refine ⟨final, ?_, finished, closed⟩
      by_cases empty : chunk.delta = ""
      · rw [if_neg (not_not_intro empty)] at gives
        have skipped : eventsOf (chunk :: rest) = eventsOf rest := by
          simp [eventsOf, empty]
        rw [skipped]
        exact .wait gives onward
      · rw [if_pos empty] at gives
        have listed : eventsOf (chunk :: rest) = deltaEvent chunk :: eventsOf rest := by
          simp [eventsOf, empty]
        rw [listed, List.cons_append]
        exact .item gives onward
  | @wait source next last rest ending turned later ih =>
      have ⟨final, onward, ended⟩ := ih taken
      have waits : (eventsStream chunks).turn ⟨source, reported taken, .reading⟩ =
          (none, ⟨next, reported taken, .reading⟩) := by
        simp only [eventsStream, Events.turn, turned]
      exact ⟨final, .wait waits onward, ended⟩

end Events

/-- All events of a call. -/
def Call.events (call : Call) : List ServerSentEvent :=
  eventsOf call.chunks ++ doneEvents call.ending.failure (reported call.chunks)

/-- The composed generators yield the call's events and end as the handler does. -/
theorem call_yields (passed : checkInput call.verdicts = none) :
    ∃ last, streamEvents.Yields { chunks := call.service } call.events call.ending.failure last ∧
      last.phase = .finished ∧ Recorded call last.chunks := by
  have ⟨service, chunks, recorded⟩ := service_yields call.chunks (call_reading passed) rfl
  have ⟨last, yields, finished, closed⟩ := events_yields chunks []
  have kept : serviceStream.aclose service = service := by
    simp only [serviceStream, Service.aclose, recorded.finished]
  rw [kept] at closed
  exact ⟨last, yields, finished, closed ▸ recorded⟩

/-- The interpreter writes the three numbers. -/
def CompletionUsage.Printable (usage : CompletionUsage) : Prop :=
  Text.Printable usage.inputTokens ∧ Text.Printable usage.outputTokens ∧
    Text.Printable usage.totalTokens

instance (usage : CompletionUsage) : Decidable usage.Printable :=
  inferInstanceAs (Decidable (_ ∧ _ ∧ _))

theorem decimal_isSome (number : Int) :
    (Text.decimal number).isSome = true ↔ Text.Printable number := by
  simp [Text.decimal]

theorem usage_serializable (usage : CompletionUsage) (depth : Nat) :
    (dumps usage.modelDump (depth + 1)).isSome = true ↔ usage.Printable := by
  have numbers : (dumps usage.modelDump (depth + 1)).isSome =
      ((Text.decimal usage.inputTokens).isSome && (Text.decimal usage.outputTokens).isSome &&
        (Text.decimal usage.totalTokens).isSome) := by
    simp only [CompletionUsage.modelDump, fields, List.map_cons, List.map_nil, dumps, dumpsEntries,
      keyText]
    cases Text.decimal usage.inputTokens <;> cases Text.decimal usage.outputTokens <;>
      cases Text.decimal usage.totalTokens <;> rfl
  simp only [numbers, Bool.and_eq_true, decimal_isSome, CompletionUsage.Printable, and_assoc]

theorem failure_none_iff (ending : Ending) : ending.failure = none ↔ ending = .exhausted := by
  cases ending <;> simp [Ending.failure]

/-- A first frame is produced: the guards pass, and a delta or the end comes. -/
def Call.Opens (call : Call) : Prop :=
  checkInput call.verdicts = none ∧
    ((∃ chunk ∈ call.chunks, chunk.delta ≠ "") ∨ call.ending = .exhausted)

theorem Call.Opens.events_ne_nil (opens : call.Opens) : call.events ≠ [] := by
  intro empty
  rw [Call.events, List.append_eq_nil_iff] at empty
  rcases opens.2 with ⟨chunk, member, delta⟩ | exhausted
  · have listed : deltaEvent chunk ∈ eventsOf call.chunks := by
      apply List.mem_map_of_mem
      simp [member, delta]
    rw [empty.1] at listed
    contradiction
  · rw [exhausted] at empty
    exact absurd empty.2 (by simp [Ending.failure, doneEvents])

section Contract

variable [Recursion]

theorem deltaEvent_encode_isSome (chunk : CompletionStreamChunk) :
    (deltaEvent chunk).encode.isSome =
      (dumps (fields chunk.metadata) (Recursion.depth - 1)).isSome := by
  obtain ⟨depth, deep⟩ : ∃ depth, Recursion.depth = depth + 1 :=
    Nat.exists_eq_add_one.mpr (Nat.lt_of_lt_of_le Nat.two_pos Recursion.frames)
  unfold ServerSentEvent.encode deltaEvent
  rw [deep, Nat.add_sub_cancel]
  generalize fields chunk.metadata = metadata
  cases written : dumps metadata depth <;> simp [fields, dumps, dumpsEntries, keyText, written]

theorem doneEvent_encode_isSome (summary : StreamSummary) :
    (doneEvent summary).encode.isSome = true ↔
      ∀ usage, summary.usage = some usage → usage.Printable := by
  obtain ⟨depth, deep⟩ := Nat.exists_eq_add_of_le' Recursion.frames
  rcases summary with ⟨- | usage, reason, model⟩
  · simp only [reduceCtorEq, false_implies, implies_true, iff_true, ServerSentEvent.encode, deep]
    cases reason <;> cases model <;> rfl
  · have dumped : (doneEvent ⟨some usage, reason, model⟩).encode.isSome =
        (dumps usage.modelDump (depth + 1)).isSome := by
      unfold ServerSentEvent.encode doneEvent StreamSummary.modelDump fields
      rw [deep]
      cases serialized : dumps usage.modelDump (depth + 1) <;> cases reason <;> cases model <;>
        simp [dumps, dumpsEntries, keyText, serialized]
    rw [dumped, usage_serializable]
    simp

/-- A done frame is no error frame: it has no event line. -/
theorem done_ne_error {summary : StreamSummary} {text code : String}
    (done : (doneEvent summary).encode = some text) : text ≠ errorFrame code := by
  intro same
  have failed := errorEvent_encode code
  rw [← same, ServerSentEvent.encode, Option.map_eq_some_iff] at failed
  rw [ServerSentEvent.encode, Option.map_eq_some_iff] at done
  obtain ⟨doneText, -, doneShape⟩ := done
  obtain ⟨errorText, -, errorShape⟩ := failed
  have heads := congrArg (fun frame => frame.toList.head?) (doneShape.trans errorShape.symm)
  simp [ServerSentEvent.eventLine, doneEvent, errorEvent] at heads

/-- What the client of a closed response has received, pings aside, and what the sink was told:
one delta frame for each non-empty delta, then one terminal frame, which is the done frame with
the observed values exactly where the handler was exhausted, and else carries a code only. -/
structure Delivered (call : Call) (response : Response (Events Service)) : Prop where
  frames : ∃ deltas terminal, received response.sent = deltas ++ [terminal] ∧
    Encoded ((call.chunks.filter fun chunk => chunk.delta ≠ "").map deltaEvent) deltas ∧
    ((doneEvent (reported call.chunks)).encode = some terminal ↔ call.ending = .exhausted) ∧
    ∀ failure, call.ending.failure = some failure → terminal = errorFrame failure.frameCode
  observed : response.source.chunks.observations =
    [observe .stream call.ending.outcome (reported call.chunks)]

/-- The contract, on every schedule of turns and heartbeats: a response that closes has
delivered, and one whose client stays never gets stuck. -/
structure Honoured (call : Call) : Prop where
  delivered : ∀ actions final, run (step streamEvents) call.stream actions = some final →
    final.pc = .closed → Delivered call final
  finishes : ∀ actions middle, run (step streamEvents) call.stream actions = some middle →
    middle.pc ≠ .disconnected → Finishes streamEvents middle

theorem Call.Opens.finishes (opens : call.Opens) (actions : List Action)
    (middle : Response (Events Service))
    (reached : run (step streamEvents) call.stream actions = some middle)
    (connected : middle.pc ≠ .disconnected) : Finishes streamEvents middle := by
  have ⟨last, yields, _⟩ := call_yields opens.1
  exact (relayed_run yields reached).finishes opens.events_ne_nil connected

/-- `json.dumps` writes the metadata of all deltas, inside the dictionary of the event, and the
numbers of the last usage where the chunks run out. -/
structure Call.Serializable (call : Call) : Prop where
  metadata : ∀ chunk ∈ call.chunks, chunk.delta ≠ "" →
    (dumps (fields chunk.metadata) (Recursion.depth - 1)).isSome = true
  usage : call.ending = .exhausted → ∀ usage,
    (call.chunks.filterMap fun chunk => chunk.usage).getLast? = some usage → usage.Printable

theorem Call.Serializable.encodable (serializable : call.Serializable) :
    ∀ event ∈ call.events, event.encode.isSome = true := by
  intro event member
  rw [Call.events, List.mem_append] at member
  rcases member with delta | done
  · have ⟨chunk, listed, shape⟩ := List.mem_map.mp delta
    have ⟨inside, nonempty⟩ := List.mem_filter.mp listed
    rw [← shape, deltaEvent_encode_isSome]
    exact serializable.metadata chunk inside (of_decide_eq_true nonempty)
  · cases ending : call.ending.failure with
    | none =>
        rw [ending] at done
        rw [List.mem_singleton.mp done, doneEvent_encode_isSome]
        exact serializable.usage ((failure_none_iff call.ending).mp ending)
    | some failure =>
        rw [ending] at done
        cases done

/-- The frames of all events and of the ending are the deltas' and one terminal frame. -/
theorem settled_delivered {response : Response (Events Service)}
    (settled : Settled call.events call.ending.failure response)
    (recorded : Recorded call response.source.chunks) : Delivered call response := by
  refine ⟨?_, recorded.observed⟩
  have ⟨texts, encoded, shape⟩ := settled
  cases ending : call.ending.failure with
  | none =>
      have exhausted := (failure_none_iff call.ending).mp ending
      rw [Call.events, ending, Encoded, doneEvents, List.map_append] at encoded
      have ⟨deltas, tail, split, first, second⟩ := List.map_eq_append_iff.mp encoded
      have ⟨terminal, rest, tailShape, frame, nothing⟩ := List.map_eq_cons_iff.mp second
      rw [List.map_nil, List.map_eq_nil_iff] at nothing
      rw [ending, split, tailShape, nothing] at shape
      refine ⟨deltas, terminal, ?_, first, ?_, ?_⟩
      · rw [shape]
        exact List.append_nil _
      · exact ⟨fun _ => exhausted, fun _ => frame.symm⟩
      · intro failure raised
        cases raised
  | some failure =>
      rw [Call.events, ending, doneEvents, List.append_nil] at encoded
      rw [ending] at shape
      refine ⟨texts, errorFrame failure.frameCode, shape, encoded, ?_, ?_⟩
      · constructor
        · intro done
          exact absurd rfl (done_ne_error done)
        · intro exhausted
          rw [(failure_none_iff call.ending).mpr exhausted] at ending
          cases ending
      · intro other raised
        rw [Option.some.inj raised]

theorem serializable_honoured (opens : call.Opens) (serializable : call.Serializable) :
    Honoured call where
  delivered := by
    intro actions final reached closed
    have ⟨last, yields, finished, recorded⟩ := call_yields opens.1
    have ⟨settled, source⟩ :=
      (relayed_run yields reached).settled serializable.encodable closed
    have kept : (streamEvents.aclose last).chunks = last.chunks := by
      simp only [streamEvents, eventsStream, Events.aclose, finished]
    apply settled_delivered settled
    rw [source, kept]
    exact recorded
  finishes := opens.finishes

/-- A delivered delta frame is the encoding of its event, and so is the done frame. -/
theorem Delivered.serializable {response : Response (Events Service)}
    (delivered : Delivered call response) : call.Serializable := by
  have ⟨deltas, terminal, shape, encoded, done, _⟩ := delivered.frames
  constructor
  · intro chunk member delta
    have listed : deltaEvent chunk ∈
        (call.chunks.filter fun chunk => chunk.delta ≠ "").map deltaEvent := by
      apply List.mem_map_of_mem
      simp [member, delta]
    have framed : (deltaEvent chunk).encode ∈ deltas.map some := by
      rw [encoded]
      exact List.mem_map_of_mem listed
    have ⟨text, _, frame⟩ := List.mem_map.mp framed
    rw [← deltaEvent_encode_isSome, ← frame]
    rfl
  · intro exhausted
    have written : (doneEvent (reported call.chunks)).encode.isSome = true := by
      rw [done.mpr exhausted]
      rfl
    exact (doneEvent_encode_isSome (reported call.chunks)).mp written

theorem honoured_serializable (opens : call.Opens) (honoured : Honoured call) :
    call.Serializable := by
  have ⟨actions, final, reached, closed⟩ := opens.finishes [] call.stream rfl (by
    intro disconnected
    cases disconnected)
  exact (honoured.delivered actions final reached closed).serializable

/-- The stream keeps its contract exactly on the calls whose events `json.dumps` can serialize. -/
theorem stream_honoured_iff (call : Call) (opens : call.Opens) :
    Honoured call ↔ call.Serializable :=
  ⟨honoured_serializable opens, serializable_honoured opens⟩

end Contract

section Samples

local instance sampleLevels : Recursion := thousandLevels

/-- A chunk without a delta that carries the usage, after one with a delta. -/
def greeting : Call where
  chunks := [{ delta := "a" },
    { delta := "", usage := some ⟨2, 3, 5⟩, finishReason := some "stop", model := some "scripted" }]
  ending := .exhausted

theorem stream_honoured_greeting : Honoured greeting := by
  have opens : greeting.Opens := ⟨rfl, Or.inr rfl⟩
  refine (stream_honoured_iff greeting opens).mpr ⟨?_, ?_⟩
  · intro chunk member _
    have plain : chunk.metadata = [] := by
      simp only [greeting, List.mem_cons, List.not_mem_nil, or_false] at member
      rcases member with first | second
      · rw [first]
      · rw [second]
    rw [plain]
    rfl
  · intro _ usage last
    rw [← Option.some.inj last]
    decide

/-- The second chunk carries a `datetime`. -/
def stamped : Call where
  chunks := [{ delta := "a" },
    { delta := "b", metadata := [("at", .object ⟨"datetime", "datetime"⟩)] }]
  ending := .exhausted

/-- The handler runs to its end, yet the client gets one delta and an error frame, and the sink
hears of a disconnected stream. -/
theorem stamped_metadata_fails : ¬ Honoured stamped ∧
    ∃ final text, run (step streamEvents) stamped.stream [.turn, .resume, .turn, .wake, .resume] =
        some final ∧ final.pc = .closed ∧ (deltaEvent { delta := "a" }).encode = some text ∧
      final.sent = [text, errorFrame streamErrorCode] ∧
      final.source.chunks.observations = [observe .stream .disconnected {}] := by
  constructor
  · intro honoured
    have opens : stamped.Opens := ⟨rfl, Or.inr rfl⟩
    have serializable := (honoured_serializable opens honoured).metadata
      { delta := "b", metadata := [("at", .object ⟨"datetime", "datetime"⟩)] }
      (by simp [stamped]) (by simp)
    exact Bool.false_ne_true serializable
  · exact ⟨_, _, rfl, rfl, rfl, rfl, rfl⟩

end Samples

end AiPlatform.Completions

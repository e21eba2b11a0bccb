import AiPlatform.Api.Sse

set_option autoImplicit false

/- What the client of an event stream receives: the frames of the generator's events in order,
whatever the heartbeats do, and an error frame when the generator raises. -/
namespace AiPlatform.Sse

open Machine

theorem ping_toList : ping.toList.head? = some ':' := by decide

theorem eventLine_head (event : ServerSentEvent) (text : String) :
    (event.eventLine ++ "data: " ++ text).toList.head? ≠ some ':' := by
  unfold ServerSentEvent.eventLine
  split
  · split
    · simp
    · simp [String.toList_append]
  · simp

/-- The frames of a stream without its heartbeats. -/
def received (sent : List String) : List String := sent.filter fun text => text ≠ ping

theorem received_ping (sent : List String) : received (sent ++ [ping]) = received sent := by
  simp [received]

variable [Recursion]

theorem errorEvent_encode (code : String) :
    (errorEvent code).encode = some (errorFrame code) := by
  obtain ⟨depth, deep⟩ := Nat.exists_eq_add_of_le Recursion.frames
  have serializable : dumps (fields (errorEvent code).data) Recursion.depth =
      some ("\x7b" ++ ", ".intercalate [quoted "type" ++ ": " ++ quoted "error",
        quoted "code" ++ ": " ++ quoted code] ++ "\x7d") := by
    rw [deep, Nat.add_comm]
    simp only [errorEvent, fields, List.map_cons, List.map_nil, dumps, dumpsEntries, keyText]
    rfl
  rw [errorFrame, ServerSentEvent.encode, serializable]
  rfl

/-- No event is taken for a heartbeat. -/
theorem encode_ne_ping {event : ServerSentEvent} {text : String}
    (encoded : event.encode = some text) : text ≠ ping := by
  intro same
  rw [ServerSentEvent.encode, Option.map_eq_some_iff] at encoded
  obtain ⟨body, -, rfl⟩ := encoded
  have head := eventLine_head event (body ++ "\n\n")
  rw [← String.append_assoc, same] at head
  exact head ping_toList

theorem received_encoded {sent : List String} {event : ServerSentEvent} {text : String}
    (encoded : event.encode = some text) :
    received (sent ++ [text]) = received sent ++ [text] := by
  simp [received, encode_ne_ping encoded]

theorem received_error (sent : List String) (code : String) :
    received (sent ++ [errorFrame code]) = received sent ++ [errorFrame code] :=
  received_encoded (errorEvent_encode code)

/-- The texts are the frames of the events, one each and in order. -/
def Encoded (items : List ServerSentEvent) (texts : List String) : Prop :=
  texts.map some = items.map ServerSentEvent.encode

theorem Encoded.snoc {items : List ServerSentEvent} {texts : List String}
    {event : ServerSentEvent} {text : String} (before : Encoded items texts)
    (encoded : event.encode = some text) : Encoded (items ++ [event]) (texts ++ [text]) := by
  unfold Encoded at *
  rw [List.map_append, List.map_append, before]
  simp [encoded]

/-- The terminal frame of a stream whose generator raised; one that stopped has none. -/
def errorFrames (ending : Option Failure) : List String :=
  ending.toList.map fun failure => errorFrame failure.frameCode

section Relay

variable {Source : Type} {events : Generator Source ServerSentEvent Failure}
variable {items : List ServerSentEvent} {ending : Option Failure} {last : Source}
variable {response next : Response Source}

def Spoiled (items : List ServerSentEvent) : Prop := ∃ event ∈ items, event.encode = none

/-- The client has the events before `rest`, and the pending pull brings the rest. -/
def Owing (events : Generator Source ServerSentEvent Failure) (items : List ServerSentEvent)
    (ending : Option Failure) (last : Source) (response : Response Source)
    (pending : Option (Answer ServerSentEvent Failure)) : Prop :=
  ∃ given rest, items = given ++ rest ∧ Encoded given (received response.sent) ∧
    events.Resumes rest ending last (pending, response.source)

/-- The client has everything, the terminal error frame included. -/
def Settled (items : List ServerSentEvent) (ending : Option Failure)
    (response : Response Source) : Prop :=
  ∃ texts, Encoded items texts ∧ received response.sent = texts ++ errorFrames ending

/-- No event is lost or given twice: what the client has, what is pending and what the
generator still holds are together its events. -/
def Relayed (events : Generator Source ServerSentEvent Failure) (items : List ServerSentEvent)
    (ending : Option Failure) (last : Source) (response : Response Source) : Prop :=
  match response.pc with
  | .priming => response.sent = [] ∧ events.Yields response.source items ending last
  | .rejected _ => items = []
  | .sent => Owing events items ending last response none
  | .waiting pending => Owing events items ending last response pending
  | .pinged pending => Owing events items ending last response pending
  | .failed => Spoiled items ∨ Settled items ending response ∧ response.source = last
  | .closed =>
      Spoiled items ∨ Settled items ending response ∧ response.source = events.aclose last
  | .disconnected => True

theorem relayed_yieldEvent {given rest : List ServerSentEvent} {event : ServerSentEvent}
    (split : items = given ++ event :: rest) (before : Encoded given (received response.sent))
    (later : events.Yields response.source rest ending last) :
    Relayed events items ending last (response.yieldEvent event) := by
  unfold Response.yieldEvent
  cases encoded : event.encode with
  | none =>
      apply Or.inl
      refine ⟨event, ?_, encoded⟩
      rw [split]
      simp
  | some text =>
      refine ⟨given ++ [event], rest, ?_, ?_, later⟩
      · rw [split, List.append_assoc, List.singleton_append]
      · show Encoded _ (received (response.sent ++ [text]))
        rw [received_encoded encoded]
        exact before.snoc encoded

theorem relayed_prime (holds : Relayed events items ending last response)
    (here : response.pc = .priming) :
    Relayed events items ending last (prime events response) := by
  rw [Relayed, here] at holds
  have resumes := holds.2.turned
  unfold prime
  rcases turned : events.turn response.source with ⟨answer, source⟩
  rw [turned] at resumes
  rcases answer with - | event | - | failure
  · rw [Relayed, here]
    exact ⟨holds.1, resumes⟩
  · have ⟨rest, split, later⟩ := resumes
    have start : Encoded [] (received response.sent) := by
      rw [holds.1]
      rfl
    exact relayed_yieldEvent (split.trans (List.nil_append _).symm) start later
  · exact resumes.1
  · exact resumes.1

theorem relayed_proceed {answer : Answer ServerSentEvent Failure}
    (owing : Owing events items ending last response (some answer)) :
    Relayed events items ending last (proceed events response answer) := by
  have ⟨given, rest, split, before, resumes⟩ := owing
  cases answer with
  | item event =>
      have ⟨later, shape, yields⟩ := resumes
      rw [shape] at split
      exact relayed_yieldEvent split before yields
  | stop =>
      have ⟨empty, stopped, reached⟩ := resumes
      rw [empty, List.append_nil] at split
      refine Or.inr ⟨⟨received response.sent, ?_, ?_⟩, ?_⟩
      · rw [split]
        exact before
      · rw [stopped]
        exact (List.append_nil _).symm
      · show events.aclose response.source = events.aclose last
        rw [reached]
  | raise failure =>
      have ⟨empty, raised, reached⟩ := resumes
      rw [empty, List.append_nil] at split
      refine Or.inr ⟨⟨received response.sent, ?_, ?_⟩, reached⟩
      · rw [split]
        exact before
      · rw [raised]
        exact received_error response.sent failure.frameCode

/-- A turn of the pending task neither loses nor repeats an event. -/
theorem Owing.turned (owing : Owing events items ending last response none) :
    Owing events items ending last
      { response with source := (events.turn response.source).2 }
      (events.turn response.source).1 := by
  have ⟨given, rest, split, before, resumes⟩ := owing
  exact ⟨given, rest, split, before, Generator.Yields.turned resumes⟩

theorem Owing.pinged (owing : Owing events items ending last response none) :
    Owing events items ending last { response with sent := response.sent ++ [ping] } none := by
  have ⟨given, rest, split, before, resumes⟩ := owing
  refine ⟨given, rest, split, ?_, resumes⟩
  show Encoded given (received (response.sent ++ [ping]))
  rw [received_ping]
  exact before

theorem relayed_turn (holds : Relayed events items ending last response)
    (stepped : step events response .turn = some next) :
    Relayed events items ending last next := by
  simp only [step] at stepped
  split at stepped
  · rename_i here
    obtain rfl := Option.some.inj stepped
    exact relayed_prime holds here
  · rename_i here
    obtain rfl := Option.some.inj stepped
    rw [Relayed, here] at holds
    exact Owing.turned holds
  · rename_i here
    obtain rfl := Option.some.inj stepped
    rw [Relayed, here] at holds
    exact Owing.turned holds
  · cases stepped

theorem relayed_resume (holds : Relayed events items ending last response)
    (stepped : step events response .resume = some next) :
    Relayed events items ending last next := by
  simp only [step] at stepped
  split at stepped
  · rename_i here
    obtain rfl := Option.some.inj stepped
    rw [Relayed, here] at holds
    exact holds
  · rename_i here
    obtain rfl := Option.some.inj stepped
    rw [Relayed, here] at holds
    exact holds
  · rename_i here
    obtain rfl := Option.some.inj stepped
    rw [Relayed, here] at holds
    rcases holds with spoiled | ⟨settled, reached⟩
    · exact Or.inl spoiled
    · refine Or.inr ⟨settled, ?_⟩
      show events.aclose response.source = events.aclose last
      rw [reached]
  · cases stepped

theorem disconnect_pc (stepped : step events response .disconnect = some next) :
    next.pc = .disconnected := by
  simp only [step, disconnect] at stepped
  split at stepped
  all_goals first
    | contradiction
    | rw [← Option.some.inj stepped]
      rfl

theorem relayed_step (response : Response Source) (action : Action) (next : Response Source)
    (holds : Relayed events items ending last response)
    (stepped : step events response action = some next) :
    Relayed events items ending last next := by
  cases action with
  | turn => exact relayed_turn holds stepped
  | resume => exact relayed_resume holds stepped
  | heartbeat =>
      simp only [step] at stepped
      split at stepped
      · rename_i here
        obtain rfl := Option.some.inj stepped
        rw [Relayed, here] at holds
        exact Owing.pinged holds
      · cases stepped
  | wake =>
      simp only [step] at stepped
      split at stepped
      · rename_i here
        obtain rfl := Option.some.inj stepped
        rw [Relayed, here] at holds
        exact relayed_proceed holds
      · cases stepped
  | disconnect =>
      rw [Relayed, disconnect_pc stepped]
      trivial

theorem relayed_run {source : Source} {actions : List Action}
    (yields : events.Yields source items ending last)
    (reached : run (step events) (respond source) actions = some response) :
    Relayed events items ending last response :=
  run_invariant_always (Relayed events items ending last) relayed_step
    (show Relayed events items ending last (respond source) from ⟨rfl, yields⟩) reached

/-- Some schedule of the rest closes the response with nobody disconnecting. -/
def Finishes (events : Generator Source ServerSentEvent Failure) (response : Response Source) :
    Prop :=
  ∃ actions final, run (step events) response actions = some final ∧ final.pc = .closed

theorem Finishes.before (action : Action)
    (stepped : step events response action = some next)
    (finishes : Finishes events next) : Finishes events response := by
  have ⟨actions, final, reached, closed⟩ := finishes
  exact ⟨action :: actions, final, run_cons_some.mpr ⟨next, stepped, reached⟩, closed⟩

theorem finishes_closed (here : response.pc = .closed) : Finishes events response :=
  ⟨[], response, rfl, here⟩

theorem finishes_failed (here : response.pc = .failed) : Finishes events response := by
  have stepped : step events response .resume = some (response.finish events .closed) := by
    simp only [step, here]
  exact Finishes.before .resume stepped (finishes_closed rfl)

theorem finishes_yieldEvent (event : ServerSentEvent)
    (onward : ∀ sent, Finishes events ⟨response.source, .waiting none, sent⟩) :
    Finishes events (response.yieldEvent event) := by
  unfold Response.yieldEvent
  split
  · rename_i text encoded
    apply Finishes.before .resume rfl
    exact onward (response.sent ++ [text])
  · exact finishes_failed rfl

theorem finishes_proceed {source : Source} {sent : List String}
    {answer : Answer ServerSentEvent Failure}
    (proceeds : Finishes events (proceed events ⟨source, .waiting (some answer), sent⟩ answer)) :
    Finishes events ⟨source, .waiting (some answer), sent⟩ :=
  Finishes.before .wake rfl proceeds

theorem finishes_turned {source : Source} {sent : List String}
    (finishes : Finishes events
      ⟨(events.turn source).2, .waiting (events.turn source).1, sent⟩) :
    Finishes events ⟨source, .waiting none, sent⟩ := by
  apply Finishes.before .turn rfl
  exact finishes

/-- However far the generator has come, its end closes the response. -/
theorem finishes_waiting {source : Source} (yields : events.Yields source items ending last)
    (sent : List String) : Finishes events ⟨source, .waiting none, sent⟩ := by
  induction yields generalizing sent with
  | stop turned =>
      apply finishes_turned
      rw [turned]
      apply finishes_proceed
      exact finishes_closed rfl
  | raise turned =>
      apply finishes_turned
      rw [turned]
      apply finishes_proceed
      exact finishes_failed rfl
  | item turned later ih =>
      apply finishes_turned
      rw [turned]
      apply finishes_proceed
      exact finishes_yieldEvent _ ih
  | wait turned later ih =>
      apply finishes_turned
      rw [turned]
      exact ih sent

theorem finishes_priming {source : Source} (yields : events.Yields source items ending last)
    (opens : items ≠ []) (sent : List String) : Finishes events ⟨source, .priming, sent⟩ := by
  have primed : step events ⟨source, .priming, sent⟩ .turn =
      some (prime events ⟨source, .priming, sent⟩) := rfl
  induction yields with
  | stop turned => exact absurd rfl opens
  | raise turned => exact absurd rfl opens
  | item turned later ih =>
      simp only [prime, turned] at primed
      exact Finishes.before .turn primed (finishes_yieldEvent _ (finishes_waiting later))
  | wait turned later ih =>
      simp only [prime, turned] at primed
      exact Finishes.before .turn primed (ih opens rfl)

theorem finishes_owing {pending : Option (Answer ServerSentEvent Failure)}
    (owing : Owing events items ending last response pending)
    (here : response.pc = .waiting pending) : Finishes events response := by
  have ⟨given, rest, split, before, resumes⟩ := owing
  cases pending with
  | none =>
      have waits := finishes_waiting resumes response.sent
      rw [← here] at waits
      exact waits
  | some answer =>
      have stepped : step events response .wake = some (proceed events response answer) := by
        simp only [step, here]
      apply Finishes.before .wake stepped
      cases answer with
      | item event =>
          have ⟨later, shape, yields⟩ := resumes
          exact finishes_yieldEvent event (finishes_waiting yields)
      | stop => exact finishes_closed rfl
      | raise failure => exact finishes_failed rfl

/-- No response that has events to relay gets stuck before it is closed. -/
theorem Relayed.finishes (holds : Relayed events items ending last response)
    (opens : items ≠ []) (connected : response.pc ≠ .disconnected) :
    Finishes events response := by
  cases here : response.pc with
  | priming =>
      rw [Relayed, here] at holds
      have primes := finishes_priming holds.2 opens response.sent
      rw [← here] at primes
      exact primes
  | rejected failure =>
      rw [Relayed, here] at holds
      exact absurd holds opens
  | sent =>
      rw [Relayed, here] at holds
      have stepped : step events response .resume =
          some { response with pc := .waiting none } := by
        simp only [step, here]
      exact Finishes.before .resume stepped (finishes_owing holds rfl)
  | waiting pending =>
      rw [Relayed, here] at holds
      exact finishes_owing holds here
  | pinged pending =>
      rw [Relayed, here] at holds
      have stepped : step events response .resume =
          some { response with pc := .waiting pending } := by
        simp only [step, here]
      exact Finishes.before .resume stepped (finishes_owing holds rfl)
  | failed => exact finishes_failed here
  | closed => exact finishes_closed here
  | disconnected => exact absurd here connected

/-- Where every event can be encoded, the closed response has relayed them all. -/
theorem Relayed.settled (holds : Relayed events items ending last response)
    (encodable : ∀ event ∈ items, event.encode.isSome = true) (closed : response.pc = .closed) :
    Settled items ending response ∧ response.source = events.aclose last := by
  rw [Relayed, closed] at holds
  rcases holds with ⟨event, member, broken⟩ | settled
  · have encoded := encodable event member
    rw [broken] at encoded
    contradiction
  · exact settled

end Relay

end AiPlatform.Sse

import AiPlatform.Api.SseRelay
import AiPlatform.Core.JsonRoundTrip
import AiPlatform.Lib.EventStream

set_option autoImplicit false

/- What a reader of the event stream makes of the frames: the events that were sent, whatever
heartbeats are between them. -/
namespace AiPlatform.Sse

open EventStream (Event between parse withoutMark_eq)
open EventStream.Reader (read_blank read_comment read_field)
open JsonDecoder (Plain FloatText Unbroken Written loads)

inductive Frame where
  | event (event : ServerSentEvent)
  | ping

def Frame.text [Recursion] : Frame → Option String
  | .event sent => sent.encode
  | .ping => some Sse.ping

def Frame.sent : Frame → Option ServerSentEvent
  | .event sent => some sent
  | .ping => none

/-- The events of a stream, without the heartbeats. -/
def eventsOf (frames : List Frame) : List ServerSentEvent := frames.filterMap Frame.sent

/-- No name, or one that is a single line. -/
def Named (event : ServerSentEvent) : Prop :=
  ∀ name ∈ event.event, name ≠ "" ∧ Unbroken name.toList

/-- The reader was given the event: its name, and a text that `json.loads` reads as its data. -/
def Given (floatRepr : String → String) (event : ServerSentEvent) (given : Event) : Prop :=
  given.name = event.event ∧
    ∀ depth, given.data.length ≤ depth → loads floatRepr depth given.data = .ok (fields event.data)

section Reading

variable {floatRepr : String → String} {event : ServerSentEvent} {text : String}

theorem eventLine_named {name : String} (named : event.event = some name) (filled : name ≠ "") :
    event.eventLine.toList = "event".toList ++ ':' :: ' ' :: name.toList ++ ['\n'] := by
  have line : event.eventLine = "event: " ++ name ++ "\n" := by
    simp [ServerSentEvent.eventLine, named, filled]
  rw [line, String.toList_append, String.toList_append]
  rfl

theorem dataLine (text : String) : ("data: " ++ text ++ "\n\n").toList =
    "data".toList ++ ':' :: ' ' :: text.toList ++ '\n' :: ['\n'] := by
  rw [String.toList_append, String.toList_append]
  rfl

/-- The data line of a frame and the blank line after it. -/
theorem read_data (unbroken : Unbroken text.toList) (name : List Char) (given : List Event)
    (rest : List Char) :
    EventStream.Reader.read ⟨name, [], given⟩ (("data: " ++ text ++ "\n\n").toList ++ rest) =
      (between (given ++ [⟨if name = [] then none else some (String.ofList name), text⟩])).read
        rest := by
  have shape : ("data: " ++ text ++ "\n\n").toList ++ rest =
      "data".toList ++ ':' :: ' ' :: text.toList ++ '\n' :: '\n' :: rest := by
    rw [dataLine]
    simp
  have single : Unbroken "data".toList := by decide
  rw [shape, read_field _ (by decide) (by decide) single unbroken, read_blank]
  have filled : text.toList ++ ['\n'] ≠ [] := by simp
  show ((EventStream.Reader.mk name (text.toList ++ ['\n']) given).dispatch).read rest = _
  rw [EventStream.Reader.dispatch, if_neg filled, List.dropLast_concat, String.ofList_toList]

/-- A frame is read as its event. -/
theorem read_event (named : Named event) (unbroken : Unbroken text.toList) (given : List Event)
    (rest : List Char) :
    (between given).read ((event.eventLine ++ "data: " ++ text ++ "\n\n").toList ++ rest) =
      (between (given ++ [⟨event.event, text⟩])).read rest := by
  have shape : (event.eventLine ++ "data: " ++ text ++ "\n\n").toList ++ rest =
      event.eventLine.toList ++ (("data: " ++ text ++ "\n\n").toList ++ rest) := by
    simp [String.append_assoc]
  rw [shape]
  cases named_ : event.event with
  | none =>
      have line : event.eventLine = "" := by simp [ServerSentEvent.eventLine, named_]
      rw [line]
      exact read_data unbroken [] given rest
  | some name =>
      obtain ⟨filled, single⟩ := named name named_
      have letters : name.toList ≠ [] := by simpa using filled
      rw [eventLine_named named_ filled, List.append_assoc]
      show (between given).read (_ ++ '\n' :: (_ ++ rest)) = _
      have field : Unbroken "event".toList := by decide
      rw [read_field _ (by decide) (by decide) field single]
      show EventStream.Reader.read ⟨name.toList, [], given⟩ _ = _
      rw [read_data unbroken, if_neg letters, String.ofList_toList]

theorem read_ping (given : List Event) (rest : List Char) :
    (between given).read (ping.toList ++ rest) = (between given).read rest := by
  have shape : ping.toList ++ rest = ':' :: " ping".toList ++ '\n' :: '\n' :: rest := rfl
  have single : Unbroken " ping".toList := by decide
  rw [shape, read_comment _ single, read_blank]
  rfl

variable [Recursion]

/-- What one frame adds to what the reader was given. -/
theorem read_frame {frame : Frame} (named : ∀ event ∈ frame.sent, Named event)
    (plain : ∀ event ∈ frame.sent, Plain floatRepr Recursion.depth (fields event.data)) :
    ∃ text, frame.text = some text ∧ ∃ dispatched,
      List.Forall₂ (Given floatRepr) frame.sent.toList dispatched ∧ ∀ given rest,
        (between given).read (text.toList ++ rest) = (between (given ++ dispatched)).read rest := by
  cases frame with
  | ping =>
      refine ⟨ping, rfl, [], .nil, fun given rest => ?_⟩
      rw [read_ping, List.append_nil]
  | event event =>
      have ⟨text, written⟩ := (plain event rfl).written
      have encoded : event.encode = some (event.eventLine ++ "data: " ++ text ++ "\n\n") := by
        rw [ServerSentEvent.encode, written.dumped]
        rfl
      have loaded : Given floatRepr event ⟨event.event, text⟩ :=
        ⟨rfl, fun depth enough => written.loads enough⟩
      exact ⟨_, encoded, _, .cons loaded .nil, read_event (named event rfl) written.unbroken⟩

/-- What a stream of frames adds, frame by frame. -/
theorem read_frames {frames : List Frame} (named : ∀ event ∈ eventsOf frames, Named event)
    (plain : ∀ event ∈ eventsOf frames, Plain floatRepr Recursion.depth (fields event.data)) :
    ∃ texts, frames.map Frame.text = texts.map some ∧ ∃ dispatched,
      List.Forall₂ (Given floatRepr) (eventsOf frames) dispatched ∧ ∀ given,
        (between given).read (String.join texts).toList = between (given ++ dispatched) := by
  induction frames with
  | nil =>
      refine ⟨[], rfl, [], .nil, fun given => ?_⟩
      rw [List.append_nil]
      rfl
  | cons frame frames ih =>
      have split : eventsOf (frame :: frames) = frame.sent.toList ++ eventsOf frames := by
        cases frame <;> rfl
      rw [split] at named plain ⊢
      obtain ⟨namedHere, namedLater⟩ := List.forall_mem_append.mp named
      obtain ⟨plainHere, plainLater⟩ := List.forall_mem_append.mp plain
      obtain ⟨text, encoded, first, givenFirst, readFirst⟩ := read_frame
        (fun event member => namedHere event (Option.mem_toList.mpr member))
        (fun event member => plainHere event (Option.mem_toList.mpr member))
      obtain ⟨texts, encodedAll, later, givenLater, readLater⟩ := ih namedLater plainLater
      refine ⟨text :: texts, ?_, first ++ later, List.rel_append givenFirst givenLater,
        fun given => ?_⟩
      · rw [List.map_cons, List.map_cons, encoded, encodedAll]
      · rw [String.join_cons, String.toList_append, readFirst, readLater, List.append_assoc]

theorem frame_start {frame : Frame} (encoded : frame.text = some text) :
    ∃ letter, text.toList.head? = some letter ∧ letter ≠ '\ufeff' := by
  cases frame with
  | ping =>
      obtain rfl := Option.some.inj encoded
      exact ⟨':', rfl, by decide⟩
  | event event =>
      obtain ⟨body, -, rfl⟩ := Option.map_eq_some_iff.mp encoded
      unfold ServerSentEvent.eventLine
      split
      · split
        · exact ⟨'d', by simp, by decide⟩
        · exact ⟨'e', by simp, by decide⟩
      · exact ⟨'d', by simp, by decide⟩

theorem join_start {frames : List Frame} {texts : List String}
    (encoded : frames.map Frame.text = texts.map some) :
    (String.join texts).toList.head? ≠ some '\ufeff' := by
  cases frames with
  | nil =>
      obtain rfl : texts = [] := by simpa using encoded.symm
      decide
  | cons frame frames =>
      cases texts with
      | nil => cases encoded
      | cons text texts =>
          obtain ⟨letter, first, other⟩ := frame_start (List.cons.inj encoded).1
          rw [String.join_cons, String.toList_append, List.head?_append, first]
          exact fun same => other (Option.some.inj same)

end Reading

section Samples

local instance sampleLevels : Recursion := thousandLevels

/-- An integer of 4301 digits. -/
def longEvent : ServerSentEvent := ⟨[("n", .int (10 ^ 4300))], none⟩

/-- A text with a line break, a quote and a letter that is not ASCII, between two heartbeats. -/
def exampleEvent : ServerSentEvent :=
  ⟨[("text", .str "a\n\x22é"), ("score", .list [.float "1.5", .int (-2)])], some "delta"⟩

end Samples

end AiPlatform.Sse

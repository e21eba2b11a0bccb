import Mathlib.Data.List.Basic

set_option autoImplicit false

/- A reader of the event-stream format: lines, fields, comments, and an event at a blank line.
Fields other than `event` and `data` do not change what is read. -/
namespace AiPlatform.EventStream

structure Event where
  name : Option String
  data : String
deriving DecidableEq, Repr

/-- The event being read, and those before it. -/
structure Reader where
  name : List Char
  data : List Char
  given : List Event
deriving DecidableEq, Repr

/-- Between two events. -/
def between (given : List Event) : Reader := ⟨[], [], given⟩

/-- The lines of a text after `line`. A line feed, a carriage return, or the two as one end a line;
what is not ended is left out. -/
def linesFrom (line : List Char) : List Char → List (List Char)
  | [] => []
  | letter :: rest =>
      if letter = '\n' then line :: linesFrom [] rest
      else if letter = '\r' then
        match rest with
        | '\n' :: more => line :: linesFrom [] more
        | more => line :: linesFrom [] more
      else linesFrom (line ++ [letter]) rest

namespace Reader

/-- An event without data is dropped; the line feed after the last data line is no part of it. -/
def dispatch (reader : Reader) : Reader :=
  if reader.data = [] then between reader.given
  else
    let name := if reader.name = [] then none else some (String.ofList reader.name)
    between (reader.given ++ [⟨name, String.ofList reader.data.dropLast⟩])

def field (reader : Reader) (name value : List Char) : Reader :=
  if name = ['e', 'v', 'e', 'n', 't'] then { reader with name := value }
  else if name = ['d', 'a', 't', 'a'] then { reader with data := reader.data ++ value ++ ['\n'] }
  else reader

/-- One blank after the colon is no part of the value. -/
def line (reader : Reader) (letters : List Char) : Reader :=
  match letters with
  | [] => reader.dispatch
  | ':' :: _ => reader
  | letters =>
      let name := letters.takeWhile (· ≠ ':')
      match letters.dropWhile (· ≠ ':') with
      | _ :: ' ' :: value => reader.field name value
      | _ :: value => reader.field name value
      | [] => reader.field name []

def read (reader : Reader) (letters : List Char) : Reader :=
  (linesFrom [] letters).foldl line reader

end Reader

/-- A byte order mark at the start is skipped. -/
def withoutMark : List Char → List Char
  | '\ufeff' :: rest => rest
  | letters => letters

def parse (text : String) : List Event := ((between []).read (withoutMark text.toList)).given

theorem withoutMark_eq {letters : List Char} (other : letters.head? ≠ some '\ufeff') :
    withoutMark letters = letters := by
  unfold withoutMark
  split
  · exact absurd rfl other
  · rfl

theorem linesFrom_line (line : List Char) {letters : List Char}
    (unbroken : ∀ letter ∈ letters, letter ≠ '\n' ∧ letter ≠ '\r') (rest : List Char) :
    linesFrom line (letters ++ '\n' :: rest) = (line ++ letters) :: linesFrom [] rest := by
  induction letters generalizing line with
  | nil =>
      rw [List.nil_append, List.append_nil, linesFrom.eq_def]
      rfl
  | cons letter letters ih =>
      obtain ⟨⟨feed, return_⟩, later⟩ := List.forall_mem_cons.mp unbroken
      rw [List.cons_append, linesFrom.eq_def]
      simp only [if_neg feed, if_neg return_]
      rw [ih _ later, List.append_assoc, List.singleton_append]

namespace Reader

/-- A whole line is taken before what comes next. -/
theorem read_line (reader : Reader) {letters : List Char}
    (unbroken : ∀ letter ∈ letters, letter ≠ '\n' ∧ letter ≠ '\r') (rest : List Char) :
    reader.read (letters ++ '\n' :: rest) = (reader.line letters).read rest := by
  rw [read, linesFrom_line [] unbroken]
  rfl

theorem read_blank (reader : Reader) (rest : List Char) :
    reader.read ('\n' :: rest) = reader.dispatch.read rest :=
  reader.read_line (List.forall_mem_nil _) rest

theorem read_comment (reader : Reader) {letters : List Char}
    (unbroken : ∀ letter ∈ letters, letter ≠ '\n' ∧ letter ≠ '\r') (rest : List Char) :
    reader.read (':' :: letters ++ '\n' :: rest) = reader.read rest := by
  have comment : ∀ letter ∈ ':' :: letters, letter ≠ '\n' ∧ letter ≠ '\r' :=
    List.forall_mem_cons.mpr ⟨by decide, unbroken⟩
  exact reader.read_line comment rest

/-- A line `name: value`. -/
theorem line_field (reader : Reader) {name : List Char} (filled : name ≠ []) (plain : ':' ∉ name)
    (value : List Char) : reader.line (name ++ ':' :: ' ' :: value) = reader.field name value := by
  have other : ∀ letter ∈ name, decide (letter ≠ ':') = true := by
    intro letter member
    simpa using fun same : letter = ':' => plain (same ▸ member)
  have cut : (name ++ ':' :: ' ' :: value).takeWhile (· ≠ ':') = name := by
    rw [List.takeWhile_append_of_pos other]
    simp
  have left : (name ++ ':' :: ' ' :: value).dropWhile (· ≠ ':') = ':' :: ' ' :: value := by
    rw [List.dropWhile_append_of_pos other]
    simp
  obtain ⟨letter, more, rfl⟩ := List.exists_cons_of_ne_nil filled
  have first : letter ≠ ':' := fun same => plain (same ▸ List.mem_cons_self)
  rw [List.cons_append] at cut left ⊢
  rw [line.eq_def]
  split
  · rename_i empty
    cases empty
  · rename_i same
    exact absurd (List.cons.inj same).1 first
  · simp only [cut, left]

theorem read_field (reader : Reader) {name value : List Char} (filled : name ≠ [])
    (plain : ':' ∉ name) (named : ∀ letter ∈ name, letter ≠ '\n' ∧ letter ≠ '\r')
    (unbroken : ∀ letter ∈ value, letter ≠ '\n' ∧ letter ≠ '\r') (rest : List Char) :
    reader.read (name ++ ':' :: ' ' :: value ++ '\n' :: rest) =
      (reader.field name value).read rest := by
  have whole : ∀ letter ∈ name ++ ':' :: ' ' :: value, letter ≠ '\n' ∧ letter ≠ '\r' :=
    List.forall_mem_append.mpr ⟨named, List.forall_mem_cons.mpr
      ⟨by decide, List.forall_mem_cons.mpr ⟨by decide, unbroken⟩⟩⟩
  rw [reader.read_line whole, reader.line_field filled plain]

end Reader

end AiPlatform.EventStream

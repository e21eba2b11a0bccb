import AiPlatform.Core.FloatText
import AiPlatform.Core.JsonDecoder

set_option autoImplicit false

/- `_parse_judge_reply`: the score and the reason in the reply of a judge model. -/
namespace AiPlatform.Evals

open Binary64 (Double nearest)
open FloatText (Points points floatOfText)
open JsonDecoder (Decoder LoadsError)
open Regex (Encloses enclosed search search_enclosed_iff)

/-- What `json.loads` returns. -/
inductive Loaded where
  | none
  | bool (value : Bool)
  | int (value : Int)
  | float (value : Double)
  | str (value : Points)
  | list (items : List Loaded)
  | dict (entries : List (Points × Loaded))

/-- What the interpreter adds: its Unicode database, its texts for a float, a quoted text and a
`JSONDecodeError`, and how deep its recursion goes. Decoding a value goes no deeper than printing
it can. -/
structure Interpreter where
  unicode : Redaction.UnicodeData
  floatRepr : Double → Points
  strRepr : Points → Points
  decodeText : String → Points
  loadsDepth : Nat
  reprDepth : Nat
  ordered : loadsDepth ≤ reprDepth

/-- What the code raises. `JSONDecodeError` is a `ValueError`. -/
inductive Raised where
  | jsonDecodeError (text : Points)
  | valueError (text : Points)
  | keyError (text : Points)
  | typeError (text : Points)
  | overflowError
  | recursionError
deriving DecidableEq

/-- The code points of code units: two surrogates are one, and one alone is kept. -/
def codePoints : List Nat → Points
  | high :: low :: rest =>
      if (0xd800 ≤ high ∧ high ≤ 0xdbff) ∧ 0xdc00 ≤ low ∧ low ≤ 0xdfff then
        (0x10000 + 0x400 * (high - 0xd800) + (low - 0xdc00)) :: codePoints rest
      else high :: codePoints (low :: rest)
  | units => units

/-- `int(text)` of the letters of a JSON integer. -/
def parseInt (letters : List Char) : Except LoadsError Loaded :=
  let (negative, digits) :=
    match letters with
    | '-' :: digits => (true, digits)
    | digits => (false, digits)
  if 4300 < digits.length then .error (.valueError digits.length)
  else
    let value : Int := FloatText.natural digits
    .ok (.int (if negative then -value else value))

def parseFloat (letters : List Char) : Loaded :=
  .float ((FloatText.stringToDouble letters).getD .nan)

def decoder : Decoder Points Loaded where
  text units := .ok (codePoints units)
  parseInt := parseInt
  parseFloat := parseFloat
  parseConstant text := parseFloat text.toList
  null := .none
  bool := .bool
  str := .str
  list := .list
  dict := .dict

/-- The name of the class of a value. -/
def Loaded.typeName : Loaded → String
  | .none => "NoneType"
  | .bool _ => "bool"
  | .int _ => "int"
  | .float _ => "float"
  | .str _ => "str"
  | .list _ => "list"
  | .dict _ => "dict"

/-- `data[name]`. -/
def subscript (entries : List (Points × Loaded)) (name : String) : Except Raised Loaded :=
  match entries.lookup (points name) with
  | some value => .ok value
  | none => .error (.keyError (points ("'" ++ name ++ "'")))

/-- `data[name]` of what is not a dictionary. -/
def unsubscriptable : Loaded → Raised
  | .list _ => .typeError (points "list indices must be integers or slices, not str")
  | .str _ => .typeError (points "string indices must be integers, not 'str'")
  | other => .typeError (points ("'" ++ other.typeName ++ "' object is not subscriptable"))

/-- `data.get(name, "")`. -/
def get (entries : List (Points × Loaded)) (name : String) : Loaded :=
  (entries.lookup (points name)).getD (.str [])

section Interpreted

variable (interpreter : Interpreter)

def loads (text : String) : Except Raised Loaded :=
  match decoder.loads interpreter.loadsDepth text with
  | .ok value => .ok value
  | .error .jsonDecodeError => .error (.jsonDecodeError (interpreter.decodeText text))
  | .error .recursionError => .error .recursionError
  | .error (.valueError digits) =>
      .error (.valueError
        (points ("Exceeds the limit (4300 digits) for integer string conversion:" ++
        " value has " ++ toString digits ++
        " digits; use sys.set_int_max_str_digits() to increase the limit")))

/-- `float(value)`. -/
def float : Loaded → Except Raised Double
  | .bool value => .ok (nearest (if value then 1 else 0))
  | .int value =>
      match nearest value with
      | .infinite _ => .error .overflowError
      | number => .ok number
  | .float value => .ok value
  | .str text =>
      match floatOfText interpreter.unicode text with
      | some value => .ok value
      | none => .error (.valueError
          (points "could not convert string to float: " ++ interpreter.strRepr text))
  | other => .error (.typeError (points
      ("float() argument must be a string or a real number, not '" ++ other.typeName ++ "'")))

/-- `repr(value)`, with as many calls of itself inside one another. -/
def repr : Nat → Loaded → Except Raised Points
  | 0, _ => .error .recursionError
  | _ + 1, .none => .ok (points "None")
  | _ + 1, .bool value => .ok (points (if value then "True" else "False"))
  | _ + 1, .int value => .ok (points (toString value))
  | _ + 1, .float value => .ok (interpreter.floatRepr value)
  | _ + 1, .str text => .ok (interpreter.strRepr text)
  | depth + 1, .list items => do
      let texts ← items.mapM (repr depth)
      return points "[" ++ (points ", ").intercalate texts ++ points "]"
  | depth + 1, .dict entries => do
      let texts ← entries.mapM fun entry => do
        let value ← repr depth entry.2
        return interpreter.strRepr entry.1 ++ points ": " ++ value
      return points "\x7b" ++ (points ", ").intercalate texts ++ points "\x7d"

/-- `str(value)`. -/
def str : Loaded → Except Raised Points
  | .str text => .ok text
  | other => repr interpreter interpreter.reprDepth other

/-- The body of the `try`, with the items of the object. -/
def scored (found : String) : Except Raised (List (Points × Loaded) × Double) := do
  match ← loads interpreter found with
  | .dict entries =>
      let score ← float interpreter (← subscript entries "score")
      return (entries, score)
  | other => .error (unsubscriptable other)

/-- The `except` clause. -/
def malformed : Raised → Raised
  | .jsonDecodeError text => .valueError (points "malformed judge JSON: " ++ text)
  | .keyError text => .valueError (points "malformed judge JSON: " ++ text)
  | .typeError text => .valueError (points "malformed judge JSON: " ++ text)
  | other => other

/-- `_parse_judge_reply`. -/
def parseJudgeReply (content : String) : Except Raised (Double × Points) :=
  match search (enclosed '\x7b' '\x7d') content.toList with
  | none => .error (.valueError (points "no JSON object in reply"))
  | some found => do
      let (data, score) ← (scored interpreter (String.ofList found)).mapError malformed
      if nearest 0 ≤ score ∧ score ≤ nearest 1 then
        let reason ← str interpreter (get data "reason")
        return (score, reason)
      else .error (.valueError
        (points "score " ++ interpreter.floatRepr score ++ points " outside 0..1"))

end Interpreted

section Printing

variable {interpreter : Interpreter}

/-- Arrays and objects at most `depth` deep. -/
inductive Shallow : Nat → Loaded → Prop
  | none (depth : Nat) : Shallow depth .none
  | bool (depth : Nat) (value : Bool) : Shallow depth (.bool value)
  | int (depth : Nat) (value : Int) : Shallow depth (.int value)
  | float (depth : Nat) (value : Double) : Shallow depth (.float value)
  | str (depth : Nat) (text : Points) : Shallow depth (.str text)
  | list {depth : Nat} {items : List Loaded} (each : ∀ item ∈ items, Shallow depth item) :
      Shallow (depth + 1) (.list items)
  | dict {depth : Nat} {entries : List (Points × Loaded)}
      (each : ∀ entry ∈ entries, Shallow depth entry.2) : Shallow (depth + 1) (.dict entries)

theorem decoder_builds : decoder.Builds Shallow where
  null := .none
  bool := .bool
  str := .str
  int depth letters value parsed := by
    unfold decoder parseInt at parsed
    dsimp only at parsed
    split at parsed
    all_goals
      split at parsed
      · cases parsed
      · rw [← Except.ok.inj parsed]
        exact .int depth _
  float depth _ := .float depth _
  constant depth _ := .float depth _
  list _ _ := .list
  dict _ _ := .dict

theorem mapM_ok {Item Text : Type} {items : List Item} {print : Item → Except Raised Text}
    (each : ∀ item ∈ items, ∃ text, print item = .ok text) :
    ∃ texts, items.mapM print = .ok texts := by
  induction items with
  | nil => exact ⟨[], rfl⟩
  | cons item items ih =>
      obtain ⟨⟨text, printed⟩, later⟩ := List.forall_mem_cons.mp each
      obtain ⟨texts, rest⟩ := ih later
      refine ⟨text :: texts, ?_⟩
      rw [List.mapM_cons, printed, rest]
      rfl

theorem Shallow.repr {depth calls : Nat} {value : Loaded} (shallow : Shallow depth value)
    (enough : depth < calls) : ∃ text, repr interpreter calls value = .ok text := by
  obtain ⟨calls, rfl⟩ : ∃ more, calls = more + 1 := ⟨calls - 1, by omega⟩
  induction shallow generalizing calls with
  | none | bool | int | float | str => exact ⟨_, rfl⟩
  | @list depth items each ih =>
      obtain ⟨inner, rfl⟩ : ∃ more, calls = more + 1 := ⟨calls - 1, by omega⟩
      obtain ⟨texts, printed⟩ := mapM_ok fun item member => ih item member inner (by omega)
      refine ⟨points "[" ++ (points ", ").intercalate texts ++ points "]", ?_⟩
      rw [Evals.repr, printed]
      rfl
  | @dict depth entries each ih =>
      obtain ⟨inner, rfl⟩ : ∃ more, calls = more + 1 := ⟨calls - 1, by omega⟩
      have pairs : ∀ entry ∈ entries, ∃ text, (do
          let value ← Evals.repr interpreter (inner + 1) entry.2
          return interpreter.strRepr entry.1 ++ points ": " ++ value) = Except.ok text := by
        intro entry member
        obtain ⟨text, printed⟩ := ih entry member inner (by omega)
        exact ⟨_, by rw [printed]; rfl⟩
      obtain ⟨texts, printed⟩ := mapM_ok pairs
      refine ⟨points "\x7b" ++ (points ", ").intercalate texts ++ points "\x7d", ?_⟩
      rw [Evals.repr, printed]
      rfl

/-- What was decoded can be printed. -/
theorem str_reason {text : String} {entries : List (Points × Loaded)}
    (loaded : decoder.loads interpreter.loadsDepth text = .ok (.dict entries)) (name : String) :
    ∃ reason, str interpreter (get entries name) = .ok reason := by
  have shallow := decoder_builds.loads loaded
  have ordered := interpreter.ordered
  generalize interpreter.loadsDepth = depth at shallow ordered
  cases shallow with
  | @dict depth _ each =>
      have inside : Shallow depth (get entries name) := by
        unfold get
        cases found : entries.lookup (points name) with
        | none => exact .str _ _
        | some value =>
            obtain ⟨before, after, split, -⟩ := List.lookup_eq_some_iff.mp found
            exact each (points name, value) (by simp [split])
      obtain ⟨printed, same⟩ :
          ∃ text, repr interpreter interpreter.reprDepth (get entries name) = .ok text :=
        inside.repr (by omega)
      unfold str
      split
      · exact ⟨_, rfl⟩
      · exact ⟨printed, same⟩

end Printing

section Reading

variable {interpreter : Interpreter}

/-- The text is a JSON object whose score converts to the number. -/
def ScoreOf (interpreter : Interpreter) (found : String) (number : Double) : Prop :=
  ∃ entries score, decoder.loads interpreter.loadsDepth found = .ok (.dict entries) ∧
    entries.lookup (points "score") = some score ∧ float interpreter score = .ok number

/-- What no `except` clause is for: arrays and objects too deep for the stack, and a score that is
an integer too large for a float. -/
def Exceeds (interpreter : Interpreter) (found : String) : Prop :=
  decoder.loads interpreter.loadsDepth found = .error .recursionError ∨
    ∃ entries number, decoder.loads interpreter.loadsDepth found = .ok (.dict entries) ∧
      entries.lookup (points "score") = some (.int number) ∧
      Binary64.limit - Binary64.halfStep ≤ |(number : ℚ)|

/-- How the body of the `try` ends: with the only score, with an error of which the `except` clause
makes a `ValueError`, or with one that escapes it. -/
inductive Ends (interpreter : Interpreter) (found : String) :
    Except Raised (List (Points × Loaded) × Double) → Prop
  | read {entries : List (Points × Loaded)} {number : Double}
      (loaded : decoder.loads interpreter.loadsDepth found = .ok (.dict entries))
      (scores : ∀ other, ScoreOf interpreter found other ↔ other = number)
      (bounded : ¬Exceeds interpreter found) : Ends interpreter found (.ok (entries, number))
  | caught {raised : Raised} {text : Points} (mapped : malformed raised = .valueError text)
      (unscored : ∀ number, ¬ScoreOf interpreter found number)
      (bounded : ¬Exceeds interpreter found) : Ends interpreter found (.error raised)
  | escapes {raised : Raised} (kind : raised = .overflowError ∨ raised = .recursionError)
      (exceeds : Exceeds interpreter found) : Ends interpreter found (.error raised)

/-- The errors of `float`, and the only value for which it overflows. -/
theorem float_raised {value : Loaded} {raised : Raised}
    (failed : float interpreter value = .error raised) :
    (∃ text, raised = .valueError text ∨ raised = .typeError text) ∨
      raised = .overflowError ∧ ∃ number, value = .int number ∧
        Binary64.limit - Binary64.halfStep ≤ |(number : ℚ)| := by
  cases value with
  | bool value => cases failed
  | float value => cases failed
  | int number =>
      right
      unfold float at failed
      dsimp only at failed
      split at failed
      · rename_i negative large
        exact ⟨(Except.error.inj failed).symm, number, rfl,
          (Binary64.nearest_infinite_iff _).mp ⟨negative, large⟩⟩
      · cases failed
  | str text =>
      left
      unfold float at failed
      dsimp only at failed
      split at failed
      · cases failed
      · exact ⟨_, .inl (Except.error.inj failed).symm⟩
  | none => exact .inl ⟨_, .inr (Except.error.inj failed).symm⟩
  | list items => exact .inl ⟨_, .inr (Except.error.inj failed).symm⟩
  | dict entries => exact .inl ⟨_, .inr (Except.error.inj failed).symm⟩

theorem float_large {number : Int} (large : Binary64.limit - Binary64.halfStep ≤ |(number : ℚ)|) :
    float interpreter (.int number) = .error .overflowError := by
  obtain ⟨negative, infinite⟩ := (Binary64.nearest_infinite_iff _).mpr large
  unfold float
  dsimp only
  rw [infinite]

/-- A text that is no JSON object has no score. -/
theorem unread {found : String} {read : Except LoadsError Loaded}
    (loaded : decoder.loads interpreter.loadsDepth found = read)
    (other : ∀ entries, read ≠ .ok (.dict entries)) (shallow : read ≠ .error .recursionError) :
    (∀ number, ¬ScoreOf interpreter found number) ∧ ¬Exceeds interpreter found := by
  rw [← loaded] at other shallow
  constructor
  · rintro number ⟨entries, score, same, -⟩
    exact other entries same
  · rintro (deep | ⟨entries, number, same, -⟩)
    · exact shallow deep
    · exact other entries same

section Object

variable {found : String} {entries : List (Points × Loaded)}

theorem scoreOf_iff (loaded : decoder.loads interpreter.loadsDepth found = .ok (.dict entries))
    (number : Double) : ScoreOf interpreter found number ↔
      ∃ score, entries.lookup (points "score") = some score ∧
        float interpreter score = .ok number := by
  constructor
  · rintro ⟨other, score, same, rest⟩
    rw [loaded] at same
    injection same with same
    injection same with same
    exact ⟨score, same ▸ rest⟩
  · rintro ⟨score, rest⟩
    exact ⟨entries, score, loaded, rest⟩

theorem exceeds_iff (loaded : decoder.loads interpreter.loadsDepth found = .ok (.dict entries)) :
    Exceeds interpreter found ↔ ∃ number, entries.lookup (points "score") = some (.int number) ∧
      Binary64.limit - Binary64.halfStep ≤ |(number : ℚ)| := by
  constructor
  · rintro (deep | ⟨other, number, same, rest⟩)
    · rw [loaded] at deep
      cases deep
    · rw [loaded] at same
      injection same with same
      injection same with same
      exact ⟨number, same ▸ rest⟩
  · rintro ⟨number, rest⟩
    exact .inr ⟨entries, number, loaded, rest⟩

theorem scored_object (loaded : decoder.loads interpreter.loadsDepth found = .ok (.dict entries)) :
    scored interpreter found =
      (subscript entries "score" >>= float interpreter).map fun number => (entries, number) := by
  unfold scored loads
  rw [loaded]
  show (subscript entries "score" >>= fun score => float interpreter score >>= _) = _
  cases subscript entries "score" with
  | error raised => rfl
  | ok score =>
      show (float interpreter score >>= _) = (float interpreter score).map _
      cases float interpreter score <;> rfl

/-- The score of an object is converted. -/
theorem float_ends (loaded : decoder.loads interpreter.loadsDepth found = .ok (.dict entries))
    {score : Loaded} (looked : entries.lookup (points "score") = some score) :
    Ends interpreter found ((float interpreter score).map fun number => (entries, number)) := by
  have scores := scoreOf_iff loaded
  have exceeds := exceeds_iff loaded
  simp only [looked, Option.some.injEq, exists_eq_left'] at scores exceeds
  cases converted : float interpreter score with
  | ok number =>
      simp only [converted, Except.ok.injEq] at scores
      refine .read loaded (fun other => (scores other).trans eq_comm) fun large => ?_
      obtain ⟨whole, rfl, overflows⟩ := exceeds.mp large
      rw [float_large overflows] at converted
      cases converted
  | error raised =>
      have unscored : ∀ number, ¬ScoreOf interpreter found number := by
        intro number scored
        have same := (scores number).mp scored
        rw [converted] at same
        cases same
      rcases float_raised converted with ⟨text, caught⟩ | ⟨rfl, whole, shape, large⟩
      · have bounded : ¬Exceeds interpreter found := by
          intro large
          obtain ⟨whole, rfl, overflows⟩ := exceeds.mp large
          rw [float_large overflows] at converted
          rw [← Except.error.inj converted] at caught
          rcases caught with impossible | impossible <;> cases impossible
        rcases caught with rfl | rfl
        · exact .caught rfl unscored bounded
        · exact .caught rfl unscored bounded
      · exact .escapes (.inl rfl) (exceeds.mpr ⟨whole, shape, large⟩)

theorem object_ends (loaded : decoder.loads interpreter.loadsDepth found = .ok (.dict entries)) :
    Ends interpreter found (scored interpreter found) := by
  rw [scored_object loaded]
  unfold subscript
  cases looked : entries.lookup (points "score") with
  | none =>
      refine .caught rfl (fun number scored => ?_) fun large => ?_
      · obtain ⟨score, present, -⟩ := (scoreOf_iff loaded number).mp scored
        rw [looked] at present
        cases present
      · obtain ⟨number, present, -⟩ := (exceeds_iff loaded).mp large
        rw [looked] at present
        cases present
  | some score => exact float_ends loaded looked

end Object

theorem scored_ends (interpreter : Interpreter) (found : String) :
    Ends interpreter found (scored interpreter found) := by
  cases loaded : decoder.loads interpreter.loadsDepth found with
  | error error =>
      unfold scored loads
      rw [loaded]
      cases error with
      | jsonDecodeError =>
          obtain ⟨unscored, bounded⟩ := unread loaded nofun nofun
          exact .caught rfl unscored bounded
      | valueError digits =>
          obtain ⟨unscored, bounded⟩ := unread loaded nofun nofun
          exact .caught rfl unscored bounded
      | recursionError => exact .escapes (.inr rfl) (.inl loaded)
  | ok value =>
      cases value with
      | dict entries => exact object_ends loaded
      | none | bool | int | float | str | list =>
          obtain ⟨unscored, bounded⟩ := unread loaded nofun nofun
          unfold scored loads
          rw [loaded]
          exact .caught rfl unscored bounded

theorem parseJudgeReply_found (interpreter : Interpreter) {content : String} {found : List Char}
    (encloses : Encloses '\x7b' '\x7d' content.toList found) :
    parseJudgeReply interpreter content =
      (scored interpreter (String.ofList found)).mapError malformed >>= fun read =>
        if nearest 0 ≤ read.2 ∧ read.2 ≤ nearest 1 then
          str interpreter (get read.1 "reason") >>= fun reason => .ok (read.2, reason)
        else .error (.valueError
          (points "score " ++ interpreter.floatRepr read.2 ++ points " outside 0..1")) := by
  unfold parseJudgeReply
  rw [encloses.search]
  rfl

/-- How the whole ends: with a score, with an error that is caught, or with another one. -/
theorem parseJudgeReply_cases (interpreter : Interpreter) (content : String) :
    (∃ found number reason, Encloses '\x7b' '\x7d' content.toList found ∧
      parseJudgeReply interpreter content = .ok (number, reason) ∧
      (∀ other, ScoreOf interpreter (String.ofList found) other ↔ other = number) ∧
      (nearest 0 ≤ number ∧ number ≤ nearest 1) ∧ ¬Exceeds interpreter (String.ofList found)) ∨
    (∃ text, parseJudgeReply interpreter content = .error (.valueError text) ∧
      ∀ found, Encloses '\x7b' '\x7d' content.toList found →
        (∀ number, ScoreOf interpreter (String.ofList found) number →
          ¬(nearest 0 ≤ number ∧ number ≤ nearest 1)) ∧
        ¬Exceeds interpreter (String.ofList found)) ∨
    ∃ found raised, Encloses '\x7b' '\x7d' content.toList found ∧
      parseJudgeReply interpreter content = .error raised ∧
      (raised = .overflowError ∨ raised = .recursionError) ∧
      Exceeds interpreter (String.ofList found) := by
  cases searched : search (enclosed '\x7b' '\x7d') content.toList with
  | none =>
      have ended : parseJudgeReply interpreter content =
          .error (.valueError (points "no JSON object in reply")) := by
        unfold parseJudgeReply
        rw [searched]
      refine .inr (.inl ⟨_, ended, fun found encloses => ?_⟩)
      rw [encloses.search] at searched
      cases searched
  | some found =>
      have encloses := search_enclosed_iff.mp searched
      have ended := parseJudgeReply_found interpreter encloses
      have ends := scored_ends interpreter (String.ofList found)
      generalize scored interpreter (String.ofList found) = outcome at ended ends
      cases ends with
      | @read entries number loaded scores bounded =>
          by_cases inside : nearest 0 ≤ number ∧ number ≤ nearest 1
          · obtain ⟨reason, printed⟩ := str_reason loaded "reason"
            refine .inl ⟨found, number, reason, encloses, ended.trans ((if_pos inside).trans ?_),
              scores, inside, bounded⟩
            rw [printed]
            rfl
          · refine .inr (.inl ⟨_, ended.trans (if_neg inside), fun other also => ?_⟩)
            rw [encloses.unique also]
            refine ⟨fun other same => ?_, bounded⟩
            rw [(scores other).mp same]
            exact inside
      | @caught raised text mapped unscored bounded =>
          refine .inr
            (.inl ⟨text, ended.trans (congrArg Except.error mapped), fun other also => ?_⟩)
          rw [encloses.unique also]
          exact ⟨fun number same => absurd same (unscored number), bounded⟩
      | @escapes raised kind exceeds =>
          have kept : malformed raised = raised := by rcases kind with rfl | rfl <;> rfl
          exact .inr (.inr ⟨found, raised, encloses, ended.trans (congrArg Except.error kept), kind,
            exceeds⟩)

end Reading

end AiPlatform.Evals

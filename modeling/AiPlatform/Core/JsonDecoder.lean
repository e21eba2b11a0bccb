import AiPlatform.Api.Sse
import AiPlatform.Core.ApiKeys

set_option autoImplicit false

/- `json.loads` of a text. -/
namespace AiPlatform.JsonDecoder

open Identity (hexDigit)
open Sse (PyValue)

/-- `valueError` is an integer of too many digits. -/
inductive LoadsError where
  | jsonDecodeError
  | recursionError
  | valueError (digits : Nat)
deriving DecidableEq, Repr

/-- A value and what comes after it. -/
abbrev Scanned (Value : Type) := Value × List Char

def malformed {Value : Type} : Except LoadsError Value := .error .jsonDecodeError

/-- Whitespace of a document. -/
def isBlank (letter : Char) : Bool := letter ∈ [' ', '\t', '\n', '\r']

def skip (letters : List Char) : List Char := letters.dropWhile isBlank

/-- The escapes of one letter. -/
def backslash (letter : Char) : Option Nat :=
  if letter = '\x22' then some 0x22
  else if letter = '\\' then some 0x5c
  else if letter = '/' then some 0x2f
  else if letter = 'b' then some 0x08
  else if letter = 'f' then some 0x0c
  else if letter = 'n' then some 0x0a
  else if letter = 'r' then some 0x0d
  else if letter = 't' then some 0x09
  else none

/-- `_decode_uXXXX`. -/
def decodeHex (first second third fourth : Char) : Option Nat := do
  let first ← hexDigit first
  let second ← hexDigit second
  let third ← hexDigit third
  let fourth ← hexDigit fourth
  return 4096 * first + 256 * second + 16 * third + fourth

/-- The code units of a string up to its closing quote. -/
def scanUnits : List Char → Except LoadsError (Scanned (List Nat))
  | [] => malformed
  | letter :: rest =>
      if letter = '\x22' then .ok ([], rest)
      else if letter = '\\' then
        match rest with
        | 'u' :: first :: second :: third :: fourth :: rest =>
            match decodeHex first second third fourth with
            | some unit => (scanUnits rest).map fun (units, rest) => (unit :: units, rest)
            | none => malformed
        | letter :: rest =>
            match backslash letter with
            | some unit => (scanUnits rest).map fun (units, rest) => (unit :: units, rest)
            | none => malformed
        | [] => malformed
      else if letter.toNat < 0x20 then malformed
      else (scanUnits rest).map fun (units, rest) => (letter.toNat :: units, rest)

/-- The letters of code units, where two surrogates are one letter. -/
def joinSurrogates : List Nat → Except LoadsError (List Char)
  | [] => .ok []
  | unit :: rest =>
      if 0xd800 ≤ unit ∧ unit ≤ 0xdbff then
        match rest with
        | low :: rest =>
            if 0xdc00 ≤ low ∧ low ≤ 0xdfff then
              (joinSurrogates rest).map
                (Char.ofNat (0x10000 + 0x400 * (unit - 0xd800) + (low - 0xdc00)) :: ·)
            else malformed
        | [] => malformed
      else if 0xdc00 ≤ unit ∧ unit ≤ 0xdfff then malformed
      else (joinSurrogates rest).map (Char.ofNat unit :: ·)

/-- The integer part of a number; `none` without one. -/
def integerPart : List Char → Option (List Char × List Char)
  | '0' :: rest => some (['0'], rest)
  | letters =>
      match letters.span Char.isDigit with
      | ([], _) => none
      | (digits, rest) => some (digits, rest)

def signedPart : List Char → Option (List Char × List Char)
  | '-' :: rest => (integerPart rest).map fun (digits, rest) => ('-' :: digits, rest)
  | letters => integerPart letters

/-- The fraction of a number, empty without one. -/
def fractionPart : List Char → List Char × List Char
  | '.' :: rest =>
      match rest.span Char.isDigit with
      | ([], _) => ([], '.' :: rest)
      | (digits, rest) => ('.' :: digits, rest)
  | letters => ([], letters)

def exponentPart : List Char → List Char × List Char
  | [] => ([], [])
  | letter :: rest =>
      if letter = 'e' ∨ letter = 'E' then
        let (sign, digitsOn) :=
          match rest with
          | '+' :: more => (['+'], more)
          | '-' :: more => (['-'], more)
          | more => ([], more)
        match digitsOn.span Char.isDigit with
        | ([], _) => ([], letter :: rest)
        | (digits, rest) => (letter :: sign ++ digits, rest)
      else ([], letter :: rest)

/-- The items of an array after its opening bracket, from the first one on. -/
def scanItems {Value : Type} (scan : List Char → Except LoadsError (Scanned Value))
    (closing : Char) : Nat → List Char → Except LoadsError (Scanned (List Value))
  | 0, _ => malformed
  | fuel + 1, letters => do
      let (item, rest) ← scan letters
      match skip rest with
      | ',' :: rest => do
          let (items, rest) ← scanItems scan closing fuel (skip rest)
          return (item :: items, rest)
      | letter :: rest => if letter = closing then .ok ([item], rest) else malformed
      | [] => malformed

/-- The values of an array or an object, none when it closes at once. -/
def scanAll {Value : Type} (scan : List Char → Except LoadsError (Scanned Value))
    (closing : Char) (letters : List Char) : Except LoadsError (Scanned (List Value)) :=
  match skip letters with
  | [] => malformed
  | letter :: rest =>
      if letter = closing then .ok ([], rest)
      else scanItems scan closing letters.length (letter :: rest)

/-- `pairs[name] = value`. -/
def assign {Text Value : Type} [DecidableEq Text] (pairs : List (Text × Value))
    (pair : Text × Value) : List (Text × Value) :=
  if pair.1 ∈ pairs.map Prod.fst then
    pairs.map fun old => if old.1 = pair.1 then pair else old
  else pairs ++ [pair]

/-- What a decoder makes of the parts of a document: of the code units of a string, of the letters
of a number or a constant, and of what is inside an array or an object. -/
structure Decoder (Text Value : Type) where
  text : List Nat → Except LoadsError Text
  parseInt : List Char → Except LoadsError Value
  parseFloat : List Char → Value
  parseConstant : String → Value
  null : Value
  bool : Bool → Value
  str : Text → Value
  list : List Value → Value
  dict : List (Text × Value) → Value

namespace Decoder

variable {Text Value : Type} (decoder : Decoder Text Value)

/-- `scanstring`, after the opening quote. -/
def scanString (letters : List Char) : Except LoadsError (Scanned Text) := do
  let (units, rest) ← scanUnits letters
  let text ← decoder.text units
  return (text, rest)

/-- `NUMBER_RE` and what is made of its match. -/
def matchNumber (letters : List Char) : Except LoadsError (Scanned Value) :=
  match signedPart letters with
  | none => malformed
  | some (integer, rest) =>
      let (fraction, rest) := fractionPart rest
      let (exponent, rest) := exponentPart rest
      if fraction = [] ∧ exponent = [] then
        (decoder.parseInt integer).map fun value => (value, rest)
      else .ok (decoder.parseFloat (integer ++ fraction ++ exponent), rest)

/-- A member of an object: a quoted name, a colon and a value. -/
def scanMember (scan : List Char → Except LoadsError (Scanned Value)) (letters : List Char) :
    Except LoadsError (Scanned (Text × Value)) :=
  match letters with
  | '\x22' :: rest => do
      let (name, rest) ← decoder.scanString rest
      match skip rest with
      | ':' :: rest => do
          let (value, rest) ← scan (skip rest)
          return ((name, value), rest)
      | _ => malformed
  | _ => malformed

variable [DecidableEq Text]

/-- `scan_once`, with the scanner for what is inside an array or an object if the recursion goes on
to it. -/
def scanWith (inner : Option (List Char → Except LoadsError (Scanned Value)))
    (letters : List Char) : Except LoadsError (Scanned Value) :=
  match letters with
  | '\x22' :: rest => (decoder.scanString rest).map fun (text, rest) => (decoder.str text, rest)
  | '\x7b' :: rest =>
      match inner with
      | none => .error .recursionError
      | some scan => (scanAll (decoder.scanMember scan) '\x7d' rest).map fun (pairs, rest) =>
          (decoder.dict (pairs.foldl assign []), rest)
  | '[' :: rest =>
      match inner with
      | none => .error .recursionError
      | some scan => (scanAll scan ']' rest).map fun (items, rest) => (decoder.list items, rest)
  | 'n' :: 'u' :: 'l' :: 'l' :: rest => .ok (decoder.null, rest)
  | 't' :: 'r' :: 'u' :: 'e' :: rest => .ok (decoder.bool true, rest)
  | 'f' :: 'a' :: 'l' :: 's' :: 'e' :: rest => .ok (decoder.bool false, rest)
  | 'N' :: 'a' :: 'N' :: rest => .ok (decoder.parseConstant "NaN", rest)
  | 'I' :: 'n' :: 'f' :: 'i' :: 'n' :: 'i' :: 't' :: 'y' :: rest =>
      .ok (decoder.parseConstant "Infinity", rest)
  | '-' :: 'I' :: 'n' :: 'f' :: 'i' :: 'n' :: 'i' :: 't' :: 'y' :: rest =>
      .ok (decoder.parseConstant "-Infinity", rest)
  | letters => decoder.matchNumber letters

/-- Arrays and objects up to `depth` deep. -/
def scanOnce : Nat → List Char → Except LoadsError (Scanned Value)
  | 0 => decoder.scanWith none
  | depth + 1 => decoder.scanWith (some (scanOnce depth))

def loads (depth : Nat) (text : String) : Except LoadsError Value := do
  let (value, rest) ← decoder.scanOnce depth (skip text.toList)
  if skip rest = [] then .ok value else malformed

end Decoder

section Built

open Machine (bind_ok)

theorem map_ok {Value Other : Type} {result : Except LoadsError Value} {change : Value → Other}
    {other : Other} :
    result.map change = .ok other ↔ ∃ value, result = .ok value ∧ change value = other := by
  cases result with
  | error error => simp [Except.map]
  | ok value => simp [Except.map]

section Sequences

variable {Value : Type} {scan : List Char → Except LoadsError (Scanned Value)}
  {motive : Value → Prop} {letters rest : List Char} {closing : Char}

theorem scanItems_all (each : ∀ letters item rest, scan letters = .ok (item, rest) → motive item)
    {fuel : Nat} {items : List Value}
    (scanned : scanItems scan closing fuel letters = .ok (items, rest)) :
    ∀ item ∈ items, motive item := by
  induction fuel generalizing letters items rest with
  | zero => cases scanned
  | succ fuel ih =>
      obtain ⟨⟨item, later⟩, first, next⟩ := bind_ok.mp scanned
      have here := each _ _ _ first
      dsimp only at next
      split at next
      · obtain ⟨⟨others, last⟩, onward, same⟩ := bind_ok.mp next
        obtain ⟨rfl, -⟩ := Prod.mk.inj (Except.ok.inj same)
        exact List.forall_mem_cons.mpr ⟨here, ih onward⟩
      · split at next
        · obtain ⟨rfl, -⟩ := Prod.mk.inj (Except.ok.inj next)
          exact List.forall_mem_singleton.mpr here
        · cases next
      · cases next

theorem scanAll_all (each : ∀ letters item rest, scan letters = .ok (item, rest) → motive item)
    {items : List Value} (scanned : scanAll scan closing letters = .ok (items, rest)) :
    ∀ item ∈ items, motive item := by
  unfold scanAll at scanned
  split at scanned
  · cases scanned
  · split at scanned
    · obtain ⟨rfl, -⟩ := Prod.mk.inj (Except.ok.inj scanned)
      nofun
    · exact scanItems_all each scanned

end Sequences

theorem assign_all {Text Value : Type} [DecidableEq Text] {motive : Value → Prop}
    {pairs rest : List (Text × Value)} (held : ∀ pair ∈ pairs, motive pair.2)
    (more : ∀ pair ∈ rest, motive pair.2) : ∀ pair ∈ rest.foldl assign pairs, motive pair.2 := by
  induction rest generalizing pairs with
  | nil => exact held
  | cons pair rest ih =>
      obtain ⟨here, later⟩ := List.forall_mem_cons.mp more
      refine ih ?_ later
      unfold assign
      split
      · intro new member
        obtain ⟨old, inside, rfl⟩ := List.mem_map.mp member
        split
        · exact here
        · exact held old inside
      · exact List.forall_mem_append.mpr ⟨held, List.forall_mem_singleton.mpr here⟩

namespace Decoder

variable {Text Value : Type} {decoder : Decoder Text Value} {letters rest : List Char}

/-- What holds of every value that a decoder makes, `depth` arrays and objects deep. -/
structure Builds (decoder : Decoder Text Value) (motive : Nat → Value → Prop) : Prop where
  null : ∀ depth, motive depth decoder.null
  bool : ∀ depth value, motive depth (decoder.bool value)
  str : ∀ depth text, motive depth (decoder.str text)
  int : ∀ depth letters value, decoder.parseInt letters = .ok value → motive depth value
  float : ∀ depth letters, motive depth (decoder.parseFloat letters)
  constant : ∀ depth text, motive depth (decoder.parseConstant text)
  list : ∀ depth items, (∀ item ∈ items, motive depth item) →
    motive (depth + 1) (decoder.list items)
  dict : ∀ depth entries, (∀ entry ∈ entries, motive depth entry.2) →
    motive (depth + 1) (decoder.dict entries)

variable {motive : Nat → Value → Prop}

theorem Builds.matchNumber (builds : Builds decoder motive) (depth : Nat) {value : Value}
    (scanned : decoder.matchNumber letters = .ok (value, rest)) : motive depth value := by
  unfold Decoder.matchNumber at scanned
  split at scanned
  · cases scanned
  · dsimp only at scanned
    split at scanned
    · obtain ⟨number, parsed, same⟩ := map_ok.mp scanned
      obtain ⟨rfl, -⟩ := Prod.mk.inj same
      exact builds.int depth _ _ parsed
    · obtain ⟨rfl, -⟩ := Prod.mk.inj (Except.ok.inj scanned)
      exact builds.float depth _

theorem scanMember_all {scan : List Char → Except LoadsError (Scanned Value)}
    {property : Value → Prop}
    (each : ∀ letters item rest, scan letters = .ok (item, rest) → property item)
    {member : Text × Value} (scanned : decoder.scanMember scan letters = .ok (member, rest)) :
    property member.2 := by
  unfold Decoder.scanMember at scanned
  split at scanned
  · obtain ⟨⟨name, later⟩, -, next⟩ := bind_ok.mp scanned
    dsimp only at next
    split at next
    · obtain ⟨⟨value, last⟩, found, same⟩ := bind_ok.mp next
      obtain ⟨rfl, -⟩ := Prod.mk.inj (Except.ok.inj same)
      exact each _ _ _ found
    · cases next
  · cases scanned

variable [DecidableEq Text]

theorem Builds.scanWith (builds : Builds decoder motive) {depth : Nat}
    {inner : Option (List Char → Except LoadsError (Scanned Value))}
    (deeper : ∀ scan ∈ inner, ∃ less, depth = less + 1 ∧
      ∀ letters item rest, scan letters = .ok (item, rest) → motive less item)
    {value : Value} (scanned : decoder.scanWith inner letters = .ok (value, rest)) :
    motive depth value := by
  unfold Decoder.scanWith at scanned
  split at scanned
  · obtain ⟨pair, -, same⟩ := map_ok.mp scanned
    obtain ⟨rfl, -⟩ := Prod.mk.inj same
    exact builds.str depth _
  · split at scanned
    · cases scanned
    · rename_i scan
      obtain ⟨less, rfl, each⟩ := deeper scan rfl
      obtain ⟨pair, found, same⟩ := map_ok.mp scanned
      obtain ⟨rfl, -⟩ := Prod.mk.inj same
      exact builds.dict less _
        (assign_all nofun (scanAll_all (fun _ _ _ => scanMember_all each) found))
  · split at scanned
    · cases scanned
    · rename_i scan
      obtain ⟨less, rfl, each⟩ := deeper scan rfl
      obtain ⟨pair, found, same⟩ := map_ok.mp scanned
      obtain ⟨rfl, -⟩ := Prod.mk.inj same
      exact builds.list less _ (scanAll_all each found)
  · obtain ⟨rfl, -⟩ := Prod.mk.inj (Except.ok.inj scanned)
    exact builds.null depth
  · obtain ⟨rfl, -⟩ := Prod.mk.inj (Except.ok.inj scanned)
    exact builds.bool depth true
  · obtain ⟨rfl, -⟩ := Prod.mk.inj (Except.ok.inj scanned)
    exact builds.bool depth false
  · obtain ⟨rfl, -⟩ := Prod.mk.inj (Except.ok.inj scanned)
    exact builds.constant depth _
  · obtain ⟨rfl, -⟩ := Prod.mk.inj (Except.ok.inj scanned)
    exact builds.constant depth _
  · obtain ⟨rfl, -⟩ := Prod.mk.inj (Except.ok.inj scanned)
    exact builds.constant depth _
  · exact builds.matchNumber depth scanned

theorem Builds.scanOnce (builds : Builds decoder motive) {depth : Nat} {value : Value}
    (scanned : decoder.scanOnce depth letters = .ok (value, rest)) : motive depth value := by
  induction depth generalizing letters rest value with
  | zero => exact builds.scanWith (fun _ absent => absurd absent (Option.not_mem_none _)) scanned
  | succ depth ih =>
      refine builds.scanWith (fun scan inside => ⟨depth, rfl, ?_⟩) scanned
      obtain rfl := Option.some.inj inside
      exact fun _ _ _ => ih

theorem Builds.loads (builds : Builds decoder motive) {depth : Nat} {text : String} {value : Value}
    (loaded : decoder.loads depth text = .ok value) : motive depth value := by
  obtain ⟨⟨found, rest⟩, scanned, ended⟩ := bind_ok.mp loaded
  dsimp only at ended
  split at ended
  · rw [← Except.ok.inj ended]
    exact builds.scanOnce scanned
  · cases ended

end Decoder

end Built
section Python

abbrev Pairs := List (String × PyValue)

-- `floatRepr` is `repr(float(text))`.
variable (floatRepr : String → String)

/-- The values that `json.dumps` writes. A lone surrogate, which no text of theirs holds, is
refused. -/
def pyDecoder : Decoder String PyValue where
  text units := (joinSurrogates units).map String.ofList
  parseInt integer :=
    let digits := (integer.filter Char.isDigit).length
    if 4300 < digits then .error (.valueError digits)
    else .ok (.int ((String.ofList integer).toInt?.getD 0))
  parseFloat letters := .float (floatRepr (String.ofList letters))
  parseConstant := .float
  null := .none
  bool := .bool
  str := .str
  list := .list
  dict := Sse.fields

def scanOnce : Nat → List Char → Except LoadsError (Scanned PyValue) :=
  (pyDecoder floatRepr).scanOnce

def loads (depth : Nat) (text : String) : Except LoadsError PyValue :=
  (pyDecoder floatRepr).loads depth text

end Python

end AiPlatform.JsonDecoder

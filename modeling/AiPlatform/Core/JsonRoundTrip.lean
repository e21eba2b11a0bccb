import Std.Data.String.ToInt
import AiPlatform.Core.ApiKeyFormat
import AiPlatform.Core.JsonDecoder
import AiPlatform.Lib.Joined

set_option autoImplicit false

/- `json.loads` reads back what `json.dumps` writes. -/
namespace AiPlatform.JsonDecoder

open Sse (PyValue escapeChar unicodeEscape hexDigits)

variable {floatRepr : String → String}

section Strings

/-- The code units that a letter is escaped as. -/
def unitsOf (letter : Char) : List Nat :=
  if letter.toNat < 0x10000 then [letter.toNat]
  else [0xd800 + (letter.toNat - 0x10000) / 0x400, 0xdc00 + (letter.toNat - 0x10000) % 0x400]

theorem char_range (letter : Char) :
    letter.toNat < 0xd800 ∨ 0xdfff < letter.toNat ∧ letter.toNat < 0x110000 := letter.valid

theorem decodeHex_hexDigits {code : Nat} (small : code < 0x10000) :
    ∃ first second third fourth, hexDigits code = [first, second, third, fourth] ∧
      decodeHex first second third fourth = some code := by
  refine ⟨_, _, _, _, rfl, ?_⟩
  have digit : ∀ value : Nat, Identity.hexDigit (Nat.digitChar (value % 16)) = some (value % 16) :=
    fun value => (Identity.hexDigit_digitChar (value % 16) (by omega)).1
  simp only [decodeHex, digit, Option.bind_eq_bind, Option.bind_some, Option.pure_def,
    Option.some.injEq]
  omega

theorem scanUnits_hex {code : Nat} (small : code < 0x10000) (rest : List Char) :
    scanUnits ('\\' :: 'u' :: hexDigits code ++ rest) =
      (scanUnits rest).map fun (units, rest) => (code :: units, rest) := by
  obtain ⟨first, second, third, fourth, digits, decoded⟩ := decodeHex_hexDigits small
  rw [digits]
  simp [scanUnits, decoded]

/-- A letter is scanned as its code units, however it was escaped. -/
theorem scanUnits_escapeChar (letter : Char) (rest : List Char) :
    scanUnits (escapeChar letter ++ rest) =
      (scanUnits rest).map fun (units, rest) => (unitsOf letter ++ units, rest) := by
  have range := char_range letter
  unfold escapeChar
  split_ifs with quote slash newline return_ tab feed back plain
  · subst quote
    simp [scanUnits, backslash, unitsOf]
  · subst slash
    simp [scanUnits, backslash, unitsOf]
  · subst newline
    simp [scanUnits, backslash, unitsOf]
  · subst return_
    simp [scanUnits, backslash, unitsOf]
  · subst tab
    simp [scanUnits, backslash, unitsOf]
  · simp [scanUnits, backslash, unitsOf, feed]
  · simp [scanUnits, backslash, unitsOf, back]
  · have basic : letter.toNat < 0x10000 := by omega
    have printed : ¬letter.toNat < 0x20 := by omega
    rw [List.singleton_append, scanUnits.eq_def]
    simp [unitsOf, quote, slash, printed, basic]
  · unfold unicodeEscape unitsOf
    by_cases basic : letter.toNat < 0x10000
    · rw [if_pos basic, if_pos basic]
      exact scanUnits_hex basic rest
    · rw [if_neg basic, if_neg basic, List.append_assoc]
      -- The two surrogates are escaped one after the other.
      rw [scanUnits_hex (by omega), scanUnits_hex (by omega)]
      cases scanUnits rest <;> rfl

theorem joinSurrogates_unitsOf (letter : Char) (rest : List Nat) :
    joinSurrogates (unitsOf letter ++ rest) = (joinSurrogates rest).map (letter :: ·) := by
  have range := char_range letter
  unfold unitsOf
  by_cases basic : letter.toNat < 0x10000
  · have high : ¬(0xd800 ≤ letter.toNat ∧ letter.toNat ≤ 0xdbff) := by omega
    have low : ¬(0xdc00 ≤ letter.toNat ∧ letter.toNat ≤ 0xdfff) := by omega
    rw [if_pos basic, List.singleton_append, joinSurrogates.eq_def]
    simp only [if_neg high, if_neg low, Char.ofNat_toNat]
  · have high : 0xd800 ≤ 0xd800 + (letter.toNat - 0x10000) / 0x400 ∧
        0xd800 + (letter.toNat - 0x10000) / 0x400 ≤ 0xdbff := by omega
    have low : 0xdc00 ≤ 0xdc00 + (letter.toNat - 0x10000) % 0x400 ∧
        0xdc00 + (letter.toNat - 0x10000) % 0x400 ≤ 0xdfff := by omega
    have code : 0x10000 + 0x400 * (0xd800 + (letter.toNat - 0x10000) / 0x400 - 0xd800) +
        (0xdc00 + (letter.toNat - 0x10000) % 0x400 - 0xdc00) = letter.toNat := by omega
    rw [if_neg basic, List.cons_append, joinSurrogates.eq_def]
    simp only [if_pos high, List.cons_append, List.nil_append]
    rw [if_pos low, code, Char.ofNat_toNat]

/-- The body of a string literal is scanned as the text. -/
theorem scanString_escaped (text : String) (rest : List Char) :
    (pyDecoder floatRepr).scanString (text.toList.flatMap escapeChar ++ '\x22' :: rest) =
      .ok (text, rest) := by
  have units : ∀ letters : List Char, scanUnits (letters.flatMap escapeChar ++ '\x22' :: rest) =
      .ok (letters.flatMap unitsOf, rest) := by
    intro letters
    induction letters with
    | nil =>
        show scanUnits ('\x22' :: rest) = _
        rw [scanUnits.eq_def]
        rfl
    | cons letter letters ih =>
        rw [List.flatMap_cons, List.append_assoc, scanUnits_escapeChar, ih]
        rfl
  have joined : ∀ letters : List Char,
      joinSurrogates (letters.flatMap unitsOf) = .ok letters := by
    intro letters
    induction letters with
    | nil => rfl
    | cons letter letters ih =>
        rw [List.flatMap_cons, joinSurrogates_unitsOf, ih]
        rfl
  rw [Decoder.scanString, units]
  show ((joinSurrogates _).map String.ofList).bind _ = _
  rw [joined]
  show Except.ok (String.ofList text.toList, rest) = _
  rw [String.ofList_toList]

end Strings

section Numbers

/-- Digits, one at least. -/
def Digits (letters : List Char) : Prop := letters ≠ [] ∧ ∀ letter ∈ letters, letter.isDigit = true

/-- An integer part without a leading zero. -/
def IntegerPart (letters : List Char) : Prop :=
  letters = ['0'] ∨ Digits letters ∧ letters.head? ≠ some '0'

/-- What `float.__repr__` writes of a finite number: with a fraction, an exponent or both. -/
structure FloatText (text : String) : Prop where
  parts : ∃ sign integer fraction exponent, text.toList = sign ++ integer ++ fraction ++ exponent ∧
    (sign = [] ∨ sign = ['-']) ∧ IntegerPart integer ∧
    (fraction = [] ∨ ∃ digits, Digits digits ∧ fraction = '.' :: digits) ∧
    (exponent = [] ∨ ∃ sign digits, (sign = ['+'] ∨ sign = ['-']) ∧ Digits digits ∧
      exponent = 'e' :: (sign ++ digits)) ∧
    (fraction ≠ [] ∨ exponent ≠ [])

/-- What comes next does not go on with a number. -/
def Stops (rest : List Char) : Prop :=
  ∀ letter ∈ rest.head?, letter.isDigit = false ∧ letter ≠ '.' ∧ letter ≠ 'e' ∧ letter ≠ 'E'

theorem span_digits {digits rest : List Char} (all : ∀ letter ∈ digits, letter.isDigit = true)
    (stop : ∀ letter ∈ rest.head?, letter.isDigit = false) :
    (digits ++ rest).span Char.isDigit = (digits, rest) := by
  have none : rest.takeWhile Char.isDigit = [] ∧ rest.dropWhile Char.isDigit = rest := by
    cases rest with
    | nil => exact ⟨rfl, rfl⟩
    | cons letter rest => simp [stop letter rfl]
  rw [List.span_eq_takeWhile_dropWhile, List.takeWhile_append_of_pos all,
    List.dropWhile_append_of_pos all, none.1, none.2, List.append_nil]

theorem integerPart_append {integer rest : List Char} (integerText : IntegerPart integer)
    (stop : ∀ letter ∈ rest.head?, letter.isDigit = false) :
    integerPart (integer ++ rest) = some (integer, rest) := by
  rcases integerText with rfl | ⟨⟨filled, digits⟩, leading⟩
  · rfl
  · obtain ⟨first, more, rfl⟩ := List.exists_cons_of_ne_nil filled
    have other : first ≠ '0' := by
      rintro rfl
      exact leading rfl
    have found := span_digits digits stop
    rw [List.cons_append] at found ⊢
    rw [integerPart.eq_def]
    split
    · rename_i same
      exact absurd (List.cons.inj same).1 other
    · rw [found]

theorem IntegerPart.first {integer : List Char} (integerText : IntegerPart integer) :
    ∃ first more, integer = first :: more ∧ first.isDigit = true := by
  rcases integerText with rfl | ⟨⟨filled, digits⟩, -⟩
  · exact ⟨'0', [], rfl, rfl⟩
  · obtain ⟨first, more, rfl⟩ := List.exists_cons_of_ne_nil filled
    exact ⟨first, more, rfl, digits first List.mem_cons_self⟩

theorem signedPart_append {sign integer rest : List Char} (signText : sign = [] ∨ sign = ['-'])
    (integerText : IntegerPart integer) (stop : ∀ letter ∈ rest.head?, letter.isDigit = false) :
    signedPart (sign ++ integer ++ rest) = some (sign ++ integer, rest) := by
  have found := integerPart_append integerText stop
  rcases signText with rfl | rfl
  · rw [List.nil_append, signedPart.eq_def]
    split
    · rename_i same
      obtain ⟨first, more, rfl, digit⟩ := integerText.first
      rw [(List.cons.inj same).1] at digit
      cases digit
    · exact found
  · simp [signedPart, found]

theorem fractionPart_append {fraction rest : List Char}
    (fractionText : fraction = [] ∨ ∃ digits, Digits digits ∧ fraction = '.' :: digits)
    (stop : ∀ letter ∈ rest.head?, letter.isDigit = false ∧ letter ≠ '.') :
    fractionPart (fraction ++ rest) = (fraction, rest) := by
  rcases fractionText with rfl | ⟨digits, ⟨filled, all⟩, rfl⟩
  · rw [List.nil_append, fractionPart.eq_def]
    split
    · exact absurd rfl (stop '.' rfl).2
    · rfl
  · have found := span_digits all fun letter first => (stop letter first).1
    rw [List.cons_append, fractionPart, found]
    cases digits with
    | nil => exact absurd rfl filled
    | cons digit digits => rfl

theorem exponentPart_append {exponent rest : List Char}
    (exponentText : exponent = [] ∨ ∃ sign digits, (sign = ['+'] ∨ sign = ['-']) ∧ Digits digits ∧
      exponent = 'e' :: (sign ++ digits)) (stop : Stops rest) :
    exponentPart (exponent ++ rest) = (exponent, rest) := by
  rcases exponentText with rfl | ⟨sign, digits, signText, ⟨filled, all⟩, rfl⟩
  · cases rest with
    | nil => rfl
    | cons letter rest =>
        have ⟨_, _, lower, upper⟩ := stop letter rfl
        simp [exponentPart, lower, upper]
  · have found := span_digits all fun letter first => (stop letter first).1
    cases digits with
    | nil => exact absurd rfl filled
    | cons digit digits =>
        rcases signText with rfl | rfl
        · simp only [List.cons_append, List.nil_append, exponentPart, true_or, if_true] at found ⊢
          rw [found]
        · simp only [List.cons_append, List.nil_append, exponentPart, true_or, if_true] at found ⊢
          rw [found]

/-- A decimal numeral has no leading zero. -/
theorem toDigits_integerPart (number : Nat) : IntegerPart (Nat.toDigits 10 number) := by
  have digits : Digits (Nat.toDigits 10 number) :=
    ⟨Nat.toDigits_ne_nil, fun letter member =>
      Nat.isDigit_of_mem_toDigits (by omega) (by omega) member⟩
  by_cases zero : number = 0
  · exact .inl (by rw [zero, Nat.toDigits_zero])
  · refine .inr ⟨digits, ?_⟩
    clear digits
    induction number using Nat.strong_induction_on with
    | _ number ih =>
        by_cases small : number < 10
        · simp [Nat.toDigits_of_lt_base small, zero]
        · have shorter := ih (number / 10) (by omega) (by omega)
          rw [Nat.toDigits_of_base_le (by omega) (by omega), List.head?_append_of_ne_nil]
          · exact shorter
          · exact Nat.toDigits_ne_nil

theorem toString_parts (value : Int) : ∃ sign, (sign = [] ∨ sign = ['-']) ∧
    (toString value).toList = sign ++ Nat.toDigits 10 value.natAbs := by
  cases value with
  | ofNat number => exact ⟨[], .inl rfl, Nat.toList_repr⟩
  | negSucc number =>
      refine ⟨['-'], .inr rfl, ?_⟩
      show ("-" ++ Nat.repr (number + 1)).toList = _
      rw [String.toList_append, Nat.toList_repr]
      rfl

/-- The sign is no digit. -/
theorem filter_digits {sign : List Char} (signText : sign = [] ∨ sign = ['-']) (number : Nat) :
    (sign ++ Nat.toDigits 10 number).filter Char.isDigit = Nat.toDigits 10 number := by
  have unsigned : sign.filter Char.isDigit = [] := by
    rcases signText with rfl | rfl <;> rfl
  rw [List.filter_append, unsigned, List.nil_append, List.filter_eq_self]
  exact fun letter member => Nat.isDigit_of_mem_toDigits (by omega) (by omega) member

theorem matchNumber_int {value : Int} (printable : Text.Printable value) {rest : List Char}
    (stop : Stops rest) :
    (pyDecoder floatRepr).matchNumber ((toString value).toList ++ rest) =
      .ok (.int value, rest) := by
  have ⟨sign, signText, shape⟩ := toString_parts value
  have integerText := toDigits_integerPart value.natAbs
  have fraction := fractionPart_append (.inl rfl) fun letter first =>
    ⟨(stop letter first).1, (stop letter first).2.1⟩
  have exponent := exponentPart_append (.inl rfl) stop
  have read : (toString value).toInt? = some value := Int.toInt?_repr value
  rw [List.nil_append] at fraction exponent
  rw [shape, Decoder.matchNumber, signedPart_append signText integerText fun letter first =>
    (stop letter first).1]
  simp only [fraction, exponent, and_self, if_true, pyDecoder, filter_digits signText]
  rw [if_neg (Nat.not_lt.mpr printable), ← shape, String.ofList_toList, read]
  rfl

theorem matchNumber_float (floatRepr : String → String) {text : String}
    (number : FloatText text) {rest : List Char} (stop : Stops rest) :
    (pyDecoder floatRepr).matchNumber (text.toList ++ rest) =
      .ok (.float (floatRepr text), rest) := by
  obtain ⟨sign, integer, fraction, exponent, shape, signText, integerText, fractionText,
    exponentText, pointed⟩ := number.parts
  have exponentRead := exponentPart_append exponentText stop
  have exponentStop :
      ∀ letter ∈ (exponent ++ rest).head?, letter.isDigit = false ∧ letter ≠ '.' := by
    rcases exponentText with rfl | ⟨_, _, _, _, rfl⟩
    · exact fun letter first => ⟨(stop letter first).1, (stop letter first).2.1⟩
    · intro letter first
      obtain rfl := Option.some.inj first
      decide
  have fractionStop :
      ∀ letter ∈ (fraction ++ (exponent ++ rest)).head?, letter.isDigit = false := by
    rcases fractionText with rfl | ⟨_, _, rfl⟩
    · exact fun letter first => (exponentStop letter first).1
    · intro letter first
      obtain rfl := Option.some.inj first
      decide
  have whole : text.toList ++ rest = sign ++ integer ++ (fraction ++ (exponent ++ rest)) := by
    rw [shape]
    simp only [List.append_assoc]
  have written : ¬(fraction = [] ∧ exponent = []) := by
    rintro ⟨rfl, rfl⟩
    simp at pointed
  rw [whole, Decoder.matchNumber, signedPart_append signText integerText fractionStop]
  simp only [fractionPart_append fractionText exponentStop, exponentRead, if_neg written,
    pyDecoder]
  rw [← shape, String.ofList_toList]

theorem scanWith_number (floatRepr : String → String)
    (inner : Option (List Char → Except LoadsError (Scanned PyValue))) {sign integer : List Char}
    (signText : sign = [] ∨ sign = ['-']) (integerText : IntegerPart integer) (rest : List Char) :
    (pyDecoder floatRepr).scanWith inner (sign ++ integer ++ rest) =
      (pyDecoder floatRepr).matchNumber (sign ++ integer ++ rest) := by
  obtain ⟨first, more, rfl, digit⟩ := integerText.first
  have other : ∀ letter : Char, letter.isDigit = false → first ≠ letter := by
    rintro letter plain rfl
    rw [digit] at plain
    cases plain
  rcases signText with rfl | rfl
  · simp [Decoder.scanWith, other]
  · simp [Decoder.scanWith, other]

end Numbers

section Sequences

variable {Value : Type} {scan : List Char → Except LoadsError (Scanned Value)}

/-- The text of a value begins with a letter that is no blank and closes nothing. -/
def Opens (text : List Char) : Prop :=
  ∃ letter rest, text = letter :: rest ∧ isBlank letter = false ∧ letter ≠ ']' ∧ letter ≠ '\x7d'

/-- The text is scanned as the value, whatever comes next. -/
structure Reads (scan : List Char → Except LoadsError (Scanned Value)) (value : Value)
    (text : List Char) : Prop where
  opens : Opens text
  reads : ∀ rest, Stops rest → scan (text ++ rest) = .ok (value, rest)

theorem Opens.skip {text : List Char} (opens : Opens text) (rest : List Char) :
    skip (text ++ rest) = text ++ rest := by
  obtain ⟨letter, more, rfl, other, -⟩ := opens
  simp [JsonDecoder.skip, other]

theorem stops_of_mark {letter : Char} (mark : letter ∈ [',', ']', '\x7d', ':']) (rest : List Char) :
    Stops (letter :: rest) := by
  intro other first
  obtain rfl := Option.some.inj first
  simp only [List.mem_cons, List.not_mem_nil, or_false] at mark
  rcases mark with rfl | rfl | rfl | rfl <;> decide

theorem scanItems_more {closing : Char} {letters more rest : List Char} {item : Value}
    {items : List Value} {fuel : Nat} (first : scan letters = .ok (item, ',' :: ' ' :: more))
    (opens : skip more = more) (onward : scanItems scan closing fuel more = .ok (items, rest)) :
    scanItems scan closing (fuel + 1) letters = .ok (item :: items, rest) := by
  have next : skip (' ' :: more) = more := opens
  rw [scanItems, first]
  show (scanItems scan closing fuel (skip (' ' :: more))).bind
    (fun scanned => .ok (item :: scanned.1, scanned.2)) = _
  rw [next, onward]
  rfl

theorem scanItems_last {closing : Char} (mark : closing = ']' ∨ closing = '\x7d')
    {letters rest : List Char} {item : Value} (fuel : Nat)
    (first : scan letters = .ok (item, closing :: rest)) :
    scanItems scan closing (fuel + 1) letters = .ok ([item], rest) := by
  rw [scanItems, first]
  rcases mark with rfl | rfl <;> rfl

/-- Items with a comma and a blank between them, and the bracket after the last one. -/
theorem scanItems_joined {closing : Char} (mark : closing = ']' ∨ closing = '\x7d')
    {values : List Value} {texts : List String}
    (each : List.Forall₂ (fun value text => Reads scan value text.toList) values texts)
    (filled : texts ≠ []) {fuel : Nat} (enough : texts.length ≤ fuel) (rest : List Char) :
    Opens (", ".intercalate texts).toList ∧
      scanItems scan closing fuel ((", ".intercalate texts).toList ++ closing :: rest) =
        .ok (values, rest) := by
  have closes : Stops (closing :: rest) := by
    rcases mark with rfl | rfl <;> exact stops_of_mark (by decide) rest
  induction each generalizing fuel with
  | nil => exact absurd rfl filled
  | @cons value text values texts here later ih =>
      obtain ⟨fuel, rfl⟩ : ∃ more, fuel = more + 1 := ⟨fuel - 1, by simp at enough; omega⟩
      cases later with
      | nil =>
          rw [String.intercalate_singleton]
          exact ⟨here.opens, scanItems_last mark fuel (here.reads _ closes)⟩
      | @cons next nextText values texts _ _ =>
          obtain ⟨opens, onward⟩ := ih (by simp) (Nat.le_of_succ_le_succ enough)
          have first := here.reads (',' :: ' ' ::
            ((", ".intercalate (nextText :: texts)).toList ++ closing :: rest))
            (stops_of_mark (by decide) _)
          have whole : (", ".intercalate (text :: nextText :: texts)).toList ++ closing :: rest =
              text.toList ++ ',' :: ' ' ::
                ((", ".intercalate (nextText :: texts)).toList ++ closing :: rest) := by
            simp [String.intercalate_cons_cons]
          obtain ⟨letter, more, shape, plain⟩ := here.opens
          constructor
          · refine ⟨letter, more ++ (", ".toList ++
              (", ".intercalate (nextText :: texts)).toList), ?_, plain⟩
            rw [String.intercalate_cons_cons, String.toList_append, String.toList_append, shape,
              List.append_assoc]
            rfl
          · rw [whole]
            exact scanItems_more first (opens.skip _) onward

theorem intercalate_length (texts : List String) :
    texts.length ≤ (", ".intercalate texts).toList.length + 1 := by
  induction texts with
  | nil => simp
  | cons text texts ih =>
      cases texts with
      | nil => simp
      | cons next texts =>
          have separator : (", " : String).toList.length = 2 := rfl
          rw [String.intercalate_cons_cons, String.toList_append, String.toList_append,
            List.length_append, List.length_append, separator]
          simp only [List.length_cons] at ih ⊢
          omega

/-- A whole array or object, after its opening bracket. -/
theorem scanAll_joined {closing : Char} (mark : closing = ']' ∨ closing = '\x7d')
    {values : List Value} {texts : List String}
    (each : List.Forall₂ (fun value text => Reads scan value text.toList) values texts)
    (rest : List Char) :
    scanAll scan closing ((", ".intercalate texts).toList ++ closing :: rest) =
      .ok (values, rest) := by
  by_cases filled : texts = []
  · subst filled
    obtain rfl := List.forall₂_nil_right_iff.mp each
    rcases mark with rfl | rfl <;> rfl
  · have enough : texts.length ≤
        ((", ".intercalate texts).toList ++ closing :: rest).length := by
      have bound := intercalate_length texts
      simp only [List.length_append, List.length_cons]
      omega
    obtain ⟨opens, found⟩ := scanItems_joined mark each filled enough rest
    rw [scanAll, opens.skip]
    obtain ⟨letter, more, shape, -, bracket, brace⟩ := opens
    have other : letter ≠ closing := by
      rcases mark with rfl | rfl
      · exact bracket
      · exact brace
    rw [shape, List.cons_append] at found ⊢
    simp only [if_neg other]
    exact found

end Sequences

section Values

open Sse (dumps dumpsItems dumpsEntries quoted keyText fields)

variable {nesting : Nat}

/-- JSON data at most `depth` lists and dictionaries deep: finite numbers, the integers with at most
4300 digits, and dictionaries whose keys are texts. A float is one that is written as it is read. -/
inductive Plain (floatRepr : String → String) : Nat → PyValue → Prop
  | none (depth : Nat) : Plain floatRepr depth .none
  | bool (depth : Nat) (value : Bool) : Plain floatRepr depth (.bool value)
  | int (depth : Nat) (value : Int) (printable : Text.Printable value) :
      Plain floatRepr depth (.int value)
  | float (depth : Nat) (text : String) (number : FloatText text) (same : floatRepr text = text) :
      Plain floatRepr depth (.float text)
  | str (depth : Nat) (text : String) : Plain floatRepr depth (.str text)
  | list (depth : Nat) (items : List PyValue) (each : ∀ item ∈ items, Plain floatRepr depth item) :
      Plain floatRepr (depth + 1) (.list items)
  | dict (depth : Nat) (entries : Pairs) (distinct : (entries.map Prod.fst).Nodup)
      (each : ∀ entry ∈ entries, Plain floatRepr depth entry.2) :
      Plain floatRepr (depth + 1) (fields entries)

def Unbroken (letters : List Char) : Prop := ∀ letter ∈ letters, letter ≠ '\n' ∧ letter ≠ '\r'

instance (letters : List Char) : Decidable (Unbroken letters) := List.decidableBAll _ letters

/-- What `json.dumps` writes of a value: one line that is scanned as the value. -/
structure Written (floatRepr : String → String) (nesting : Nat) (value : PyValue) (text : String) :
    Prop where
  dumped : dumps value nesting = some text
  unbroken : Unbroken text.toList
  reads : ∀ depth, text.length ≤ depth → Reads (scanOnce floatRepr depth) value text.toList

theorem scanOnce_eq (floatRepr : String → String) (depth : Nat) :
    ∃ inner, scanOnce floatRepr depth = (pyDecoder floatRepr).scanWith inner := by
  cases depth with
  | zero => exact ⟨none, rfl⟩
  | succ depth => exact ⟨some (scanOnce floatRepr depth), rfl⟩

theorem Unbroken.append {first second : List Char} (unbroken : Unbroken first)
    (unbroken' : Unbroken second) : Unbroken (first ++ second) :=
  List.forall_mem_append.mpr ⟨unbroken, unbroken'⟩

theorem Unbroken.cons {letter : Char} {rest : List Char} (here : letter ≠ '\n' ∧ letter ≠ '\r')
    (unbroken : Unbroken rest) : Unbroken (letter :: rest) :=
  List.forall_mem_cons.mpr ⟨here, unbroken⟩

theorem Unbroken.intercalate {texts : List String}
    (each : ∀ text ∈ texts, Unbroken text.toList) :
    Unbroken (", ".intercalate texts).toList := by
  intro letter member
  constructor
  · rintro rfl
    exact Text.not_mem_intercalate (by decide) (fun text inside found =>
      (each text inside _ found).1 rfl) member
  · rintro rfl
    exact Text.not_mem_intercalate (by decide) (fun text inside found =>
      (each text inside _ found).2 rfl) member

/-- Escapes are printable ASCII. -/
theorem escapeChar_printed (letter : Char) :
    ∀ other ∈ escapeChar letter, 0x20 ≤ other.toNat := by
  have digit : ∀ value < 16, 0x20 ≤ (Nat.digitChar value).toNat := by decide
  have digits : ∀ code, ∀ other ∈ '\\' :: 'u' :: hexDigits code, 0x20 ≤ other.toNat := by
    intro code
    simp only [hexDigits, List.forall_mem_cons]
    exact ⟨by decide, by decide, digit _ (by omega), digit _ (by omega), digit _ (by omega),
      digit _ (by omega), nofun⟩
  unfold escapeChar
  split_ifs with quote slash newline return_ tab feed back plain
  · simp
  · simp
  · simp
  · simp
  · simp
  · simp
  · simp
  · simpa using plain.1
  · unfold unicodeEscape
    split
    · exact digits _
    · exact List.forall_mem_append.mpr ⟨digits _, digits _⟩

theorem quoted_toList (text : String) : (quoted text).toList =
    '\x22' :: (text.toList.flatMap escapeChar ++ ['\x22']) := by
  simp [quoted]

theorem quoted_unbroken (text : String) : Unbroken (quoted text).toList := by
  intro letter member
  have printed : 0x20 ≤ letter.toNat := by
    rw [quoted_toList] at member
    simp only [List.mem_cons, List.mem_append, List.mem_flatMap, List.not_mem_nil,
      or_false] at member
    rcases member with rfl | ⟨escaped, -, inside⟩ | rfl
    · decide
    · exact escapeChar_printed escaped letter inside
    · decide
  constructor <;> (rintro rfl; revert printed; decide)

theorem scanString_quoted (text : String) (rest : List Char) :
    (pyDecoder floatRepr).scanString ((text.toList.flatMap escapeChar ++ ['\x22']) ++ rest) =
      .ok (text, rest) := by
  rw [List.append_assoc]
  exact scanString_escaped text rest

theorem written_none : Written floatRepr nesting .none "null" := by
  refine ⟨rfl, by decide, fun depth _ => ⟨⟨'n', _, rfl, by decide⟩, fun rest _ => ?_⟩⟩
  obtain ⟨inner, same⟩ := scanOnce_eq floatRepr depth
  rw [same]
  rfl

theorem written_bool (value : Bool) :
    Written floatRepr nesting (.bool value) (if value then "true" else "false") := by
  cases value with
  | true =>
      refine ⟨rfl, by decide, fun depth _ => ⟨⟨'t', _, rfl, by decide⟩, fun rest _ => ?_⟩⟩
      obtain ⟨inner, same⟩ := scanOnce_eq floatRepr depth
      rw [same]
      rfl
  | false =>
      refine ⟨rfl, by decide, fun depth _ => ⟨⟨'f', _, rfl, by decide⟩, fun rest _ => ?_⟩⟩
      obtain ⟨inner, same⟩ := scanOnce_eq floatRepr depth
      rw [same]
      rfl

theorem written_str (text : String) : Written floatRepr nesting (.str text) (quoted text) := by
  refine ⟨rfl, quoted_unbroken text, fun depth _ => ⟨?_, fun rest _ => ?_⟩⟩
  · rw [quoted_toList]
    exact ⟨'\x22', _, rfl, by decide⟩
  · obtain ⟨inner, same⟩ := scanOnce_eq floatRepr depth
    rw [same, quoted_toList, List.cons_append]
    show ((pyDecoder floatRepr).scanString _).map _ = _
    rw [scanString_quoted]
    rfl

/-- A number begins with a digit or a sign. -/
theorem opens_number {sign integer : List Char} (signText : sign = [] ∨ sign = ['-'])
    (integerText : IntegerPart integer) (rest : List Char) : Opens (sign ++ integer ++ rest) := by
  obtain ⟨first, more, rfl, digit⟩ := integerText.first
  rcases signText with rfl | rfl
  · refine ⟨first, more ++ rest, rfl, ?_⟩
    have other : ∀ letter : Char, letter.isDigit = false → first ≠ letter := by
      rintro letter plain rfl
      rw [digit] at plain
      cases plain
    simp [isBlank, other]
  · exact ⟨'-', first :: more ++ rest, rfl, by decide⟩

theorem digits_unbroken {digits : List Char} (all : ∀ letter ∈ digits, letter.isDigit = true) :
    Unbroken digits := by
  intro letter member
  have digit := all letter member
  constructor <;> (rintro rfl; cases digit)

theorem sign_unbroken {sign : List Char} (signText : sign = [] ∨ sign = ['-']) :
    Unbroken sign := by
  rcases signText with rfl | rfl <;> decide

theorem IntegerPart.unbroken {integer : List Char} (integerText : IntegerPart integer) :
    Unbroken integer := by
  rcases integerText with rfl | ⟨⟨-, digits⟩, -⟩
  · decide
  · exact digits_unbroken digits

theorem written_int {value : Int} (printable : Text.Printable value) :
    Written floatRepr nesting (.int value) (toString value) := by
  obtain ⟨sign, signText, shape⟩ := toString_parts value
  have integerText := toDigits_integerPart value.natAbs
  refine ⟨Text.decimal_printable printable, ?_, fun depth _ => ⟨?_, fun rest stop => ?_⟩⟩
  · rw [shape]
    exact (sign_unbroken signText).append integerText.unbroken
  · rw [shape]
    have opens := opens_number signText integerText []
    rwa [List.append_nil] at opens
  · obtain ⟨inner, same⟩ := scanOnce_eq floatRepr depth
    have number := scanWith_number floatRepr inner signText integerText rest
    rw [same, ← matchNumber_int printable stop, shape, number]

theorem written_float {text : String} (number : FloatText text) (same : floatRepr text = text) :
    Written floatRepr nesting (.float text) text := by
  have found := fun rest (stop : Stops rest) => matchNumber_float floatRepr number stop
  obtain ⟨sign, integer, fraction, exponent, shape, signText, integerText, fractionText,
    exponentText, -⟩ := number.parts
  rw [List.append_assoc] at shape
  refine ⟨rfl, ?_, fun depth _ => ⟨?_, fun rest stop => ?_⟩⟩
  · have fractionUnbroken : Unbroken fraction := by
      rcases fractionText with rfl | ⟨digits, ⟨_, all⟩, rfl⟩
      · decide
      · exact (digits_unbroken all).cons (by decide)
    have exponentUnbroken : Unbroken exponent := by
      rcases exponentText with rfl | ⟨sign, digits, signed, ⟨_, all⟩, rfl⟩
      · decide
      · have signUnbroken : Unbroken sign := by
          rcases signed with rfl | rfl <;> decide
        exact (signUnbroken.append (digits_unbroken all)).cons (by decide)
    rw [shape]
    exact ((sign_unbroken signText).append integerText.unbroken).append
      (fractionUnbroken.append exponentUnbroken)
  · rw [shape]
    exact opens_number signText integerText _
  · obtain ⟨inner, once⟩ := scanOnce_eq floatRepr depth
    have scanned := scanWith_number floatRepr inner signText integerText
      (fraction ++ exponent ++ rest)
    rw [← List.append_assoc, ← shape] at scanned
    rw [once, scanned, found rest stop, same]

theorem intercalate_part {texts : List String} {text : String} (member : text ∈ texts) :
    text.length ≤ (", ".intercalate texts).length := by
  induction texts with
  | nil => cases member
  | cons first texts ih =>
      cases texts with
      | nil =>
          rw [List.mem_singleton.mp member, String.intercalate_singleton]
      | cons next texts =>
          rw [String.intercalate_cons_cons, String.length_append, String.length_append]
          rcases List.mem_cons.mp member with rfl | later
          · omega
          · have shorter := ih later
            omega

theorem dumpsItems_written {items : List PyValue} {motive : PyValue → String → Prop}
    (each : ∀ item ∈ items, ∃ text, dumps item nesting = some text ∧ motive item text) :
    ∃ texts, dumpsItems items nesting = some texts ∧ List.Forall₂ motive items texts := by
  induction items with
  | nil => exact ⟨[], rfl, .nil⟩
  | cons item items ih =>
      obtain ⟨⟨text, dumped, here⟩, later⟩ := List.forall_mem_cons.mp each
      obtain ⟨texts, dumpedAll, all⟩ := ih later
      exact ⟨text :: texts, by simp [dumpsItems, dumped, dumpedAll], .cons here all⟩

theorem dumpsEntries_written {entries : Pairs} {motive : String × PyValue → String → Prop}
    (each : ∀ entry ∈ entries, ∃ text, dumps entry.2 nesting = some text ∧
      motive entry (quoted entry.1 ++ ": " ++ text)) :
    ∃ texts, dumpsEntries (entries.map fun entry => (.str entry.1, entry.2)) nesting =
        some texts ∧
      List.Forall₂ motive entries texts := by
  induction entries with
  | nil => exact ⟨[], rfl, .nil⟩
  | cons entry entries ih =>
      obtain ⟨⟨text, dumped, here⟩, later⟩ := List.forall_mem_cons.mp each
      obtain ⟨texts, dumpedAll, all⟩ := ih later
      exact ⟨(quoted entry.1 ++ ": " ++ text) :: texts,
        by simp [dumpsEntries, keyText, dumped, dumpedAll], .cons here all⟩

/-- A member of an object is scanned as its name and value. -/
theorem reads_member {scan : List Char → Except LoadsError (Scanned PyValue)} {value : PyValue}
    {text : String} (reads : Reads scan value text.toList) (name : String) :
    Reads ((pyDecoder floatRepr).scanMember scan) (name, value)
      (quoted name ++ ": " ++ text).toList := by
  have shape : ∀ rest, (quoted name ++ ": " ++ text).toList ++ rest =
      '\x22' :: ((name.toList.flatMap escapeChar ++ ['\x22']) ++
        ':' :: ' ' :: (text.toList ++ rest)) := by
    intro rest
    rw [String.toList_append, String.toList_append, quoted_toList]
    simp
  constructor
  · have whole := shape []
    rw [List.append_nil] at whole
    rw [whole]
    exact ⟨'\x22', _, rfl, by decide⟩
  · intro rest stop
    have blank : skip (' ' :: (text.toList ++ rest)) = text.toList ++ rest := reads.opens.skip rest
    rw [shape, Decoder.scanMember, scanString_quoted]
    show (scan (skip (' ' :: (text.toList ++ rest)))).bind
      (fun scanned => .ok ((name, scanned.1), scanned.2)) = _
    rw [blank, reads.reads rest stop]
    rfl

/-- Assigning distinct names keeps them all, in order. -/
theorem foldl_assign {pairs rest : Pairs} (distinct : ((pairs ++ rest).map Prod.fst).Nodup) :
    rest.foldl assign pairs = pairs ++ rest := by
  induction rest generalizing pairs with
  | nil => simp
  | cons pair rest ih =>
      have fresh : pair.1 ∉ pairs.map Prod.fst := by
        rw [List.map_append, List.map_cons] at distinct
        intro member
        exact (List.nodup_append.mp distinct).2.2 _ member _ List.mem_cons_self rfl
      have shape : pairs ++ pair :: rest = (pairs ++ [pair]) ++ rest := by simp
      rw [List.foldl_cons, assign, if_neg fresh, shape]
      rw [shape] at distinct
      exact ih distinct

/-- A text on one line that scanners of enough depth read as the value. -/
structure Part {Value : Type} (scan : Nat → List Char → Except LoadsError (Scanned Value))
    (value : Value) (text : String) : Prop where
  unbroken : Unbroken text.toList
  reads : ∀ depth, text.length ≤ depth → Reads (scan depth) value text.toList

/-- What is between the brackets of an array or an object. -/
theorem scanAll_parts {Value : Type} {scan : Nat → List Char → Except LoadsError (Scanned Value)}
    {values : List Value} {texts : List String} (parts : List.Forall₂ (Part scan) values texts)
    {closing : Char} (mark : closing = ']' ∨ closing = '\x7d') :
    Unbroken (", ".intercalate texts).toList ∧
      ∀ depth, (", ".intercalate texts).length ≤ depth → ∀ rest,
        scanAll (scan depth) closing ((", ".intercalate texts).toList ++ closing :: rest) =
          .ok (values, rest) := by
  have each : ∀ text ∈ texts, Unbroken text.toList := by
    clear mark
    induction parts with
    | nil => nofun
    | cons here _ ih => exact List.forall_mem_cons.mpr ⟨here.unbroken, ih⟩
  refine ⟨Unbroken.intercalate each, fun depth enough rest => scanAll_joined mark ?_ rest⟩
  have short : ∀ text ∈ texts, text.length ≤ depth :=
    fun text member => le_trans (intercalate_part member) enough
  clear enough each mark
  induction parts with
  | nil => exact .nil
  | cons here _ ih =>
      obtain ⟨first, later⟩ := List.forall_mem_cons.mp short
      exact .cons (here.reads depth first) (ih later)

theorem Written.part {value : PyValue} {text : String}
    (written : Written floatRepr nesting value text) :
    Part (scanOnce floatRepr) value text := ⟨written.unbroken, written.reads⟩

theorem Written.member {value : PyValue} {text : String}
    (written : Written floatRepr nesting value text) (name : String) :
    Part (fun depth => (pyDecoder floatRepr).scanMember (scanOnce floatRepr depth)) (name, value)
      (quoted name ++ ": " ++ text) := by
  constructor
  · rw [String.toList_append, String.toList_append]
    exact ((quoted_unbroken name).append (by decide)).append written.unbroken
  · intro depth enough
    rw [String.length_append] at enough
    exact reads_member (written.reads depth (by omega)) name

/-- Brackets around a text. -/
theorem bracketed (opening closing inside : String) :
    (opening ++ inside ++ closing).length = opening.length + inside.length + closing.length ∧
      (opening ++ inside ++ closing).toList =
        opening.toList ++ (inside.toList ++ closing.toList) := by
  simp [String.length_append]

theorem written_list {items : List PyValue}
    (each : ∀ item ∈ items, ∃ text, Written floatRepr nesting item text) :
    ∃ text, Written floatRepr (nesting + 1) (.list items) text := by
  obtain ⟨texts, dumped, parts⟩ := dumpsItems_written (motive := Part (scanOnce floatRepr))
    fun item member =>
      have ⟨text, written⟩ := each item member
      ⟨text, written.dumped, written.part⟩
  obtain ⟨unbroken, reads⟩ := scanAll_parts parts (.inl rfl)
  obtain ⟨length, shape⟩ := bracketed "[" "]" (", ".intercalate texts)
  refine ⟨"[" ++ ", ".intercalate texts ++ "]", by simp [dumps, dumped], ?_, ?_⟩
  · rw [shape]
    exact (unbroken.append (by decide)).cons (by decide)
  · intro depth enough
    have outer : "[".length = 1 ∧ "]".length = 1 := by decide
    obtain ⟨depth, rfl⟩ : ∃ more, depth = more + 1 := ⟨depth - 1, by omega⟩
    have found := reads depth (by omega)
    rw [shape]
    refine ⟨⟨'[', _, rfl, by decide⟩, fun rest _ => ?_⟩
    rw [List.append_assoc, List.append_assoc]
    show (scanAll (scanOnce floatRepr depth) ']'
      ((", ".intercalate texts).toList ++ ']' :: rest)).map _ = _
    rw [found]
    rfl

theorem written_dict {entries : Pairs} (distinct : (entries.map Prod.fst).Nodup)
    (each : ∀ entry ∈ entries, ∃ text, Written floatRepr nesting entry.2 text) :
    ∃ text, Written floatRepr (nesting + 1) (fields entries) text := by
  obtain ⟨texts, dumped, parts⟩ := dumpsEntries_written
    (motive := Part fun depth => (pyDecoder floatRepr).scanMember (scanOnce floatRepr depth))
    fun entry member =>
      have ⟨text, written⟩ := each entry member
      ⟨text, written.dumped, written.member entry.1⟩
  obtain ⟨unbroken, reads⟩ := scanAll_parts parts (.inr rfl)
  obtain ⟨length, shape⟩ := bracketed "\x7b" "\x7d" (", ".intercalate texts)
  refine ⟨"\x7b" ++ ", ".intercalate texts ++ "\x7d", by simp [fields, dumps, dumped], ?_, ?_⟩
  · rw [shape]
    exact (unbroken.append (by decide)).cons (by decide)
  · intro depth enough
    have outer : "\x7b".length = 1 ∧ "\x7d".length = 1 := by decide
    obtain ⟨depth, rfl⟩ : ∃ more, depth = more + 1 := ⟨depth - 1, by omega⟩
    have found := reads depth (by omega)
    have kept : entries.foldl assign [] = [] ++ entries := foldl_assign distinct
    rw [shape]
    refine ⟨⟨'\x7b', _, rfl, by decide⟩, fun rest _ => ?_⟩
    rw [List.append_assoc, List.append_assoc]
    show (scanAll ((pyDecoder floatRepr).scanMember (scanOnce floatRepr depth)) '\x7d'
      ((", ".intercalate texts).toList ++ '\x7d' :: rest)).map _ = _
    rw [found]
    show Except.ok (fields (entries.foldl assign []), rest) = _
    rw [kept, List.nil_append]

theorem Plain.written {value : PyValue} (plain : Plain floatRepr nesting value) :
    ∃ text, Written floatRepr nesting value text := by
  induction plain with
  | none depth => exact ⟨_, written_none⟩
  | bool depth value => exact ⟨_, written_bool value⟩
  | int depth value printable => exact ⟨_, written_int printable⟩
  | float depth text number same => exact ⟨_, written_float number same⟩
  | str depth text => exact ⟨_, written_str text⟩
  | list depth items each ih => exact written_list ih
  | dict depth entries distinct each ih => exact written_dict distinct ih

/-- What is written is loaded again. -/
theorem Written.loads {value : PyValue} {text : String}
    (written : Written floatRepr nesting value text) {depth : Nat} (enough : text.length ≤ depth) :
    loads floatRepr depth text = .ok value := by
  have ⟨opens, reads⟩ := written.reads depth enough
  have found := reads [] nofun
  have blank := opens.skip []
  rw [List.append_nil] at found blank
  rw [JsonDecoder.loads, Decoder.loads, blank]
  change (scanOnce floatRepr depth text.toList).bind _ = _
  rw [found]
  rfl

end Values

end AiPlatform.JsonDecoder

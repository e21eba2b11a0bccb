import AiPlatform.Core.Redaction
import AiPlatform.Lib.Binary64

set_option autoImplicit false

/- `float(text)`. A Python text is the list of its code points, lone surrogates among them. -/
namespace AiPlatform.FloatText

open Binary64 (Double nearest)
open Redaction (UnicodeData)

abbrev Points := List Nat

def points (text : String) : Points := text.toList.map Char.toNat

/-- `_PyUnicode_TransformDecimalAndSpaceToASCII` of one code point. -/
def asciiLetter (unicode : UnicodeData) (code : Nat) : Char :=
  let letter := Char.ofNat code
  if code < 127 then letter
  else if Text.isSpace letter then ' '
  else if unicode.isDecimal letter then Nat.digitChar (unicode.decimal letter)
  else '?'

/-- `Py_ISSPACE`. -/
def isBlank (letter : Char) : Bool :=
  letter = ' ' || (9 ≤ letter.toNat && letter.toNat ≤ 13)

def strip (letters : List Char) : List Char := (letters.dropWhile isBlank).rdropWhile isBlank

/-- Every underscore stands between two digits; `behind` says that a digit was just passed. -/
def underscoresPlaced : Bool → List Char → Bool
  | _, [] => true
  | behind, letter :: rest =>
      if letter = '_' then behind && rest.head?.any Char.isDigit && underscoresPlaced false rest
      else underscoresPlaced letter.isDigit rest

def natural (digits : List Char) : Nat :=
  digits.foldl (fun value digit => 10 * value + (digit.toNat - 48)) 0

/-- The digits of an exponent. -/
def digitsOnly (letters : List Char) : Option Int :=
  if letters ≠ [] ∧ letters.all Char.isDigit then some (natural letters) else none

def exponent : List Char → Option Int
  | [] => some 0
  | letter :: rest =>
      if letter = 'e' ∨ letter = 'E' then
        match rest with
        | '-' :: digits => (digitsOnly digits).map Neg.neg
        | '+' :: digits => digitsOnly digits
        | digits => digitsOnly digits
      else none

/-- Digits with a point among them, and an exponent. -/
def decimal (letters : List Char) : Option ℚ :=
  let (whole, rest) := letters.span Char.isDigit
  let (fraction, rest) :=
    match rest with
    | '.' :: more => more.span Char.isDigit
    | more => ([], more)
  if whole = [] ∧ fraction = [] then none
  else (exponent rest).map fun (power : ℤ) =>
    natural (whole ++ fraction) * (10 : ℚ) ^ (power - fraction.length)

/-- `PyOS_string_to_double` of the whole text. -/
def stringToDouble (letters : List Char) : Option Double :=
  let (negative, rest) :=
    match letters with
    | '-' :: rest => (true, rest)
    | '+' :: rest => (false, rest)
    | rest => (false, rest)
  let word := String.ofList (rest.map Char.toLower)
  if word = "inf" ∨ word = "infinity" then some (.infinite negative)
  else if word = "nan" then some .nan
  else (decimal rest).map fun value => nearest (if negative then -value else value)

/-- `none` is the `ValueError`. -/
def floatOfText (unicode : UnicodeData) (text : Points) : Option Double :=
  let letters := strip (text.map (asciiLetter unicode))
  if underscoresPlaced false letters then stringToDouble (letters.filter (· ≠ '_')) else none

end AiPlatform.FloatText

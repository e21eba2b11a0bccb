import AiPlatform.Lib.Regex
import AiPlatform.Lib.Text
import Mathlib.Algebra.GroupWithZero.Nat

set_option autoImplicit false

/- `RedactionPolicy.redact_text`. A text is the list of its code points. -/
namespace AiPlatform.Redaction

open Regex Pattern

/-- What `re` and `int` look up in the Unicode database of the interpreter: `\d`, the letters and
digits of `\w`, and the value of a decimal digit. -/
structure UnicodeData where
  isDecimal : Char → Bool
  isAlnum : Char → Bool
  decimal : Char → Nat
  alnum : ∀ letter, isDecimal letter = true → isAlnum letter = true
  asciiDecimal : ∀ letter, letter.toNat < 128 → isDecimal letter = letter.isDigit
  asciiAlnum : ∀ letter, letter.toNat < 128 → isAlnum letter = letter.isAlphanum
  asciiValue : ∀ letter, letter.isDigit = true → decimal letter = letter.toNat - 48
  below : ∀ letter, decimal letter < 10

/-- `[ -]`. -/
def isJoiner (letter : Char) : Bool := letter = ' ' || letter = '-'

def literal (text : String) : Pattern Char :=
  match text.toList with
  | [] => .rep (.test fun _ => false) 0 (some 0)
  | first :: rest => sequence (.test (· = first)) (rest.map fun letter => .test (· = letter))

section Patterns

variable (unicode : UnicodeData)

/-- `\w`. -/
def isWord (letter : Char) : Bool := unicode.isAlnum letter || letter = '_'

/-- `\d`. -/
def digit : Pattern Char := .test unicode.isDecimal

/-- `[\w.+-]+@[\w.-]+\.[A-Za-z]{2,}`. -/
def email : Pattern Char :=
  sequence (some_ (.test fun letter => isWord unicode letter || letter ∈ ['.', '+', '-']))
    [.test (· = '@'), some_ (.test fun letter => isWord unicode letter || letter ∈ ['.', '-']),
      .test (· = '.'), .rep (.test Char.isAlpha) 2 none]

/-- `\bsk-[A-Za-z0-9_-]+\b`, `\bBearer\s+\S+\b` and `\bAKIA[0-9A-Z]{16}\b`. -/
def secretPatterns : List (Pattern Char) :=
  let edge := .boundary (isWord unicode)
  [sequence edge
      [literal "sk-", some_ (.test fun letter => letter.isAlphanum || letter ∈ ['_', '-']), edge],
    sequence edge
      [literal "Bearer", some_ (.test Text.isSpace),
        some_ (.test fun letter => !Text.isSpace letter),
        edge],
    sequence edge
      [literal "AKIA", exactly 16 (.test fun letter => letter.isDigit || letter.isUpper), edge]]

/-- `[ -]?\d`. -/
def cardDigit : Pattern Char := .seq (optional (.test isJoiner)) (digit unicode)

/-- `(?<!\d)\d(?:[ -]?\d){12,18}(?!\d)`. -/
def cardCandidate : Pattern Char :=
  sequence (.notBehind unicode.isDecimal)
    [digit unicode, .rep (cardDigit unicode) 12 (some 18), .notAhead unicode.isDecimal]

/-- `[ .-]?\d`. -/
def phoneDigit : Pattern Char :=
  .seq (optional (.test fun letter => letter ∈ [' ', '.', '-'])) (digit unicode)

/-- `(?<![\w+])(?:\+84|0)(?:[ .-]?\d){9}(?!\d)|(?<![\w+])\+\d{1,3}(?:[ .-]?\d){7,12}(?!\d)`. -/
def phone : Pattern Char :=
  let alone := .notBehind fun letter => isWord unicode letter || letter = '+'
  .alt
    (sequence alone
      [.alt (literal "+84") (literal "0"), exactly 9 (phoneDigit unicode),
        .notAhead unicode.isDecimal])
    (sequence alone
      [.test (· = '+'), .rep (digit unicode) 1 (some 3), .rep (phoneDigit unicode) 7 (some 12),
        .notAhead unicode.isDecimal])

/-- What `_luhn_valid` adds for a digit, counted from the right. -/
def luhnDigit (index value : Nat) : Nat :=
  if index % 2 = 1 then
    if 9 < value * 2 then value * 2 - 9 else value * 2
  else value

def luhnValid (digits : List Char) : Bool :=
  let total := (digits.reverse.mapIdx fun index letter =>
    luhnDigit index (unicode.decimal letter)).sum
  total % 10 = 0

/-- The test of `_mask_card`. -/
def isCard (text : List Char) : Bool :=
  let digits := text.filter unicode.isDecimal
  13 ≤ digits.length && digits.length ≤ 19 && luhnValid unicode digits

def maskCard (text : List Char) : List Char :=
  if isCard unicode text then "[card]".toList else text

inductive TraceContentMode where
  | off
  | redacted
  | full
deriving DecidableEq

/-- The substitutions before that of cards. -/
def maskEmailsAndSecrets (value : List Char) : List Char :=
  (secretPatterns unicode).foldl (fun redacted pattern =>
    sub pattern (fun _ => "[secret]".toList) redacted)
    (sub (email unicode) (fun _ => "[email]".toList) value)

def redactText (mode : TraceContentMode) (value : List Char) : List Char :=
  match mode with
  | .full => value
  | .off => "[redacted]".toList
  | .redacted =>
      let redacted :=
        sub (cardCandidate unicode) (maskCard unicode) (maskEmailsAndSecrets unicode value)
      sub (phone unicode) (fun _ => "[phone]".toList) redacted

end Patterns

end AiPlatform.Redaction

import Mathlib.Algebra.Group.Int.Defs
import Mathlib.Algebra.Group.Nat.Defs
import Mathlib.Data.List.DropRight
import Mathlib.Data.List.Infix

set_option autoImplicit false

/- Python's `str` methods. A text is taken as the list of its code points. -/
namespace AiPlatform.Text

/-- `str.isspace`. -/
def isSpace (letter : Char) : Bool :=
  let code := letter.toNat
  (9 ≤ code && code ≤ 13) || (28 ≤ code && code ≤ 32) || code = 133 || code = 160 || code = 5760 ||
    (8192 ≤ code && code ≤ 8202) || code = 8232 || code = 8233 || code = 8239 || code = 8287 ||
    code = 12288

/-- `str.strip`. -/
def strip (text : String) : String :=
  String.ofList ((text.toList.dropWhile isSpace).rdropWhile isSpace)

/-- `str.strip` of given letters. -/
def stripOf (outer : Char → Bool) (text : String) : String :=
  String.ofList ((text.toList.dropWhile outer).rdropWhile outer)

/-- `str.split` at a one-letter separator. -/
def split (text : String) (separator : Char) : List String :=
  (text.toList.splitOn separator).map String.ofList

/-- `pattern in text`. -/
def isIn (pattern text : String) : Bool := decide (pattern.toList <:+: text.toList)

/-- `[part.strip() for part in text.split(separator) if part.strip()]`. -/
def splitStripped (text : String) (separator : Char) : List String :=
  ((split text separator).map strip).filter fun part => part ≠ ""

/-- `text.encode("utf-8")`. -/
def encode (text : String) : List UInt8 := text.toList.flatMap String.utf8EncodeChar

/-- `str.lower`, which looks letters up in the Unicode database of the interpreter. -/
structure LowerCase where
  lower : String → String
  ascii : ∀ text, text.toList.all (fun letter => letter.toNat < 128) = true →
    lower text = String.ofList (text.toList.map Char.toLower)

/-- `str.upper`. No letter but NUL has NUL in its upper case. -/
structure UpperCase where
  upper : String → String
  ascii : ∀ text, text.toList.all (fun letter => letter.toNat < 128) = true →
    upper text = String.ofList (text.toList.map Char.toUpper)
  nul : ∀ text, Char.ofNat 0 ∉ text.toList → Char.ofNat 0 ∉ (upper text).toList

/-- `text.replace(old, new)` of one letter. -/
def replace (text : String) (old new : Char) : String :=
  String.ofList (text.toList.map fun letter => if letter = old then new else letter)

/-- `str.isascii`. -/
def isAscii (text : String) : Bool := text.toList.all fun letter => letter.toNat < 128

/-- The numeral has at most the interpreter's 4300 digits. -/
def Printable (number : Int) : Prop := (Nat.toDigits 10 number.natAbs).length ≤ 4300

instance (number : Int) : Decidable (Printable number) := inferInstanceAs (Decidable (_ ≤ _))

/-- `str(number)`; `none` is the `ValueError` of too many digits. -/
def decimal (number : Int) : Option String :=
  if Printable number then some (toString number) else none

/-- `bytes.hex()`. -/
def hex (bytes : List Nat) : String :=
  String.ofList (bytes.flatMap fun byte => [Nat.digitChar (byte / 16), Nat.digitChar (byte % 16)])

/-- A stripped text does not end in whitespace. -/
theorem strip_last (text : String) {letter : Char}
    (last : (strip text).toList.getLast? = some letter) : isSpace letter = false := by
  unfold strip at last
  rw [String.toList_ofList] at last
  have nonempty : (text.toList.dropWhile isSpace).rdropWhile isSpace ≠ [] := by
    intro empty
    rw [empty] at last
    cases last
  have kept := List.rdropWhile_last_not isSpace _ nonempty
  rw [List.getLast?_eq_some_getLast nonempty] at last
  rw [← Option.some.inj last]
  simpa using kept

/-- Where a part that has no terminator ends is plain from the whole. -/
theorem terminated_inj {α : Type} {terminator : α} {first second : List α} (rest other : List α)
    (free : terminator ∉ first) (free' : terminator ∉ second) :
    first ++ terminator :: rest = second ++ terminator :: other ↔
      first = second ∧ rest = other := by
  constructor
  · intro same
    induction first generalizing second with
    | nil =>
        cases second with
        | nil => exact ⟨rfl, (List.cons.inj same).2⟩
        | cons letter more =>
            rw [(List.cons.inj same).1] at free'
            exact absurd List.mem_cons_self free'
    | cons letter more ih =>
        cases second with
        | nil =>
            rw [(List.cons.inj same).1] at free
            exact absurd List.mem_cons_self free
        | cons letter' more' =>
            have ⟨head, tail⟩ := List.cons.inj same
            have ⟨parts, rests⟩ := ih (fun member => free (List.mem_cons_of_mem _ member))
              (fun member => free' (List.mem_cons_of_mem _ member)) tail
            exact ⟨by rw [head, parts], rests⟩
  · intro ⟨parts, rests⟩
    rw [parts, rests]

theorem encode_injective : Function.Injective encode := by
  intro first second same
  have bytes : first.toList.utf8Encode = second.toList.utf8Encode := congrArg List.toByteArray same
  have texts : String.ofList first.toList = String.ofList second.toList :=
    String.toByteArray_inj.mp bytes
  rwa [String.ofList_toList, String.ofList_toList] at texts

theorem encode_append (first second : String) :
    encode (first ++ second) = encode first ++ encode second := by
  unfold encode
  rw [String.toList_append, List.flatMap_append]

/-- An ASCII byte is in no letter but its own. -/
theorem ascii_mem_encodeChar {byte : UInt8} (ascii : byte.toNat < 128) {letter : Char}
    (member : byte ∈ String.utf8EncodeChar letter) : letter.toNat = byte.toNat := by
  have wrap : ∀ value : Nat, byte = UInt8.ofNat value → value % 256 = byte.toNat := by
    intro value same
    have bytes := congrArg UInt8.toNat same
    rw [UInt8.toNat_ofNat'] at bytes
    exact bytes.symm
  show letter.val.toNat = byte.toNat
  unfold String.utf8EncodeChar at member
  dsimp only at member
  split at member
  · have value := wrap _ (List.mem_singleton.mp member)
    omega
  · split at member
    · simp only [List.mem_cons, List.not_mem_nil, or_false] at member
      rcases member with value | value <;> have := wrap _ value <;> omega
    · split at member
      · simp only [List.mem_cons, List.not_mem_nil, or_false] at member
        rcases member with value | value | value <;> have := wrap _ value <;> omega
      · simp only [List.mem_cons, List.not_mem_nil, or_false] at member
        rcases member with value | value | value | value <;> have := wrap _ value <;> omega

theorem ascii_mem_encode {byte : UInt8} (ascii : byte.toNat < 128) {text : String}
    (member : byte ∈ encode text) : Char.ofNat byte.toNat ∈ text.toList := by
  have ⟨letter, inside, found⟩ := List.mem_flatMap.mp member
  rw [← ascii_mem_encodeChar ascii found, Char.ofNat_toNat]
  exact inside

theorem zero_mem_encode {text : String} (zero : 0 ∈ encode text) : Char.ofNat 0 ∈ text.toList :=
  ascii_mem_encode (by decide) zero

theorem toUpper_nul {letter : Char} (nul : letter.toUpper = Char.ofNat 0) :
    letter = Char.ofNat 0 := by
  unfold Char.toUpper at nul
  split at nul
  · rename_i lower
    have code := congrArg Char.toNat nul
    have shifted : (letter.val + ('A'.val - 'a'.val)).toNat = 0 := code
    have low : 97 ≤ letter.val.toNat := UInt32.le_iff_toNat_le.mp lower.1
    have high : letter.val.toNat ≤ 122 := UInt32.le_iff_toNat_le.mp lower.2
    have wrapped : (letter.val.toNat + 4294967264) % 4294967296 = 0 := by
      rw [UInt32.toNat_add] at shifted
      exact shifted
    omega
  · exact nul

/-- A numeral is made of digits and a sign. -/
theorem numeral_letters {number : Int} {letter : Char}
    (member : letter ∈ (toString number).toList) :
    letter = '-' ∨ letter.isDigit = true := by
  have natural : ∀ size : Nat, letter ∈ size.repr.toList → letter.isDigit = true := by
    intro size inside
    rw [Nat.toList_repr] at inside
    exact Nat.isDigit_of_mem_toDigits (by decide) (by decide) inside
  cases number with
  | ofNat size => exact .inr (natural size member)
  | negSucc size =>
      have shape : toString (Int.negSucc size) = "-" ++ (size + 1).repr := rfl
      rw [shape, String.toList_append, List.mem_append] at member
      exact member.imp List.mem_singleton.mp (natural (size + 1))

theorem lt_length_toDigits_pow {limit zeros : Nat} (positive : 0 < limit) (many : limit ≤ zeros) :
    limit < (Nat.toDigits 10 (10 ^ zeros)).length := by
  rw [← Nat.not_le, Nat.length_toDigits_le_iff (by decide) positive, Nat.not_lt]
  exact Nat.pow_le_pow_right (by decide) many

theorem pow_unprintable {zeros : Nat} (many : 4300 ≤ zeros) : ¬Printable (10 ^ zeros) := by
  have ten : (10 : Int).natAbs = 10 := rfl
  rw [Printable, Int.natAbs_pow, ten, Nat.not_le]
  exact lt_length_toDigits_pow (by decide) many

theorem decimal_printable {number : Int} (printable : Printable number) :
    decimal number = some (toString number) := if_pos printable

theorem decimal_unprintable {number : Int} (unprintable : ¬Printable number) :
    decimal number = none := if_neg unprintable

theorem digitChar_ascii : ∀ digit < 16, (Nat.digitChar digit).toNat < 128 := by decide

theorem hex_ascii {bytes : List Nat} (small : ∀ byte ∈ bytes, byte < 256) :
    isAscii (hex bytes) = true := by
  unfold isAscii hex
  rw [String.toList_ofList, List.all_eq_true]
  intro letter member
  obtain ⟨byte, inside, digit⟩ := List.mem_flatMap.mp member
  have bound := small byte inside
  simp only [List.mem_cons, List.not_mem_nil, or_false] at digit
  rcases digit with rfl | rfl
  · exact decide_eq_true (digitChar_ascii (byte / 16) (by omega))
  · exact decide_eq_true (digitChar_ascii (byte % 16) (by omega))

theorem digitChar_inj : ∀ first < 16, ∀ second < 16,
    Nat.digitChar first = Nat.digitChar second → first = second := by decide

/-- Hexadecimal texts are of the same bytes. -/
theorem hex_inj {first second : List Nat} (small : ∀ byte ∈ first, byte < 256)
    (small' : ∀ byte ∈ second, byte < 256) : hex first = hex second ↔ first = second := by
  refine ⟨fun same => ?_, fun same => same ▸ rfl⟩
  have letters := String.ofList_injective same
  clear same
  induction first generalizing second with
  | nil =>
      cases second with
      | nil => rfl
      | cons byte rest => cases letters
  | cons byte rest ih =>
      cases second with
      | nil => cases letters
      | cons byte' rest' =>
          obtain ⟨here, later⟩ := List.forall_mem_cons.mp small
          obtain ⟨here', later'⟩ := List.forall_mem_cons.mp small'
          simp only [List.flatMap_cons, List.cons_append, List.nil_append, List.cons.injEq]
            at letters
          obtain ⟨high, low, tail⟩ := letters
          have upper := digitChar_inj _ (by omega) _ (by omega) high
          have lower := digitChar_inj _ (by omega) _ (by omega) low
          rw [ih later later' tail, show byte = byte' by omega]

theorem octets_small (octets : List UInt8) : ∀ byte ∈ octets.map UInt8.toNat, byte < 256 := by
  intro byte member
  obtain ⟨octet, -, rfl⟩ := List.mem_map.mp member
  exact octet.toNat_lt

theorem hex_octets_inj {first second : List UInt8} :
    hex (first.map UInt8.toNat) = hex (second.map UInt8.toNat) ↔ first = second := by
  rw [hex_inj (octets_small first) (octets_small second)]
  exact (List.map_injective_iff.mpr fun _ _ => UInt8.toNat_inj.mp).eq_iff

theorem isAscii_append (first second : String) :
    isAscii (first ++ second) = (isAscii first && isAscii second) := by
  simp [isAscii, List.all_append]

theorem stripOf_idem (outer : Char → Bool) (text : String) :
    stripOf outer (stripOf outer text) = stripOf outer text := by
  have start : ∀ whole : List Char, whole.dropWhile outer = whole →
      (whole.rdropWhile outer).dropWhile outer = whole.rdropWhile outer := by
    intro whole clean
    cases shape : whole.rdropWhile outer with
    | nil => rfl
    | cons first rest =>
        have leading := List.rdropWhile_prefix outer whole
        rw [shape] at leading
        have ⟨tail, same⟩ := leading
        have kept := List.dropWhile_eq_self_iff.mp clean
        apply List.dropWhile_eq_self_iff.mpr
        rw [← same] at kept
        exact fun _ => kept (Nat.succ_pos _)
  unfold stripOf
  rw [String.toList_ofList, start _ (List.dropWhile_idempotent outer _),
    List.rdropWhile_idempotent]

theorem splitStripped_append (first second : List Char) (separator : Char) :
    splitStripped (String.ofList (first ++ separator :: second)) separator =
      splitStripped (String.ofList first) separator ++
        splitStripped (String.ofList second) separator := by
  unfold splitStripped split
  simp only [String.toList_ofList, List.splitOn_append_cons_self, List.map_append,
    List.filter_append]

/-- A text without a separator is its own only part. -/
theorem splitStripped_single {text : String} {separator : Char} (whole : separator ∉ text.toList)
    (named : strip text ≠ "") : splitStripped text separator = [strip text] := by
  unfold splitStripped split
  rw [List.splitOn_eq_singleton whole]
  simp only [List.map_cons, List.map_nil, String.ofList_toList]
  exact List.filter_cons_of_pos (decide_eq_true named)

end AiPlatform.Text

import AiPlatform.Core.Value

set_option autoImplicit false

/- What the column types of the Postgres tables accept. -/
namespace AiPlatform.Columns

/-- The largest value of an `Integer` column. -/
def integerMax : Int := 2 ^ 31 - 1

def fitsInteger (value : Int) : Prop := -2 ^ 31 ≤ value ∧ value ≤ integerMax

instance (value : Int) : Decidable (fitsInteger value) := inferInstanceAs (Decidable (_ ∧ _))

/-- A text has no NUL character in Postgres. -/
def sendable (text : String) : Prop := '\x00' ∉ text.toList

instance (text : String) : Decidable (sendable text) := inferInstanceAs (Decidable (¬ _))

/-- What a `String(width)` column stores of a text: blanks past the width are cut off, and any
other character there is an error. -/
def storedText (width : Nat) (text : String) : Option String :=
  if text.toList.length ≤ width then some text
  else if (text.toList.drop width).all (· = ' ') then
    some (String.ofList (text.toList.take width))
  else none

theorem storedText_fits {width : Nat} {text : String} (fits : text.toList.length ≤ width) :
    storedText width text = some text := if_pos fits

/-- `json.dumps` writes `NaN` and `Infinity`, which are no JSON. -/
def isFinite : PyFloat → Bool
  | .finite .. => true
  | .nan | .infinity _ => false

mutual

/-- A document that `json.dumps` writes, an integer in at most 4300 digits, and that `jsonb`
accepts, with no NUL character in any of its strings and only finite floats. -/
def sendableJson : Json → Bool
  | .str text => sendable text
  | .arr items => sendableItems items
  | .obj fields => sendableFields fields
  | .null => true
  | .bool _ => true
  | .num value => value.natAbs < 10 ^ 4300
  | .float value => isFinite value

def sendableItems : List Json → Bool
  | [] => true
  | item :: rest => sendableJson item && sendableItems rest

def sendableFields : List (String × Json) → Bool
  | [] => true
  | (name, value) :: rest => sendable name && sendableJson value && sendableFields rest

end

/-- A float as `jsonb` returns it. A `numeric` has no exponent, so what `repr` writes with one from
10^16 on is read back as an integer, and it has no negative zero. -/
def numeric : PyFloat → Json
  | .finite negative digits exponent short =>
      if 0 ≤ exponent ∧ 10 ^ 16 ≤ digits * 10 ^ exponent.toNat then
        .num (if negative then -(digits * 10 ^ exponent.toNat) else digits * 10 ^ exponent.toNat)
      else .float (.finite (negative && digits ≠ 0) digits exponent short)
  | value => .float value

mutual

/-- A document as its `jsonb` column returns it. -/
def jsonb : Json → Json
  | .arr items => .arr (jsonbItems items)
  | .obj fields => .obj (jsonbFields fields)
  | .float value => numeric value
  | .null => .null
  | .bool value => .bool value
  | .num value => .num value
  | .str text => .str text

def jsonbItems : List Json → List Json
  | [] => []
  | item :: rest => jsonb item :: jsonbItems rest

def jsonbFields : List (String × Json) → List (String × Json)
  | [] => []
  | (name, value) :: rest => (name, jsonb value) :: jsonbFields rest

end

/-- A float below 10^16 that is not the negative zero. -/
def plainFloat : PyFloat → Bool
  | .finite negative digits exponent _ =>
      !(0 ≤ exponent && 10 ^ 16 ≤ digits * 10 ^ exponent.toNat) && !(negative && digits = 0)
  | .nan | .infinity _ => false

mutual

/-- A document that its column accepts and returns as it is. -/
def storableJson : Json → Bool
  | .arr items => storableItems items
  | .obj fields => storableFields fields
  | .float value => plainFloat value
  | .null => true
  | .bool _ => true
  | .num value => sendableJson (.num value)
  | .str text => sendable text

def storableItems : List Json → Bool
  | [] => true
  | item :: rest => storableJson item && storableItems rest

def storableFields : List (String × Json) → Bool
  | [] => true
  | (name, value) :: rest => sendable name && storableJson value && storableFields rest

end

theorem numeric_plain {value : PyFloat} (plain : plainFloat value = true) :
    isFinite value = true ∧ numeric value = .float value := by
  cases value with
  | nan | infinity negative => cases plain
  | finite negative digits exponent short =>
      simp only [plainFloat, Bool.and_eq_true, Bool.not_eq_true', Bool.and_eq_false_iff,
        decide_eq_false_iff_not] at plain
      obtain ⟨small, signed⟩ := plain
      refine ⟨rfl, ?_⟩
      have below : ¬ (0 ≤ exponent ∧ 10 ^ 16 ≤ digits * 10 ^ exponent.toNat) := by tauto
      rw [numeric, if_neg below]
      rcases signed with positive | nonzero
      · simp [positive]
      · simp [nonzero]

mutual

theorem jsonb_storable {value : Json} (storable : storableJson value = true) :
    sendableJson value = true ∧ jsonb value = value := by
  cases value with
  | null | bool flag | num number | str text => exact ⟨storable, rfl⟩
  | float number => exact numeric_plain storable
  | arr items =>
      obtain ⟨sent, same⟩ := @jsonbItems_storable items storable
      exact ⟨sent, congrArg Json.arr same⟩
  | obj fields =>
      obtain ⟨sent, same⟩ := @jsonbFields_storable fields storable
      exact ⟨sent, congrArg Json.obj same⟩

theorem jsonbItems_storable {items : List Json} (storable : storableItems items = true) :
    sendableItems items = true ∧ jsonbItems items = items := by
  cases items with
  | nil => exact ⟨rfl, rfl⟩
  | cons item rest =>
      obtain ⟨first, others⟩ := Bool.and_eq_true_iff.mp storable
      obtain ⟨sent, same⟩ := jsonb_storable first
      obtain ⟨sentRest, sameRest⟩ := jsonbItems_storable others
      exact ⟨Bool.and_eq_true_iff.mpr ⟨sent, sentRest⟩, congrArg₂ List.cons same sameRest⟩

theorem jsonbFields_storable {fields : List (String × Json)}
    (storable : storableFields fields = true) :
    sendableFields fields = true ∧ jsonbFields fields = fields := by
  cases fields with
  | nil => exact ⟨rfl, rfl⟩
  | cons field rest =>
      obtain ⟨name, value⟩ := field
      simp only [storableFields, Bool.and_eq_true] at storable
      obtain ⟨⟨named, first⟩, others⟩ := storable
      obtain ⟨sent, same⟩ := jsonb_storable first
      obtain ⟨sentRest, sameRest⟩ := jsonbFields_storable others
      exact ⟨by simp only [sendableFields, named, sent, sentRest, Bool.and_self],
        by simp only [jsonbFields, same, sameRest]⟩

end

end AiPlatform.Columns

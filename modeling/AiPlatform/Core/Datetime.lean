import Mathlib.Data.Nat.Basic
import Mathlib.Tactic.IntervalCases
import AiPlatform.Core.Value

set_option autoImplicit false

/- `datetime.isoformat` and `datetime.fromisoformat` on instants in UTC. The calendar is the
proleptic Gregorian one, with the ordinals of `datetime.toordinal`. -/
namespace AiPlatform.Datetime

/-- A decimal number with leading zeros. -/
def digits : Nat → Nat → List Char
  | 0, _ => []
  | width + 1, value => Nat.digitChar (value / 10 ^ width % 10) :: digits width value

def digitValue (char : Char) : Option Nat :=
  if '0' ≤ char ∧ char ≤ '9' then some (char.toNat - '0'.toNat) else none

/-- Reads exactly that many digits. -/
def readDigits : Nat → Nat → List Char → Option (Nat × List Char)
  | 0, value, rest => some (value, rest)
  | _ + 1, _, [] => none
  | width + 1, value, char :: rest =>
      (digitValue char).bind fun digit => readDigits width (value * 10 + digit) rest

theorem digitValue_digitChar :
    ∀ digit, digit < 10 → digitValue (Nat.digitChar digit) = some digit := by
  decide

theorem readDigits_digits (width value start : Nat) (rest : List Char) :
    readDigits width start (digits width value ++ rest) =
      some (start * 10 ^ width + value % 10 ^ width, rest) := by
  induction width generalizing start with
  | zero => simp [digits, readDigits, Nat.mod_one]
  | succ width ih =>
      have digit : value / 10 ^ width % 10 < 10 := Nat.mod_lt _ (by decide)
      have split : value % 10 ^ (width + 1) =
          10 ^ width * (value / 10 ^ width % 10) + value % 10 ^ width := by
        rw [pow_succ, Nat.mod_mul]
        omega
      rw [digits, List.cons_append, readDigits, digitValue_digitChar _ digit, Option.bind_some, ih,
        split, pow_succ]
      congr 2
      ring

/-- `_days_before_year`. -/
def daysBeforeYear (year : Nat) : Nat :=
  (year - 1) * 365 + (year - 1) / 4 - (year - 1) / 100 + (year - 1) / 400

def isLeap (year : Nat) : Bool := year % 4 = 0 && (year % 100 ≠ 0 || year % 400 = 0)

/-- `_DAYS_BEFORE_MONTH`. -/
def daysBeforeMonth : Nat → Nat
  | 2 => 31
  | 3 => 59
  | 4 => 90
  | 5 => 120
  | 6 => 151
  | 7 => 181
  | 8 => 212
  | 9 => 243
  | 10 => 273
  | 11 => 304
  | 12 => 334
  | _ => 0

def leapDay (leap : Bool) (month : Nat) : Nat := if 2 < month ∧ leap then 1 else 0

structure Date where
  year : Nat
  month : Nat
  day : Nat
deriving DecidableEq

/-- `_ymd2ord`. -/
def Date.ordinal (date : Date) : Nat :=
  daysBeforeYear date.year + (daysBeforeMonth date.month + leapDay (isLeap date.year) date.month) +
    date.day

/-- The month and day of the day of a year counted from zero, as `_ord2ymd` finds them: a guess
that is at most one month late. -/
def monthDay (leap : Bool) (day : Nat) : Nat × Nat :=
  let guess := (day + 50) / 32
  let month := if day < daysBeforeMonth guess + leapDay leap guess then guess - 1 else guess
  (month, day - (daysBeforeMonth month + leapDay leap month) + 1)

/-- `_ord2ymd` through cycles of 400, 100, 4 and 1 years. -/
def Date.ofOrdinal (ordinal : Nat) : Date :=
  let day := ordinal - 1
  let cycles := day / 146097
  let centuries := day % 146097 / 36524
  let fours := day % 146097 % 36524 / 1461
  let years := day % 146097 % 36524 % 1461 / 365
  let rest := day % 146097 % 36524 % 1461 % 365
  let year := cycles * 400 + centuries * 100 + fours * 4 + years + 1
  if years = 4 ∨ centuries = 4 then ⟨year - 1, 12, 31⟩
  else
    let leap := years = 3 && (fours ≠ 24 || centuries = 3)
    ⟨year, (monthDay leap rest).1, (monthDay leap rest).2⟩

def daysInMonth (leap : Bool) (month : Nat) : Nat :=
  if month = 12 then 31
  else daysBeforeMonth (month + 1) + leapDay leap (month + 1) -
    (daysBeforeMonth month + leapDay leap month)

theorem monthDay_spec : ∀ leap : Bool, ∀ day, day < 365 + leap.toNat →
    1 ≤ (monthDay leap day).1 ∧ (monthDay leap day).1 ≤ 12 ∧ 1 ≤ (monthDay leap day).2 ∧
      (monthDay leap day).2 ≤ daysInMonth leap (monthDay leap day).1 ∧
      daysBeforeMonth (monthDay leap day).1 + leapDay leap (monthDay leap day).1 +
        (monthDay leap day).2 = day + 1 := by
  decide +kernel

/-- The years before one that is so many cycles, centuries, leap periods and years on. -/
theorem daysBeforeYear_cycles (cycles centuries fours years : Nat) (century : centuries ≤ 3)
    (four : fours ≤ 24) (year : years ≤ 3) :
    daysBeforeYear (cycles * 400 + centuries * 100 + fours * 4 + years + 1) =
      cycles * 146097 + centuries * 36524 + fours * 1461 + years * 365 := by
  unfold daysBeforeYear
  omega

theorem isLeap_cycles (cycles centuries fours years : Nat) (century : centuries ≤ 3)
    (four : fours ≤ 24) (year : years ≤ 3) :
    isLeap (cycles * 400 + centuries * 100 + fours * 4 + years + 1) =
      (years = 3 && (fours ≠ 24 || centuries = 3)) := by
  rw [Bool.eq_iff_iff]
  simp only [isLeap, Bool.and_eq_true, Bool.or_eq_true, decide_eq_true_eq]
  omega

/-- The last day of a leap year, which the cycles do not reach. -/
theorem ordinal_lastDay {year : Nat} (leap : isLeap year = true) :
    (Date.mk year 12 31).ordinal = daysBeforeYear year + 366 := by
  simp [Date.ordinal, leap, leapDay, daysBeforeMonth]

theorem ordinal_monthDay {year within : Nat} (short : within < 365) :
    (Date.mk year (monthDay (isLeap year) within).1 (monthDay (isLeap year) within).2).ordinal =
      daysBeforeYear year + within + 1 := by
  have spec := (monthDay_spec (isLeap year) within (by omega)).2.2.2.2
  unfold Date.ordinal
  dsimp only
  omega

theorem ordinal_ofOrdinal {ordinal : Nat} (positive : 1 ≤ ordinal) :
    (Date.ofOrdinal ordinal).ordinal = ordinal := by
  unfold Date.ofOrdinal
  dsimp only
  generalize dayShape : ordinal - 1 = day
  generalize cyclesShape : day / 146097 = cycles
  generalize restShape : day % 146097 = rest
  generalize centuriesShape : rest / 36524 = centuries
  generalize left : rest % 36524 = remaining
  generalize foursShape : remaining / 1461 = fours
  generalize last : remaining % 1461 = final
  generalize yearsShape : final / 365 = years
  generalize inYear : final % 365 = within
  have whole : day = cycles * 146097 + centuries * 36524 + fours * 1461 + years * 365 + within := by
    omega
  split
  · rename_i special
    by_cases fourth : centuries = 4
    · have noFours : fours = 0 := by omega
      have noYears : years = 0 := by omega
      have leap : isLeap (cycles * 400 + centuries * 100 + fours * 4 + years + 1 - 1) = true := by
        simp only [isLeap, Bool.and_eq_true, Bool.or_eq_true, decide_eq_true_eq]
        omega
      rw [ordinal_lastDay leap]
      unfold daysBeforeYear
      omega
    · have fourYears : years = 4 := special.resolve_right fourth
      have few : fours ≤ 23 := by omega
      have century : centuries ≤ 3 := by omega
      have before := daysBeforeYear_cycles cycles centuries fours 3 century (by omega) (le_refl 3)
      have leap : isLeap (cycles * 400 + centuries * 100 + fours * 4 + years + 1 - 1) = true := by
        simp only [isLeap, Bool.and_eq_true, Bool.or_eq_true, decide_eq_true_eq]
        omega
      have same : cycles * 400 + centuries * 100 + fours * 4 + years + 1 - 1 =
          cycles * 400 + centuries * 100 + fours * 4 + 3 + 1 := by omega
      rw [ordinal_lastDay leap, same, before]
      omega
  · rename_i ordinary
    have century : centuries ≤ 3 := by omega
    have four : fours ≤ 24 := by omega
    have year : years ≤ 3 := by omega
    have within_lt : within < 365 := by omega
    rw [← isLeap_cycles cycles centuries fours years century four year,
      ordinal_monthDay within_lt,
        daysBeforeYear_cycles cycles centuries fours years century four year]
    omega

/-- The fields of a datetime in UTC. -/
structure Civil where
  date : Date
  hour : Nat
  minute : Nat
  second : Nat
  microsecond : Nat
deriving DecidableEq

def epochOrdinal : Int := 719163

def microsecondsPerDay : Int := 86400000000

/-- The instant of the fields, `offset` microseconds east of UTC. -/
def Civil.instant (civil : Civil) (offset : Int) : Int :=
  ((civil.date.ordinal : Int) - epochOrdinal) * microsecondsPerDay +
    (civil.hour * 3600 + civil.minute * 60 + civil.second) * microsecondsPerSecond +
    civil.microsecond - offset

def Civil.ofInstant (instant : Int) : Civil :=
  let micros := (instant % microsecondsPerDay).toNat
  { date := Date.ofOrdinal (instant / microsecondsPerDay + epochOrdinal).toNat
    hour := micros / 3600000000
    minute := micros / 60000000 % 60
    second := micros / 1000000 % 60
    microsecond := micros % 1000000 }

/-- The instants between `datetime.min` and `datetime.max`. -/
def Representable (instant : Int) : Prop :=
  1 ≤ instant / microsecondsPerDay + epochOrdinal ∧
    instant / microsecondsPerDay + epochOrdinal ≤ 3652059

instance (instant : Int) : Decidable (Representable instant) :=
  inferInstanceAs (Decidable (_ ∧ _))

theorem instant_ofInstant {instant : Int} (representable : Representable instant) :
    (Civil.ofInstant instant).instant 0 = instant := by
  obtain ⟨low, high⟩ := representable
  have ordinal : 1 ≤ (instant / microsecondsPerDay + epochOrdinal).toNat := by omega
  unfold Civil.ofInstant Civil.instant
  dsimp only
  rw [ordinal_ofOrdinal ordinal]
  unfold microsecondsPerDay epochOrdinal microsecondsPerSecond at *
  omega

def Date.text (date : Date) : List Char :=
  digits 4 date.year ++ ('-' :: (digits 2 date.month ++ ('-' :: digits 2 date.day)))

def Civil.time (civil : Civil) : List Char :=
  digits 2 civil.hour ++ (':' :: (digits 2 civil.minute ++ (':' :: (digits 2 civil.second ++
    if civil.microsecond = 0 then [] else '.' :: digits 6 civil.microsecond))))

/-- `isoformat` of a datetime in UTC. -/
def isoformat (instant : Int) : String :=
  let civil := Civil.ofInstant instant
  String.ofList (civil.date.text ++ ('T' :: (civil.time ++ ['+', '0', '0', ':', '0', '0'])))

theorem daysInMonth_le : ∀ leap : Bool, ∀ month, month < 13 → daysInMonth leap month ≤ 31 := by
  decide

/-- The range checks of the constructor. -/
structure Date.Valid (date : Date) : Prop where
  year : 1 ≤ date.year ∧ date.year ≤ 9999
  month : 1 ≤ date.month ∧ date.month ≤ 12
  day : 1 ≤ date.day ∧ date.day ≤ daysInMonth (isLeap date.year) date.month

structure Civil.Valid (civil : Civil) : Prop where
  date : civil.date.Valid
  hour : civil.hour < 24
  minute : civil.minute < 60
  second : civil.second < 60

instance (date : Date) : Decidable date.Valid :=
  decidable_of_iff ((1 ≤ date.year ∧ date.year ≤ 9999) ∧ (1 ≤ date.month ∧ date.month ≤ 12) ∧
    (1 ≤ date.day ∧ date.day ≤ daysInMonth (isLeap date.year) date.month))
    ⟨fun valid => ⟨valid.1, valid.2.1, valid.2.2⟩,
      fun valid => ⟨valid.year, valid.month, valid.day⟩⟩

instance (civil : Civil) : Decidable civil.Valid :=
  decidable_of_iff (civil.date.Valid ∧ civil.hour < 24 ∧ civil.minute < 60 ∧ civil.second < 60)
    ⟨fun valid => ⟨valid.1, valid.2.1, valid.2.2.1, valid.2.2.2⟩,
      fun valid => ⟨valid.date, valid.hour, valid.minute, valid.second⟩⟩

def expect (char : Char) : List Char → Option (List Char)
  | [] => none
  | head :: rest => if head = char then some rest else none

def readFraction : List Char → Option (Nat × List Char)
  | '.' :: rest => readDigits 6 0 rest
  | rest => some (0, rest)

def readSign : List Char → Option (Int × List Char)
  | '+' :: rest => some (1, rest)
  | '-' :: rest => some (-1, rest)
  | _ => none

def readDate (text : List Char) : Option (Date × List Char) :=
  (readDigits 4 0 text).bind fun (year, rest) =>
    (expect '-' rest).bind fun rest => (readDigits 2 0 rest).bind fun (month, rest) =>
      (expect '-' rest).bind fun rest => (readDigits 2 0 rest).map fun (day, rest) =>
        (⟨year, month, day⟩, rest)

def readTime (date : Date) (text : List Char) : Option (Civil × List Char) :=
  (readDigits 2 0 text).bind fun (hour, rest) =>
    (expect ':' rest).bind fun rest => (readDigits 2 0 rest).bind fun (minute, rest) =>
      (expect ':' rest).bind fun rest => (readDigits 2 0 rest).bind fun (second, rest) =>
        (readFraction rest).map fun (microsecond, rest) =>
          (⟨date, hour, minute, second, microsecond⟩, rest)

/-- The offset from UTC, in microseconds. -/
def readOffset (text : List Char) : Option Int :=
  (readSign text).bind fun (sign, rest) =>
    (readDigits 2 0 rest).bind fun (hours, rest) =>
      (expect ':' rest).bind fun rest => (readDigits 2 0 rest).bind fun (minutes, rest) =>
        if hours < 24 ∧ minutes < 60 ∧ rest = [] then
          some (sign * timedelta (hours * 3600 + minutes * 60))
        else none

/-- `fromisoformat`, on the extended format that `isoformat` writes. -/
def fromisoformat (text : String) : Option Int :=
  (readDate text.toList).bind fun (date, rest) =>
    (expect 'T' rest).bind fun rest => (readTime date rest).bind fun (civil, rest) =>
      (readOffset rest).bind fun offset =>
        if civil.Valid then some (civil.instant offset) else none

theorem ofOrdinal_valid {ordinal : Nat} (low : 1 ≤ ordinal) (high : ordinal ≤ 3652059) :
    (Date.ofOrdinal ordinal).Valid := by
  unfold Date.ofOrdinal
  dsimp only
  generalize dayShape : ordinal - 1 = day
  generalize cyclesShape : day / 146097 = cycles
  generalize restShape : day % 146097 = rest
  generalize centuriesShape : rest / 36524 = centuries
  generalize left : rest % 36524 = remaining
  generalize foursShape : remaining / 1461 = fours
  generalize last : remaining % 1461 = final
  generalize yearsShape : final / 365 = years
  generalize inYear : final % 365 = within
  split
  · refine ⟨⟨?_, ?_⟩, ⟨by simp, by simp⟩, ⟨by simp, by simp [daysInMonth]⟩⟩
    · dsimp only
      omega
    · dsimp only
      omega
  · rename_i ordinary
    have century : centuries ≤ 3 := by omega
    have four : fours ≤ 24 := by omega
    have year : years ≤ 3 := by omega
    rw [← isLeap_cycles cycles centuries fours years century four year]
    obtain ⟨monthLow, monthHigh, dayLow, dayHigh, -⟩ := monthDay_spec
      (isLeap (cycles * 400 + centuries * 100 + fours * 4 + years + 1)) within (by omega)
    refine ⟨⟨?_, ?_⟩, ⟨monthLow, monthHigh⟩, ⟨dayLow, dayHigh⟩⟩
    · dsimp only
      omega
    · dsimp only
      omega

theorem ofInstant_valid {instant : Int} (representable : Representable instant) :
    (Civil.ofInstant instant).Valid := by
  obtain ⟨low, high⟩ := representable
  have micros : 0 ≤ instant % microsecondsPerDay ∧ instant % microsecondsPerDay < 86400000000 := by
    unfold microsecondsPerDay
    omega
  refine ⟨ofOrdinal_valid (by omega) (by omega), ?_, ?_, ?_⟩
  · unfold Civil.ofInstant
    dsimp only
    omega
  · exact Nat.mod_lt _ (by decide)
  · exact Nat.mod_lt _ (by decide)

theorem readDigits_text {width value : Nat} (fits : value < 10 ^ width) (rest : List Char) :
    readDigits width 0 (digits width value ++ rest) = some (value, rest) := by
  rw [readDigits_digits, Nat.zero_mul, Nat.zero_add, Nat.mod_eq_of_lt fits]

theorem readFraction_text {microsecond : Nat} (fits : microsecond < 1000000) (rest : List Char) :
    readFraction ((if microsecond = 0 then [] else '.' :: digits 6 microsecond) ++ '+' :: rest) =
      some (microsecond, '+' :: rest) := by
  split
  · rename_i zero
    rw [zero]
    rfl
  · exact readDigits_text fits _

theorem readDate_text {date : Date} (valid : date.Valid) (rest : List Char) :
    readDate (date.text ++ rest) = some (date, rest) := by
  have year : date.year < 10 ^ 4 := by
    have bound := valid.year.2
    omega
  have month : date.month < 10 ^ 2 := by
    have bound := valid.month.2
    omega
  have day : date.day < 10 ^ 2 := by
    have bound := valid.day.2
    have short := daysInMonth_le (isLeap date.year) date.month
      (Nat.lt_succ_of_le valid.month.2)
    omega
  simp only [readDate, Date.text, List.append_assoc, List.cons_append, readDigits_text year,
    readDigits_text month, readDigits_text day, expect, ↓reduceIte, Option.bind_some,
    Option.map_some]

theorem readTime_text {civil : Civil} (valid : civil.Valid) (micros : civil.microsecond < 1000000)
    (rest : List Char) :
    readTime civil.date (civil.time ++ '+' :: rest) = some (civil, '+' :: rest) := by
  have hour : civil.hour < 10 ^ 2 := lt_trans valid.hour (by decide)
  have minute : civil.minute < 10 ^ 2 := lt_trans valid.minute (by decide)
  have second : civil.second < 10 ^ 2 := lt_trans valid.second (by decide)
  simp only [readTime, Civil.time, List.append_assoc, List.cons_append, readDigits_text hour,
    readDigits_text minute, readDigits_text second, readFraction_text micros, expect, ↓reduceIte,
    Option.bind_some, Option.map_some]

theorem readOffset_utc : readOffset ['+', '0', '0', ':', '0', '0'] = some 0 := by decide

theorem fromisoformat_isoformat {instant : Int} (representable : Representable instant) :
    fromisoformat (isoformat instant) = some instant := by
  have valid := ofInstant_valid representable
  have micros : (Civil.ofInstant instant).microsecond < 1000000 := Nat.mod_lt _ (by decide)
  simp only [fromisoformat, isoformat, String.toList_ofList, readDate_text valid.date, expect,
    ↓reduceIte, readTime_text valid micros, readOffset_utc, Option.bind_some, if_pos valid,
    instant_ofInstant representable]

example : isoformat 951827696000001 = "2000-02-29T12:34:56.000001+00:00" := by decide +kernel

end AiPlatform.Datetime

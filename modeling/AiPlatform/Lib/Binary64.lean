import Mathlib.Data.Int.Log
import Mathlib.Data.Rat.Floor
import Mathlib.Tactic.Linarith

set_option autoImplicit false

/- IEEE binary64 numbers as the rationals they stand for. The two zeros are one number. -/
namespace AiPlatform.Binary64

/-- A mantissa of at most 53 bits over a power of two that the exponent field can hold. -/
def Representable (value : ℚ) : Prop :=
  ∃ mantissa exponent : ℤ, |mantissa| < 2 ^ 53 ∧ -1074 ≤ exponent ∧ exponent ≤ 971 ∧
    value = mantissa * 2 ^ exponent

inductive Double where
  | nan
  | infinite (negative : Bool)
  | finite (value : ℚ) (fits : Representable value)
deriving DecidableEq

namespace Double

/-- No number compares with a NaN. -/
def le : Double → Double → Bool
  | .finite left _, .finite right _ => left ≤ right
  | .infinite true, .infinite _ => true
  | .infinite true, .finite _ _ => true
  | .infinite false, .infinite negative => !negative
  | .infinite false, .finite _ _ => false
  | .finite _ _, .infinite negative => !negative
  | .nan, _ => false
  | _, .nan => false

instance : LE Double := ⟨fun left right => left.le right = true⟩

instance (left right : Double) : Decidable (left ≤ right) :=
  inferInstanceAs (Decidable (left.le right = true))

end Double

/-- The nearest integer, and the even one of two that are as near. -/
def halfEven (value : ℚ) : ℤ :=
  let low := ⌊value⌋
  if value - low < 1 / 2 then low
  else if 1 / 2 < value - low then low + 1
  else if low % 2 = 0 then low
  else low + 1

theorem le_halfEven {value : ℚ} {bound : ℤ} (above : (bound : ℚ) ≤ value) :
    bound ≤ halfEven value := by
  have low : bound ≤ ⌊value⌋ := Int.le_floor.mpr above
  unfold halfEven
  dsimp only
  split_ifs <;> omega

theorem halfEven_le {value : ℚ} {bound : ℤ} (below : value ≤ bound) : halfEven value ≤ bound := by
  have low : ⌊value⌋ ≤ bound := Int.cast_le.mp ((Int.floor_le value).trans below)
  unfold halfEven
  dsimp only
  rcases low.lt_or_eq with under | reached
  · split_ifs <;> omega
  · -- The bound is reached: nothing is left over to round.
    have nothing : value - ⌊value⌋ < 1 / 2 := by
      rw [reached]
      linarith
    rw [if_pos nothing]
    exact low

/-- An even bound is met from half a unit below it. -/
theorem even_le_halfEven {value : ℚ} {bound : ℤ} (even : bound % 2 = 0) :
    bound ≤ halfEven value ↔ (bound : ℚ) - 1 / 2 ≤ value := by
  have floors := Int.floor_le value
  have above := Int.lt_floor_add_one value
  unfold halfEven
  dsimp only
  constructor
  · intro reached
    by_cases under : ⌊value⌋ < bound
    · have next : ⌊value⌋ + 1 = bound := by
        split_ifs at reached <;> omega
      have cast : (bound : ℚ) = ⌊value⌋ + 1 := by rw [← next]; push_cast; rfl
      split_ifs at reached with less more
      · omega
      · linarith
      · omega
      · linarith
    · have cast : (bound : ℚ) ≤ ⌊value⌋ := Int.cast_le.mpr (by omega)
      linarith
  · intro near
    by_cases under : ⌊value⌋ < bound
    · have next : ⌊value⌋ + 1 = bound := by
        have reach : (bound : ℚ) < ((⌊value⌋ + 2 : ℤ) : ℚ) := by
          push_cast
          linarith
        have next := Int.cast_lt.mp reach
        omega
      have cast : (bound : ℚ) = ⌊value⌋ + 1 := by rw [← next]; push_cast; rfl
      split_ifs with less more parity
      · linarith
      · omega
      · omega
      · omega
    · split_ifs <;> omega

/-- The exponent of the last place of a magnitude. -/
def lastPlace (magnitude : ℚ) : ℤ := max (Int.log 2 magnitude - 52) (-1074)

/-- A magnitude rounded at its last place. -/
def rounded (magnitude : ℚ) : ℚ :=
  halfEven (magnitude / 2 ^ lastPlace magnitude) * 2 ^ lastPlace magnitude

/-- The power of two that is too large, and half a unit in the last place below it. -/
def limit : ℚ := 2 ^ (1024 : ℤ)

def halfStep : ℚ := 2 ^ (970 : ℤ)

section Rounding

variable {magnitude : ℚ}

theorem pow_pos' (exponent : ℤ) : (0 : ℚ) < 2 ^ exponent := zpow_pos (by norm_num) exponent

theorem pow_le {small large : ℤ} : (2 : ℚ) ^ small ≤ 2 ^ large ↔ small ≤ large :=
  zpow_le_zpow_iff_right₀ (by norm_num)

theorem pow_lt {small large : ℤ} : (2 : ℚ) ^ small < 2 ^ large ↔ small < large :=
  zpow_lt_zpow_iff_right₀ (by norm_num)

/-- The powers of two are integers from the last place on. -/
theorem pow_split (whole place : ℤ) (above : place ≤ whole) :
    (2 : ℚ) ^ whole = ((2 ^ (whole - place).toNat : ℤ) : ℚ) * 2 ^ place := by
  push_cast
  rw [← zpow_natCast, ← zpow_add₀ (by norm_num)]
  congr 1
  omega

theorem le_rounded (whole : ℤ) (above : lastPlace magnitude ≤ whole)
    (reached : (2 : ℚ) ^ whole ≤ magnitude) : (2 : ℚ) ^ whole ≤ rounded magnitude := by
  rw [pow_split whole _ above] at reached ⊢
  have bound := le_halfEven ((le_div_iff₀ (pow_pos' _)).mpr reached)
  exact mul_le_mul_of_nonneg_right (Int.cast_le.mpr bound) (pow_pos' _).le

theorem rounded_le (whole : ℤ) (above : lastPlace magnitude ≤ whole)
    (reached : magnitude ≤ (2 : ℚ) ^ whole) : rounded magnitude ≤ (2 : ℚ) ^ whole := by
  rw [pow_split whole _ above] at reached ⊢
  have bound := halfEven_le ((div_le_iff₀ (pow_pos' _)).mpr reached)
  exact mul_le_mul_of_nonneg_right (Int.cast_le.mpr bound) (pow_pos' _).le

theorem rounded_zero : rounded 0 = 0 := by
  have zero : halfEven 0 = 0 := by decide +kernel
  rw [rounded, zero_div, zero]
  simp

theorem limit_eq : limit = ((2 ^ 53 : ℤ) : ℚ) * 2 ^ (971 : ℤ) :=
  pow_split 1024 971 (by norm_num)

theorem halfStep_eq : halfStep * 2 = 2 ^ (971 : ℤ) := by
  rw [halfStep, ← zpow_add_one₀ (by norm_num)]
  rfl

theorem half_limit_lt : (2 : ℚ) ^ (1023 : ℤ) < limit - halfStep := by
  have whole : (2 : ℚ) ^ (1023 : ℤ) = ((2 ^ 52 : ℤ) : ℚ) * 2 ^ (971 : ℤ) :=
    pow_split 1023 971 (by norm_num)
  have unit := pow_pos' 971
  have step := halfStep_eq
  rw [whole, limit_eq]
  generalize (2 : ℚ) ^ (971 : ℤ) = place at unit step ⊢
  push_cast
  linarith

/-- What is rounded overflows from half a unit below the power that is too large on. -/
theorem overflows_iff (nonneg : 0 ≤ magnitude) :
    limit ≤ rounded magnitude ↔ limit - halfStep ≤ magnitude := by
  have step : 0 < halfStep := pow_pos' 970
  have gap : 0 < limit - halfStep := (pow_pos' 1023).trans half_limit_lt
  rcases nonneg.eq_or_lt with rfl | positive
  · rw [rounded_zero]
    exact iff_of_false (by linarith) (by linarith)
  · have low := Int.zpow_log_le_self Nat.one_lt_two positive
    have high := Int.lt_zpow_succ_log_self Nat.one_lt_two magnitude
    rw [Nat.cast_ofNat] at low high
    have place : lastPlace magnitude = max (Int.log 2 magnitude - 52) (-1074) := rfl
    rcases lt_trichotomy (Int.log 2 magnitude) 1023 with small | top | great
    · have reach : (2 : ℚ) ^ (Int.log 2 magnitude + 1) ≤ 2 ^ (1023 : ℤ) := pow_le.mpr (by omega)
      have before : magnitude < limit - halfStep := (high.trans_le reach).trans half_limit_lt
      have after : rounded magnitude < limit - halfStep :=
        (rounded_le 1023 (by omega) (high.le.trans reach)).trans_lt half_limit_lt
      exact iff_of_false (by linarith) (by linarith)
    · have unit : lastPlace magnitude = 971 := by omega
      have half : (((2 ^ 53 : ℤ) : ℚ) - 1 / 2) * 2 ^ (971 : ℤ) = limit - halfStep := by
        rw [sub_mul, ← limit_eq, ← halfStep_eq]
        ring
      have even : (2 ^ 53 : ℤ) % 2 = 0 := by decide
      rw [← half, rounded, unit, limit_eq, mul_le_mul_iff_left₀ (pow_pos' 971), Int.cast_le,
        even_le_halfEven even, le_div_iff₀ (pow_pos' 971)]
    · have reach : limit ≤ 2 ^ Int.log 2 magnitude := pow_le.mpr (by omega)
      have before := reach.trans low
      have after := reach.trans (le_rounded (Int.log 2 magnitude) (by omega) low)
      exact iff_of_true after (by linarith)

theorem mantissa_nonneg (nonneg : 0 ≤ magnitude) :
    0 ≤ halfEven (magnitude / 2 ^ lastPlace magnitude) := by
  apply le_halfEven
  rw [Int.cast_zero]
  exact div_nonneg nonneg (pow_pos' (lastPlace magnitude)).le

/-- Rounding up may make a mantissa of 54 bits. -/
theorem mantissa_le : halfEven (magnitude / 2 ^ lastPlace magnitude) ≤ 2 ^ 53 := by
  have place : lastPlace magnitude = max (Int.log 2 magnitude - 52) (-1074) := rfl
  have high := Int.lt_zpow_succ_log_self Nat.one_lt_two magnitude
  rw [Nat.cast_ofNat] at high
  have reach : (2 : ℚ) ^ (Int.log 2 magnitude + 1) ≤ 2 ^ (lastPlace magnitude + 53) :=
    pow_le.mpr (by omega)
  refine halfEven_le ((div_le_iff₀ (pow_pos' _)).mpr ((high.le.trans reach).trans ?_))
  rw [pow_split (lastPlace magnitude + 53) (lastPlace magnitude) (by omega)]
  simp

/-- The last place of what does not overflow is one of the exponents. -/
theorem lastPlace_le (inside : rounded magnitude < limit) : lastPlace magnitude ≤ 971 := by
  have place : lastPlace magnitude = max (Int.log 2 magnitude - 52) (-1074) := rfl
  by_contra above
  have positive : 0 < magnitude := by
    by_contra none
    have log : Int.log 2 magnitude = 0 := Int.log_of_right_le_zero 2 (not_lt.mp none)
    omega
  have low := Int.zpow_log_le_self Nat.one_lt_two positive
  rw [Nat.cast_ofNat] at low
  have reach : limit ≤ 2 ^ Int.log 2 magnitude := pow_le.mpr (by omega)
  exact absurd (reach.trans (le_rounded _ (by omega) low)) (not_le.mpr inside)

/-- Rounding gives a binary64 number, if it does not overflow. -/
theorem rounded_representable (nonneg : 0 ≤ magnitude) (inside : rounded magnitude < limit) :
    Representable (rounded magnitude) := by
  have least := mantissa_nonneg nonneg
  have most : halfEven (magnitude / 2 ^ lastPlace magnitude) ≤ 2 ^ 53 := mantissa_le
  have above : -1074 ≤ lastPlace magnitude := le_max_right _ _
  have below := lastPlace_le inside
  rcases most.lt_or_eq with small | carried
  · exact ⟨_, _, abs_lt.mpr ⟨by omega, small⟩, above, below, rfl⟩
  · have whole : rounded magnitude = 2 ^ (lastPlace magnitude + 53) := by
      rw [rounded, carried, pow_split (lastPlace magnitude + 53) (lastPlace magnitude) (by omega)]
      simp
    have next : lastPlace magnitude + 53 < 1024 := by
      rw [whole] at inside
      exact pow_lt.mp inside
    refine ⟨2 ^ 52, lastPlace magnitude + 1, by decide, by omega, by omega, ?_⟩
    rw [whole, pow_split (lastPlace magnitude + 53) (lastPlace magnitude + 1) (by omega)]
    have places : (lastPlace magnitude + 53 - (lastPlace magnitude + 1)).toNat = 52 := by omega
    rw [places]

theorem Representable.neg {value : ℚ} (fits : Representable value) : Representable (-value) := by
  obtain ⟨mantissa, exponent, small, least, most, rfl⟩ := fits
  refine ⟨-mantissa, exponent, ?_, least, most, ?_⟩
  · rw [abs_neg]
    exact small
  · push_cast
    ring

end Rounding

/-- The nearest number, of which there is none when the value is too large. -/
def nearest (value : ℚ) : Double :=
  if inside : rounded |value| < limit then
    if value < 0 then .finite (-rounded |value|) (rounded_representable (abs_nonneg _) inside).neg
    else .finite (rounded |value|) (rounded_representable (abs_nonneg _) inside)
  else .infinite (value < 0)

theorem nearest_infinite_iff (value : ℚ) :
    (∃ negative, nearest value = .infinite negative) ↔ limit - halfStep ≤ |value| := by
  rw [← overflows_iff (abs_nonneg value), nearest]
  split_ifs with inside negative
  · exact iff_of_false nofun (not_le.mpr inside)
  · exact iff_of_false nofun (not_le.mpr inside)
  · exact iff_of_true ⟨_, rfl⟩ (not_lt.mp inside)

end AiPlatform.Binary64

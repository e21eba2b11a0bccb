import Mathlib.Algebra.Order.Floor.Ring
import Mathlib.Data.Rat.Floor

set_option autoImplicit false

/- Values shared by the components: JSON documents, instants and Python errors. -/
namespace AiPlatform

/-- A Python float. A finite one is the decimal `digits * 10 ^ exponent` that `repr` writes, the
shortest that reads back as the float. -/
inductive PyFloat where
  | nan
  | infinity (negative : Bool)
  | finite (negative : Bool) (digits : Nat) (exponent : Int) (short : digits < 10 ^ 17)
deriving DecidableEq

inductive Json where
  | null
  | bool (value : Bool)
  | num (value : Int)
  | float (value : PyFloat)
  | str (value : String)
  | arr (items : List Json)
  | obj (fields : List (String × Json))
deriving Inhabited

/-- A timezone-aware datetime is an `Int` of microseconds since the epoch. -/
def microsecondsPerSecond : Int := 1000000

/-- `timedelta(seconds=n)` for an integer number of seconds. -/
def timedelta (seconds : Int) : Int := seconds * microsecondsPerSecond

theorem timedelta_pos {seconds : Int} (positive : 0 < seconds) : 0 < timedelta seconds := by
  unfold timedelta microsecondsPerSecond
  omega

/-- `timedelta(seconds=x)` for a fractional argument: the nearest microsecond, ties to even. -/
def timedeltaOfRat (seconds : Rat) : Int :=
  let scaled := seconds * 1000000
  let low := scaled.floor
  if scaled - low < 1 / 2 then low
  else if 1 / 2 < scaled - low then low + 1
  else if low % 2 = 0 then low else low + 1

theorem timedeltaOfRat_zero : timedeltaOfRat 0 = 0 := by
  decide +kernel

theorem timedeltaOfRat_mono {less more : Rat} (ordered : less ≤ more) :
    timedeltaOfRat less ≤ timedeltaOfRat more := by
  have scaled : less * 1000000 ≤ more * 1000000 := by linarith
  have floors := Rat.floor_monotone scaled
  unfold timedeltaOfRat
  dsimp only
  by_cases same : (less * 1000000).floor = (more * 1000000).floor
  · -- The parts past one microsecond are ordered as the seconds are.
    rw [same]
    split_ifs <;> first | omega | linarith
  · split_ifs <;> omega

structure PyClass where
  module : String
  name : String
deriving DecidableEq

/-- What the code reads off an exception: its classes (own class first), its text, and the
HTTP status and retry hint it carries. -/
structure PyError where
  mro : List PyClass
  text : String
  statusCode : Option Int := none
  retryAfter : Option Rat := none
deriving DecidableEq

def PyError.isinstance (error : PyError) (cls : PyClass) : Bool := cls ∈ error.mro

end AiPlatform

import PeSignals.Decimal.Fixed
import PeSignals.Decimal.Whole
import PeSignals.Json.Literal
import PeSignals.Time.Moment

/-!
# Distances

A moment that lies a number of microseconds after another, or before it when the number is negative.
The distance is less than a thousand million days, and the moment lies in the years 1 to 9999.
-/
namespace PeSignals.Time

/-- Why a distance leads to no moment. -/
inductive DistanceFault
  /-- The distance is no number but a value of another kind. -/
  | notNumber (kindName : String)
  | notWhole (cause : Decimal.NotWhole)
  /-- The number of days is beyond any that is looked at. -/
  | uncountable
  | tooLong (days : Int)
  /-- The moment lies outside the calendar. -/
  | outside
  deriving Repr, DecidableEq

namespace DistanceFault

def message : DistanceFault → String
  | notNumber kindName => s!"unsupported type for timedelta microseconds component: {kindName}"
  | notWhole cause => cause.message
  | uncountable => "Python int too large to convert to C int"
  | tooLong days => s!"days={days}; must have magnitude <= 999999999"
  | outside => "date value out of range"

def category : DistanceFault → String
  | notNumber _ => "TypeError"
  | notWhole cause => cause.category
  | uncountable | tooLong _ | outside => "OverflowError"

end DistanceFault

/-- The whole number that is nearest to a double, of two the even one. -/
def nearestWhole (x : Float) : Except Decimal.NotWhole Int :=
  match Decimal.Binary64.ofFloat x with
  | .nan => .error .nan
  | .infinite _ => .error .infinite
  | .finite negative d =>
    let size : Int := Decimal.placeUnits d 0
    .ok (if negative then -size else size)

/-- A value as a number of microseconds. -/
def microsecondsOf : Json → Except DistanceFault Int
  | .int n => .ok n
  | .bool b => .ok (if b then 1 else 0)
  | .float x => (nearestWhole x).mapError .notWhole
  | j => .error (.notNumber j.kindName)

def dayLength : Int := 86400000000

/-- The first and the last microsecond of the calendar: the years 1 to 9999. -/
def calendarRange : Int × Int := (Moment.calendarStart, 253402300799999999)

/-- The moment that lies a number of microseconds after another. -/
def Moment.after (m : Moment) (distance : Int) : Except DistanceFault Moment :=
  let days := distance / dayLength
  let reached := m.microseconds + distance
  if days < -0x80000000 ∨ 0x80000000 ≤ days then .error .uncountable
  else if 999999999 < days.natAbs then .error (.tooLong days)
  else if reached < calendarRange.1 ∨ calendarRange.2 < reached then .error .outside
  else .ok { m with microseconds := reached }

end PeSignals.Time

import PeSignals.Decimal.Shortest

/-!
# Significant digits

Doubles from a decimal point and an exponent, and doubles as texts with a set number of significant
digits. The exact value is rounded, and a half goes to the even neighbour.
-/
namespace PeSignals.Decimal

def digitCount (n : Nat) : Nat := (toString n).length

/-- The double nearest to `digits * 10 ^ exponent`. Beyond the range of doubles it is infinite or
zero. -/
def ofDigits (negative : Bool) (digits : Nat) (exponent : Int) : Float :=
  let top : Int := exponent + digitCount digits
  let x : Float :=
    if digits = 0 ∨ top < -400 then 0
    else if 400 < top then 1 / 0
    else Float.ofScientific digits (exponent < 0) exponent.natAbs
  if negative then -x else x

/-- The exponent of the first significant digit of a magnitude that is not zero. -/
def leadingExponent (d : Dyadic) : Int :=
  let guess : Int := digitCount d.numerator - digitCount d.denominator
  let reached : Bool :=
    if 0 ≤ guess then d.denominator * Nat.pow 10 guess.natAbs ≤ d.numerator
    else d.denominator ≤ d.numerator * Nat.pow 10 guess.natAbs
  if reached then guess else guess - 1

/-- The digits and exponent of a magnitude rounded to `places` digits after the first. -/
def significant (d : Dyadic) (places : Nat) : Nat × Int :=
  if d.numerator = 0 then (0, 0)
  else
    let exponent := leadingExponent d
    let shift : Int := places - exponent
    let rounded :=
      if 0 ≤ shift then roundDiv (d.numerator * Nat.pow 10 shift.natAbs) d.denominator
      else roundDiv d.numerator (d.denominator * Nat.pow 10 shift.natAbs)
    if Nat.pow 10 (places + 1) ≤ rounded then (rounded / 10, exponent + 1) else (rounded, exponent)

/-- A decimal text with a point, which stands at the end if there is none yet. -/
def withPoint (text : String) : String :=
  if text.toList.contains '.' then text else text ++ "."

/-- A decimal text without the zeros that end its fraction. -/
def withoutEndZeros (text : String) : String :=
  if text.toList.contains '.' then
    let kept := text.toList.reverse.dropWhile (· = '0')
    String.ofList (kept.dropWhile (· = '.')).reverse
  else text

/-- A magnitude with one digit before the point and `places` after it. A `full` text has a point even
without places. -/
def scientific (d : Dyadic) (places : Nat) (full : Bool) : String :=
  let (digits, exponent) := significant d places
  let text := placeText digits places
  (if full then withPoint text else text) ++ exponentText exponent

/-- A magnitude with `digits` significant digits, positional from 0.0001 on as long as the digits
reach the point. Unless the text is `full`, zeros at the end of the fraction are left out. -/
def general (d : Dyadic) (digits : Nat) (full : Bool) : String :=
  let digits := max digits 1
  let ending (text : String) := if full then withPoint text else withoutEndZeros text
  let (rounded, exponent) := significant d (digits - 1)
  if -4 ≤ exponent ∧ exponent < digits then
    let places := (digits - 1 - exponent).toNat
    ending (placeText (placeUnits d places) places)
  else ending (placeText rounded (digits - 1)) ++ exponentText exponent

end PeSignals.Decimal

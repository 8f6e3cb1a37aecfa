import PeSignals.Decimal.Fixed

/-!
# Shortest decimals

The text of a double with the fewest significant digits that still identify it, and among those the
digits nearest to its exact value. Small and large values are written with an exponent.
-/
namespace PeSignals.Decimal

/-- The number `digits * 10 ^ exponent`. -/
structure Scientific where
  digits : Nat
  exponent : Int
  deriving Repr, DecidableEq

/-- The real numbers that round to a double, in units of `2 ^ unit`; the ends belong to it exactly
if `closed`. -/
structure RoundingInterval where
  low : Nat
  centre : Nat
  high : Nat
  unit : Int
  closed : Bool
  deriving Repr, DecidableEq

/-- The interval around a positive double: half a step up and half a step down, where the step down
from a power of two is half as long. -/
def RoundingInterval.of (d : Dyadic) : RoundingInterval where
  low := if d.mantissa = Nat.pow 2 52 ∧ d.exponent > -1074 then 4 * d.mantissa - 1 else 4 * d.mantissa - 2
  centre := 4 * d.mantissa
  high := 4 * d.mantissa + 2
  unit := d.exponent - 2
  closed := d.mantissa % 2 = 0

/-- Whether `x / scale` lies in the interval `low / 1` to `high / 1` after scaling. -/
def RoundingInterval.holds (i : RoundingInterval) (x scale : Nat) : Bool :=
  if i.closed then i.low * scale ≤ x && x ≤ i.high * scale
  else i.low * scale < x && x < i.high * scale

/-- The neighbour of the centre on the grid of step `10 ^ p` that lies in the interval and nearest
to the centre; of two equally near ones the even. -/
def gridPoint? (i : RoundingInterval) (p : Int) : Option Nat :=
  let step := Nat.pow 10 p.toNat * Nat.pow 2 (-i.unit).toNat
  let scale := Nat.pow 2 i.unit.toNat * Nat.pow 10 (-p).toNat
  let below := i.centre * scale / step
  match i.holds (below * step) scale, i.holds ((below + 1) * step) scale with
  | true, true => some (roundDiv (i.centre * scale) step)
  | true, false => some below
  | false, true => some (below + 1)
  | false, false => none

/-- The number of decimal digits before the point; for numbers below one, minus the zeros behind
it. -/
def magnitudeDigits (d : Dyadic) : Int :=
  if d.denominator ≤ d.numerator then (toString (d.numerator / d.denominator)).length
  else 1 - (toString (d.denominator / d.numerator)).length

/-- The first grid with a point in the interval, trying `left` further digit counts from `count`. -/
def shortestFrom (i : RoundingInterval) (top : Int) (count : Nat) : Nat → Scientific
  | 0 => ⟨(gridPoint? i (top - count)).getD 0, top - count⟩
  | left + 1 =>
    match gridPoint? i (top - count) with
    | some digits => ⟨digits, top - count⟩
    | none => shortestFrom i top (count + 1) left

/-- The shortest decimal that rounds to a magnitude. -/
def shortest (d : Dyadic) : Scientific :=
  if d.mantissa = 0 then ⟨0, 0⟩
  else shortestFrom (RoundingInterval.of d) (magnitudeDigits d) 1 16

def dropTrailingZeros (digits : String) : String :=
  String.ofList (digits.toList.reverse.dropWhile (· = '0')).reverse

/-- An exponent with its sign and at least two digits. -/
def exponentText (e : Int) : String :=
  (if e < 0 then "e-" else "e+") ++ padZeros 2 (toString e.natAbs)

/-- Lays out digits with the point after the first `point` of them: positional from `10 ^ -4` up to
`10 ^ 16`, always with a place behind the point, and with an exponent beyond. -/
def layOut (digits : String) (point : Int) : String :=
  if point ≤ -4 ∨ point > 16 then
    let head := String.ofList (digits.toList.take 1)
    let tail := String.ofList (digits.toList.drop 1)
    head ++ (if tail.isEmpty then "" else "." ++ tail) ++ exponentText (point - 1)
  else if point ≤ 0 then
    "0." ++ "".pushn '0' (-point).toNat ++ digits
  else
    let whole := String.ofList (digits.toList.take point.toNat)
    let places := String.ofList (digits.toList.drop point.toNat)
    whole ++ "".pushn '0' (point.toNat - digits.length) ++ "." ++
      (if places.isEmpty then "0" else places)

def magnitudeText (d : Dyadic) : String :=
  if d.mantissa = 0 then "0.0"
  else
    let s := shortest d
    let all := toString s.digits
    layOut (dropTrailingZeros all) (s.exponent + all.length)

def shortestText (x : Float) : String :=
  match Binary64.ofFloat x with
  | .nan => "nan"
  | .infinite negative => if negative then "-inf" else "inf"
  | .finite negative d => (if negative then "-" else "") ++ magnitudeText d

end PeSignals.Decimal

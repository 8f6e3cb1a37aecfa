import PeSignals.Decimal.Binary64

/-!
# Fixed places

Decimal text with a set number of places. The exact value is rounded, a half goes to the even
neighbour, and the sign of a value that rounds to zero is kept.
-/
namespace PeSignals.Decimal

/-- Pads digits on the left with zeros up to a width. -/
def padZeros (width : Nat) (digits : String) : String :=
  "".pushn '0' (width - digits.length) ++ digits

/-- A whole number of units of `10 ^ -places` as text. -/
def placeText (units places : Nat) : String :=
  if places = 0 then toString units
  else toString (units / Nat.pow 10 places) ++ "." ++ padZeros places (toString (units % Nat.pow 10 places))

/-- The number of units of `10 ^ -places` nearest to a magnitude. -/
def placeUnits (d : Dyadic) (places : Nat) : Nat :=
  roundDiv (d.numerator * Nat.pow 10 places) d.denominator

/-- A double with a set number of places. -/
def fixed (x : Float) (places : Nat) : String :=
  match Binary64.ofFloat x with
  | .nan => "nan"
  | .infinite negative => if negative then "-inf" else "inf"
  | .finite negative d =>
    (if negative then "-" else "") ++ placeText (placeUnits d places) places

/-- A share of one as a whole number of hundredths. -/
def percent (x : Float) : String :=
  fixed (x * 100) 0 ++ "%"

/-- The double nearest to a value rounded to a set number of places. -/
def roundPlaces (x : Float) (places : Nat) : Float :=
  match Binary64.ofFloat x with
  | .finite negative d =>
    let rounded := Float.ofScientific (placeUnits d places) true places
    if negative then -rounded else rounded
  | _ => x

end PeSignals.Decimal

import PeSignals.Decimal.Binary64

/-!
# Whole parts

The whole number next to a double on the side of zero.
-/
namespace PeSignals.Decimal

/-- Why a double has no whole part. -/
inductive NotWhole
  | nan
  | infinite
  deriving Repr, DecidableEq

def NotWhole.message : NotWhole → String
  | nan => "cannot convert float NaN to integer"
  | infinite => "cannot convert float infinity to integer"

def NotWhole.category : NotWhole → String
  | nan => "ValueError"
  | infinite => "OverflowError"

/-- The whole part of a double, without its fraction. -/
def wholePart (x : Float) : Except NotWhole Int :=
  match Binary64.ofFloat x with
  | .nan => .error .nan
  | .infinite _ => .error .infinite
  | .finite negative d =>
    let magnitude : Int := (d.numerator / d.denominator : Nat)
    .ok (if negative then -magnitude else magnitude)

end PeSignals.Decimal

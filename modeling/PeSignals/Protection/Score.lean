/-!
# Scores

A compatibility score is built up by a few adjustments in hundredths. It has two readings: the exact
one in whole hundredths, and the double that the same steps give in binary arithmetic, which may be
off in the last place. Both end between 0 and 1.
-/
namespace PeSignals.Protection

/-- One change of a score, in hundredths. -/
inductive Adjustment
  | set (hundredths : Nat)
  | lower (hundredths : Nat)
  deriving Repr, DecidableEq

/-- The adjustments of a score in the order in which they apply, starting from zero. -/
structure Score where
  adjustments : List Adjustment := []
  deriving Repr, DecidableEq

def hundredthsFloat (n : Nat) : Float := Float.ofScientific n true 2

namespace Adjustment

/-- An adjustment in exact hundredths. -/
def exact (score : Int) : Adjustment → Int
  | set n => n
  | lower n => score - n

/-- An adjustment in binary arithmetic. -/
def binary (score : Float) : Adjustment → Float
  | set n => hundredthsFloat n
  | lower n => score - hundredthsFloat n

end Adjustment

namespace Score

/-- The exact score in hundredths, between 0 and 100. -/
def hundredths (s : Score) : Int :=
  min (max (s.adjustments.foldl Adjustment.exact 0) 0) 100

def toFloat (s : Score) : Float :=
  let x := s.adjustments.foldl Adjustment.binary 0
  if x < 0 then 0 else if 1 < x then 1 else x

end Score

end PeSignals.Protection

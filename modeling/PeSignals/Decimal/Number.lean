import PeSignals.Decimal.Binary64

/-!
# Numbers

A number is whole or a double. Comparisons are exact, whatever the two kinds are.
-/
namespace PeSignals

inductive Number
  | int (value : Int)
  | float (value : Float)
  deriving Repr

namespace Number

open Decimal (Binary64)

def toFloat : Number → Float
  | int n => Float.ofInt n
  | float x => x

/-- A finite double as a fraction. -/
def fraction (negative : Bool) (d : Decimal.Dyadic) : Int × Nat :=
  (if negative then -(d.numerator : Int) else d.numerator, d.denominator)

/-- Whether a whole number is below a double. -/
def intBelow (n : Int) (x : Float) : Bool :=
  match Binary64.ofFloat x with
  | .nan => false
  | .infinite negative => !negative
  | .finite negative d => n * (fraction negative d).2 < (fraction negative d).1

/-- Whether a double is below a whole number. -/
def belowInt (x : Float) (n : Int) : Bool :=
  match Binary64.ofFloat x with
  | .nan => false
  | .infinite negative => negative
  | .finite negative d => (fraction negative d).1 < n * (fraction negative d).2

def below : Number → Number → Bool
  | int m, int n => m < n
  | int m, float x => intBelow m x
  | float x, int n => belowInt x n
  | float x, float y => x < y

def equals : Number → Number → Bool
  | int m, int n => m = n
  | float x, float y => x == y
  | int m, float x | float x, int m => !x.isNaN && !intBelow m x && !belowInt x m

/-- Whether a number is a whole number beyond the doubles. -/
def isTooLarge : Number → Bool
  | int n => !(Float.ofInt n).isFinite
  | float _ => false

/-- Whether a number is not above zero; what is no number is not. -/
def isNotPositive : Number → Bool
  | int n => n ≤ 0
  | float x => !(0 < x)

end Number

end PeSignals

import PeSignals.Display.Fault
import PeSignals.Entropy.Class

/-!
# Gauges

Colours for entropies and scores, and bars of a set width that show a share in such a colour.
-/
namespace PeSignals.Display

/-- A colour reaches up to, but not including, its bound. -/
def entropyColours : List (Float × String) :=
  [(1.0, "bright_green"), (4.5, "green"), (6.5, "yellow"), (7.0, "bright_yellow"), (7.5, "red"),
    (8.1, "bright_red")]

def entropyColour (entropy : Float) : String :=
  Entropy.labelBelow entropyColours "bright_red" entropy

/-- The colour of a score between 0 and 1; higher is better. -/
def scoreColour (score : Float) : String :=
  if score ≥ 0.9 then "bright_green"
  else if score ≥ 0.6 then "yellow"
  else if score ≥ 0.3 then "red"
  else "bright_red"

/-- A bar of marked and unmarked cells. -/
def barOf (colour marked unmarked : String) : String :=
  "[" ++ colour ++ "]" ++ marked ++ "[/" ++ colour ++ "][dim]" ++ unmarked ++ "[/dim]"

/-- A bar of `width` cells of which `filled` are marked. -/
def bar (colour : String) (width filled : Int) : String :=
  barOf colour ("".pushn '#' filled.toNat) ("".pushn '.' (width - filled).toNat)

/-- The share of a bar that an entropy marks: all of it at entropy 8 and above. -/
def entropyShare (entropy : Float) : Float :=
  let share := entropy / 8
  if 1 < share then 1 else share

/-- A bar that is full at entropy 8 and above. -/
def entropyBar (entropy : Float) (width : Int) : Except Decimal.NotWhole String := do
  let filled ← Decimal.wholePart (entropyShare entropy * Float.ofInt width)
  return bar (entropyColour entropy) width filled

/-- A bar of 40 cells for a score. -/
def scoreBar (score : Float) : Except Decimal.NotWhole String := do
  let filled ← Decimal.wholePart (score * 40)
  return bar (scoreColour score) 40 filled

/-! ## Gauges of any values -/

/-- A bar whose parts may be too long to be kept. -/
def longBar (colour : String) (width filled : Int) : Json.Used String := do
  let marked ← Json.repeated '#' filled
  return barOf colour marked (← Json.repeated '.' (width - filled))

/-- The number of cells of a bar as a double. -/
def cellsOf (width : Json) : Json.Used Float :=
  match width with
  | .string _ | .array _ => .error (.brokenCount "float")
  | width =>
    if width.number?.isSome then width.toDouble
    else .error (.noArithmetic "*" "float" width.kindName)

/-- A value as an entropy. -/
def entropyOf (entropy : Json) : Json.Used Float :=
  if entropy.number?.isSome then entropy.toDouble
  else .error (.noArithmetic "/" entropy.kindName "float")

/-- An entropy bar for values of any kind. -/
def entropyBarOf (entropy width : Json) : Except Fault String := do
  let entropy ← entropyOf entropy
  let cells ← cellsOf width
  let filled ← Decimal.wholePart (entropyShare entropy * cells)
  let colour := entropyColour entropy
  match width with
  | .float _ => do
    discard <| Json.repeated '#' filled
    throw (.misuse (.brokenCount "float"))
  | width => longBar colour (← width.countOf) filled

/-- A score bar for a score of any size. -/
def longScoreBar (score : Float) : Except Fault String := do
  let filled ← Decimal.wholePart (score * 40)
  longBar (scoreColour score) 40 filled

end PeSignals.Display

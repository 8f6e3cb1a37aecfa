/-!
# Entropy classes

What an entropy suggests about the bytes it was measured on.
-/
namespace PeSignals.Entropy

/-- A class reaches up to, but not including, its bound. -/
def classBounds : List (Float × String) :=
  [(1.0, "null/empty"), (4.5, "code/data"), (6.5, "structured data"),
    (7.0, "compressed or high-entropy code"), (7.5, "likely packed")]

/-- The label of the first class whose bound lies above a value. -/
def labelBelow (bounds : List (Float × String)) (otherwise : String) (x : Float) : String :=
  match bounds.find? fun bound => x < bound.1 with
  | some bound => bound.2
  | none => otherwise

def classify (entropy : Float) : String :=
  labelBelow classBounds "encrypted/compressed" entropy

end PeSignals.Entropy

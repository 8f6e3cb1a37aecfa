/-!
# Sorted sets of texts

A set of texts is the list of its members in code-point order, each once.
-/
namespace PeSignals.Text

/-- Code-point order, as a test for sorting. -/
def notAfter (a b : String) : Bool :=
  !decide (b < a)

/-- Keeps the first of each run of equal neighbours. -/
def dropRepeats : List String → List String
  | [] => []
  | [a] => [a]
  | a :: b :: rest => if a = b then dropRepeats (b :: rest) else a :: dropRepeats (b :: rest)

/-- The members of a list in code-point order, each once. -/
def sortedSet (texts : List String) : List String :=
  dropRepeats (texts.mergeSort notAfter)

end PeSignals.Text

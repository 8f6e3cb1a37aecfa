/-!
# Grouped digits

Whole numbers with a comma between groups of three digits.
-/
namespace PeSignals.Decimal

/-- Puts a comma after every third digit of a digit list that runs from the lowest digit up. -/
def groupFromLowest : List Char → List Char
  | a :: b :: c :: d :: rest => a :: b :: c :: ',' :: groupFromLowest (d :: rest)
  | digits => digits

def grouped (n : Int) : String :=
  (if n < 0 then "-" else "") ++
    String.ofList (groupFromLowest (toString n.natAbs).toList.reverse).reverse

end PeSignals.Decimal

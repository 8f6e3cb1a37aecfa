/-!
# Fragments of texts

Whether one text stands inside another, at its start or at its end.
-/
namespace PeSignals.Text

/-- Whether a list of characters stands somewhere in another. -/
def holdsFragment (fragment : List Char) : List Char → Bool
  | [] => fragment.isEmpty
  | c :: rest => fragment.isPrefixOf (c :: rest) || holdsFragment fragment rest

def holds (text fragment : String) : Bool :=
  holdsFragment fragment.toList text.toList

def opensWith (text fragment : String) : Bool :=
  fragment.toList.isPrefixOf text.toList

def closesWith (text fragment : String) : Bool :=
  fragment.toList.isSuffixOf text.toList

end PeSignals.Text

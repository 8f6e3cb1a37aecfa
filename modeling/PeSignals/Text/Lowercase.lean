import PeSignals.Text.Ranges
import PeSignals.Text.Table.Cased
import PeSignals.Text.Table.LowerCase

/-!
# Lower case

Full lower-casing of Unicode text. Every character maps on its own except two: capital I with a dot
becomes two characters, and capital sigma has a form of its own at the end of a word.
-/
namespace PeSignals.Text

/-- The simple lower-case form of a character. -/
def lowerChar (c : Char) : Char :=
  if c.toNat < 128 then c.toLower
  else match Table.lowerCase.find? fun run =>
      run.first ≤ c.toNat && c.toNat ≤ run.last && (c.toNat - run.first) % run.step == 0 with
    | some run => Char.ofNat (c.toNat + run.shift).toNat
    | none => c

/-- Whether case conversion looks through a character to its neighbour. -/
def isCaseIgnorable (c : Char) : Bool := Table.caseIgnorable.has c

/-- Whether a character is a letter with case. -/
def isCased (c : Char) : Bool := Table.cased.has c

/-- Whether the first character that is not ignorable is a letter with case. -/
def meetsCased (text : List Char) : Bool :=
  (text.find? (!isCaseIgnorable ·)).any isCased

/-- Lower-cases the rest of a text; `before` is what stands before it, nearest character first. -/
def lowerFrom (before : List Char) : List Char → List Char
  | [] => []
  | 'Σ' :: rest =>
    (if meetsCased before && !meetsCased rest then 'ς' else 'σ') :: lowerFrom ('Σ' :: before) rest
  | 'İ' :: rest => 'i' :: '\u0307' :: lowerFrom ('İ' :: before) rest
  | c :: rest => lowerChar c :: lowerFrom (c :: before) rest

def lower (text : String) : String :=
  String.ofList (lowerFrom [] text.toList)

end PeSignals.Text

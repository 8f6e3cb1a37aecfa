import PeSignals.Decimal.Scientific
import PeSignals.Text.Blank
import PeSignals.Text.Digits
import PeSignals.Text.Table.DecimalDigit

/-!
# Reading doubles

The double that a text stands for: a decimal number with an optional fraction and exponent, or the name
of an infinite value or of no number. Blanks around it are passed over, digits may be those of any
script, and between two digits there may be one underscore.
-/
namespace PeSignals.Decimal

open Text (digitsValue sign)

/-- A digit of any script as the digit of the first block of characters; other characters stay. -/
def plainDigit (c : Char) : Char :=
  match Text.Table.digitZeros.find? fun start => start ≤ c.toNat && c.toNat < start + 10 with
  | some start => Char.ofNat (48 + (c.toNat - start))
  | none => c

/-- Takes the underscores out, if every one of them stands between two digits; `digit` says whether a
digit stands before. -/
def withoutUnderscores (digit : Bool) : List Char → Option (List Char)
  | [] => some []
  | '_' :: rest =>
    if digit && rest.head?.any Char.isDigit then withoutUnderscores false rest else none
  | c :: rest => (withoutUnderscores c.isDigit rest).map (c :: ·)

/-- The exponent that characters stand for; without any it is zero. -/
def exponentOf? : List Char → Option Int
  | [] => some 0
  | letter :: rest =>
    let (negative, digits) := sign rest
    if letter.toLower = 'e' && !digits.isEmpty && digits.all Char.isDigit then
      let size : Int := digitsValue digits
      some (if negative then -size else size)
    else none

/-- The digits of a fraction behind its point, and what follows them. -/
def fractionOf : List Char → List Char × List Char
  | '.' :: rest => (rest.takeWhile Char.isDigit, rest.dropWhile Char.isDigit)
  | cs => ([], cs)

/-- The double that characters without a sign stand for. -/
def magnitudeOf? (negative : Bool) (cs : List Char) : Option Float :=
  let name := String.ofList (cs.map Char.toLower)
  if name = "inf" ∨ name = "infinity" then some (if negative then -1 / 0 else 1 / 0)
  else if name = "nan" then some (0 / 0)
  else
    let whole := cs.takeWhile Char.isDigit
    let (fraction, rest) := fractionOf (cs.drop whole.length)
    if whole.isEmpty && fraction.isEmpty then none
    else (exponentOf? rest).map fun exponent =>
      ofDigits negative (digitsValue (whole ++ fraction)) (exponent - fraction.length)

def ofText? (text : String) : Option Float := do
  let cs ← withoutUnderscores false ((Text.trimChars text.toList).map plainDigit)
  let (negative, rest) := sign cs
  magnitudeOf? negative rest

end PeSignals.Decimal

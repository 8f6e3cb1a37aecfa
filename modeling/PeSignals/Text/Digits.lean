/-!
# Decimal digits in a text

Readers of numbers that stand in a text as decimal digits. A reader takes characters and gives what it
read with the characters that follow.
-/
namespace PeSignals.Text

/-- The number that decimal digits stand for. -/
def digitsValue (digits : List Char) : Nat :=
  digits.foldl (fun n c => 10 * n + (c.toNat - 48)) 0

/-- Reads exactly `width` decimal digits with a value in a range. -/
def fixedDigits (width low high : Nat) (cs : List Char) : Option (Nat × List Char) :=
  let digits := cs.take width
  let value := digitsValue digits
  if digits.length = width ∧ digits.all Char.isDigit ∧ low ≤ value ∧ value ≤ high then
    some (value, cs.drop width)
  else none

/-- What follows a character that must come first. -/
def expect (c : Char) : List Char → Option (List Char)
  | first :: rest => if first = c then some rest else none
  | [] => none

/-- Reads a sign, if there is one; `true` is minus. -/
def sign : List Char → Bool × List Char
  | '+' :: rest => (false, rest)
  | '-' :: rest => (true, rest)
  | cs => (false, cs)

/-- The first six digits of a fraction, in millionths. -/
def millionths (digits : List Char) : Nat :=
  digitsValue (digits.take 6) * Nat.pow 10 (6 - min 6 digits.length)

/-- The greatest number of decimal digits that a whole number may have when it is read or written. -/
def digitLimit : Nat := 4300

/-- The wording for a whole number with more digits than are read. -/
def digitLimitMessage (digits : Nat) : String :=
  s!"Exceeds the limit ({digitLimit} digits) for integer string conversion: " ++
    s!"value has {digits} digits; use sys.set_int_max_str_digits() to increase the limit"

/-- Whether a whole number has no more digits than are written. -/
def isWritable (n : Int) : Bool := (Nat.toDigits 10 n.natAbs).length ≤ digitLimit

end PeSignals.Text

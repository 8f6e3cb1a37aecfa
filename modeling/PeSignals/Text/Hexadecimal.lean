/-!
# Hexadecimal text

Numbers in base sixteen with lower-case digits and no leading zeros. A negative number carries its
sign before the digits. Digits of either case are read.
-/
namespace PeSignals.Text

def hexadecimal (n : Nat) : String :=
  String.ofList (Nat.toDigits 16 n)

/-- The digits of `n` in base sixteen, behind a minus sign when `n` is negative. -/
def signedHexadecimal (n : Int) : String :=
  if n < 0 then "-" ++ hexadecimal n.natAbs else hexadecimal n.natAbs

def isHexDigit (c : Char) : Bool :=
  c.isDigit || ('a' ≤ c && c ≤ 'f') || ('A' ≤ c && c ≤ 'F')

def hexDigitValue (c : Char) : Nat :=
  if c.isDigit then c.toNat - 48 else if 'a' ≤ c then c.toNat - 87 else c.toNat - 55

/-- The number that digits in base sixteen stand for. -/
def hexValue (digits : List Char) : Nat :=
  digits.foldl (fun n c => 16 * n + hexDigitValue c) 0

end PeSignals.Text

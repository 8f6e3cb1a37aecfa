import PeSignals.Decimal.Scientific
import PeSignals.Json.Basic
import PeSignals.Text.Digits
import PeSignals.Text.Hexadecimal

/-!
# Reading JSON text

A reader takes characters and gives what it read with the characters that follow, or nothing where the
text is no JSON. A number without a fraction and an exponent is whole. The fields of an object keep
their order; the reader does not look for names that come twice.
-/
namespace PeSignals.Json

open Text (digitsValue)

/-- Whether a character separates the parts of a document. -/
def isGap (c : Char) : Bool := c = ' ' || c = '\n' || c = '\r' || c = '\t'

/-- What follows the gaps at the start. -/
def skipGaps (cs : List Char) : List Char := cs.dropWhile isGap

/-- The character of a letter behind a backslash. -/
def escapedChar? : Char → Option Char
  | '"' => some '"'
  | '\\' => some '\\'
  | '/' => some '/'
  | 'n' => some '\n'
  | 'r' => some '\r'
  | 't' => some '\t'
  | 'b' => some '\x08'
  | 'f' => some '\x0c'
  | _ => none

/-- Reads the four digits of an escape by number. -/
def readUnit (cs : List Char) : Option (Nat × List Char) :=
  let digits := cs.take 4
  if digits.length = 4 ∧ digits.all Text.isHexDigit then some (Text.hexValue digits, cs.drop 4)
  else none

/-- Reads the second half of a code point that is written in two halves. -/
def readLowHalf : List Char → Option (Nat × List Char)
  | '\\' :: 'u' :: rest =>
    (readUnit rest).filter fun (n, _) => 0xDC00 ≤ n && n < 0xE000
  | _ => none

/-- Reads an escape by number; a code point may be written in two halves. -/
def readCodePoint (cs : List Char) : Option (Char × List Char) := do
  let (high, rest) ← readUnit cs
  if 0xD800 ≤ high && high < 0xDC00 then
    match readLowHalf rest with
    | some (low, rest) =>
      return (Char.ofNat (0x10000 + (high - 0xD800) * 0x400 + (low - 0xDC00)), rest)
    | none => return (Char.ofNat high, rest)
  else return (Char.ofNat high, rest)

/-- Reads a text up to its closing quote behind what was read of it; `left` bounds its length. -/
def readText (found : String) : Nat → List Char → Option (String × List Char)
  | 0, _ => none
  | _ + 1, [] => none
  | _ + 1, '"' :: rest => some (found, rest)
  | left + 1, '\\' :: 'u' :: rest =>
    match readCodePoint rest with
    | some (c, rest) => readText (found.push c) left rest
    | none => none
  | left + 1, '\\' :: c :: rest =>
    match escapedChar? c with
    | some c => readText (found.push c) left rest
    | none => none
  | left + 1, c :: rest => if c.toNat < 0x20 then none else readText (found.push c) left rest

/-- Reads the digits of a whole number; no zero stands before other digits. -/
def wholeDigits : List Char → List Char
  | '0' :: _ => ['0']
  | cs => cs.takeWhile Char.isDigit

/-- Reads the digits of a fraction behind its point, if there is one. -/
def fractionDigits : List Char → List Char
  | '.' :: rest => rest.takeWhile Char.isDigit
  | _ => []

/-- The sign and the digits of an exponent behind its letter. -/
def signedDigits : List Char → Bool × List Char
  | '-' :: rest => (true, rest.takeWhile Char.isDigit)
  | '+' :: rest => (false, rest.takeWhile Char.isDigit)
  | cs => (false, cs.takeWhile Char.isDigit)

/-- Reads an exponent, if there is one. -/
def readExponent : List Char → Option (Int × List Char)
  | letter :: rest =>
    let (negative, digits) := signedDigits rest
    if (letter = 'e' ∨ letter = 'E') ∧ !digits.isEmpty then
      let size : Int := digitsValue digits
      let width := digits.length + (if rest.head?.any Char.isDigit then 0 else 1)
      some (if negative then -size else size, rest.drop width)
    else none
  | [] => none

/-- Reads a number without its sign. -/
def readMagnitude (negative : Bool) (cs : List Char) : Option (Json × List Char) :=
  let whole := wholeDigits cs
  let rest := cs.drop whole.length
  let fraction := fractionDigits rest
  let behind := if fraction.isEmpty then rest else rest.drop (fraction.length + 1)
  let value : Int := digitsValue whole
  let double (exponent : Int) : Json :=
    .float (Decimal.ofDigits negative (digitsValue (whole ++ fraction)) (exponent - fraction.length))
  if whole.isEmpty then none
  else match readExponent behind with
    | some (exponent, behind) => some (double exponent, behind)
    | none =>
      if fraction.isEmpty then some (.int (if negative then -value else value), behind)
      else some (double 0, behind)

/-- Reads a number. One that is infinite, or none at all, is written by name. -/
def readNumber : List Char → Option (Json × List Char)
  | 'N' :: 'a' :: 'N' :: rest => some (.float (0 / 0), rest)
  | 'I' :: 'n' :: 'f' :: 'i' :: 'n' :: 'i' :: 't' :: 'y' :: rest => some (.float (1 / 0), rest)
  | '-' :: 'I' :: 'n' :: 'f' :: 'i' :: 'n' :: 'i' :: 't' :: 'y' :: rest =>
    some (.float (-1 / 0), rest)
  | '-' :: rest => readMagnitude true rest
  | cs => readMagnitude false cs

mutual

/-- Reads a value; `left` bounds the number of characters that are looked at. Every step takes one at
least, so a bound that is greater than their number is never met. -/
def readValue (left : Nat) (cs : List Char) : Option (Json × List Char) :=
  match left, skipGaps cs with
  | 0, _ => none
  | left + 1, '"' :: rest => do
    let (text, rest) ← readText "" left rest
    return (.string text, rest)
  | left + 1, '[' :: rest =>
    match skipGaps rest with
    | ']' :: rest => some (.array [], rest)
    | rest => readItems left #[] rest
  | left + 1, '\x7b' :: rest =>
    match skipGaps rest with
    | '\x7d' :: rest => some (.object [], rest)
    | rest => readFields left #[] rest
  | _ + 1, 't' :: 'r' :: 'u' :: 'e' :: rest => some (.bool true, rest)
  | _ + 1, 'f' :: 'a' :: 'l' :: 's' :: 'e' :: rest => some (.bool false, rest)
  | _ + 1, 'n' :: 'u' :: 'l' :: 'l' :: rest => some (.null, rest)
  | _ + 1, cs => readNumber cs

/-- Reads the items of an array behind those already found. -/
def readItems (left : Nat) (found : Array Json) (cs : List Char) :
    Option (Json × List Char) :=
  match left with
  | 0 => none
  | left + 1 => do
    let (item, rest) ← readValue left cs
    match skipGaps rest with
    | ',' :: rest => readItems left (found.push item) rest
    | ']' :: rest => return (.array (found.push item).toList, rest)
    | _ => none

/-- Reads the fields of an object behind those already found. -/
def readFields (left : Nat) (found : Array (String × Json)) (cs : List Char) :
    Option (Json × List Char) :=
  match left with
  | 0 => none
  | left + 1 => do
    let (name, rest) ← match skipGaps cs with
      | '"' :: rest => readText "" left rest
      | _ => none
    let rest ← match skipGaps rest with
      | ':' :: rest => some rest
      | _ => none
    let (value, rest) ← readValue left rest
    let found := found.push (name, value)
    match skipGaps rest with
    | ',' :: rest => readFields left found rest
    | '\x7d' :: rest => return (.object found.toList, rest)
    | _ => none

end

/-- The value of a text that holds one value and gaps around it. -/
def ofText? (text : String) : Option Json := do
  let cs := text.toList
  let (value, rest) ← readValue (cs.length + 1) cs
  if (skipGaps rest).isEmpty then return value else none

end PeSignals.Json

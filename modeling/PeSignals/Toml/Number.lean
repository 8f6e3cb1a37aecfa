import PeSignals.Decimal.Scientific
import PeSignals.Toml.Malformed
import PeSignals.Toml.Moment

/-!
# TOML numbers

Whole numbers in four bases, and doubles. Between two digits there may be one underscore. A number
ends where no further character can belong to it.
-/
namespace PeSignals.Toml

open Text (sign)

/-- Whether a character is a digit of a base. -/
def isDigitOf (base : Nat) (c : Char) : Bool :=
  if base = 16 then c.isDigit || ('a' ≤ c.toLower && c.toLower ≤ 'f')
  else c.isDigit && c.toNat - 48 < base

def digitValue (c : Char) : Nat := if c.isDigit then c.toNat - 48 else c.toLower.toNat - 87

def moreDigits (base : Nat) : List Char → List Char × List Char
  | '_' :: c :: rest =>
    if isDigitOf base c then
      let (digits, rest) := moreDigits base rest
      (c :: digits, rest)
    else ([], '_' :: c :: rest)
  | c :: rest =>
    if isDigitOf base c then
      let (digits, rest) := moreDigits base rest
      (c :: digits, rest)
    else ([], c :: rest)
  | [] => ([], [])

def digits (base : Nat) (cs : List Char) : Option (List Char × List Char) :=
  if cs.head?.any (isDigitOf base) then some (moreDigits base cs) else none

/-- The number with given digits. -/
def valueOf (base : Nat) (digits : List Char) : Nat :=
  digits.foldl (fun n c => base * n + digitValue c) 0

/-- The base that a letter after a zero announces. -/
def baseOf : Char → Option Nat
  | 'x' => some 16
  | 'b' => some 2
  | 'o' => some 8
  | _ => none

/-- Reads a number that names its base. -/
def basedInt : List Char → Option (Value × List Char)
  | '0' :: letter :: rest => do
    let base ← baseOf letter
    let (found, rest) ← digits base rest
    return (.int (valueOf base found), rest)
  | _ => none

/-- Reads the whole part of a decimal number: a zero alone, or digits that do not start with one. -/
def wholeDigits (cs : List Char) : Option (List Char × List Char) :=
  match cs with
  | '0' :: rest => some (['0'], rest)
  | cs => digits 10 cs

/-- Reads the digits of a fraction with their point, if there are any. -/
def fractionDigits (cs : List Char) : Option (List Char × List Char) :=
  match cs with
  | '.' :: rest => digits 10 rest
  | _ => none

/-- Reads an exponent, if there is one. -/
def exponent (cs : List Char) : Option (Int × List Char) :=
  match cs with
  | 'e' :: rest | 'E' :: rest => do
    let (negative, rest) := sign rest
    let (found, rest) ← digits 10 rest
    let size : Int := valueOf 10 found
    return (if negative then -size else size, rest)
  | _ => none

structure DecimalText where
  negative : Bool
  /-- The digits before the point. -/
  whole : List Char
  fraction? : Option (List Char)
  exponent? : Option Int

/-- The number that is written, a double if it has a fraction or an exponent. -/
def DecimalText.value (d : DecimalText) : Except Malformed Value :=
  match d.fraction?, d.exponent? with
  | none, none =>
    let size : Int := valueOf 10 d.whole
    if Text.digitLimit < d.whole.length then .error (.oversized d.whole.length)
    else .ok (.int (if d.negative then -size else size))
  | fraction?, exponent? =>
    let places := fraction?.getD []
    .ok (.float (Decimal.ofDigits d.negative (valueOf 10 (d.whole ++ places))
      (exponent?.getD 0 - places.length)))

def decimal (cs : List Char) : Option (DecimalText × List Char) := do
  let (negative, rest) := sign cs
  let (whole, rest) ← wholeDigits rest
  let fraction := fractionDigits rest
  let rest := (fraction.map (·.2)).getD rest
  let power := exponent rest
  return ({ negative, whole, fraction? := fraction.map (·.1), exponent? := power.map (·.1) },
    (power.map (·.2)).getD rest)

/-- Reads an infinite number or a value that is no number, with or without a sign. -/
def special (cs : List Char) : Option (Value × List Char) :=
  match sign cs with
  | (negative, 'i' :: 'n' :: 'f' :: rest) => some (.float (if negative then -1 / 0 else 1 / 0), rest)
  | (_, 'n' :: 'a' :: 'n' :: rest) => some (.float (0 / 0), rest)
  | _ => none

def number (cs : List Char) : Except Malformed (Value × List Char) :=
  match basedInt cs, decimal cs with
  | some read, _ => .ok read
  | none, some (written, rest) => return (← written.value, rest)
  | none, none => required (special cs)

/-- Reads a date, a time of day or a number. What has the form of a date must be one. -/
def momentOrNumber (cs : List Char) : Except Malformed (Value × List Char) :=
  match dateNumbers cs with
  | some (numbers, rest) => required (dated numbers rest)
  | none => match timeText cs with
    | some (time, rest) => .ok (.moment .time time, rest)
    | none => number cs

end PeSignals.Toml

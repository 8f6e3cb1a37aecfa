import PeSignals.Decimal.Scientific
import PeSignals.Decimal.Whole
import PeSignals.Json.Literal

/-!
# Message templates

A template is a text with places for values. A place starts with a percent sign, ends with the letter
of the form in which its value is set, and may ask for a width, a precision and a side to pad on. Two percent
signs stand for one. Values fill the places in order, or by name when they come as one object. A
template that does not fit its values cannot be filled, and neither can one whose places are too large.
-/
namespace PeSignals.Log

/-- A width or precision: left out, fixed, or taken from the values. -/
inductive Measure
  | none
  | fixed (n : Nat)
  | given
  deriving Repr, DecidableEq

/-- A place for a value. -/
structure Place where
  /-- The field of an object that fills the place. -/
  name? : Option String := .none
  flags : List Char := []
  width : Measure := .none
  precision : Measure := .none
  form : Char
  deriving Repr

inductive Piece
  | char (c : Char)
  | place (p : Place)
  deriving Repr

/-- Reads a name up to the parenthesis that closes it; `depth` counts the ones that are open. -/
def placeName (depth : Nat) : List Char → Option (List Char × List Char)
  | [] => none
  | ')' :: rest =>
    if depth = 0 then some ([], rest)
    else (placeName (depth - 1) rest).map fun (name, rest) => (')' :: name, rest)
  | '(' :: rest => (placeName (depth + 1) rest).map fun (name, rest) => ('(' :: name, rest)
  | c :: rest => (placeName depth rest).map fun (name, rest) => (c :: name, rest)

def measure (other : Measure) : List Char → Measure × List Char
  | '*' :: rest => (.given, rest)
  | cs =>
    let digits := cs.takeWhile Char.isDigit
    if digits.isEmpty then (other, cs)
    else (.fixed (digits.foldl (fun n c => 10 * n + (c.toNat - 48)) 0), cs.drop digits.length)

def place (cs : List Char) : Option (Place × List Char) := do
  let (name?, cs) ← match cs with
    | '(' :: rest => (placeName 0 rest).map fun (name, rest) => (some (String.ofList name), rest)
    | cs => some (none, cs)
  let flags := cs.takeWhile fun c => c = '-' || c = '+' || c = ' ' || c = '#' || c = '0'
  let (width, cs) := measure .none (cs.drop flags.length)
  let (precision, cs) := match cs with
    | '.' :: rest => measure (.fixed 0) rest
    | cs => (.none, cs)
  let cs := match cs with
    | 'h' :: rest | 'l' :: rest | 'L' :: rest => rest
    | cs => cs
  match cs with
  | form :: rest => return ({ name?, flags, width, precision, form }, rest)
  | [] => none

/-- Reads the parts of a template behind those already found; `left` bounds its length. -/
def piecesFrom (found : Array Piece) : Nat → List Char → Option (Array Piece)
  | 0, _ => none
  | _ + 1, [] => some found
  | left + 1, '%' :: '%' :: rest => piecesFrom (found.push (.char '%')) left rest
  | left + 1, '%' :: rest =>
    match place rest with
    | some (p, rest) => piecesFrom (found.push (.place p)) left rest
    | none => none
  | left + 1, c :: rest => piecesFrom (found.push (.char c)) left rest

def pieces (template : String) : Option (List Piece) :=
  (piecesFrom #[] (template.length + 1) template.toList).map Array.toList

/-- The values of a template that are not used yet, and the object that fills places by name. -/
structure Supply where
  rest : List Json
  object? : Option Json := none

namespace Supply

/-- The values for a template; an object that comes alone and is not empty fills places by name. -/
def ofValues : List Json → Supply
  | [.object (field :: fields)] =>
    let object : Json := .object (field :: fields)
    ⟨[object], some object⟩
  | values => ⟨values, none⟩

/-- Makes the field of a name the next value. -/
def select (s : Supply) : Option String → Option Supply
  | none => some s
  | some name => do return { s with rest := [← (← s.object?).get? name] }

def next (s : Supply) : Option (Json × Supply) :=
  match s.rest with
  | [] => none
  | value :: rest => some (value, { s with rest })

/-- Takes the number of a width or precision, if there is one. It must lie below the limit. -/
def size (s : Supply) (limit : Nat) : Measure → Option (Option Int × Supply)
  | .none => some (none, s)
  | .fixed n => if n < limit then some (some (n : Int), s) else none
  | .given => do
    let (value, s) ← s.next
    let n ← match value with
      | .int n => some n
      | .bool b => some (if b then 1 else 0)
      | _ => none
    if -(limit : Int) ≤ n ∧ n < limit then return (some n, s) else none

/-- Whether all values are used; the fields of an object need not be. -/
def isDone (s : Supply) : Bool := s.object?.isSome || s.rest.isEmpty

end Supply

/-- A text for a place: what stands before its padding with zeros, and what after. -/
structure Setting where
  sign : String := ""
  body : String
  numeric : Bool := false

/-- The first width that is too great: no text is that long. -/
def widthLimit : Nat := 0x80000000

/-- The first precision that is too great. -/
def precisionLimit : Nat := 0x80000000

/-- The first precision that is too great for a number, which has to be written out. -/
def numberPrecisionLimit : Nat := 0x7FFFFFFD

namespace Place

def hasFlag (p : Place) (flag : Char) : Bool := p.flags.contains flag

def signOf (p : Place) (negative : Bool) : String :=
  if negative then "-" else if p.hasFlag '+' then "+" else if p.hasFlag ' ' then " " else ""

/-- A whole number by its size as text. -/
def whole (p : Place) (precision : Option Nat) (value : Int) (mark digits : String) : Setting where
  sign := p.signOf (value < 0) ++ (if p.hasFlag '#' then mark else "")
  body := Decimal.padZeros (precision.getD 1) digits
  numeric := true

/-- The size of a double as text in one of the three forms. -/
def magnitude (p : Place) (form : Char) (precision : Option Nat) (d : Decimal.Dyadic) : String :=
  let places := precision.getD 6
  let point : String := if p.hasFlag '#' && places = 0 then "." else ""
  if form = 'f' then Decimal.placeText (Decimal.placeUnits d places) places ++ point
  else if form = 'e' then Decimal.scientific d places (p.hasFlag '#')
  else Decimal.general d places (p.hasFlag '#')

def double (p : Place) (precision : Option Nat) (x : Float) : Setting :=
  let form := p.form.toLower
  let upper (text : String) := if p.form.isUpper then text.map Char.toUpper else text
  match Decimal.Binary64.ofFloat x with
  | .nan => { sign := p.signOf false, body := upper "nan", numeric := true }
  | .infinite negative => { sign := p.signOf negative, body := upper "inf", numeric := true }
  | .finite negative d =>
    { sign := p.signOf negative, body := upper (p.magnitude form precision d), numeric := true }

end Place

/-- A whole number or truth value as a whole number. -/
def wholeOf : Json → Option Int
  | .int n => some n
  | .bool b => some (if b then 1 else 0)
  | _ => none

/-- A number or truth value without its fraction. -/
def truncated : Json → Option Int
  | .float x => (Decimal.wholePart x).toOption
  | j => wholeOf j

/-- A number or truth value as a double; a whole number must not be too large for one. -/
def doubleOf : Json → Option Float
  | .float x => some x
  | j => do
    let x := Float.ofInt (← wholeOf j)
    if x.isInf then none else some x

/-- A character, or the one with a code point. -/
def charOf (j : Json) : Option String :=
  match j with
  | .string s => if s.length = 1 then some s else none
  | j => do
    let code ← wholeOf j
    if h : code.toNat.isValidChar then
      if 0 ≤ code then some (Char.ofNatAux code.toNat h).toString else none
    else none

def escaped (text : String) : String :=
  String.join (text.toList.map fun c =>
    if c.toNat < 128 then c.toString else Text.codePointEscape c)

def cut (precision : Option Nat) (text : String) : String :=
  match precision with
  | none => text
  | some n => String.ofList (text.toList.take n)

def isNumberForm (form : Char) : Bool := "diuxXoeEfFgG".toList.contains form

/-- The text of a value in the form of its place. -/
def Place.setting (p : Place) (precision : Option Nat) (value : Json) : Option Setting :=
  let size (n : Int) := n.natAbs
  if isNumberForm p.form && precision.any (numberPrecisionLimit ≤ ·) then none
  else match p.form with
  | 's' => some { body := cut precision value.plainText }
  | 'r' => some { body := cut precision value.literal }
  | 'a' => some { body := cut precision (escaped value.literal) }
  | 'c' => do return { body := ← charOf value }
  | 'd' | 'i' | 'u' => do
    let n ← truncated value
    return p.whole precision n "" (toString (size n))
  | 'x' => do
    let n ← wholeOf value
    return p.whole precision n "0x" (Text.hexadecimal (size n))
  | 'X' => do
    let n ← wholeOf value
    return p.whole precision n "0X" ((Text.hexadecimal (size n)).map Char.toUpper)
  | 'o' => do
    let n ← wholeOf value
    return p.whole precision n "0o" (String.ofList (Nat.toDigits 8 (size n)))
  | 'e' | 'E' | 'f' | 'F' | 'g' | 'G' => do return p.double precision (← doubleOf value)
  | _ => none

/-- Pads a text to a width, on the right if the width is negative or the place asks for it. -/
def Place.lay (p : Place) (width : Int) (s : Setting) : String :=
  let missing := width.natAbs - (s.sign.length + s.body.length)
  if p.hasFlag '-' || width < 0 then s.sign ++ s.body.pushn ' ' missing
  else if s.numeric && p.hasFlag '0' then s.sign ++ "".pushn '0' missing ++ s.body
  else "".pushn ' ' missing ++ s.sign ++ s.body

def Place.fill (p : Place) (s : Supply) : Option (String × Supply) := do
  let s ← s.select p.name?
  let (width, s) ← s.size widthLimit p.width
  let (precision, s) ← s.size precisionLimit p.precision
  let (value, s) ← s.next
  let setting ← p.setting (precision.map Int.toNat) value
  return (p.lay (width.getD 0) setting, s)

/-- Fills the parts of a template behind the text of those already filled. -/
def fillFrom (found : String) : List Piece → Supply → Option String
  | [], s => if s.isDone then some found else none
  | .char c :: rest, s => fillFrom (found.push c) rest s
  | .place p :: rest, s =>
    match p.fill s with
    | some (text, s) => fillFrom (found ++ text) rest s
    | none => none

/-- Fills a template with values. A template without values is a plain text. -/
def fill (template : String) (values : List Json) : Option String :=
  if values.isEmpty then some template
  else do fillFrom "" (← pieces template) (Supply.ofValues values)

end PeSignals.Log

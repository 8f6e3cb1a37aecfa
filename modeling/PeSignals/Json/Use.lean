import PeSignals.Decimal.Grouped
import PeSignals.Decimal.Number
import PeSignals.Decimal.Reading
import PeSignals.Json.Literal
import PeSignals.Json.Misuse
import PeSignals.Sorting.Basic
import PeSignals.Text.Hexadecimal

/-!
# Using values of any kind

What can be done with a value whose kind is not known: its fields are looked up, its items are listed and
sorted, numbers are added, and it is written as a number. Truth values count as numbers, texts as lists of characters, and
objects as lists of their names.
-/
namespace PeSignals.Json

/-- What is given by the use of a value. -/
abbrev Used (α : Type) := Except Misuse α

/-- A field of an object, or another value when it is left out. Only objects answer this. -/
def fieldOr (j : Json) (name : String) (other : Json) : Used Json :=
  match j with
  | object fields => .ok ((fields.lookup name).getD other)
  | j => .error (.noOperation j.kindName "get")

/-- A field that must be there. -/
def field (j : Json) (name : String) : Used Json :=
  match j with
  | object fields =>
    match fields.lookup name with
    | some value => .ok value
    | none => .error (.missingField name)
  | string _ => .error .fieldOfText
  | array _ => .error .fieldOfArray
  | j => .error (.noFields j.kindName)

def pairs (j : Json) : Used (List (String × Json)) :=
  match j with
  | object fields => .ok fields
  | j => .error (.noOperation j.kindName "items")

def characters (s : String) : List Json := s.toList.map fun c => .string c.toString

def itemsOf : Json → Used (List Json)
  | array items => .ok items
  | string s => .ok (characters s)
  | object fields => .ok (fields.map fun field => .string field.1)
  | j => .error (.noItems j.kindName)

def lengthOf : Json → Used Nat
  | array items => .ok items.length
  | string s => .ok s.length
  | object fields => .ok fields.length
  | j => .error (.noLength j.kindName)

def number? : Json → Option Number
  | int n => some (.int n)
  | float x => some (.float x)
  | bool b => some (.int (if b then 1 else 0))
  | _ => none

/-- Whether two values name the same thing: equal numbers of any kind, the same text, or `null`. What is no
number names the same as itself. Arrays and objects name nothing. -/
def sameName (a b : Json) : Bool :=
  match a, b with
  | string s, string t => s = t
  | null, null => true
  | a, b =>
    match a.number?, b.number? with
    | some m, some n => m.equals n || (m.toFloat.isNaN && n.toFloat.isNaN)
    | _, _ => false

/-- A value as a name in an object. -/
def asName (j : Json) : Used Json :=
  match j with
  | array _ | object _ => .error (.noName j.kindName)
  | j => .ok j

mutual

/-- Whether two values are equal; numbers of different kinds may be. -/
def equals : Json → Json → Bool
  | array xs, array ys => equalItems xs ys
  | object xs, object ys => xs.length = ys.length && equalFields xs ys
  | a, b => a.sameName b

def equalItems : List Json → List Json → Bool
  | [], [] => true
  | x :: xs, y :: ys => equals x y && equalItems xs ys
  | _, _ => false

def equalFields : List (String × Json) → List (String × Json) → Bool
  | [], _ => true
  | (name, x) :: rest, ys =>
    (match ys.lookup name with
      | some y => equals x y
      | none => false) && equalFields rest ys

end

mutual

/-- Whether one value comes before another. -/
def comesBefore : Json → Json → Used Bool
  | string s, string t => .ok (decide (s < t))
  | array xs, array ys => itemsComeBefore xs ys
  | a, b =>
    match a.number?, b.number? with
    | some m, some n => .ok (m.below n)
    | _, _ => .error (.incomparable "<" a.kindName b.kindName)

/-- Whether one list comes before another: the first items that differ decide. -/
def itemsComeBefore : List Json → List Json → Used Bool
  | _, [] => .ok false
  | [], _ :: _ => .ok true
  | x :: xs, y :: ys => if equals x y then itemsComeBefore xs ys else comesBefore x y

end

/-- The items of a value in order. Which of several misuses is met follows from the order in which items
are compared. -/
def sortedItems (j : Json) : Used (List Json) := do Sorting.sort comesBefore (← j.itemsOf)

/-- Arithmetic on numbers: exact on whole ones, on doubles where one of the two is a double. -/
def arithmetic (operator : String) (onWhole : Int → Int → Int) (onDoubles : Float → Float → Float)
    (a b : Json) : Used Json :=
  match a.number?, b.number? with
  | some (.int m), some (.int n) => .ok (.int (onWhole m n))
  | some m, some n =>
    if m.isTooLarge || n.isTooLarge then .error .numberTooLarge
    else .ok (.float (onDoubles m.toFloat n.toFloat))
  | _, _ => .error (.noArithmetic operator a.kindName b.kindName)

/-- The sum of two values; texts are joined with texts and arrays with arrays. -/
def sum : Json → Json → Used Json
  | string s, string t => .ok (string (s ++ t))
  | string _, b => .error (.unjoinable "str" b.kindName)
  | array xs, array ys => .ok (array (xs ++ ys))
  | array _, b => .error (.unjoinable "list" b.kindName)
  | a, b => arithmetic "+" (· + ·) (· + ·) a b

def difference : Json → Json → Used Json := arithmetic "-" (· - ·) (· - ·)

def toDouble : Json → Used Float
  | float x => .ok x
  | string s =>
    match Decimal.ofText? s with
    | some x => .ok x
    | none => .error (.notNumeral s)
  | j =>
    match j.number? with
    | none => .error (.notNumber j.kindName)
    | some n => if n.toFloat.isFinite then .ok n.toFloat else .error .numberTooLarge

/-- The digits before the point of a decimal text in groups; with an exponent there is nothing to
group. -/
def groupedText (text : String) : String :=
  let (sign, digits) := match text.toList with
    | '-' :: rest => ("-", rest)
    | cs => ("", cs)
  let whole := digits.takeWhile Char.isDigit
  sign ++ String.ofList (Decimal.groupFromLowest whole.reverse).reverse ++
    String.ofList (digits.drop whole.length)

def grouped : Json → Used String
  | string _ => .error .groupedText
  | float x => .ok (groupedText (Decimal.shortestText x))
  | j =>
    match j.number? with
    | some (.int n) => .ok (Decimal.grouped n)
    | _ => .error (.noForm j.kindName)

def hexadecimal : Json → Used String
  | string _ => .error (.unknownForm "x" "str")
  | float _ => .error (.unknownForm "x" "float")
  | j =>
    match j.number? with
    | some (.int n) => .ok (Text.signedHexadecimal n)
    | _ => .error (.noForm j.kindName)

/-- A number of bytes in units of 1024, exactly and then rounded to a double. -/
def kibibytes (j : Json) : Used Float :=
  match j.number? with
  | none => .error (.noArithmetic "/" j.kindName "int")
  | some (.float x) => .ok (x / 1024)
  | some (.int n) =>
    let x := Float.ofScientific (n.natAbs * 9765625) true 10
    if x.isFinite then .ok (if n < 0 then -x else x) else .error .quotientTooLarge

/-- A value as a number of times. -/
def countOf (j : Json) : Used Int :=
  match j.number? with
  | some (.int n) => .ok n
  | _ => .error (.notWhole j.kindName)

/-- The greatest length of a text that is kept. -/
def textLimit : Int := 0x100000000

/-- A character repeated; no times when the number is negative. -/
def repeated (c : Char) (times : Int) : Used String :=
  if times ≥ 0x8000000000000000 ∨ times < -0x8000000000000000 then .error .countTooLarge
  else if times ≥ textLimit then .error .outOfMemory
  else .ok ("".pushn c times.toNat)

end PeSignals.Json

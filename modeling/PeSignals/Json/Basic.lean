/-!
# JSON values

Values of reports, evidence and payloads. Whole numbers and doubles are kept apart, and the fields
of an object keep their order.
-/
namespace PeSignals

inductive Json
  | null
  | bool (value : Bool)
  | int (value : Int)
  | float (value : Float)
  | string (value : String)
  | array (items : List Json)
  | object (fields : List (String × Json))
  deriving Inhabited, Repr

namespace Json

def strings (texts : List String) : Json := .array (texts.map .string)

def ints (numbers : List Int) : Json := .array (numbers.map .int)

/-- The value or `null`. -/
def ofOption (f : α → Json) : Option α → Json
  | none => .null
  | some a => f a

/-- The fields of an object, and no field for other values. -/
def fields : Json → List (String × Json)
  | object fields => fields
  | _ => []

def get? (j : Json) (name : String) : Option Json :=
  j.fields.lookup name

/-- The items of an array, and no item for other values. -/
def items : Json → List Json
  | array items => items
  | _ => []

def text? : Json → Option String
  | string s => some s
  | _ => none

/-- The value of a whole number. -/
def int? : Json → Option Int
  | int n => some n
  | _ => none

/-- Whether a value counts as set: not null, false, zero or empty. -/
def isSet : Json → Bool
  | null => false
  | bool b => b
  | int n => n ≠ 0
  | float x => x != 0
  | string s => s ≠ ""
  | array items => !items.isEmpty
  | object fields => !fields.isEmpty

end Json

end PeSignals

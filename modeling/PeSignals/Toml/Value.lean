import PeSignals.Json.Basic

/-!
# TOML values

The values that a TOML document gives to its keys. Dates and times are kept as their text, because
nothing here computes with them.
-/
namespace PeSignals.Toml

/-- What a date or time names. -/
inductive MomentKind
  | date
  | time
  | dateTime
  deriving Repr, DecidableEq

inductive Value
  | text (value : String)
  | int (value : Int)
  | float (value : Float)
  | bool (value : Bool)
  | moment (kind : MomentKind) (text : String)
  | array (items : List Value)
  | table (entries : List (String × Value))
  deriving Inhabited, Repr

abbrev Table := List (String × Value)

namespace Value

/-- The name of a value's type in messages. -/
def typeName : Value → String
  | text _ => "str"
  | int _ => "int"
  | float _ => "float"
  | bool _ => "bool"
  | moment .date _ => "datetime.date"
  | moment .time _ => "datetime.time"
  | moment .dateTime _ => "datetime.datetime"
  | array _ => "list"
  | table _ => "dict"

mutual

def toJson : Value → Json
  | text s => .string s
  | int n => .int n
  | float x => .float x
  | bool b => .bool b
  | moment _ s => .string s
  | array items => .array (itemsToJson items)
  | table entries => .object (entriesToJson entries)

def itemsToJson : List Value → List Json
  | [] => []
  | item :: rest => item.toJson :: itemsToJson rest

def entriesToJson : List (String × Value) → List (String × Json)
  | [] => []
  | (name, value) :: rest => (name, value.toJson) :: entriesToJson rest

end

end Value

end PeSignals.Toml

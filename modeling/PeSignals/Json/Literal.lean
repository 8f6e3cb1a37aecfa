import PeSignals.Decimal.Shortest
import PeSignals.Json.Basic
import PeSignals.Text.Digits
import PeSignals.Text.Quoted

/-!
# Literals

The text of a value as messages show it: words for `null` and truth values, quoted texts, and
brackets around items and fields.
-/
namespace PeSignals.Json

mutual

def literal : Json → String
  | null => "None"
  | bool true => "True"
  | bool false => "False"
  | int n => toString n
  | float x => Decimal.shortestText x
  | string s => Text.quoted s
  | array items => "[" ++ ", ".intercalate (literalItems items) ++ "]"
  | object fields => "\x7b" ++ ", ".intercalate (literalFields fields) ++ "\x7d"

def literalItems : List Json → List String
  | [] => []
  | item :: rest => literal item :: literalItems rest

def literalFields : List (String × Json) → List String
  | [] => []
  | (name, value) :: rest => (Text.quoted name ++ ": " ++ literal value) :: literalFields rest

end

mutual

/-- Whether a value has a text: none of its whole numbers has too many digits. -/
def isWritable : Json → Bool
  | int n => Text.isWritable n
  | array items => areWritable items
  | object fields => fieldsAreWritable fields
  | null | bool _ | float _ | string _ => true

def areWritable : List Json → Bool
  | [] => true
  | item :: rest => isWritable item && areWritable rest

def fieldsAreWritable : List (String × Json) → Bool
  | [] => true
  | (_, value) :: rest => isWritable value && fieldsAreWritable rest

end

/-- A value as running text: a text stands for itself, everything else is a literal. -/
def plainText : Json → String
  | string s => s
  | j => j.literal

def kindName : Json → String
  | null => "NoneType"
  | bool _ => "bool"
  | int _ => "int"
  | float _ => "float"
  | string _ => "str"
  | array _ => "list"
  | object _ => "dict"

end PeSignals.Json

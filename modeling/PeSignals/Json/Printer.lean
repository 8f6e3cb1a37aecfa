import PeSignals.Decimal.Shortest
import PeSignals.Json.Basic
import PeSignals.Text.Hexadecimal

/-!
# JSON text

Two layouts: on one line with blanks after commas and colons, and indented by two blanks per level.
Characters outside ASCII stand for themselves; control characters, quotes and backslashes are
escaped. Doubles are written in their shortest form.
-/
namespace PeSignals.Json

/-- One character inside a JSON string. -/
def escapeChar (c : Char) : String :=
  if c = '"' then "\\\""
  else if c = '\\' then "\\\\"
  else if c = '\n' then "\\n"
  else if c = '\r' then "\\r"
  else if c = '\t' then "\\t"
  else if c = '\x08' then "\\b"
  else if c = '\x0c' then "\\f"
  else if c.toNat < 32 then "\\u" ++ Decimal.padZeros 4 (Text.hexadecimal c.toNat)
  else c.toString

/-- A JSON string with its quotes. -/
def stringText (s : String) : String :=
  s.foldl (fun text c => text ++ escapeChar c) "\"" ++ "\""

/-- A double; values that are not finite have names. -/
def floatText (x : Float) : String :=
  match Decimal.Binary64.ofFloat x with
  | .nan => "NaN"
  | .infinite negative => if negative then "-Infinity" else "Infinity"
  | .finite .. => Decimal.shortestText x

mutual

/-- A value on one line. -/
def compact : Json → String
  | null => "null"
  | bool true => "true"
  | bool false => "false"
  | int n => toString n
  | float x => floatText x
  | string s => stringText s
  | array items => "[" ++ ", ".intercalate (compactItems items) ++ "]"
  | object fields => "\x7b" ++ ", ".intercalate (compactFields fields) ++ "\x7d"

def compactItems : List Json → List String
  | [] => []
  | item :: rest => compact item :: compactItems rest

def compactFields : List (String × Json) → List String
  | [] => []
  | (name, value) :: rest => (stringText name ++ ": " ++ compact value) :: compactFields rest

end

/-- A line break and the blanks of an indentation level. -/
def lineBreak (level : Nat) : String := "\n".pushn ' ' (2 * level)

/-- Parts on lines of their own between an opening and a closing mark. -/
def block (opening closing : String) (level : Nat) (parts : List String) : String :=
  if parts.isEmpty then opening ++ closing
  else opening ++ lineBreak (level + 1) ++ ("," ++ lineBreak (level + 1)).intercalate parts ++
    lineBreak level ++ closing

mutual

/-- A value whose line stands at an indentation level. -/
def indentedAt (level : Nat) : Json → String
  | array items => block "[" "]" level (indentedItems (level + 1) items)
  | object fields => block "\x7b" "\x7d" level (indentedFields (level + 1) fields)
  | null => "null"
  | bool true => "true"
  | bool false => "false"
  | int n => toString n
  | float x => floatText x
  | string s => stringText s

def indentedItems (level : Nat) : List Json → List String
  | [] => []
  | item :: rest => indentedAt level item :: indentedItems level rest

def indentedFields (level : Nat) : List (String × Json) → List String
  | [] => []
  | (name, value) :: rest =>
    (stringText name ++ ": " ++ indentedAt level value) :: indentedFields level rest

end

/-- A value indented by two blanks per level. -/
def indented (j : Json) : String := indentedAt 0 j

end PeSignals.Json

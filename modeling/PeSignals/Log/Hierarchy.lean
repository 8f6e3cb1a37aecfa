/-!
# Levels of loggers

Loggers have names of parts between dots, and a logger whose name is continued by that of another stands
above it. The level of a logger is given by name. A logger without a level of its own has that of the
nearest logger above it, and where no logger has one, warnings and above are kept.
-/
namespace PeSignals.Log

/-- The capitals of a character, as far as level names hold them. Outside ASCII these are the capitals
of the sharp s, of the letters without a dot, of the long s and of the joined letters. -/
def capitals (c : Char) : List Char :=
  match c with
  | 'ß' => ['S', 'S']
  | 'ı' => ['I']
  | 'ſ' => ['S']
  | 'ﬀ' => ['F', 'F']
  | 'ﬁ' => ['F', 'I']
  | 'ﬂ' => ['F', 'L']
  | 'ﬃ' => ['F', 'F', 'I']
  | 'ﬄ' => ['F', 'F', 'L']
  | 'ﬅ' | 'ﬆ' => ['S', 'T']
  | c => [c.toUpper]

/-- Why a name gives no level. -/
inductive LevelFault
  /-- The name is that of the layout of plain entries. -/
  | layout
  /-- The name is that of the table of layouts. -/
  | layouts
  deriving Repr, DecidableEq

def LevelFault.message : LevelFault → String
  | layout => "Unknown level: '%(levelname)s:%(name)s:%(message)s'"
  | layouts => "Level not an integer or a valid string: \x7b" ++
      "'%': (<class 'logging.PercentStyle'>, '%(levelname)s:%(name)s:%(message)s'), " ++
      "'\x7b': (<class 'logging.StrFormatStyle'>, " ++
      "'\x7blevelname\x7d:\x7bname\x7d:\x7bmessage\x7d'), " ++
      "'$': (<class 'logging.StringTemplateStyle'>, " ++
      "'$\x7blevelname\x7d:$\x7bname\x7d:$\x7bmessage\x7d')\x7d"

/-- The weight that the name of a level in any case stands for; zero stands for no level. Other names
mean progress. -/
def weightOf (name : String) : Except LevelFault Nat :=
  match String.ofList (name.toList.flatMap capitals) with
  | "CRITICAL" | "FATAL" => .ok 50
  | "ERROR" => .ok 40
  | "WARNING" | "WARN" => .ok 30
  | "DEBUG" => .ok 10
  | "NOTSET" => .ok 0
  | "BASIC_FORMAT" => .error .layout
  | "_STYLES" => .error .layouts
  | _ => .ok 20

/-- The name of the logger of a tool. -/
def loggerName (tool : String) : String := "drmscan." ++ tool

def warningWeight : Nat := 30

/-- The names that name the loggers above the one with a name: what stands before each of its dots,
longest first. -/
def namesAbove (name : String) : List String :=
  let cs := name.toList
  (List.range cs.length).reverse.filterMap fun i =>
    if cs[i]? = some '.' then some (String.ofList (cs.take i)) else none

/-- The weights that loggers were given. -/
structure Hierarchy where
  /-- The weights by the names of the loggers, the latest first. -/
  weights : List (String × Nat) := []
  deriving Repr

namespace Hierarchy

def set (h : Hierarchy) (name : String) (weight : Nat) : Hierarchy := ⟨(name, weight) :: h.weights⟩

/-- The weight of a logger's own, if it has one. -/
def own? (h : Hierarchy) (name : String) : Option Nat := (h.weights.lookup name).filter (· ≠ 0)

/-- The weight that counts for a logger. -/
def threshold (h : Hierarchy) (name : String) : Nat :=
  ((name :: namesAbove name).findSome? h.own?).getD warningWeight

end Hierarchy

end PeSignals.Log

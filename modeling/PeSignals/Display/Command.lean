import PeSignals.Display.Console
import PeSignals.Display.Fault
import PeSignals.Scan.Create

/-!
# Drawing commands

The vocabulary of the console by name, for arguments of any kind. Most of them are written as text; some
are handed on as they are. A command that is not known, or that has too few or too many arguments, draws
nothing.
-/
namespace PeSignals.Display

open Json (Used)

structure CommandForm where
  name : String
  /-- The names of the arguments that it needs. -/
  needed : List String := []
  /-- How many arguments it takes at most, if there is a limit. -/
  most? : Option Nat := some needed.length
  deriving Repr

def commandForms : List CommandForm :=
  [{ name := "banner", most? := some 1 },
    { name := "section", needed := ["title"] },
    { name := "success", needed := ["message"] },
    { name := "warning", needed := ["message"] },
    { name := "error", needed := ["message"] },
    { name := "info", needed := ["message"] },
    { name := "critical", needed := ["message"] },
    { name := "table", needed := ["title", "columns", "rows"] },
    { name := "findings_table", most? := none },
    { name := "status", most? := some 1 },
    { name := "print", most? := none },
    { name := "blank", most? := some 1 },
    { name := "divider", most? := some 1 }]

/-- Why a command draws nothing. -/
inductive CommandFault
  | unknown (name : String)
  /-- Arguments are left out. -/
  | missing (command : String) (names : List String)
  /-- There are too many arguments. -/
  | surplus (command : String) (least most given : Nat)
  | misuse (cause : Json.Misuse)
  | markup (cause : MarkupFault)
  | findings (faults : List FieldFault)

namespace CommandFault

/-- Names in a sentence. -/
def listed : List String → String
  | [] => ""
  | [a] => a
  | [a, b] => a ++ " and " ++ b
  | names => ", ".intercalate names.dropLast ++ ", and " ++ names.getLastD ""

/-- A number of arguments in a sentence, where the receiver counts as one. -/
def takes (least most : Nat) : String :=
  if least = most then s!"{most + 1} positional argument" ++ (if most = 0 then "" else "s")
  else s!"from {least + 1} to {most + 1} positional arguments"

/-- The wording of a fault; faulty findings have none. -/
def message? : CommandFault → Option String
  | unknown name => some s!"'ScanConsole' object has no attribute '{name}'"
  | missing command names =>
    let arguments := if names.length = 1 then "argument" else "arguments"
    some (s!"ScanConsole.{command}() missing {names.length} required positional {arguments}: " ++
      listed (names.map Text.quoted))
  | surplus command least most given =>
    some (s!"ScanConsole.{command}() takes {takes least most} but {given + 1} were given")
  | misuse cause => some cause.message
  | markup cause => some cause.message
  | findings _ => none

def category : CommandFault → String
  | unknown _ => "AttributeError"
  | missing .. | surplus .. => "TypeError"
  | misuse cause => cause.category
  | markup cause => cause.category
  | findings _ => "ValidationError"

end CommandFault

instance : MonadLift Json.Used (Except CommandFault) := ⟨Except.mapError .misuse⟩

def CommandForm.check (form : CommandForm) (given : Nat) : Except CommandFault Unit :=
  match form.most? with
  | some most =>
    if most < given then .error (.surplus form.name form.needed.length most given)
    else if given < form.needed.length then
      .error (.missing form.name (form.needed.drop given))
    else .ok ()
  | none => .ok ()

def textsOf (j : Json) : Used (List String) := do return (← j.itemsOf).map Json.plainText

/-- A column whose header and style are values of any kind. -/
structure GivenColumn where
  header : Json := .string ""
  style : Json := .string ""

/-- A table whose title, caption and columns are values of any kind. -/
structure GivenTable where
  title : Json
  caption : Json
  columns : List GivenColumn
  rows : List (List String)

/-- What a command asks a terminal to draw. -/
inductive CommandEvent
  | event (event : Event)
  | table (table : GivenTable)
  /-- A thin rule in a style of any kind. -/
  | divider (style : Json)

/-- The style of a column by its number among values that hold the styles; without one it is empty. -/
def columnStyle (styles : Json) (i : Nat) : Used Json := do
  if !styles.isSet then return .string ""
  if (← styles.lengthOf) ≤ i then return .string ""
  let style ← match styles with
    | .object _ => .error (.missingNumber i)
    | styles => pure ((← styles.itemsOf)[i]?.getD .null)
  return if style.isSet then style else .string ""

/-- A table of rows of any length: a row that is too long adds columns, and a row that is too short is
filled with empty cells. -/
def GivenTable.ofRows (title caption : Json) (columns : List GivenColumn)
    (rows : List (List String)) : GivenTable :=
  let width := max columns.length (longestRow rows)
  { title, caption
    columns := columns ++ List.replicate (width - columns.length) {}
    rows := rows.map fun row => row ++ List.replicate (width - row.length) "" }

def tableCommand (title columns rows caption styles : Json) : Used GivenTable := do
  let columns ← (← columns.itemsOf).zipIdx.mapM fun (header, i) =>
    return { header, style := ← columnStyle styles i }
  return GivenTable.ofRows title caption columns (← (← rows.itemsOf).mapM textsOf)

/-- The table of findings that are given one by one or as one list. -/
def findingsCommand (arguments : List Json) : Except CommandFault Event := do
  let items := match arguments with
    | [.array items] => items
    | arguments => arguments
  return findingsTable (← (items.mapM Finding.create).mapError .findings)

/-- What a command draws; `caption` and `styles` are for tables. -/
def command (name : String) (arguments : List Json) (caption styles : Json) :
    Except CommandFault (List CommandEvent) := do
  match commandForms.find? (·.name = name) with
  | none => throw (.unknown name)
  | some form => form.check arguments.length
  let argument (i : Nat) : Json := arguments[i]?.getD .null
  let text (other : String) : String := (arguments.head?.map Json.plainText).getD other
  let one (e : Event) : List CommandEvent := [.event e]
  match name with
  | "banner" => return one (← (banner (text "1.0.0")).mapError .markup)
  | "section" => return (heading (text "")).map .event
  | "success" => return one (success (text ""))
  | "warning" => return one (warning (text ""))
  | "error" => return one (error (text ""))
  | "info" => return one (info (text ""))
  | "critical" => return one (critical (text ""))
  | "table" => return [.table (← tableCommand (argument 0) (argument 1) (argument 2) caption styles)]
  | "findings_table" => return one (← findingsCommand arguments)
  | "status" => return one (status (text "Working..."))
  | "print" => return one (.print (arguments.map fun j => .text j.plainText))
  | "blank" =>
    return List.replicate (← (arguments.headD (.int 1)).countOf).toNat (.event blankLine)
  | _ => return [.divider (arguments.headD (.string "dim"))]

end PeSignals.Display

import PeSignals.CommandLine.Arguments
import PeSignals.Config.Configuration
import PeSignals.Display.Markup
import PeSignals.Log.Hierarchy
import PeSignals.Scan.Basic

/-!
# Requests

What the arguments of the program ask for: options that all commands share, then a command, then the
command's own options and its one operand. The configuration is loaded once the command is known, and
only then the rest of the arguments is looked at.
-/
namespace PeSignals.CommandLine

open Files (FileError FileTree)

def programVersion : String := "1.0.0"

/-- Why the program could not do what it was asked for. -/
inductive Fault
  | path (cause : FileError)
  | configuration (cause : Configuration.Fault)
  | scan (cause : ScanFault)
  /-- The name of the log level is no text but a value of another kind. -/
  | levelName (kindName : String)
  /-- The name of the log level gives no level. -/
  | level (cause : Log.LevelFault)
  /-- The path of the log is no text but a value of another kind. -/
  | logPath (kindName : String)
  /-- The time limit is no number but a value of another kind. -/
  | timeLimit (kindName : String)
  /-- A text to be shown holds markup that cannot be read. -/
  | markup (cause : Display.MarkupFault)
  deriving Repr, DecidableEq

/-- The wording of a fault; a malformed configuration and a scan without a target have none. -/
def Fault.message? : Fault → Option String
  | path cause => some cause.message
  | configuration cause => cause.message?
  | scan cause => cause.message?
  | levelName kindName => some s!"'{kindName}' object has no attribute 'upper'"
  | level cause => some cause.message
  | logPath kindName => some s!"expected str, bytes or os.PathLike object, not {kindName}"
  | timeLimit kindName => some s!"'<=' not supported between instances of '{kindName}' and 'int'"
  | markup cause => some cause.message

/-- Why the program stops before it scans anything. -/
inductive Stop
  /-- The arguments are not in order. -/
  | misuse
  /-- Only the help was asked for. -/
  | help
  /-- Only the version was asked for. -/
  | version
  | fault (cause : Fault)
  deriving Repr, DecidableEq

/-- What a path in the arguments must lead to, if it leads to anything. -/
inductive PathRule
  | existingFile
  | file
  | directory
  deriving Repr, DecidableEq

def PathRule.check (t : FileTree) (rule : PathRule) (path : String) : Except Stop Unit :=
  match t.find path, rule with
  | .error .embeddedNul, _ => .error (.fault (.path .embeddedNul))
  | .error _, .existingFile => .error .misuse
  | .error _, _ => .ok ()
  | .ok (.file ..), .directory => .error .misuse
  | .ok (.file ..), _ => .ok ()
  | .ok _, .directory => .ok ()
  | .ok _, _ => .error .misuse

/-- The rule for the value of an option that is a path. -/
def Switch.pathRule? : Switch → Option PathRule
  | .config => some .existingFile
  | .output | .main => some .file
  | _ => none

/-- The options that all commands share. -/
def sharedForms : List OptionForm :=
  [{ switch := .config, short? := some 'c', long := "--config", takesValue := true },
    { switch := .quiet, short? := some 'q', long := "--quiet" },
    { switch := .verbose, short? := some 'v', long := "--verbose" },
    { switch := .version, long := "--version" },
    { switch := .help, long := "--help" }]

inductive Command
  | inspect
  | detect
  deriving Repr, DecidableEq

namespace Command

def ofName? : String → Option Command
  | "inspect" => some inspect
  | "detect" => some detect
  | _ => none

/-- The options of a command. -/
def forms : Command → List OptionForm
  | inspect =>
    [{ switch := .pattern, short? := some 'p', long := "--pattern", takesValue := true },
      { switch := .json, long := "--json" },
      { switch := .output, short? := some 'o', long := "--output", takesValue := true },
      { switch := .help, long := "--help" }]
  | detect =>
    [{ switch := .main, short? := some 'e', long := "--exe", takesValue := true },
      { switch := .json, long := "--json" },
      { switch := .output, short? := some 'o', long := "--output", takesValue := true },
      { switch := .help, long := "--help" }]

/-- The rule for the operand of a command. -/
def targetRule : Command → PathRule
  | inspect => .file
  | detect => .directory

end Command

namespace Arguments

/-- Stops at the first request for help or for the version. -/
def stopEarly (a : Arguments) : Except Stop Unit :=
  match a.switches.find? fun switch => switch = .help || switch = .version with
  | some .version => .error .version
  | some _ => .error .help
  | none => .ok ()

/-- Checks the paths that are values of options, in order. -/
def checkPaths (t : FileTree) (a : Arguments) : Except Stop Unit :=
  a.switches.forM fun switch =>
    match switch.pathRule?, a.value? switch with
    | some rule, some path => rule.check t path
    | _, _ => .ok ()

/-- Reads arguments, stops early if they ask for it, and checks the paths of options. -/
def checked (t : FileTree) (forms : List OptionForm) (mixed : Bool) (arguments : List String) :
    Except Stop Arguments :=
  match read forms mixed arguments with
  | none => .error .misuse
  | some a => do
    a.stopEarly
    a.checkPaths t
    return a

end Arguments

/-- Finds the command that the operands name. An unknown one that looks like an option is first read
as one. -/
def findCommand (t : FileTree) : List String → Except Stop (Command × List String)
  | [] => .error .misuse
  | name :: rest =>
    match Command.ofName? name with
    | some command => .ok (command, rest)
    | none => do
      if isOption name then
        discard <| Arguments.checked t sharedForms false (name :: rest)
      .error .misuse

/-- The one operand of a command. -/
def targetOf (t : FileTree) (command : Command) : List String → Except Stop String
  | [] => .error .misuse
  | target :: more => do
    command.targetRule.check t target
    if more.isEmpty then return target else throw .misuse

structure Request where
  shared : Arguments
  configuration : Configuration
  command : Command
  own : Arguments
  target : String

namespace Request

def read (t : FileTree) (arguments : List String) : Except Stop Request := do
  if arguments.isEmpty then throw .misuse
  let shared ← Arguments.checked t sharedForms false arguments
  let (command, rest) ← findCommand t shared.operands
  let configuration ← (Configuration.load t (shared.value? .config)).mapError
    (.fault ∘ .configuration)
  let own ← Arguments.checked t command.forms true rest
  let target ← targetOf t command own.operands
  return { shared, configuration, command, own, target }

/-- Whether the report goes to standard output. -/
def json (r : Request) : Bool := r.own.has .json

def quiet (r : Request) : Bool := r.shared.has .quiet

def output? (r : Request) : Option String := (r.own.value? .output).filter (· ≠ "")

def levelName (r : Request) : Except Fault String :=
  if r.shared.has .verbose || (r.configuration.generalSetting "debug").isSet then .ok "DEBUG"
  else (r.configuration.generalSetting "log_level").asText.mapError .levelName

def logPath? (r : Request) : Except Fault (Option String) :=
  match r.configuration.generalSetting "log_file" with
  | .value .null => .ok none
  | path => (path.asText.mapError .logPath).map some

def logsJson (r : Request) : Bool := (r.configuration.generalSetting "log_json").isSet

end Request

end PeSignals.CommandLine

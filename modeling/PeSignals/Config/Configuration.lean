import PeSignals.Config.Settings
import PeSignals.Files.Tree
import PeSignals.Json.Literal
import PeSignals.Toml.Document

/-!
# Configurations

A configuration holds the settings of the program as a file gives them. Names that are not declared
are ignored, and declared names that the file leaves out have their defaults. Values are kept as they
are written; only what uses a setting asks for its kind.
-/
namespace PeSignals

open Files (FileError FileTree)

inductive Setting
  | value (value : Json)
  /-- A date or a time, kept as its text. -/
  | moment (kind : Toml.MomentKind) (text : String)
  deriving Repr

namespace Setting

def ofToml : Toml.Value → Setting
  | .moment kind text => moment kind text
  | v => value v.toJson

def toJson : Setting → Json
  | value v => v
  | moment _ text => .string text

def kindName : Setting → String
  | value v => v.kindName
  | moment kind text => (Toml.Value.moment kind text).typeName

/-- The text of a setting, or the name of its kind. -/
def asText : Setting → Except String String
  | value (.string s) => .ok s
  | other => .error other.kindName

/-- Whether a setting counts as set; a date or a time always does. -/
def isSet : Setting → Bool
  | value v => v.isSet
  | moment .. => true

/-- A setting as a number; a truth value counts as zero or one. -/
def number? : Setting → Option Number
  | value (.int n) => some (.int n)
  | value (.float x) => some (.float x)
  | value (.bool b) => some (.int (if b then 1 else 0))
  | _ => none

/-- The literals that a setting lists: the texts of an array, the characters of a text, or the names of
a table. -/
def literals : Setting → List String
  | value (.array items) => items.filterMap Json.text?
  | value (.string s) => s.toList.map fun c => String.ofList [c]
  | value (.object fields) => fields.map (·.1)
  | _ => []

/-- A setting as a bound on a number of items, where `null` is no bound. -/
def bound? : Setting → Option (Option Int)
  | value .null => some none
  | value (.int n) => some (some n)
  | value (.bool b) => some (some (if b then 1 else 0))
  | _ => none

end Setting

abbrev SettingGroup := List (String × Setting)

structure Configuration where
  /-- Where and how much is logged. -/
  general : SettingGroup
  /-- How signals are found and rated. -/
  scan : SettingGroup
  deriving Repr

namespace Configuration

/-- The declared general settings with their defaults. -/
def generalDefaults : SettingGroup :=
  [("log_level", .value (.string "INFO")), ("log_file", .value .null),
    ("log_json", .value (.bool false)), ("debug", .value (.bool false))]

def scanDefaults : SettingGroup :=
  [("large_overlay_bytes", .value (.int 10000000)), ("high_entropy_threshold", .value (.float 7.0)),
    ("max_executables", .value (.int 5)), ("compute_entropy", .value (.bool true)),
    ("extra_patterns", .value (.array [])), ("analysis_timeout", .value (.float 30.0))]

def default : Configuration := ⟨generalDefaults, scanDefaults⟩

/-- Declared settings with the values that are given for them. -/
def fill (declared given : SettingGroup) : SettingGroup :=
  declared.map fun (name, other) => (name, (given.lookup name).getD other)

theorem map_fst_fill (declared given : SettingGroup) :
    (fill declared given).map (·.1) = declared.map (·.1) := by
  simp [fill, Function.comp_def]

/-- Why there is no configuration. -/
inductive Fault
  | missing (path : String)
  | unreadable (cause : FileError)
  | malformed (cause : Toml.Malformed)
  /-- A group of settings is no table but a value of another type. -/
  | notATable (typeName : String)
  deriving Repr, DecidableEq

/-- The wording of a fault; most malformed files have no wording of their own. -/
def Fault.message? : Fault → Option String
  | missing path => some ("Configuration file not found: " ++ path)
  | unreadable cause => some cause.message
  | malformed cause => cause.message?
  | notATable typeName => some s!"'{typeName}' object has no attribute 'items'"

/-- The settings that a document gives in a group; without the group there are none. -/
def groupOf (document : Toml.Table) (name : String) : Except Fault SettingGroup :=
  match document.lookup name with
  | none => .ok []
  | some (.table entries) => .ok (entries.map fun (name, v) => (name, .ofToml v))
  | some v => .error (.notATable v.typeName)

def ofTable (document : Toml.Table) : Except Fault Configuration := do
  let general ← groupOf document "global"
  let scan ← groupOf document "drmscan"
  return ⟨fill generalDefaults general, fill scanDefaults scan⟩

def ofBytes (bytes : ByteArray) : Except Fault Configuration := do
  ofTable (← (Toml.decode bytes).mapError .malformed)

def loadFile (t : FileTree) (path : String) : Except Fault Configuration := do
  let path := (Files.Path.ofText path).text
  unless ← (t.pathExists path).mapError .unreadable do throw (.missing path)
  ofBytes (← (t.read path).mapError .unreadable)

/-- Loads the file at a path. Without a path it is the program's own file, and without that one there are
the defaults. -/
def load (t : FileTree) (path : Option String) (own : Option ByteArray := none) :
    Except Fault Configuration :=
  match path, own with
  | some path, _ => loadFile t path
  | none, some bytes => ofBytes bytes
  | none, none => .ok default

def groupJson (group : SettingGroup) : Json :=
  .object (group.map fun (name, setting) => (name, setting.toJson))

def toJson (c : Configuration) : Json :=
  .object [("global_settings", groupJson c.general), ("drmscan", groupJson c.scan)]

def generalSetting (c : Configuration) (name : String) : Setting :=
  (c.general.lookup name).getD (.value .null)

def scanSetting (c : Configuration) (name : String) : Setting :=
  (c.scan.lookup name).getD (.value .null)

def settings (c : Configuration) : Settings :=
  let d : Settings := {}
  { largeOverlay := (c.scanSetting "large_overlay_bytes").number?.getD d.largeOverlay
    highEntropy := (c.scanSetting "high_entropy_threshold").number?.getD d.highEntropy
    maximumExecutables := (c.scanSetting "max_executables").bound?.getD d.maximumExecutables
    measureEntropy := (c.scanSetting "compute_entropy").isSet
    extraPatterns := (c.scanSetting "extra_patterns").literals
    timeLimit := (c.scanSetting "analysis_timeout").number?.getD d.timeLimit }

/-- Why scan settings that are given by name are refused. -/
inductive GivenFault
  | undeclared (name : String)
  deriving Repr, DecidableEq

def GivenFault.message : GivenFault → String
  | undeclared name => s!"DrmScanConfig.__init__() got an unexpected keyword argument '{name}'"

/-- The configuration with scan settings that are given by name. -/
def ofGiven (given : List (String × Json)) : Except GivenFault Configuration :=
  match given.find? fun field => (scanDefaults.lookup field.1).isNone with
  | some (name, _) => .error (.undeclared name)
  | none => .ok { default with scan := fill scanDefaults (given.map fun (name, v) => (name, .value v)) }

/-- The kind of the time limit, if that is neither a number nor `null`, which is no limit. -/
def timeFault? (c : Configuration) : Option String :=
  match c.scanSetting "analysis_timeout" with
  | .value .null => none
  | limit => if limit.number?.isSome then none else some limit.kindName

/-- Why the number of executables to look at cannot be told. -/
def boundFault? (c : Configuration) : Option String :=
  match (c.scanSetting "max_executables").bound? with
  | some _ => none
  | none => some "slice indices must be integers or None or have an __index__ method"

end Configuration

end PeSignals

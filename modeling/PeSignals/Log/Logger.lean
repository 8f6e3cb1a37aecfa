import PeSignals.Log.Record
import PeSignals.Log.Template

/-!
# Loggers

A logger tags what it is given with the innermost operation that is open and drops what lies below its
threshold. Operations nest: leaving one brings back the one in which it was entered.
-/
namespace PeSignals.Log

structure Logger where
  tool : String
  threshold : Nat := Level.info.weight
  /-- The innermost open operation. -/
  operation? : Option String := none
  /-- What was open around each open operation, innermost first. -/
  around : List (Option String) := []
  deriving Repr

/-- The level of a request and whether the failure at hand is written with it, by the name of the
request. -/
inductive Manner
  | debug
  | info
  | error
  /-- An error with the failure behind it. -/
  | exception
  deriving Repr, DecidableEq

namespace Manner

def label : Manner → String
  | debug => "debug"
  | info => "info"
  | error => "error"
  | exception => "exception"

def all : List Manner := [debug, info, error, exception]

def ofLabel? (name : String) : Option Manner := all.find? (·.label = name)

def level : Manner → Level
  | debug => .debug
  | info => .info
  | error | exception => .error

end Manner

structure Request where
  manner : Manner
  template : String
  values : List Json := []
  fields : List (String × Json) := []
  deriving Repr

/-- Why a request is refused. -/
inductive RequestFault
  /-- A field has the name of a value that every request of the manner has anyway. -/
  | repeated (manner : Manner) (name : String)
  /-- The number of calls to step over is no number but a value of another kind. -/
  | depth (kindName : String)
  deriving Repr, DecidableEq

def RequestFault.message : RequestFault → String
  | repeated manner name => s!"ScanLogger.{manner.label}() got multiple values for argument '{name}'"
  | depth kindName => s!"'>' not supported between instances of '{kindName}' and 'int'"

namespace Request

/-- The fields that steer the writing of a record and are not part of it. -/
def steering : List String := ["exc_info", "stack_info", "stacklevel"]

/-- The fields that belong to the record. -/
def extra (r : Request) : List (String × Json) :=
  r.fields.filter fun field => !steering.contains field.1

/-- Whether a steering field is set; without the field `other` counts. -/
def steers (r : Request) (name : String) (other : Bool) : Bool :=
  ((r.fields.lookup name).map Json.isSet).getD other

/-- The trace of a request while a failure is being handled, if one is. -/
def trace (r : Request) (failure? : Option Failure) : Trace :=
  if r.steers "exc_info" (r.manner == .exception) then
    match failure? with
    | none => .absent
    | some failure => .present failure
  else .omitted

/-- The names that no field can have. -/
def reserved : List String := ["self", "msg"]

def repeated? (r : Request) : Option String := (r.fields.map (·.1)).find? reserved.contains

/-- The kind of the number of calls to step over, if that is no number. -/
def depthFault? (r : Request) : Option String :=
  (r.fields.lookup "stacklevel").bind fun depth =>
    match depth with
    | .bool _ | .int _ | .float _ => none
    | j => some j.kindName

end Request

namespace Logger

/-- Makes the logger of a tool with a level by name, which from then on counts for the loggers below it
too. -/
def start (h : Hierarchy) (tool level : String) : Except LevelFault (Hierarchy × Logger) := do
  let h := h.set (loggerName tool) (← weightOf level)
  return (h, { tool, threshold := h.threshold (loggerName tool) })

def enter (l : Logger) (name : String) : Logger :=
  { l with operation? := some name, around := l.operation? :: l.around }

/-- Closes the innermost operation. -/
def leave (l : Logger) : Logger :=
  match l.around with
  | [] => l
  | operation? :: around => { l with operation?, around }

/-- Whether notes of a level are kept. -/
def keeps (l : Logger) (level : Level) : Bool := l.threshold ≤ level.weight

/-- The record of an entry, unless it is dropped. -/
def accept (l : Logger) (entry : Entry) : Option Record :=
  if l.keeps entry.note.level then some { tool := l.tool, entry } else none

/-- The record of a note in the open operation, unless it is dropped. -/
def note (l : Logger) (n : Note) : Option Record := l.accept ⟨l.operation?, n⟩

/-- The record at the end of a timed block. -/
def timed (l : Logger) (label : String) : Option Record := l.note ⟨.debug, .took label⟩

/-- The record of a request that is not refused, unless it is dropped or its values do not fit its
template. -/
def record? (l : Logger) (r : Request) (failure? : Option Failure) : Option Record := do
  let text ← fill r.template r.values
  let record ← l.note ⟨r.manner.level, .text text⟩
  return { record with
    fields := r.extra
    trace := r.trace failure?
    showsCalls := r.steers "stack_info" false }

/-- Answers a request. Below the threshold the number of calls to step over is not looked at. -/
def log (l : Logger) (r : Request) (failure? : Option Failure) :
    Except RequestFault (Option Record) :=
  match r.repeated?, r.depthFault? with
  | some name, _ => .error (.repeated r.manner name)
  | none, some kindName =>
    if l.keeps r.manner.level then .error (.depth kindName) else .ok none
  | none, none => .ok (l.record? r failure?)

end Logger

end PeSignals.Log

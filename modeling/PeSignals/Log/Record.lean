import PeSignals.Json.Basic
import PeSignals.Log.Hierarchy
import PeSignals.Log.Note
import PeSignals.Text.Lines
import PeSignals.Text.Quoted

/-!
# Log records

A record is a note with everything that a log writes about it. It is written as a line of text, which
the failure behind it may follow, or as a JSON object.
-/
namespace PeSignals.Log

/-- A failure that is being handled. -/
structure Failure where
  kind : String
  text : String
  deriving Repr, DecidableEq

namespace Failure

/-- The kinds of failures of the system that go by a newer name. -/
def renamedKinds : List (String × String) :=
  [("IOError", "OSError"), ("EnvironmentError", "OSError")]

/-- The kinds of failures that never stand without a detail. -/
def detailedKinds : List String := ["SyntaxError", "IndentationError", "TabError"]

/-- The kind of a failure as it is shown. -/
def shownKind (f : Failure) : String := (renamedKinds.lookup f.kind).getD f.kind

/-- The text of a failure as it is shown; a missing key is quoted. -/
def shownText (f : Failure) : String :=
  if f.kind = "KeyError" then Text.quoted f.text
  else if f.text = "" && detailedKinds.contains f.kind then "<no detail available>"
  else f.text

/-- A failure as the end of a trace shows it. -/
def summary (f : Failure) : String :=
  if f.shownText = "" then f.shownKind else f.shownKind ++ ": " ++ f.shownText

/-- A failure as the end of an entry shows it: a line break that ends the summary is left out, because
the entry has one of its own. -/
def ending (f : Failure) : List String := Text.lines Text.allBreaks f.summary

end Failure

/-- What is written about the failure behind a record. -/
inductive Trace
  /-- The failure is not asked for. -/
  | omitted
  /-- A failure is asked for, but none is being handled. -/
  | absent
  | present (failure : Failure)
  deriving Repr, DecidableEq

structure Record where
  tool : String
  entry : Entry
  fields : List (String × Json) := []
  trace : Trace := .omitted
  /-- Whether the calls that led to the record are asked for. -/
  showsCalls : Bool := false
  deriving Repr

/-- The text of a message; `time` is how long a timed block took. -/
def Message.render (time : String) : Message → String
  | .text shown => shown
  | .took label => s!"{label} took {time} sec"

namespace Record

def logger (r : Record) : String := loggerName r.tool

def level (r : Record) : Level := r.entry.note.level

/-- The text of a trace, without the places in the program that it names. -/
def traceText? : Trace → Option String
  | .omitted => none
  | .absent => some "NoneType: None"
  | .present failure => some ("Traceback (most recent call last):\n" ++ failure.summary)

/-- Puts a part below an entry. A line break that ends the entry is not repeated. -/
def below (entry : String) (part? : Option String) : String :=
  match part? with
  | none => entry
  | some part => (if entry.toList.getLast? = some '\n' then entry else entry ++ "\n") ++ part

/-- A level name padded to eight characters. -/
def levelText (level : Level) : String := level.label.pushn ' ' (8 - level.label.length)

/-- A record as a text without its date. -/
def toText (time : String) (r : Record) : String :=
  let entry := s!"{levelText r.level} | {r.logger} | " ++ r.entry.note.message.render time
  let calls? := if r.showsCalls then some "Stack (most recent call last):" else none
  below (below entry (traceText? r.trace)) calls?

/-- Whether a line looks like the place of a call in a trace. -/
def isCallLine (line : String) : Bool :=
  "    ".toList.isPrefixOf line.toList || "  File ".toList.isPrefixOf line.toList

/-- The lines of a record without its date and without what looks like places of calls. -/
def toLines (time : String) (r : Record) : List String :=
  (Text.lines Text.fileBreaks (r.toText time ++ "\n")).filter (!isCallLine ·)

/-- The operation of a record in JSON, unless it has none or an empty one. -/
def operationField (r : Record) : List (String × Json) :=
  match r.entry.operation with
  | none | some "" => []
  | some operation => [("operation", .string operation)]

/-- The last line of the failure of a record in JSON. -/
def failureField (r : Record) : List (String × Json) :=
  match r.trace with
  | .present failure => [("exc_info", .string (failure.ending.getLast?.getD ""))]
  | _ => []

def toJson (time : String) (r : Record) : Json :=
  .object ([("level", .string r.level.label), ("logger", .string r.logger),
      ("message", .string (r.entry.note.message.render time)), ("tool_name", .string r.tool)] ++
    r.operationField ++
    (if r.fields.isEmpty then [] else [("extra", .object r.fields)]) ++ r.failureField)

end Record

end PeSignals.Log

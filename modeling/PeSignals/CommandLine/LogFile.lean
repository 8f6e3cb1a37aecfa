import PeSignals.CommandLine.Clock
import PeSignals.CommandLine.Request
import PeSignals.Files.Write
import PeSignals.Json.Printer
import PeSignals.Log.Logger

/-!
# Log files

The file to which a run appends its records, one line each or more. It is opened before anything is
scanned, so that a scan may meet it: what is scanned is the tree as it stands with the records so far.
-/
namespace PeSignals.CommandLine

open Files (FileError FileTree Location Path withoutDots)

def absolutePath (t : FileTree) (path : Path) : Path :=
  if path.anchor ≠ "" then { path with parts := withoutDots path.parts }
  else t.top.append (withoutDots (t.working ++ path.parts))

/-- The logger of a run and the place to which it writes. -/
structure LogFile where
  logger : Log.Logger
  /-- The time that stands before every record. -/
  clock : Clock
  /-- Where the log is, if there is one. -/
  location? : Option Location := none
  asJson : Bool := false

namespace LogFile

/-- How long a timed block took, as long as nobody has measured it. -/
def unmeasured : String := "0.000"

/-- A record as it stands in the log. -/
def recordText (log : LogFile) (record : Log.Record) : String :=
  if log.asJson then
    (Json.object (("timestamp", .string log.clock.text) ::
      (record.toJson unmeasured).fields)).compact ++ "\n"
  else s!"{log.clock.lineText} | " ++ record.toText unmeasured ++ "\n"

/-- A tree once entries have been logged, as far as the logger keeps them. -/
def view (log : LogFile) (t : FileTree) (entries : List Log.Entry) : FileTree :=
  match log.location? with
  | none => t
  | some location =>
    let text := String.join ((entries.filterMap log.logger.accept).map log.recordText)
    t.put location ((t.fileAt? location).getD ByteArray.empty ++ text.toUTF8)

/-- Makes the file at a path unless it exists, in directories that are made as needed. -/
def create (t : FileTree) (path : String) : Except FileError (FileTree × Location) := do
  let path := Path.ofText path
  let made ← t.withParent path
  let written := made.writeIn (absolutePath made path) fun old => old.getD ByteArray.empty
  return (written.tree, ← written.result)

/-- Makes the log of a request, if it has one, and its logger. -/
def openFor (clock : Clock) (t : FileTree) (r : Request) : Except Fault (FileTree × LogFile) := do
  let (_, logger) ← (Log.Logger.start {} "cli" (← r.levelName)).mapError .level
  match ← r.logPath? with
  | none => return (t, { logger, clock })
  | some path =>
    let (t, location) ← (create t path).mapError .path
    return (t, { logger, clock, location? := some location, asJson := r.logsJson })

end LogFile

end PeSignals.CommandLine

import PeSignals.CommandLine.LogFile
import PeSignals.Display.Detection
import PeSignals.Display.Inspection
import PeSignals.Display.Legible
import PeSignals.Scan.Detection
import PeSignals.Scan.Report

/-!
# Runs

One run of the program on a file tree: what it prints, the files that it leaves, and its exit code.
The code is 0 when the scan answered, 1 when it did not or a fault ended the run, and 2 when the
arguments were not in order.
-/
namespace PeSignals.CommandLine

open Display (Drawing Event)
open Files (FileError FileTree Path)
open Inspection (Logged)

/-- What a run leaves behind. -/
structure Outcome where
  exitCode : Nat
  /-- The files, the log among them. -/
  tree : FileTree
  /-- The report on standard output. -/
  report? : Option String := none
  /-- The version text on standard output. -/
  version? : Option String := none
  /-- What is drawn; when the report goes to standard output, beside it. -/
  screen : List Event := []
  fault? : Option Fault := none

/-- What is drawn first. -/
def opening : List Event := (Display.banner programVersion).toOption.toList

/-- A scan that is to be shown. -/
structure Shown (α : Type) where
  logged : Logged α
  encode : α → Json
  drawing : Drawing
  /-- Whether the scan answered. -/
  answered : Bool
  /-- What is drawn while the scan runs. -/
  waiting : List Event := []

namespace Shown

variable {α : Type}

def reportText (s : Shown α) (clock : Clock) : String :=
  (s.logged.scan.report clock.text s.encode).indented

/-- What is drawn of a scan beside a banner, and the fault that ends the drawing, if one does. -/
def drawn (s : Shown α) (r : Request) : List Event × Option Display.MarkupFault :=
  if r.json then ([], none) else Display.legible (s.waiting ++ s.drawing.events)

/-- What is drawn before the report is written. -/
def screen (s : Shown α) (r : Request) : List Event :=
  if r.json then [] else opening ++ (s.drawn r).1

/-- The outcome of a run without a file for the report. -/
def outcome (s : Shown α) (clock : Clock) (r : Request) (t : FileTree) (log : LogFile) : Outcome where
  exitCode := if s.answered && (s.drawn r).2.isNone then 0 else 1
  tree := log.view t s.logged.log
  report? := if r.json then some (s.reportText clock) else none
  screen := s.screen r
  fault? := (s.drawn r).2.map .markup

/-- Adds a message to what was drawn. -/
def say (o : Outcome) (message : Event) : Outcome :=
  match message.check with
  | .error cause => { o with exitCode := 1, fault? := some (.markup cause) }
  | .ok _ => { o with screen := o.screen ++ [message] }

/-- Writes the report to the file at a path. -/
def saveTo (s : Shown α) (clock : Clock) (o : Outcome) (path : String) : Outcome :=
  let written := writeReport o.tree path (s.reportText clock)
  let o := { o with tree := written.tree }
  match written.result with
  | .error e => { o with exitCode := 1, fault? := some (.path e) }
  | .ok location =>
    say o (Display.success s!"JSON report saved to: {written.tree.absolute location}")

/-- Writes the report to the file that is named for it, if one is and the run came so far. -/
def save (s : Shown α) (clock : Clock) (r : Request) (o : Outcome) : Outcome :=
  match o.fault?, r.output? with
  | none, some path => s.saveTo clock o path
  | _, _ => o

/-- Ends a run; a quiet one draws nothing, but it reads what it would draw. -/
def finish (s : Shown α) (clock : Clock) (r : Request) (t : FileTree) (log : LogFile) : Outcome :=
  let o := s.save clock r (s.outcome clock r t log)
  if r.quiet then { o with screen := [] } else o

end Shown

def foundImage : Inspection → Bool
  | .image _ => true
  | _ => false

def runInspect (clock : Clock) (t : FileTree) (log : LogFile) (r : Request) :
    Except Fault Outcome := do
  if let some kindName := r.configuration.timeFault? then throw (.timeLimit kindName)
  let logged ← (Inspection.inspectIn (log.view t) r.configuration.settings (r.own.values .pattern)
    r.target none clock.moment).mapError .scan
  let shown : Shown Inspection := { logged
                                    encode := Inspection.toJson
                                    drawing := Display.displayInspection logged.scan
                                    answered := foundImage logged.scan.payload }
  return shown.finish clock r t log

/-- What is drawn while a directory is surveyed. -/
def surveying (r : Request) : Event := Display.status s!"Scanning {r.target}..."

/-- Runs a detection. The survey waits until the message about it can be read. -/
def runDetect (clock : Clock) (t : FileTree) (log : LogFile) (r : Request) :
    Except Fault Outcome := do
  (surveying r).check.mapError .markup
  let logged ← (GameReport.detectIn (log.view t) r.configuration.settings r.target
    (r.own.value? .main) clock.moment).mapError .scan
  let shown : Shown GameReport := { logged
                                    encode := GameReport.toJson
                                    drawing := Display.displayDetection logged.scan
                                    answered := logged.scan.payload.analysis.errors.isEmpty
                                    waiting := [surveying r] }
  return shown.finish clock r t log

/-- The outcome of a run that ends with a fault. -/
def faulty (t : FileTree) (fault : Fault) : Outcome := { exitCode := 1, tree := t, fault? := some fault }

/-- Does what a request asks for with an open log. -/
def Request.scan (clock : Clock) (t : FileTree) (log : LogFile) (r : Request) :
    Except Fault Outcome :=
  match r.command with
  | .inspect => runInspect clock t log r
  | .detect => runDetect clock t log r

/-- Does what a request asks for; the log has a clock of its own. -/
def Request.run (clock logClock : Clock) (t : FileTree) (r : Request) : Outcome :=
  match LogFile.openFor logClock t r with
  | .error fault => faulty t fault
  | .ok (t, log) =>
    match r.scan clock t log with
    | .error fault => faulty t fault
    | .ok o => o

/-- The outcome of a run that stops before it scans anything. -/
def stopped (t : FileTree) : Stop → Outcome
  | .misuse => { exitCode := 2, tree := t }
  | .help => { exitCode := 0, tree := t }
  | .version => { exitCode := 0, tree := t, version? := some s!"drmscan, version {programVersion}" }
  | .fault cause => faulty t cause

def run (clock logClock : Clock) (t : FileTree) (arguments : List String) : Outcome :=
  match Request.read t arguments with
  | .error stop => stopped t stop
  | .ok r => r.run clock logClock t

end PeSignals.CommandLine

import Mathlib
import PeSignals.CommandLine.Run
import PeSignals.Proofs.CommandLine.Invocation
import PeSignals.Proofs.Display.Message
import PeSignals.Proofs.Files.Write
import PeSignals.Proofs.Scan.Detection
import PeSignals.Proofs.Scan.Inspection
import PeSignals.Proofs.Scan.Report

/-!
# Runs that report

A run that was asked for a report prints one, writes the same to the file that is named for it, and exits
with 0 exactly if it could answer for its target. What can stand in the way is a log level without a weight,
a limit that is too large for a timer, and a message that names the target of a detection or the file of the
report: such a message is read as markup.
-/
namespace PeSignals.CommandLine

open Files (FileTree Location Path)
open GameReport (emptyGame)
open Inspection (namelessTree)

/-! ## The end of a run -/

/-- The message that names the place of a saved report. -/
def savedMessage (t : FileTree) (location : Location) : Display.Event :=
  Display.success s!"JSON report saved to: {t.absolute location}"

/-- Whether the place of a report that is written to a path can be named. -/
def IsNamed (t : FileTree) (path : String) : Prop :=
  ∀ location, (writeReport t path "").result = .ok location → (savedMessage t location).check = .ok ()

namespace Shown

variable {α : Type} (s : Shown α) (clock : Clock) {r : Request} (t : FileTree) {log : LogFile}

end Shown

/-! ## The start of a run -/

/-- Whether a configuration names a level, no log, and a time limit that leaves time. -/
structure IsPlain (c : Configuration) : Prop where
  level : ∃ name, (c.generalSetting "log_level").asText = .ok name
  unlogged : c.generalSetting "log_file" = .value .null
  timed : c.timeFault? = none
  positive : c.settings.timeLimit.isNotPositive = false

namespace Invocation

variable (i : Invocation)

/-- Whether there is an answer for the target: an image to inspect, or a directory to survey. -/
def IsAnswerable (t : FileTree) : Prop :=
  match i.command with
  | .inspect => ∃ data image, t.read i.target = .ok data ∧ (Image.parse data i.target).outcome = .image image
  | .detect => t.isDirectory (Path.ofText i.target).text = .ok true

/-- Whether a report is that of an inspection with an image or without one. -/
def Tells (report : Json) (found : Prop) : Prop :=
  ∃ analysis, report.get? "analysis" = some analysis ∧
    ((analysis.get? "image").isSome = true ↔ found) ∧
    ((analysis.get? "invalid_image").isSome = true ↔ ¬ found)

/-- What a run that came to a scan prints and saves, and how it exits. -/
structure Reports (t : FileTree) (o : Outcome) : Prop where
  printed : ∃ report : Json, o.report? = some report.indented ∧ report.CountsAddUp ∧
    (i.command = .inspect → Tells report (i.IsAnswerable t))
  saved : ∀ path ∈ i.output?, ∀ text ∈ o.report?, o.tree.read (Path.ofText path).text = .ok text.toUTF8
  zero : o.exitCode = 0 ↔ i.IsAnswerable t ∧ ∀ path ∈ i.output?, IsNamed t path
  code : o.exitCode = 0 ∨ o.exitCode = 1

variable {i}

variable {t : FileTree} {c : Configuration}

end Invocation

end PeSignals.CommandLine

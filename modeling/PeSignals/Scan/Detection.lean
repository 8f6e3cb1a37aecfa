import PeSignals.Decimal.Fixed
import PeSignals.Protection.Survey
import PeSignals.Scan.Inspection

/-!
# Detections

The scan of a game directory: a survey, with one finding per detected scheme that is rated by the
route around the scheme.
-/
namespace PeSignals

open Files (FileError FileTree)
open Log (Entry Note)
open Protection (Analysis Bypass)

/-- The payload of a detection. -/
structure GameReport where
  analysis : Analysis

namespace GameReport

/-- How much a scheme matters, by the route around it. -/
def severity : Bypass → Severity
  | .unneeded => .info
  | .goldberg => .low
  | .goldbergExperimental | .creamApi => .medium
  | .manualPatch => .high
  | .notPossible => .critical

def finding (d : Protection.Detection) : Finding :=
  let bypass := d.scheme.bypass
  Finding.make (severity bypass) s!"{d.scheme.displayName} detected"
    (if d.evidence = "" then d.scheme.displayName else d.evidence)
    (.object [("type", .string d.scheme.label), ("confidence", .string d.confidence.label),
      ("bypass", .string bypass.label)])
    bypass.advice

def findings (a : Analysis) : List Finding := a.detected.map finding

/-- The summary of an analysis. -/
def summary (a : Analysis) : String :=
  if a.errors.isEmpty then
    " | ".intercalate [s!"Primary DRM: {a.primary.displayName}",
      s!"Executables: {a.executables}",
      s!"Compatibility: {Decimal.percent a.verdict.score.toFloat}",
      s!"Recommendation: {a.verdict.packaging.label}"]
  else "Analysis incomplete: " ++ "; ".intercalate a.errors

def toolName : String := "drmscan.detect"

def scanOf (game : String) (now : Time.Moment) (a : Analysis) : Scan GameReport :=
  { tool := toolName, target := game, started := now, payload := ⟨a⟩,
    findings := findings a : Scan GameReport }.finalize now (some (summary a))

/-- The operation under which the notes of a survey are logged. -/
def operation : String := "detect"

/-- The logged scan of a surveyed directory. -/
def ofSurvey (game : String) (now : Time.Moment) (surveyed : Protection.Noted Analysis) :
    Inspection.Logged GameReport :=
  let scan := scanOf game now surveyed.value
  { scan
    log := Log.tagged operation (surveyed.notes ++ [⟨.debug, .took s!"detect {game}"⟩]) ++
      Log.untagged [.info scan.summary] }

/-- Surveys the game directory at a path, which must not be empty, in a tree that may hold the log:
`view` is the tree once some entries have been logged. -/
def detectIn (view : List Entry → FileTree) (settings : Settings) (game : String)
    (main : Option String) (now : Time.Moment) : Except ScanFault (Inspection.Logged GameReport) :=
  if game = "" then .error .noTarget
  else ((Protection.surveyIn (view ∘ Log.tagged operation) settings game main).mapError .file).map
    (ofSurvey game now)

/-- Surveys a game directory in a tree that stays as it is. -/
def detect (t : FileTree) (settings : Settings) (game : String) (main : Option String)
    (now : Time.Moment) : Except ScanFault (Inspection.Logged GameReport) :=
  detectIn (fun _ => t) settings game main now

def toJson (r : GameReport) : Json :=
  .object [("drm_analysis", r.analysis.toJson),
    ("primary_drm", .string r.analysis.primary.label)]

end GameReport

end PeSignals

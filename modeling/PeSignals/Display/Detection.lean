import PeSignals.Display.Console
import PeSignals.Display.Gauge
import PeSignals.Scan.Detection

/-!
# Display of detections

A detection is shown as a table of the detected schemes, a panel with the verdict, the notes and
errors of the analysis, and the findings. Like inspections, detections are drawn from a view.
-/
namespace PeSignals.Display

structure SchemeRow where
  scheme : String
  confidence : String
  evidence : String

structure VerdictView where
  score : Float := 0
  packaging : String := ""
  executables : String := "0"
  reason : String := ""
  launcher : Bool := false
  online : Bool := false

structure AnalysisView where
  detected : List SchemeRow := []
  verdict : VerdictView := {}
  notes : List String := []
  errors : List String := []

def confidenceCell : Protection.Confidence → String
  | .low => "low"
  | .medium => "medium"
  | .high => "high"

def schemeColumns : List Column :=
  [{ header := "DRM", style := "bold" }, { header := "Confidence" },
    { header := "Evidence", ratio := some 2 }]

def schemesTable (rows : List SchemeRow) : List Event :=
  [.print [.table (Table.ofRows (some "Detected Protections") none schemeColumns
    (rows.map fun r => [r.scheme, r.confidence, r.evidence]))], blankLine]

def nothingDetected : Event := success "No DRM detected"

def schemesEvents (rows : List SchemeRow) : List Event :=
  if rows.isEmpty then [nothingDetected] else schemesTable rows

def verdictLines (v : VerdictView) (bar : String) : List String :=
  let colour := scoreColour v.score
  [s!"[bold]Score:[/bold]          [{colour}]{Decimal.percent v.score}[/{colour}]",
    s!"  {bar}",
    s!"[bold]Recommendation:[/bold] {v.packaging}",
    s!"[bold]Executables:[/bold]    {v.executables}"] ++
    (if v.reason = "" then [] else [s!"[bold]Reason:[/bold]         {v.reason}"]) ++
    (if v.launcher then ["[scan.warning]Launcher may be required[/scan.warning]"] else []) ++
    (if v.online then ["[scan.warning]Online connection may be required[/scan.warning]"] else [])

def verdictEvents (v : VerdictView) (bar : String) : List Event :=
  [.print [.panel {
      body := "\n".intercalate (verdictLines v bar)
      title := some "[bold bright_cyan]Compatibility[/bold bright_cyan]"
      borderStyle := scoreColour v.score, padding := (0, 2) }],
    blankLine]

/-- The verdict panel, unless the score has no bar. -/
def verdictDrawing (v : VerdictView) : Drawing :=
  .needing ((scoreBar v.score).mapError .notWhole) (verdictEvents v)

/-- The line that closes a hopeless case. -/
def hopelessLine : Event :=
  critical "Protection cannot be bypassed; the game is not packageable"

/-- The end of a detection: what is left to say of a hopeless case, and the findings. -/
def endingEvents (findings : List Finding) (highest : Option Severity) : List Event :=
  (if highest = some .critical then [hopelessLine] else []) ++
    (if findings.isEmpty then [] else [findingsTable findings]) ++ [divider]

/-- A whole detection. -/
def analysisDrawing (v : AnalysisView) (findings : List Finding) (highest : Option Severity) :
    Drawing :=
  .sequence [.of (heading "DRM Detection" ++ schemesEvents v.detected), verdictDrawing v.verdict,
    .of (v.notes.map info ++ v.errors.map error ++ endingEvents findings highest)]

def SchemeRow.of (d : Protection.Detection) : SchemeRow where
  scheme := d.scheme.displayName
  confidence := confidenceCell d.confidence
  evidence := d.evidence

def AnalysisView.of (a : Protection.Analysis) : AnalysisView where
  detected := a.detected.map .of
  verdict := {
    score := a.verdict.score.toFloat
    packaging := a.verdict.packaging.label
    executables := toString a.executables
    reason := a.verdict.reason
    launcher := a.launcher
    online := a.online }
  notes := a.notes
  errors := a.errors

/-- Shows the scan of a game directory. -/
def displayDetection (s : Scan GameReport) : Drawing :=
  analysisDrawing (.of s.payload.analysis) s.findings s.highest?

end PeSignals.Display

import PeSignals.Display.Event
import PeSignals.Display.Markup
import PeSignals.Finding.Basic

/-!
# Console vocabulary

The building blocks of every display: a banner, headings, messages with a mark of their severity,
and tables in one style.
-/
namespace PeSignals.Display

def blankLine : Event := .print []

/-- One printed text. -/
def line (markup : String) : Event := .print [.text markup]

/-- The markup in the banner. -/
def bannerMarkup (version : String) : String :=
  "[scan.banner]drmscan[/scan.banner]\n" ++
    s!"[scan.dim]PE/COFF protection signal inspector  |  v{version}[/scan.dim]"

/-- The banner with a text that holds no markup any more. -/
def framed (shown : String) : Event :=
  .print [.panel { body := shown, borderStyle := "bright_cyan", padding := (0, 2) }]

/-- The banner with a version, which may hold markup of its own. -/
def banner (version : String) : Except MarkupFault Event :=
  (rendered (bannerMarkup version)).map framed

/-- A heading: a titled rule and a blank line. -/
def heading (title : String) : List Event :=
  [.rule s!"  {title}  " "scan.section" "─", blankLine]

def divider (style : String := "dim") : Event := .rule "" style "─"

def success (message : String) : Event := line s!"[scan.success][✔] SUCCESS:[/scan.success] {message}"

def warning (message : String) : Event := line s!"[scan.warning][⚠] WARNING:[/scan.warning] {message}"

def error (message : String) : Event := line s!"[scan.error][✘] ERROR:[/scan.error] {message}"

def info (message : String) : Event := line s!"[scan.info][ℹ] INFO:[/scan.info] {message}"

/-- A message that stands out. -/
def critical (message : String) : Event := line s!"[scan.critical][☠] CRITICAL: {message}[/scan.critical]"

/-- A spinner with a message. -/
def status (message : String := "Working...") : Event :=
  .status s!"[scan.info]{message}[/scan.info]" "dots" "bright_cyan"

/-- Columns with headers and, as far as they go, styles. -/
def columnsOf (headers styles : List String) : List Column :=
  headers.zipIdx.map fun (header, i) => { header, style := styles[i]?.getD "" }

def tableOf (title caption : Option String) (headers styles : List String)
    (rows : List (List String)) : Event :=
  .print [.table (Table.ofRows title caption (columnsOf headers styles) rows)]

def table (title : String) (headers : List String) (rows : List (List String))
    (caption : Option String := none) (styles : List String := []) : Event :=
  tableOf (some title) caption headers styles rows

def severityStyle : Severity → String
  | .critical => "scan.critical"
  | .high => "scan.high"
  | .medium => "scan.medium"
  | .low => "scan.low"
  | .info => "scan.informational"

def severityCell (s : Severity) : String :=
  s!"[{severityStyle s}]{s.label}[/{severityStyle s}]"

def findingRow (f : Finding) (i : Nat) : List String :=
  [toString (i + 1), severityCell f.severity, f.title, f.description]

def findingColumns : List Column :=
  [{ header := "#", style := "dim", justify := "right", width := some 4 },
    { header := "Severity", width := some 12 }, { header := "Title" },
    { header := "Description", ratio := some 2 }]

def findingsTable (findings : List Finding) : Event :=
  .print [.table (Table.ofRows (some "Findings") none findingColumns
    (findings.zipIdx.map fun (f, i) => findingRow f i))]

end PeSignals.Display

import PeSignals.Files.Write
import PeSignals.Scan.Basic

/-!
# Reports

A scan as a JSON document, and the file that holds it.
-/
namespace PeSignals

def reportVersion : String := "1.0.0"

namespace Scan

variable {α : Type}

/-- The type of a report: the tool's name with underscores for dots. -/
def reportType (tool : String) : String :=
  tool.map fun c => if c = '.' then '_' else c

def countsJson (s : Scan α) : Json :=
  .object (s.counts.map fun (severity, n) => (severity.label, .int n))

/-- The report on a scan; `encode` gives the report form of its payload. -/
def report (s : Scan α) (generatedAt : String) (encode : α → Json) : Json :=
  .object [
    ("report_type", .string (reportType s.tool)),
    ("version", .string reportVersion),
    ("generated_at", .string generatedAt),
    ("target", .string s.target),
    ("summary", .string s.summary),
    ("duration_seconds", .ofOption .float s.duration?),
    ("severity_counts", s.countsJson),
    ("findings", .array (s.findings.map Finding.toJson)),
    ("analysis", encode s.payload)]

end Scan

/-- Writes the text of a report to a file, in directories that are made as needed. -/
def writeReport (t : Files.FileTree) (path : String) (text : String) : Files.FileTree.Written :=
  t.write (Files.Path.ofText path) fun _ => text.toUTF8

end PeSignals

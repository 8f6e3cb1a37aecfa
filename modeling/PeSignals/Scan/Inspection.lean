import PeSignals.Config.Settings
import PeSignals.Decimal.Grouped
import PeSignals.Entropy.Class
import PeSignals.Image.Characteristics
import PeSignals.Image.Content
import PeSignals.Image.File
import PeSignals.Log.Note
import PeSignals.Protection.Signals
import PeSignals.Scan.Basic

/-!
# Inspections

The scan of one file: it is read as an image, the entropy of its sections is measured, literals are
searched in it, and what stands out becomes findings.
-/
namespace PeSignals

open Files (FileTree)
open Log (Entry Note)

/-- One section in an entropy listing. -/
structure SectionRow where
  name : String
  /-- The entropy rounded to four places. -/
  entropy : Float
  classification : String
  flags : String

/-- What an inspection learned about an image. -/
structure ImageReport where
  image : Image
  rows : List SectionRow := []
  /-- The literals searched, in order, with whether they occur. -/
  hits : List (String × Bool) := []

inductive Inspection
  /-- The inspection did not come to an end. -/
  | unfinished
  | refused (refusal : Image.Refusal)
  | image (report : ImageReport)

namespace Inspection

def row (s : Image.Section) (entropy : Float) : SectionRow where
  name := s.name
  entropy := Decimal.roundPlaces entropy 4
  classification := Entropy.classify entropy
  flags := Image.describeCharacteristics s.characteristics

/-- The distinct literals of a list that are not empty, in order of first occurrence. -/
def distinctLiterals (literals : List String) : List String :=
  (literals.filter (· ≠ "")).foldl
    (fun found literal => if found.contains literal then found else found ++ [literal]) []

def search (t : FileTree) (image : Image) (literals : List String) :
    Image.Traced (List (String × Bool)) :=
  let found := (distinctLiterals literals).map fun literal => (literal, image.holds t literal)
  ⟨found.map fun (literal, hit) => (literal, hit.value),
    found.flatMap fun (_, hit) => hit.diagnostics⟩

def refusalFinding (r : Image.Refusal) : Finding :=
  let evidence : Json := .object [("reason", .string r.reason.label), ("detail", .string r.detail)]
  match r.reason with
  | .resource =>
    let detail := if r.detail = "" then "unreadable" else r.detail
    Finding.make .high "File could not be read" s!"{r.path}: {detail}" evidence
      "Check that the file exists and is readable."
  | .structural =>
    let detail := if r.detail = "" then "rejected" else r.detail
    Finding.make .info "Not a PE image" s!"{r.path} is not a Portable Executable: {detail}" evidence

def overlayFinding (image : Image) : Finding :=
  Finding.make .medium "Large overlay"
    (s!"{Decimal.grouped image.overlay} bytes follow the last section; " ++
      "the executable may be packed or carry an embedded payload.")
    (.object [("overlay_size", .int image.overlay), ("file_size", .int image.fileSize)])
    "Inspect the overlay before packaging."

/-- A section with its entropy in a description. -/
def entropyText (s : Image.Section) (entropy : Float) : String :=
  s!"{Protection.shownName s} ({Decimal.fixed entropy 2})"

/-- The finding on sections with high entropy; the description names the first five. -/
def entropyFinding (threshold : Number) (high : List (Image.Section × Float)) : Finding :=
  let named := (high.take 5).map fun (s, entropy) => entropyText s entropy
  Finding.make .medium "High-entropy sections"
    (s!"{high.length} section(s) above entropy {Decimal.fixed threshold.toFloat 1}: " ++
      ", ".intercalate named)
    (.array (high.map fun (s, entropy) => .object [("name", .string s.name),
      ("entropy", .float (Decimal.roundPlaces entropy 4))]))
    "Encrypted or compressed code often indicates a protector."

/-- The finding on literals that occur. -/
def matchFinding (matched : List String) : Finding :=
  Finding.make .info "Pattern matches" ("Literal(s) found in file: " ++ ", ".intercalate matched)
    (.object [("patterns", .strings matched)])

def findings (settings : Settings) (image : Image) (entropies : List (Image.Section × Float))
    (hits : List (String × Bool)) : List Finding :=
  let high := entropies.filter fun m => settings.isHighEntropy m.2
  let matched := (hits.filter (·.2)).map (·.1)
  (if settings.isLargeOverlay image.overlay then [overlayFinding image] else []) ++
    (if high.isEmpty then [] else [entropyFinding settings.highEntropy high]) ++
    (if matched.isEmpty then [] else [matchFinding matched])

def summary (image : Image) (findings : Nat) : String :=
  " | ".intercalate [s!"PE {image.architecture}", s!"Sections: {image.sections.length}",
    s!"Libraries: {image.libraries.length}", s!"Functions: {image.functions.length}",
    s!"Overlay: {Decimal.grouped image.overlay} bytes", s!"Findings: {findings}"]

/-- A scan with the entries logged during it. -/
structure Logged (α : Type) where
  scan : Scan α
  log : List Entry

def toolName : String := "drmscan.inspect"

/-- A scan that has just begun. -/
def begin (path : String) (now : Time.Moment) : Scan Inspection :=
  { tool := toolName, target := path, started := now, payload := .unfinished }

/-- The entry with which an inspection begins. -/
def opening (path : String) : List Entry := Log.untagged [.info s!"Inspecting {path}"]

/-- The entries of an inspection around the notes made while it ran. -/
def logOf (path : String) (notes : List Note) (summary : List Note) : List Entry :=
  opening path ++ Log.tagged "inspect" (notes ++ [⟨.debug, .took s!"inspect {path}"⟩]) ++
    Log.untagged summary

/-- Whether the threshold for entropies would have to be written out and cannot: a whole number beyond the
doubles below some entropy. -/
def cannotTell (settings : Settings) (entropies : List (Image.Section × Float)) : Bool :=
  settings.highEntropy.isTooLarge && entropies.any fun m => settings.isHighEntropy m.2

/-- The summary of an image whose findings cannot be told. -/
def failureSummary : String := s!"Analysis failed: {Json.Misuse.numberTooLarge.message}"

def ofImage (t : FileTree) (settings : Settings) (patterns : List String) (path : String)
    (now : Time.Moment) (diagnostics : List String) (image : Image) : Logged Inspection :=
  let entropies := Protection.measuredEntropies t settings image
  let hits := search t image (settings.extraPatterns ++ patterns)
  let failed := cannotTell settings entropies.value
  let found := if failed then [] else findings settings image entropies.value hits.value
  let report : ImageReport := {
    image, rows := entropies.value.map fun (s, entropy) => row s entropy, hits := hits.value }
  let text := if failed then failureSummary else summary image found.length
  { scan := { begin path now with payload := Inspection.image report, findings := found }.finalize now
      (some text)
    log := logOf path
      (Protection.debugNotes (diagnostics ++ entropies.diagnostics ++ hits.diagnostics))
      [if failed then .error text else .info text] }

def ofRefusal (path : String) (now : Time.Moment) (diagnostics : List String) (r : Image.Refusal) :
    Logged Inspection where
  scan := { begin path now with payload := Inspection.refused r, findings := [refusalFinding r] }.finalize now
    (some s!"Not a PE image: {r.detail}")
  log := logOf path (Protection.debugNotes diagnostics) []

/-- Inspects the file at a path in a tree that may hold the log of the inspection: `view` is the tree
once some entries have been logged. -/
def runIn (view : List Entry → FileTree) (settings : Settings) (patterns : List String)
    (path : String) (now : Time.Moment) : Logged Inspection :=
  let reading := Image.ofFile (view (opening path)) path
  match reading.outcome with
  | .refused r => ofRefusal path now reading.diagnostics r
  | .image accepted =>
    let logged := opening path ++
      Log.tagged "inspect" (Protection.debugNotes reading.diagnostics)
    ofImage (view logged) settings patterns path now reading.diagnostics accepted

def run (t : FileTree) (settings : Settings) (patterns : List String) (path : String)
    (now : Time.Moment) : Logged Inspection :=
  runIn (fun _ => t) settings patterns path now

/-- The scan of a file that took longer than its limit. -/
def timedOut (path : String) (limit : Number) (now : Time.Moment) : Logged Inspection where
  scan := (begin path now).finalize now (some "Analysis timed out")
  log := Log.untagged
    [.error s!"Analysis of {path} timed out after {Decimal.fixed limit.toFloat 1}s"]

/-- Inspects the file at a path under a time limit. A limit that is not positive is over before the
inspection begins. -/
def runWithin (view : List Entry → FileTree) (settings : Settings) (patterns : List String)
    (path : String) (limit : Number) (now : Time.Moment) : Logged Inspection :=
  if limit.isNotPositive then timedOut path limit now
  else runIn view settings patterns path now

/-- Inspects the file at a path, which must not be empty, in a tree that may hold the log. Without a
limit of its own an inspection has that of the settings. A limit beyond the doubles is refused, and a
positive one before the path is looked at. -/
def inspectIn (view : List Entry → FileTree) (settings : Settings) (patterns : List String)
    (path : String) (limit : Option Number) (now : Time.Moment) :
    Except ScanFault (Logged Inspection) :=
  let limit := limit.getD settings.timeLimit
  if limit.isTooLarge && (!limit.isNotPositive || path ≠ "") then .error .limitTooLarge
  else if path = "" then .error .noTarget
  else .ok (runWithin view settings patterns path limit now)

/-- Inspects the file at a path in a tree that stays as it is. -/
def inspect (t : FileTree) (settings : Settings) (patterns : List String) (path : String)
    (limit : Option Number) (now : Time.Moment) : Except ScanFault (Logged Inspection) :=
  inspectIn (fun _ => t) settings patterns path limit now

def sectionJson (s : Image.Section) : Json :=
  .object [("name", .string s.name), ("virtual_size", .int s.virtualSize),
    ("virtual_address", .int s.virtualAddress), ("raw_data_size", .int s.rawSize),
    ("raw_data_pointer", .int s.rawPointer), ("characteristics", .int s.characteristics)]

def imageJson (image : Image) : Json :=
  .object [("path", .string image.path), ("bitness", .int image.bitness),
    ("sections", .array (image.sections.map sectionJson)),
    ("imported_libraries", .strings image.libraries),
    ("imported_functions", .strings image.functions),
    ("overlay_size", .int image.overlay), ("file_size", .int image.fileSize)]

def rowJson (r : SectionRow) : Json :=
  .object [("name", .string r.name), ("entropy", .float r.entropy),
    ("classification", .string r.classification), ("flags", .string r.flags)]

def refusalJson (r : Image.Refusal) : Json :=
  .object [("path", .string r.path), ("reason", .string r.reason.label),
    ("detail", .string r.detail)]

def toJson : Inspection → Json
  | unfinished => .object []
  | refused r => .object [("invalid_image", refusalJson r)]
  | image report => .object [("image", imageJson report.image),
      ("architecture", .string report.image.architecture),
      ("section_entropy", .array (report.rows.map rowJson)),
      ("pattern_hits", .object (report.hits.map fun (literal, hit) => (literal, .bool hit)))]

end Inspection

end PeSignals

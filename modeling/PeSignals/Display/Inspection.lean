import PeSignals.Decimal.Grouped
import PeSignals.Display.Console
import PeSignals.Display.Gauge
import PeSignals.Scan.Inspection

/-!
# Display of inspections

An inspection is shown as a panel with the image's figures, a table of sections with their entropy,
the imported names, the literals searched for, and the findings. It is drawn from a view that holds
just what is shown.
-/
namespace PeSignals.Display

structure SectionView where
  name : String := ""
  virtualAddress : Int := 0
  virtualSize : Int := 0
  rawPointer : Int := 0
  rawSize : Int := 0

/-- What is shown of a section's entropy; rows are found by the name of their section. -/
structure RowView where
  name : String
  entropy : Float := 0
  flags : String := ""

/-- The figures of an image as texts. -/
structure Figures where
  path : String
  bytes : String
  kibibytes : String
  /-- Whether the image is of the wider of the two formats. -/
  wide : Bool
  bitness : String
  sections : Nat
  overlay : String

structure ImageView where
  path : String := ""
  fileSize : Int := 0
  overlay : Int := 0
  bitness : Int := 32
  sections : List SectionView := []
  rows : List RowView := []
  libraries : List String := []
  functions : List String := []
  hits : List (String × Bool) := []

inductive InspectionView
  | nothing
  | refused (path detail : String)
  | image (view : ImageView)

def ImageView.figures (v : ImageView) : Figures where
  path := v.path
  bytes := Decimal.grouped v.fileSize
  kibibytes := Decimal.fixed (Float.ofInt v.fileSize / 1024) 1
  wide := v.bitness = 64
  bitness := toString v.bitness
  sections := v.sections.length
  overlay := Decimal.grouped v.overlay

/-- The body of the image panel. -/
def Figures.text (f : Figures) : String :=
  let format := if f.wide then "PE32+" else "PE32"
  "\n".intercalate [
    s!"[bold]File:[/bold]     {f.path}",
    s!"[bold]Size:[/bold]     {f.bytes} bytes ({f.kibibytes} KiB)",
    s!"[bold]Format:[/bold]   {format} ({f.bitness}-bit)",
    s!"[bold]Sections:[/bold] {f.sections}",
    s!"[bold]Overlay:[/bold]  {f.overlay} bytes"]

/-- The panel with the image's figures. -/
def headerEvents (f : Figures) : List Event :=
  [.print [.panel {
      body := f.text
      title := some "[bold bright_cyan]Image Information[/bold bright_cyan]"
      borderStyle := "bright_cyan", padding := (1, 2) }],
    blankLine]

/-- The row of a name; of several the last. -/
def rowOf? (rows : List RowView) (name : String) : Option RowView :=
  rows.reverse.find? fun row => row.name = name

/-- An entropy in its colour. -/
def entropyCell (entropy : Float) : String :=
  let colour := entropyColour entropy
  s!"[{colour}]{Decimal.fixed entropy 3}[/{colour}]"

/-- The flags, the entropy and the entropy bar of a section. -/
def entropyCells : Option RowView → Except Fault (List String)
  | none => .ok ["", "-", ""]
  | some row => do
    let bar ← (entropyBar row.entropy 20).mapError .notWhole
    return [row.flags, entropyCell row.entropy, bar]

/-- The name of a section in the table. -/
def nameCell (name : String) : String := if name = "" then "<unnamed>" else name

/-- The row of a section; rows are counted from one. -/
def sectionRow (rows : List RowView) (s : SectionView) (i : Nat) : Except Fault (List String) := do
  let cells ← entropyCells (rowOf? rows s.name)
  return [toString (i + 1), nameCell s.name,
    "0x" ++ Text.signedHexadecimal s.virtualAddress, Decimal.grouped s.virtualSize,
    "0x" ++ Text.signedHexadecimal s.rawPointer, Decimal.grouped s.rawSize] ++ cells

def sectionColumns : List Column :=
  [{ header := "#", style := "dim", justify := "right", width := some 4 },
    { header := "Name", style := "bold", minimumWidth := some 8 },
    { header := "VAddr", justify := "right" }, { header := "VSize", justify := "right" },
    { header := "Raw Offset", justify := "right" }, { header := "Raw Size", justify := "right" },
    { header := "Flags" }, { header := "Entropy", justify := "right" },
    { header := "Entropy Bar", minimumWidth := some 22 }]

def sectionRows (rows : List RowView) (sections : List SectionView) :
    Except Fault (List (List String)) :=
  sections.zipIdx.mapM fun (s, i) => sectionRow rows s i

def sectionsEvents (cells : List (List String)) : List Event :=
  [.print [.table (Table.ofRows none none sectionColumns cells)], blankLine]

/-- The section table; an image without sections has none. -/
def sectionsDrawing (rows : List RowView) (sections : List SectionView) : Drawing :=
  if sections.isEmpty then {}
  else (Drawing.of (heading "Sections")).append
    (.needing (sectionRows rows sections) sectionsEvents)

/-- The greatest number of functions listed. -/
def shownFunctions : Nat := 50

/-- The caption under a list of functions that was cut. -/
def functionsCaption (total : Nat) : Option String :=
  if total > shownFunctions then some s!"{total - shownFunctions} more not shown" else none

def sorted (names : List String) : List String := names.mergeSort Text.notAfter

def librariesTable (total : Nat) (libraries : List String) : Event :=
  table s!"Imported Libraries ({total})" ["Library"] (libraries.map ([·])) none ["bright_cyan"]

/-- The table of sorted functions, of which only the first are listed. -/
def functionsTable (total : Nat) (functions : List String) : Event :=
  table s!"Imported Functions ({total})" ["Function"]
    ((functions.take shownFunctions).map ([·])) (functionsCaption total)

/-- The imported names. Without libraries nothing is listed. -/
def importsEvents (libraries functions : List String) : List Event :=
  heading "Imports" ++
    if libraries.isEmpty then [info "No imports found"]
    else
      [librariesTable libraries.length (sorted libraries)] ++
      (if functions.isEmpty then [] else [functionsTable functions.length (sorted functions)]) ++
      [blankLine]

/-- Whether a literal occurs, as a cell. -/
def hitCell (found : Bool) : String :=
  if found then "[scan.success]found[/scan.success]" else "[scan.dim]absent[/scan.dim]"

def hitsEvents (hits : List (String × Bool)) : List Event :=
  if hits.isEmpty then []
  else [table "Pattern Search" ["Literal", "Result"]
    (hits.map fun (literal, found) => [literal, hitCell found]), blankLine]

def imageDrawing (v : ImageView) : Drawing :=
  .sequence [.of (headerEvents v.figures), sectionsDrawing v.rows v.sections,
    .of (importsEvents v.libraries v.functions ++ hitsEvents v.hits)]

/-- The message on a file that is no image. -/
def refusalEvent (path detail : String) : Event :=
  let shown := if detail = "" then "not a PE image" else detail
  error s!"{path}: {shown}"

/-- The view of an inspection, between the heading and the findings. -/
def viewDrawing : InspectionView → Drawing
  | .nothing => {}
  | .refused path detail => .of [refusalEvent path detail]
  | .image v => imageDrawing v

/-- The end of an inspection: its findings and its summary. -/
def closingEvents (findings : List Finding) (summary : String) : List Event :=
  (if findings.isEmpty then [] else [findingsTable findings]) ++ [info summary, divider]

/-- An inspection around what it shows of its payload. -/
def inspectionDrawing (payload : Drawing) (findings : List Finding) (summary : String) : Drawing :=
  .sequence [.of (heading "Image Inspection"), payload, .of (closingEvents findings summary)]

def SectionView.of (s : Image.Section) : SectionView where
  name := s.name
  virtualAddress := s.virtualAddress
  virtualSize := s.virtualSize
  rawPointer := s.rawPointer
  rawSize := s.rawSize

def RowView.of (r : SectionRow) : RowView where
  name := r.name
  entropy := r.entropy
  flags := r.flags

def ImageView.of (r : ImageReport) : ImageView where
  path := r.image.path
  fileSize := r.image.fileSize
  overlay := r.image.overlay
  bitness := r.image.bitness
  sections := r.image.sections.map .of
  rows := r.rows.map .of
  libraries := r.image.libraries
  functions := r.image.functions
  hits := r.hits

def InspectionView.of : Inspection → InspectionView
  | .unfinished => .nothing
  | .refused r => .refused r.path r.detail
  | .image report => .image (.of report)

/-- Shows the scan of one file. -/
def displayInspection (s : Scan Inspection) : Drawing :=
  inspectionDrawing (viewDrawing (.of s.payload)) s.findings s.summary

end PeSignals.Display

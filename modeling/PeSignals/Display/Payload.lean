import PeSignals.Display.Detection
import PeSignals.Display.Inspection

/-!
# Display of payloads from elsewhere

Payloads that were read as JSON are shown like the library's own. What a payload leaves out has a
default; only the name of an entropy row and the type of a detected scheme have none. A value of another
kind than its place asks for ends the display where it is used: what was drawn before stands.
-/
namespace PeSignals.Display

open Json (Used)

/-- A value as a cell of a table: a text, or nothing for `null`. -/
def cellOf : Json → Except Fault String
  | .string s => .ok s
  | .null => .ok ""
  | j => .error (.notRenderable j.kindName)

/-! ## Inspections -/

/-- The message on a refused file; without a path it names the target. -/
def refusalOf (refusal : Json) (target : String) : Used Event := do
  let path ← refusal.fieldOr "path" (.string target)
  let detail ← refusal.fieldOr "detail" .null
  return refusalEvent path.plainText (if detail.isSet then detail.plainText else "")

def figuresOf (image : Json) : Used Figures := do
  let size ← image.fieldOr "file_size" (.int 0)
  let overlay ← image.fieldOr "overlay_size" (.int 0)
  let bitness ← image.fieldOr "bitness" (.int 32)
  let path ← image.fieldOr "path" (.string "")
  let bytes ← size.grouped
  let kibibytes ← size.kibibytes
  let sections ← (← image.fieldOr "sections" (.array [])).lengthOf
  return { path := path.plainText
           bytes
           kibibytes := Decimal.fixed kibibytes 1
           wide := bitness.equals (.int 64)
           bitness := bitness.plainText
           sections
           overlay := ← overlay.grouped }

/-- The entropy rows of a payload under their names. -/
def namedRows (payload : Json) : Used (List (Json × Json)) := do
  let rows ← (← payload.fieldOr "section_entropy" (.array [])).itemsOf
  rows.mapM fun row => do
    let name ← row.field "name"
    return (← name.asName, row)

/-- The row of a name; of several the last. -/
def namedRow? (rows : List (Json × Json)) (name : Json) : Option Json :=
  (rows.reverse.find? fun row => row.1.sameName name).map (·.2)

/-- The flags, the entropy and the entropy bar of a row. -/
def rowCells : Option Json → Except Fault (Json × String × String)
  | none => .ok (.string "", "-", "")
  | some row => do
    let entropy ← row.fieldOr "entropy" (.float 0)
    let entropy ← entropy.toDouble
    let bar ← entropyBarOf (.float entropy) (.int 20)
    let flags ← row.fieldOr "flags" (.string "")
    return (flags, entropyCell entropy, bar)

/-- The figures of a section: two addresses with the size behind each. -/
def sectionFigures (s : Json) : Used (List String) := do
  let address ← (← s.fieldOr "virtual_address" (.int 0)).hexadecimal
  let size ← (← s.fieldOr "virtual_size" (.int 0)).grouped
  let pointer ← (← s.fieldOr "raw_data_pointer" (.int 0)).hexadecimal
  let stored ← (← s.fieldOr "raw_data_size" (.int 0)).grouped
  return ["0x" ++ address, size, "0x" ++ pointer, stored]

def sectionCells (rows : List (Json × Json)) (s : Json) (i : Nat) : Except Fault (List String) := do
  let name ← s.fieldOr "name" (.string "")
  let (flags, entropy, bar) ← rowCells (namedRow? rows (← name.asName))
  let figures ← sectionFigures s
  let shown ← cellOf (if name.isSet then name else .string (nameCell ""))
  return [toString (i + 1), shown] ++ figures ++ [← cellOf flags, entropy, bar]

/-- The section table; without sections there is none. -/
def sectionsOf (rows : List (Json × Json)) (sections : Json) : Drawing :=
  if !sections.isSet then {}
  else
    let cells : Except Fault (List (List String)) := do
      let items ← sections.itemsOf
      items.zipIdx.mapM fun (s, i) => sectionCells rows s i
    (Drawing.of (heading "Sections")).append (.needing cells sectionsEvents)

/-- The sorted items of a value as texts, after their number. -/
def countedTexts (j : Json) : Used (Nat × List String) := do
  let total ← j.lengthOf
  return (total, (← j.sortedItems).map Json.plainText)

/-- The table of functions, unless there are none. -/
def functionsOf (functions : Json) : Drawing :=
  if !functions.isSet then {}
  else
    let counted : Used (Nat × List String) := do
      let texts := (← functions.sortedItems).map Json.plainText
      return (← functions.lengthOf, texts)
    .needing counted fun (total, texts) => [functionsTable total texts]

def importsOf (libraries functions : Json) : Drawing :=
  (Drawing.of (heading "Imports")).append
    (if !libraries.isSet then .of [info "No imports found"]
    else .sequence [
      .needing (countedTexts libraries) fun (total, texts) => [librariesTable total texts],
      functionsOf functions, .of [blankLine]])

def hitsOf (hits : Json) : Drawing :=
  if !hits.isSet then {}
  else .needing hits.pairs fun pairs =>
    hitsEvents (pairs.map fun (literal, hit) => (literal, hit.isSet))

def imageOf (payload image : Json) : Drawing :=
  let rows : Used (List (Json × Json) × Json) := do
    return (← namedRows payload, ← image.fieldOr "sections" (.array []))
  let imports : Used (Json × Json) := do
    return (← image.fieldOr "imported_libraries" (.array []),
      ← image.fieldOr "imported_functions" (.array []))
  .sequence [
    .needing (figuresOf image) headerEvents,
    .given rows fun (rows, sections) => sectionsOf rows sections,
    .given imports fun (libraries, functions) => importsOf libraries functions,
    hitsOf ((payload.get? "pattern_hits").getD (.object []))]

/-- The payload of an inspection of a target. A refusal wins over an image. -/
def payloadOf (payload : Json) (target : String) : Drawing :=
  match payload.get? "invalid_image", payload.get? "image" with
  | some refusal, _ => .needing (refusalOf refusal target) ([·])
  | none, some image => imageOf payload image
  | none, none => {}

/-- Shows an inspection whose payload was read from elsewhere. -/
def displayInspectionJson (s : Scan Json) : Drawing :=
  inspectionDrawing (payloadOf s.payload s.target) s.findings s.summary

/-! ## Detections -/

def confidenceOf (j : Json) : Used String := do
  let confidence ← j.asName
  match Protection.Confidence.all.find? (·.matches confidence) with
  | some c => return confidenceCell c
  | none => return confidence.plainText

def schemeRowOf (j : Json) : Except Fault SchemeRow := do
  let value ← j.field "type"
  let scheme ← (Protection.Scheme.ofJson value).mapError .unknownScheme
  let confidence ← j.fieldOr "confidence" (.int 2)
  let confidence ← confidenceOf confidence
  let evidence ← j.fieldOr "evidence" (.string "")
  return { scheme := scheme.displayName, confidence, evidence := ← cellOf evidence }

def schemesOf (detected : Json) : Drawing :=
  if !detected.isSet then .of [nothingDetected]
  else
    let rows : Except Fault (List SchemeRow) := do
      let items ← detected.itemsOf
      items.mapM schemeRowOf
    .needing rows schemesTable

/-- The verdict of an analysis with the bar of its score. -/
def verdictOf (analysis : Json) : Except Fault (VerdictView × String) := do
  let score ← analysis.fieldOr "compatibility_score" (.float 0)
  let score ← score.toDouble
  let bar ← longScoreBar score
  let text (name : String) (other : Json) : String := ((analysis.get? name).getD other).plainText
  let isSet (name : String) : Bool := (analysis.get? name).any Json.isSet
  return ({ score
            packaging := text "recommendation" (.string "")
            executables := text "executables_analyzed" (.int 0)
            reason := if isSet "compatibility_reason" then text "compatibility_reason" .null else ""
            launcher := isSet "requires_launcher"
            online := isSet "requires_online" }, bar)

/-- One message for every item of a field. -/
def remarksOf (analysis : Json) (name : String) (message : String → Event) : Drawing :=
  let items : Used (List Json) := do (← analysis.fieldOr name (.array [])).itemsOf
  .needing items fun items => items.map fun item => message item.plainText

/-- The analysis of a payload, up to its end. -/
def analysisOf (analysis : Json) : Drawing :=
  .sequence [
    .given (analysis.fieldOr "detected" (.array [])) schemesOf,
    .needing (verdictOf analysis) fun (v, bar) => verdictEvents v bar,
    remarksOf analysis "analysis_notes" info, remarksOf analysis "analysis_errors" error]

/-- Shows a detection whose payload was read from elsewhere. -/
def displayDetectionJson (s : Scan Json) : Drawing :=
  .sequence [.of (heading "DRM Detection"),
    analysisOf ((s.payload.get? "drm_analysis").getD (.object [])),
    .of (endingEvents s.findings s.highest?)]

end PeSignals.Display

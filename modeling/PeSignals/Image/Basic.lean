import PeSignals.Image.Imports
import PeSignals.Text.SortedSet

/-!
# Images

The result of reading a file as an image: an image with its sections and imported names, or a
refusal with its reason. Reading runs the header, section, overlay and import stages in order; a
failure before the section table is complete refuses the file, a failure among the imports only
shortens the import lists.
-/
namespace PeSignals

/-- An image accepted by the reader. -/
structure Image where
  path : String
  bitness : Int := 32
  sections : List Image.Section := []
  /-- The imported libraries, sorted and without repetitions. -/
  libraries : List String := []
  /-- The functions imported by name, sorted and without repetitions. -/
  functions : List String := []
  overlay : Int := 0
  fileSize : Int := 0
  deriving Repr, DecidableEq

namespace Image

/-- Whether the optional header announces a 64-bit image. -/
def is64Bit (image : Image) : Bool := image.bitness = 64

/-- The word size as text. -/
def architecture (image : Image) : String :=
  if image.is64Bit then "64-bit" else "32-bit"

/-- Whether a library is imported, ignoring the case of `name`. -/
def importsLibrary (image : Image) (name : String) : Bool :=
  image.libraries.contains (Text.lower name)

/-- Whether a function is imported by name, ignoring case. -/
def importsFunction (image : Image) (name : String) : Bool :=
  image.functions.any fun function => Text.lower function = Text.lower name

def findSection? (image : Image) (name : String) : Option Section :=
  image.sections.find? fun s => Text.lower s.name = Text.lower name

/-- Whether a file was refused for its bytes or could not be read. -/
inductive RefusalReason
  | structural
  | resource
  deriving Repr, DecidableEq

def RefusalReason.label : RefusalReason → String
  | structural => "structural"
  | resource => "resource"

structure Refusal where
  path : String
  reason : RefusalReason := .structural
  detail : String := ""
  deriving Repr, DecidableEq

/-- What reading a file as an image yields. -/
inductive Outcome
  | image (image : Image)
  | refused (refusal : Refusal)
  deriving Repr, DecidableEq

/-- An outcome together with the lines reported on the way, in order. -/
structure Reading where
  outcome : Outcome
  diagnostics : List String := []
  deriving Repr, DecidableEq

/-- Why bytes are refused: a header gate, a section table that runs past the end, or a failed read of
the table that its stage does not expect. -/
inductive Fault
  | header (fault : HeaderFault)
  | sectionTable (cause : Bytes.ReadError)
  | unguarded (cause : Bytes.ReadError)
  deriving Repr, DecidableEq

/-- The fault of a failed read of the section table, which expects nothing but the end of the file. -/
def Fault.ofTableRead (cause : Bytes.ReadError) : Fault :=
  if cause.category = "TruncatedImageError" then .sectionTable cause else .unguarded cause

def Fault.message : Fault → String
  | header fault => fault.message
  | sectionTable cause => s!"truncated section table: {cause.message}"
  | unguarded cause => cause.message

/-- The line that reports a failed read that no stage answers. -/
def parseErrorLine (path message : String) : String := s!"{path}: parse error: {message}"

def Fault.line (path : String) : Fault → String
  | header (.unguarded cause) | unguarded cause => parseErrorLine path cause.message
  | fault => s!"{path}: {fault.message}"

/-- The header and section table of a file. -/
def readLayout (data : ByteArray) : Except Fault (Header × List Section) := do
  let header ← (readHeader data).mapError .header
  let sections ← (readSections data header).mapError .ofTableRead
  return (header, sections)

def parse (data : ByteArray) (path : String) : Reading :=
  match readLayout data with
  | .error fault =>
    { outcome := .refused { path, detail := fault.message }
      diagnostics := [fault.line path] }
  | .ok (header, sections) =>
    let imports := walkImports (Bytes.Cursor.start data) header sections
    { outcome := .image {
        path
        bitness := header.bitness
        sections
        libraries := Text.sortedSet imports.libraries.toList
        functions := Text.sortedSet imports.functions.toList
        overlay := overlaySize sections header.fileSize
        fileSize := header.fileSize }
      diagnostics := imports.diagnostic?.toList }

end Image

end PeSignals

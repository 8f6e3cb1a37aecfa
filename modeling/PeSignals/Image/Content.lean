import PeSignals.Bytes.Search
import PeSignals.Entropy.Section
import PeSignals.Files.Tree
import PeSignals.Image.Basic

/-!
# Image contents

Questions that are answered from the bytes of an image's file after the image was read: whether a
literal occurs in it, and how much entropy its sections have. The file is opened anew for each
question and may have changed; a file that cannot be opened is reported and answers no, or zero.
-/
namespace PeSignals.Image

open Bytes (Comparison Cursor Search)
open Entropy (SampleFault)
open Files (FileError FileTree)

/-- An answer with the lines reported while it was sought. -/
structure Traced (α : Type) where
  value : α
  diagnostics : List String := []

/-- Changes an answer and keeps its lines. -/
def Traced.map {α β : Type} (f : α → β) (t : Traced α) : Traced β := ⟨f t.value, t.diagnostics⟩

/-- The line that reports a failed search for what is shown. -/
def searchFailureLine (path shown : String) (e : FileError) : String :=
  s!"{path}: pattern scan for {shown} failed: {e.message}"

/-- Whether a literal occurs in the file of an image. The empty literal never does. -/
def holds (image : Image) (t : FileTree) (literal : String)
    (comparison : Comparison := .ignoreCase) : Traced Bool :=
  if literal = "" then ⟨false, []⟩
  else match t.read image.path with
    | .ok data =>
      let search : Search := { needle := Text.Ascii.encode literal, comparison }
      ⟨search.found (Cursor.start data), []⟩
    | .error e => ⟨false, [searchFailureLine image.path (Text.quoted literal) e]⟩

/-- Whether one of several literals occurs; the search ends at the first that does. -/
def holdsAny (image : Image) (t : FileTree) : List String → Traced Bool
  | [] => ⟨false, []⟩
  | literal :: rest =>
    let first := image.holds t literal
    if first.value then first
    else
      let others := image.holdsAny t rest
      ⟨others.value, first.diagnostics ++ others.diagnostics⟩

/-- The line that reports a file that could not be opened again. -/
def reopenFailureLine (path : String) (e : FileError) : String :=
  s!"{path}: cannot reopen for entropy: {e.message}"

def sectionEntropy (image : Image) (t : FileTree) (s : Section) :
    Except SampleFault (Traced Float) :=
  match t.read image.path with
  | .error e => .ok ⟨0, [reopenFailureLine image.path e]⟩
  | .ok data => do
    let m ← Entropy.ofSection .file data s
    return ⟨m.entropy, m.diagnostic?.toList⟩

/-- Measures sections one after the other through one open file; a fault that ends the operation comes with
the lines reported before it. -/
def measureSections {data : ByteArray} (c : Cursor data) :
    List Section → Except (Traced SampleFault) (Traced (List (Section × Float)))
  | [] => .ok ⟨[], []⟩
  | s :: rest =>
    match Entropy.measureThrough .file c s with
    | (.error fault, _) => .error ⟨fault, []⟩
    | (.ok m, c) =>
      let lines := m.diagnostic?.toList
      match measureSections c rest with
      | .error fault => .error { fault with diagnostics := lines ++ fault.diagnostics }
      | .ok others => .ok ⟨(s, m.entropy) :: others.value, lines ++ others.diagnostics⟩

/-- The entropy of every section, in table order. -/
def sectionEntropies (image : Image) (t : FileTree) :
    Except (Traced SampleFault) (Traced (List (Section × Float))) :=
  match t.read image.path with
  | .error e => .ok ⟨image.sections.map fun s => (s, 0), [reopenFailureLine image.path e]⟩
  | .ok data => measureSections (Cursor.start data) image.sections

end PeSignals.Image

import PeSignals.Files.Tree
import PeSignals.Text.Fragment

/-!
# Walks

The files below a directory in walk order: the directory's own files come first, in the order in which the
file system lists them, and then its subdirectories in the same order, each walked to its end. A directory
whose path is too long cannot be listed, and a walk passes over it without a word.
-/
namespace PeSignals.Files

/-- Whether one location, seen from a directory, comes before or at another in walk order. -/
def walksBefore (lists : Location → String → String → Bool) : Location → Location → Location → Bool
  | _, [], _ => true
  | _, _, [] => false
  | directory, [a], [b] => lists directory a b
  | _, [_], _ => true
  | _, _, [_] => false
  | directory, a :: as, b :: bs =>
    if a = b then walksBefore lists (directory ++ [a]) as bs else lists directory a b

/-- A location as seen from a directory above it. -/
def below? (directory location : Location) : Option Location :=
  if directory.isPrefixOf location && directory.length < location.length then
    some (location.drop directory.length)
  else none

/-- A path with one more name, as a walk spells it. -/
def joined (path name : String) : String :=
  if Text.closesWith path "/" then path ++ name else path ++ "/" ++ name

/-- The path of a directory below another, as a walk from there spells it: a single dot at the start stays. -/
def walked (root : Path) (names : List String) : String := names.foldl joined root.text

/-- Whether a walk gets to a location: the path of the directory in which it stands is not too long to be
listed. The directories on the way there have shorter paths. -/
def isReached (root : Path) (relative : Location) : Bool :=
  (walked root relative.dropLast).utf8ByteSize < pathSizeLimit

/-- A file that a walk meets. -/
structure FoundFile where
  path : Path
  bytes : ByteArray

namespace FoundFile

def name (f : FoundFile) : String := f.path.name

end FoundFile

namespace FileTree

/-- The files below a location with their locations seen from there, in walk order. -/
def filesBelow (t : FileTree) (directory : Location) : List (Location × ByteArray) :=
  (t.files.filterMap fun (location, bytes) =>
    (below? directory location).map fun relative => (relative, bytes)).mergeSort
      fun a b => walksBefore t.lists directory a.1 b.1

/-- The files that a walk from the directory at a path meets. -/
def walk (t : FileTree) (path : Path) : List FoundFile :=
  match t.find path.text with
  | .ok (.directory location) =>
    ((t.filesBelow location).filter fun file => isReached path file.1).map fun (relative, bytes) =>
      { path := path.append relative, bytes }
  | _ => []

/-- The names of what stands directly in a directory. -/
def namesIn (t : FileTree) (directory : Location) : List String :=
  (t.files.map Prod.fst ++ t.directories).filterMap fun location =>
    match below? directory location with
    | some [name] => some name
    | _ => none

/-- The names of what stands in the directory at a path. -/
def list (t : FileTree) (path : Path) : Except FileError (List String) := do
  match ← t.find path.text with
  | .directory location => return t.namesIn location
  | .above => return []
  | .file .. => throw (.system .notADirectory path.text)

end FileTree

end PeSignals.Files

import PeSignals.Files.Error
import PeSignals.Files.Path
import PeSignals.Text.SortedSet

/-!
# File trees

A file tree is a list of files and a list of directories, each at a location below the top of the
tree. A path is resolved name by name from the working directory, as the file system does it: every
step but the last must lead to a directory.
-/
namespace PeSignals.Files

/-- Where a file or directory stands: the names on the way down from the top of the tree. -/
abbrev Location := List String

/-- Files with their bytes, and directories. -/
structure FileTree where
  /-- The absolute path of the top of the tree; empty at the top of the whole file system. -/
  root : String := ""
  /-- The directory from which relative paths start. -/
  working : Location := []
  files : List (Location × ByteArray) := []
  directories : List Location := []
  /-- Whether the file system, when it lists a directory, names one entry before another or at it. -/
  lists : Location → String → String → Bool := fun _ => Text.notAfter

/-- What a path leads to. -/
inductive Place
  | file (location : Location) (bytes : ByteArray)
  | directory (location : Location)
  /-- A directory above the top of the tree. -/
  | above

/-- The longest name that a directory can hold, in bytes. -/
def maximumNameSize : Nat := 255

/-- The shortest path that is refused for its length alone, in bytes. -/
def pathSizeLimit : Nat := 4096

namespace FileTree

def fileAt? (t : FileTree) (location : Location) : Option ByteArray :=
  t.files.lookup location

/-- Whether a location is a directory; the top of the tree always is. -/
def hasDirectory (t : FileTree) (location : Location) : Bool :=
  location.isEmpty || t.directories.contains location

def placeAt? (t : FileTree) (location : Location) : Option Place :=
  match t.fileAt? location with
  | some bytes => some (.file location bytes)
  | none => if t.hasDirectory location then some (.directory location) else none

def placeAbove (t : FileTree) (location : Location) : Place :=
  if location.isEmpty && t.root ≠ "" then .above else .directory location.dropLast

def step (t : FileTree) (name : String) : Place → Except Problem Place
  | .file .. => .error .notADirectory
  | .directory location =>
    if name = "" ∨ name = "." then .ok (.directory location)
    else if name = ".." then .ok (t.placeAbove location)
    else if maximumNameSize < name.utf8ByteSize then .error .nameTooLong
    else match t.placeAt? (location ++ [name]) with
      | some place => .ok place
      | none => .error .notFound
  | .above =>
    if name = "" ∨ name = "." ∨ name = ".." then .ok .above
    else if maximumNameSize < name.utf8ByteSize then .error .nameTooLong
    else .error .notFound

/-- The place from which a path starts and the names that follow. -/
def begin (t : FileTree) (path : String) : Place × List String :=
  let top := partsOf t.root
  let names := partsOf path
  if top.isPrefixOf names then (.directory [], names.drop top.length)
  else if names.head? = some "" then (.above, names)
  else (.directory t.working, names)

def resolve (t : FileTree) (path : String) : Except Problem Place :=
  if path = "" then .error .notFound
  else if pathSizeLimit ≤ path.utf8ByteSize then .error .nameTooLong
  else
    let (start, names) := t.begin path
    names.foldlM (fun place name => t.step name place) start

def find (t : FileTree) (path : String) : Except FileError Place :=
  if path.toList.contains '\x00' then .error .embeddedNul
  else (t.resolve path).mapError fun problem => .system problem path

def read (t : FileTree) (path : String) : Except FileError ByteArray := do
  match ← t.find path with
  | .file _ bytes => return bytes
  | _ => throw (.system .isADirectory path)

/-- The place at a path, `none` when there is none. A path that is too long to be looked up is an
error even here. -/
def probe (t : FileTree) (path : String) : Except FileError (Option Place) :=
  match t.find path with
  | .ok place => .ok (some place)
  | .error (.system .nameTooLong path) => .error (.system .nameTooLong path)
  | .error _ => .ok none

def fileLocation (t : FileTree) (path : String) : Except FileError (Option Location) :=
  return match ← t.probe path with
    | some (.file location _) => some location
    | _ => none

def isDirectory (t : FileTree) (path : String) : Except FileError Bool :=
  return match ← t.probe path with
    | some (.directory _) | some .above => true
    | _ => false

def pathExists (t : FileTree) (path : String) : Except FileError Bool :=
  return (← t.probe path).isSome

def absolute (t : FileTree) (location : Location) : String :=
  t.root ++ "/" ++ "/".intercalate location

def top (t : FileTree) : Path := Path.ofText (t.root ++ "/")

/-- A path from the top of the file system without double dots. There are no links, so the names alone
tell it, and a path that is too long to be looked up has one too. -/
def resolved (t : FileTree) (path : Path) : Path where
  anchor := t.top.anchor
  parts := withoutDots
    (if path.anchor = "" then t.top.parts ++ t.working ++ path.parts else path.parts)

/-- The directories on the way from the top to a location. -/
def ancestors : Location → List Location
  | [] | [_] => []
  | name :: next :: rest => [name] :: (ancestors (next :: rest)).map (name :: ·)

/-- Adds directories that are not there yet. -/
def withDirectories (t : FileTree) (locations : List Location) : FileTree :=
  { t with directories := t.directories ++ locations.filter (!t.hasDirectory ·) }

/-- Puts a file at a location, in directories that are made when they are missing. -/
def put (t : FileTree) (location : Location) (bytes : ByteArray) : FileTree :=
  let t := t.withDirectories (ancestors location)
  { t with files := (t.files.filter (·.1 ≠ location)) ++ [(location, bytes)] }

/-- Takes the file at a location away. -/
def remove (t : FileTree) (location : Location) : FileTree :=
  { t with files := t.files.filter (·.1 ≠ location) }

end FileTree

end PeSignals.Files

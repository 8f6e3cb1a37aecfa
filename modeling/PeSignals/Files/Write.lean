import PeSignals.Files.Tree

/-!
# Writing files

Directories and files are made at paths that may not exist yet. Directories on the way are made as
needed, from the outermost one that is missing.
-/
namespace PeSignals.Files.FileTree

/-- The location that a path would have, as far as its directory exists. -/
def target (t : FileTree) (path : Path) : Except Problem (Option Location × Option Place) := do
  match t.resolve path.text with
  | .ok place => return (none, some place)
  | .error .notFound =>
    match ← t.resolve path.parent.text with
    | .directory location => return (some (location ++ [path.name]), none)
    | .above => .error .notFound
    | .file .. => .error .notADirectory
  | .error problem => .error problem

def makeDirectory (t : FileTree) (path : Path) : Except Problem FileTree := do
  match ← t.target path with
  | (_, some _) => .error .fileExists
  | (some location, none) => return t.withDirectories [location]
  | (none, none) => .error .notFound

/-- Makes a directory unless it exists. -/
def ensureDirectory (t : FileTree) (path : Path) : Except Problem FileTree :=
  match t.makeDirectory path with
  | .ok made => .ok made
  | .error problem =>
    match t.resolve path.text with
    | .ok (.directory _) | .ok .above => .ok t
    | _ => .error problem

/-- Makes a directory and the missing ones above it; `left` bounds how far up they are sought. -/
def ensureDirectories (t : FileTree) (path : Path) : Nat → Except (Problem × Path) FileTree
  | 0 => .error (.notFound, path)
  | left + 1 =>
    match t.ensureDirectory path with
    | .ok made => .ok made
    | .error .notFound =>
      if path.parts = [] then .error (.notFound, path)
      else do
        let made ← t.ensureDirectories path.parent left
        (made.ensureDirectory path).mapError fun problem => (problem, path)
    | .error problem => .error (problem, path)

/-- A write: the tree after it and its result. The directories made for a file stay when the file
itself cannot be written. -/
structure Written where
  tree : FileTree
  /-- The location of the file, or why it was not written. -/
  result : Except FileError Location

/-- Makes the directory of a file. -/
def withParent (t : FileTree) (path : Path) : Except FileError FileTree :=
  if path.parent.text.toList.contains '\x00' then .error .embeddedNul
  else (t.ensureDirectories path.parent (path.parts.length + 1)).mapError
    fun (problem, path) => .system problem path.text

/-- Writes a file whose directory exists; `update` makes the new bytes from the old ones. -/
def writeIn (t : FileTree) (path : Path) (update : Option ByteArray → ByteArray) : Written :=
  if path.text.toList.contains '\x00' then ⟨t, .error .embeddedNul⟩
  else match t.target path with
    | .error problem => ⟨t, .error (.system problem path.text)⟩
    | .ok (_, some (.file location bytes)) => ⟨t.put location (update (some bytes)), .ok location⟩
    | .ok (_, some _) => ⟨t, .error (.system .isADirectory path.text)⟩
    | .ok (some location, none) => ⟨t.put location (update none), .ok location⟩
    | .ok (none, none) => ⟨t, .error (.system .notFound path.text)⟩

/-- Writes a file, after making the directories on the way. -/
def write (t : FileTree) (path : Path) (update : Option ByteArray → ByteArray) : Written :=
  match t.withParent path with
  | .error e => ⟨t, .error e⟩
  | .ok made => made.writeIn path update

/-- What stands before the name at the end of a path as it is spelled, and that name; it is empty
behind a slash. -/
def cutLastName (spelled : String) : String × String :=
  let name := (spelled.toList.reverse.takeWhile (· ≠ '/')).reverse
  (String.ofList (spelled.toList.take (spelled.length - name.length)), String.ofList name)

/-- Whether a name can only be that of a directory. -/
def namesDirectory (name : String) : Bool := name = "" || name = "." || name = ".."

/-- Writes a file at a path as it is spelled, after making the directories on the way. A path that can
only lead to a directory gets that directory and no file. -/
def writeSpelled (t : FileTree) (spelled : String) (bytes : ByteArray) : Written :=
  let (before, name) := cutLastName spelled
  let directory := Path.ofText before
  if spelled.toList.contains '\x00' then ⟨t, .error .embeddedNul⟩
  else if spelled = "" then ⟨t, .error (.system .notFound spelled)⟩
  else match t.ensureDirectories directory (directory.parts.length + 1) with
    | .error (problem, path) => ⟨t, .error (.system problem path.text)⟩
    | .ok made =>
      if namesDirectory name then ⟨made, .error (.system .isADirectory spelled)⟩
      else
        let written := made.writeIn (directory.append [name]) fun _ => bytes
        ⟨written.tree, written.result.mapError fun
          | .system problem _ => .system problem spelled
          | .embeddedNul => .embeddedNul⟩

end PeSignals.Files.FileTree

import PeSignals.Protection.Signals

/-!
# Surveys of game directories

A survey picks the executables of a game that are worth a look, collects the signals of each of them
and of the files beside them, and concludes with a verdict. A path that is no directory is an error
of the analysis, which then has no verdict.
-/
namespace PeSignals.Protection

open Files (FileError FileTree FoundFile Path)
open Log (Note)

/-- Why a directory could not be walked. -/
inductive WalkFault
  | missing (path : Path)
  | unusable (cause : FileError)
  deriving Repr, DecidableEq

def WalkFault.message : WalkFault → String
  | missing path => s!"Game directory not found: {path.text}"
  | unusable cause => cause.message

/-- The files below a directory, in walk order. -/
def filesOf (t : FileTree) (directory : Path) : Except WalkFault (List FoundFile) :=
  match t.isDirectory directory.text with
  | .error e => .error (.unusable e)
  | .ok false => .error (.missing directory)
  | .ok true => .ok (t.walk directory)

def lowerName (f : FoundFile) : String := Text.lower f.name

/-- Whether a file looks like a launcher of the game. -/
def isLauncher (f : FoundFile) : Bool :=
  Signature.isLauncherStem (Text.lower (Files.stem f.name))

/-- The size of a file as its path tells it. A file whose path is too long to be looked up counts as
empty. -/
def reportedSize (f : FoundFile) : Nat :=
  if Files.pathSizeLimit ≤ f.path.text.utf8ByteSize then 0 else f.bytes.size

/-- Game executables by size, largest first; files of one size stay in walk order. -/
def bySize (files : List FoundFile) : List FoundFile :=
  (files.filter fun f => Signature.isGameExecutable (lowerName f)).mergeSort
    fun f g => reportedSize g ≤ reportedSize f

/-- The first `n` items; a negative `n` leaves that many out at the end. -/
def firstItems (n : Int) (items : List α) : List α :=
  if n < 0 then items.take (items.length - n.natAbs) else items.take n.toNat

/-- The items within a limit, if there is one. -/
def withinLimit (limit : Option Int) (items : List α) : List α :=
  match limit with
  | none => items
  | some n => firstItems n items

/-- Selects one more executable if it is a launcher and not selected yet. -/
def keepLauncher (selected : List FoundFile) (f : FoundFile) : List FoundFile :=
  if isLauncher f && !(selected.any (·.path = f.path)) then selected ++ [f] else selected

/-- The first of the ordered executables, followed by the launchers among the others. -/
def selectExecutables (limit : Option Int) (ordered : List FoundFile) : List FoundFile :=
  ordered.foldl keepLauncher (withinLimit limit ordered)

/-- The executables of a directory that are worth a look. -/
def findExecutables (t : FileTree) (settings : Settings) (directory : Path) : Noted (List Path) :=
  match filesOf t directory with
  | .error e => ⟨[], [.error s!"Error finding game executables: {e.message}"]⟩
  | .ok files =>
    ⟨(selectExecutables settings.maximumExecutables (bySize files)).map (·.path), []⟩

/-- The signals of Steam libraries among files: a library of the programming interface counts as a
detection, one of the client is only recorded. -/
def steamSignals (files : List FoundFile) : Signals :=
  let named (library : String) : List String :=
    (files.filter fun f => lowerName f = library).map (·.path.text)
  let shipped := Signature.steamLibraries.filter fun library => !(named library).isEmpty
  { detections := shipped.map fun library => ⟨.steamStub, s!"Steam API found: {library}", .high⟩
    steamPaths := Signature.steamLibraries.flatMap named ++
      Signature.steamClientLibraries.flatMap named
    steamworks := !shipped.isEmpty }

def isDenuvoFile (name : String) : Bool := Text.holds name "denuvo"

def isLauncherFile (name : String) : Bool :=
  Text.holds name "launcher" && Text.closesWith name ".exe"

/-- The signals of file names: Denuvo files and launchers. -/
def nameSignals (files : List FoundFile) : Signals :=
  let names := files.map lowerName
  let launchers := names.filter isLauncherFile
  { detections := (names.filter isDenuvoFile).map fun name =>
      ⟨.denuvo, s!"Denuvo file: {name}", .medium⟩
    notes := launchers.map fun name => s!"Game may require launcher: {name}"
    launcher := !launchers.isEmpty }

/-- The signals of Steam libraries below a directory. -/
def steamSignalsIn (t : FileTree) (directory : Path) : Noted Signals :=
  match filesOf t directory with
  | .ok files => ⟨steamSignals files, []⟩
  | .error e =>
    ⟨{}, [.debug s!"Could not scan {directory.text} for Steam DLLs: {e.message}"]⟩

/-- The signals of file names below a directory. -/
def nameSignalsIn (t : FileTree) (directory : Path) : Noted Signals :=
  match filesOf t directory with
  | .ok files => ⟨nameSignals files, []⟩
  | .error e => ⟨{}, [.debug s!"Could not scan DRM files in {directory.text}: {e.message}"]⟩

/-- Adds noted signals to a noted analysis. -/
def Noted.absorb (a : Noted Analysis) (s : Noted Signals) : Noted Analysis :=
  ⟨a.value.absorb s.value, a.notes ++ s.notes⟩

/-- Puts the main executable first and takes it out of the others, however it is spelled there. -/
def mainFirst (t : FileTree) (main : Path) (others : List Path) : List Path :=
  t.resolved main :: others.filter fun path => t.resolved path ≠ t.resolved main

/-- The executables to look at: those found, behind the main one when there is one. -/
def chooseExecutables (t : FileTree) (main : Option String) (found : List Path) :
    Except FileError (List Path) :=
  match main with
  | none => .ok found
  | some spelled => do
    match ← t.fileLocation (Path.ofText spelled).text with
    | none => return found
    | some _ => return mainFirst t (Path.ofText spelled) found

/-- The note before executables are looked at. -/
def analysingNote (root : Path) (executables : List Path) : Note :=
  .info s!"Analysing {executables.length} executable(s) under {root.text}"

/-- Adds the signals of one more executable to an analysis, in the tree as it stands with the notes so
far. -/
def absorbExecutable (view : List Note → FileTree) (settings : Settings) (a : Noted Analysis)
    (path : Path) : Noted Analysis :=
  a.absorb (executableSignalsIn (fun notes => view (a.notes ++ notes)) settings path)

/-- An analysis with the signals of executables and of a directory added and a verdict, in a tree that may
hold the log of the survey: first the executables in order, then the files of the directory. -/
def analyseFrom (view : List Note → FileTree) (settings : Settings) (root : Path)
    (executables : List Path) (start : Noted Analysis) : Noted Analysis :=
  let looked := executables.foldl (absorbExecutable view settings) start
  let t := view looked.notes
  let all := (looked.absorb (steamSignalsIn t root)).absorb (nameSignalsIn t root)
  ⟨all.value.conclude, all.notes⟩

/-- The analysis of a directory from the executables to look at, in a tree that may hold the log of the
survey. -/
def analyseIn (view : List Note → FileTree) (settings : Settings) (root : Path)
    (executables : List Path) : Noted Analysis :=
  analyseFrom view settings root executables
    ⟨{ executables := executables.length }, [analysingNote root executables]⟩

/-- The analysis of a directory from the executables to look at, in a tree that stays as it is. -/
def analyse (t : FileTree) (settings : Settings) (root : Path) (executables : List Path) :
    Noted Analysis :=
  analyseIn (fun _ => t) settings root executables

/-- Surveys the directory at a path in a tree that may hold the log of the survey: `view` is the tree
once some notes have been logged. Only a path too long to be looked up is an error here. -/
def surveyIn (view : List Note → FileTree) (settings : Settings) (game : String)
    (main : Option String) : Except FileError (Noted Analysis) := do
  let root := Path.ofText game
  let t := view []
  if !(← t.isDirectory root.text) then
    return ⟨{ errors := [s!"Game directory not found: {root.text}"] }, []⟩
  let found := findExecutables t settings root
  match chooseExecutables t main found.value with
  | .error e =>
    return ⟨{ errors := [s!"Analysis failed: {e.message}"] },
      found.notes ++ [.error s!"DRM analysis of {root.text} failed"]⟩
  | .ok executables =>
    let analysis := analyseIn (fun notes => view (found.notes ++ notes)) settings root executables
    return ⟨analysis.value, found.notes ++ analysis.notes⟩

/-- Surveys the directory at a path in a tree that stays as it is. -/
def survey (t : FileTree) (settings : Settings) (game : String) (main : Option String) :
    Except FileError (Noted Analysis) :=
  surveyIn (fun _ => t) settings game main

end PeSignals.Protection

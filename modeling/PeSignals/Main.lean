import PeSignals.CommandLine.Run
import PeSignals.Display.Plain
import Std.Time.DateTime.Timestamp

/-!
# The program

Reads the files that the arguments name, runs the program on them, writes the files that the run
leaves and prints what it shows. All decisions are made by the run itself.
-/
namespace PeSignals.Program

open CommandLine
open Files (FileTree Location)

/-- The location of a path, seen from a working directory. -/
def locate (working : Location) (path : String) : Location :=
  (absolutePath { working } (Files.Path.ofText path)).parts

/-- The absolute path of a location. -/
def pathOf (location : Location) : String := "/" ++ "/".intercalate location

/-- Adds what stands at a location: a file with its bytes, or a directory; with `deep`, a directory
with everything below it, where only executables are read. -/
partial def load (deep : Bool) (whole : Bool) (t : FileTree) (location : Location) : IO FileTree := do
  let path := (← IO.currentDir) / pathOf location
  if ← path.isDir then
    let t := t.withDirectories (FileTree.ancestors location ++ [location])
    if deep then
      (← path.readDir).foldlM (fun t entry => load deep false t (location ++ [entry.fileName])) t
    else return t
  else if ← path.pathExists then
    let isRead := whole || Text.lower (Files.suffix (location.getLastD "")) == ".exe"
    return t.put location (← if isRead then IO.FS.readBinFile path else pure ByteArray.empty)
  else return t

/-- The texts of an argument that can be paths: the argument itself, and a value attached to an
option. -/
def candidates (argument : String) : List String :=
  [argument] ++ (nameAndValue argument).2.toList ++
    (if isOption argument then [String.ofList (argument.toList.drop 2)] else [])

/-- The files that arguments name, seen from the working directory. -/
def snapshot (arguments : List String) : IO FileTree := do
  let working := (Files.Path.ofText (← IO.currentDir).toString).parts
  let start : FileTree := { working }
  let start := start.withDirectories (FileTree.ancestors working ++ [working])
  let usable := (arguments.flatMap candidates).filter fun path =>
    path ≠ "" && !path.toList.contains '\x00'
  usable.foldlM (fun t path => load (arguments.contains "detect") true t (locate working path)) start

/-- The path of the log that a request asks for. -/
def logPath (r : Request) : Option String := r.logPath?.toOption.join

/-- Writes the files that differ between two trees. -/
def store (before after : FileTree) : IO Unit :=
  after.files.forM fun (location, bytes) => do
    unless (before.fileAt? location).any (·.data == bytes.data) do
      IO.FS.createDirAll (pathOf location.dropLast)
      IO.FS.writeBinFile (pathOf location) bytes

/-- Prints what a run shows; beside a report the messages go to standard error. -/
def display (o : Outcome) : IO Unit := do
  o.version?.forM IO.println
  o.report?.forM IO.println
  let print : String → IO Unit := if o.report?.isSome then IO.eprintln else IO.println
  (o.screen.flatMap Display.Event.toLines).forM print
  if let some fault := o.fault? then
    IO.eprintln ((fault.message?).getD "the configuration or the target is not valid")
  if o.exitCode = 2 then
    IO.eprintln "usage: drmscan [-c FILE] [-q] [-v] [--version] [--help] (inspect FILE | detect DIRECTORY)"

def runOnFiles (arguments : List String) : IO UInt32 := do
  let clock : Clock := ⟨((← Std.Time.Timestamp.now).toNanosecondsSinceUnixEpoch.toInt / 1000).toNat⟩
  let named ← snapshot arguments
  let request? := (Request.read named arguments).toOption
  let before ← (request?.bind logPath).toList.foldlM
    (fun t path => load false true t (locate named.working path)) named
  let o := run clock clock before arguments
  store before o.tree
  display o
  return UInt32.ofNat o.exitCode

end PeSignals.Program

def main (arguments : List String) : IO UInt32 :=
  PeSignals.Program.runOnFiles arguments

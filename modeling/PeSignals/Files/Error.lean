import PeSignals.Text.Quoted

/-!
# File errors

Why a path could not be used, with the wording that diagnostics show.
-/
namespace PeSignals.Files

/-- What the file system objects to. -/
inductive Problem
  | notFound
  | fileExists
  | notADirectory
  | isADirectory
  | nameTooLong
  deriving Repr, DecidableEq

namespace Problem

def code : Problem → Nat
  | notFound => 2
  | fileExists => 17
  | notADirectory => 20
  | isADirectory => 21
  | nameTooLong => 36

def describe : Problem → String
  | notFound => "No such file or directory"
  | fileExists => "File exists"
  | notADirectory => "Not a directory"
  | isADirectory => "Is a directory"
  | nameTooLong => "File name too long"

end Problem

/-- A failed use of a path. -/
inductive FileError
  | system (problem : Problem) (path : String)
  /-- The path holds a zero character, which no file name can. -/
  | embeddedNul
  deriving Repr, DecidableEq

def FileError.message : FileError → String
  | system problem path =>
    s!"[Errno {problem.code}] {problem.describe}: " ++ Text.quoted path
  | embeddedNul => "embedded null byte"

end PeSignals.Files

import Mathlib
import PeSignals.CommandLine.Request
import PeSignals.Proofs.Result

/-!
# Invocations

An invocation is what a user writes to get a report on standard output. Its arguments are read as the
request that they spell, if the configuration can be loaded and the paths are of the right kind.
-/
namespace PeSignals.CommandLine

open Files (FileTree)

def Command.name : Command → String
  | inspect => "inspect"
  | detect => "detect"

/-- A command with its target, and the options that go with a report on standard output. -/
structure Invocation where
  command : Command
  target : String
  configuration? : Option String := none
  quiet : Bool := false
  verbose : Bool := false
  output? : Option String := none

namespace Invocation

/-- The arguments before the command. -/
def sharedArguments (i : Invocation) : List String :=
  (i.configuration?.elim [] fun path => ["--config", path]) ++
    ((if i.quiet then ["--quiet"] else []) ++ (if i.verbose then ["--verbose"] else []))

def options (i : Invocation) : List String :=
  "--json" :: i.output?.elim [] fun path => ["--output", path]

/-- The arguments behind the command. A target that looks like an option stands behind two dashes. -/
def ownArguments (i : Invocation) : List String :=
  if isOption i.target then i.options ++ ["--", i.target] else i.target :: i.options

def arguments (i : Invocation) : List String := i.sharedArguments ++ i.command.name :: i.ownArguments

def sharedGiven (i : Invocation) : List (Switch × String) :=
  (i.configuration?.elim [] fun path => [(.config, path)]) ++
    ((if i.quiet then [(.quiet, "")] else []) ++ (if i.verbose then [(.verbose, "")] else []))

def ownGiven (i : Invocation) : List (Switch × String) :=
  (.json, "") :: i.output?.elim [] fun path => [(.output, path)]

/-- The request that an invocation spells. -/
def request (i : Invocation) (c : Configuration) : Request where
  shared := { given := i.sharedGiven, operands := i.command.name :: i.ownArguments }
  configuration := c
  command := i.command
  own := { given := i.ownGiven, operands := [i.target] }
  target := i.target

end Invocation

/-! ## Arguments -/

namespace Arguments

variable {forms : List OptionForm} {mixed : Bool}

end Arguments

/-! ## Reading an invocation -/

namespace Invocation

variable (i : Invocation) {c : Configuration}

end Invocation

end PeSignals.CommandLine

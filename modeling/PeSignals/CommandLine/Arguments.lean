/-!
# Arguments

The arguments of a command are options and operands. An option has a long name and may have a short
one; some options are followed by a value. Short options can be run together, a value can stand in the
same argument as its option, and two dashes alone end the options.
-/
namespace PeSignals.CommandLine

/-- What an option is about. -/
inductive Switch
  | config
  | quiet
  | verbose
  | version
  | help
  | pattern
  | json
  | output
  | main
  deriving Repr, DecidableEq

/-- How an option is written. -/
structure OptionForm where
  switch : Switch
  short? : Option Char := none
  long : String
  takesValue : Bool := false
  deriving Repr

structure Arguments where
  /-- The options in order, with their values; an option without a value has an empty one. -/
  given : List (Switch × String) := []
  operands : List String := []
  deriving Repr, DecidableEq

/-- What one argument says: options, and the option that takes the next argument as its value. -/
structure Reading where
  given : List (Switch × String) := []
  waiting? : Option Switch := none
  deriving Repr, DecidableEq

/-- Reads short options that are run together. What follows an option that takes a value is its
value. -/
def readShort (forms : List OptionForm) : List Char → Option Reading
  | [] => some {}
  | c :: rest =>
    match forms.find? (·.short? = some c) with
    | none => none
    | some form =>
      if !form.takesValue then
        (readShort forms rest).map fun r => { r with given := (form.switch, "") :: r.given }
      else if rest.isEmpty then some { waiting? := some form.switch }
      else some { given := [(form.switch, String.ofList rest)] }

/-- The name in a long option, and the value after an equals sign. -/
def nameAndValue (argument : String) : String × Option String :=
  let cs := argument.toList
  let name := cs.takeWhile (· ≠ '=')
  (String.ofList name,
    if name.length < cs.length then some (String.ofList (cs.drop (name.length + 1))) else none)

/-- Reads an argument that starts with a dash. Long names are tried first. -/
def readOption (forms : List OptionForm) (argument : String) : Option Reading :=
  let (name, value?) := nameAndValue argument
  match forms.find? (·.long = name) with
  | some form =>
    match form.takesValue, value? with
    | true, some value => some { given := [(form.switch, value)] }
    | true, none => some { waiting? := some form.switch }
    | false, some _ => none
    | false, none => some { given := [(form.switch, "")] }
  | none =>
    match argument.toList with
    | '-' :: '-' :: _ => none
    | _ :: letters => readShort forms letters
    | [] => none

/-- Whether an argument is an option. A dash alone is an operand. -/
def isOption (argument : String) : Bool :=
  match argument.toList with
  | '-' :: _ :: _ => true
  | _ => false

namespace Arguments

/-- Options before other arguments. -/
def prepend (given : List (Switch × String)) (a : Arguments) : Arguments :=
  { a with given := given ++ a.given }

/-- Tells arguments apart. Unless operands may be `mixed` with options, the first operand ends the
options. Nothing is read where an option is unknown, has a value that it does not take, or lacks the
one that it takes. -/
def read (forms : List OptionForm) (mixed : Bool) : List String → Option Arguments
  | [] => some {}
  | argument :: rest =>
    if argument = "--" then some { operands := rest }
    else if isOption argument then
      match readOption forms argument with
      | none => none
      | some reading =>
        match reading.waiting?, rest with
        | none, rest => (read forms mixed rest).map (prepend reading.given)
        | some switch, value :: rest =>
          (read forms mixed rest).map (prepend (reading.given ++ [(switch, value)]))
        | some _, [] => none
    else if mixed then
      (read forms mixed rest).map fun a => { a with operands := argument :: a.operands }
    else some { operands := argument :: rest }

def has (a : Arguments) (switch : Switch) : Bool := a.given.any (·.1 = switch)

def values (a : Arguments) (switch : Switch) : List String :=
  (a.given.filter (·.1 = switch)).map (·.2)

/-- The value of an option that counts once: the last one. -/
def value? (a : Arguments) (switch : Switch) : Option String := (a.values switch).getLast?

/-- The distinct options that are given, in order of first appearance. -/
def switches (a : Arguments) : List Switch := (a.given.map (·.1)).eraseDups

end Arguments

end PeSignals.CommandLine

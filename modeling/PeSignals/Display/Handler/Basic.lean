import PeSignals.Display.Handler.Expression
import PeSignals.Text.Blank
import PeSignals.Text.Quoted

/-!
# Handlers

A tag whose name starts with an at sign sets a handler for what it encloses. Behind an equals sign stand
the name of the handler and its arguments in brackets, or the arguments alone; they have to be literals.
-/
namespace PeSignals.Display.Handler

/-- Why the arguments of a handler cannot be read. -/
inductive Fault
  /-- They are no expression. -/
  | unreadable (arguments given : String) (cause : SyntaxFault)
  /-- They have no value. -/
  | valueless (given : String) (cause : ValueFault)
  deriving Repr, DecidableEq

def ValueFault.message : ValueFault → String
  | malformed => "malformed node or string"
  | unhashable kind => s!"unhashable type: '{kind}'"

def Fault.message : Fault → String
  | unreadable _ given .nul => "error parsing " ++ Text.quoted given ++ "; " ++ SyntaxFault.nul.message
  | unreadable arguments given cause =>
    "error parsing " ++ Text.quoted arguments ++ " in " ++ Text.quoted given ++ "; " ++ cause.message
  | valueless given cause => "error parsing " ++ Text.quoted given ++ "; " ++ cause.message

/-- Whether a character can stand in the name of a handler. -/
def isHandlerChar (c : Char) : Bool :=
  c = '.' || (isNameChar c && !signRanges.has c && !Text.Table.unprintable.has c)

/-- The arguments in the text behind an equals sign: without brackets behind a name there are none. -/
def argumentsOf (cs : List Char) : List Char :=
  let behind := cs.dropWhile isHandlerChar
  if behind.isEmpty then "()".toList
  else if behind.head? = some '(' && behind.getLast? = some ')' && !behind.contains '\n' then behind
  else cs

/-- Reads the arguments in the text behind an equals sign. -/
def check (given : String) : Except Fault Unit := do
  if given = "" then return ()
  let arguments := argumentsOf (Text.stripped given.toList)
  match ← (valueOf arguments).mapError (.unreadable (String.ofList arguments) given) with
  | .faulty cause => throw (.valueless given cause)
  | _ => return ()

end PeSignals.Display.Handler

import PeSignals.Text.Quoted

/-!
# Misused values

Why a value could not be used as it was to be: it is of another kind than its use asks for, or the
result does not fit. Kinds go by the names that messages have for them.
-/
namespace PeSignals.Json

/-- Why a value could not be used. -/
inductive Misuse
  /-- A value that has no such operation. -/
  | noOperation (kind operation : String)
  /-- An object lacks a field. -/
  | missingField (name : String)
  /-- An object was asked for a field by number. -/
  | missingNumber (number : Nat)
  /-- A field was asked of a value that has none. -/
  | noFields (kind : String)
  /-- A field was asked of a text. -/
  | fieldOfText
  /-- A field was asked of an array. -/
  | fieldOfArray
  | noLength (kind : String)
  | noItems (kind : String)
  /-- A value that names nothing in an object. -/
  | noName (kind : String)
  | incomparable (operator left right : String)
  | noArithmetic (operator left right : String)
  /-- A text or an array was to be joined with a value of another kind. -/
  | unjoinable (left right : String)
  /-- A value that is not written in a form of its own. -/
  | noForm (kind : String)
  /-- A value that has forms, but not the one with a code. -/
  | unknownForm (code kind : String)
  /-- A text is not written in groups of digits. -/
  | groupedText
  /-- A value that is no number. -/
  | notNumber (kind : String)
  /-- A text that stands for no number. -/
  | notNumeral (text : String)
  /-- A whole number beyond the doubles. -/
  | numberTooLarge
  /-- A quotient beyond the doubles. -/
  | quotientTooLarge
  /-- A text was to be repeated a number of times that is not whole. -/
  | brokenCount (kind : String)
  /-- A text was to be repeated more often than can be counted. -/
  | countTooLarge
  /-- A text is too long to be kept. -/
  | outOfMemory
  /-- A number of times that is not whole. -/
  | notWhole (kind : String)
  /-- A value that is no size of a read. -/
  | noSize (kind : String)
  /-- A value that is no position in a list. -/
  | noIndex (kind : String)
  /-- A position before or behind a list. -/
  | outside
  /-- A position that no list can have. -/
  | positionTooLarge
  /-- A value that is no path. -/
  | noPath (kind : String)
  deriving Repr, DecidableEq

namespace Misuse

def message : Misuse → String
  | noOperation kind operation => s!"'{kind}' object has no attribute '{operation}'"
  | missingField name => Text.quoted name
  | missingNumber number => toString number
  | noFields kind => s!"'{kind}' object is not subscriptable"
  | fieldOfText => "string indices must be integers, not 'str'"
  | fieldOfArray => "list indices must be integers or slices, not str"
  | noLength kind => s!"object of type '{kind}' has no len()"
  | noItems kind => s!"'{kind}' object is not iterable"
  | noName kind => s!"unhashable type: '{kind}'"
  | incomparable operator left right =>
    s!"'{operator}' not supported between instances of '{left}' and '{right}'"
  | noArithmetic operator left right =>
    s!"unsupported operand type(s) for {operator}: '{left}' and '{right}'"
  | unjoinable left right => s!"can only concatenate {left} (not \"{right}\") to {left}"
  | noForm kind => s!"unsupported format string passed to {kind}.__format__"
  | unknownForm code kind => s!"Unknown format code '{code}' for object of type '{kind}'"
  | groupedText => "Cannot specify ',' with 's'."
  | notNumber kind => s!"float() argument must be a string or a real number, not '{kind}'"
  | notNumeral text => "could not convert string to float: " ++ Text.quoted text
  | numberTooLarge => "int too large to convert to float"
  | quotientTooLarge => "integer division result too large for a float"
  | brokenCount kind => s!"can't multiply sequence by non-int of type '{kind}'"
  | countTooLarge => "cannot fit 'int' into an index-sized integer"
  | outOfMemory => ""
  | notWhole kind => s!"'{kind}' object cannot be interpreted as an integer"
  | noSize kind => s!"argument should be integer or None, not '{kind}'"
  | noIndex kind => s!"tuple indices must be integers or slices, not {kind}"
  | outside => "tuple index out of range"
  | positionTooLarge => "cannot fit 'int' into an index-sized integer"
  | noPath kind => s!"expected str, bytes or os.PathLike object, not {kind}"

def category : Misuse → String
  | noOperation .. => "AttributeError"
  | missingField _ | missingNumber _ => "KeyError"
  | unknownForm .. | groupedText | notNumeral _ => "ValueError"
  | numberTooLarge | quotientTooLarge | countTooLarge => "OverflowError"
  | outside | positionTooLarge => "IndexError"
  | outOfMemory => "MemoryError"
  | _ => "TypeError"

end Misuse

end PeSignals.Json

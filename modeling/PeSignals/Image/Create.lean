import PeSignals.Decimal.Number
import PeSignals.Decimal.Whole
import PeSignals.Field
import PeSignals.Image.Basic
import PeSignals.Text.Blank
import PeSignals.Text.Digits

/-!
# Images from given values

An image made from the fields of an object, with every broken rule reported. A whole number may also be
given as a truth value, as a double without a fraction or as a text.
-/
namespace PeSignals.Image

/-- Why characters are no whole number. -/
inductive Unwhole
  | form
  | length
  deriving Repr, DecidableEq

/-- The whole number that plain characters stand for: digits without a needless zero and behind a minus
at most. Their number is looked at before what follows them; the minus counts as one. -/
def plainWhole (cs : List Char) : Except Unwhole Int :=
  let (negative, rest) := match cs with
    | '-' :: rest => (true, rest)
    | cs => (false, cs)
  let digits := rest.takeWhile Char.isDigit
  if digits.head? ≠ some '0' ∧ Text.digitLimit < digits.length + (if negative then 1 else 0) then
    .error .length
  else if digits.isEmpty ∨ digits.length < rest.length then .error .form
  else if digits.head? = some '0' ∧ 1 < digits.length then .error .form
  else
    let size : Int := Text.digitsValue digits
    .ok (if negative then -size else size)

/-- What follows a zero, with that zero where it is needed: further zeros and underscores are passed
over up to another digit, a minus or a point. -/
def afterZero (zero : Char) : List Char → Option (List Char)
  | [] => some [zero]
  | c :: rest =>
    if c = '0' ∨ c = '_' then afterZero c rest
    else if c = '.' then some (zero :: c :: rest)
    else if c = '-' ∨ c.isDigit then some (c :: rest)
    else none

/-- Characters that start with a digit or a minus, without needless zeros before the others. -/
def withoutLeadingZeros : List Char → Option (List Char)
  | [] => none
  | c :: rest =>
    if c = '0' then afterZero c rest
    else if c = '-' ∨ c.isDigit then some (c :: rest)
    else none

/-- Characters without the point and the zeros that end them. -/
def withoutZeroFraction (cs : List Char) : List Char :=
  let places := (cs.dropWhile (· ≠ '.')).tail
  if !places.isEmpty && places.all (· = '0') then cs.takeWhile (· ≠ '.') else cs

/-- Whether two underscores stand side by side, or one beside an end; `before` says whether an
underscore or the start stands before. -/
def hasLooseUnderscore (before : Bool) : List Char → Bool
  | [] => before
  | c :: rest => (before && c = '_') || hasLooseUnderscore (c = '_') rest

/-- Characters without underscores, where each of them stands alone within. -/
def withoutSingleUnderscores (cs : List Char) : List Char :=
  if hasLooseUnderscore true cs then cs else cs.filter (· ≠ '_')

/-- The plain characters of a whole number: a plus, needless zeros, a fraction of zeros and single
underscores are taken out. -/
def plainDigits? (cs : List Char) : Option (List Char) := do
  let cs ← match cs with
    | '+' :: '-' :: _ => none
    | '+' :: rest => some rest
    | cs => some cs
  let cs ← withoutLeadingZeros cs
  let cs ← match cs with
    | '-' :: rest => (withoutLeadingZeros rest).map ('-' :: ·)
    | cs => some cs
  return withoutSingleUnderscores (withoutZeroFraction cs)

/-- The whole number that a text stands for, with blanks around it. -/
def wholeOfText (text : String) : Except Unwhole Int :=
  match plainWhole text.toList with
  | .error .form => match plainDigits? (Text.trim text).toList with
    | some cs => plainWhole cs
    | none => .error .form
  | read => read

/-- The rule that characters break which are no whole number. -/
def Unwhole.rule : Unwhole → FieldRule
  | form => .wholeText
  | length => .wholeSize

/-- The whole number that a double is; it has to be less than 2^63 in size. -/
def wholeOfDouble (x : Float) : Except FieldRule Int :=
  match Decimal.wholePart x with
  | .error _ => .error .finite
  | .ok n =>
    if (Number.int n).equals (.float x) then
      if n.natAbs < Nat.pow 2 63 then .ok n else .error .wholeSize
    else .error .fraction

def readWhole : Json → Except FieldRule Int
  | .int n => .ok n
  | .bool b => .ok (if b then 1 else 0)
  | .float x => wholeOfDouble x
  | .string s => (wholeOfText s).mapError Unwhole.rule
  | _ => .error .whole

def readSize (j : Json) : Except FieldRule Int := do
  let n ← readWhole j
  if n < 0 then .error .notNegative else .ok n

def createSection : Json → Except (List FieldFault) Section
  | .object fields =>
    let given (name : String) := Field.optional (.object fields) name readWhole 0
    let name := Field.optional (.object fields) "name" (Field.readPlain 0) ""
    let virtualSize := given "virtual_size"
    let virtualAddress := given "virtual_address"
    let rawSize := given "raw_data_size"
    let rawPointer := given "raw_data_pointer"
    let characteristics := given "characteristics"
    match name, virtualSize, virtualAddress, rawSize, rawPointer, characteristics with
    | .ok name, .ok virtualSize, .ok virtualAddress, .ok rawSize, .ok rawPointer,
        .ok characteristics =>
      .ok { name, virtualSize, virtualAddress, rawSize, rawPointer, characteristics }
    | _, _, _, _, _, _ =>
      .error (Field.fault? "name" name ++ Field.fault? "virtual_size" virtualSize ++
        Field.fault? "virtual_address" virtualAddress ++ Field.fault? "raw_data_size" rawSize ++
        Field.fault? "raw_data_pointer" rawPointer ++
        Field.fault? "characteristics" characteristics)
  | _ => .error [⟨"", .record⟩]

def readImported (j : Json) : Except (List FieldFault) String :=
  (Field.readPlain 0 j).mapError fun rule => [⟨"", rule⟩]

/-- Makes an image from the fields of an object; fields of other names are passed over. -/
def create (fields : Json) : Except (List FieldFault) Image :=
  let path := Field.required fields "path" (Field.readPlain 0)
  let bitness := Field.optional fields "bitness" readWhole 32
  let sections := Field.readList fields "sections" .row createSection
  let libraries := Field.readList fields "imported_libraries" .distinct readImported
  let functions := Field.readList fields "imported_functions" .distinct readImported
  let overlay := Field.optional fields "overlay_size" readSize 0
  let fileSize := Field.optional fields "file_size" readSize 0
  match path, bitness, sections, libraries, functions, overlay, fileSize with
  | .ok path, .ok bitness, .ok sections, .ok libraries, .ok functions, .ok overlay, .ok fileSize =>
    .ok { path, bitness, sections, overlay, fileSize
          libraries := Text.sortedSet libraries, functions := Text.sortedSet functions }
  | _, _, _, _, _, _, _ =>
    .error (Field.fault? "path" path ++ Field.fault? "bitness" bitness ++ Field.faults sections ++
      Field.faults libraries ++ Field.faults functions ++
      Field.fault? "overlay_size" overlay ++ Field.fault? "file_size" fileSize)

end PeSignals.Image

import PeSignals.Image.Content
import PeSignals.Image.Imports
import PeSignals.Json.Use

/-!
# Questions with given values

The questions about images, sections and bytes, asked with values whose kind is not known. A position or
a size has to be whole where it is used, and not before: a question that is answered without it does not
look at it. For whole numbers the answers are those of the questions themselves.
-/
namespace PeSignals.Image

open Bytes (Comparison Cursor Limit ReadError Search)
open Files (FileTree)
open Json (Misuse Used)

/-- Why a question with given values has no answer. -/
inductive AskFault
  | misuse (cause : Misuse)
  | read (cause : ReadError)
  deriving Repr, DecidableEq

namespace AskFault

def message : AskFault → String
  | misuse cause => cause.message
  | read cause => cause.message

def category : AskFault → String
  | misuse cause => cause.category
  | read cause => cause.category

end AskFault

/-- The answer to a question with given values. -/
abbrev Asked (α : Type) := Except AskFault α

/-- An answer that hangs on a value alone. -/
def used (answer : Used α) : Asked α := answer.mapError .misuse

/-- An answer that hangs on a read. -/
def reading (answer : Except ReadError α) : Asked α := answer.mapError .read

/-! ## Bytes -/

def cursorAt (data : ByteArray) (position : Json) : Asked (Cursor data) := do
  reading ((Cursor.start data).seek (← used position.countOf))

/-- A given size of a read; `null` asks for everything. -/
def limitOf (size : Json) : Asked Limit :=
  match size, size.number? with
  | .null, _ => .ok none
  | _, some (.int n) => reading (Limit.ofSize n)
  | size, _ => .error (.misuse (.noSize size.kindName))

/-- Whether a zero byte follows a cursor. -/
def hasTerminator {data : ByteArray} (c : Cursor data) : Bool :=
  (Bytes.values data c.pos c.remaining).contains 0

/-- The bytes before the first zero byte, and the position behind what was read. Without a limit there
is nothing to compare the length of a text with that has no end. -/
def terminatedAt (data : ByteArray) (position limit : Json) : Asked (List UInt8 × Nat) := do
  let c ← cursorAt data position
  let cap ← limitOf limit
  match limit, hasTerminator c with
  | .null, false => throw (.misuse (.incomparable "<" "int" "NoneType"))
  | _, _ =>
    let (bytes, c) ← reading (c.terminated cap)
    return (bytes, c.pos)

/-- Whether a needle occurs in data at or after a given position. Without a needle nothing is read, so
the size of a chunk is not looked at. -/
def needleIn (data needle : ByteArray) (comparison : Comparison) (size position : Json) :
    Asked Bool := do
  let c ← cursorAt data position
  if needle.size = 0 then return false
  let chunk ← limitOf size
  return ({ needle, comparison, chunk } : Search).found c

/-! ## Sections -/

def Section.holdsAddress (s : Section) (rva : Json) : Used Bool :=
  match rva.number? with
  | none => .error (.incomparable "<=" "int" rva.kindName)
  | some n =>
    let first : Number := .int s.virtualAddress
    .ok ((first.below n || first.equals n) && n.below (.int (s.virtualAddress + s.virtualSize)))

/-- The file offset of a given address, `null` when no section contains it. -/
def offsetOf : List Section → Json → Used Json
  | [], _ => .ok .null
  | s :: rest, rva => do
    if ← s.holdsAddress rva then
      (← rva.difference (.int s.virtualAddress)).sum (.int s.rawPointer)
    else offsetOf rest rva

/-- Bytes stored after the last raw data of a file of a given size. -/
def overlayOf (sections : List Section) (fileSize : Json) : Used Json :=
  match lastRawEnd? sections with
  | none => .ok (.int 0)
  | some last => do
    let left ← fileSize.difference (.int last)
    return if left.number?.any (Number.int 0).below then left else .int 0

/-! ## Headers -/

/-- The fields of a header as they are given. -/
structure GivenHeader where
  bitness : Json := .int 32
  numberOfSections : Json := .int 0
  sizeOfOptionalHeader : Json := .int 0
  optionalHeaderStart : Json := .int 0

/-- The header that an object gives; what it leaves out is zero, and 32-bit. -/
def GivenHeader.ofJson (j : Json) : GivenHeader where
  bitness := (j.get? "bitness").getD (.int 32)
  numberOfSections := (j.get? "number_of_sections").getD (.int 0)
  sizeOfOptionalHeader := (j.get? "size_of_optional_header").getD (.int 0)
  optionalHeaderStart := (j.get? "optional_header_start").getD (.int 0)

/-- A given bitness: 64 or not. -/
def bitnessOf (bitness : Json) : Int := if bitness.equals (.int 64) then 64 else 32

def sectionsOf (data : ByteArray) (h : GivenHeader) : Asked (List Section) := do
  let c ← cursorAt data (← used (h.optionalHeaderStart.sum h.sizeOfOptionalHeader))
  let count ← used h.numberOfSections.countOf
  reading (readSectionsFrom c count.toNat)

/-! ## Imports -/

/-- The descriptors of the table at a given offset. -/
def descriptorsOf (data : ByteArray) (offset : Json) : Used (Listing ImportDescriptor) := do
  let start ← offset.sum (.int 0)
  return importDescriptors data (← start.countOf)

/-- The function names of the lookup table at a given address. -/
def thunkNamesOf (data : ByteArray) (sections : List Section) (thunkRva bitness : Json) :
    Used (Listing String) := do
  match ← offsetOf sections thunkRva with
  | .null => return {}
  | offset =>
    let start ← offset.countOf
    return (thunkNamesFrom sections (bitnessOf bitness) (Cursor.start data) start #[]
      maximumThunks).1

/-- The header that places the import directory at the offset of a given header. -/
def directoryHeader (h : GivenHeader) : Used Header := do
  let bitness := bitnessOf h.bitness
  let entry : Int := ({ bitness } : Header).importDirectoryOffset
  let offset ← h.optionalHeaderStart.sum (.int entry)
  return { bitness, optionalHeaderStart := (← offset.countOf) - entry }

/-- The libraries and functions of an import directory, and the line that reports a walk which did not
complete. -/
structure ImportListing where
  libraries : List String := []
  functions : List String := []
  line? : Option String := none

/-- Collects the imported names of a given header, best effort. -/
def importsOf (data : ByteArray) (h : GivenHeader) (sections : List Section) : ImportListing :=
  match directoryHeader h with
  | .error misuse => { line? := some (walkStoppedLine 0 misuse.category misuse.message) }
  | .ok header =>
    let found := walkImports (Cursor.start data) header sections
    { libraries := found.libraries.toList, functions := found.functions.toList
      line? := found.diagnostic? }

/-! ## Images -/

/-- A section of an image by a given position; negative ones count from the end. -/
def sectionAt (image : Image) (index : Json) : Used Section :=
  match index.number? with
  | some (.int i) =>
    let fromStart := if i < 0 then i + image.sections.length else i
    if i ≥ Bytes.positionLimit ∨ i < -Bytes.positionLimit then .error .positionTooLarge
    else if fromStart < 0 then .error .outside
    else match image.sections[fromStart.toNat]? with
      | some s => .ok s
      | none => .error .outside
  | _ => .error (.noIndex index.kindName)

/-- Whether a given literal occurs in the file of an image. A value that is not set never does. -/
def holdsGiven (image : Image) (t : FileTree) (literal : Json) (comparison : Comparison) :
    Used (Traced Bool) :=
  match literal with
  | .string s => .ok (image.holds t s comparison)
  | literal =>
    if !literal.isSet then .ok ⟨false, []⟩
    else match t.read image.path with
      | .ok _ => .error (.noOperation literal.kindName "encode")
      | .error e => .ok ⟨false, [searchFailureLine image.path literal.literal e]⟩

end PeSignals.Image

import PeSignals.Image.SectionTable
import PeSignals.Text.Lowercase

/-!
# Import tables

The import directory names libraries, and each library has a lookup table of function entries.
Both tables are followed best effort: a failed read ends the walk and keeps every name found
before it. One cursor serves all reads, and each of them seeks first, so where the cursor stood
before never matters.
-/
namespace PeSignals.Image

open Bytes (Cursor ReadError littleEndian)

def importDescriptorSize : Nat := 20

/-- The greatest number of lookup entries read per library. -/
def maximumThunks : Nat := 50

/-- The greatest number of bytes read of a name. -/
def maximumNameLength : Nat := 256

/-- One import descriptor, without its timestamp and forwarder chain. -/
structure ImportDescriptor where
  originalFirstThunk : Nat
  nameRva : Nat
  firstThunk : Nat
  deriving Repr, DecidableEq

def decodeImportDescriptor (record : ByteArray) : ImportDescriptor where
  originalFirstThunk := littleEndian record 0 4
  nameRva := littleEndian record 12 4
  firstThunk := littleEndian record 16 4

/-- What a walk over one table collected, and the failure that ended it, if one did. -/
structure Listing (α : Type) where
  items : Array α := #[]
  stop : Option ReadError := none
  deriving Repr, DecidableEq

/-- The width in bytes of a lookup entry. -/
def thunkWidth (bitness : Int) : Nat :=
  if bitness = 64 then 8 else 4

/-- Whether the top bit of a lookup entry marks an import by ordinal. -/
def isOrdinal (bitness : Int) (value : Nat) : Bool :=
  value.testBit (8 * thunkWidth bitness - 1)

/-- The address of the hint and name behind a lookup entry: its low 31 bits. -/
def hintNameRva (value : Nat) : Nat :=
  value % 0x80000000

/-- Reads a name at an absolute offset. -/
def readName {data : ByteArray} (c : Cursor data) (offset : Int) :
    Except ReadError (String × Cursor data) := do
  let c ← c.seek offset
  let (bytes, c) ← c.terminated (some maximumNameLength)
  return (Text.Ascii.ofBytes bytes, c)

/-- The name behind a lookup entry, `none` when the entry yields nothing: an ordinal, an address
outside every section, or an empty name. -/
def readThunkName {data : ByteArray} (sections : List Section) (bitness : Int) (c : Cursor data)
    (value : Nat) : Except ReadError (Option String × Cursor data) :=
  if isOrdinal bitness value then .ok (none, c)
  else match fileOffset? sections (hintNameRva value) with
    | none => .ok (none, c)
    | some offset => do
      let (name, c) ← readName c (offset + 2)
      return (if name = "" then none else some name, c)

/-- Follows the lookup entries from `offset` on, at most `left` of them, until a zero entry. -/
def thunkNamesFrom {data : ByteArray} (sections : List Section) (bitness : Int) (c : Cursor data)
    (offset : Int) (found : Array String) : Nat → Listing String × Cursor data
  | 0 => ({ items := found }, c)
  | left + 1 =>
    match (c.seek offset).bind (·.number (thunkWidth bitness)) with
    | .error e => ({ items := found, stop := some e }, c)
    | .ok (0, c) => ({ items := found }, c)
    | .ok (value, c) =>
      match readThunkName sections bitness c value with
      | .error e => ({ items := found, stop := some e }, c)
      | .ok (name, c) =>
        thunkNamesFrom sections bitness c (offset + thunkWidth bitness)
          (match name with | none => found | some name => found.push name) left

/-- The function names of the lookup table at `thunkRva`; nothing when no section maps it. -/
def thunkNames {data : ByteArray} (sections : List Section) (bitness : Int) (c : Cursor data)
    (thunkRva : Int) : Listing String × Cursor data :=
  match fileOffset? sections thunkRva with
  | none => ({}, c)
  | some offset => thunkNamesFrom sections bitness c offset #[] maximumThunks

def readDescriptor {data : ByteArray} (c : Cursor data) (offset : Int) :
    Except ReadError (ImportDescriptor × Cursor data) := do
  let c ← c.seek offset
  let (record, c) ← c.take importDescriptorSize
  return (decodeImportDescriptor record, c)

theorem offset_add_le_of_readDescriptor {data : ByteArray} {c : Cursor data} {offset : Int}
    {r : ImportDescriptor × Cursor data} (h : readDescriptor c offset = .ok r) :
    0 ≤ offset ∧ offset.toNat + importDescriptorSize ≤ data.size := by
  unfold readDescriptor at h
  cases hs : c.seek offset with
  | error e => simp [hs, bind, Except.bind] at h
  | ok moved =>
    obtain ⟨hpos, hat⟩ := Cursor.seek_eq_ok hs
    cases ht : moved.take importDescriptorSize with
    | error e => simp [hs, ht, bind, Except.bind] at h
    | ok read =>
      have := (Cursor.take_eq_ok ht).1
      simp only [Cursor.remaining, importDescriptorSize] at *
      omega

/-- The descriptors from `offset` on, up to the one whose name address is zero. -/
def importDescriptorsFrom {data : ByteArray} (c : Cursor data) (offset : Int)
    (found : Array ImportDescriptor) : Listing ImportDescriptor :=
  match _h : readDescriptor c offset with
  | .error e => { items := found, stop := some e }
  | .ok (descriptor, c) =>
    if descriptor.nameRva = 0 then { items := found }
    else importDescriptorsFrom c (offset + importDescriptorSize) (found.push descriptor)
termination_by data.size - offset.toNat
decreasing_by
  have := offset_add_le_of_readDescriptor _h
  simp only [importDescriptorSize] at *
  omega

/-- The descriptors of the table at an absolute offset. Only the end of the data bounds them. -/
def importDescriptors (data : ByteArray) (offset : Int) : Listing ImportDescriptor :=
  importDescriptorsFrom (Cursor.start data) offset #[]

/-- How a walk over the import directory ended. -/
inductive WalkEnd
  /-- No directory, or a directory followed to its terminator. -/
  | complete
  /-- No section maps the directory. -/
  | unmapped (rva : Nat)
  /-- A read failed. -/
  | stopped (cause : ReadError)
  deriving Repr, DecidableEq

/-- The names of an import directory in order of discovery, with repetitions. -/
structure Imports where
  libraries : Array String := #[]
  functions : Array String := #[]
  ending : WalkEnd := .complete
  deriving Repr, DecidableEq

/-- The line that reports a walk that stopped, with the number of libraries found before. -/
def walkStoppedLine (libraries : Nat) (category message : String) : String :=
  s!"import walk stopped after {libraries} libraries: {category}: {message}"

namespace Imports

def diagnostic? (i : Imports) : Option String :=
  match i.ending with
  | .complete => none
  | .unmapped rva => some s!"import directory RVA 0x{Text.hexadecimal rva} maps to no section"
  | .stopped cause => some (walkStoppedLine i.libraries.size cause.category cause.message)

/-- Records the name of a library, unless it is empty. -/
def addLibrary (i : Imports) (name : String) : Imports :=
  if name = "" then i else { i with libraries := i.libraries.push name }

def addFunctions (i : Imports) (names : Array String) : Imports :=
  { i with functions := i.functions ++ names }

/-- Ends a walk at a failed read. -/
def stopAt (i : Imports) (cause : ReadError) : Imports :=
  { i with ending := .stopped cause }

end Imports

/-- Adds what one descriptor with a mapped name contributes: its library and then, when it has a
lookup table, the functions of that table. The error is the one that ends the walk. -/
def visitDescriptor {data : ByteArray} (sections : List Section) (bitness : Int) (c : Cursor data)
    (descriptor : ImportDescriptor) (nameOffset : Int) (found : Imports) :
    Imports × Option ReadError × Cursor data :=
  match readName c nameOffset with
  | .error e => (found, some e, c)
  | .ok (name, c) =>
    let found := found.addLibrary (Text.lower name)
    if descriptor.originalFirstThunk = 0 then (found, none, c)
    else
      let (names, c) := thunkNames sections bitness c descriptor.originalFirstThunk
      (found.addFunctions names.items, names.stop, c)

/-- Walks the descriptors from `offset` on. A descriptor whose name no section maps is skipped. -/
def walkDescriptors {data : ByteArray} (sections : List Section) (bitness : Int) (c : Cursor data)
    (offset : Int) (found : Imports) : Imports :=
  match _h : readDescriptor c offset with
  | .error e => found.stopAt e
  | .ok (descriptor, c) =>
    if descriptor.nameRva = 0 then found
    else match fileOffset? sections descriptor.nameRva with
      | none => walkDescriptors sections bitness c (offset + importDescriptorSize) found
      | some nameOffset =>
        match visitDescriptor sections bitness c descriptor nameOffset found with
        | (found, some e, _) => found.stopAt e
        | (found, none, c) =>
          walkDescriptors sections bitness c (offset + importDescriptorSize) found
termination_by data.size - offset.toNat
decreasing_by
  all_goals
    have := offset_add_le_of_readDescriptor _h
    simp only [importDescriptorSize] at *
    omega

def readImportDirectory {data : ByteArray} (c : Cursor data) (header : Header) :
    Except ReadError (Nat × Nat × Cursor data) := do
  let c ← c.seek header.importDirectoryOffset
  let (record, c) ← c.take 8
  return (littleEndian record 0 4, littleEndian record 4 4, c)

/-- Collects the imported names, best effort. -/
def walkImports {data : ByteArray} (c : Cursor data) (header : Header) (sections : List Section) :
    Imports :=
  match readImportDirectory c header with
  | .error e => Imports.stopAt {} e
  | .ok (rva, size, c) =>
    if rva = 0 ∨ size = 0 then {}
    else match fileOffset? sections rva with
      | none => { ending := .unmapped rva }
      | some offset => walkDescriptors sections header.bitness c offset {}

end PeSignals.Image

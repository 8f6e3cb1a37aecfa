import PeSignals.Image.Plan
import PeSignals.Text.Ascii

/-!
# Writing images

A plan as the bytes of an image. Sections follow each other in table order, at addresses in units of
4 KiB and file offsets in units of 512 bytes. Imports get a section of their own at the end: first the
descriptors and an empty one, then the lookup tables, then the names, each at an even offset.
-/
namespace PeSignals.Image

/-- The lowest `width` bytes of a number, least significant first. -/
def numberBytes : Nat → Nat → List UInt8
  | 0, _ => []
  | width + 1, n => UInt8.ofNat n :: numberBytes width (n / 256)

theorem length_numberBytes (width n : Nat) : (numberBytes width n).length = width := by
  induction width generalizing n with
  | zero => rfl
  | succ width ih => simp [numberBytes, ih]

def zeros (n : Nat) : List UInt8 := List.replicate n 0

/-- Bytes followed by zeros up to a size. -/
def padded (size : Nat) (bytes : List UInt8) : List UInt8 := bytes ++ zeros (size - bytes.length)

theorem length_padded (size : Nat) (bytes : List UInt8) :
    (padded size bytes).length = max size bytes.length := by
  simp only [padded, zeros, List.length_append, List.length_replicate]
  omega

/-- Bytes followed by a zero where their number is odd. -/
def evened (bytes : List UInt8) : List UInt8 := padded (align 2 bytes.length) bytes

def nameBytes (name : String) : List UInt8 := name.toList.map Text.Ascii.toByte

/-- A library name with its end. -/
def libraryRecord (name : String) : List UInt8 := evened (nameBytes name ++ [0])

/-- A function name with its hint and its end. -/
def functionRecord (name : String) : List UInt8 := evened ([0, 0] ++ nameBytes name ++ [0])

def functionRecords : List PlannedImport → List UInt8
  | [] => []
  | .named name :: rest => functionRecord name ++ functionRecords rest
  | .ordinal _ :: rest => functionRecords rest

/-- The entries of a lookup table whose names start at an address. -/
def thunkValues (flag : Nat) (address : Nat) : List PlannedImport → List Nat
  | [] => []
  | .named name :: rest =>
    address :: thunkValues flag (address + (functionRecord name).length) rest
  | .ordinal number :: rest => (flag + number) :: thunkValues flag address rest

namespace PlannedLibrary

/-- The names of a library and its functions. -/
def records (l : PlannedLibrary) : List UInt8 := libraryRecord l.name ++ functionRecords l.functions

/-- The bytes of the lookup table of a library, its end included. -/
def tableSize (width : Nat) (l : PlannedLibrary) : Nat := (l.functions.length + 1) * width

/-- The lookup table of a library whose names start at an address. -/
def table (width flag address : Nat) (l : PlannedLibrary) : List UInt8 :=
  (thunkValues flag (address + (libraryRecord l.name).length) l.functions ++ [0]).flatMap
    (numberBytes width)

/-- The descriptor of a library with the addresses of its lookup table and of its names. -/
def descriptor (tableAddress nameAddress : Nat) : List UInt8 :=
  [tableAddress, 0, 0, nameAddress, tableAddress].flatMap (numberBytes 4)

end PlannedLibrary

/-- The descriptors of libraries, from the addresses of their lookup tables and names on. -/
def descriptors (width : Nat) (tableAddress nameAddress : Nat) : List PlannedLibrary → List UInt8
  | [] => []
  | l :: rest =>
    PlannedLibrary.descriptor tableAddress nameAddress ++
      descriptors width (tableAddress + l.tableSize width) (nameAddress + l.records.length) rest

/-- The lookup tables of libraries whose names start at an address. -/
def lookupTables (width flag nameAddress : Nat) : List PlannedLibrary → List UInt8
  | [] => []
  | l :: rest =>
    l.table width flag nameAddress ++
      lookupTables width flag (nameAddress + l.records.length) rest

/-- A section with the place that it was given. -/
structure PlacedSection where
  planned : PlannedSection
  address : Nat
  offset : Nat
  deriving Repr, DecidableEq

namespace PlannedSection

def memorySize (s : PlannedSection) : Nat := max s.data.length 1

def fileSize (s : PlannedSection) : Nat := align fileUnit s.data.length

end PlannedSection

/-- Places sections one after the other, from an address and a file offset on. -/
def place (address offset : Nat) : List PlannedSection → List PlacedSection
  | [] => []
  | s :: rest =>
    ⟨s, address, offset⟩ :: place (align addressUnit (address + s.memorySize)) (offset + s.fileSize) rest

/-- The address after sections that start at an address. -/
def addressAfter (address : Nat) : List PlannedSection → Nat
  | [] => address
  | s :: rest => addressAfter (align addressUnit (address + s.memorySize)) rest

/-- The entry of a section in the section table. -/
def PlacedSection.record (s : PlacedSection) : List UInt8 :=
  padded 8 (nameBytes s.planned.name) ++
    [s.planned.memorySize, s.address, s.planned.fileSize, s.offset].flatMap (numberBytes 4) ++
    zeros 12 ++ numberBytes 4 s.planned.characteristics

/-- The data of a section in the file. -/
def PlannedSection.stored (s : PlannedSection) : List UInt8 := padded s.fileSize s.data

namespace Plan

def importAddress (p : Plan) : Nat := addressAfter addressUnit p.sections

/-- The bytes of the descriptors, the empty one included. -/
def descriptorsSize (p : Plan) : Nat := (p.libraries.length + 1) * 20

def tablesSize (p : Plan) : Nat := p.libraries.foldl (fun size l => size + l.tableSize p.thunkWidth) 0

def importData (p : Plan) : List UInt8 :=
  let tables := p.importAddress + p.descriptorsSize
  let names := tables + p.tablesSize
  descriptors p.thunkWidth tables names p.libraries ++ zeros 20 ++
    lookupTables p.thunkWidth p.ordinalFlag names p.libraries ++ p.libraries.flatMap (·.records)

/-- The sections of an image, with that of the imports at the end if there are any. -/
def allSections (p : Plan) : List PlannedSection :=
  p.sections ++ (if p.libraries.isEmpty then [] else [{ name := ".idata", data := p.importData }])

def peOffset : Nat := 0x80

def tableOffset (p : Plan) : Nat := peOffset + 24 + p.optionalHeaderSize

/-- The bytes before the data of the first section. -/
def headersSize (p : Plan) : Nat := align fileUnit (p.tableOffset + 40 * p.allSections.length)

def placed (p : Plan) : List PlacedSection := place addressUnit p.headersSize p.allSections

/-- The address and size of the imports, zero without any. -/
def importEntry (p : Plan) : List Nat :=
  if p.libraries.isEmpty then [0, 0] else [p.importAddress, p.descriptorsSize]

def stub : List UInt8 := padded peOffset (padded 0x3C [0x4D, 0x5A] ++ numberBytes 4 peOffset)

def coffHeader (p : Plan) : List UInt8 :=
  [0x50, 0x45, 0, 0] ++ numberBytes 2 p.machine ++ numberBytes 2 p.allSections.length ++ zeros 12 ++
    numberBytes 2 p.optionalHeaderSize ++ numberBytes 2 0x102

def optionalHeader (p : Plan) : List UInt8 :=
  padded p.optionalHeaderSize
    (padded p.importEntryOffset (numberBytes 2 p.magic) ++ p.importEntry.flatMap (numberBytes 4))

/-- The headers up to the data of the first section. -/
def headers (p : Plan) : List UInt8 :=
  padded p.headersSize
    (stub ++ p.coffHeader ++ p.optionalHeader ++ p.placed.flatMap PlacedSection.record)

def bytes (p : Plan) : List UInt8 :=
  p.headers ++ p.allSections.flatMap PlannedSection.stored ++ p.overlay

/-- Lays the image out. -/
def write (p : Plan) : ByteArray := ⟨p.bytes.toArray⟩

end Plan

end PeSignals.Image

import PeSignals.Bytes.Cursor

/-!
# Image headers

The gates from the first byte of a file to its section table: the stub signature, the offset of
the PE header, the PE signature and the COFF header. A file that fails a gate is refused with a
reason; nothing is read past a failed gate.
-/
namespace PeSignals.Image

open Bytes (Cursor ReadError)

/-- The header fields that locate the section table and the import directory. -/
structure Header where
  bitness : Int := 32
  peHeaderOffset : Int := 0
  numberOfSections : Int := 0
  sizeOfOptionalHeader : Int := 0
  optionalHeaderStart : Int := 0
  fileSize : Int := 0
  deriving Repr, DecidableEq

namespace Header

/-- The file offset of the first section header. -/
def sectionTableOffset (h : Header) : Int :=
  h.optionalHeaderStart + h.sizeOfOptionalHeader

/-- The file offset of the import entry of the data directories. -/
def importDirectoryOffset (h : Header) : Int :=
  h.optionalHeaderStart + (if h.bitness = 64 then 120 else 104)

end Header

/-- Why a file is not an image. -/
inductive HeaderFault
  | tooSmall (size : Nat)
  | noStubSignature
  | headerPastEnd (offset : Nat)
  | noPeSignature (offset : Nat)
  | truncatedCoffHeader (cause : ReadError)
  /-- A failed read that no gate answers. -/
  | unguarded (cause : ReadError)
  deriving Repr, DecidableEq

namespace HeaderFault

def message : HeaderFault → String
  | tooSmall size => s!"file too small ({size} bytes)"
  | noStubSignature => "missing MZ signature"
  | headerPastEnd offset => s!"PE header offset 0x{Text.hexadecimal offset} is past end of file"
  | noPeSignature offset => s!"missing PE signature at 0x{Text.hexadecimal offset}"
  | truncatedCoffHeader cause => s!"truncated COFF header: {cause.message}"
  | unguarded cause => cause.message

end HeaderFault

/-- The smallest file that can hold a stub header. -/
def minimumSize : Nat := 64

/-- The offset of the field that holds the offset of the PE header. -/
def peOffsetField : Nat := 0x3C

/-- The optional-header magic of 64-bit images; every other value reads as 32-bit. -/
def magic64 : Nat := 0x20B

/-- The COFF header and the optional-header magic behind the PE signature at `peOffset`. -/
def readCoffHeader (data : ByteArray) (peOffset : Nat) : Except ReadError Header := do
  let c : Cursor data := ⟨peOffset + 4⟩
  let (_, c) ← c.number 2
  let (numberOfSections, c) ← c.number 2
  let (sizeOfOptionalHeader, c) ← (⟨c.pos + 12⟩ : Cursor data).number 2
  let optionalHeaderStart := c.pos + 2
  let (magic, _) ← (⟨optionalHeaderStart⟩ : Cursor data).number 2
  return {
    bitness := if magic = magic64 then 64 else 32
    peHeaderOffset := peOffset
    numberOfSections := numberOfSections
    sizeOfOptionalHeader := sizeOfOptionalHeader
    optionalHeaderStart := optionalHeaderStart
    fileSize := data.size }

/-- Passes the gates in file order and decodes the header behind the last of them. -/
def readHeader (data : ByteArray) : Except HeaderFault Header :=
  if data.size < minimumSize then .error (.tooSmall data.size)
  else if Bytes.values data 0 2 ≠ [0x4D, 0x5A] then .error .noStubSignature
  else match (⟨peOffsetField⟩ : Cursor data).number 4 with
    | .error cause => .error (.unguarded cause)
    | .ok (peOffset, _) =>
      if peOffset ≥ data.size - 4 then .error (.headerPastEnd peOffset)
      else if Bytes.values data peOffset 4 ≠ [0x50, 0x45, 0, 0] then .error (.noPeSignature peOffset)
      else (readCoffHeader data peOffset).mapError .truncatedCoffHeader

end PeSignals.Image

import PeSignals.Image.Header
import PeSignals.Image.Section
import PeSignals.Text.Ascii

/-!
# Section tables

The section table is read entry by entry from the offset that the header gives. Fields are taken
as they stand; readers that follow them guard their own reads.
-/
namespace PeSignals.Image

open Bytes (Cursor ReadError littleEndian)

def sectionHeaderSize : Nat := 40

/-- Drops the zero bytes at the end, keeping those before another byte. -/
def dropTrailingZeros (bytes : List UInt8) : List UInt8 :=
  (bytes.reverse.dropWhile (· = 0)).reverse

def decodeSection (record : ByteArray) : Section where
  name := Text.Ascii.ofBytes (dropTrailingZeros (Bytes.values record 0 8))
  virtualSize := littleEndian record 8 4
  virtualAddress := littleEndian record 12 4
  rawSize := littleEndian record 16 4
  rawPointer := littleEndian record 20 4
  characteristics := littleEndian record 36 4

/-- Reads the next `n` section headers. -/
def readSectionsFrom {data : ByteArray} (c : Cursor data) : Nat → Except ReadError (List Section)
  | 0 => .ok []
  | n + 1 => do
    let (record, c) ← c.take sectionHeaderSize
    return decodeSection record :: (← readSectionsFrom c n)

def readSections (data : ByteArray) (header : Header) : Except ReadError (List Section) := do
  let c ← (Cursor.start data).seek header.sectionTableOffset
  readSectionsFrom c header.numberOfSections.toNat

end PeSignals.Image

/-!
# Byte strings

Little-endian numbers and windows of an immutable byte string, addressed by absolute offset.
Offsets past the end read as zero, so every function here is total; callers that must not read
past the end ask for the window first (`PeSignals.Bytes.Cursor.take`).
-/
namespace PeSignals.Bytes

/-- The value of the byte at offset `i`, and 0 past the end. -/
def byteAt (data : ByteArray) (i : Nat) : Nat :=
  if h : i < data.size then data[i].toNat else 0

/-- The number written in the `width` bytes from offset `i` on, least significant byte first. -/
def littleEndian (data : ByteArray) (i : Nat) : Nat → Nat
  | 0 => 0
  | width + 1 => byteAt data i + 256 * littleEndian data (i + 1) width

/-- The bytes at offsets `start ≤ i < stop`, clipped to the end of the data. -/
def window (data : ByteArray) (start stop : Nat) : ByteArray :=
  data.extract start stop

/-- The byte values at the `n` offsets from `start` on, clipped to the end of the data. -/
def values (data : ByteArray) (start n : Nat) : List UInt8 :=
  (data.extract start (start + n)).data.toList

end PeSignals.Bytes

import PeSignals.Bytes.Basic

/-!
# Byte histograms

How often each of the 256 byte values occurs.
-/
namespace PeSignals.Bytes

/-- Counts the `left` bytes from offset `i` on. -/
def countFrom (data : ByteArray) (i : Nat) (counts : Array Nat) : Nat → Array Nat
  | 0 => counts
  | left + 1 => countFrom data (i + 1) (counts.modify (byteAt data i) (· + 1)) left

/-- The count of each byte value, in the order of the values. -/
def histogram (data : ByteArray) : Array Nat :=
  countFrom data 0 (Array.replicate 256 0) data.size

end PeSignals.Bytes

import Mathlib
import PeSignals.Proofs.Bytes.Suffix

/-!
# Where bytes stand

A byte string holds a list of bytes at an offset if the list is the beginning of what follows there. A
joined list is held at an offset exactly if its parts are held one behind the other, so a file that was
written from parts is read part by part.
-/
namespace PeSignals.Bytes

variable {data : ByteArray} {i : Nat}

/-- The bytes from an offset on begin with a list. -/
def Holds (data : ByteArray) (i : Nat) (bytes : List UInt8) : Prop := bytes <+: suffix data i

theorem holds_toArray (bytes : List UInt8) : Holds ⟨bytes.toArray⟩ 0 bytes := List.prefix_rfl

/-- What stands at an offset is read part by part. -/
theorem holds_append {first second : List UInt8} :
    Holds data i (first ++ second) ↔ Holds data i first ∧ Holds data (i + first.length) second := by
  unfold Holds
  rw [← drop_suffix]
  constructor
  · rintro ⟨rest, h⟩
    rw [← h, List.append_assoc, List.drop_left]
    exact ⟨List.prefix_append _ _, List.prefix_append _ _⟩
  · rintro ⟨⟨rest, h⟩, hsecond⟩
    rw [← h, List.drop_left] at hsecond
    rw [← h]
    exact (List.prefix_append_right_inj first).mpr hsecond

theorem Holds.left {first second : List UInt8} (h : Holds data i (first ++ second)) :
    Holds data i first := (holds_append.mp h).1

theorem Holds.right {first second : List UInt8} (h : Holds data i (first ++ second)) :
    Holds data (i + first.length) second := (holds_append.mp h).2

theorem Holds.take {bytes : List UInt8} (h : Holds data i bytes) :
    (suffix data i).take bytes.length = bytes := (List.prefix_iff_eq_take.mp h).symm

theorem Holds.le_size {bytes : List UInt8} (h : Holds data i bytes) (hne : bytes ≠ []) :
    i + bytes.length ≤ data.size := by
  have hle := h.length_le
  have hpos := List.length_pos_iff.mpr hne
  rw [length_suffix] at hle
  omega

/-- Held bytes are what a read of their number obtains. -/
theorem Holds.values {bytes : List UInt8} (h : Holds data i bytes) :
    values data i bytes.length = bytes := by
  rw [values_eq, h.take]

theorem Holds.littleEndian {bytes : List UInt8} (h : Holds data i bytes) :
    littleEndian data i bytes.length = numberOf bytes := by
  rw [littleEndian_eq, h.take]

end PeSignals.Bytes

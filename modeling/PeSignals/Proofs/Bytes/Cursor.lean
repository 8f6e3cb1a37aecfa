import Mathlib
import PeSignals.Bytes.Cursor
import PeSignals.Proofs.Bytes.Suffix

/-!
# What one read obtains

Each read as an equation in the position and the bytes behind it, for the reads that fit and for those
that run past the end. A seek looks at the requested offset alone.
-/
namespace PeSignals.Bytes.Cursor

variable {data : ByteArray} {α : Type}

/-- A read whose answer is known succeeded, wherever it left the cursor. -/
theorem eq_ok_of_map_fst {read : Except ReadError (α × Cursor data)} {a : α}
    (h : read.map Prod.fst = .ok a) : ∃ moved, read = .ok (a, moved) := by
  cases read with
  | error e => cases h
  | ok result => exact ⟨result.2, by rw [← Except.ok.inj h]⟩

theorem eq_error_of_map_fst {read : Except ReadError (α × Cursor data)} {e : ReadError}
    (h : read.map Prod.fst = .error e) : read = .error e := by
  cases read with
  | error cause => exact congrArg Except.error (Except.error.inj h)
  | ok result => cases h

theorem seek_of_lt {offset : Int} (c : Cursor data) (hlow : 0 ≤ offset)
    (hhigh : offset < positionLimit) : c.seek offset = .ok ⟨offset.toNat⟩ := by
  rw [seek, if_neg (by simp only [positionLimit] at hhigh ⊢; omega), if_neg (by omega)]

theorem take_of_le {p n : Nat} (h : p + n ≤ data.size) :
    (⟨p⟩ : Cursor data).take n = .ok (window data p (p + n), ⟨p + n⟩) := by
  rw [take, if_pos (by simp only [remaining]; omega)]

/-- A read past the end fails with the number of bytes that were there. -/
theorem take_of_lt {p n : Nat} (hn : 0 < n) (h : data.size < p + n) :
    (⟨p⟩ : Cursor data).take n = .error (.truncated n p (data.size - p)) := by
  rw [take, if_neg (by simp only [remaining]; omega), remaining]

theorem number_of_le {p width : Nat} (h : p + width ≤ data.size) :
    (⟨p⟩ : Cursor data).number width = .ok (littleEndian data p width, ⟨p + width⟩) := by
  rw [number, take_of_le h]
  exact congrArg (fun n => Except.ok (n, _)) (littleEndian_window data p (by omega))

theorem number_of_lt {p width : Nat} (hw : 0 < width) (h : data.size < p + width) :
    (⟨p⟩ : Cursor data).number width = .error (.truncated width p (data.size - p)) := by
  rw [number, take_of_lt hw h]
  rfl

end PeSignals.Bytes.Cursor

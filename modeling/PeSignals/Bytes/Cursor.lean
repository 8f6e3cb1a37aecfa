import PeSignals.Bytes.Basic
import PeSignals.Text.Hexadecimal

/-!
# Cursors

A cursor is a position in a byte string that moves by seeking and reading. The data is a parameter
of the type, so no read can change it, and every failure is a value that says which read failed and
where.
-/
namespace PeSignals.Bytes

/-- Why a positioned read failed. -/
inductive ReadError
  /-- A structure of `needed` bytes starts at `offset`, where only `got` bytes are left. -/
  | truncated (needed offset got : Nat)
  /-- The string that starts at `offset` reaches the end of the data before its terminator. -/
  | unterminated (offset : Nat)
  /-- A position before the start of the data. -/
  | negativeOffset (offset : Int)
  /-- A position that does not fit into a signed 64-bit number. -/
  | offsetTooLarge
  /-- A size that does not fit into a signed 64-bit number. -/
  | sizeTooLarge
  deriving Repr, DecidableEq

namespace ReadError

open Text (hexadecimal)

def message : ReadError → String
  | truncated needed offset got =>
    s!"needed {needed} bytes at offset 0x{hexadecimal offset}, got {got}"
  | unterminated offset => s!"unterminated string at offset 0x{hexadecimal offset}"
  | negativeOffset offset => s!"negative seek value {offset}"
  | offsetTooLarge => "Python int too large to convert to C ssize_t"
  | sizeTooLarge => "cannot fit 'int' into an index-sized integer"

/-- The class under which diagnostics file a failed read. -/
def category : ReadError → String
  | truncated .. | unterminated .. => "TruncatedImageError"
  | negativeOffset .. => "ValueError"
  | offsetTooLarge | sizeTooLarge => "OverflowError"

end ReadError

/-- A position in `data`; it may lie past the end, where every read comes back short. -/
structure Cursor (data : ByteArray) where
  pos : Nat
  deriving Repr, DecidableEq

/-- The first offset that a position cannot express. -/
def positionLimit : Int := 0x8000000000000000

/-- A size limit on a read; `none` reads to the end. -/
abbrev Limit := Option Nat

/-- A requested size as a limit: a negative one asks for everything. -/
def Limit.ofInt (size : Int) : Limit :=
  if size < 0 then none else some size.toNat

/-- A requested size as a limit, if it fits. -/
def Limit.ofSize (size : Int) : Except ReadError Limit :=
  if size ≥ positionLimit ∨ size < -positionLimit then .error .sizeTooLarge
  else .ok (Limit.ofInt size)

namespace Cursor

variable {data : ByteArray}

def start (data : ByteArray) : Cursor data := ⟨0⟩

def seek (_ : Cursor data) (offset : Int) : Except ReadError (Cursor data) :=
  if offset ≥ positionLimit ∨ offset < -positionLimit then .error .offsetTooLarge
  else if offset < 0 then .error (.negativeOffset offset)
  else .ok ⟨offset.toNat⟩

theorem seek_eq_ok {c moved : Cursor data} {offset : Int} (h : c.seek offset = .ok moved) :
    0 ≤ offset ∧ moved.pos = offset.toNat := by
  unfold seek at h
  split at h
  · simp at h
  · split at h
    · simp at h
    · simp only [Except.ok.injEq] at h
      subst h
      exact ⟨by omega, rfl⟩

def remaining (c : Cursor data) : Nat := data.size - c.pos

/-- Reads exactly `n` bytes. -/
def take (c : Cursor data) (n : Nat) : Except ReadError (ByteArray × Cursor data) :=
  if n ≤ c.remaining then .ok (window data c.pos (c.pos + n), ⟨c.pos + n⟩)
  else .error (.truncated n c.pos c.remaining)

theorem take_eq_ok {c moved : Cursor data} {n : Nat} {bytes : ByteArray}
    (h : c.take n = .ok (bytes, moved)) :
    n ≤ c.remaining ∧ bytes = window data c.pos (c.pos + n) ∧ moved.pos = c.pos + n := by
  unfold take at h
  split at h
  · rename_i hn
    simp only [Except.ok.injEq, Prod.mk.injEq] at h
    exact ⟨hn, h.1.symm, by rw [← h.2]⟩
  · simp at h

/-- Reads a little-endian number of `width` bytes. -/
def number (c : Cursor data) (width : Nat) : Except ReadError (Nat × Cursor data) :=
  (c.take width).map fun (bytes, c) => (littleEndian bytes 0 width, c)

/-- Bytes that a limited read obtains. -/
def available (c : Cursor data) : Limit → Nat
  | none => c.remaining
  | some cap => min cap c.remaining

/-- Reads the bytes before the first zero byte. At most `cap` bytes are consumed, and a string that
fills the cap needs no terminator; one that meets the end of the data does. -/
def terminated (c : Cursor data) (cap : Limit) : Except ReadError (List UInt8 × Cursor data) :=
  let got := c.available cap
  let raw := values data c.pos got
  let text := raw.takeWhile (· ≠ 0)
  if text.length < raw.length then .ok (text, ⟨c.pos + got⟩)
  else if cap.any (got < ·) then .error (.unterminated c.pos)
  else .ok (raw, ⟨c.pos + got⟩)

end Cursor

end PeSignals.Bytes

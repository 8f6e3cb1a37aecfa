import PeSignals.Bytes.Cursor
import PeSignals.Text.Ascii

/-!
# Searching a stream

A stream is searched for a byte string chunk by chunk. Each window that is searched is the carry of
the window before followed by one chunk, and the carry is one byte shorter than the needle: long
enough that no occurrence across a border is missed, too short to hold one on its own.
-/
namespace PeSignals.Bytes

/-- Whether the `left` bytes of `needle` from `j` on stand in `data` from `i` on. -/
def standsAt (data needle : ByteArray) (i j : Nat) : Nat → Bool
  | 0 => true
  | left + 1 => byteAt data i == byteAt needle j && standsAt data needle (i + 1) (j + 1) left

/-- Whether `needle` stands at one of the `left` offsets from `i` on. -/
def occursFrom (data needle : ByteArray) (i : Nat) : Nat → Bool
  | 0 => false
  | left + 1 => standsAt data needle i 0 needle.size || occursFrom data needle (i + 1) left

/-- Adds a byte to a digest. -/
def mix (digest : UInt64) (byte : Nat) : UInt64 :=
  digest * 0x9E3779B97F4A7C15 + UInt64.ofNat byte

/-- Adds the `left` bytes from offset `i` on to a digest. -/
def digestFrom (data : ByteArray) (i : Nat) (digest : UInt64) : Nat → UInt64
  | 0 => digest
  | left + 1 => digestFrom data (i + 1) (mix digest (byteAt data i)) left

/-- What `n` further bytes multiply a digest by. -/
def digestScale : Nat → UInt64
  | 0 => 1
  | n + 1 => 0x9E3779B97F4A7C15 * digestScale n

/-- Whether `needle` stands at one of the `left` offsets from `i` on. The digests `before` and `through`
are those of the bytes before the offset and of the bytes up to the end of the needle there; from them
follows the digest of the bytes between, and only where that is the needle's are the bytes compared. -/
def digestedFrom (data needle : ByteArray) (scale target : UInt64) (i : Nat)
    (before through : UInt64) : Nat → Bool
  | 0 => false
  | left + 1 =>
    (through - before * scale == target && standsAt data needle i 0 needle.size) ||
      digestedFrom data needle scale target (i + 1) (mix before (byteAt data i))
        (mix through (byteAt data (i + needle.size))) left

theorem mix_eq (digest : UInt64) (byte : Nat) :
    mix digest byte = digest * 0x9E3779B97F4A7C15 + UInt64.ofNat byte := rfl

theorem digestFrom_succ (data : ByteArray) (i n : Nat) (digest : UInt64) :
    digestFrom data i digest (n + 1) = mix (digestFrom data i digest n) (byteAt data (i + n)) := by
  induction n generalizing i digest with
  | zero => simp [digestFrom]
  | succ n ih => rw [digestFrom, ih, digestFrom, Nat.succ_add_eq_add_succ]

/-- A digest goes on where it stopped. -/
theorem digestFrom_add (data : ByteArray) (i m n : Nat) (digest : UInt64) :
    digestFrom data i digest (m + n) = digestFrom data (i + m) (digestFrom data i digest m) n := by
  induction m generalizing i digest with
  | zero => simp [digestFrom]
  | succ m ih =>
    rw [Nat.succ_add, digestFrom, ih, digestFrom, Nat.succ_add_eq_add_succ]

/-- A digest of bytes that stand behind others is that of the bytes alone, after scaling. -/
theorem digestFrom_scale (data needle : ByteArray) (i j n : Nat) (digest other : UInt64)
    (h : standsAt data needle i j n = true) :
    digestFrom data i digest n - digest * digestScale n =
      digestFrom needle j other n - other * digestScale n := by
  induction n generalizing i j digest other with
  | zero => simp [digestFrom, digestScale]
  | succ n ih =>
    simp only [standsAt, Bool.and_eq_true, beq_iff_eq] at h
    have step := ih (i + 1) (j + 1) (mix digest (byteAt data i)) (mix other (byteAt needle j)) h.2
    rw [digestFrom, digestFrom, digestScale]
    rw [mix_eq, mix_eq] at step ⊢
    rw [h.1] at step ⊢
    grind

/-- Comparing only where the digests agree passes no occurrence by. -/
theorem digestedFrom_eq (data needle : ByteArray) (i left : Nat) :
    digestedFrom data needle (digestScale needle.size) (digestFrom needle 0 0 needle.size) i
      (digestFrom data 0 0 i) (digestFrom data 0 0 (i + needle.size)) left =
      occursFrom data needle i left := by
  induction left generalizing i with
  | zero => rfl
  | succ left ih =>
    rw [digestedFrom, occursFrom]
    have before := digestFrom_succ data 0 i 0
    have through := digestFrom_succ data 0 (i + needle.size) 0
    rw [Nat.zero_add] at before through
    rw [← before, ← through, Nat.add_right_comm i needle.size 1, ih]
    cases h : standsAt data needle i 0 needle.size with
    | false => simp
    | true =>
      have split := digestFrom_add data 0 i needle.size 0
      have scaled := digestFrom_scale data needle i 0 needle.size (digestFrom data 0 0 i) 0 h
      rw [Nat.zero_add] at split
      simp [split, scaled]

/-- The length from which on a needle is compared by its digest first. -/
def digestedSize : Nat := 32

/-- Whether `needle` stands somewhere in `data`. A long needle is compared by its digest first, unless
there are too few offsets for that to be worth while. -/
def occurs (data needle : ByteArray) : Bool :=
  let offsets := data.size + 1 - needle.size
  if digestedSize ≤ needle.size ∧ digestedSize ≤ offsets then
    digestedFrom data needle (digestScale needle.size) (digestFrom needle 0 0 needle.size) 0 0
      (digestFrom data 0 0 needle.size) offsets
  else occursFrom data needle 0 offsets

theorem occurs_eq_occursFrom (data needle : ByteArray) :
    occurs data needle = occursFrom data needle 0 (data.size + 1 - needle.size) := by
  have h := digestedFrom_eq data needle 0 (data.size + 1 - needle.size)
  rw [Nat.zero_add] at h
  simp only [occurs]
  split
  · exact h
  · rfl

/-- How bytes are compared: as they stand, or with ASCII letters folded. -/
inductive Comparison
  | exact
  | ignoreCase
  deriving Repr, DecidableEq

/-- The bytes that a comparison looks at. -/
def Comparison.view : Comparison → ByteArray → ByteArray
  | exact, bytes => bytes
  | ignoreCase, bytes => Text.Ascii.fold bytes

/-- The last `n` bytes, or all of them when there are fewer. -/
def lastBytes (bytes : ByteArray) (n : Nat) : ByteArray :=
  bytes.extract (bytes.size - n) bytes.size

/-- The bytes searched at one time, and the offset at which they start. -/
structure Window where
  start : Nat
  bytes : ByteArray

/-- A search: what is looked for, how, and how much one read asks for. -/
structure Search where
  needle : ByteArray
  comparison : Comparison := .ignoreCase
  chunk : Limit := some 65536

namespace Search

/-- The needle as it is compared. -/
def target (s : Search) : ByteArray := s.comparison.view s.needle

/-- The number of bytes carried from one window to the next. -/
def carrySize (s : Search) : Nat := s.needle.size - 1

/-- The window behind a carry: the carry and the `got` bytes from the cursor on. -/
def windowAt (s : Search) {data : ByteArray} (c : Cursor data) (carry : ByteArray) (got : Nat) :
    Window where
  start := c.pos - carry.size
  bytes := carry ++ s.comparison.view (window data c.pos (c.pos + got))

/-- The windows from a cursor on, up to the end of the data or the first empty read. -/
def windowsFrom (s : Search) {data : ByteArray} (c : Cursor data) (carry : ByteArray) :
    List Window :=
  let got := c.available s.chunk
  if 0 < got ∧ c.pos < data.size then
    let w := s.windowAt c carry got
    w :: windowsFrom s (⟨c.pos + got⟩ : Cursor data) (lastBytes w.bytes s.carrySize)
  else []
termination_by data.size - c.pos

/-- Searches window after window and stops at the first that holds the needle. -/
def foundFrom (s : Search) {data : ByteArray} (c : Cursor data) (carry : ByteArray) : Bool :=
  let got := c.available s.chunk
  if 0 < got ∧ c.pos < data.size then
    let w := s.windowAt c carry got
    occurs w.bytes s.target ||
      foundFrom s (⟨c.pos + got⟩ : Cursor data) (lastBytes w.bytes s.carrySize)
  else false
termination_by data.size - c.pos

/-- Whether the needle occurs at or after the cursor. An empty needle never does. -/
def found (s : Search) {data : ByteArray} (c : Cursor data) : Bool :=
  s.needle.size != 0 && s.foundFrom c ByteArray.empty

end Search

end PeSignals.Bytes

import Mathlib
import PeSignals.Proofs.Bytes.Search

/-!
# What a search holds at one time

Each round of a search reads one chunk and looks at one window. The carry is the end of what was read
before, as much as a match across the border can need of it, so a window is a part of the stream that ends
where the chunk ends, and it is never longer than a chunk and a carry, however long the stream is.
-/
namespace PeSignals.Bytes

/-- One round of a search: the cursor before and behind its chunk, and the window it looks at. -/
structure Round (data : ByteArray) where
  before : Cursor data
  behind : Cursor data
  window : Window

namespace Search

variable (s : Search) {data : ByteArray}

/-- The rounds of a search from a cursor and a carry on. The round that finds the needle is the last. -/
def roundsFrom (c : Cursor data) (carry : ByteArray) : List (Round data) :=
  let got := c.available s.chunk
  if 0 < got ∧ c.pos < data.size then
    let r : Round data := ⟨c, ⟨c.pos + got⟩, s.windowAt c carry got⟩
    if occurs r.window.bytes s.target then [r]
    else r :: roundsFrom r.behind (lastBytes r.window.bytes s.carrySize)
  else []
termination_by data.size - c.pos

/-- The rounds of a search. It begins without a carry, and without a needle it does not begin. -/
def rounds (c : Cursor data) : List (Round data) :=
  if s.needle.size = 0 then [] else s.roundsFrom c ByteArray.empty

/-- The search stops at the first hit, which is no other answer than that of all its rounds together. -/
theorem foundFrom_eq_any_rounds (c : Cursor data) (carry : ByteArray) :
    s.foundFrom c carry = (s.roundsFrom c carry).any fun r => occurs r.window.bytes s.target := by
  fun_induction roundsFrom s c carry with
  | case1 c carry got hmore r hfound =>
    rw [foundFrom, if_pos hmore]
    simp [got, r, hfound]
  | case2 c carry got hmore r hmissed ih =>
    rw [foundFrom, if_pos hmore, List.any_cons, ← ih]
  | case3 c carry got hend => rw [foundFrom, if_neg hend, List.any_nil]

theorem found_eq_any_rounds (c : Cursor data) :
    s.found c = (s.rounds c).any fun r => occurs r.window.bytes s.target := by
  rw [found, rounds, foundFrom_eq_any_rounds]
  by_cases hneedle : s.needle.size = 0 <;> simp [hneedle]

/-! ## One round -/

/-- Whether bytes are those of the stream from an offset on, as they are compared. -/
def Shows (data : ByteArray) (start : Nat) (bytes : ByteArray) : Prop :=
  suffix bytes 0 = ((suffix data start).take bytes.size).map s.comparison.byte

/-- Whether a carry is what a search that began at offset `first` keeps: the end of what it has read, as
far as that goes and as the needle can need it. -/
structure IsCarry (first : Nat) (c : Cursor data) (carry : ByteArray) : Prop where
  first_le : first ≤ c.pos
  size_eq : carry.size = min (s.needle.size - 1) (c.pos - first)
  shows : s.Shows data (c.pos - carry.size) carry

theorem isCarry_empty (c : Cursor data) : s.IsCarry c.pos c ByteArray.empty where
  first_le := le_refl _
  size_eq := by simp
  shows := by
    rw [Shows, ByteArray.size_empty, List.take_zero]
    rfl

/-- Whether a round of a search that began at offset `first`, with chunks of at most `cap` bytes, keeps to
its bounds. -/
structure IsBounded (cap first : Nat) (r : Round data) : Prop where
  within : first ≤ r.window.start ∧ r.behind.pos ≤ data.size
  advances : r.before.pos < r.behind.pos ∧ r.behind.pos ≤ r.before.pos + cap
  /-- The window is a part of the stream that ends at the current position. -/
  ends : r.window.start + r.window.bytes.size = r.behind.pos
  shows : s.Shows data r.window.start r.window.bytes
  size_le : r.window.bytes.size ≤ cap + s.needle.size - 1
  /-- Of the window before it repeats one byte less than the needle has, or all that was read. -/
  overlap : r.window.start + min (s.needle.size - 1) (r.before.pos - first) = r.before.pos

variable {s} {first : Nat} {c : Cursor data} {carry : ByteArray}

theorem size_windowAt {got : Nat} (hgot : c.pos + got ≤ data.size) :
    (s.windowAt c carry got).bytes.size = carry.size + got := by
  have hlength := congrArg List.length (s.suffix_windowAt c carry got)
  simp only [List.length_append, List.length_map, List.length_take, length_suffix] at hlength
  omega

/-- What is kept of a window shows the end of the stretch that the window shows. -/
theorem Shows.lastBytes {start : Nat} {bytes : ByteArray} (h : s.Shows data start bytes) (n : Nat) :
    s.Shows data (start + (bytes.size - n)) (lastBytes bytes n) := by
  have hkept : bytes.size - (bytes.size - n) = min n bytes.size := by omega
  rw [Shows, suffix_lastBytes, h, ← List.map_drop, List.drop_take, drop_suffix, size_lastBytes, hkept]

/-- A carry and the bytes read behind it show one unbroken stretch of the data. -/
theorem IsCarry.shows_windowAt (h : s.IsCarry first c carry) {got : Nat}
    (hgot : c.pos + got ≤ data.size) :
    s.Shows data (s.windowAt c carry got).start (s.windowAt c carry got).bytes := by
  have hfirst := h.first_le
  have hsize := h.size_eq
  have hback : c.pos - carry.size + carry.size = c.pos := by omega
  rw [Shows, size_windowAt hgot, s.suffix_windowAt, h.shows, List.take_add, List.map_append, windowAt,
    drop_suffix, hback]

/-- What is kept of a window is the carry of the round behind it. -/
theorem IsCarry.lastBytes (h : s.IsCarry first c carry) {got : Nat}
    (hgot : c.pos + got ≤ data.size) :
    s.IsCarry first (⟨c.pos + got⟩ : Cursor data)
      (Bytes.lastBytes (s.windowAt c carry got).bytes s.carrySize) := by
  have hfirst := h.first_le
  have hcarry := h.size_eq
  have hsize : s.carrySize = s.needle.size - 1 := rfl
  have hstart : (s.windowAt c carry got).start = c.pos - carry.size := rfl
  have hwindow : (s.windowAt c carry got).bytes.size = carry.size + got := size_windowAt hgot
  have hshows := (h.shows_windowAt hgot).lastBytes s.carrySize
  -- Only where the window lies matters from here on, not what it is made of.
  generalize s.windowAt c carry got = w at hstart hwindow hshows ⊢
  have hkept := size_lastBytes w.bytes s.carrySize
  have hmoved : w.start + (w.bytes.size - s.carrySize) =
      c.pos + got - (Bytes.lastBytes w.bytes s.carrySize).size := by
    omega
  rw [hmoved] at hshows
  exact ⟨by simp only; omega, by simp only; omega, hshows⟩

theorem available_le {cap : Nat} (c : Cursor data) (hchunk : s.chunk = some cap)
    (hpos : c.pos < data.size) :
    c.available s.chunk ≤ cap ∧ c.pos + c.available s.chunk ≤ data.size := by
  rw [hchunk, Cursor.available, Cursor.remaining]
  omega

/-- A window holds no more than a carry and one read. -/
theorem IsCarry.isBounded (h : s.IsCarry first c carry) {cap got : Nat} (hpos : 0 < got)
    (hcap : got ≤ cap) (hgot : c.pos + got ≤ data.size) (hneedle : 0 < s.needle.size) :
    s.IsBounded cap first (⟨c, ⟨c.pos + got⟩, s.windowAt c carry got⟩ : Round data) := by
  have hfirst := h.first_le
  have hcarry := h.size_eq
  have hsize : (s.windowAt c carry got).bytes.size = carry.size + got := size_windowAt hgot
  have hstart : (s.windowAt c carry got).start = c.pos - carry.size := rfl
  refine ⟨?_, ?_, ?_, h.shows_windowAt hgot, ?_, ?_⟩ <;> simp only [hstart, hsize] <;> omega

/-! ## All rounds -/

/-- Whether rounds are those of a whole search from a cursor on: each begins where the one before it ended, all
but the last miss the needle, and if the last misses it too, nothing is left of the stream. -/
structure IsRun (s : Search) (c : Cursor data) (rounds : List (Round data)) : Prop where
  starts : ∀ r ∈ rounds.head?, r.before = c
  goesOn : rounds.IsChain fun r next => next.before = r.behind
  missed : ∀ r ∈ rounds.dropLast, occurs r.window.bytes s.target = false
  finished : (∀ r ∈ rounds, occurs r.window.bytes s.target = false) →
    data.size ≤ (rounds.getLast?.map fun r => r.behind.pos).getD c.pos

theorem isRun_roundsFrom (hchunk : s.chunk ≠ some 0) (c : Cursor data) (carry : ByteArray) :
    s.IsRun c (s.roundsFrom c carry) := by
  fun_induction roundsFrom s c carry with
  | case1 c carry got hmore r hfound =>
    refine ⟨by simp [r], List.isChain_singleton r, by simp, fun hnone => ?_⟩
    rw [hnone r List.mem_cons_self] at hfound
    cases hfound
  | case2 c carry got hmore r hmissed ih =>
    refine ⟨by simp [r], List.isChain_cons.mpr ⟨ih.starts, ih.goesOn⟩, ?_, fun hnone => ?_⟩
    · intro round hround
      cases hrest : s.roundsFrom r.behind (lastBytes r.window.bytes s.carrySize) with
      | nil => simp [hrest] at hround
      | cons next rest =>
        have hlater := ih.missed
        rw [hrest] at hround hlater
        rcases List.mem_cons.mp hround with rfl | hround
        · exact Bool.eq_false_iff.mpr hmissed
        · exact hlater round hround
    · have hend := ih.finished fun round hround => hnone round (List.mem_cons_of_mem r hround)
      rw [List.getLast?_cons, Option.map_some, Option.getD_some]
      rwa [Option.getD_map] at hend
  | case3 c carry got hend =>
    refine ⟨by simp, List.isChain_nil, by simp, fun _ => ?_⟩
    by_contra hleft
    have hpos : c.pos < data.size := by simpa using hleft
    exact hend ⟨s.available_pos c hchunk hpos, hpos⟩

theorem IsCarry.isBounded_of_mem (h : s.IsCarry first c carry) {cap : Nat}
    (hchunk : s.chunk = some cap) (hneedle : 0 < s.needle.size) :
    ∀ r ∈ s.roundsFrom c carry, s.IsBounded cap first r := by
  fun_induction roundsFrom s c carry with
  | case1 c carry got hmore r hfound =>
    obtain ⟨hcap, hgot⟩ := available_le c hchunk hmore.2
    exact List.forall_mem_singleton.mpr (h.isBounded hmore.1 hcap hgot hneedle)
  | case2 c carry got hmore r hmissed ih =>
    obtain ⟨hcap, hgot⟩ := available_le c hchunk hmore.2
    exact List.forall_mem_cons.mpr ⟨h.isBounded hmore.1 hcap hgot hneedle, ih (h.lastBytes hgot)⟩
  | case3 c carry got hend => simp

/-- Whether rounds are those of a search that reads chunks of at most `cap` bytes, answer as it does, and keep
to their bounds. -/
structure IsWindowed (s : Search) (cap : Nat) (c : Cursor data) (rounds : List (Round data)) :
    Prop where
  run : s.IsRun c rounds
  answer : s.found c = rounds.any fun r => occurs r.window.bytes s.target
  bounded : ∀ r ∈ rounds, s.IsBounded cap c.pos r

/-- However long the stream is, every round of a search looks at a part of it that ends at the current
position, holds no more than a chunk and a carry, and repeats just as much as a match across the border can
need. -/
theorem isWindowed_rounds (s : Search) {cap : Nat} (c : Cursor data) (hneedle : 0 < s.needle.size)
    (hcap : 1 ≤ cap) (hchunk : s.chunk = some cap) : s.IsWindowed cap c (s.rounds c) := by
  have hrounds : s.rounds c = s.roundsFrom c ByteArray.empty := if_neg (by omega)
  have hreads : s.chunk ≠ some 0 := by
    rw [hchunk, ne_eq, Option.some.injEq]
    omega
  have hrun := isRun_roundsFrom hreads c ByteArray.empty
  have hbounded := (s.isCarry_empty c).isBounded_of_mem hchunk hneedle
  rw [← hrounds] at hrun hbounded
  exact ⟨hrun, s.found_eq_any_rounds c, hbounded⟩

/-- Chunks shorter than the needle: the match is found in the third round, with two bytes carried. -/
theorem isWindowed_rounds_short :
    let s : Search := { needle := ⟨#[0x44, 0x52, 0x4D]⟩, comparison := .ignoreCase, chunk := some 2 }
    let c : Cursor ⟨#[0x64, 0x64, 0x64, 0x64, 0x72, 0x6D, 0x00]⟩ := ⟨1⟩
    0 < s.needle.size ∧ 1 ≤ 2 ∧ s.chunk = some 2 ∧ s.IsWindowed 2 c (s.rounds c) ∧
      (s.rounds c).map (fun r => (r.window.start, r.behind.pos)) = [(1, 3), (1, 5), (3, 7)] := by
  intro s c
  exact ⟨by decide, by decide, rfl, isWindowed_rounds s c (by decide) (by decide) rfl, by cbv⟩

end Search

end PeSignals.Bytes

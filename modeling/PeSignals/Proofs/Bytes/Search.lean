import Mathlib
import PeSignals.Bytes.Search
import PeSignals.Proofs.Bytes.Suffix
import PeSignals.Proofs.Text.Ascii

/-!
# Searching by chunks is searching the whole

A search reads the stream in chunks and never holds more than one of them and a carry. What it answers
is nevertheless whether the needle is a contiguous part of all that follows the cursor. The carry may
be any bytes shorter than the needle: no occurrence lies inside it, and none that reaches past a window
begins before it.
-/
namespace PeSignals.Bytes

open Text.Ascii (foldByte)

/-! ## One window -/

theorem standsAt_iff (data needle : ByteArray) (i j left : Nat) (hi : i + left ≤ data.size)
    (hj : j + left ≤ needle.size) :
    standsAt data needle i j left = true ↔
      (suffix needle j).take left = (suffix data i).take left := by
  induction left generalizing i j with
  | zero => simp [standsAt]
  | succ left ih =>
    have hid : i < data.size := by omega
    have hjn : j < needle.size := by omega
    rw [standsAt, Bool.and_eq_true, beq_iff_eq, ih (i + 1) (j + 1) (by omega) (by omega),
      byteAt_of_lt data hid, byteAt_of_lt needle hjn, UInt8.toNat_inj, suffix_eq_cons data hid,
      suffix_eq_cons needle hjn, List.take_succ_cons, List.take_succ_cons, List.cons.injEq]
    exact and_congr_left' eq_comm

/-- A whole needle stands at an offset where it is a prefix of what follows. -/
theorem standsAt_iff_prefix (data needle : ByteArray) (i : Nat) (h : i + needle.size ≤ data.size) :
    standsAt data needle i 0 needle.size = true ↔ suffix needle 0 <+: suffix data i := by
  have hl : (suffix needle 0).length = needle.size := by simp
  rw [standsAt_iff data needle i 0 needle.size h (by omega), List.prefix_iff_eq_take, hl,
    List.take_of_length_le hl.le]

/-- Trying every offset at which the needle still fits finds it wherever it stands. -/
theorem occursFrom_iff (data needle : ByteArray) (i left : Nat) (hn : 0 < needle.size)
    (h : i + left + needle.size = data.size + 1) :
    occursFrom data needle i left = true ↔ suffix needle 0 <:+: suffix data i := by
  induction left generalizing i with
  | zero =>
    simp only [occursFrom, Bool.false_eq_true, false_iff]
    intro hin
    have := hin.length_le
    simp only [length_suffix] at this
    omega
  | succ left ih =>
    rw [occursFrom, Bool.or_eq_true, standsAt_iff_prefix data needle i (by omega),
      ih (i + 1) (by omega), suffix_eq_cons data (by omega), List.infix_cons_iff]

/-- A window is searched for the needle as a contiguous part. -/
theorem occurs_iff (data needle : ByteArray) (hn : 0 < needle.size) :
    occurs data needle = true ↔ suffix needle 0 <:+: suffix data 0 := by
  rw [occurs_eq_occursFrom]
  by_cases hle : needle.size ≤ data.size
  · exact occursFrom_iff data needle 0 _ hn (by omega)
  · rw [show data.size + 1 - needle.size = 0 by omega]
    simp only [occursFrom, Bool.false_eq_true, false_iff]
    intro hin
    have := hin.length_le
    simp only [length_suffix] at this
    omega

/-! ## What a comparison looks at -/

/-- The byte that a comparison looks at in place of a byte. -/
def Comparison.byte : Comparison → UInt8 → UInt8
  | exact, b => b
  | ignoreCase, b => foldByte b

theorem suffix_view (comparison : Comparison) (bytes : ByteArray) (i : Nat) :
    suffix (comparison.view bytes) i = (suffix bytes i).map comparison.byte := by
  cases comparison with
  | exact => exact (List.map_id _).symm
  | ignoreCase => exact Text.Ascii.suffix_fold bytes i

@[simp] theorem size_view (comparison : Comparison) (bytes : ByteArray) :
    (comparison.view bytes).size = bytes.size := by
  have h := congrArg List.length (suffix_view comparison bytes 0)
  simpa using h

/-! ## The carry -/

theorem suffix_lastBytes (bytes : ByteArray) (n : Nat) :
    suffix (lastBytes bytes n) 0 = (suffix bytes 0).drop (bytes.size - n) := by
  have h := suffix_window bytes (bytes.size - n) bytes.size 0
  rw [window] at h
  rw [lastBytes, h, drop_suffix, Nat.add_zero, Nat.zero_add]
  exact List.take_of_length_le (by simp)

theorem size_lastBytes (bytes : ByteArray) (n : Nat) :
    (lastBytes bytes n).size = min n bytes.size := by
  have h := congrArg List.length (suffix_lastBytes bytes n)
  simp only [length_suffix, List.length_drop] at h
  omega

/-- Behind a window without the needle, the needle occurs exactly if it does behind the end of that
window alone, provided the end kept is one byte shorter than the needle, or the whole window. -/
theorem infix_append_iff_of_carry {α : Type} {needle held carry rest : List α}
    (hend : carry <:+ held) (hlength : min (needle.length - 1) held.length ≤ carry.length)
    (habsent : ¬ needle <:+: held) :
    needle <:+: held ++ rest ↔ needle <:+: carry ++ rest := by
  constructor
  · intro h
    rcases List.infix_append_iff.mp h with h | h | ⟨first, second, rfl, hfirst, hsecond⟩
    · exact absurd h habsent
    · exact List.infix_append_of_infix_right h
    · have hne : second ≠ [] := by
        rintro rfl
        exact habsent (by simpa using hfirst.isInfix)
      have hpos := List.length_pos_iff.mpr hne
      have hle := hfirst.length_le
      have hcarry : first <:+ carry := by
        apply List.suffix_of_suffix_length_le hfirst hend
        simp only [List.length_append] at hlength
        omega
      exact List.infix_append_iff.mpr (.inr (.inr ⟨first, second, rfl, hcarry, hsecond⟩))
  · rintro ⟨before, after, h⟩
    obtain ⟨front, rfl⟩ := hend
    exact ⟨front ++ before, after, by simp [← h]⟩

/-! ## All windows -/

namespace Search

variable (s : Search) {data : ByteArray}

@[simp] theorem size_target : s.target.size = s.needle.size := size_view _ _

/-- A window holds the carry and the next bytes of the stream, as they are compared. -/
theorem suffix_windowAt (c : Cursor data) (carry : ByteArray) (got : Nat) :
    suffix (s.windowAt c carry got).bytes 0 =
      suffix carry 0 ++ ((suffix data c.pos).take got).map s.comparison.byte := by
  rw [windowAt, suffix_append_of_le _ _ (Nat.zero_le _), suffix_view, suffix_window]
  simp

/-- A read obtains nothing only at the end, unless it asks for nothing. -/
theorem available_pos (c : Cursor data) (hchunk : s.chunk ≠ some 0) (h : c.pos < data.size) :
    0 < c.available s.chunk := by
  unfold Cursor.available Cursor.remaining
  cases hs : s.chunk with
  | none => simp only; omega
  | some cap =>
    have : cap ≠ 0 := fun h0 => hchunk (by rw [hs, h0])
    simp only
    omega

/-- From a carry shorter than the needle on, a search finds what the carry and the rest of the stream
hold together. -/
theorem foundFrom_iff (hneedle : 0 < s.needle.size) (hchunk : s.chunk ≠ some 0) (c : Cursor data)
    (carry : ByteArray) (hcarry : carry.size < s.needle.size) :
    s.foundFrom c carry = true ↔
      suffix s.target 0 <:+: suffix carry 0 ++ (suffix data c.pos).map s.comparison.byte := by
  fun_induction foundFrom s c carry with
  | case1 c carry got hmore w ih =>
    have hw := s.suffix_windowAt c carry got
    have hsplit : suffix carry 0 ++ (suffix data c.pos).map s.comparison.byte =
        suffix w.bytes 0 ++ (suffix data (c.pos + got)).map s.comparison.byte := by
      rw [hw, List.append_assoc, ← List.map_append, ← drop_suffix, List.take_append_drop]
    rw [Bool.or_eq_true, occurs_iff _ _ (by simpa using hneedle), hsplit]
    -- Without a match in the window, its last bytes are all that a later match can need of it.
    by_cases hin : suffix s.target 0 <:+: suffix w.bytes 0
    · exact iff_of_true (.inl hin) (List.infix_append_of_infix_left hin)
    · have hlast := suffix_lastBytes w.bytes s.carrySize
      have hsize := size_lastBytes w.bytes s.carrySize
      rw [or_iff_right hin, ih (by rw [hsize, carrySize]; omega)]
      refine (infix_append_iff_of_carry ?_ ?_ hin).symm
      · rw [hlast]
        exact List.drop_suffix _ _
      · rw [length_suffix, length_suffix, length_suffix, size_target, hsize, carrySize]
        omega
  | case2 c carry got hend =>
    have hpos : data.size ≤ c.pos := by
      by_contra hlt
      exact hend ⟨s.available_pos c hchunk (by omega), by omega⟩
    rw [suffix_eq_nil data hpos]
    simp only [Bool.false_eq_true, List.map_nil, List.append_nil, false_iff]
    intro hin
    have := hin.length_le
    simp only [length_suffix, size_target] at this
    omega

/-- A search answers whether the needle is a contiguous part of all that follows the cursor. -/
theorem found_iff (hneedle : 0 < s.needle.size) (hchunk : s.chunk ≠ some 0) (c : Cursor data) :
    s.found c = true ↔
      (suffix s.needle 0).map s.comparison.byte <:+:
        (suffix data c.pos).map s.comparison.byte := by
  have he : suffix ByteArray.empty 0 = [] := rfl
  have hfrom := s.foundFrom_iff hneedle hchunk c ByteArray.empty hneedle
  rw [target, suffix_view, he, List.nil_append] at hfrom
  rw [found, Bool.and_eq_true, bne_iff_ne, hfrom]
  exact and_iff_right (by omega)

end Search

/-- The answer for every size that a read may be asked for. It is the same for all of them, from one
byte to the whole stream at once; a size that no read takes leaves the search without an answer. -/
theorem searched_eq_infix (data needle : ByteArray) (comparison : Comparison) (size : Int)
    (c : Cursor data) (hneedle : 0 < needle.size) (hsize : 1 ≤ size ∨ size = -1) :
    (Limit.ofSize size).map (fun chunk => ({ needle, comparison, chunk } : Search).found c) =
      if size < positionLimit then
        .ok (decide ((suffix needle 0).map comparison.byte <:+:
          (suffix data c.pos).map comparison.byte))
      else .error .sizeTooLarge := by
  by_cases hfits : size < positionLimit
  · have hlimit : Limit.ofSize size = .ok (Limit.ofInt size) := by
      rw [Limit.ofSize, if_neg (by simp only [positionLimit] at hfits ⊢; omega)]
    have hchunk : Limit.ofInt size ≠ some 0 := by
      unfold Limit.ofInt
      split
      · simp
      · simp only [ne_eq, Option.some.injEq]
        omega
    rw [hlimit, if_pos hfits]
    have hfound := ({ needle, comparison, chunk := Limit.ofInt size } : Search).found_iff
      hneedle hchunk c
    exact congrArg Except.ok (Bool.eq_iff_iff.mpr (by rw [hfound, decide_eq_true_iff]))
  · rw [Limit.ofSize, if_pos (.inl (by omega)), if_neg hfits]
    rfl

/-- A match of three bytes that no chunk of one byte holds, in letters of the other case. -/
theorem searched_bytewise :
    0 < (⟨#[0x44, 0x52, 0x4D]⟩ : ByteArray).size ∧ ((1 : Int) ≤ 1 ∨ (1 : Int) = -1) ∧
    (Limit.ofSize 1).map (fun chunk =>
      ({ needle := ⟨#[0x44, 0x52, 0x4D]⟩, comparison := .ignoreCase, chunk } : Search).found
        (⟨1⟩ : Cursor ⟨#[0x64, 0x64, 0x64, 0x72, 0x6D, 0x00]⟩)) = .ok true :=
  ⟨by decide, by decide, searched_eq_infix _ _ _ _ _ (by decide) (by decide)⟩

/-- A size beyond those that a read takes has no answer, although the needle is there. -/
theorem oversized_read_unanswered :
    (suffix ⟨#[0x61]⟩ 0).map Comparison.ignoreCase.byte <:+:
      (suffix ⟨#[0x61]⟩ 0).map Comparison.ignoreCase.byte ∧
    (Limit.ofSize 0x8000000000000000).map (fun chunk =>
      ({ needle := ⟨#[0x61]⟩, comparison := .ignoreCase, chunk } : Search).found
        (Cursor.start ⟨#[0x61]⟩)) = .error .sizeTooLarge :=
  ⟨List.infix_rfl, by rfl⟩

end PeSignals.Bytes

import Mathlib
import PeSignals.Bytes.Basic

/-!
# Byte strings as lists

The list of the bytes from an offset on is the view through which byte strings are compared here.
Windows, values and little-endian numbers are all read off it, also where they reach past the end.
-/
namespace PeSignals.Bytes

variable (data : ByteArray)

/-- The bytes from an offset on. -/
def suffix (i : Nat) : List UInt8 := data.data.toList.drop i

@[simp] theorem length_suffix (i : Nat) : (suffix data i).length = data.size - i := by
  rw [suffix, List.length_drop, Array.length_toList, ByteArray.size_data]

@[simp] theorem drop_suffix (i n : Nat) : (suffix data i).drop n = suffix data (i + n) := by
  rw [suffix, List.drop_drop, suffix]

theorem suffix_eq_nil {i : Nat} (h : data.size ≤ i) : suffix data i = [] := by
  rw [← List.length_eq_zero_iff, length_suffix]
  omega

theorem suffix_eq_cons {i : Nat} (h : i < data.size) :
    suffix data i = data[i] :: suffix data (i + 1) := by
  rw [suffix, List.drop_eq_getElem_cons (by simpa using h)]
  rfl

theorem suffix_append_of_le {i : Nat} (other : ByteArray) (h : i ≤ data.size) :
    suffix (data ++ other) i = suffix data i ++ suffix other 0 := by
  rw [suffix, ByteArray.toList_data_append, List.drop_append_of_le_length (by simpa using h)]
  rfl

theorem suffix_window (start stop i : Nat) :
    suffix (window data start stop) i = (suffix data (start + i)).take (stop - start - i) := by
  rw [suffix, window, ByteArray.data_extract, Array.toList_extract, List.extract_eq_take_drop,
    List.drop_take, List.drop_drop]
  rfl

theorem values_eq (i n : Nat) : values data i n = (suffix data i).take n := by
  rw [values, ByteArray.data_extract, Array.toList_extract, List.extract_eq_take_drop,
    Nat.add_sub_cancel_left]
  rfl

@[simp] theorem length_values (i n : Nat) : (values data i n).length = min n (data.size - i) := by
  rw [values_eq, List.length_take, length_suffix]

theorem values_window (start : Nat) {j width n : Nat} (h : j + width ≤ n) :
    values (window data start (start + n)) j width = values data (start + j) width := by
  rw [values_eq, suffix_window, values_eq, List.take_take, Nat.min_eq_left (by omega)]

/-- The number that bytes stand for, least significant byte first. -/
def numberOf : List UInt8 → Nat
  | [] => 0
  | b :: rest => b.toNat + 256 * numberOf rest

theorem byteAt_of_lt {i : Nat} (h : i < data.size) : byteAt data i = data[i].toNat := by
  rw [byteAt, dif_pos h]

theorem byteAt_of_le {i : Nat} (h : data.size ≤ i) : byteAt data i = 0 := by
  rw [byteAt, dif_neg (by omega)]

theorem littleEndian_of_le {i : Nat} (width : Nat) (h : data.size ≤ i) :
    littleEndian data i width = 0 := by
  induction width generalizing i with
  | zero => rfl
  | succ width ih => rw [littleEndian, byteAt_of_le data h, ih (by omega)]

/-- Bytes past the end do not count, because they read as zero. -/
theorem littleEndian_eq (i width : Nat) :
    littleEndian data i width = numberOf ((suffix data i).take width) := by
  induction width generalizing i with
  | zero => rfl
  | succ width ih =>
    by_cases h : i < data.size
    · rw [littleEndian, byteAt_of_lt data h, ih, suffix_eq_cons data h, List.take_succ_cons, numberOf]
    · rw [littleEndian_of_le data _ (by omega), suffix_eq_nil data (by omega)]
      rfl

theorem littleEndian_window (start : Nat) {j width n : Nat} (h : j + width ≤ n) :
    littleEndian (window data start (start + n)) j width = littleEndian data (start + j) width := by
  rw [littleEndian_eq, suffix_window, littleEndian_eq, List.take_take, Nat.min_eq_left (by omega)]

/-- Appending leaves every window within the old bytes as it was. -/
theorem window_append (more : ByteArray) (start : Nat) {stop : Nat} (h : stop ≤ data.size) :
    window (data ++ more) start stop = window data start stop := by
  apply ByteArray.ext
  rw [window, window, ByteArray.data_extract, ByteArray.data_append, ByteArray.data_extract,
    Array.extract_append_of_stop_le_size_left h]

theorem values_append (more : ByteArray) {i n : Nat} (h : i + n ≤ data.size) :
    values (data ++ more) i n = values data i n :=
  congrArg (·.data.toList) (window_append data more i h)

/-- A number that was read whole does not change when bytes are appended. -/
theorem littleEndian_append (more : ByteArray) {i width : Nat} (h : i + width ≤ data.size) :
    littleEndian (data ++ more) i width = littleEndian data i width := by
  rw [littleEndian_eq, littleEndian_eq, ← values_eq, ← values_eq, values_append data more h]

/-- A read that the end cuts short obtains the beginning of what it obtains of longer data. -/
theorem values_prefix_append (more : ByteArray) (i n : Nat) :
    values data i n <+: values (data ++ more) i n := by
  rw [values_eq, values_eq]
  by_cases h : i ≤ data.size
  · rw [suffix_append_of_le data more h]
    exact (List.prefix_append _ _).take n
  · rw [suffix_eq_nil data (by omega), List.take_nil]
    exact List.nil_prefix

theorem byteAt_lt (i : Nat) : byteAt data i < 256 := by
  unfold byteAt
  split
  · exact UInt8.toNat_lt _
  · decide

theorem littleEndian_lt (i width : Nat) : littleEndian data i width < 256 ^ width := by
  induction width generalizing i with
  | zero => exact Nat.one_pos
  | succ width ih =>
    have low := byteAt_lt data i
    have high := ih (i + 1)
    rw [littleEndian, Nat.pow_succ]
    omega

end PeSignals.Bytes

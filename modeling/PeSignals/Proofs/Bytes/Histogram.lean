import Mathlib
import PeSignals.Bytes.Histogram
import PeSignals.Proofs.Bytes.Suffix

/-!
# What a histogram counts

The entry of a byte value is the number of its occurrences. So the entries add up to the size of the data,
the histogram of two byte strings one after the other is the sum of theirs, and two byte strings have one
histogram exactly if the bytes of one are those of the other in some order.
-/
namespace PeSignals.Bytes

/-! ## Counting -/

theorem size_countFrom (data : ByteArray) (i : Nat) (counts : Array Nat) (left : Nat) :
    (countFrom data i counts left).size = counts.size := by
  induction left generalizing i counts with
  | zero => rfl
  | succ left ih => rw [countFrom, ih, Array.size_modify]

/-- Counting up to the end adds to each entry the occurrences among the bytes from the offset on. -/
theorem getElem?_countFrom {data : ByteArray} {i left : Nat} (h : i + left = data.size)
    (counts : Array Nat) (b : UInt8) :
    (countFrom data i counts left)[b.toNat]? =
      counts[b.toNat]?.map (· + (suffix data i).count b) := by
  -- Each step takes the first byte off the suffix and adds it to its entry.
  induction left generalizing i counts with
  | zero =>
    rw [countFrom, suffix_eq_nil data (by omega)]
    simp
  | succ left ih =>
    have hi : i < data.size := by omega
    rw [countFrom, ih (by omega), byteAt_of_lt data hi, Array.getElem?_modify, suffix_eq_cons data hi,
      List.count_cons]
    by_cases hb : data[i] = b
    · rw [if_pos (congrArg UInt8.toNat hb), if_pos (beq_iff_eq.mpr hb), Option.map_map]
      refine congrArg (Option.map · _) (funext fun n => ?_)
      simp only [Function.comp_apply]
      omega
    · have hne : data[i].toNat ≠ b.toNat := fun heq => hb (UInt8.toNat_inj.mp heq)
      rw [if_neg hne, if_neg (by simpa using hb)]
      rfl

theorem sum_modify {counts : List Nat} {k : Nat} (h : k < counts.length) :
    (counts.modify k (· + 1)).sum = counts.sum + 1 := by
  induction counts generalizing k with
  | nil => simp at h
  | cons n rest ih =>
    cases k with
    | zero =>
      rw [List.modify_zero_cons, List.sum_cons, List.sum_cons]
      omega
    | succ k =>
      rw [List.modify_succ_cons, List.sum_cons, ih (Nat.lt_of_succ_lt_succ h), List.sum_cons]
      omega

/-- Every byte that is counted has an entry, so each adds one to the sum of the entries. -/
theorem sum_countFrom (data : ByteArray) (i : Nat) {counts : Array Nat} (h : counts.size = 256)
    (left : Nat) : (countFrom data i counts left).toList.sum = counts.toList.sum + left := by
  induction left generalizing i counts with
  | zero => rfl
  | succ left ih =>
    have hentry : byteAt data i < counts.toList.length := by
      rw [Array.length_toList, h]
      exact byteAt_lt data i
    rw [countFrom, ih _ (by rw [Array.size_modify, h]), Array.toList_modify, sum_modify hentry]
    omega

/-! ## Histograms -/

/-- Whether an array holds the count of each byte value of some data. -/
structure Counts (data : ByteArray) (counts : Array Nat) : Prop where
  size_eq : counts.size = 256
  entry : ∀ b : UInt8, counts[b.toNat]? = some (data.data.toList.count b)
  total : counts.toList.sum = data.size

/-- Each entry of the histogram is the number of times that its byte value occurs. -/
theorem counts_histogram (data : ByteArray) : Counts data (histogram data) := by
  refine ⟨?_, fun b => ?_, ?_⟩
  · rw [histogram, size_countFrom, Array.size_replicate]
  · have hb : b.toNat < 256 := UInt8.toNat_lt b
    rw [histogram, getElem?_countFrom (Nat.zero_add _), Array.getElem?_replicate, if_pos hb,
      Option.map_some, Nat.zero_add]
    rfl
  · rw [histogram, sum_countFrom data 0 Array.size_replicate, Array.toList_replicate, List.sum_replicate,
      smul_zero, Nat.zero_add]

/-- There is one array of counts only. -/
theorem eq_histogram {data : ByteArray} {counts : Array Nat} (hsize : counts.size = 256)
    (hentry : ∀ b : UInt8, counts[b.toNat]? = some (data.data.toList.count b)) :
    counts = histogram data := by
  have hcounts := counts_histogram data
  refine Array.ext (hsize.trans hcounts.size_eq.symm) fun k hk hk' => ?_
  have hbyte : (UInt8.ofNat k).toNat = k := UInt8.toNat_ofNat_of_lt' (lt_of_lt_of_eq hk hsize)
  have heq := (hentry (.ofNat k)).trans (hcounts.entry (.ofNat k)).symm
  rw [hbyte, Array.getElem?_eq_getElem hk, Array.getElem?_eq_getElem hk'] at heq
  exact Option.some.inj heq

/-- Two byte strings have one histogram if and only if they hold the same bytes in some order. -/
theorem histogram_eq_iff {data other : ByteArray} :
    histogram data = histogram other ↔ data.data.toList.Perm other.data.toList := by
  have hcounts := counts_histogram data
  rw [List.perm_iff_count]
  constructor
  · intro h b
    have hentry := hcounts.entry b
    rw [h, (counts_histogram other).entry b] at hentry
    exact (Option.some.inj hentry).symm
  · intro h
    exact eq_histogram hcounts.size_eq fun b => (hcounts.entry b).trans (congrArg some (h b))

/-- The histogram of two byte strings, one after the other, is the sum of theirs, entry by entry. -/
theorem histogram_append (data more : ByteArray) :
    histogram (data ++ more) = Array.zipWith (· + ·) (histogram data) (histogram more) := by
  have hdata := counts_histogram data
  have hmore := counts_histogram more
  symm
  refine eq_histogram ?_ fun b => ?_
  · rw [Array.size_zipWith, hdata.size_eq, hmore.size_eq, Nat.min_self]
  · rw [Array.getElem?_zipWith, hdata.entry b, hmore.entry b, ByteArray.toList_data_append,
      List.count_append]

end PeSignals.Bytes

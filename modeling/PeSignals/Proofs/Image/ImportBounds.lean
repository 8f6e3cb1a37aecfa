import Mathlib
import PeSignals.Proofs.Image.ImportWalk

/-!
# How far the end of the data bounds a walk

The loop over the records of an import table has no counter of its own. It ends because every record that
it takes lies within the data, behind the one before. So the size of the data bounds the records, and with
them the names that a walk can collect, however tables and names overlap or lead back to each other.
-/
namespace PeSignals.Image

open Bytes (Cursor ReadError littleEndian positionLimit window)

variable {data : ByteArray}

/-! ## Records of a table -/

def descriptorAt (data : ByteArray) (offset : Nat) : ImportDescriptor where
  originalFirstThunk := littleEndian data offset 4
  nameRva := littleEndian data (offset + 12) 4
  firstThunk := littleEndian data (offset + 16) 4

/-- How a table ends at an offset: with a record without a name, with the end of the data, or with an offset
that no position can express. -/
inductive TableEnd (data : ByteArray) (offset : Nat) : Option ReadError → Prop
  | terminator (reached : offset < 2 ^ 63) (fits : offset + 20 ≤ data.size)
      (unnamed : (descriptorAt data offset).nameRva = 0) : TableEnd data offset none
  | cut (reached : offset < 2 ^ 63) (cut : data.size < offset + 20) :
      TableEnd data offset (some (.truncated 20 offset (data.size - offset)))
  | unreachable (beyond : 2 ^ 63 ≤ offset) : TableEnd data offset (some .offsetTooLarge)

/-- A listing of the records of a table, if `n` of them come before its end. -/
structure ListsRecords (data : ByteArray) (table n : Nat) (listing : Listing ImportDescriptor) :
    Prop where
  fits : ∀ k < n, table + 20 * k + 20 ≤ data.size
  named : ∀ k < n, (descriptorAt data (table + 20 * k)).nameRva ≠ 0
  items : listing.items.toList = (List.range n).map fun k => descriptorAt data (table + 20 * k)
  ended : TableEnd data (table + 20 * n) listing.stop

theorem TableEnd.stop_eq_none_iff {offset : Nat} {stop : Option ReadError} (h : TableEnd data offset stop)
    (hreached : offset < 2 ^ 63) : stop = none ↔ offset + 20 ≤ data.size := by
  cases h with
  | terminator _ fits _ => exact iff_of_true rfl fits
  | cut _ cut => exact iff_of_false (Option.some_ne_none _) (Nat.not_le.mpr cut)
  | unreachable beyond => exact absurd hreached (Nat.not_lt.mpr beyond)

theorem TableEnd.category_eq_iff {offset : Nat} {stop : Option ReadError} (h : TableEnd data offset stop)
    (hreached : offset < 2 ^ 63) :
    stop.map ReadError.category = some "TruncatedImageError" ↔ data.size < offset + 20 := by
  cases h with
  | terminator _ fits _ => exact iff_of_false (Option.some_ne_none _).symm (Nat.not_lt.mpr fits)
  | cut _ cut => exact iff_of_true rfl cut
  | unreachable beyond => exact absurd hreached (Nat.not_lt.mpr beyond)

theorem readDescriptor_of_le {offset : Nat} (hreached : offset < 2 ^ 63)
    (hfits : offset + 20 ≤ data.size) (c : Cursor data) :
    readDescriptor c offset = .ok (descriptorAt data offset, ⟨offset + 20⟩) := by
  have field {j : Nat} (h : j + 4 ≤ 20) := Bytes.littleEndian_window data offset h
  rw [readDescriptor, Cursor.seek_of_lt c (Int.natCast_nonneg offset) (by simp only [positionLimit]; omega),
    Int.toNat_natCast]
  simp only [bind, Except.bind, importDescriptorSize, Cursor.take_of_le hfits, decodeImportDescriptor,
    descriptorAt]
  rw [field (by decide), field (by decide), field (by decide)]
  rfl

theorem readDescriptor_of_lt {offset : Nat} (hreached : offset < 2 ^ 63)
    (hcut : data.size < offset + 20) (c : Cursor data) :
    readDescriptor c offset = .error (.truncated 20 offset (data.size - offset)) := by
  rw [readDescriptor, Cursor.seek_of_lt c (Int.natCast_nonneg offset) (by simp only [positionLimit]; omega),
    Int.toNat_natCast]
  simp only [bind, Except.bind, importDescriptorSize, Cursor.take_of_lt (by decide) hcut]

/-- An offset beyond the positions is refused before any byte is read. -/
theorem readDescriptor_of_beyond {offset : Nat} (hbeyond : 2 ^ 63 ≤ offset) (c : Cursor data) :
    readDescriptor c offset = .error .offsetTooLarge := by
  have hlimit : (offset : Int) ≥ positionLimit := by
    simp only [positionLimit]
    omega
  rw [readDescriptor, Cursor.seek, if_pos (.inl hlimit)]
  rfl

theorem importDescriptorsFrom_of_error {c : Cursor data} {offset : Int} {e : ReadError}
    (h : readDescriptor c offset = .error e) (found : Array ImportDescriptor) :
    importDescriptorsFrom c offset found = { items := found, stop := some e } := by
  rw [importDescriptorsFrom]
  split
  · next heq => rw [h] at heq; cases heq; rfl
  · next heq => rw [h] at heq; cases heq

theorem importDescriptorsFrom_of_record {c moved : Cursor data} {offset : Int}
    {record : ImportDescriptor} (h : readDescriptor c offset = .ok (record, moved))
    (found : Array ImportDescriptor) :
    importDescriptorsFrom c offset found =
      if record.nameRva = 0 then { items := found }
      else importDescriptorsFrom moved (offset + importDescriptorSize) (found.push record) := by
  conv_lhs => rw [importDescriptorsFrom]
  split
  · next heq => rw [h] at heq; cases heq
  · next heq => rw [h] at heq; cases heq; rfl

section ListsRecords

variable {table n : Nat} {listing : Listing ImportDescriptor}

theorem listsRecords_nothing {stop : Option ReadError} (h : TableEnd data table stop) :
    ListsRecords data table 0 { stop } where
  fits := fun k hk => absurd hk (Nat.not_lt_zero k)
  named := fun k hk => absurd hk (Nat.not_lt_zero k)
  items := rfl
  ended := h

theorem ListsRecords.cons (hfits : table + 20 ≤ data.size) (hnamed : (descriptorAt data table).nameRva ≠ 0)
    (h : ListsRecords data (table + 20) n listing) :
    ListsRecords data table (n + 1)
      { items := #[descriptorAt data table] ++ listing.items, stop := listing.stop } where
  fits := by
    intro k hk
    cases k with
    | zero => exact hfits
    | succ k =>
      have := h.fits k (Nat.lt_of_succ_lt_succ hk)
      omega
  named := by
    intro k hk
    cases k with
    | zero => exact hnamed
    | succ k =>
      have hbehind : table + 20 * (k + 1) = table + 20 + 20 * k := by omega
      rw [hbehind]
      exact h.named k (Nat.lt_of_succ_lt_succ hk)
  items := by
    rw [List.range_succ_eq_map, List.map_cons, List.map_map, Array.toList_append, h.items]
    refine congrArg (_ :: ·) (List.map_congr_left fun k _ => ?_)
    exact congrArg (descriptorAt data) (by omega)
  ended := by
    have hbehind : table + 20 * (n + 1) = table + 20 + 20 * n := by omega
    rw [hbehind]
    exact h.ended

/-- The record that ends a table lies behind one within the data, so its offset is one that a position can
express. -/
theorem ListsRecords.reached (h : ListsRecords data table n listing) (htable : table < 2 ^ 63)
    (hsize : data.size < 2 ^ 63) : table + 20 * n < 2 ^ 63 := by
  cases n with
  | zero => exact htable
  | succ n =>
    have := h.fits n (Nat.lt_succ_self n)
    omega

/-- Records do not overlap, so the size of the data bounds their number. -/
theorem ListsRecords.le_div (h : ListsRecords data table n listing) : n ≤ (data.size - table) / 20 := by
  cases n with
  | zero => exact Nat.zero_le _
  | succ n =>
    have := h.fits n (Nat.lt_succ_self n)
    omega

end ListsRecords

/-- From any offset on, the loop over records ends and adds the records up to the end of the table. -/
theorem exists_listsRecords (c : Cursor data) (table : Nat) (found : Array ImportDescriptor) :
    ∃ n listing, ListsRecords data table n listing ∧
      importDescriptorsFrom c table found =
        { items := found ++ listing.items, stop := listing.stop } := by
  by_cases hreached : table < 2 ^ 63
  · by_cases hfits : table + 20 ≤ data.size
    · have hread := readDescriptor_of_le hreached hfits c
      rw [importDescriptorsFrom_of_record hread]
      by_cases hunnamed : (descriptorAt data table).nameRva = 0
      · refine ⟨0, _, listsRecords_nothing (.terminator hreached hfits hunnamed), ?_⟩
        rw [if_pos hunnamed, Array.append_empty]
      · -- The record lies within the data, so less of the data is left behind it.
        obtain ⟨n, listing, hlists, hrest⟩ :=
          exists_listsRecords ⟨table + 20⟩ (table + 20) (found.push (descriptorAt data table))
        refine ⟨n + 1, _, hlists.cons hfits hunnamed, ?_⟩
        rw [if_neg hunnamed, ← Array.append_assoc, ← Array.push_eq_append]
        exact hrest
    · have hcut := Nat.not_le.mp hfits
      refine ⟨0, _, listsRecords_nothing (.cut hreached hcut), ?_⟩
      rw [importDescriptorsFrom_of_error (readDescriptor_of_lt hreached hcut c), Array.append_empty]
  · have hbeyond := Nat.not_lt.mp hreached
    refine ⟨0, _, listsRecords_nothing (.unreachable hbeyond), ?_⟩
    rw [importDescriptorsFrom_of_error (readDescriptor_of_beyond hbeyond c), Array.append_empty]
termination_by data.size - table

theorem exists_listsRecords_importDescriptors (data : ByteArray) (table : Nat) :
    ∃ n, ListsRecords data table n (importDescriptors data table) := by
  obtain ⟨n, listing, hlists, hloop⟩ := exists_listsRecords (Cursor.start data) table #[]
  refine ⟨n, ?_⟩
  rw [importDescriptors, hloop, Array.empty_append]
  exact hlists

/-! ## Names of a walk -/

theorem size_thunkNamesFrom_le (sections : List Section) (bitness : Int) (c : Cursor data)
    (offset : Int) (found : Array String) (left : Nat) :
    (thunkNamesFrom sections bitness c offset found left).1.items.size ≤ found.size + left := by
  induction left generalizing c offset found with
  | zero => exact le_refl _
  | succ left ih =>
    rw [thunkNamesFrom]
    split
    · exact Nat.le_add_right _ _
    · exact Nat.le_add_right _ _
    · split
      · exact Nat.le_add_right _ _
      · next name _ _ =>
        refine (ih _ _ _).trans ?_
        cases name with
        | none => exact Nat.add_le_add_left (Nat.le_succ left) _
        | some name =>
          rw [Array.size_push]
          omega

/-- The bound on lookup entries bounds the functions of one library. -/
theorem size_thunkNames_le (sections : List Section) (bitness : Int) (c : Cursor data) (rva : Int) :
    (thunkNames sections bitness c rva).1.items.size ≤ 50 := by
  unfold thunkNames
  split
  · exact Nat.zero_le _
  · next offset _ =>
    have h := size_thunkNamesFrom_le sections bitness c offset #[] maximumThunks
    exact h.trans (le_of_eq (Nat.zero_add _))

/-- Whether a part of a walk collects no more than `m` records can give. -/
def Collected.Within (c : Collected) (m : Nat) : Prop :=
  c.libraries.length ≤ m ∧ c.functions.length ≤ 50 * m

theorem Collected.Within.followedBy {first next : Collected} {m n : Nat} (hfirst : first.Within m)
    (hnext : next.Within n) : (first.followedBy next).Within (m + n) := by
  obtain ⟨hlibraries, hfunctions⟩ := hfirst
  obtain ⟨hlibraries', hfunctions'⟩ := hnext
  unfold Collected.followedBy
  split_ifs
  · exact ⟨by omega, by omega⟩
  · constructor
    · rw [List.length_append]
      omega
    · rw [List.length_append]
      omega

/-- One record gives one library and fifty functions at most. -/
theorem within_collectedOf (sections : List Section) (bitness : Int) (record : ImportDescriptor) :
    (collectedOf data sections bitness record).Within 1 := by
  unfold collectedOf
  split
  · exact ⟨Nat.zero_le _, Nat.zero_le _⟩
  · unfold collectedAt
    split
    · exact ⟨Nat.zero_le _, Nat.zero_le _⟩
    · next name _ =>
      have hlibrary : ([Text.lower name].filter (· ≠ "")).length ≤ 1 := List.length_filter_le _ _
      simp only
      split_ifs
      · exact ⟨hlibrary, Nat.zero_le _⟩
      · refine ⟨hlibrary, ?_⟩
        rw [Array.length_toList]
        exact size_thunkNames_le sections bitness _ _

/-- From any record on, a walk collects what the records that fit into the rest of the data can give. -/
theorem exists_within_collectedFrom (data : ByteArray) (sections : List Section) (bitness table : Int)
    (k : Nat) :
    ∃ m, 20 * m ≤ data.size - (table + 20 * k).toNat ∧
      (collectedFrom data sections bitness table k).Within m := by
  fun_induction collectedFrom data sections bitness table k with
  | case1 k e hrecord => exact ⟨0, Nat.zero_le _, Nat.zero_le _, Nat.zero_le _⟩
  | case2 k record hrecord hend => exact ⟨0, Nat.zero_le _, Nat.zero_le _, Nat.zero_le _⟩
  | case3 k record hrecord hmore ih =>
    obtain ⟨m, hm, hrest⟩ := ih
    obtain ⟨hlow, hfits⟩ := recordAt_eq_ok hrecord
    refine ⟨1 + m, ?_, (within_collectedOf sections bitness record).followedBy hrest⟩
    push_cast at hm
    omega

/-- The data bounds the whole directory: every 20 bytes give one library and 50 functions at most. -/
theorem size_importsAt_le (header : Header) (sections : List Section) :
    (importsAt data header sections).libraries.size ≤ data.size / 20 ∧
      (importsAt data header sections).functions.size ≤ 50 * (data.size / 20) := by
  unfold importsAt
  split
  · exact ⟨Nat.zero_le _, Nat.zero_le _⟩
  · unfold importsBehind
    simp only
    split_ifs
    · exact ⟨Nat.zero_le _, Nat.zero_le _⟩
    · split
      · exact ⟨Nat.zero_le _, Nat.zero_le _⟩
      · next table _ =>
        obtain ⟨m, hm, hlibraries, hfunctions⟩ :=
          exists_within_collectedFrom data sections header.bitness table 0
        simp only [List.size_toArray]
        omega

/-! ## Bounds -/

/-- A table from any offset on is listed up to its first record that the data cuts off or that has no name,
so it has no more records than fit behind the offset. From an offset that a position can express, in data
of a size that one can express, the listing ends with a failed read exactly if the data cuts off the last
record. A walk over imports collects one library and fifty functions for each such record at most. -/
theorem importDescriptors_bounded (data : ByteArray) :
    (∀ table : Nat, ∃ n ≤ (data.size - table) / 20,
      ListsRecords data table n (importDescriptors data table) ∧
        (table < 2 ^ 63 → data.size < 2 ^ 63 →
          ((importDescriptors data table).stop = none ↔ table + 20 * n + 20 ≤ data.size) ∧
          ((importDescriptors data table).stop.map ReadError.category = some "TruncatedImageError" ↔
            data.size < table + 20 * n + 20))) ∧
    ∀ (c : Cursor data) (header : Header) (sections : List Section),
      (walkImports c header sections).libraries.size ≤ data.size / 20 ∧
        (walkImports c header sections).functions.size ≤ 50 * (data.size / 20) := by
  constructor
  · intro table
    obtain ⟨n, hlists⟩ := exists_listsRecords_importDescriptors data table
    refine ⟨n, hlists.le_div, hlists, fun htable hsize => ?_⟩
    have hreached := hlists.reached htable hsize
    exact ⟨hlists.ended.stop_eq_none_iff hreached, hlists.ended.category_eq_iff hreached⟩
  · intro c header sections
    rw [walkImports_eq_importsAt]
    exact size_importsAt_le header sections

/-- One record with a name, and a second one that the data cuts off after ten bytes. -/
def cutTable : ByteArray := ⟨Array.replicate 30 1⟩

theorem importDescriptors_bounded_cutTable :
    ∃ n ≤ 1, ListsRecords cutTable 0 n (importDescriptors cutTable 0) ∧
      ((importDescriptors cutTable 0).stop.map ReadError.category = some "TruncatedImageError" ↔
        30 < 20 * n + 20) := by
  obtain ⟨n, hbound, hlists, hended⟩ := (importDescriptors_bounded cutTable).1 0
  have hcut := (hended (by decide) (by decide)).2
  rw [Nat.zero_add] at hcut
  exact ⟨n, hbound, hlists, hcut⟩

/-- No position expresses the offset `2 ^ 63`. The record there lies outside the data, but the attempt to
reach it fails before a read could come back short. -/
theorem importDescriptors_beyondPositions :
    let listing := importDescriptors ByteArray.empty (2 ^ 63 : Nat)
    ByteArray.empty.size < 2 ^ 63 + 20 ∧ listing.items = #[] ∧
      listing.stop.map ReadError.category = some "OverflowError" ∧
      ¬ (listing.stop.map ReadError.category = some "TruncatedImageError" ↔
        ByteArray.empty.size < 2 ^ 63 + 20) := by
  have hlisting : importDescriptors ByteArray.empty (2 ^ 63 : Nat) =
      { items := #[], stop := some .offsetTooLarge } :=
    importDescriptorsFrom_of_error (readDescriptor_of_beyond (le_refl _) _) #[]
  have hcut : ByteArray.empty.size < 2 ^ 63 + 20 := by decide
  rw [hlisting]
  exact ⟨hcut, rfl, rfl, fun hiff => absurd (hiff.mpr hcut) (by decide)⟩

end PeSignals.Image

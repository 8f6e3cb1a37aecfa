import Mathlib
import PeSignals.Image.Writer
import PeSignals.Proofs.Bytes.Holds
import PeSignals.Proofs.Image.Acceptance
import PeSignals.Proofs.Image.ImportWalk
import PeSignals.Proofs.Text.Ascii

/-!
# Reading what was written: numbers, names, entries

The parts of a written image, each read back where it stands: numbers of a fixed width, section names
with their padding, terminated names, and the entries of the section table.
-/
namespace PeSignals.Image

open Bytes (Holds suffix values littleEndian numberOf positionLimit window)

variable {data : ByteArray} {i : Nat}

/-! ## Numbers -/

theorem numberOf_numberBytes {width n : Nat} (h : n < 256 ^ width) :
    numberOf (numberBytes width n) = n := by
  induction width generalizing n with
  | zero =>
    rw [pow_zero] at h
    rw [numberBytes, numberOf]
    omega
  | succ width ih =>
    rw [pow_succ'] at h
    rw [numberBytes, numberOf, ih (Nat.div_lt_of_lt_mul h), UInt8.toNat_ofNat']
    omega

/-- A written number is read back if it is no wider than its field. -/
theorem littleEndian_of_holds {width n : Nat} (h : Holds data i (numberBytes width n))
    (hn : n < 256 ^ width) : littleEndian data i width = n := by
  have hread := h.littleEndian
  rwa [length_numberBytes, numberOf_numberBytes hn] at hread

theorem length_flatMap_const {α : Type} {parts : List α} {write : α → List UInt8} {n : Nat}
    (h : ∀ a ∈ parts, (write a).length = n) : (parts.flatMap write).length = parts.length * n := by
  rw [List.length_flatMap, List.map_eq_replicate_iff.mpr h, List.sum_replicate_nat]

/-! ## Names -/

theorem length_nameBytes (name : String) : (nameBytes name).length = name.toList.length := by
  rw [nameBytes, List.length_map]

theorem ofBytes_nameBytes {name : String} (h : ∀ c ∈ name.toList, c.toNat < 128) :
    Text.Ascii.ofBytes (nameBytes name) = name := by
  have hmap : (nameBytes name).map Text.Ascii.ofByte = name.toList := by
    rw [nameBytes, List.map_map]
    refine (List.map_congr_left fun c hc => ?_).trans (List.map_id _)
    exact Text.Ascii.ofByte_toByte (h c hc)
  rw [Text.Ascii.ofBytes, hmap, String.ofList_toList]

/-- A name that an import record can hold: seven-bit characters without a zero among them, and no more
than a name is read of. -/
structure IsImportName (name : String) : Prop where
  ascii : ∀ c ∈ name.toList, c.toNat < 128
  no_zero : ∀ c ∈ name.toList, c ≠ Char.ofNat 0
  nonempty : 1 ≤ name.toList.length
  short : name.toList.length ≤ 256

theorem IsImportName.ne_empty {name : String} (h : IsImportName name) : name ≠ "" := by
  rintro rfl
  exact absurd h.nonempty (by decide)

theorem IsImportName.zero_notMem {name : String} (h : IsImportName name) : 0 ∉ nameBytes name := by
  intro hzero
  obtain ⟨c, hc, hb⟩ := List.mem_map.mp hzero
  exact Text.Ascii.toByte_ne_zero (h.no_zero c hc) hb

theorem positionOf_natCast {p : Nat} (h : (p : Int) < positionLimit) : positionOf p = .ok p := by
  rw [positionOf, if_neg (by simp only [positionLimit] at h ⊢; omega), if_neg (by omega),
    Int.toNat_natCast]

theorem bytesAt_natCast {p n : Nat} (hp : (p : Int) < positionLimit) (h : p + n ≤ data.size) :
    bytesAt data p n = .ok (window data p (p + n)) := by
  rw [bytesAt, positionOf_natCast hp]
  exact if_pos h

/-- What a read obtains of a terminated name that is no longer than the read. -/
theorem takeWhile_take_terminated {name : List UInt8} (rest : List UInt8) {cap : Nat}
    (hzero : 0 ∉ name) (hshort : name.length ≤ cap) :
    let bytes := (name ++ 0 :: rest).take cap
    (0 ∈ bytes ∨ bytes.length = cap) ∧ bytes.takeWhile (· ≠ 0) = name := by
  have hkept := takeWhile_ne_zero_of_notMem hzero
  simp only [List.take_append, List.take_of_length_le hshort]
  cases hleft : cap - name.length with
  | zero =>
    rw [List.take_zero, List.append_nil]
    exact ⟨.inr (by omega), hkept⟩
  | succ left =>
    rw [List.take_succ_cons]
    refine ⟨.inl (by simp), ?_⟩
    rw [List.takeWhile_append, hkept, if_pos rfl]
    simp

/-- A terminated name is read back. One of the greatest length is read without its end. -/
theorem nameAt_of_holds {name : String} {p : Nat} (hname : IsImportName name)
    (hp : (p : Int) < positionLimit) (h : Holds data p (nameBytes name ++ [0])) :
    nameAt data p = .ok name := by
  obtain ⟨rest, hrest⟩ := h
  have hshort : (nameBytes name).length ≤ maximumNameLength := by
    rw [length_nameBytes]
    exact hname.short
  have hread := takeWhile_take_terminated rest hname.zero_notMem hshort
  have hvalues : values data p maximumNameLength =
      (nameBytes name ++ 0 :: rest).take maximumNameLength := by
    rw [Bytes.values_eq, ← hrest, List.append_assoc]
    rfl
  rw [nameAt, positionOf_natCast hp]
  simp only [bind, Except.bind, hvalues]
  rw [if_pos hread.1, hread.2, ofBytes_nameBytes hname.ascii]
  rfl

/-! ## Entries of the section table -/

/-- The zeros that fill up a name are dropped again, since no name ends in one. -/
theorem dropTrailingZeros_append_zeros {bytes : List UInt8} (n : Nat)
    (h : bytes.getLast? ≠ some 0) : dropTrailingZeros (bytes ++ zeros n) = bytes := by
  have hzeros : ∀ b ∈ List.replicate n (0 : UInt8), decide (b = 0) = true := by
    intro b hb
    exact decide_eq_true (List.eq_of_mem_replicate hb)
  rw [dropTrailingZeros, List.reverse_append, zeros, List.reverse_replicate,
    List.dropWhile_append_of_pos hzeros]
  rw [List.getLast?_eq_head?_reverse] at h
  cases hrev : bytes.reverse with
  | nil => rw [List.reverse_eq_nil_iff.mp hrev]; rfl
  | cons b rest =>
    rw [hrev, List.head?_cons] at h
    rw [List.dropWhile_cons_of_neg (by simpa using h), ← hrev, List.reverse_reverse]

/-- A section that an entry of the table can describe. -/
structure PlannedSection.IsValid (s : PlannedSection) : Prop where
  ascii : ∀ c ∈ s.name.toList, c.toNat < 128
  short : s.name.toList.length ≤ 8
  last : s.name.toList.getLast? ≠ some (Char.ofNat 0)
  characteristics : s.characteristics < 0x100000000

/-- The entry that describes a placed section. -/
def PlacedSection.entry (s : PlacedSection) : Section where
  name := s.planned.name
  virtualSize := s.planned.memorySize
  virtualAddress := s.address
  rawSize := s.planned.fileSize
  rawPointer := s.offset
  characteristics := s.planned.characteristics

theorem PlannedSection.IsValid.length_name {s : PlannedSection} (h : s.IsValid) :
    (nameBytes s.name).length ≤ 8 := by
  rw [length_nameBytes]
  exact h.short

theorem PlannedSection.IsValid.last_name {s : PlannedSection} (h : s.IsValid) :
    (nameBytes s.name).getLast? ≠ some 0 := by
  rw [nameBytes, List.getLast?_map]
  intro hlast
  obtain ⟨c, hc, hb⟩ := Option.map_eq_some_iff.mp hlast
  exact Text.Ascii.toByte_ne_zero (fun h0 => h.last (h0 ▸ hc)) hb

/-- A place that the entry of a section can give: all of its addresses and its file offset are below the
bit that marks an ordinal. -/
structure PlacedSection.Fits (s : PlacedSection) : Prop where
  address : s.address + s.planned.memorySize ≤ 0x80000000
  offset : s.offset < 0x80000000

theorem align_lt_add {unit : Nat} (h : 0 < unit) (n : Nat) : align unit n < n + unit := by
  have hle := Nat.div_mul_le_self (n + unit - 1) unit
  unfold align
  omega

theorem length_record {s : PlacedSection} (h : s.planned.IsValid) : s.record.length = 40 := by
  have hname := length_padded 8 (nameBytes s.planned.name)
  rw [Nat.max_eq_left h.length_name] at hname
  simp [PlacedSection.record, hname, length_numberBytes, zeros]

/-- The entry of a placed section is decoded to what it was written for. -/
theorem entryAt_of_holds {s : PlacedSection} {offset : Nat} (hvalid : s.planned.IsValid)
    (hfits : s.Fits) (h : Holds data offset s.record) : entryAt data offset = s.entry := by
  have hlength := length_padded 8 (nameBytes s.planned.name)
  rw [Nat.max_eq_left hvalid.length_name] at hlength
  have hsize : s.planned.fileSize < s.planned.data.length + fileUnit :=
    align_lt_add (by decide) _
  have hmemory : s.planned.data.length ≤ s.planned.memorySize := le_max_left _ _
  have haddress := hfits.address
  have hoffset := hfits.offset
  simp only [PlacedSection.record, List.flatMap_cons, List.flatMap_nil, List.append_nil,
    List.append_assoc, Bytes.holds_append, hlength, length_numberBytes, zeros,
    List.length_replicate, Nat.add_assoc, Nat.reduceAdd] at h
  obtain ⟨name, memory, address, size, pointer, -, characteristics⟩ := h
  have hvalues := name.values
  rw [hlength] at hvalues
  simp only [fileUnit] at hsize
  rw [entryAt_eq, hvalues, padded, dropTrailingZeros_append_zeros _ hvalid.last_name,
    ofBytes_nameBytes hvalid.ascii, littleEndian_of_holds memory (by omega),
    littleEndian_of_holds address (by omega), littleEndian_of_holds size (by omega),
    littleEndian_of_holds pointer (by omega),
    littleEndian_of_holds characteristics hvalid.characteristics]
  rfl

/-- A written section table is read back entry by entry. -/
theorem entriesAt_of_holds {placed : List PlacedSection} {offset : Nat}
    (hvalid : ∀ s ∈ placed, s.planned.IsValid) (hfits : ∀ s ∈ placed, s.Fits)
    (h : Holds data offset (placed.flatMap PlacedSection.record)) :
    entriesAt data offset placed.length = placed.map PlacedSection.entry := by
  induction placed generalizing offset with
  | nil => rfl
  | cons s rest ih =>
    have hs := hvalid s List.mem_cons_self
    rw [List.flatMap_cons, Bytes.holds_append, length_record hs] at h
    rw [List.length_cons, entriesAt_succ, List.map_cons,
      entryAt_of_holds hs (hfits s List.mem_cons_self) h.1,
      ih (fun t ht => hvalid t (List.mem_cons_of_mem s ht))
        (fun t ht => hfits t (List.mem_cons_of_mem s ht)) h.2]

end PeSignals.Image

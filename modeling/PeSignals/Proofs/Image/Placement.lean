import Mathlib
import PeSignals.Proofs.Image.SectionTable
import PeSignals.Proofs.Image.Written

/-!
# Where sections are placed

Sections follow each other without overlap, in memory and in the file. So each finds its data at the
offset of its entry, the last raw end is the end of all stored data, and an address behind all earlier
sections is mapped by the section that is placed there.
-/
namespace PeSignals.Image

open Bytes (Holds)

/-! ## Offsets -/

/-- The bytes that sections occupy in the file. -/
def storedSize : List PlannedSection → Nat
  | [] => 0
  | s :: rest => s.fileSize + storedSize rest

theorem length_stored (s : PlannedSection) : s.stored.length = s.fileSize := by
  rw [PlannedSection.stored, length_padded]
  exact Nat.max_eq_left (le_align (by decide) _)

theorem length_flatMap_stored (sections : List PlannedSection) :
    (sections.flatMap PlannedSection.stored).length = storedSize sections := by
  induction sections with
  | nil => rfl
  | cons s rest ih => rw [List.flatMap_cons, List.length_append, length_stored, ih, storedSize]

@[simp] theorem length_place (address offset : Nat) (sections : List PlannedSection) :
    (place address offset sections).length = sections.length := by
  induction sections generalizing address offset with
  | nil => rfl
  | cons s rest ih => rw [place, List.length_cons, ih, List.length_cons]

theorem map_planned_place (address offset : Nat) (sections : List PlannedSection) :
    (place address offset sections).map PlacedSection.planned = sections := by
  induction sections generalizing address offset with
  | nil => rfl
  | cons s rest ih => rw [place, List.map_cons, ih]

/-- Sections are placed one after the other, so further ones go behind. -/
theorem place_append (address offset : Nat) (first second : List PlannedSection) :
    place address offset (first ++ second) =
      place address offset first ++
        place (addressAfter address first) (offset + storedSize first) second := by
  induction first generalizing address offset with
  | nil => rfl
  | cons s rest ih =>
    rw [List.cons_append, place, ih, place, List.cons_append, addressAfter, storedSize,
      Nat.add_assoc]

variable {data : ByteArray}

/-- Each section finds its data at its offset. -/
theorem holds_stored_of_mem_place {address offset : Nat} {sections : List PlannedSection}
    {s : PlacedSection} (hs : s ∈ place address offset sections)
    (h : Holds data offset (sections.flatMap PlannedSection.stored)) :
    Holds data s.offset s.planned.stored := by
  induction sections generalizing address offset with
  | nil => cases hs
  | cons t rest ih =>
    rw [List.flatMap_cons, Bytes.holds_append, length_stored] at h
    rcases List.mem_cons.mp hs with rfl | hrest
    · exact h.1
    · exact ih hrest h.2

/-- Raw ends grow from section to section, so the greatest is the end of the last. -/
theorem foldl_rawEnd_place (address offset : Nat) (sections : List PlannedSection) :
    ((place address offset sections).map PlacedSection.entry).foldl
      (fun last t => max last t.rawEnd) (offset : Int) = (offset + storedSize sections : Nat) := by
  induction sections generalizing address offset with
  | nil => rfl
  | cons s rest ih =>
    have hend : max (offset : Int) (offset + s.fileSize) = (offset + s.fileSize : Nat) := by
      rw [max_eq_right (by omega), Nat.cast_add]
    rw [place, List.map_cons, List.foldl_cons]
    simp only [PlacedSection.entry, Section.rawEnd, hend]
    rw [storedSize, ← Nat.add_assoc]
    exact ih _ _

theorem lastRawEnd?_place (address offset : Nat) {sections : List PlannedSection}
    (hne : sections ≠ []) :
    lastRawEnd? ((place address offset sections).map PlacedSection.entry) =
      some ((offset + storedSize sections : Nat) : Int) := by
  cases sections with
  | nil => exact absurd rfl hne
  | cons s rest =>
    rw [place, List.map_cons, lastRawEnd?, storedSize, ← Nat.add_assoc]
    exact congrArg some (foldl_rawEnd_place _ (offset + s.fileSize) rest)

/-! ## Addresses -/

theorem le_addressAfter (address : Nat) (sections : List PlannedSection) :
    address ≤ addressAfter address sections := by
  induction sections generalizing address with
  | nil => exact le_refl address
  | cons s rest ih =>
    have hstep : address + s.memorySize ≤ align addressUnit (address + s.memorySize) :=
      le_align (by decide) _
    exact le_trans (by omega) (ih _)

/-- Placed sections do not reach beyond the address that follows them. -/
theorem address_le_of_mem_place {address offset : Nat} {sections : List PlannedSection}
    {s : PlacedSection} (hs : s ∈ place address offset sections) :
    s.address + s.planned.memorySize ≤ addressAfter address sections := by
  induction sections generalizing address offset with
  | nil => cases hs
  | cons t rest ih =>
    rcases List.mem_cons.mp hs with rfl | hrest
    · have hstep : address + t.memorySize ≤ align addressUnit (address + t.memorySize) :=
        le_align (by decide) _
      exact le_trans hstep (le_addressAfter _ rest)
    · exact ih hrest

theorem mem_addresses_entry_iff {s : PlacedSection} {rva : Nat} :
    (rva : Int) ∈ s.entry.addresses ↔ s.address ≤ rva ∧ rva < s.address + s.planned.memorySize := by
  rw [Section.addresses, Set.mem_Ico]
  simp only [PlacedSection.entry]
  omega

/-- An address behind all earlier sections is mapped by the section placed there. -/
theorem fileOffset?_place_last {address offset rva : Nat} {sections : List PlannedSection}
    {s : PlacedSection} (haddress : s.address = addressAfter address sections)
    (hlow : s.address ≤ rva) (hhigh : rva < s.address + s.planned.memorySize) :
    fileOffset? ((place address offset sections ++ [s]).map PlacedSection.entry) rva =
      some ((s.offset + (rva - s.address) : Nat) : Int) := by
  have hearlier : ∀ e ∈ (place address offset sections).map PlacedSection.entry,
      (rva : Int) ∉ e.addresses := by
    refine List.forall_mem_map.mpr fun t ht => ?_
    have hle := address_le_of_mem_place ht
    rw [mem_addresses_entry_iff]
    omega
  have hoffset : ((s.offset + (rva - s.address) : Nat) : Int) = s.entry.offsetAt rva := by
    simp only [Section.offsetAt, PlacedSection.entry]
    omega
  have hdecides : Decides ((place address offset sections ++ [s]).map PlacedSection.entry) rva s.entry :=
    ⟨_, [], List.map_append, mem_addresses_entry_iff.mpr ⟨hlow, hhigh⟩, hearlier⟩
  exact fileOffset?_eq_some_iff.mpr ⟨s.entry, hdecides, hoffset⟩

/-! ## Bytes behind an address -/

/-- Bytes stand behind an address if the sections map the address of each of them to its offset. The
addresses are all below the bit that marks an ordinal. -/
def Backs (data : ByteArray) (sections : List Section) (address : Nat) (bytes : List UInt8) : Prop :=
  address + bytes.length ≤ 0x80000000 ∧
    ∃ offset : Nat, offset + bytes.length ≤ 0x100000000 ∧ Holds data offset bytes ∧
      ∀ k < bytes.length,
        fileOffset? sections ((address + k : Nat) : Int) = some ((offset + k : Nat) : Int)

theorem backs_append {sections : List Section} {address : Nat} {first second : List UInt8}
    (h : Backs data sections address (first ++ second)) :
    Backs data sections address first ∧ Backs data sections (address + first.length) second := by
  obtain ⟨hlow, offset, hlimit, hholds, hmap⟩ := h
  rw [List.length_append] at hlow hlimit hmap
  rw [Bytes.holds_append] at hholds
  refine ⟨⟨by omega, offset, by omega, hholds.1, fun k hk => hmap k (by omega)⟩,
    by omega, offset + first.length, by omega, hholds.2, fun k hk => ?_⟩
  rw [Nat.add_assoc, Nat.add_assoc]
  exact hmap (first.length + k) (by omega)

/-- Bytes that are not empty have an offset, which their address is mapped to. -/
theorem Backs.offset {sections : List Section} {address : Nat} {bytes : List UInt8}
    (h : Backs data sections address bytes) (hne : bytes ≠ []) :
    ∃ offset : Nat, fileOffset? sections address = some (offset : Int) ∧
      offset + bytes.length ≤ 0x100000000 ∧ Holds data offset bytes := by
  obtain ⟨-, offset, hlimit, hholds, hmap⟩ := h
  exact ⟨offset, hmap 0 (List.length_pos_iff.mpr hne), hlimit, hholds⟩

/-- The data of the section placed last stand behind its address. -/
theorem backs_place_last {address offset : Nat} {sections : List PlannedSection}
    {s : PlacedSection} (haddress : s.address = addressAfter address sections)
    (hfits : s.Fits) (h : Holds data s.offset s.planned.stored) :
    Backs data ((place address offset sections ++ [s]).map PlacedSection.entry) s.address
      s.planned.data := by
  have hlength : s.planned.data.length ≤ s.planned.memorySize := le_max_left _ _
  have hmemory := hfits.address
  have hoffset := hfits.offset
  refine ⟨by omega, s.offset, by omega, h.left, fun k hk => ?_⟩
  rw [fileOffset?_place_last haddress (by omega) (by omega), Nat.add_sub_cancel_left]

end PeSignals.Image

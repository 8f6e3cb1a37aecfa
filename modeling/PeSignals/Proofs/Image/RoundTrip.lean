import Mathlib
import PeSignals.Proofs.Image.WrittenImports
import PeSignals.Proofs.Text.SortedSet

/-!
# Reading undoes writing

A plan that fits into the fields of an image is read back from the bytes that it is laid out as: its
word size, its sections with their places, the names that it imports, and the size of what follows the
last section.
-/
namespace PeSignals.Image

open Bytes (Cursor Holds littleEndian values positionLimit window)

namespace Plan

/-! ## Plans that fit -/

def bitness (p : Plan) : Int := if p.is64Bit then 64 else 32

/-- A plan that the fields of an image can hold: few enough sections, all of them at addresses and file
offsets below the bit that marks an ordinal. -/
structure IsValid (p : Plan) : Prop where
  sections : ∀ s ∈ p.sections, s.IsValid
  libraries : ∀ l ∈ p.libraries, l.IsValid p.bitness
  count : p.allSections.length < 0x10000
  fits : ∀ s ∈ p.placed, s.Fits

variable {p : Plan}

theorem thunkWidth_bitness (p : Plan) : Image.thunkWidth p.bitness = p.thunkWidth := by
  unfold bitness Plan.thunkWidth
  cases p.is64Bit <;> rfl

theorem topBit_bitness (p : Plan) : topBit p.bitness = p.ordinalFlag := by
  unfold bitness Plan.ordinalFlag
  cases p.is64Bit <;> rfl

theorem isValid_idata (bytes : List UInt8) :
    PlannedSection.IsValid { name := ".idata", data := bytes } where
  ascii := by simp
  short := by simp
  last := by simp
  characteristics := by norm_num

theorem IsValid.of_mem_allSections (hp : p.IsValid) {s : PlannedSection} (hs : s ∈ p.allSections) :
    s.IsValid := by
  rcases List.mem_append.mp hs with hgiven | himports
  · exact hp.sections s hgiven
  · split at himports
    · cases himports
    · obtain rfl := List.mem_singleton.mp himports
      exact isValid_idata _

theorem IsValid.of_mem_placed (hp : p.IsValid) {s : PlacedSection} (hs : s ∈ p.placed) :
    s.planned.IsValid := by
  refine hp.of_mem_allSections ?_
  rw [← map_planned_place addressUnit p.headersSize p.allSections]
  exact List.mem_map_of_mem hs

/-! ## Headers in the file -/

theorem length_stub : stub.length = 0x80 := by
  rw [stub, length_padded, List.length_append, length_padded, length_numberBytes]
  rfl

theorem length_coffHeader (p : Plan) : p.coffHeader.length = 24 := by
  simp [coffHeader, length_numberBytes, zeros]

theorem length_importEntry (p : Plan) : (p.importEntry.flatMap (numberBytes 4)).length = 8 := by
  unfold importEntry
  split <;> rfl

theorem length_optionalHeader (p : Plan) : p.optionalHeader.length = p.optionalHeaderSize := by
  rw [optionalHeader, length_padded, List.length_append, length_padded, length_importEntry,
    length_numberBytes, optionalHeaderSize, importEntryOffset]
  cases p.is64Bit <;> rfl

theorem length_placed (p : Plan) : p.placed.length = p.allSections.length := length_place _ _ _

theorem tableOffset_eq (p : Plan) : p.tableOffset = 0x98 + p.optionalHeaderSize := rfl

theorem le_headersSize (p : Plan) : p.tableOffset + 40 * p.allSections.length ≤ p.headersSize :=
  le_align (by decide) _

theorem IsValid.length_headers (hp : p.IsValid) : p.headers.length = p.headersSize := by
  have hle := p.le_headersSize
  have htable := length_flatMap_const fun s hs => length_record (hp.of_mem_placed (s := s) hs)
  rw [length_placed, Nat.mul_comm] at htable
  rw [headers, length_padded]
  simp only [List.length_append, length_stub, length_coffHeader, length_optionalHeader, htable]
  rw [tableOffset_eq] at hle
  omega

/-- Where the parts of an image stand. -/
structure Stands (p : Plan) : Prop where
  stub : Holds p.write 0 stub
  coffHeader : Holds p.write 0x80 p.coffHeader
  optionalHeader : Holds p.write 0x98 p.optionalHeader
  table : Holds p.write p.tableOffset (p.placed.flatMap PlacedSection.record)
  stored : Holds p.write p.headersSize (p.allSections.flatMap PlannedSection.stored)

/-- Every part is written at the place that the layout gives it. -/
theorem IsValid.stands (hp : p.IsValid) : p.Stands := by
  have h : Holds p.write 0 p.bytes := Bytes.holds_toArray p.bytes
  rw [bytes, Bytes.holds_append, Bytes.holds_append, hp.length_headers, Nat.zero_add] at h
  obtain ⟨⟨hheaders, hstored⟩, -⟩ := h
  rw [headers, padded, Bytes.holds_append] at hheaders
  have hparts := hheaders.1
  simp only [Bytes.holds_append, List.length_append, length_stub, length_coffHeader,
    length_optionalHeader, Nat.zero_add, Nat.reduceAdd] at hparts
  exact ⟨hparts.1.1.1, hparts.1.1.2, hparts.1.2, hparts.2, hstored⟩

theorem IsValid.size_write (hp : p.IsValid) :
    p.write.size = p.headersSize + storedSize p.allSections + p.overlay.length := by
  have hsize : p.write.size = p.bytes.length := List.size_toArray
  rw [hsize, bytes, List.length_append, List.length_append, hp.length_headers,
    length_flatMap_stored]

/-! ## Headers read back -/

theorem Stands.stub_signature (h : p.Stands) : values p.write 0 2 = [0x4D, 0x5A] :=
  h.stub.left.left.left.values

theorem Stands.headerOffset_write (h : p.Stands) : headerOffset p.write = 0x80 := by
  have hfield := h.stub.left.right
  rw [length_padded] at hfield
  exact littleEndian_of_holds hfield (by decide)

/-- The fields of the COFF header that a reader looks at. -/
theorem Stands.coffFields (h : p.Stands) :
    Holds p.write 0x80 [0x50, 0x45, 0, 0] ∧
      Holds p.write 0x86 (numberBytes 2 p.allSections.length) ∧
      Holds p.write 0x94 (numberBytes 2 p.optionalHeaderSize) := by
  have hcoff := h.coffHeader
  simp only [Plan.coffHeader, List.append_assoc] at hcoff
  exact ⟨hcoff.left, hcoff.right.right.left, hcoff.right.right.right.right.left⟩

theorem Stands.header_signature (h : p.Stands) : values p.write 0x80 4 = [0x50, 0x45, 0, 0] :=
  h.coffFields.1.values

theorem IsValid.sectionCount_write (hp : p.IsValid) (h : p.Stands) :
    sectionCount p.write = p.allSections.length := by
  rw [sectionCount, h.headerOffset_write]
  exact littleEndian_of_holds h.coffFields.2.1 hp.count

theorem Stands.tableOffset_write (h : p.Stands) : Image.tableOffset p.write = p.tableOffset := by
  have hfield : p.optionalHeaderSize < 256 ^ 2 := by
    unfold optionalHeaderSize
    split <;> decide
  have hread : littleEndian p.write (0x80 + 20) 2 = p.optionalHeaderSize :=
    littleEndian_of_holds h.coffFields.2.2 hfield
  rw [Image.tableOffset, h.headerOffset_write, hread, Plan.tableOffset, peOffset]

theorem Stands.magic_write (h : p.Stands) : littleEndian p.write 0x98 2 = p.magic := by
  have hoptional := h.optionalHeader
  simp only [Plan.optionalHeader, padded, List.append_assoc] at hoptional
  refine littleEndian_of_holds hoptional.left ?_
  unfold magic
  split <;> decide

theorem Stands.importEntry_write (h : p.Stands) :
    Holds p.write (0x98 + p.importEntryOffset) (p.importEntry.flatMap (numberBytes 4)) := by
  have hoptional := (h.optionalHeader.left).right
  rw [length_padded, length_numberBytes] at hoptional
  have hmax : max p.importEntryOffset 2 = p.importEntryOffset := by
    unfold importEntryOffset
    split <;> rfl
  rwa [hmax] at hoptional

/-- What is written passes every gate of the reader. -/
theorem IsValid.isImage_write (hp : p.IsValid) : IsImage p.write := by
  have h := hp.stands
  have hsize := hp.size_write
  have hheaders := p.le_headersSize
  have hoptional : 224 ≤ p.optionalHeaderSize := by
    unfold optionalHeaderSize
    split <;> decide
  rw [tableOffset_eq] at hheaders
  refine ⟨⟨by omega, h.stub_signature, ?_, ?_, ?_⟩, .inr ?_⟩
  · rw [h.headerOffset_write]
    omega
  · rw [h.headerOffset_write]
    exact h.header_signature
  · rw [h.headerOffset_write]
    omega
  · rw [h.tableOffset_write, hp.sectionCount_write h, tableOffset_eq]
    omega

theorem Stands.bitness_write (h : p.Stands) :
    (headerAt p.write (headerOffset p.write)).bitness = p.bitness := by
  rw [h.headerOffset_write, headerAt]
  simp only [Nat.reduceAdd, h.magic_write, magic, bitness, magic64]
  cases p.is64Bit <;> rfl

theorem Stands.importDirectoryOffset_write (h : p.Stands) :
    (headerAt p.write (headerOffset p.write)).importDirectoryOffset =
      ((0x98 + p.importEntryOffset : Nat) : Int) := by
  have hbitness := h.bitness_write
  rw [Header.importDirectoryOffset, hbitness, h.headerOffset_write, headerAt, bitness,
    importEntryOffset]
  cases p.is64Bit <;> rfl

/-- The section table is read back as it was laid out. -/
theorem IsValid.sections_write (hp : p.IsValid) (h : p.Stands) :
    entriesAt p.write (Image.tableOffset p.write) (sectionCount p.write) =
      p.placed.map PlacedSection.entry := by
  rw [h.tableOffset_write, hp.sectionCount_write h, ← length_placed]
  exact entriesAt_of_holds (fun s hs => hp.of_mem_placed hs) hp.fits h.table

/-! ## Imports read back -/

def importSection (p : Plan) : PlannedSection := { name := ".idata", data := p.importData }

theorem allSections_of_libraries (h : p.libraries ≠ []) :
    p.allSections = p.sections ++ [p.importSection] := by
  rw [allSections, List.isEmpty_eq_false_iff.mpr h]
  rfl

/-- The data of the import section stand behind its address. -/
theorem IsValid.backs_importData (hp : p.IsValid) (h : p.Stands) (hne : p.libraries ≠ []) :
    Backs p.write (p.placed.map PlacedSection.entry) p.importAddress p.importData := by
  have hplaced : p.placed = place addressUnit p.headersSize p.sections ++
      [⟨p.importSection, p.importAddress, p.headersSize + storedSize p.sections⟩] := by
    rw [placed, allSections_of_libraries hne, place_append]
    rfl
  have hmem :
      ⟨p.importSection, p.importAddress, p.headersSize + storedSize p.sections⟩ ∈ p.placed := by
    rw [hplaced]
    exact List.mem_append_right _ List.mem_cons_self
  have hstored := holds_stored_of_mem_place hmem h.stored
  rw [hplaced]
  exact backs_place_last rfl (hp.fits _ hmem) hstored

/-- The table behind the import section's address leads to every library and every function. -/
theorem IsValid.importsBehind_write (hp : p.IsValid) (h : p.Stands) (hne : p.libraries ≠ [])
    {directory : ByteArray} (haddress : littleEndian directory 0 4 = p.importAddress)
    (hsize : littleEndian directory 4 4 = p.descriptorsSize) :
    importsBehind p.write (p.placed.map PlacedSection.entry) p.bitness directory =
      { libraries := (p.libraries.map (Text.lower ·.name)).toArray
        functions := (p.libraries.flatMap PlannedLibrary.followed).toArray } := by
  have hpos : 0 < p.importAddress := lt_of_lt_of_le (by decide) (le_addressAfter addressUnit _)
  have hbacks := hp.backs_importData h hne
  simp only [importData, ← thunkWidth_bitness, ← topBit_bitness] at hbacks
  obtain ⟨hfront, hrecords⟩ := backs_append hbacks
  obtain ⟨hdescriptors, htables⟩ := backs_append hfront
  obtain ⟨table, htable, hlimit, hholds⟩ := hdescriptors.offset (by simp [zeros])
  have hlength (width t n : Nat) :
      (descriptors width t n p.libraries ++ zeros 20).length = p.descriptorsSize := by
    rw [List.length_append, length_descriptors, descriptorsSize, zeros, List.length_replicate]
    omega
  have htablesSize (n : Nat) :
      (lookupTables (Image.thunkWidth p.bitness) (topBit p.bitness) n p.libraries).length =
        p.tablesSize := by
    rw [length_lookupTables, thunkWidth_bitness]
    rfl
  rw [hlength] at htables hlimit
  rw [List.length_append, hlength, htablesSize, ← Nat.add_assoc] at hrecords
  have hall := collectedFrom_of_holds (k := 0) hp.libraries (Nat.add_pos_left hpos _)
    (Nat.add_pos_left (Nat.add_pos_left hpos _) _) (by rw [descriptorsSize] at hlimit; omega) hholds
    htables hrecords
  rw [importsBehind, haddress, hsize]
  simp only
  rw [if_neg (by rw [descriptorsSize]; omega), htable]
  simp only [hall]
  rfl

theorem descriptorsSize_le (p : Plan) : p.descriptorsSize ≤ p.importData.length := by
  simp only [importData, List.length_append, length_descriptors, zeros, List.length_replicate,
    descriptorsSize]
  omega

/-- The import entry of the optional header is read back. -/
theorem Stands.directory_write (h : p.Stands) {address size : Nat}
    (hentry : p.importEntry = [address, size]) (haddress : address < 0x100000000)
    (hsize : size < 0x100000000) :
    ∃ directory, bytesAt p.write (headerAt p.write (headerOffset p.write)).importDirectoryOffset 8 =
        .ok directory ∧
      littleEndian directory 0 4 = address ∧ littleEndian directory 4 4 = size := by
  have hholds := h.importEntry_write
  rw [hentry] at hholds
  have hfits := hholds.le_size (List.cons_ne_nil _ _)
  have hposition : ((0x98 + p.importEntryOffset : Nat) : Int) < positionLimit := by
    unfold importEntryOffset
    split <;> decide
  have field {j : Nat} (hj : j + 4 ≤ 8) :=
    Bytes.littleEndian_window p.write (0x98 + p.importEntryOffset) hj
  simp only [List.flatMap_cons, List.flatMap_nil, List.append_nil] at hholds
  rw [h.importDirectoryOffset_write]
  refine ⟨_, bytesAt_natCast hposition hfits, ?_, ?_⟩
  · rw [field (by decide)]
    exact littleEndian_of_holds hholds.left haddress
  · rw [field (by decide)]
    exact littleEndian_of_holds hholds.right hsize

/-- The walk over a written image gives the libraries in order, each with its functions. -/
theorem IsValid.importsOfImage_write (hp : p.IsValid) (h : p.Stands) :
    importsOfImage p.write =
      { libraries := (p.libraries.map (Text.lower ·.name)).toArray
        functions := (p.libraries.flatMap PlannedLibrary.followed).toArray } := by
  rw [importsOfImage, hp.sections_write h]
  by_cases hne : p.libraries = []
  · have hentry : p.importEntry = [0, 0] := by
      rw [importEntry, hne]
      rfl
    obtain ⟨directory, hread, haddress, -⟩ := h.directory_write hentry (by decide) (by decide)
    rw [walkImports_of_directory hread, importsBehind, haddress, hne]
    rfl
  · have hentry : p.importEntry = [p.importAddress, p.descriptorsSize] := by
      rw [importEntry, List.isEmpty_eq_false_iff.mpr hne]
      rfl
    have hlow := (hp.backs_importData h hne).1
    have hle := p.descriptorsSize_le
    obtain ⟨directory, hread, haddress, hsize⟩ :=
      h.directory_write hentry (by omega) (by omega)
    rw [walkImports_of_directory hread, h.bitness_write]
    exact hp.importsBehind_write h hne haddress hsize

/-! ## Images read back -/

theorem placed_planned (p : Plan) :
    p.placed.map PlacedSection.planned =
      p.sections ++ if p.libraries = [] then [] else [p.importSection] := by
  rw [placed, map_planned_place, allSections]
  by_cases hne : p.libraries = []
  · rw [if_pos hne, if_pos (List.isEmpty_iff.mpr hne)]
  · rw [if_neg hne, List.isEmpty_eq_false_iff.mpr hne]
    rfl

/-- Bytes behind the image count as an overlay only where there are sections. -/
theorem IsValid.overlaySize_write (hp : p.IsValid) :
    overlaySize (p.placed.map PlacedSection.entry) p.write.size =
      if p.sections = [] ∧ p.libraries = [] then 0 else p.overlay.length := by
  by_cases hnone : p.sections = [] ∧ p.libraries = []
  · have hplaced : p.placed = [] := by
      rw [placed, allSections, hnone.1, hnone.2]
      rfl
    rw [if_pos hnone, hplaced]
    rfl
  · have hne : p.allSections ≠ [] := by
      intro hempty
      obtain ⟨hsections, himports⟩ := List.append_eq_nil_iff.mp hempty
      refine hnone ⟨hsections, ?_⟩
      by_contra hlibraries
      rw [List.isEmpty_eq_false_iff.mpr hlibraries] at himports
      cases himports
    rw [if_neg hnone, overlaySize, placed, lastRawEnd?_place _ _ hne, hp.size_write]
    simp only
    omega

/-- What an image has of the plan that it was laid out from. The names of the libraries are kept
without case, and of the functions of each library those among its first fifty entries. -/
structure IsRead (p : Plan) (image : Image) : Prop where
  bitness : image.bitness = if p.is64Bit then 64 else 32
  sections : image.sections = p.placed.map PlacedSection.entry
  libraries (name : String) :
    name ∈ image.libraries ↔ ∃ l ∈ p.libraries, Text.lower l.name = name
  libraries_rise : image.libraries.Pairwise (· < ·)
  functions (name : String) :
    name ∈ image.functions ↔ ∃ l ∈ p.libraries, .named name ∈ l.functions.take 50
  functions_rise : image.functions.Pairwise (· < ·)
  overlay : image.overlay = if p.sections = [] ∧ p.libraries = [] then 0 else p.overlay.length
  fileSize : image.fileSize = p.bytes.length

theorem mem_followed {l : PlannedLibrary} {name : String} :
    name ∈ l.followed ↔ .named name ∈ l.functions.take 50 := by
  rw [PlannedLibrary.followed, List.mem_filterMap]
  constructor
  · rintro ⟨f, hf, hname⟩
    cases f with
    | named given => obtain rfl := Option.some.inj hname; exact hf
    | ordinal number => cases hname
  · intro hname
    exact ⟨_, hname, rfl⟩

theorem IsValid.isRead_imageOf (hp : p.IsValid) (path : String) :
    p.IsRead (imageOf p.write path (importsOfImage p.write)) where
  bitness := by
    rw [imageOf, hp.stands.bitness_write, bitness]
  sections := by
    rw [imageOf, hp.sections_write hp.stands]
  libraries := by
    intro name
    rw [imageOf, Text.mem_sortedSet, hp.importsOfImage_write hp.stands, List.mem_map]
  libraries_rise := Text.pairwise_sortedSet _
  functions := by
    intro name
    rw [imageOf, Text.mem_sortedSet, hp.importsOfImage_write hp.stands, List.mem_flatMap]
    simp only [mem_followed]
  functions_rise := Text.pairwise_sortedSet _
  overlay := by
    rw [imageOf, hp.sections_write hp.stands, hp.overlaySize_write]
  fileSize := by
    have hsize : p.write.size = p.bytes.length := List.size_toArray
    rw [imageOf, hsize]

/-- A plan that the fields of an image can hold is read back from its bytes, without a report: the
sections that were given, in order and where they were placed, that of the imports behind them if there
are any, exactly the names that were imported, and the size of the overlay. -/
theorem parse_write (hp : p.IsValid) (path : String) :
    ∃ image, parse p.write path = { outcome := .image image } ∧ image.path = path ∧ p.IsRead image ∧
      p.placed.map PlacedSection.planned =
        p.sections ++ if p.libraries = [] then [] else [p.importSection] := by
  refine ⟨imageOf p.write path (importsOfImage p.write), ?_, ?_, hp.isRead_imageOf path,
    p.placed_planned⟩
  · rw [parse_of_isImage hp.isImage_write, hp.importsOfImage_write hp.stands]
    rfl
  · rw [imageOf]

/-- An image of 64 bits with a section, a name and an ordinal of one library, and an overlay. -/
def sample : Plan where
  is64Bit := true
  sections := [{ name := ".text", data := [0xC3], characteristics := 0x60000020 }]
  libraries := [{ name := "KERNEL32.dll", functions := [.named "Sleep", .ordinal 7] }]
  overlay := [1, 2, 3]

theorem isValid_sample : sample.IsValid where
  sections := by
    intro s hs
    obtain rfl := List.mem_singleton.mp hs
    exact ⟨by simp, by simp, by simp, by norm_num⟩
  libraries := by
    intro l hl
    obtain rfl := List.mem_singleton.mp hl
    refine ⟨⟨by simp, by simp, by simp, by simp⟩, ?_⟩
    intro f hf
    rcases List.mem_pair.mp hf with rfl | rfl
    · exact ⟨by simp, by simp, by simp, by simp⟩
    · exact lt_of_lt_of_le (by decide) (le_topBit _)
  count := by decide
  fits := by
    have hplaces : ∀ s ∈ sample.placed,
        s.address + s.planned.memorySize ≤ 0x80000000 ∧ s.offset < 0x80000000 := by
      decide
    intro s hs
    exact ⟨(hplaces s hs).1, (hplaces s hs).2⟩

theorem parse_write_sample :
    sample.IsValid ∧ sample.placed.map (fun s => (s.address, s.offset)) =
      [(0x1000, 0x200), (0x2000, 0x400)] ∧
    ∃ image, parse sample.write "sample.exe" = { outcome := .image image } ∧
      image.path = "sample.exe" ∧ sample.IsRead image ∧
      sample.placed.map PlacedSection.planned =
        sample.sections ++ if sample.libraries = [] then [] else [sample.importSection] :=
  ⟨isValid_sample, rfl, parse_write isValid_sample "sample.exe"⟩

end Plan

end PeSignals.Image

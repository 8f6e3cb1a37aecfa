import Mathlib
import PeSignals.Image.Basic
import PeSignals.Proofs.Bytes.Cursor

/-!
# Which bytes are an image

The rules for the bytes of an image, stated on the bytes alone, and the reader's agreement with them:
it accepts exactly the bytes that keep the rules, decodes them field by field as the rules say, and
refuses all others for their structure. The structures may lie anywhere and on top of each other.
-/
namespace PeSignals.Image

open Bytes (Cursor ReadError littleEndian values window)

/-! ## The rules -/

/-- The offset of the PE header, given by the stub. -/
def headerOffset (data : ByteArray) : Nat := littleEndian data 0x3C 4

/-- The number of sections, given by the COFF header. -/
def sectionCount (data : ByteArray) : Nat := littleEndian data (headerOffset data + 6) 2

/-- The offset of the section table, behind an optional header of the announced size. -/
def tableOffset (data : ByteArray) : Nat :=
  headerOffset data + 24 + littleEndian data (headerOffset data + 20) 2

/-- A stub, and a PE header where it points to, up to the number of the word size. -/
structure HasHeader (data : ByteArray) : Prop where
  stub_fits : 64 ≤ data.size
  stub_signature : values data 0 2 = [0x4D, 0x5A]
  header_starts : headerOffset data < data.size - 4
  header_signature : values data (headerOffset data) 4 = [0x50, 0x45, 0, 0]
  header_ends : headerOffset data + 26 ≤ data.size

/-- The bytes of an image. A table without entries need not lie within the file. -/
structure IsImage (data : ByteArray) : Prop extends HasHeader data where
  table_ends : sectionCount data = 0 ∨ tableOffset data + 40 * sectionCount data ≤ data.size

/-- The text of a section name: its bytes without the zeros that end them, one character each. -/
def IsName (bytes : List UInt8) (name : String) : Prop :=
  ∃ kept zeros, bytes = kept ++ zeros ∧ (∀ b ∈ zeros, b = 0) ∧ kept.getLast? ≠ some 0 ∧
    name.toList = kept.map fun b => if b < 0x80 then Char.ofNat b.toNat else '\uFFFD'

/-- The entry of the section table at an offset. -/
structure IsEntry (data : ByteArray) (offset : Nat) (s : Section) : Prop where
  name : IsName (values data offset 8) s.name
  virtualSize : s.virtualSize = littleEndian data (offset + 8) 4
  virtualAddress : s.virtualAddress = littleEndian data (offset + 12) 4
  rawSize : s.rawSize = littleEndian data (offset + 16) 4
  rawPointer : s.rawPointer = littleEndian data (offset + 20) 4
  characteristics : s.characteristics = littleEndian data (offset + 36) 4

/-- What the bytes of an image say of it, its imports apart. -/
structure IsDecoded (data : ByteArray) (image : Image) : Prop where
  bitness : image.bitness = if littleEndian data (headerOffset data + 24) 2 = 0x20B then 64 else 32
  fileSize : image.fileSize = data.size
  length_sections : image.sections.length = sectionCount data
  sections : ∀ (k : Nat) (hk : k < image.sections.length),
    IsEntry data (tableOffset data + 40 * k) image.sections[k]
  overlay_nonneg : 0 ≤ image.overlay

/-- A fault that the reader gives a wording of its own. The only failed reads among them are those
that run past the end. -/
def Fault.IsGate : Fault → Prop
  | header (.truncatedCoffHeader cause) | sectionTable cause =>
    ∃ needed offset got, cause = .truncated needed offset got
  | header (.unguarded _) | unguarded _ => False
  | header _ => True

/-! ## Headers -/

/-- The header behind the PE signature at an offset. -/
def headerAt (data : ByteArray) (offset : Nat) : Header where
  bitness := if littleEndian data (offset + 24) 2 = magic64 then 64 else 32
  peHeaderOffset := offset
  numberOfSections := littleEndian data (offset + 6) 2
  sizeOfOptionalHeader := littleEndian data (offset + 20) 2
  optionalHeaderStart := (offset + 24 : Nat)
  fileSize := data.size

variable {data : ByteArray}

theorem readCoffHeader_of_le {offset : Nat} (h : offset + 26 ≤ data.size) :
    readCoffHeader data offset = .ok (headerAt data offset) := by
  have machine : offset + 4 + 2 ≤ data.size := by omega
  have sections : offset + 6 + 2 ≤ data.size := by omega
  have optional : offset + 20 + 2 ≤ data.size := by omega
  have magic : offset + 24 + 2 ≤ data.size := by omega
  simp only [readCoffHeader, Cursor.number_of_le machine, Cursor.number_of_le sections,
    Cursor.number_of_le optional, Cursor.number_of_le magic, bind, Except.bind, pure, Except.pure,
    Nat.add_assoc, Nat.reduceAdd, headerAt]

/-- Reads that follow each other at growing offsets fail where the first of them does not fit. -/
theorem readCoffHeader_of_lt {offset : Nat} (h : data.size < offset + 26) :
    ∃ start got, readCoffHeader data offset = .error (.truncated 2 start got) := by
  have fails (start : Nat) (hs : data.size < start + 2) := Cursor.number_of_lt Nat.two_pos hs
  by_cases machine : offset + 4 + 2 ≤ data.size
  · by_cases sections : offset + 6 + 2 ≤ data.size
    · by_cases optional : offset + 20 + 2 ≤ data.size
      · refine ⟨offset + 24, data.size - (offset + 24), ?_⟩
        simp only [readCoffHeader, Cursor.number_of_le machine, Cursor.number_of_le sections,
          Cursor.number_of_le optional, fails (offset + 24) h, bind, Except.bind, Nat.add_assoc,
          Nat.reduceAdd]
      · refine ⟨offset + 20, data.size - (offset + 20), ?_⟩
        simp only [readCoffHeader, Cursor.number_of_le machine, Cursor.number_of_le sections,
          fails (offset + 20) (by omega), bind, Except.bind, Nat.add_assoc, Nat.reduceAdd]
    · refine ⟨offset + 6, data.size - (offset + 6), ?_⟩
      simp only [readCoffHeader, Cursor.number_of_le machine, fails (offset + 6) (by omega), bind,
        Except.bind, Nat.add_assoc, Nat.reduceAdd]
  · refine ⟨offset + 4, data.size - (offset + 4), ?_⟩
    simp only [readCoffHeader, fails (offset + 4) (by omega), bind, Except.bind]

/-- The offset of the header is read without a gate of its own, but never outside the stub. -/
theorem readHeaderOffset (h : minimumSize ≤ data.size) :
    (⟨peOffsetField⟩ : Cursor data).number 4 = .ok (headerOffset data, ⟨peOffsetField + 4⟩) :=
  Cursor.number_of_le h

theorem readHeader_of_hasHeader (h : HasHeader data) :
    readHeader data = .ok (headerAt data (headerOffset data)) := by
  have hfits : ¬ data.size < minimumSize := Nat.not_lt.mpr h.stub_fits
  rw [readHeader, if_neg hfits, if_neg (not_not.mpr h.stub_signature), readHeaderOffset h.stub_fits]
  simp only
  rw [if_neg (Nat.not_le.mpr h.header_starts), if_neg (not_not.mpr h.header_signature),
    readCoffHeader_of_le h.header_ends]
  rfl

/-- A header that does not pass is refused by one of its gates. -/
theorem readHeader_refused (h : ¬ HasHeader data) :
    ∃ fault, readHeader data = .error fault ∧ (Fault.header fault).IsGate := by
  rw [readHeader]
  split_ifs with hsmall hstub
  · exact ⟨_, rfl, trivial⟩
  · exact ⟨_, rfl, trivial⟩
  · rw [readHeaderOffset (Nat.not_lt.mp hsmall)]
    simp only
    split_ifs with hstart hsignature
    · exact ⟨_, rfl, trivial⟩
    · exact ⟨_, rfl, trivial⟩
    · have hends : data.size < headerOffset data + 26 := by
        by_contra hends
        exact h ⟨Nat.not_lt.mp hsmall, not_not.mp hstub, Nat.not_le.mp hstart,
          not_not.mp hsignature, Nat.not_lt.mp hends⟩
      obtain ⟨start, got, hread⟩ := readCoffHeader_of_lt hends
      refine ⟨.truncatedCoffHeader (.truncated 2 start got), ?_, 2, start, got, rfl⟩
      exact congrArg (Except.mapError HeaderFault.truncatedCoffHeader) hread

/-! ## Section tables -/

/-- The section that an entry of the table at an offset describes. -/
def entryAt (data : ByteArray) (offset : Nat) : Section :=
  decodeSection (window data offset (offset + sectionHeaderSize))

/-- The sections that the `n` entries of a table from an offset on describe. -/
def entriesAt (data : ByteArray) (offset n : Nat) : List Section :=
  (List.range n).map fun k => entryAt data (offset + 40 * k)

theorem entriesAt_succ (offset n : Nat) :
    entriesAt data offset (n + 1) = entryAt data offset :: entriesAt data (offset + 40) n := by
  rw [entriesAt, List.range_succ_eq_map, List.map_cons, List.map_map]
  refine congrArg (entryAt data offset :: ·) (List.map_congr_left fun k _ => ?_)
  exact congrArg (entryAt data) (by omega)

theorem isName_dropTrailingZeros (bytes : List UInt8) :
    IsName bytes (Text.Ascii.ofBytes (dropTrailingZeros bytes)) := by
  refine ⟨dropTrailingZeros bytes, (bytes.reverse.takeWhile (· = 0)).reverse, ?_, ?_, ?_, ?_⟩
  · rw [dropTrailingZeros, ← List.reverse_append, List.takeWhile_append_dropWhile,
      List.reverse_reverse]
  · intro b hb
    simpa using List.mem_takeWhile_imp (List.mem_reverse.mp hb)
  · rw [dropTrailingZeros, List.getLast?_reverse]
    intro hzero
    have := List.head?_dropWhile_not (· = 0) bytes.reverse
    simp [hzero] at this
  · rw [Text.Ascii.ofBytes, String.toList_ofList]
    rfl

/-- A record is decoded from the bytes of the file, not only from those cut out for it. -/
theorem entryAt_eq (offset : Nat) :
    entryAt data offset =
      { name := Text.Ascii.ofBytes (dropTrailingZeros (values data offset 8))
        virtualSize := littleEndian data (offset + 8) 4
        virtualAddress := littleEndian data (offset + 12) 4
        rawSize := littleEndian data (offset + 16) 4
        rawPointer := littleEndian data (offset + 20) 4
        characteristics := littleEndian data (offset + 36) 4 } := by
  have name : values (window data offset (offset + sectionHeaderSize)) 0 8 = values data offset 8 :=
    Bytes.values_window data offset (by decide)
  have field {j : Nat} (h : j + 4 ≤ sectionHeaderSize) := Bytes.littleEndian_window data offset h
  rw [entryAt, decodeSection, name, field (by decide), field (by decide), field (by decide),
    field (by decide), field (by decide)]

theorem isEntry_entryAt (offset : Nat) : IsEntry data offset (entryAt data offset) := by
  rw [entryAt_eq]
  exact ⟨isName_dropTrailingZeros _, rfl, rfl, rfl, rfl, rfl⟩

theorem readSectionsFrom_of_le (offset n : Nat) (h : n = 0 ∨ offset + 40 * n ≤ data.size) :
    readSectionsFrom (⟨offset⟩ : Cursor data) n = .ok (entriesAt data offset n) := by
  induction n generalizing offset with
  | zero => rfl
  | succ n ih =>
    have hfirst : offset + sectionHeaderSize ≤ data.size := by
      change offset + 40 ≤ data.size
      omega
    have hrest := ih (offset + 40) (by omega)
    rw [readSectionsFrom, Cursor.take_of_le hfirst, entriesAt_succ]
    simp only [bind, Except.bind, sectionHeaderSize, hrest, pure, Except.pure]
    rfl

/-- A table that runs past the end fails at the header that is cut. -/
theorem readSectionsFrom_of_lt (offset n : Nat) (hn : n ≠ 0) (h : data.size < offset + 40 * n) :
    ∃ start got,
      readSectionsFrom (⟨offset⟩ : Cursor data) n = .error (.truncated 40 start got) := by
  induction n generalizing offset with
  | zero => exact absurd rfl hn
  | succ n ih =>
    by_cases hfirst : offset + sectionHeaderSize ≤ data.size
    · have hle : offset + 40 ≤ data.size := hfirst
      obtain ⟨start, got, hrest⟩ := ih (offset + 40) (by omega) (by omega)
      refine ⟨start, got, ?_⟩
      rw [readSectionsFrom, Cursor.take_of_le hfirst]
      simp only [bind, Except.bind, sectionHeaderSize, hrest]
    · refine ⟨offset, data.size - offset, ?_⟩
      rw [readSectionsFrom, Cursor.take_of_lt (by decide) (Nat.not_le.mp hfirst)]
      rfl

/-- The table offset fits into a position whatever the header says, because both of its fields are
narrower. -/
theorem seek_tableOffset :
    (Cursor.start data).seek (headerAt data (headerOffset data)).sectionTableOffset =
      .ok ⟨tableOffset data⟩ := by
  have hoffset : (headerAt data (headerOffset data)).sectionTableOffset = (tableOffset data : Int) :=
    rfl
  have hheader : headerOffset data < 256 ^ 4 := Bytes.littleEndian_lt data _ _
  have hsize := Bytes.littleEndian_lt data (headerOffset data + 20) 2
  have hlimit : (tableOffset data : Int) < Bytes.positionLimit := by
    simp only [tableOffset, Bytes.positionLimit]
    omega
  rw [hoffset, Cursor.seek_of_lt _ (Int.natCast_nonneg _) hlimit, Int.toNat_natCast]

theorem readSections_headerAt :
    readSections data (headerAt data (headerOffset data)) =
      readSectionsFrom (⟨tableOffset data⟩ : Cursor data) (sectionCount data) := by
  rw [readSections, seek_tableOffset]
  rfl

/-! ## Layouts and images -/

theorem readLayout_of_hasHeader (h : HasHeader data) :
    readLayout data = ((readSectionsFrom (⟨tableOffset data⟩ : Cursor data)
      (sectionCount data)).mapError Fault.ofTableRead).map
        (headerAt data (headerOffset data), ·) := by
  rw [readLayout, readHeader_of_hasHeader h, ← readSections_headerAt]
  cases hread : readSections data (headerAt data (headerOffset data)) with
  | error cause => simp only [bind, Except.bind, Except.mapError, Except.map, hread]
  | ok sections => simp only [bind, Except.bind, Except.mapError, Except.map, hread, pure, Except.pure]

/-- The layout of the bytes of an image. -/
theorem readLayout_of_isImage (h : IsImage data) :
    readLayout data = .ok (headerAt data (headerOffset data),
      entriesAt data (tableOffset data) (sectionCount data)) := by
  rw [readLayout_of_hasHeader h.toHasHeader, readSectionsFrom_of_le _ _ h.table_ends]
  rfl

/-- All other bytes fail at a gate, never at a seek. -/
theorem readLayout_refused (h : ¬ IsImage data) :
    ∃ fault, readLayout data = .error fault ∧ fault.IsGate := by
  by_cases hheader : HasHeader data
  · have hcount : sectionCount data ≠ 0 := fun h0 => h ⟨hheader, .inl h0⟩
    have hends : data.size < tableOffset data + 40 * sectionCount data := by
      by_contra hends
      exact h ⟨hheader, .inr (Nat.not_lt.mp hends)⟩
    obtain ⟨start, got, hread⟩ := readSectionsFrom_of_lt _ _ hcount hends
    refine ⟨.sectionTable (.truncated 40 start got), ?_, 40, start, got, rfl⟩
    rw [readLayout_of_hasHeader hheader, hread]
    rfl
  · obtain ⟨fault, hread, hgate⟩ := readHeader_refused hheader
    refine ⟨.header fault, ?_, hgate⟩
    rw [readLayout, hread]
    rfl

theorem overlaySize_nonneg (sections : List Section) (fileSize : Int) :
    0 ≤ overlaySize sections fileSize := by
  unfold overlaySize
  split
  · exact le_refl 0
  · exact le_max_left 0 _

/-- The image that accepted bytes are read as. The walk over the imports gives its two name lists and
nothing else. -/
def imageOf (data : ByteArray) (path : String) (imports : Imports) : Image where
  path
  bitness := (headerAt data (headerOffset data)).bitness
  sections := entriesAt data (tableOffset data) (sectionCount data)
  libraries := Text.sortedSet imports.libraries.toList
  functions := Text.sortedSet imports.functions.toList
  overlay := overlaySize (entriesAt data (tableOffset data) (sectionCount data)) data.size
  fileSize := data.size

/-- The walk over the imports of accepted bytes. -/
def importsOfImage (data : ByteArray) : Imports :=
  walkImports (Cursor.start data) (headerAt data (headerOffset data))
    (entriesAt data (tableOffset data) (sectionCount data))

/-- A file with a header and a whole table is accepted, whatever imports could be collected. -/
theorem parse_of_isImage (h : IsImage data) (path : String) :
    parse data path = { outcome := .image (imageOf data path (importsOfImage data))
                        diagnostics := (importsOfImage data).diagnostic?.toList } := by
  rw [parse, readLayout_of_isImage h]
  rfl

theorem isDecoded_imageOf (path : String) (imports : Imports) :
    IsDecoded data (imageOf data path imports) where
  bitness := rfl
  fileSize := rfl
  length_sections := by rw [imageOf, entriesAt, List.length_map, List.length_range]
  sections := by
    intro k hk
    have hentry : (imageOf data path imports).sections[k] =
        entryAt data (tableOffset data + 40 * k) := by
      simp only [imageOf, entriesAt, List.getElem_map, List.getElem_range]
    rw [hentry]
    exact isEntry_entryAt _
  overlay_nonneg := overlaySize_nonneg _ _

theorem parse_of_not_isImage (h : ¬ IsImage data) (path : String) :
    ∃ fault : Fault, readLayout data = .error fault ∧ fault.IsGate ∧
      (parse data path).outcome =
        .refused { path, reason := .structural, detail := fault.message } := by
  obtain ⟨fault, hread, hgate⟩ := readLayout_refused h
  refine ⟨fault, hread, hgate, ?_⟩
  rw [parse, hread]

theorem isImage_of_parse {path : String} {image : Image}
    (h : (parse data path).outcome = .image image) : IsImage data := by
  by_contra hnot
  obtain ⟨fault, -, -, hrefused⟩ := parse_of_not_isImage hnot path
  rw [h] at hrefused
  cases hrefused

theorem path_of_parse {path : String} {image : Image}
    (h : (parse data path).outcome = .image image) : image.path = path := by
  rw [parse_of_isImage (isImage_of_parse h)] at h
  obtain rfl := Outcome.image.inj h
  rfl

/-- Bytes are accepted exactly if they keep the rules. What is accepted is decoded as the rules say,
what is not is refused for its structure by one of the gates, and a walk over the imports that fails
changes neither. -/
theorem parse_image_iff_isImage (data : ByteArray) (path : String) :
    ((∃ image, (parse data path).outcome = .image image) ↔ IsImage data) ∧
    (∀ image, (parse data path).outcome = .image image →
      image.path = path ∧ IsDecoded data image) ∧
    (∀ refusal, (parse data path).outcome = .refused refusal →
      refusal.path = path ∧ refusal.reason = .structural ∧
        ∃ fault : Fault, readLayout data = .error fault ∧ fault.IsGate ∧
          refusal.detail = fault.message) ∧
    ∀ header sections cause, readLayout data = .ok (header, sections) →
      (walkImports (Cursor.start data) header sections).ending = .stopped cause →
        ∃ image, (parse data path).outcome = .image image ∧ IsDecoded data image := by
  by_cases h : IsImage data
  · have hparse := congrArg Reading.outcome (parse_of_isImage h path)
    refine ⟨iff_of_true ⟨_, hparse⟩ h, ?_, ?_, ?_⟩
    · intro image himage
      obtain rfl := Outcome.image.inj (hparse.symm.trans himage)
      exact ⟨rfl, isDecoded_imageOf path _⟩
    · intro refusal hrefusal
      exact Outcome.noConfusion (hparse.symm.trans hrefusal)
    · intro _ _ _ _ _
      exact ⟨_, hparse, isDecoded_imageOf path _⟩
  · obtain ⟨fault, hread, hgate, hparse⟩ := parse_of_not_isImage h path
    refine ⟨iff_of_false ?_ h, ?_, ?_, ?_⟩
    · rintro ⟨image, himage⟩
      exact Outcome.noConfusion (hparse.symm.trans himage)
    · intro image himage
      exact Outcome.noConfusion (hparse.symm.trans himage)
    · intro refusal hrefusal
      obtain rfl := Outcome.refused.inj (hparse.symm.trans hrefusal)
      exact ⟨rfl, rfl, fault, hread, hgate, rfl⟩
    · intro header sections cause hlayout
      rw [hread] at hlayout
      cases hlayout

end PeSignals.Image

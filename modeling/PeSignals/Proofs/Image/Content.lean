import Mathlib
import PeSignals.Image.Content
import PeSignals.Image.File
import PeSignals.Proofs.Bytes.Search
import PeSignals.Proofs.Decimal.Double
import PeSignals.Proofs.Image.Acceptance

/-!
# What the file of an image answers

A literal occurs in a file exactly if its bytes stand somewhere in it, whatever their case. The sections of
an accepted image have positions and sizes that a file can always be read at, so measuring them never ends
early: there is one entropy for each section, in table order.
-/
namespace PeSignals.Image

open Bytes (Cursor Search suffix window)
open Decimal (NonNegative)
open Entropy (Source measureThrough sample sampleSize shannon)
open Files (FileTree)
open Text.Ascii (foldByte toByte)

theorem ofFile_of_read {t : FileTree} {path : String} {data : ByteArray} (h : t.read path = .ok data) :
    ofFile t path = parse data path := by
  rw [ofFile, h]

theorem ofFile_of_error {t : FileTree} {path : String} {e : Files.FileError} (h : t.read path = .error e) :
    (ofFile t path).outcome = .refused { path, reason := .resource, detail := e.message } := by
  rw [ofFile, h]

theorem exists_read_of_ofFile {t : FileTree} {path : String} {image : Image}
    (h : (ofFile t path).outcome = .image image) :
    ∃ data, t.read path = .ok data ∧ (parse data path).outcome = .image image := by
  cases hread : t.read path with
  | error e => cases h.symm.trans (ofFile_of_error hread)
  | ok data =>
    rw [ofFile_of_read hread] at h
    exact ⟨data, rfl, h⟩

/-! ## Literals -/

/-- Reading a file chunk by chunk finds what one look at all of it finds, with ASCII letters folded. -/
theorem holds_eq_true_iff {t : FileTree} {image : Image} {data : ByteArray}
    (hread : t.read image.path = .ok data) {literal : String} (h : literal ≠ "") :
    (image.holds t literal).value = true ↔
      literal.toList.map (foldByte ∘ toByte) <:+: data.data.toList.map foldByte := by
  have hneedle : 0 < (Text.Ascii.encode literal).size := by
    rw [Text.Ascii.encode, ← ByteArray.size_data, List.size_toArray, List.length_map,
      List.length_pos_iff]
    exact fun hnil => h (String.toList_eq_nil_iff.mp hnil)
  have hfound := ({ needle := Text.Ascii.encode literal } : Search).found_iff hneedle
    (by simp) (Cursor.start data)
  have hview : (suffix (Text.Ascii.encode literal) 0).map foldByte =
      literal.toList.map (foldByte ∘ toByte) := by
    rw [suffix, Text.Ascii.encode, List.drop_zero, List.toList_toArray, List.map_map]
  rw [Image.holds, if_neg h, hread, ← hview]
  exact hfound

/-! ## Samples -/

/-- Whether a file can be read at the position and size of a section. -/
structure Section.Fits (s : Section) : Prop where
  rawSize : 0 ≤ s.rawSize
  rawPointer : 0 ≤ s.rawPointer
  rawPointer_lt : s.rawPointer < Bytes.positionLimit

/-- The stored bytes of a section up to the size of a sample, as far as the file has them. -/
def stored (data : ByteArray) (s : Section) : ByteArray :=
  window data s.rawPointer.toNat (s.rawPointer.toNat + (min s.rawSize sampleSize).toNat)

/-- The entropy of the stored bytes of a section. -/
def entropyOf (data : ByteArray) (s : Section) : Float :=
  if s.rawSize = 0 then 0 else shannon (stored data s)

theorem window_min (data : ByteArray) (start n : Nat) :
    window data start (start + min n (data.size - start)) = window data start (start + n) := by
  apply ByteArray.ext
  rw [window, window, ByteArray.data_extract, ByteArray.data_extract, Array.extract_eq_extract_right,
    ByteArray.size_data]
  omega

/-- A sample is what the section stores, wherever the source stood before. -/
theorem fst_sample_of_fits {s : Section} (h : s.Fits) (source : Source) {data : ByteArray}
    (c : Cursor data) : (sample source c s).1 = .ok (stored data s) := by
  have hposition : source.position s.rawPointer = .ok s.rawPointer.toNat := by
    have hlow : -Bytes.positionLimit ≤ s.rawPointer := le_trans (by decide) h.rawPointer
    have hpointer : ¬ s.rawPointer < 0 := Int.not_lt.mpr h.rawPointer
    cases source <;>
      simp only [Source.position, h.rawPointer_lt, hlow, decide_true, Bool.and_true, Bool.not_true,
        Bool.false_eq_true, if_false, if_neg hpointer]
  have hlimit : source.limit (min s.rawSize sampleSize) =
      .ok (some (min s.rawSize sampleSize).toNat) := by
    have hsize : 0 ≤ min s.rawSize sampleSize := le_min h.rawSize (by decide)
    have hlow : ¬ min s.rawSize sampleSize < -Bytes.positionLimit := by
      have hpos : (0 : Int) ≤ Bytes.positionLimit := by decide
      omega
    rw [Source.limit, if_neg hlow, if_neg (by omega), Bytes.Limit.ofInt, if_neg (by omega)]
  rw [sample, hposition]
  simp only [hlimit]
  exact congrArg Except.ok (window_min data _ _)

/-- A measurement comes to one result, wherever the source stood before. -/
theorem fst_measureThrough_of_fits {s : Section} (h : s.Fits) (source : Source) {data : ByteArray}
    (c : Cursor data) : (measureThrough source c s).1 = .ok { entropy := entropyOf data s } := by
  have hsample : sample source c s = (.ok (stored data s), (sample source c s).2) :=
    Prod.ext (fst_sample_of_fits h source c) rfl
  rw [measureThrough, entropyOf, hsample]
  split_ifs <;> rfl

/-- A section whose place can be expressed is measured without a report. -/
theorem ofSection_of_fits {s : Section} (h : s.Fits) (source : Source) (data : ByteArray) :
    Entropy.ofSection source data s = .ok { entropy := entropyOf data s } :=
  fst_measureThrough_of_fits h source (Cursor.start data)

theorem measureSections_of_fits {sections : List Section} (h : ∀ s ∈ sections, s.Fits)
    {data : ByteArray} (c : Cursor data) :
    measureSections c sections = .ok ⟨sections.map fun s => (s, entropyOf data s), []⟩ := by
  induction sections generalizing c with
  | nil => rfl
  | cons s rest ih =>
    have hfirst : measureThrough .file c s =
        (.ok { entropy := entropyOf data s }, (measureThrough .file c s).2) :=
      Prod.ext (fst_measureThrough_of_fits (h s List.mem_cons_self) .file c) rfl
    have hrest := ih fun s hs => h s (List.mem_cons_of_mem _ hs)
    rw [measureSections, hfirst]
    simp only [hrest]
    rfl

/-! ## Entropies -/

/-- An entropy is never negative, so it always has a bar. -/
theorem nonNegative_ofCounts (counts : Array Nat) : NonNegative (Entropy.ofCounts counts) := by
  rw [Entropy.ofCounts]
  split_ifs with hpos
  · exact Decimal.nonNegative_of_pos hpos
  · exact Decimal.nonNegative_zero

theorem nonNegative_entropyOf (data : ByteArray) (s : Section) : NonNegative (entropyOf data s) := by
  rw [entropyOf]
  split_ifs
  · exact Decimal.nonNegative_zero
  · exact nonNegative_ofCounts _

/-! ## Accepted images -/

/-- The fields of a section header are too small to lie beyond the positions. -/
theorem fits_entryAt (data : ByteArray) (offset : Nat) : (entryAt data offset).Fits := by
  have hpointer := Bytes.littleEndian_lt data (offset + 20) 4
  rw [entryAt_eq]
  refine ⟨Int.natCast_nonneg _, Int.natCast_nonneg _, ?_⟩
  change ((Bytes.littleEndian data (offset + 20) 4 : Nat) : Int) < 0x8000000000000000
  omega

theorem fits_of_parse {data : ByteArray} {path : String} {image : Image}
    (h : (parse data path).outcome = .image image) : ∀ s ∈ image.sections, s.Fits := by
  rw [parse_of_isImage (isImage_of_parse h)] at h
  obtain rfl := Outcome.image.inj h
  intro s hs
  obtain ⟨k, -, rfl⟩ := List.mem_map.mp hs
  exact fits_entryAt data _

/-- The file of an accepted image may have changed, or be gone, when its sections are measured. -/
theorem sectionEntropies_of_parse {data : ByteArray} {path : String} {image : Image}
    (h : (parse data path).outcome = .image image) (t : FileTree) :
    ∃ measured, image.sectionEntropies t = .ok measured ∧
      ((∃ e, t.read path = .error e ∧ measured.value = image.sections.map fun s => (s, 0)) ∨
        ∃ now, t.read path = .ok now ∧
          measured.value = image.sections.map fun s => (s, entropyOf now s)) := by
  rw [sectionEntropies, path_of_parse h]
  cases hread : t.read path with
  | error e => exact ⟨_, rfl, .inl ⟨e, rfl, rfl⟩⟩
  | ok now =>
    exact ⟨_, measureSections_of_fits (fits_of_parse h) (Cursor.start now), .inr ⟨now, rfl, rfl⟩⟩

end PeSignals.Image

import Mathlib
import PeSignals.Proofs.Bytes.Histogram
import PeSignals.Proofs.Image.Content

/-!
# Entropies of sections

The entropy of a section is that of a window of the file, and it is computed from how often each byte value
occurs in the window. So files may differ everywhere else, and within the window in the order of the bytes.
A measurement leaves the file at another position, but none depends on the position that it finds: sections
that are measured through one open file have the entropies that each of them has when it is measured alone.

Where a section fits into a file, no read of it is refused. Fields of 32 bits always fit.
-/
namespace PeSignals.Image

open Bytes (Counts Cursor histogram)
open Entropy (Source measureThrough)
open Files (FileTree)

/-! ## Windows -/

/-- The entropy of a section is told by the counts of the bytes in its window. -/
theorem entropyOf_of_perm {data other : ByteArray} {s : Section}
    (h : (stored data s).data.toList.Perm (stored other s).data.toList) :
    entropyOf data s = entropyOf other s := by
  have hcounts : histogram (stored data s) = histogram (stored other s) := Bytes.histogram_eq_iff.mpr h
  rw [entropyOf, entropyOf, Entropy.shannon, Entropy.shannon, hcounts]

/-- Two files whose windows for a section hold the same bytes, in whatever order, give it the same entropy to
the last bit, wherever they stood before. It is computed from the histogram of the window, whose 256 entries
count the occurrences of each byte value and add up to the number of bytes, and which is the sum of the
histograms of the parts of a window. -/
theorem measureThrough_eq_of_perm {s : Section} (hs : s.Fits) (source : Source) {data other : ByteArray}
    (c : Cursor data) (c' : Cursor other)
    (h : (stored data s).data.toList.Perm (stored other s).data.toList) :
    (measureThrough source c s).1 = (measureThrough source c' s).1 ∧
    (measureThrough source c s).1 =
      .ok { entropy := if s.rawSize = 0 then 0 else Entropy.ofCounts (histogram (stored data s)) } ∧
    (∀ bytes : ByteArray, Counts bytes (histogram bytes)) ∧
    ∀ bytes more : ByteArray,
      histogram (bytes ++ more) = Array.zipWith (· + ·) (histogram bytes) (histogram more) := by
  have hfirst := fst_measureThrough_of_fits hs source c
  have hsecond := fst_measureThrough_of_fits hs source c'
  refine ⟨?_, hfirst, Bytes.counts_histogram, Bytes.histogram_append⟩
  rw [hfirst, hsecond, entropyOf_of_perm h]

/-- Windows of two bytes, the second turned round and in a longer file that stands elsewhere. -/
theorem measureThrough_eq_of_perm_turned :
    let s : Section := { rawSize := 2, rawPointer := 1 }
    let data : ByteArray := ⟨#[0, 1, 2]⟩
    let other : ByteArray := ⟨#[7, 2, 1, 9, 9]⟩
    s.Fits ∧ (stored data s).data.toList.Perm (stored other s).data.toList ∧
      (measureThrough .memory (Cursor.start data) s).1 =
        (measureThrough .memory (⟨3⟩ : Cursor other) s).1 := by
  intro s data other
  have hs : s.Fits := ⟨by decide, by decide, by decide⟩
  have hperm : (stored data s).data.toList.Perm (stored other s).data.toList := by decide
  exact ⟨hs, hperm, (measureThrough_eq_of_perm hs .memory _ _ hperm).1⟩

/-! ## All sections and one section -/

/-- How what was measured of all sections of an image goes together with what each of them has when it is
measured alone. -/
structure MeasuresEach (image : Image) (t : FileTree) (batch : Traced (List (Section × Float))) : Prop where
  sections : batch.value.map (·.1) = image.sections
  alone : ∀ m ∈ batch.value, image.sectionEntropy t m.1 = .ok ⟨m.2, batch.diagnostics⟩
  opened : ∀ data, t.read image.path = .ok data →
    batch.diagnostics = [] ∧ ∀ m ∈ batch.value, m.2 = entropyOf data m.1
  unopened : ∀ e, t.read image.path = .error e →
    batch.diagnostics = [reopenFailureLine image.path e] ∧ ∀ m ∈ batch.value, m.2 = 0

/-- A file that cannot be opened again counts as entropy zero, with a line that says so. -/
theorem sectionEntropy_of_error {image : Image} {t : FileTree} {e : Files.FileError}
    (h : t.read image.path = .error e) (s : Section) :
    image.sectionEntropy t s = .ok ⟨0, [reopenFailureLine image.path e]⟩ := by
  rw [sectionEntropy, h]

theorem sectionEntropy_of_read {image : Image} {t : FileTree} {data : ByteArray}
    (h : t.read image.path = .ok data) {s : Section} (hs : s.Fits) :
    image.sectionEntropy t s = .ok ⟨entropyOf data s, []⟩ := by
  rw [sectionEntropy, h]
  simp only [ofSection_of_fits hs]
  rfl

theorem map_fst_map (sections : List Section) (f : Section → Float) :
    (sections.map fun s => (s, f s)).map (·.1) = sections := by
  rw [List.map_map]
  exact List.map_id _

/-- Whatever has become of the file of an image, its sections are all measured, in table order, and each has
the entropy that it has when it is measured alone. A file that cannot be opened is reported once for all
sections together, and once for each section that is measured alone. -/
theorem sectionEntropies_measuresEach {image : Image} (h : ∀ s ∈ image.sections, s.Fits) (t : FileTree) :
    ∃ batch, image.sectionEntropies t = .ok batch ∧ MeasuresEach image t batch := by
  cases hread : t.read image.path with
  | error e =>
    refine ⟨⟨image.sections.map fun s => (s, 0), [reopenFailureLine image.path e]⟩, ?_,
      map_fst_map _ _, ?_, ?_, ?_⟩
    · rw [sectionEntropies, hread]
    · exact List.forall_mem_map.mpr fun s _ => sectionEntropy_of_error hread s
    · intro data hdata
      cases hread.symm.trans hdata
    · intro e' he'
      obtain rfl := Except.error.inj (hread.symm.trans he')
      exact ⟨rfl, List.forall_mem_map.mpr fun _ _ => rfl⟩
  | ok data =>
    refine ⟨⟨image.sections.map fun s => (s, entropyOf data s), []⟩, ?_, map_fst_map _ _, ?_, ?_, ?_⟩
    · rw [sectionEntropies, hread]
      exact measureSections_of_fits h (Cursor.start data)
    · exact List.forall_mem_map.mpr fun s hs => sectionEntropy_of_read hread (h s hs)
    · intro data' hdata'
      obtain rfl := Except.ok.inj (hread.symm.trans hdata')
      exact ⟨rfl, List.forall_mem_map.mpr fun _ _ => rfl⟩
    · intro e he
      cases hread.symm.trans he

/-- An image whose last section lies as far behind the end of its file as 32-bit fields can tell. -/
def farImage : Image where
  path := "far.exe"
  sections := [{ name := ".text", rawSize := 2, rawPointer := 1 },
    { name := ".far", rawSize := 4294967295, rawPointer := 4294967295 }]

theorem fits_farImage : ∀ s ∈ farImage.sections, s.Fits := by
  intro s hs
  simp only [farImage, List.mem_cons, List.not_mem_nil, or_false] at hs
  rcases hs with rfl | rfl
  · exact ⟨by decide, by decide, by decide⟩
  · exact ⟨by decide, by decide, by decide⟩

/-- The file of the image holds three bytes, or a directory has taken its place. -/
theorem sectionEntropies_measuresEach_far :
    (∀ s ∈ farImage.sections, s.Fits) ∧
    (∃ batch, farImage.sectionEntropies { files := [(["far.exe"], ⟨#[0, 1, 2]⟩)] } = .ok batch ∧
      MeasuresEach farImage { files := [(["far.exe"], ⟨#[0, 1, 2]⟩)] } batch) ∧
    ∃ batch, farImage.sectionEntropies { directories := [["far.exe"]] } = .ok batch ∧
      MeasuresEach farImage { directories := [["far.exe"]] } batch :=
  ⟨fits_farImage, sectionEntropies_measuresEach fits_farImage _,
    sectionEntropies_measuresEach fits_farImage _⟩

end PeSignals.Image

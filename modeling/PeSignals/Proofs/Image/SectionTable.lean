import Mathlib
import PeSignals.Image.Section

/-!
# The map of a section table and the bytes behind it

An address leads to a file offset through the first section that occupies it. Only where sections overlap
does their order matter, and addresses share an offset only where data do. The bytes behind the data are
those at or past every raw end, so their number hangs on the greatest raw end alone.
-/
namespace PeSignals.Image

open scoped Function

/-! ## Ranges -/

namespace Section

variable {s : Section}

/-- The addresses that a section occupies once mapped. -/
def addresses (s : Section) : Set Int :=
  Set.Ico s.virtualAddress (s.virtualAddress + s.virtualSize)

/-- The file offsets from the stored bytes of a section on, as many as it occupies addresses. -/
def offsets (s : Section) : Set Int := Set.Ico s.rawPointer (s.rawPointer + s.virtualSize)

def offsetAt (s : Section) (rva : Int) : Int := rva - s.virtualAddress + s.rawPointer

theorem contains_iff {rva : Int} : s.contains rva = true ↔ rva ∈ s.addresses := by
  rw [contains, Bool.and_eq_true, decide_eq_true_iff, decide_eq_true_iff]
  rfl

theorem contains_eq_false_iff {rva : Int} : s.contains rva = false ↔ rva ∉ s.addresses := by
  rw [← contains_iff, Bool.not_eq_true]

theorem offsetAt_mem_offsets {rva : Int} (h : rva ∈ s.addresses) : s.offsetAt rva ∈ s.offsets := by
  obtain ⟨hlow, hhigh⟩ := h
  rw [offsetAt]
  constructor <;> omega

theorem offsetAt_injective (s : Section) : Function.Injective s.offsetAt := by
  intro rva other h
  rw [offsetAt, offsetAt] at h
  omega

end Section

/-! ## Addresses -/

/-- Whether a section decides on an address: it occupies the address, and no section before it does. -/
def Decides (sections : List Section) (rva : Int) (s : Section) : Prop :=
  ∃ before after, sections = before ++ s :: after ∧ rva ∈ s.addresses ∧
    ∀ t ∈ before, rva ∉ t.addresses

theorem Decides.mem {sections : List Section} {rva : Int} {s : Section} (h : Decides sections rva s) :
    s ∈ sections ∧ rva ∈ s.addresses := by
  obtain ⟨before, after, rfl, hin, -⟩ := h
  exact ⟨List.mem_append_right _ List.mem_cons_self, hin⟩

/-- The first section that holds an address decides. -/
theorem fileOffset?_eq_some_iff {sections : List Section} {rva offset : Int} :
    fileOffset? sections rva = some offset ↔
      ∃ s, Decides sections rva s ∧ offset = s.offsetAt rva := by
  have hfirst (s : Section) :
      sections.find? (·.contains rva) = some s ↔ Decides sections rva s := by
    simp only [List.find?_eq_some_iff_append, Section.contains_iff, Bool.not_eq_true',
      Section.contains_eq_false_iff, Decides]
    exact ⟨fun ⟨hin, before, after, hsplit, hnone⟩ => ⟨before, after, hsplit, hin, hnone⟩,
      fun ⟨before, after, hsplit, hin, hnone⟩ => ⟨hin, before, after, hsplit, hnone⟩⟩
  rw [fileOffset?, Option.map_eq_some_iff]
  simp only [hfirst]
  exact exists_congr fun s => and_congr_right fun _ => eq_comm

theorem fileOffset?_eq_none_iff {sections : List Section} {rva : Int} :
    fileOffset? sections rva = none ↔ ∀ s ∈ sections, rva ∉ s.addresses := by
  rw [fileOffset?, Option.map_eq_none_iff, List.find?_eq_none]
  simp only [Section.contains_iff]

/-- Sections further on have no say in an address that is mapped already. -/
theorem fileOffset?_append {sections : List Section} {rva offset : Int}
    (h : fileOffset? sections rva = some offset) (more : List Section) :
    fileOffset? (sections ++ more) rva = some offset := by
  obtain ⟨s, ⟨before, after, rfl, hin, hnone⟩, rfl⟩ := fileOffset?_eq_some_iff.mp h
  exact fileOffset?_eq_some_iff.mpr ⟨s, ⟨before, after ++ more, by simp, hin, hnone⟩, rfl⟩

/-- Sections that share no address need no order: the one that occupies an address decides on it. -/
theorem decides_iff_mem {sections : List Section}
    (h : sections.Pairwise (Disjoint on Section.addresses)) {rva : Int} {s : Section} :
    Decides sections rva s ↔ s ∈ sections ∧ rva ∈ s.addresses := by
  refine ⟨Decides.mem, ?_⟩
  rintro ⟨hs, hin⟩
  obtain ⟨before, after, rfl⟩ := List.append_of_mem hs
  refine ⟨before, after, rfl, hin, fun t ht hshared => ?_⟩
  have hapart := (List.pairwise_append.mp h).2.2 t ht s List.mem_cons_self
  exact Set.disjoint_left.mp hapart hshared hin

/-- Where sections do not overlap, their order does not matter. -/
theorem fileOffset?_perm {sections other : List Section} (hperm : other.Perm sections)
    (h : sections.Pairwise (Disjoint on Section.addresses)) (rva : Int) :
    fileOffset? other rva = fileOffset? sections rva := by
  have hother : other.Pairwise (Disjoint on Section.addresses) :=
    (hperm.pairwise_iff fun hst => hst.symm).mpr h
  refine Option.ext fun offset => ?_
  rw [fileOffset?_eq_some_iff, fileOffset?_eq_some_iff]
  simp only [decides_iff_mem hother, decides_iff_mem h, hperm.mem_iff]

/-- Sections whose data are apart lead different addresses to different offsets, also where the sections
themselves overlap. -/
theorem fileOffset?_inj {sections : List Section}
    (h : sections.Pairwise (Disjoint on Section.offsets)) {rva other offset : Int}
    (hrva : fileOffset? sections rva = some offset)
    (hother : fileOffset? sections other = some offset) : rva = other := by
  obtain ⟨s, hs, rfl⟩ := fileOffset?_eq_some_iff.mp hrva
  obtain ⟨t, ht, hshared⟩ := fileOffset?_eq_some_iff.mp hother
  by_cases hsame : s = t
  · subst hsame
    exact s.offsetAt_injective hshared
  · have hapart := h.forall hs.mem.1 ht.mem.1 hsame
    have hin := Section.offsetAt_mem_offsets ht.mem.2
    rw [← hshared] at hin
    exact absurd hin (Set.disjoint_left.mp hapart (Section.offsetAt_mem_offsets hs.mem.2))

/-- Whether a section table maps addresses as its order and its ranges say. -/
structure MapsAddresses (sections : List Section) : Prop where
  mapped : ∀ rva offset, fileOffset? sections rva = some offset ↔
    ∃ s, Decides sections rva s ∧ offset = rva - s.virtualAddress + s.rawPointer
  unmapped : ∀ rva, fileOffset? sections rva = none ↔ ∀ s ∈ sections, rva ∉ s.addresses
  appended : ∀ more rva offset, fileOffset? sections rva = some offset →
    fileOffset? (sections ++ more) rva = some offset
  reordered : sections.Pairwise (Disjoint on Section.addresses) →
    ∀ other, other.Perm sections → ∀ rva, fileOffset? other rva = fileOffset? sections rva
  injective : sections.Pairwise (Disjoint on Section.offsets) →
    ∀ rva other offset, fileOffset? sections rva = some offset →
      fileOffset? sections other = some offset → rva = other

/-- Every section table does. -/
theorem mapsAddresses (sections : List Section) : MapsAddresses sections where
  mapped := fun _ _ => fileOffset?_eq_some_iff
  unmapped := fun _ => fileOffset?_eq_none_iff
  appended := fun more _ _ h => fileOffset?_append h more
  reordered := fun h _ hperm rva => fileOffset?_perm hperm h rva
  injective := fun h _ _ _ hrva hother => fileOffset?_inj h hrva hother

/-- Two sections that touch, the first with data from the start of the file on and the second up to past
four gigabytes. -/
theorem mapsAddresses_touching :
    let sections : List Section :=
      [{ virtualAddress := 0x1000, virtualSize := 0x1000, rawPointer := 0 },
        { virtualAddress := 0x2000, virtualSize := 0xFFFFFFFF, rawPointer := 0x1000 }]
    sections.Pairwise (Disjoint on Section.addresses) ∧
      sections.Pairwise (Disjoint on Section.offsets) ∧
      fileOffset? sections 0x1000 = some 0 ∧ fileOffset? sections 0x100001FFF = none ∧
      (∀ rva, fileOffset? sections.reverse rva = fileOffset? sections rva) ∧
      ∀ rva, fileOffset? sections rva = some 0 → rva = 0x1000 := by
  intro sections
  have haddresses : sections.Pairwise (Disjoint on Section.addresses) := by
    simp [sections, Function.onFun, Section.addresses, Set.Ico_disjoint_Ico]
  have hoffsets : sections.Pairwise (Disjoint on Section.offsets) := by
    simp [sections, Function.onFun, Section.offsets, Set.Ico_disjoint_Ico]
  have hstart : fileOffset? sections 0x1000 = some 0 := by decide
  have hmaps := mapsAddresses sections
  exact ⟨haddresses, hoffsets, hstart, by decide,
    hmaps.reordered haddresses sections.reverse sections.reverse_perm,
    fun rva hrva => hmaps.injective hoffsets rva 0x1000 0 hrva hstart⟩

/-! ## Bytes behind the data -/

theorem isGreatest_foldl_rawEnd (first : Int) (sections : List Section) :
    IsGreatest (insert first (Section.rawEnd '' {s | s ∈ sections}))
      (sections.foldl (fun last t => max last t.rawEnd) first) := by
  induction sections generalizing first with
  | nil => simp [IsGreatest, upperBounds]
  | cons s rest ih =>
    obtain ⟨hmem, hupper⟩ := ih (max first s.rawEnd)
    rw [List.foldl_cons]
    constructor
    · rcases hmem with h | ⟨t, ht, h⟩
      · rw [h]
        rcases max_choice first s.rawEnd with h | h
        · exact .inl h
        · exact .inr ⟨s, List.mem_cons_self, h.symm⟩
      · exact .inr ⟨t, List.mem_cons_of_mem s ht, h⟩
    · have hfirst := hupper (Set.mem_insert _ _)
      rintro e (rfl | ⟨t, ht, rfl⟩)
      · exact (le_max_left _ _).trans hfirst
      · rcases List.mem_cons.mp ht with rfl | ht
        · exact (le_max_right _ _).trans hfirst
        · exact hupper (.inr ⟨t, ht, rfl⟩)

/-- The overlay of an image with sections starts where the raw data that reaches furthest ends. -/
theorem exists_isGreatest_overlaySize {sections : List Section} (h : sections ≠ []) :
    ∃ last, IsGreatest (Section.rawEnd '' {s | s ∈ sections}) last ∧
      ∀ fileSize, overlaySize sections fileSize = max 0 (fileSize - last) := by
  obtain ⟨s, rest, rfl⟩ := List.exists_cons_of_ne_nil h
  refine ⟨_, ?_, fun fileSize => rfl⟩
  have hall : Section.rawEnd '' {t | t ∈ s :: rest} =
      insert s.rawEnd (Section.rawEnd '' {t | t ∈ rest}) := by
    rw [← Set.image_insert_eq]
    congr 1
    ext t
    exact List.mem_cons
  rw [hall]
  exact isGreatest_foldl_rawEnd s.rawEnd rest

/-- The overlay depends on the raw ends alone, not on their order or number. -/
theorem overlaySize_congr {sections other : List Section}
    (h : Section.rawEnd '' {s | s ∈ other} = Section.rawEnd '' {s | s ∈ sections}) (fileSize : Int) :
    overlaySize other fileSize = overlaySize sections fileSize := by
  by_cases hnone : sections = []
  · subst hnone
    have hother : other = [] := by
      simpa [Set.eq_empty_iff_forall_notMem, List.eq_nil_iff_forall_not_mem] using h
    rw [hother]
  · have hsome : other ≠ [] := by
      rintro rfl
      obtain ⟨s, hs⟩ := List.exists_mem_of_ne_nil sections hnone
      have hend : s.rawEnd ∈ Section.rawEnd '' {s | s ∈ ([] : List Section)} := h ▸ ⟨s, hs, rfl⟩
      simp at hend
    obtain ⟨last, hlast, hoverlay⟩ := exists_isGreatest_overlaySize hnone
    obtain ⟨last', hlast', hoverlay'⟩ := exists_isGreatest_overlaySize hsome
    rw [hoverlay, hoverlay', hlast'.unique (h ▸ hlast)]

/-- Further sections never leave more of an overlay. -/
theorem overlaySize_anti {sections other : List Section} (hne : sections ≠ [])
    (hsub : sections ⊆ other) (fileSize : Int) :
    overlaySize other fileSize ≤ overlaySize sections fileSize := by
  obtain ⟨s, hs⟩ := List.exists_mem_of_ne_nil sections hne
  obtain ⟨last, hlast, hoverlay⟩ := exists_isGreatest_overlaySize hne
  obtain ⟨last', hlast', hoverlay'⟩ :=
    exists_isGreatest_overlaySize (List.ne_nil_of_mem (hsub hs))
  have hle : last ≤ last' := hlast'.2 (Set.image_mono (fun t ht => hsub ht) hlast.1)
  rw [hoverlay, hoverlay']
  omega

/-- The offsets of a file that are not below any raw end. -/
def trailingOffsets (sections : List Section) (fileSize : Nat) : Finset Nat :=
  (Finset.range fileSize).filter fun offset => ∀ s ∈ sections, s.rawEnd ≤ offset

/-- From the greatest raw end on, if that is not below zero, all offsets of a file are trailing. -/
theorem card_trailingOffsets {sections : List Section} {last : Int} (fileSize : Nat)
    (hlast : IsGreatest (Section.rawEnd '' {s | s ∈ sections}) last) (hnonneg : 0 ≤ last) :
    ((trailingOffsets sections fileSize).card : Int) = max 0 (fileSize - last) := by
  obtain ⟨⟨s, hs, hend⟩, hupper⟩ := hlast
  have hrange : trailingOffsets sections fileSize = Finset.Ico last.toNat fileSize := by
    ext offset
    rw [trailingOffsets, Finset.mem_filter, Finset.mem_range, Finset.mem_Ico, Int.toNat_le, and_comm]
    refine and_congr_left fun _ => ⟨fun hbehind => hend ▸ hbehind s hs, fun hlow t ht => ?_⟩
    exact (hupper ⟨t, ht, rfl⟩).trans hlow
  rw [hrange, Nat.card_Ico]
  omega

/-- Whether the overlay of a section table in a file of a size is what stands behind its data. -/
structure MeasuresOverlay (sections : List Section) (fileSize : Nat) : Prop where
  none : sections = [] → overlaySize sections fileSize = 0
  counted : sections ≠ [] →
    overlaySize sections fileSize = (trailingOffsets sections fileSize).card
  bounded : 0 ≤ overlaySize sections fileSize ∧ overlaySize sections fileSize ≤ fileSize
  /-- Only the raw ends count, whatever their order and however often they occur. -/
  ends : ∀ other : List Section,
    Section.rawEnd '' {s | s ∈ other} = Section.rawEnd '' {s | s ∈ sections} →
    overlaySize other fileSize = overlaySize sections fileSize
  added : sections ≠ [] → ∀ s other, other.Perm (s :: sections) →
    overlaySize other fileSize ≤ overlaySize sections fileSize

theorem overlaySize_eq_card {sections : List Section} (hne : sections ≠ [])
    (hraw : ∀ s ∈ sections, 0 ≤ s.rawPointer ∧ 0 ≤ s.rawSize) (fileSize : Nat) :
    overlaySize sections fileSize = (trailingOffsets sections fileSize).card := by
  obtain ⟨last, hlast, hoverlay⟩ := exists_isGreatest_overlaySize hne
  obtain ⟨s, hs, hend⟩ := hlast.1
  have hnonneg : 0 ≤ last := by
    obtain ⟨hpointer, hsize⟩ := hraw s hs
    rw [← hend, Section.rawEnd]
    omega
  rw [hoverlay, card_trailingOffsets fileSize hlast hnonneg]

/-- Where no section has its data before the start of the file, the overlay is the number of trailing
offsets. -/
theorem measuresOverlay {sections : List Section}
    (hraw : ∀ s ∈ sections, 0 ≤ s.rawPointer ∧ 0 ≤ s.rawSize) (fileSize : Nat) :
    MeasuresOverlay sections fileSize where
  none := by
    rintro rfl
    rfl
  counted := fun hne => overlaySize_eq_card hne hraw fileSize
  bounded := by
    by_cases hne : sections = []
    · subst hne
      exact ⟨le_refl 0, Int.natCast_nonneg fileSize⟩
    · have hcard : (trailingOffsets sections fileSize).card ≤ fileSize :=
        (Finset.card_filter_le _ _).trans (Finset.card_range fileSize).le
      rw [overlaySize_eq_card hne hraw]
      omega
  ends := fun _ h => overlaySize_congr h fileSize
  added := fun hne s other hperm =>
    overlaySize_anti hne (fun _ ht => hperm.mem_iff.mpr (List.mem_cons_of_mem s ht)) fileSize

/-- Sections out of file order, one of them without data. -/
theorem measuresOverlay_outOfOrder :
    let sections : List Section :=
      [{ rawPointer := 0x40, rawSize := 0x20 }, { rawPointer := 0x20, rawSize := 0x20 },
        { rawPointer := 0x50 }]
    (∀ s ∈ sections, 0 ≤ s.rawPointer ∧ 0 ≤ s.rawSize) ∧ MeasuresOverlay sections 0x64 ∧
      overlaySize sections 0x64 = 4 :=
  ⟨by decide, measuresOverlay (by decide) 0x64, by decide⟩

end PeSignals.Image

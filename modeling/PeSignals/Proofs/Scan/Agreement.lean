import Mathlib
import PeSignals.Proofs.Image.Content
import PeSignals.Proofs.Protection.Recording
import PeSignals.Proofs.Scan.Inspection
import PeSignals.Proofs.Text.Fragment
import PeSignals.Protection.Survey

/-!
# One judgement of an image

An inspection and a look at an executable measure an image against the same two bounds. What the one reports
in findings the other tells in notes: a large overlay in one finding and in one note, sections of high
entropy in one finding together and in a note for each. Only a bound for entropies that is a whole number
beyond the doubles parts them, since a finding would have to write it out.
-/
namespace PeSignals.Inspection

open Files (FileTree Path)
open Image (entropyOf)
open Protection (Analysis Noted absorbExecutable entropyNote executableSignalsIn imageNotes imageSignals
  measuredEntropies overlayNote)

/-! ## Kinds of notes -/

/-- Whether a note tells of a large overlay. -/
def tellsOfOverlay (note : String) : Bool := Text.closesWith note "MB) - may be packed"

/-- Whether a note tells of a section with a high entropy. -/
def tellsOfEntropy (note : String) : Bool := Text.closesWith note " - may be packed or encrypted"

/-- No text has both endings. -/
theorem tellsOfEntropy_eq_false {note : String} (h : tellsOfOverlay note = true) :
    tellsOfEntropy note = false := by
  rw [← Bool.not_eq_true]
  intro hentropy
  rw [tellsOfOverlay, Text.closesWith_iff] at h
  rw [tellsOfEntropy, Text.closesWith_iff] at hentropy
  -- Of two endings of one text, one would be an ending of the other.
  rcases List.suffix_or_suffix_of_suffix h hentropy with hends | hends
  · exact absurd hends (by decide)
  · exact absurd hends (by decide)

theorem tellsOfOverlay_overlayNote (file : String) (image : Image) :
    tellsOfOverlay (overlayNote file image) = true := by
  have h := Text.closesWith_append (file ++ " has large overlay (" ++ toString (image.overlay / 1048576))
    "MB) - may be packed"
  exact h

theorem tellsOfEntropy_entropyNote (file : String) (s : Image.Section) (entropy : Float) :
    tellsOfEntropy (entropyNote file s entropy) = true := by
  have h := Text.closesWith_append (file ++ " section " ++ Protection.shownName s ++ " has entropy " ++
    Decimal.fixed entropy 2) " - may be packed or encrypted"
  exact h

theorem tellsOfOverlay_entropyNote (file : String) (s : Image.Section) (entropy : Float) :
    tellsOfOverlay (entropyNote file s entropy) = false := by
  rw [← Bool.not_eq_true]
  intro h
  have hentropy := tellsOfEntropy_eq_false h
  rw [tellsOfEntropy_entropyNote] at hentropy
  cases hentropy

section Notes

variable (settings : Settings) (file : String) (image : Image) (entropies : List (Image.Section × Float))

theorem exists_overlayNote_iff :
    (∃ note ∈ imageNotes settings file image entropies, tellsOfOverlay note = true) ↔
      settings.isLargeOverlay image.overlay = true := by
  constructor
  · rintro ⟨note, hnote, htells⟩
    rw [imageNotes, List.mem_append] at hnote
    rcases hnote with hnote | hnote
    · exact (List.mem_ite_nil_right.mp hnote).1
    · obtain ⟨m, -, rfl⟩ := List.mem_map.mp hnote
      rw [tellsOfOverlay_entropyNote] at htells
      cases htells
  · intro h
    refine ⟨overlayNote file image, ?_, tellsOfOverlay_overlayNote file image⟩
    rw [imageNotes, if_pos h]
    exact List.mem_append_left _ List.mem_cons_self

/-- The notes on entropies name the sections over the threshold, in order. -/
theorem filter_tellsOfEntropy :
    (imageNotes settings file image entropies).filter tellsOfEntropy =
      (entropies.filter fun m => settings.isHighEntropy m.2).map fun m => entropyNote file m.1 m.2 := by
  have hoverlay : (if settings.isLargeOverlay image.overlay then [overlayNote file image] else []).filter
      tellsOfEntropy = [] := by
    split_ifs
    · rw [List.filter_cons_of_neg, List.filter_nil]
      rw [tellsOfEntropy_eq_false (tellsOfOverlay_overlayNote file image)]
      exact Bool.false_ne_true
    · rfl
  rw [imageNotes, List.filter_append, hoverlay, List.nil_append, List.filter_eq_self]
  intro note hnote
  obtain ⟨m, -, rfl⟩ := List.mem_map.mp hnote
  exact tellsOfEntropy_entropyNote file m.1 m.2

end Notes

/-! ## Evidence -/

/-- Sections with their entropies, to four places, as evidence. -/
def entropyEvidence (high : List (Image.Section × Float)) : Json :=
  .array (high.map fun m =>
    .object [("name", .string m.1.name), ("entropy", .float (Decimal.roundPlaces m.2 4))])

theorem evidence_entropyFinding (threshold : Number) (high : List (Image.Section × Float)) :
    (entropyFinding threshold high).evidence = (entropyEvidence high).compact := by
  have htext : ∃ middle, (entropyEvidence high).compact.toList = '[' :: (middle ++ [']']) := by
    rw [entropyEvidence, Json.compact]
    exact ⟨_, by rw [String.toList_append, String.toList_append]; rfl⟩
  obtain ⟨middle, hmiddle⟩ := htext
  exact Text.trim_between hmiddle (by decide) (by decide)

/-! ## Findings -/

section Findings

variable (settings : Settings) (image : Image) (entropies : List (Image.Section × Float))
  (hits : List (String × Bool))

theorem exists_overlayFinding_iff :
    (∃ f ∈ findings settings image entropies hits, f.title = "Large overlay") ↔
      settings.isLargeOverlay image.overlay = true := by
  constructor
  · rintro ⟨f, hf, htitle⟩
    rcases mem_findings_iff.mp hf with ⟨hlarge, -⟩ | ⟨-, rfl⟩ | ⟨-, rfl⟩
    · exact hlarge
    · rw [title_entropyFinding] at htitle
      exact absurd htitle (by decide)
    · rw [title_matchFinding] at htitle
      exact absurd htitle (by decide)
  · intro h
    exact ⟨_, mem_findings_iff.mpr (.inl ⟨h, rfl⟩), title_overlayFinding image⟩

/-- The finding on high entropies is made of the sections above the bound, of which there is one at least. -/
theorem titled_entropies_iff {f : Finding} :
    f ∈ findings settings image entropies hits ∧ f.title = "High-entropy sections" ↔
      (entropies.filter fun m => settings.isHighEntropy m.2) ≠ [] ∧
        f = entropyFinding settings.highEntropy (entropies.filter fun m => settings.isHighEntropy m.2) := by
  constructor
  · rintro ⟨hf, htitle⟩
    rcases mem_findings_iff.mp hf with ⟨-, rfl⟩ | hentropies | ⟨-, rfl⟩
    · rw [title_overlayFinding] at htitle
      exact absurd htitle (by decide)
    · exact hentropies
    · rw [title_matchFinding] at htitle
      exact absurd htitle (by decide)
  · rintro ⟨hhigh, rfl⟩
    exact ⟨mem_findings_iff.mpr (.inr (.inl ⟨hhigh, rfl⟩)), title_entropyFinding _ _⟩

end Findings

/-! ## Two looks at one file -/

/-- How findings and notes agree on an image; `file` is its name in notes. -/
structure Agrees (settings : Settings) (file : String) (data : ByteArray) (image : Image)
    (findings : List Finding) (notes : List String) : Prop where
  overlay : (∃ f ∈ findings, f.title = "Large overlay") ↔ ∃ note ∈ notes, tellsOfOverlay note = true
  large : (∃ note ∈ notes, tellsOfOverlay note = true) ↔ settings.isLargeOverlay image.overlay = true
  entropy : (∃ f ∈ findings, f.title = "High-entropy sections") ↔
    ∃ note ∈ notes, tellsOfEntropy note = true
  evidence : ∀ f ∈ findings, f.title = "High-entropy sections" →
    f.evidence = (entropyEvidence (highSections settings data image)).compact
  noted : notes.filter tellsOfEntropy = (highSections settings data image).map fun m =>
    let name := if m.1.name = "" then "<unnamed>" else m.1.name
    s!"{file} section {name} has entropy {Decimal.fixed m.2 2} - may be packed or encrypted"

theorem exists_entropyNote_iff (settings : Settings) (file : String) (data : ByteArray) (image : Image) :
    (∃ note ∈ imageNotes settings file image (entropiesOf settings data image),
        tellsOfEntropy note = true) ↔
      highSections settings data image ≠ [] := by
  have hnone : (imageNotes settings file image (entropiesOf settings data image)).filter
      tellsOfEntropy = [] ↔ highSections settings data image = [] := by
    rw [filter_tellsOfEntropy, List.map_eq_nil_iff, highSections]
  rw [ne_eq, ← hnone, List.filter_eq_nil_iff]
  simp

theorem agrees_findings (settings : Settings) (file : String) (data : ByteArray) (image : Image)
    (hits : List (String × Bool)) :
    Agrees settings file data image (findings settings image (entropiesOf settings data image) hits)
      (imageNotes settings file image (entropiesOf settings data image)) where
  overlay := (exists_overlayFinding_iff settings image _ hits).trans
    (exists_overlayNote_iff settings file image _).symm
  large := exists_overlayNote_iff settings file image _
  entropy := by
    rw [exists_entropyNote_iff]
    constructor
    · rintro ⟨f, hf, htitle⟩
      exact ((titled_entropies_iff settings image _ hits).mp ⟨hf, htitle⟩).1
    · intro hhigh
      exact ⟨_, (titled_entropies_iff settings image _ hits).mpr ⟨hhigh, rfl⟩⟩
  evidence := by
    intro f hf htitle
    obtain ⟨-, rfl⟩ := (titled_entropies_iff settings image _ hits).mp ⟨hf, htitle⟩
    exact evidence_entropyFinding _ _
  noted := filter_tellsOfEntropy settings file image _

/-- What is read at two paths differs in its path alone. -/
theorem parse_elsewhere {data : ByteArray} {path : String} {image : Image}
    (h : (Image.parse data path).outcome = .image image) (other : String) :
    (Image.parse data other).outcome = .image { image with path := other } := by
  have hparse := Image.parse_of_isImage (Image.isImage_of_parse h)
  rw [hparse] at h ⊢
  obtain rfl := Image.Outcome.image.inj h
  rfl

/-- The notes of a look at an executable are those on its image. -/
theorem notes_executableSignalsIn {view : List Log.Note → FileTree} {executable : Path} {data : ByteArray}
    (hread : ∀ notes, (view notes).read executable.text = .ok data) {path : String} {image : Image}
    (h : (Image.parse data path).outcome = .image image) (settings : Settings) :
    (executableSignalsIn view settings executable).value.notes =
      imageNotes settings executable.name image (entropiesOf settings data image) := by
  -- The look spells the path in its own way, so it has the image under another path.
  have helsewhere := parse_elsewhere h executable.text
  have hentropies (notes : List Log.Note) := measuredEntropies_of_parse (hread notes) helsewhere settings
  simp only [executableSignalsIn, Image.ofFile_of_read (hread []), helsewhere, imageSignals, hentropies]
  rfl

/-- The findings of an inspection are those on its image, unless the bound for entropies cannot be written
out. -/
theorem findings_runIn {view : List Log.Entry → FileTree} {path : String} {data : ByteArray}
    (hread : ∀ log, (view log).read path = .ok data) {image : Image}
    (h : (Image.parse data path).outcome = .image image) (settings : Settings) (patterns : List String)
    (now : Time.Moment) :
    let scan := (runIn view settings patterns path now).scan
    (IsUntold settings data image →
      scan.findings = [] ∧ scan.summary = "Analysis failed: int too large to convert to float") ∧
    (¬ IsUntold settings data image → ∃ hits,
      scan.findings = findings settings image (entropiesOf settings data image) hits) := by
  simp only [runIn, Image.ofFile_of_read (hread (opening path)), h]
  obtain ⟨huntold, htold⟩ := findings_ofImage (hread _) h settings patterns now _
  exact ⟨huntold, fun h => ⟨_, htold h⟩⟩

/-- An inspection and a look at an executable that find the same image agree on what stands out in it,
whatever the analysis that the look adds to. If the bound for entropies is a whole number beyond the
doubles and a section is above it, the look tells of it and the inspection fails without a finding. -/
theorem runIn_agrees {view : List Log.Entry → FileTree} {noted : List Log.Note → FileTree} {path : String}
    {executable : Path} {data : ByteArray} (hinspected : ∀ log, (view log).read path = .ok data)
    (hlooked : ∀ notes, (noted notes).read executable.text = .ok data) {image : Image}
    (h : (Image.parse data path).outcome = .image image) (settings : Settings) (patterns : List String)
    (now : Time.Moment) (a : Noted Analysis) :
    ∃ notes, (absorbExecutable noted settings a executable).value.notes = a.value.notes ++ notes ∧
      let scan := (runIn view settings patterns path now).scan
      (settings.highEntropy.isTooLarge = true → (∃ note ∈ notes, tellsOfEntropy note = true) →
        scan.findings = [] ∧ scan.summary = "Analysis failed: int too large to convert to float") ∧
      (settings.highEntropy.isTooLarge = false ∨ (∀ note ∈ notes, tellsOfEntropy note = false) →
        Agrees settings executable.name data image scan.findings notes) := by
  have hnotes := notes_executableSignalsIn (fun notes => hlooked (a.notes ++ notes)) h settings
  obtain ⟨hfails, htells⟩ := findings_runIn hinspected h settings patterns now
  have htold := exists_entropyNote_iff settings executable.name data image
  refine ⟨imageNotes settings executable.name image (entropiesOf settings data image), ?_,
    fun hlarge hentropy => ?_, fun hfits => ?_⟩
  · rw [← hnotes]
    exact congrArg Analysis.notes (Protection.Analysis.absorb_eq _ _)
  · exact hfails ⟨hlarge, htold.mp hentropy⟩
  · -- Either the bound can be written out, or no section is above it and nothing has to be.
    have hwritten : ¬ IsUntold settings data image := by
      rw [IsUntold, ← htold]
      rintro ⟨hlarge, note, hnote, hentropy⟩
      rcases hfits with hfits | hnone
      · cases hlarge.symm.trans hfits
      · cases hentropy.symm.trans (hnone note hnote)
    obtain ⟨hits, hfound⟩ := htells hwritten
    rw [hfound]
    exact agrees_findings settings executable.name data image hits

section Nameless

/-- With bounds that the image is above, both tell of its overlay and of its section. -/
theorem runIn_agrees_nameless :
    let settings : Settings := { largeOverlay := .int 129, highEntropy := .int (-1) }
    namelessTree.read "one.exe" = .ok nameless ∧
    namelessTree.read (Path.ofText "one.exe").text = .ok nameless ∧
    (Image.parse nameless "one.exe").outcome = .image namelessImage ∧
    settings.highEntropy.isTooLarge = false ∧
    let look := absorbExecutable (fun _ => namelessTree) settings ⟨{}, []⟩ (Path.ofText "one.exe")
    ∃ notes, look.value.notes = [] ++ notes ∧
      Agrees settings "one.exe" nameless namelessImage
        (runIn (fun _ => namelessTree) settings [] "one.exe" ⟨0, false⟩).scan.findings notes := by
  intro settings
  have hlooked : namelessTree.read (Path.ofText "one.exe").text = .ok nameless := by rfl
  have hfits : settings.highEntropy.isTooLarge = false := by decide +kernel
  obtain ⟨notes, hnotes, -, hagrees⟩ := runIn_agrees (fun _ => read_nameless) (fun _ => hlooked)
    parse_nameless settings [] ⟨0, false⟩ ⟨{}, []⟩
  exact ⟨read_nameless, hlooked, parse_nameless, hfits, notes, hnotes, hagrees (.inl hfits)⟩

/-- A bound below all doubles: the section is above it, and the inspection reports nothing. -/
theorem runIn_nameless_ne :
    let settings : Settings := { highEntropy := .int (-(10 ^ 309)) }
    (Image.parse nameless "one.exe").outcome = .image namelessImage ∧
    (runIn (fun _ => namelessTree) settings [] "one.exe" ⟨0, false⟩).scan.findings = [] ∧
    ∃ note ∈ (executableSignalsIn (fun _ => namelessTree) settings (Path.ofText "one.exe")).value.notes,
      tellsOfEntropy note = true := by
  intro settings
  have hlooked : namelessTree.read (Path.ofText "one.exe").text = .ok nameless := by rfl
  have hlarge : settings.highEntropy.isTooLarge = true := by decide +kernel
  have hhigh : highSections settings nameless namelessImage ≠ [] :=
    highSections_ne_nil_iff.mpr
      ⟨rfl, {}, List.mem_cons_self, isHighEntropy_nameless (by decide +kernel)⟩
  refine ⟨parse_nameless, ?_, ?_⟩
  · exact ((findings_runIn (fun _ => read_nameless) parse_nameless settings [] ⟨0, false⟩).1
      ⟨hlarge, hhigh⟩).1
  · rw [notes_executableSignalsIn (fun _ => hlooked) parse_nameless settings]
    exact (exists_entropyNote_iff _ _ _ _).mpr hhigh

end Nameless

end PeSignals.Inspection

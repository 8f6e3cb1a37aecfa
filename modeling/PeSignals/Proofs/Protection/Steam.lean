import Mathlib
import PeSignals.Proofs.Files.Resolve
import PeSignals.Proofs.Protection.Classification
import PeSignals.Proofs.Protection.Executable
import PeSignals.Proofs.Protection.History
import PeSignals.Proofs.Text.Ascii

/-!
# Steam in the steps of a detector

A detector looks at executables and at the files of directories, and computes verdicts, in any order and
in trees that may be different ones at every step. Whatever speaks of Steam in what a step adds comes with
a detection of the Steam interface, so the flag for Steam stands exactly if the interface is detected.
-/
namespace PeSignals.Protection

open Files (FileTree FoundFile Path)

/-! ## What speaks of Steam -/

/-- Whether the path of a file ends in the name of a library of the Steam interface, ignoring case. -/
def IsSteamLibrary (path : String) : Prop :=
  Text.lower (Path.ofText path).name ∈ Signature.steamLibraries

/-- Whether all that speaks of Steam agrees: the flag stands for the Steam interface, which is detected
wherever a bound executable or a library of the interface is. -/
structure SteamAgrees (schemes : List Scheme) (steamworks : Bool) (paths : List String) : Prop where
  flag : steamworks = true ↔ .steamStub ∈ schemes
  bound : .steamCeg ∈ schemes → .steamStub ∈ schemes
  recorded : ∀ path ∈ paths, IsSteamLibrary path → .steamStub ∈ schemes

theorem steamAgrees_nil : SteamAgrees [] false [] :=
  ⟨iff_of_false Bool.false_ne_true List.not_mem_nil, fun h => absurd h List.not_mem_nil,
    List.forall_mem_nil _⟩

theorem SteamAgrees.join {old new all : List Scheme} {steamworks more : Bool} {paths added : List String}
    (hold : SteamAgrees old steamworks paths) (hnew : SteamAgrees new more added)
    (hall : ∀ s, s ∈ all ↔ s ∈ old ∨ s ∈ new) :
    SteamAgrees all (steamworks || more) (paths ++ added) where
  flag := by rw [Bool.or_eq_true, hold.flag, hnew.flag, hall]
  bound := by
    rw [hall, hall]
    exact Or.imp hold.bound hnew.bound
  recorded := by
    intro path hpath hlibrary
    rw [hall]
    rcases List.mem_append.mp hpath with hpath | hpath
    · exact .inl (hold.recorded path hpath hlibrary)
    · exact .inr (hnew.recorded path hpath hlibrary)

def Signals.AgreeOnSteam (s : Signals) : Prop :=
  SteamAgrees (s.detections.map (·.scheme)) s.steamworks s.steamPaths

theorem agreeOnSteam_empty : ({} : Signals).AgreeOnSteam := steamAgrees_nil

/-! ## Signals of executables -/

theorem agreeOnSteam_imageSignals (t : FileTree) (settings : Settings) (path : Path) (image : Image) :
    (imageSignals t settings path image).value.AgreeOnSteam := by
  have hwhen {found : Bool} {d : Detection} {s : Scheme} :
      s ∈ (if found = true then [d] else []).map (·.scheme) ↔ found = true ∧ s = d.scheme := by
    cases found <;> simp
  have hstub : .steamStub ∈ (imageSignals t settings path image).value.detections.map (·.scheme) ↔
      Signature.importsAny image Signature.steamLibraries = true := by
    simp [imageSignals, hwhen]
  refine ⟨hstub.symm, fun hceg => hstub.mpr ?_, List.forall_mem_nil _⟩
  -- A binding section counts only beside the interface.
  have hbound : Signature.importsAny image Signature.steamLibraries = true ∧
      (image.findSection? Signature.steamBindSection).isSome = true := by
    simpa [imageSignals, hwhen] using hceg
  exact hbound.1

theorem agreeOnSteam_ratedSignals (t : FileTree) (c : Configuration) (path : Path) :
    (ratedSignals t c path).1.value.AgreeOnSteam := by
  obtain ⟨notes, hrated⟩ := exists_notes_ratedSignals t c path
  have hsignals : (executableSignals t c.settings path).value.AgreeOnSteam := by
    rw [executableSignals, executableSignalsIn]
    dsimp only
    split
    · exact agreeOnSteam_empty
    · exact agreeOnSteam_imageSignals _ _ _ _
  rw [hrated]
  exact hsignals

/-! ## Signals of directories -/

/-- A file whose name is that of a library in lower case has its name at the end of its path. -/
theorem lower_name_ofText {f : FoundFile} {library : String} (hanchor : Files.IsAnchor f.path.anchor)
    (hname : lowerName f = library) (hsome : library ≠ "") (hdot : library ≠ ".")
    (hslash : '/' ∉ library.toList) : Text.lower (Path.ofText f.path.text).name = library := by
  subst hname
  have hname : (Path.ofText f.path.text).name = f.path.name := by
    refine Files.name_ofText_text hanchor ?_ ?_ fun h => hslash (Text.slash_mem_lower h)
    · exact fun hempty => hsome (congrArg Text.lower hempty)
    · exact fun hdotted => hdot (by rw [lowerName, FoundFile.name, hdotted]; decide)
  rw [hname]
  rfl

theorem agreeOnSteam_steamSignals {files : List FoundFile} (h : ∀ f ∈ files, Files.IsAnchor f.path.anchor) :
    (steamSignals files).AgreeOnSteam := by
  have hstub : .steamStub ∈ (steamSignals files).detections.map (·.scheme) ↔
      ∃ f ∈ files, lowerName f ∈ Signature.steamLibraries := by
    rw [mem_detections_steamSignals]
    exact and_iff_right rfl
  constructor
  · rw [steamworks_steamSignals, hstub]
  · rw [mem_detections_steamSignals]
    rintro ⟨hceg, -⟩
    cases hceg
  · intro path hpath hlibrary
    rw [hstub]
    simp only [steamSignals, List.mem_append, List.mem_flatMap, List.mem_map, List.mem_filter,
      decide_eq_true_eq] at hpath
    rcases hpath with ⟨library, hmem, f, ⟨hf, hname⟩, -⟩ | ⟨library, hmem, f, ⟨hf, hname⟩, rfl⟩
    · exact ⟨f, hf, hname ▸ hmem⟩
    · -- The name of a library of the client is not one of the interface.
      have hclient : ∀ l ∈ Signature.steamClientLibraries,
          l ≠ "" ∧ l ≠ "." ∧ '/' ∉ l.toList ∧ l ∉ Signature.steamLibraries := by decide
      obtain ⟨hsome, hdot, hslash, hother⟩ := hclient library hmem
      rw [IsSteamLibrary, lower_name_ofText (h f hf) hname hsome hdot hslash] at hlibrary
      exact absurd hlibrary hother

theorem eq_walk_of_filesOf {t : FileTree} {directory : Path} {files : List FoundFile}
    (h : filesOf t directory = .ok files) : files = t.walk directory := by
  rw [filesOf] at h
  split at h <;> cases h
  rfl

theorem agreeOnSteam_steamSignalsIn (t : FileTree) (directory : String) :
    (steamSignalsIn t (.ofText directory)).value.AgreeOnSteam := by
  rw [steamSignalsIn]
  split
  · next files hfiles =>
    refine agreeOnSteam_steamSignals fun f hf => ?_
    rw [eq_walk_of_filesOf hfiles] at hf
    obtain ⟨g, rfl⟩ := Files.mem_walk.mp hf
    exact (Files.isNormal_ofText directory).anchored
  · exact agreeOnSteam_empty

theorem agreeOnSteam_nameSignalsIn (t : FileTree) (directory : Path) :
    (nameSignalsIn t directory).value.AgreeOnSteam := by
  rw [nameSignalsIn]
  split
  · next files _ =>
    have hnever {s : Scheme} (hs : s ≠ .denuvo) : s ∉ (nameSignals files).detections.map (·.scheme) :=
      fun hmem => hs (mem_detections_nameSignals.mp hmem).1
    refine ⟨iff_of_false Bool.false_ne_true (hnever (by decide)), ?_, List.forall_mem_nil _⟩
    exact fun hceg => absurd hceg (hnever (by decide))
  · exact agreeOnSteam_empty

/-! ## Steps -/

/-- One step of a detector, in the tree as it stands then. -/
inductive Step
  | executable (t : FileTree) (c : Configuration) (path : String)
  | steamFiles (t : FileTree) (directory : String)
  | fileNames (t : FileTree) (directory : String)
  | conclude

namespace Analysis

def step (a : Analysis) : Step → Analysis
  | .executable t c path => a.lookAt t c (.ofText path)
  | .steamFiles t directory => a.absorb (steamSignalsIn t (.ofText directory)).value
  | .fileNames t directory => a.absorb (nameSignalsIn t (.ofText directory)).value
  | .conclude => a.conclude

def run (a : Analysis) (steps : List Step) : Analysis := steps.foldl step a

/-- The invariant of the steps: all agrees on Steam, and no scheme is detected twice. -/
structure IsSteady (a : Analysis) : Prop where
  steam : SteamAgrees a.schemes a.steamworks a.steamPaths
  once : a.schemes.Nodup

theorem isSteady_empty : ({} : Analysis).IsSteady := ⟨steamAgrees_nil, List.nodup_nil⟩

theorem IsSteady.absorb {a : Analysis} (h : a.IsSteady) {s : Signals} (hs : s.AgreeOnSteam) :
    (a.absorb s).IsSteady := by
  refine ⟨?_, nodup_schemes_absorb h.once s⟩
  have hjoined := h.steam.join hs fun _ => mem_schemes_absorb (s := s)
  simp only [absorb_eq] at hjoined ⊢
  exact hjoined

theorem IsSteady.step {a : Analysis} (h : a.IsSteady) (step : Step) : (a.step step).IsSteady := by
  cases step with
  | executable t c path => exact h.absorb (agreeOnSteam_ratedSignals t c (.ofText path))
  | steamFiles t directory => exact h.absorb (agreeOnSteam_steamSignalsIn t directory)
  | fileNames t directory => exact h.absorb (agreeOnSteam_nameSignalsIn t (.ofText directory))
  | conclude => exact ⟨h.steam, h.once⟩

theorem IsSteady.run {a : Analysis} (h : a.IsSteady) (steps : List Step) : (a.run steps).IsSteady := by
  induction steps generalizing a with
  | nil => exact h
  | cons step rest ih => exact ih (h.step step)

theorem IsSteady.not_steamworks_of_clean {a : Analysis} (h : a.IsSteady) (hclean : a.detected = []) :
    a.steamworks = false := by
  rw [← Bool.not_eq_true, h.steam.flag, schemes_eq_nil_iff.mpr hclean]
  exact List.not_mem_nil

/-- After any steps from an empty analysis, whatever the trees, executables and configurations: the flag for
Steam stands exactly if the Steam interface is detected, and it is detected if a bound executable is or if
the path of one of its libraries is recorded. No scheme is detected twice. A verdict that is computed then
asks for a plain copy exactly if nothing is detected. -/
theorem run_isSteady (steps : List Step) :
    let a := run {} steps
    (a.steamworks = true ↔ .steamStub ∈ a.schemes) ∧
    (.steamCeg ∈ a.schemes → .steamStub ∈ a.schemes) ∧
    (∀ path ∈ a.steamPaths, IsSteamLibrary path → .steamStub ∈ a.schemes) ∧
    a.schemes.Nodup ∧
    ¬ (a.detected = [] ∧ a.steamworks = true) ∧
    ∀ before, steps = before ++ [.conclude] → (a.verdict.packaging = .directCopy ↔ a.detected = []) := by
  intro a
  have h : a.IsSteady := isSteady_empty.run steps
  have hclean : a.detected = [] → a.steamworks = false := h.not_steamworks_of_clean
  refine ⟨h.steam.flag, h.steam.bound, h.steam.recorded, h.once, fun ⟨hnone, hsteam⟩ => ?_, ?_⟩
  · rw [hclean hnone] at hsteam
    cases hsteam
  · rintro before rfl
    have hlast : a = (run {} before).conclude := by
      simp only [a, run, List.foldl_append, List.foldl_cons, List.foldl_nil, step]
    have hjudged : a.verdict.packaging = .directCopy ↔ a.detected = [] ∧ a.steamworks = false := by
      rw [hlast]
      exact (isJudged_conclude (run {} before)).directCopy
    rw [hjudged]
    exact and_iff_left_of_imp hclean

end Analysis

end PeSignals.Protection

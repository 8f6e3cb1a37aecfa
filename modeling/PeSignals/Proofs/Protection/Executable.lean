import Mathlib
import PeSignals.Proofs.Image.Content
import PeSignals.Proofs.Protection.Recording
import PeSignals.Protection.Rating
import PeSignals.Protection.Survey

/-!
# What a look at an executable adds

A look at an executable goes on from an analysis and only adds to it: detections of schemes that it does
not have yet, notes, and two flags. What there is to add is told by the file and the configuration alone.
-/
namespace PeSignals.Protection

open Files (FileTree Path)

/-! ## Signals of one executable -/

theorem firsts_eq_filter (seen : List Scheme) {ds : List Detection} (h : (ds.map (·.scheme)).Nodup) :
    firsts seen ds = ds.filter fun d => d.scheme ∉ seen := by
  induction ds generalizing seen with
  | nil => rfl
  | cons d rest ih =>
    obtain ⟨hnew, hrest⟩ := List.nodup_cons.mp h
    rw [firsts, List.filter_cons]
    by_cases hseen : d.scheme ∈ seen
    · simp only [hseen, not_true_eq_false, decide_false, Bool.false_eq_true, if_true, if_false, ih seen hrest]
    · simp only [hseen, not_false_eq_true, decide_true, if_true, if_false, ih _ hrest]
      -- What was just detected does not come again.
      refine congrArg (d :: ·) (List.filter_congr fun e he => ?_)
      have hne : e.scheme ≠ d.scheme := fun heq => hnew (List.mem_map.mpr ⟨e, he, heq⟩)
      simp [hne]

/-- Whether signals can be those of one executable: no scheme is detected twice, and nothing is said of
what only a directory shows. -/
structure Signals.AreOfOne (s : Signals) : Prop where
  once : (s.detections.map (·.scheme)).Nodup
  steamPaths : s.steamPaths = []
  launcher : s.launcher = false

theorem areOfOne_empty : ({} : Signals).AreOfOne := ⟨List.nodup_nil, rfl, rfl⟩

/-- No scheme is detected twice in one image. -/
theorem areOfOne_imageSignals (t : FileTree) (settings : Settings) (path : Path) (image : Image) :
    (imageSignals t settings path image).value.AreOfOne := by
  have hwhen {found : Bool} {d : Detection} :
      ((if found = true then [d] else []).map (·.scheme)).Sublist [d.scheme] := by
    cases found <;> simp
  refine ⟨?_, rfl, rfl⟩
  -- The tests are made scheme by scheme, so what they detect is some of all schemes in this order.
  have hall : (Scheme.all.drop 1).dropLast.Nodup := by decide
  refine hall.sublist ?_
  simp only [imageSignals, List.map_append]
  exact ((((((((hwhen.append hwhen).append hwhen).append hwhen).append hwhen).append hwhen).append
    hwhen).append hwhen).append hwhen)

theorem areOfOne_executableSignals (t : FileTree) (settings : Settings) (path : Path) :
    (executableSignals t settings path).value.AreOfOne := by
  rw [executableSignals, executableSignalsIn]
  dsimp only
  split
  · exact areOfOne_empty
  · exact areOfOne_imageSignals _ _ _ _

/-- Whether a file holds an image that the reader accepts. -/
def HoldsImage (t : FileTree) (path : Path) : Prop :=
  ∃ data image, t.read path.text = .ok data ∧ (Image.parse data path.text).outcome = .image image

/-- A file that is no image contributes nothing. -/
theorem executableSignals_of_not_holdsImage {t : FileTree} {path : Path} (settings : Settings)
    (h : ¬ HoldsImage t path) : (executableSignals t settings path).value = {} := by
  cases houtcome : (Image.ofFile t path.text).outcome with
  | refused r => simp only [executableSignals, executableSignalsIn, houtcome]
  | image image =>
    obtain ⟨data, hread, hparsed⟩ := Image.exists_read_of_ofFile houtcome
    exact absurd ⟨data, image, hread, hparsed⟩ h

/-! ## Bounds that cannot be compared -/

/-- A bound that cannot be compared costs some of the notes and nothing else. -/
theorem exists_notes_ratedSignals (t : FileTree) (c : Configuration) (path : Path) :
    ∃ notes, (ratedSignals t c path).1.value =
      { (executableSignals t c.settings path).value with notes } := by
  unfold ratedSignals
  dsimp only
  split
  · exact ⟨_, rfl⟩
  · split
    · exact ⟨_, rfl⟩
    · exact ⟨_, rfl⟩

theorem areOfOne_ratedSignals (t : FileTree) (c : Configuration) (path : Path) :
    (ratedSignals t c path).1.value.AreOfOne := by
  obtain ⟨notes, hrated⟩ := exists_notes_ratedSignals t c path
  obtain ⟨honce, hpaths, hlauncher⟩ := areOfOne_executableSignals t c.settings path
  rw [hrated]
  exact ⟨honce, hpaths, hlauncher⟩

theorem ratedSignals_of_not_holdsImage {t : FileTree} (c : Configuration) {path : Path}
    (h : ¬ HoldsImage t path) : (ratedSignals t c path).1.value = {} := by
  cases houtcome : (Image.ofFile t path.text).outcome with
  | refused r =>
    simp only [ratedSignals, houtcome, executableSignals_of_not_holdsImage c.settings h]
  | image image =>
    obtain ⟨data, hread, hparsed⟩ := Image.exists_read_of_ofFile houtcome
    exact absurd ⟨data, image, hread, hparsed⟩ h

/-! ## The look -/

namespace Analysis

/-- An analysis after a look at the executable at a path, as far as the bounds of a configuration can be
compared. -/
def lookAt (a : Analysis) (t : FileTree) (c : Configuration) (path : Path) : Analysis :=
  a.absorb (ratedSignals t c path).1.value

/-- Signals of one executable add the detections of schemes that an analysis does not have. -/
theorem absorb_of_one (a : Analysis) {s : Signals} (h : s.AreOfOne) :
    a.absorb s = { a with
      detected := a.detected ++ s.detections.filter fun d => d.scheme ∉ a.schemes
      notes := a.notes ++ s.notes
      steamworks := a.steamworks || s.steamworks
      online := a.online || s.online } := by
  rw [absorb_eq, firsts_eq_filter a.schemes h.once, h.steamPaths, h.launcher, List.append_nil,
    Bool.or_false]

/-- A look whose bounds can all be compared is the one that a survey takes. -/
theorem value_absorbExecutable {t : FileTree} {c : Configuration} {path : Path}
    (h : (ratedSignals t c path).2 = none) (a : Noted Analysis) :
    (absorbExecutable (fun _ => t) c.settings a path).value = a.value.lookAt t c path := by
  have hsame : (ratedSignals t c path).1 = executableSignals t c.settings path := by
    unfold ratedSignals at h ⊢
    dsimp only at h ⊢
    split at h
    · rfl
    · split at h
      · rfl
      · cases h
  rw [lookAt, hsame]
  rfl

/-- A look at an executable adds to an analysis the detections of schemes that are new to it, the notes, and
the flags for Steam and a connection. All else stays as it was, and the whole analysis does where there is
no image. What is detected and noted is told by the file and the configuration, so it is the same for
every analysis. -/
theorem lookAt_adds (t : FileTree) (c : Configuration) (path : Path) :
    let s := (ratedSignals t c path).1.value
    (s.detections.map (·.scheme)).Nodup ∧
    (∀ a : Analysis, a.lookAt t c path = { a with
      detected := a.detected ++ s.detections.filter fun d => d.scheme ∉ a.schemes
      notes := a.notes ++ s.notes
      steamworks := a.steamworks || s.steamworks
      online := a.online || s.online }) ∧
    (¬ HoldsImage t path → ∀ a : Analysis, a.lookAt t c path = a) ∧
    ((ratedSignals t c path).2 = none → ∀ a : Noted Analysis,
      (absorbExecutable (fun _ => t) c.settings a path).value = a.value.lookAt t c path) := by
  have hone := areOfOne_ratedSignals t c path
  refine ⟨hone.once, fun a => a.absorb_of_one hone, fun h a => ?_, value_absorbExecutable⟩
  rw [lookAt, ratedSignals_of_not_holdsImage c h, absorb_empty]

end Analysis

end PeSignals.Protection

import Mathlib
import PeSignals.Proofs.Files.Lookup
import PeSignals.Proofs.Protection.Recording
import PeSignals.Protection.Survey

/-!
# What a survey comes to

In a tree that stays as it is, the analysis of a directory is what it started with, the signals of the
executables and those of the files of the directory, in this order. A survey ends without one where there
is no directory, and where the main executable cannot be looked up.
-/
namespace PeSignals.Protection

open Files (FileTree Path)

variable {t : FileTree} {settings : Settings} {game : String} {main : Option String}

/-! ## The signals of a survey -/

/-- What the executables of a survey contribute. -/
def signalsOf (t : FileTree) (settings : Settings) (executables : List Path) : Signals :=
  .join (executables.map fun path => (executableSignals t settings path).value)

/-- What the files of a directory contribute. -/
def signalsBelow (t : FileTree) (root : Path) : Signals :=
  (steamSignalsIn t root).value.followedBy (nameSignalsIn t root).value

/-- What an analysis is given on top of what it started with. -/
def signalsUnder (t : FileTree) (settings : Settings) (root : Path) (executables : List Path) : Signals :=
  (signalsOf t settings executables).followedBy (signalsBelow t root)

/-- In a tree that stays as it is, executables count as if their signals were joined first. -/
theorem value_foldl_absorbExecutable (t : FileTree) (settings : Settings) (executables : List Path)
    (a : Noted Analysis) :
    (executables.foldl (absorbExecutable (fun _ => t) settings) a).value =
      a.value.absorb (signalsOf t settings executables) := by
  have hstep (b : Noted Analysis) (path : Path) :
      (absorbExecutable (fun _ => t) settings b path).value =
        b.value.absorb (executableSignals t settings path).value := rfl
  rw [signalsOf, ← Analysis.foldl_absorb, List.foldl_map]
  induction executables generalizing a with
  | nil => rfl
  | cons path rest ih => rw [List.foldl_cons, List.foldl_cons, ih, hstep]

theorem value_analyseFrom (t : FileTree) (settings : Settings) (root : Path) (executables : List Path)
    (start : Noted Analysis) :
    (analyseFrom (fun _ => t) settings root executables start).value =
      (start.value.absorb (signalsUnder t settings root executables)).conclude := by
  rw [signalsUnder, signalsBelow, ← Analysis.absorb_absorb, ← Analysis.absorb_absorb,
    ← value_foldl_absorbExecutable]
  rfl

theorem value_analyse (t : FileTree) (settings : Settings) (root : Path) (executables : List Path) :
    (analyse t settings root executables).value =
      (({ executables := executables.length } : Analysis).absorb
        (signalsUnder t settings root executables)).conclude :=
  value_analyseFrom t settings root executables _

/-- The verdict of an analysis is always that of its own facts. -/
theorem verdict_analyse (t : FileTree) (settings : Settings) (root : Path) (executables : List Path) :
    (analyse t settings root executables).value.verdict =
      Verdict.of (analyse t settings root executables).value.facts := by
  rw [value_analyse]
  rfl

/-! ## The outcomes of a survey -/

section Outcomes

variable (view : List Log.Note → FileTree)

theorem surveyIn_of_error {e : Files.FileError}
    (h : (view []).isDirectory (Path.ofText game).text = .error e) :
    surveyIn view settings game main = .error e := by
  rw [surveyIn, h]
  rfl

/-- A missing directory leaves an analysis with nothing but an error. -/
theorem surveyIn_of_missing (h : (view []).isDirectory (Path.ofText game).text = .ok false) :
    ∃ result message, surveyIn view settings game main = .ok result ∧
      result.value = { errors := [message] } := by
  refine ⟨⟨{ errors := [s!"Game directory not found: {(Path.ofText game).text}"] }, []⟩, _, ?_, rfl⟩
  rw [surveyIn, h]
  rfl

/-- A main executable that cannot be looked up ends the analysis before anything is looked at. -/
theorem surveyIn_of_lost (hroot : (view []).isDirectory (Path.ofText game).text = .ok true)
    {e : Files.FileError}
    (h : chooseExecutables (view []) main
      (findExecutables (view []) settings (Path.ofText game)).value = .error e) :
    ∃ result message, surveyIn view settings game main = .ok result ∧
      result.value = { errors := [message] } := by
  refine ⟨⟨{ errors := [s!"Analysis failed: {e.message}"] },
    (findExecutables (view []) settings (Path.ofText game)).notes ++
      [.error s!"DRM analysis of {(Path.ofText game).text} failed"]⟩, _, ?_, rfl⟩
  rw [surveyIn, hroot]
  simp only [bind, Except.bind, Bool.not_true, Bool.false_eq_true, if_false, h]
  rfl

/-- The survey of a directory is its analysis from the executables that were chosen, in the tree as it
stands once the notes on the search for them have been logged. -/
theorem surveyIn_of_directory (hroot : (view []).isDirectory (Path.ofText game).text = .ok true)
    {executables : List Path}
    (h : chooseExecutables (view []) main
      (findExecutables (view []) settings (Path.ofText game)).value = .ok executables) :
    ∃ result, surveyIn view settings game main = .ok result ∧
      result.value = (analyseIn
        (fun notes => view ((findExecutables (view []) settings (Path.ofText game)).notes ++ notes))
        settings (Path.ofText game) executables).value := by
  let found := findExecutables (view []) settings (Path.ofText game)
  let analysis := analyseIn (fun notes => view (found.notes ++ notes)) settings (Path.ofText game)
    executables
  refine ⟨⟨analysis.value, found.notes ++ analysis.notes⟩, ?_, rfl⟩
  rw [surveyIn, hroot]
  simp only [bind, Except.bind, Bool.not_true, Bool.false_eq_true, if_false, h]
  rfl

end Outcomes

theorem chooseExecutables_of_looked (found : List Path)
    (h : ∀ spelled ∈ main, ¬ t.IsTooLong (Path.ofText spelled).text) :
    ∃ executables, chooseExecutables t main found = .ok executables := by
  cases main with
  | none => exact ⟨found, rfl⟩
  | some spelled =>
    obtain ⟨location, hlocation⟩ := Files.fileLocation_of_not_tooLong (h spelled rfl)
    rw [chooseExecutables, hlocation]
    cases location with
    | none => exact ⟨found, rfl⟩
    | some location => exact ⟨_, rfl⟩

/-- A main executable that cannot be looked up ends the choice. -/
theorem chooseExecutables_of_tooLong (found : List Path) {spelled : String}
    (h : t.IsTooLong (Path.ofText spelled).text) :
    ∃ e, chooseExecutables t (some spelled) found = .error e := by
  obtain ⟨e, hlocation⟩ := Files.fileLocation_of_tooLong h
  exact ⟨e, by rw [chooseExecutables, hlocation]; rfl⟩

theorem survey_of_tooLong (hroot : t.isDirectory (Path.ofText game).text = .ok true)
    {spelled : String} (h : t.IsTooLong (Path.ofText spelled).text) :
    ∃ result message, survey t settings game (some spelled) = .ok result ∧
      result.value = { errors := [message] } := by
  obtain ⟨e, hchoose⟩ :=
    chooseExecutables_of_tooLong (findExecutables t settings (Path.ofText game)).value h
  exact surveyIn_of_lost (fun _ => t) hroot hchoose

theorem survey_of_directory (hroot : t.isDirectory (Path.ofText game).text = .ok true)
    {executables : List Path}
    (h : chooseExecutables t main (findExecutables t settings (Path.ofText game)).value =
      .ok executables) :
    ∃ result, survey t settings game main = .ok result ∧
      result.value = (analyse t settings (Path.ofText game) executables).value := by
  rw [survey, analyse]
  exact surveyIn_of_directory (fun _ => t) hroot h

/-! ## Whether a verdict was computed -/

/-- Whether there is a directory to analyse, and a main executable that can be looked up if one is named. -/
def Analysable (t : FileTree) (game : String) (main : Option String) : Prop :=
  t.isDirectory (Path.ofText game).text = .ok true ∧
    ∀ spelled ∈ main, ¬ t.IsTooLong (Path.ofText spelled).text

/-- What is looked at changes neither the errors of an analysis nor how many executables it counts. -/
theorem exists_conclude_analyseFrom (view : List Log.Note → FileTree) (settings : Settings) (root : Path)
    (executables : List Path) (start : Noted Analysis) :
    ∃ a : Analysis, (analyseFrom view settings root executables start).value = a.conclude ∧
      a.errors = start.value.errors ∧ a.executables = start.value.executables := by
  have hstep (b : Noted Analysis) (path : Path) :
      (absorbExecutable view settings b path).value.errors = b.value.errors ∧
        (absorbExecutable view settings b path).value.executables = b.value.executables := by
    rw [absorbExecutable, Noted.absorb, Analysis.absorb_eq]
    exact ⟨rfl, rfl⟩
  have hlooked : (executables.foldl (absorbExecutable view settings) start).value.errors =
        start.value.errors ∧
      (executables.foldl (absorbExecutable view settings) start).value.executables =
        start.value.executables := by
    induction executables generalizing start with
    | nil => exact ⟨rfl, rfl⟩
    | cons path rest ih =>
      obtain ⟨herrors, hcount⟩ := ih (absorbExecutable view settings start path)
      exact ⟨herrors.trans (hstep start path).1, hcount.trans (hstep start path).2⟩
  refine ⟨_, rfl, ?_⟩
  rw [Noted.absorb, Noted.absorb, Analysis.absorb_eq, Analysis.absorb_eq]
  exact hlooked

/-- What a survey can come to: nothing, a verdict without errors, or an error without a verdict. -/
theorem surveyIn_outcome (view : List Log.Note → FileTree) (settings : Settings) (game : String)
    (main : Option String) :
    (∃ e, (view []).isDirectory (Path.ofText game).text = .error e ∧
      surveyIn view settings game main = .error e) ∨
    ∃ result, surveyIn view settings game main = .ok result ∧
      (Analysable (view []) game main ∧
          (∃ a : Analysis, result.value = a.conclude ∧ a.errors = []) ∨
        ¬ Analysable (view []) game main ∧ ∃ message, result.value = { errors := [message] }) := by
  cases hroot : (view []).isDirectory (Path.ofText game).text with
  | error e => exact .inl ⟨e, rfl, surveyIn_of_error view hroot⟩
  | ok found =>
    refine .inr ?_
    cases found with
    | false =>
      obtain ⟨result, message, hsurvey, hvalue⟩ := surveyIn_of_missing view hroot
      refine ⟨result, hsurvey, .inr ⟨fun h => ?_, message, hvalue⟩⟩
      rw [Analysable, hroot] at h
      exact nomatch h.1
    | true =>
      by_cases hmain : ∀ spelled ∈ main, ¬ (view []).IsTooLong (Path.ofText spelled).text
      · obtain ⟨executables, hchoose⟩ := chooseExecutables_of_looked
          (findExecutables (view []) settings (Path.ofText game)).value hmain
        obtain ⟨result, hsurvey, hvalue⟩ := surveyIn_of_directory view hroot hchoose
        obtain ⟨a, hconcluded, herrors, -⟩ := exists_conclude_analyseFrom
          (fun notes => view ((findExecutables (view []) settings (Path.ofText game)).notes ++ notes))
          settings (Path.ofText game) executables ⟨{ executables := executables.length },
            [analysingNote (Path.ofText game) executables]⟩
        exact ⟨result, hsurvey, .inl ⟨⟨hroot, hmain⟩, a, hvalue.trans hconcluded, herrors⟩⟩
      · have hlong : ∃ spelled, main = some spelled ∧ (view []).IsTooLong (Path.ofText spelled).text := by
          simpa only [not_forall, not_not, exists_prop, Option.mem_def] using hmain
        obtain ⟨spelled, rfl, hlong⟩ := hlong
        obtain ⟨e, hchoose⟩ := chooseExecutables_of_tooLong
          (findExecutables (view []) settings (Path.ofText game)).value hlong
        obtain ⟨result, message, hsurvey, hvalue⟩ := surveyIn_of_lost view hroot hchoose
        exact ⟨result, hsurvey, .inr ⟨fun h => hmain h.2, message, hvalue⟩⟩

/-- A second verdict is no other than the first. -/
theorem Analysis.conclude_conclude (a : Analysis) : a.conclude.conclude = a.conclude := rfl

/-- Nothing is detected in a lost analysis, so a verdict on it would find it compatible. -/
theorem Analysis.compatible_conclude_lost (message : String) :
    (conclude { errors := [message] }).verdict.compatible = true :=
  rfl

theorem Analysis.conclude_lost_ne (message : String) :
    conclude { errors := [message] } ≠ { errors := [message] } := by
  intro h
  have hcompatible := compatible_conclude_lost message
  rw [h] at hcompatible
  exact Bool.noConfusion hcompatible

/-- A survey hands out an analysis with its verdict computed exactly if there was a directory to analyse
and the main executable could be looked up, and exactly if it hands it out without errors. Otherwise the
verdict is the one that an analysis starts with, and computing it would turn it into its opposite. -/
theorem surveyIn_conclude_eq_iff (view : List Log.Note → FileTree) (settings : Settings) (game : String)
    (main : Option String) :
    (∃ e, (view []).isDirectory (Path.ofText game).text = .error e ∧
      surveyIn view settings game main = .error e) ∨
    ∃ result, surveyIn view settings game main = .ok result ∧
      (result.value.conclude = result.value ↔ Analysable (view []) game main) ∧
      (result.value.errors = [] ↔ Analysable (view []) game main) ∧
      (¬ Analysable (view []) game main →
        result.value.verdict = {} ∧ result.value.verdict.compatible = false ∧
          result.value.conclude.verdict.compatible = true) := by
  rcases surveyIn_outcome view settings game main with
    herror | ⟨result, hsurvey, ⟨hcan, a, hvalue, herrors⟩ | ⟨hcannot, message, hvalue⟩⟩
  · exact .inl herror
  · refine .inr ⟨result, hsurvey, iff_of_true ?_ hcan, iff_of_true ?_ hcan, fun h => absurd hcan h⟩
    · rw [hvalue, Analysis.conclude_conclude]
    · rw [hvalue]
      exact herrors
  · refine .inr ⟨result, hsurvey, iff_of_false ?_ hcannot, iff_of_false ?_ hcannot, fun _ => ?_⟩
    · rw [hvalue]
      exact Analysis.conclude_lost_ne message
    · rw [hvalue]
      exact List.cons_ne_nil _ _
    · rw [hvalue]
      exact ⟨rfl, rfl, Analysis.compatible_conclude_lost message⟩

/-- Where there is no directory, a survey hands out an analysis whose verdict was never computed. -/
theorem survey_missing_conclude_ne :
    ∃ result, survey {} {} "nope" none = .ok result ∧ result.value.conclude ≠ result.value := by
  have hroot : ({} : FileTree).isDirectory (Path.ofText "nope").text = .ok false := rfl
  obtain ⟨result, message, hsurvey, hvalue⟩ :
      ∃ result message, survey {} {} "nope" none = .ok result ∧ result.value = { errors := [message] } :=
    surveyIn_of_missing (fun _ => {}) hroot
  refine ⟨result, hsurvey, ?_⟩
  rw [hvalue]
  exact Analysis.conclude_lost_ne message

end PeSignals.Protection

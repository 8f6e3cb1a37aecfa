import Mathlib
import PeSignals.Proofs.Files.Whereabouts
import PeSignals.Proofs.Protection.Selection
import PeSignals.Proofs.Protection.Survey

/-!
# The main executable

The main executable is looked at first, and it is taken out of the executables that are found, however it is
spelled. Paths are compared without their double dots, and such a path tells which file it leads to.
-/
namespace PeSignals.Protection

open Files (FileTree FoundFile Location Path)

variable {t : FileTree} {settings : Settings} {game : String} {main : Option String}

/-- Whether a path leads to the file at a location, and says so once it has no double dots. -/
structure LeadsTo (t : FileTree) (path : Path) (location : Location) : Prop where
  followed : t.fileOf? path = some location
  resolved : t.resolved path = t.top.append location

/-! ## Where the executables are -/

theorem leadsTo_of_mem_walk (ht : t.IsSound) {f : FoundFile} (h : f ∈ t.walk (Path.ofText game)) :
    ∃ location, LeadsTo t f.path location := by
  obtain ⟨g, rfl⟩ := Files.mem_walk.mp h
  have hread := Files.isRead_ofText game
  have hfile := Files.FileTree.fileOf?_append ht hread g.found g.stands g.proper
  have hnames : ∀ name ∈ g.relative, Files.IsName name := fun name hname =>
    (ht.named _ g.stands).2 name (List.mem_append_right _ hname)
  exact ⟨_, hfile, Files.FileTree.resolved_of_fileOf? ht (hread.append hnames) hfile⟩

/-- Files that a walk meets under different paths are different files. -/
theorem path_eq_of_fileOf?_eq (ht : t.IsSound) {f g : FoundFile} (hf : f ∈ t.walk (Path.ofText game))
    (hg : g ∈ t.walk (Path.ofText game)) (hsame : t.fileOf? f.path = t.fileOf? g.path) : f.path = g.path := by
  have hread := Files.isRead_ofText game
  obtain ⟨a, rfl⟩ := Files.mem_walk.mp hf
  obtain ⟨b, rfl⟩ := Files.mem_walk.mp hg
  have hdirectory : a.directory = b.directory :=
    Files.Place.directory.inj (Except.ok.inj (a.found.symm.trans b.found))
  have ha := Files.FileTree.fileOf?_append ht hread a.found a.stands a.proper
  have hb := Files.FileTree.fileOf?_append ht hread b.found b.stands b.proper
  have hlocation := Option.some.inj (ha.symm.trans (hsame.trans hb))
  rw [hdirectory] at hlocation
  exact congrArg (Path.append _) (List.append_cancel_left hlocation)

/-- The executables that are found are different files. -/
theorem nodup_fileOf?_findExecutables (settings : Settings) (ht : t.IsSound)
    (hroot : t.isDirectory (Path.ofText game).text = .ok true) :
    let found := (findExecutables t settings (Path.ofText game)).value
    (found.map t.fileOf?).Nodup ∧ ∀ path ∈ found, ∃ location, LeadsTo t path location := by
  obtain ⟨selected, hfound, hpaths, hmet⟩ := exists_findExecutables_eq settings ht.distinct hroot
  rw [hfound]
  constructor
  · refine hpaths.map_on fun path hpath next hnext hsame => ?_
    obtain ⟨f, hf, rfl⟩ := List.mem_map.mp hpath
    obtain ⟨g, hg, rfl⟩ := List.mem_map.mp hnext
    exact path_eq_of_fileOf?_eq ht (hmet f hf) (hmet g hg) hsame
  · intro path hpath
    obtain ⟨f, hf, rfl⟩ := List.mem_map.mp hpath
    exact leadsTo_of_mem_walk ht (hmet f hf)

/-! ## The main executable and the others -/

/-- Putting the main executable first takes out the paths that lead to its file. -/
theorem mainFirst_eq {path : Path} {location : Location} (hmain : LeadsTo t path location)
    {others : List Path} (h : ∀ other ∈ others, ∃ location, LeadsTo t other location) :
    mainFirst t path others =
      t.top.append location :: others.filter fun other => t.fileOf? other ≠ some location := by
  rw [mainFirst, hmain.resolved]
  refine congrArg _ (List.filter_congr fun other hother => ?_)
  obtain ⟨place, hplace⟩ := h other hother
  rw [hplace.resolved, hplace.followed]
  exact decide_eq_decide.mpr (not_congr (t.top.append_injective.eq_iff.trans (Option.some_inj.symm)))

/-- A main executable that does not exist changes nothing. -/
theorem chooseExecutables_of_absent {found : List Path}
    (h : ∀ spelled ∈ main, t.fileLocation (Path.ofText spelled).text = .ok none) :
    chooseExecutables t main found = .ok found := by
  cases main with
  | none => rfl
  | some spelled =>
    rw [chooseExecutables, h spelled rfl]
    rfl

/-- A main executable that exists comes first, and whatever else leads to its file is taken out. -/
theorem chooseExecutables_of_file (ht : t.IsSound) {found : List Path}
    (hfound : ∀ path ∈ found, ∃ location, LeadsTo t path location) {spelled : String} {location : Location}
    (h : t.fileLocation (Path.ofText spelled).text = .ok (some location)) :
    chooseExecutables t (some spelled) found =
      .ok (t.top.append location :: found.filter fun path => t.fileOf? path ≠ some location) := by
  have hfile := (Files.FileTree.fileOf?_of_fileLocation h).1
  have hmain : LeadsTo t (Path.ofText spelled) location :=
    ⟨hfile, Files.FileTree.resolved_of_fileOf? ht (Files.isRead_ofText spelled) hfile⟩
  rw [chooseExecutables, h, ← mainFirst_eq hmain hfound]
  rfl

/-! ## The survey -/

section Survey

variable (view : List Log.Note → FileTree)

theorem surveyIn_of_chosen (hdistinct : ((view []).files.map Prod.fst).Nodup)
    (hroot : (view []).isDirectory (Path.ofText game).text = .ok true) {executables : List Path}
    (h : chooseExecutables (view []) main (findExecutables (view []) settings (Path.ofText game)).value =
      .ok executables) :
    ∃ result, surveyIn view settings game main = .ok result ∧
      result.value = (analyseIn view settings (Path.ofText game) executables).value ∧
      result.value.executables = executables.length := by
  obtain ⟨selected, hfound, -⟩ := exists_findExecutables_eq settings hdistinct hroot
  obtain ⟨result, hsurvey, hvalue⟩ := surveyIn_of_directory view hroot h
  rw [hfound] at hvalue
  obtain ⟨a, hconcluded, -, hcount⟩ := exists_conclude_analyseFrom view settings (Path.ofText game) executables
    ⟨{ executables := executables.length }, [analysingNote (Path.ofText game) executables]⟩
  refine ⟨result, hsurvey, hvalue, ?_⟩
  rw [hvalue]
  exact (congrArg Analysis.executables hconcluded).trans hcount

/-- A survey of a directory looks at each of its executables once: the main one first if it is a file,
however it is spelled and wherever it stands, and then those that are found and lead to other files, in their
order. The count of executables is that of all these, whether they hold images or not. -/
theorem surveyIn_looksOnce (settings : Settings) (ht : (view []).IsSound)
    (hroot : (view []).isDirectory (Path.ofText game).text = .ok true)
    (hmain : ∀ spelled ∈ main, ¬ (view []).IsTooLong (Path.ofText spelled).text) :
    let t := view []
    let found := (findExecutables t settings (Path.ofText game)).value
    ∃ executables result, surveyIn view settings game main = .ok result ∧
      result.value = (analyseIn view settings (Path.ofText game) executables).value ∧
      result.value.executables = executables.length ∧
      (∀ path ∈ executables, (t.fileOf? path).isSome) ∧ (executables.map t.fileOf?).Nodup ∧
      (∀ spelled ∈ main, ∀ location, t.fileLocation (Path.ofText spelled).text = .ok (some location) →
        executables = t.top.append location :: found.filter fun path => t.fileOf? path ≠ some location) ∧
      ((∀ spelled ∈ main, t.fileLocation (Path.ofText spelled).text = .ok none) → executables = found) := by
  intro t found
  obtain ⟨hnodup, hfound⟩ := nodup_fileOf?_findExecutables settings ht hroot
  have hsome : ∀ path ∈ found, (t.fileOf? path).isSome := fun path hpath => by
    obtain ⟨location, hlocation⟩ := hfound path hpath
    rw [hlocation.followed]
    rfl
  by_cases habsent : ∀ spelled ∈ main, t.fileLocation (Path.ofText spelled).text = .ok none
  · -- There is nothing to put first.
    obtain ⟨result, hsurvey, hvalue, hcount⟩ :=
      surveyIn_of_chosen view ht.distinct hroot (chooseExecutables_of_absent habsent)
    refine ⟨found, result, hsurvey, hvalue, hcount, hsome, hnodup, fun spelled hspelled location h => ?_,
      fun _ => rfl⟩
    cases h.symm.trans (habsent spelled hspelled)
  · have hnamed : ∃ spelled, main = some spelled ∧
        t.fileLocation (Path.ofText spelled).text ≠ .ok none := by
      simpa only [not_forall, exists_prop, Option.mem_def] using habsent
    obtain ⟨spelled, rfl, hpresent⟩ := hnamed
    obtain ⟨file, hfile⟩ := Files.fileLocation_of_not_tooLong (hmain spelled rfl)
    obtain ⟨location, rfl⟩ := Option.ne_none_iff_exists'.mp fun hnone => hpresent (hnone ▸ hfile)
    obtain ⟨bytes, hstands⟩ := (Files.FileTree.fileOf?_of_fileLocation hfile).2
    have hfirst := Files.FileTree.fileOf?_top_append ht hstands
    obtain ⟨result, hsurvey, hvalue, hcount⟩ :=
      surveyIn_of_chosen view ht.distinct hroot (chooseExecutables_of_file ht hfound hfile)
    refine ⟨_, result, hsurvey, hvalue, hcount, ?_, ?_, ?_, fun h => absurd (h spelled rfl) hpresent⟩
    · rintro path (_ | ⟨_, hpath⟩)
      · rw [hfirst]
        rfl
      · exact hsome path (List.mem_filter.mp hpath).1
    · -- Whatever leads to the file of the main executable was taken out of the others.
      rw [List.map_cons, hfirst, List.nodup_cons, List.mem_map]
      refine ⟨?_, hnodup.sublist (List.filter_sublist.map _)⟩
      rintro ⟨path, hpath, hsame⟩
      exact of_decide_eq_true (List.mem_filter.mp hpath).2 hsame
    · rintro _ ⟨⟩ other hother
      cases hother.symm.trans hfile
      rfl

end Survey

def workGame : FileTree where
  root := "/games"
  working := ["work"]
  files := [(["work", "g", "a.exe"], ⟨#[0]⟩), (["work", "g", "b.exe"], ⟨#[0, 0]⟩)]
  directories := [["work"], ["work", "g"]]

theorem isSound_workGame : workGame.IsSound where
  rooted := ⟨["games"], by decide, by decide⟩
  working := by decide
  distinct := by decide
  named := by decide
  placed := by decide

theorem surveyIn_looksOnce_workGame :
    let found := (findExecutables workGame {} (Path.ofText "g")).value
    ∃ executables result, surveyIn (fun _ => workGame) {} "g" (some "../work/./g//b.exe") = .ok result ∧
      result.value = (analyseIn (fun _ => workGame) {} (Path.ofText "g") executables).value ∧
      result.value.executables = executables.length ∧
      (∀ path ∈ executables, (workGame.fileOf? path).isSome) ∧ (executables.map workGame.fileOf?).Nodup ∧
      executables = ⟨"/", ["games", "work", "g", "b.exe"]⟩ ::
        found.filter fun path => workGame.fileOf? path ≠ some ["work", "g", "b.exe"] := by
  have hroot : workGame.isDirectory (Path.ofText "g").text = .ok true := rfl
  have hmain : workGame.fileLocation (Path.ofText "../work/./g//b.exe").text =
      .ok (some ["work", "g", "b.exe"]) := rfl
  have hshort : ∀ spelled ∈ some "../work/./g//b.exe", ¬ workGame.IsTooLong (Path.ofText spelled).text := by
    rintro _ ⟨⟩ hlong
    obtain ⟨e, herror⟩ := Files.fileLocation_of_tooLong hlong
    cases hmain.symm.trans herror
  obtain ⟨executables, result, hsurvey, hvalue, hcount, hsome, hnodup, hfirst, -⟩ :=
    surveyIn_looksOnce (fun _ => workGame) {} isSound_workGame hroot hshort
  exact ⟨executables, result, hsurvey, hvalue, hcount, hsome, hnodup, hfirst _ rfl _ hmain⟩

/-- A game of one executable. -/
def loneGame : FileTree where
  files := [(["g", "a.exe"], ⟨#[0x4d, 0x5a]⟩)]
  directories := [["g"]]

/-- With a main executable that cannot be looked up, the executable that is found is not looked at. -/
theorem survey_overlong_looksAtNone :
    loneGame.isDirectory (Path.ofText "g").text = .ok true ∧
    (findExecutables loneGame {} (Path.ofText "g")).value = [⟨"", ["g", "a.exe"]⟩] ∧
    ∃ result, survey loneGame {} "g" (some Files.overlongName) = .ok result ∧
      result.value.executables = 0 := by
  have hroot : loneGame.isDirectory (Path.ofText "g").text = .ok true := rfl
  obtain ⟨result, message, hsurvey, hvalue⟩ :
      ∃ result message, survey loneGame {} "g" (some Files.overlongName) = .ok result ∧
        result.value = { errors := [message] } :=
    survey_of_tooLong hroot (Files.isTooLong_overlongName rfl)
  refine ⟨hroot, by decide +kernel, result, hsurvey, ?_⟩
  rw [hvalue]

end PeSignals.Protection

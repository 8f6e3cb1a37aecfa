import Mathlib
import PeSignals.Proofs.Display.Detection
import PeSignals.Proofs.Protection.Classification
import PeSignals.Proofs.Protection.Survey
import PeSignals.Proofs.Protection.Verdict
import PeSignals.Proofs.Scan.Bookkeeping

/-!
# Findings, verdict and display of a detection

Three tables say how bad a scheme is: the routes around it, the rules of the verdict and the severities of
findings. They agree on every scan: a case is hopeless for one of them exactly if it is for all.
-/
namespace PeSignals

open Display (displayDetection hopelessLine legible)
open Files (FileTree Path)
open Protection (Analysis Detection Facts Verdict denuvoGame)

/-! ## Severities -/

theorem Scan.highest?_eq_critical_iff {α : Type} (s : Scan α) :
    s.highest? = some .critical ↔ ∃ f ∈ s.findings, f.severity = .critical :=
  highest?_eq_some_iff.trans (and_iff_left fun _ _ => Nat.zero_le _)

namespace GameReport

/-- Findings are critical exactly for schemes without a way around. -/
theorem severity_eq_critical_iff (b : Protection.Bypass) :
    severity b = .critical ↔ b = .notPossible := by
  cases b <;> decide

/-- Whether there is no way around one of the detected schemes. -/
def IsHopeless (a : Analysis) : Prop := ∃ d ∈ a.detected, d.scheme.bypass = .notPossible

theorem isHopeless_facts_iff (a : Analysis) : a.facts.IsHopeless ↔ IsHopeless a := by
  simp only [Facts.IsHopeless, Analysis.facts, Analysis.schemes, IsHopeless, List.mem_map,
    exists_exists_and_eq_and]

/-! ## Findings -/

/-- Whether a finding is on a detection: it names the scheme and is rated by the route around it. -/
def IsOn (d : Detection) (f : Finding) : Prop :=
  f.title = d.scheme.displayName ++ " detected" ∧ f.severity = severity d.scheme.bypass

theorem trim_title (s : Protection.Scheme) :
    Text.trim (s.displayName ++ " detected") = s.displayName ++ " detected" := by
  cases s <;> decide

theorem isOn_finding (d : Detection) : IsOn d (finding d) :=
  ⟨trim_title d.scheme, rfl⟩

/-- One finding stands for each detection, in order. -/
theorem forall₂_findings (a : Analysis) : List.Forall₂ IsOn a.detected (findings a) :=
  List.forall₂_map_right_iff.mpr (List.forall₂_same.mpr fun d _ => isOn_finding d)

theorem highest?_scanOf (game : String) (now : Time.Moment) (a : Analysis) :
    (scanOf game now a).highest? = some .critical ↔ IsHopeless a := by
  have hfindings : (scanOf game now a).findings = a.detected.map finding := rfl
  rw [Scan.highest?_eq_critical_iff, hfindings, IsHopeless]
  simp only [List.mem_map, exists_exists_and_eq_and]
  exact exists_congr fun d => and_congr_right fun _ => severity_eq_critical_iff _

/-! ## Agreement -/

/-- What the findings, the verdict and the display of a scan say of the analysis in it. -/
structure Agrees (scan : Scan GameReport) : Prop where
  findings : List.Forall₂ IsOn scan.payload.analysis.detected scan.findings
  highest : scan.highest? = some .critical ↔ IsHopeless scan.payload.analysis
  packaging : scan.payload.analysis.verdict.packaging = .notPackageable ↔
    IsHopeless scan.payload.analysis
  drawn : (displayDetection scan).fault?.isNone = true
  /-- The display asks for the closing line once, or not at all. -/
  shown : IsHopeless scan.payload.analysis →
    (displayDetection scan).events.count hopelessLine = 1
  hidden : ¬ IsHopeless scan.payload.analysis →
    (displayDetection scan).events.count hopelessLine = 0
  /-- A terminal stops at a text that it cannot read, and prints the line unless it stopped before. -/
  printed : hopelessLine ∈ (legible (displayDetection scan).events).1 ↔ IsHopeless scan.payload.analysis ∧
    (legible ((displayDetection scan).events.takeWhile (· ≠ hopelessLine))).2 = none

theorem agrees_scanOf (game : String) (now : Time.Moment) {a : Analysis}
    (hpackaging : a.verdict.packaging = .notPackageable ↔ IsHopeless a)
    (hbar : Display.HasBar a.verdict.score) : Agrees (scanOf game now a) := by
  have hhighest := highest?_scanOf game now a
  obtain ⟨hdrawn, hcount⟩ := Display.count_displayDetection (s := scanOf game now a) hbar
  have hshown (h : IsHopeless a) : (displayDetection (scanOf game now a)).events.count hopelessLine = 1 := by
    rw [hcount, if_pos (hhighest.mpr h)]
  have hhidden (h : ¬ IsHopeless a) :
      (displayDetection (scanOf game now a)).events.count hopelessLine = 0 := by
    rw [hcount, if_neg fun hcritical => h (hhighest.mp hcritical)]
  have hmem : hopelessLine ∈ (displayDetection (scanOf game now a)).events ↔ IsHopeless a := by
    refine ⟨fun hmem => not_not.mp fun h => List.count_eq_zero.mp (hhidden h) hmem, fun h => ?_⟩
    exact List.count_pos_iff.mp (hshown h ▸ Nat.one_pos)
  refine ⟨forall₂_findings a, hhighest, hpackaging, hdrawn, hshown, hhidden, ?_⟩
  rw [Display.mem_legible_iff Display.check_hopelessLine, hmem]
  rfl

/-- An analysis that ended early knows nothing, so nothing in it is hopeless. -/
theorem agrees_of_lost (game : String) (now : Time.Moment) (message : String) :
    Agrees (scanOf game now { errors := [message] }) := by
  refine agrees_scanOf game now (iff_of_false nofun ?_) Display.hasBar_empty
  rintro ⟨d, hd, -⟩
  exact List.not_mem_nil hd

theorem agrees_of_conclude (game : String) (now : Time.Moment) (a : Analysis) :
    Agrees (scanOf game now a.conclude) := by
  refine agrees_scanOf game now ?_ (Display.hasBar_verdict a.facts)
  exact (Protection.verdict_iff_isHopeless a.facts).1.trans (isHopeless_facts_iff a)

/-! ## Detections -/

/-- Every scan of a game directory rates a case as hopeless in its findings, its verdict and on the
terminal alike, also while its log is written into the tree. A game in a directory is compatible unless the case
is hopeless or the main executable cannot be looked up. -/
theorem detectIn_agrees (view : List Log.Entry → FileTree) (settings : Settings) {game : String}
    (hgame : game ≠ "") (main : Option String) (now : Time.Moment) :
    (∃ e, (view []).isDirectory (Path.ofText game).text = .error e ∧
      detectIn view settings game main now = .error (.file e)) ∨
    ∃ logged, detectIn view settings game main now = .ok logged ∧ Agrees logged.scan ∧
      ((view []).isDirectory (Path.ofText game).text = .ok true →
        (logged.scan.payload.analysis.verdict.compatible = false ↔
          IsHopeless logged.scan.payload.analysis ∨
            ∃ spelled ∈ main, (view []).IsTooLong (Path.ofText spelled).text)) := by
  rw [detectIn, if_neg hgame]
  rcases Protection.surveyIn_outcome (view ∘ Log.tagged operation) settings game main with
    ⟨e, hroot, hsurvey⟩ | ⟨result, hsurvey, hvalue⟩
  · exact .inl ⟨e, hroot, by rw [hsurvey]; rfl⟩
  · refine .inr ⟨ofSurvey game now result, by rw [hsurvey]; rfl, ?_⟩
    change Agrees (scanOf game now result.value) ∧
      (_ → (result.value.verdict.compatible = false ↔ IsHopeless result.value ∨ _))
    rcases hvalue with ⟨hcan, a, hconcluded, -⟩ | ⟨hcannot, message, hlost⟩
    · rw [hconcluded]
      refine ⟨agrees_of_conclude game now a, fun _ => ?_⟩
      have hlooked : ¬ ∃ spelled ∈ main, (view []).IsTooLong (Path.ofText spelled).text := by
        rintro ⟨spelled, hspelled, hlong⟩
        exact hcan.2 spelled hspelled hlong
      rw [or_iff_left hlooked]
      exact (Protection.verdict_iff_isHopeless a.facts).2.trans (isHopeless_facts_iff a)
    · rw [hlost]
      refine ⟨agrees_of_lost game now message, fun hroot => iff_of_true rfl (.inr ?_)⟩
      by_contra hlooked
      exact hcannot ⟨hroot, fun spelled hspelled hlong => hlooked ⟨spelled, hspelled, hlong⟩⟩

/-- The analysis of a game directory is the payload of its scan. -/
theorem detect_of_directory {t : FileTree} (settings : Settings) {game : String} (hgame : game ≠ "")
    (now : Time.Moment) (hroot : t.isDirectory (Path.ofText game).text = .ok true) :
    ∃ logged, detect t settings game none now = .ok logged ∧ logged.scan = scanOf game now
      (Protection.analyse t settings (Path.ofText game)
        (Protection.findExecutables t settings (Path.ofText game)).value).value := by
  have hchoose : Protection.chooseExecutables t none
      (Protection.findExecutables t settings (Path.ofText game)).value =
      .ok (Protection.findExecutables t settings (Path.ofText game)).value := rfl
  obtain ⟨result, hsurvey, hvalue⟩ := Protection.survey_of_directory hroot hchoose
  rw [Protection.survey] at hsurvey
  refine ⟨ofSurvey game now result, ?_, by rw [← hvalue]; rfl⟩
  rw [detect, detectIn, if_neg hgame]
  change ((Protection.surveyIn (fun _ => t) settings game none).mapError _).map _ = _
  rw [hsurvey]
  rfl

theorem detected_denuvoGame :
    (Protection.analyse denuvoGame {} (.ofText "g")
      (Protection.findExecutables denuvoGame {} (.ofText "g")).value).value.detected =
        [⟨.denuvo, "Denuvo file: denuvo.txt", .medium⟩] := by
  decide +kernel

/-- Denuvo is hopeless, so all agree that the game is. -/
theorem detectIn_agrees_denuvoGame :
    "g" ≠ "" ∧ denuvoGame.isDirectory (Path.ofText "g").text = .ok true ∧
    ∃ logged, detectIn (fun _ => denuvoGame) {} "g" none ⟨0, false⟩ = .ok logged ∧ Agrees logged.scan ∧
      logged.scan.highest? = some .critical ∧
      logged.scan.payload.analysis.verdict.packaging = .notPackageable ∧
      logged.scan.payload.analysis.verdict.compatible = false ∧
      (displayDetection logged.scan).events.count hopelessLine = 1 := by
  have hnamed : "g" ≠ "" := by decide
  have hroot := Protection.isDirectory_denuvoGame
  obtain ⟨logged, hlogged, hscan⟩ := detect_of_directory {} hnamed ⟨0, false⟩ hroot
  have hhopeless : IsHopeless logged.scan.payload.analysis := by
    rw [hscan]
    exact ⟨_, detected_denuvoGame ▸ List.mem_singleton_self _, rfl⟩
  rcases detectIn_agrees (fun _ => denuvoGame) {} hnamed none ⟨0, false⟩ with
    ⟨e, herror, -⟩ | ⟨same, hsame, hagrees, hcompatible⟩
  · cases herror.symm.trans hroot
  · obtain rfl := Except.ok.inj (hlogged.symm.trans hsame)
    exact ⟨hnamed, hroot, logged, hlogged, hagrees, hagrees.highest.mpr hhopeless,
      hagrees.packaging.mpr hhopeless, (hcompatible hroot).mpr (.inl hhopeless), hagrees.shown hhopeless⟩

def emptyGame : FileTree where
  directories := [["g"]]

/-- A game with a file of Denuvo that is named like a colour in markup. -/
def colourfulGame : FileTree where
  files := [(["g", "denuvo[rgb(,,)].txt"], ⟨#[0]⟩)]
  directories := [["g"]]

theorem detected_colourfulGame :
    (Protection.analyse colourfulGame {} (.ofText "g") []).value.detected =
      [⟨.denuvo, "Denuvo file: denuvo[rgb(,,)].txt", .medium⟩] := by
  decide +kernel

theorem isFaulty_colourful : Display.IsFaulty "Denuvo file: denuvo[rgb(,,)].txt" := by
  have hparts : Display.partsOf "Denuvo file: denuvo[rgb(,,)].txt" =
      [.plain "Denuvo file: denuvo".toList, .plain [], .tag ⟨"rgb(,,)", none, 19⟩,
        .plain ".txt".toList] := by
    decide
  exact Display.isFaulty_of_tag hparts (by decide) Display.normalStyle_emptyShares

theorem detect_of_survey {t : FileTree} {main : Option String} {result : Protection.Noted Analysis}
    (h : Protection.survey t {} "g" main = .ok result) :
    detect t {} "g" main ⟨0, false⟩ = .ok (ofSurvey "g" ⟨0, false⟩ result) := by
  rw [detect, detectIn, if_neg (by decide)]
  change ((Protection.survey t {} "g" main).mapError _).map _ = _
  rw [h]
  rfl

theorem detect_emptyGame :
    ∃ logged, detect emptyGame {} "g" (some Files.overlongName) ⟨0, false⟩ = .ok logged ∧
      logged.scan.payload.analysis.verdict.compatible = false ∧
      ¬ IsHopeless logged.scan.payload.analysis := by
  have hroot : emptyGame.isDirectory (Path.ofText "g").text = .ok true := rfl
  obtain ⟨result, message, hsurvey, hvalue⟩ :
      ∃ result message, Protection.survey emptyGame {} "g" (some Files.overlongName) = .ok result ∧
        result.value = { errors := [message] } :=
    Protection.survey_of_tooLong hroot (Files.isTooLong_overlongName rfl)
  refine ⟨_, detect_of_survey hsurvey, ?_⟩
  change result.value.verdict.compatible = false ∧ ¬ IsHopeless result.value
  rw [hvalue]
  refine ⟨rfl, ?_⟩
  rintro ⟨d, hd, -⟩
  exact List.not_mem_nil hd

theorem detect_colourfulGame :
    ∃ logged, detect colourfulGame {} "g" none ⟨0, false⟩ = .ok logged ∧
      IsHopeless logged.scan.payload.analysis ∧
      hopelessLine ∉ (legible (displayDetection logged.scan).events).1 := by
  have hroot : colourfulGame.isDirectory (Path.ofText "g").text = .ok true := rfl
  have hchoose : Protection.chooseExecutables colourfulGame none
      (Protection.findExecutables colourfulGame {} (.ofText "g")).value = .ok [] := by
    have hfound : (Protection.findExecutables colourfulGame {} (.ofText "g")).value = [] := by
      decide +kernel
    rw [hfound]
    rfl
  obtain ⟨result, hsurvey, hvalue⟩ := Protection.survey_of_directory hroot hchoose
  have hbar : Display.HasBar result.value.verdict.score := by
    rw [hvalue, Protection.value_analyse]
    exact Display.hasBar_verdict _
  have hmem : ⟨.denuvo, "Denuvo file: denuvo[rgb(,,)].txt", .medium⟩ ∈ result.value.detected := by
    rw [hvalue, detected_colourfulGame]
    exact List.mem_singleton_self _
  exact ⟨_, detect_of_survey hsurvey, ⟨_, hmem, rfl⟩,
    Display.hopelessLine_notMem_legible hbar hmem isFaulty_colourful⟩

/-- A game path that cannot be looked up ends a detection without a scan. -/
theorem detect_of_tooLong {t : FileTree} {game : String} (hgame : game ≠ "")
    (h : t.IsTooLong (Path.ofText game).text) (main : Option String) (now : Time.Moment) :
    ∃ fault, detect t {} game main now = .error fault := by
  obtain ⟨e, hprobe⟩ := Files.probe_of_tooLong h
  have hroot : t.isDirectory (Path.ofText game).text = .error e := by
    rw [FileTree.isDirectory, hprobe]
    rfl
  refine ⟨.file e, ?_⟩
  have hsurvey : Protection.surveyIn ((fun _ => t) ∘ Log.tagged operation) {} game main = .error e :=
    Protection.surveyIn_of_error _ hroot
  rw [detect, detectIn, if_neg hgame, hsurvey]
  rfl

/-- With a main executable that cannot be looked up a game counts as incompatible although nothing was
detected in it. A file name in faulty markup keeps a terminal from the line on a hopeless case. A game whose
own path cannot be looked up has no scan at all. -/
theorem detect_disagrees :
    (emptyGame.isDirectory (Path.ofText "g").text = .ok true ∧
      ∃ logged, detect emptyGame {} "g" (some Files.overlongName) ⟨0, false⟩ = .ok logged ∧
        logged.scan.payload.analysis.verdict.compatible = false ∧
        ¬ IsHopeless logged.scan.payload.analysis) ∧
    (∃ logged, detect colourfulGame {} "g" none ⟨0, false⟩ = .ok logged ∧
      IsHopeless logged.scan.payload.analysis ∧
      hopelessLine ∉ (legible (displayDetection logged.scan).events).1) ∧
    ∃ fault, detect emptyGame {} Files.overlongName none ⟨0, false⟩ = .error fault :=
  have hraised : ∃ fault, detect emptyGame {} Files.overlongName none ⟨0, false⟩ = .error fault :=
    detect_of_tooLong Files.overlongName_ne_empty (Files.isTooLong_overlongName rfl) none ⟨0, false⟩
  ⟨⟨rfl, detect_emptyGame⟩, detect_colourfulGame, hraised⟩

end GameReport

end PeSignals

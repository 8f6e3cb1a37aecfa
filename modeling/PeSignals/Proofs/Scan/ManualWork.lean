import Mathlib
import PeSignals.Image.Writer
import PeSignals.Proofs.Protection.Grading
import PeSignals.Proofs.Scan.Detection

/-!
# Games that need manual work

A scan with a finding of high or critical severity takes something off the score and says why, unless the
work is the one that no rule grades.
-/
namespace PeSignals.GameReport

open Files (FileTree Path)
open Image (nameBytes numberBytes padded zeros)
open Protection (Analysis)

/-- Whether a scan reports a scheme that takes manual work to get around, or that there is no way around. -/
def AsksForWork (scan : Scan GameReport) : Prop :=
  ∃ f ∈ scan.findings, f.severity = .high ∨ f.severity = .critical

/-- Findings are high exactly for schemes that need a patch made by hand. -/
theorem severity_eq_high_iff (b : Protection.Bypass) : severity b = .high ↔ b = .manualPatch := by
  cases b <;> decide

theorem asksForWork_scanOf (game : String) (now : Time.Moment) (a : Analysis) :
    AsksForWork (scanOf game now a) ↔
      ∃ s ∈ a.facts.schemes, s.bypass = .manualPatch ∨ s.bypass = .notPossible := by
  have hfindings : (scanOf game now a).findings = a.detected.map finding := rfl
  have hschemes : a.facts.schemes = a.detected.map (·.scheme) := rfl
  rw [AsksForWork, hfindings, hschemes]
  simp only [List.mem_map, exists_exists_and_eq_and]
  refine exists_congr fun d => and_congr_right fun _ => ?_
  rw [(isOn_finding d).2, severity_eq_high_iff, severity_eq_critical_iff]

theorem asksForWork_reserved (game : String) (now : Time.Moment) {a : Analysis} (h : a.IsRecognised)
    (hvalue : (∃ b : Analysis, a = b.conclude) ∨ ∃ message, a = { errors := [message] })
    (hwork : AsksForWork (scanOf game now a)) :
    (a.verdict.IsReserved ↔ ¬ a.facts.IsOverlooked) ∧
      (a.facts.IsOverlooked → a.verdict.score.toFloat = 1 ∧ a.verdict.reason = "") := by
  rw [asksForWork_scanOf] at hwork
  rcases hvalue with ⟨b, rfl⟩ | ⟨message, rfl⟩
  · exact Protection.Verdict.isReserved_or_overlooked h hwork
  · obtain ⟨s, hs, -⟩ := hwork
    exact absurd hs List.not_mem_nil

/-- Every scan of a directory that asks for manual work takes something off the score and states a reason,
unless SecuROM is all there is: then the score is full and no reason is stated. -/
theorem detectIn_reserved (view : List Log.Entry → FileTree) (settings : Settings) {game : String}
    (hgame : game ≠ "") (main : Option String) (now : Time.Moment)
    (hroot : (view []).isDirectory (Path.ofText game).text = .ok true) :
    ∃ logged, detectIn view settings game main now = .ok logged ∧
      (AsksForWork logged.scan →
        let a := logged.scan.payload.analysis
        (a.verdict.IsReserved ↔ ¬ a.facts.IsOverlooked) ∧
          (a.facts.IsOverlooked → a.verdict.score.toFloat = 1 ∧ a.verdict.reason = "")) := by
  rw [detectIn, if_neg hgame]
  rcases Protection.surveyIn_outcome (view ∘ Log.tagged operation) settings game main with
    ⟨e, herror, -⟩ | ⟨result, hsurvey, hvalue⟩
  · rw [Function.comp_apply] at herror
    cases herror.symm.trans hroot
  · refine ⟨ofSurvey game now result, by rw [hsurvey]; rfl, ?_⟩
    have hrecognised := Protection.isRecognised_surveyIn hsurvey
    rcases hvalue with ⟨-, a, hconcluded, -⟩ | ⟨-, hlost⟩
    · exact asksForWork_reserved game now hrecognised (.inl ⟨a, hconcluded⟩)
    · exact asksForWork_reserved game now hrecognised (.inr hlost)

/-- The scan of a game with a file of Denuvo. -/
theorem detectIn_reserved_denuvoGame :
    "g" ≠ "" ∧ Protection.denuvoGame.isDirectory (Path.ofText "g").text = .ok true ∧
      ∃ logged, detectIn (fun _ => Protection.denuvoGame) {} "g" none ⟨0, false⟩ = .ok logged ∧
        AsksForWork logged.scan ∧ logged.scan.payload.analysis.verdict.IsReserved := by
  have hroot := Protection.isDirectory_denuvoGame
  obtain ⟨logged, hlogged, hreserved⟩ :=
    detectIn_reserved (fun _ => Protection.denuvoGame) {} (by decide) none ⟨0, false⟩ hroot
  obtain ⟨same, hsame, hscan⟩ := detect_of_directory {} (by decide) ⟨0, false⟩ hroot
  obtain rfl := Except.ok.inj (hlogged.symm.trans hsame)
  have hfound : (Protection.analyse Protection.denuvoGame {} (Path.ofText "g")
      (Protection.findExecutables Protection.denuvoGame {} (Path.ofText "g")).value).value.schemes =
      [.denuvo] := by
    decide +kernel
  have hwork : AsksForWork logged.scan := by
    rw [hscan, asksForWork_scanOf]
    exact ⟨.denuvo, by rw [Analysis.facts, hfound]; exact List.mem_singleton_self _, .inr rfl⟩
  refine ⟨by decide, hroot, logged, hlogged, hwork, (hreserved hwork).1.mpr fun h => ?_⟩
  have hmem : Protection.Scheme.secuRom ∈ logged.scan.payload.analysis.schemes := h.secuRom
  rw [hscan] at hmem
  change _ ∈ (Protection.analyse _ _ _ _).value.schemes at hmem
  rw [hfound] at hmem
  exact absurd hmem (by decide)

/-- A game whose only executable holds the name of SecuROM in its stub. -/
def secuRomGame : FileTree where
  files := [(["g", "a.exe"], ⟨(
    padded Image.peOffsetField ([0x4D, 0x5A] ++ nameBytes "securom") ++ numberBytes 4 64 ++
    [0x50, 0x45, 0, 0] ++ numberBytes 2 0x14C ++ zeros 20).toArray⟩)]
  directories := [["g"]]

/-- SecuROM is rated high, and the score is full and says nothing. -/
theorem detect_secuRomGame :
    secuRomGame.isDirectory (Path.ofText "g").text = .ok true ∧
    ∃ logged, detect secuRomGame {} "g" none ⟨0, false⟩ = .ok logged ∧ AsksForWork logged.scan ∧
      logged.scan.payload.analysis.verdict.score.toFloat = 1 ∧
      logged.scan.payload.analysis.verdict.reason = "" := by
  have hroot : secuRomGame.isDirectory (Path.ofText "g").text = .ok true := rfl
  obtain ⟨logged, hlogged, hscan⟩ := detect_of_directory {} (by decide) ⟨0, false⟩ hroot
  have hfound : (Protection.analyse secuRomGame {} (Path.ofText "g")
      (Protection.findExecutables secuRomGame {} (Path.ofText "g")).value).value.facts =
      { schemes := [.secuRom] } := by
    decide +kernel
  have hverdict : logged.scan.payload.analysis.verdict = Protection.Verdict.of { schemes := [.secuRom] } := by
    rw [hscan, ← hfound]
    exact Protection.verdict_analyse _ _ _ _
  refine ⟨hroot, logged, hlogged, ?_, ?_, ?_⟩
  · rw [hscan, asksForWork_scanOf, hfound]
    exact ⟨.secuRom, List.mem_singleton_self _, .inl rfl⟩
  · rw [hverdict]
    exact Protection.toFloat_full
  · rw [hverdict]
    rfl

end PeSignals.GameReport

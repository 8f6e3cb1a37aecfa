import Mathlib
import PeSignals.Proofs.Protection.Classification
import PeSignals.Proofs.Protection.Verdict

/-!
# Full score

A game in which a scheme is detected keeps the full score exactly if no block and no rule is about it. The
rules and the table of routes are two tables, and they differ: SecuROM asks for manual work, and no rule
is about SecuROM.
-/
namespace PeSignals.Protection

open Files (FileTree Path)

/-! ## Rules that grade -/

/-- The rules between the one that sets the full score and the one for a game without schemes. -/
def gradingRules : List Rule := (rules.drop 1).take 6

/-- The rules that grade a game. -/
def gradesOf (f : Facts) : List Rule := gradingRules.filter (·.applies f)

/-- Whether a verdict has something to say against a game: it takes off some of the score and states why. -/
def Verdict.IsReserved (v : Verdict) : Prop := v.score.toFloat < 1 ∧ v.reason ≠ ""

theorem rulesFor_of_detected {f : Facts} (h : f.isClean = false) :
    rulesFor f = rules.take 1 ++ gradesOf f := by
  have hsplit : rules = rules.take 1 ++ (gradingRules ++ rules.drop 7) := rfl
  have hfirst : (rules.take 1).filter (·.applies f) = rules.take 1 := rfl
  have hlast : (rules.drop 7).filter (·.applies f) = [] := by
    simp [rules, h]
  calc rulesFor f = (rules.take 1 ++ (gradingRules ++ rules.drop 7)).filter (·.applies f) := by
        rw [rulesFor, ← hsplit]
    _ = rules.take 1 ++ gradesOf f := by
        rw [List.filter_append, List.filter_append, hfirst, hlast, List.append_nil, gradesOf]

/-- Any rules that grade leave less than the full score. -/
theorem toFloat_lt_of_graded :
    ∀ grades ∈ (gradingRules.map (·.adjustment)).sublists, grades ≠ [] →
      (⟨.set 100 :: grades⟩ : Score).toFloat < 1 := by
  decide +kernel

theorem toFloat_full : (⟨[.set 100]⟩ : Score).toFloat = 1 := by
  decide

/-- Every rule that grades a game leaves a reason. -/
theorem reason_ne_empty {rule : Rule} (h : rule ∈ gradingRules) (reason : String) :
    rule.reason reason ≠ "" := by
  simp only [gradingRules, rules, List.drop_succ_cons, List.drop_zero, List.take_succ_cons,
    List.take_zero, List.mem_cons, List.not_mem_nil, or_false] at h
  rcases h with rfl | rfl | rfl | rfl | rfl | rfl <;> dsimp only
  · decide
  · decide
  · decide
  · decide
  · split_ifs with hempty
    · decide
    · exact hempty
  · rw [withLauncherRemark]
    split_ifs with hempty
    · decide
    · simp [String.append_eq_empty_iff]

theorem foldl_reason_ne_empty {grades : List Rule} (h : grades ⊆ gradingRules) (hsome : grades ≠ [])
    (reason : String) : grades.foldl (fun reason rule => rule.reason reason) reason ≠ "" := by
  obtain hnone | ⟨earlier, last, rfl⟩ := List.eq_nil_or_concat grades
  · exact absurd hnone hsome
  · rw [List.concat_eq_append, List.foldl_append]
    exact reason_ne_empty (h (by simp)) _

namespace Verdict

variable {f : Facts}

theorem of_open (h : ¬ f.IsHopeless) (hdetected : f.isClean = false) :
    (Verdict.of f).score = ⟨.set 100 :: (gradesOf f).map (·.adjustment)⟩ ∧
      (Verdict.of f).reason = (gradesOf f).foldl (fun reason rule => rule.reason reason) "" := by
  rw [Verdict.of, find?_blocks_eq_none h]
  simp only [rulesFor_of_detected hdetected, List.map_append, List.foldl_append]
  exact ⟨rfl, rfl⟩

theorem isReserved_of_graded (h : ¬ f.IsHopeless) (hdetected : f.isClean = false)
    (hgrades : gradesOf f ≠ []) : (Verdict.of f).IsReserved := by
  obtain ⟨hscore, hreason⟩ := of_open h hdetected
  constructor
  · rw [hscore]
    refine toFloat_lt_of_graded _ (List.mem_sublists.mpr ?_) (by simpa using hgrades)
    exact List.filter_sublist.map _
  · rw [hreason]
    exact foldl_reason_ne_empty (List.filter_subset_self _) hgrades ""

theorem of_ungraded (h : ¬ f.IsHopeless) (hdetected : f.isClean = false) (hgrades : gradesOf f = []) :
    (Verdict.of f).score.toFloat = 1 ∧ (Verdict.of f).reason = "" := by
  obtain ⟨hscore, hreason⟩ := of_open h hdetected
  rw [hscore, hreason, hgrades]
  exact ⟨toFloat_full, rfl⟩

theorem isReserved_of_hopeless (h : f.IsHopeless) : (Verdict.of f).IsReserved := by
  have hall : ∀ b ∈ blocks, b.verdict.score.toFloat < 1 ∧ b.verdict.reason ≠ "" := by
    decide
  obtain ⟨b, hb⟩ := Option.isSome_iff_exists.mp ((isSome_block_iff f).mpr h)
  rw [Verdict.of, hb]
  exact hall b (List.mem_of_find?_eq_some hb)

end Verdict

/-! ## What no rule grades -/

/-- Whether manual work is needed that the rules say nothing of: SecuROM is detected, at most the Steam
interface besides, and neither a connection nor a launcher is required. -/
structure Facts.IsOverlooked (f : Facts) : Prop where
  secuRom : .secuRom ∈ f.schemes
  others : ∀ s ∈ f.schemes, s = .secuRom ∨ s = .steamStub
  offline : f.online = false
  direct : f.launcher = false

/-- The schemes that a survey can detect. -/
def Scheme.IsRecognised (s : Scheme) : Prop := s ≠ .unprotected ∧ s ≠ .custom

namespace Facts

variable {f : Facts}

theorem gradesOf_eq_nil_iff :
    gradesOf f = [] ↔ f.has .vmProtect = false ∧ f.has .epicOnlineServices = false ∧
      (f.steamworks && f.isSteamOnly) = false ∧ f.has .steamCeg = false ∧
      f.online = false ∧ f.launcher = false := by
  rw [gradesOf, List.filter_eq_nil_iff]
  simp [gradingRules, rules]

theorem has_eq_false_iff {s : Scheme} : f.has s = false ↔ s ∉ f.schemes := by
  rw [has, ← Bool.not_eq_true, List.contains_iff_mem]

/-- An overlooked game is one that no rule grades. -/
theorem IsOverlooked.gradesOf_eq_nil (h : f.IsOverlooked) : gradesOf f = [] := by
  have hnone {s : Scheme} (hs : s ≠ .secuRom ∧ s ≠ .steamStub) : f.has s = false :=
    has_eq_false_iff.mpr fun hmem => (h.others s hmem).elim hs.1 hs.2
  have hmixed : f.isSteamOnly = false := by
    rw [isSteamOnly, ← Bool.not_eq_true, List.all_eq_true]
    intro hall
    exact absurd (hall .secuRom h.secuRom) (by decide)
  rw [gradesOf_eq_nil_iff]
  refine ⟨hnone (by decide), hnone (by decide), ?_, hnone (by decide), h.offline, h.direct⟩
  rw [hmixed, Bool.and_false]

theorem IsOverlooked.not_isHopeless (h : f.IsOverlooked) : ¬ f.IsHopeless := by
  rintro ⟨s, hs, hbypass⟩
  rcases h.others s hs with rfl | rfl
  · cases hbypass
  · cases hbypass

theorem isOverlooked_of_ungraded (hknown : ∀ s ∈ f.schemes, s.IsRecognised)
    (hwork : ∃ s ∈ f.schemes, s.bypass = .manualPatch ∨ s.bypass = .notPossible)
    (hopen : ¬ f.IsHopeless) (hgrades : gradesOf f = []) : f.IsOverlooked := by
  obtain ⟨hvm, hepic, -, hceg, hoffline, hdirect⟩ := gradesOf_eq_nil_iff.mp hgrades
  rw [has_eq_false_iff] at hvm hepic hceg
  have hothers : ∀ s ∈ f.schemes, s = .secuRom ∨ s = .steamStub := by
    intro s hs
    have hway : s.bypass ≠ .notPossible := fun hbypass => hopen ⟨s, hs, hbypass⟩
    cases s with
    | secuRom => exact .inl rfl
    | steamStub => exact .inr rfl
    | unprotected => exact absurd rfl (hknown _ hs).1
    | custom => exact absurd rfl (hknown _ hs).2
    | steamCeg => exact absurd hs hceg
    | vmProtect => exact absurd hs hvm
    | epicOnlineServices => exact absurd hs hepic
    | denuvo | themida | eaOrigin | ubisoftConnect => exact absurd rfl hway
  obtain ⟨s, hs, hbypass⟩ := hwork
  rcases hothers s hs with rfl | rfl
  · exact ⟨hs, hothers, hoffline, hdirect⟩
  · rcases hbypass with hbypass | hbypass <;> cases hbypass

end Facts

/-- If manual work or more is needed for a game, its verdict has something to say against it, unless the
work is overlooked. Then nothing is taken off and no reason is stated. -/
theorem Verdict.isReserved_or_overlooked {f : Facts} (hknown : ∀ s ∈ f.schemes, s.IsRecognised)
    (hwork : ∃ s ∈ f.schemes, s.bypass = .manualPatch ∨ s.bypass = .notPossible) :
    ((Verdict.of f).IsReserved ↔ ¬ f.IsOverlooked) ∧
      (f.IsOverlooked → (Verdict.of f).score.toFloat = 1 ∧ (Verdict.of f).reason = "") := by
  have hdetected : f.isClean = false := by
    obtain ⟨s, hs, -⟩ := hwork
    rw [Facts.isClean, List.isEmpty_eq_false_iff]
    exact List.ne_nil_of_mem hs
  have hfull (h : f.IsOverlooked) : (Verdict.of f).score.toFloat = 1 ∧ (Verdict.of f).reason = "" :=
    Verdict.of_ungraded h.not_isHopeless hdetected h.gradesOf_eq_nil
  refine ⟨⟨fun hreserved h => hreserved.2 (hfull h).2, fun h => ?_⟩, hfull⟩
  by_cases hhopeless : f.IsHopeless
  · exact Verdict.isReserved_of_hopeless hhopeless
  · refine Verdict.isReserved_of_graded hhopeless hdetected fun hgrades => h ?_
    exact Facts.isOverlooked_of_ungraded hknown hwork hhopeless hgrades

/-! ## What a survey detects -/

/-- Whether a survey can detect all that signals speak of. -/
def Signals.AreRecognised (s : Signals) : Prop := ∀ scheme ∈ s.detections.map (·.scheme), scheme.IsRecognised

theorem areRecognised_empty : ({} : Signals).AreRecognised :=
  List.forall_mem_nil _

/-- An image is only ever taken for a scheme that a survey recognises. -/
theorem areRecognised_imageSignals (t : FileTree) (settings : Settings) (path : Path) (image : Image) :
    (imageSignals t settings path image).value.AreRecognised := by
  intro s hs
  have hwhen {found : Bool} {d : Detection} :
      s ∈ (if found = true then [d] else []).map (·.scheme) ↔ found = true ∧ s = d.scheme := by
    cases found <;> simp
  simp only [imageSignals, List.map_append, List.mem_append, hwhen] at hs
  constructor <;> (rintro rfl; simp at hs)

theorem areRecognised_executableSignalsIn (view : List Log.Note → FileTree) (settings : Settings)
    (path : Path) : (executableSignalsIn view settings path).value.AreRecognised := by
  rw [executableSignalsIn]
  dsimp only
  split
  · exact areRecognised_empty
  · exact areRecognised_imageSignals _ _ _ _

theorem areRecognised_steamSignalsIn (t : FileTree) (directory : Path) :
    (steamSignalsIn t directory).value.AreRecognised := by
  rw [steamSignalsIn]
  split
  · intro s hs
    obtain ⟨rfl, -⟩ := mem_detections_steamSignals.mp hs
    exact ⟨by decide, by decide⟩
  · exact areRecognised_empty

theorem areRecognised_nameSignalsIn (t : FileTree) (directory : Path) :
    (nameSignalsIn t directory).value.AreRecognised := by
  rw [nameSignalsIn]
  split
  · intro s hs
    obtain ⟨rfl, -⟩ := mem_detections_nameSignals.mp hs
    exact ⟨by decide, by decide⟩
  · exact areRecognised_empty

/-- Whether a survey can have detected what an analysis has. -/
def Analysis.IsRecognised (a : Analysis) : Prop := ∀ s ∈ a.schemes, s.IsRecognised

theorem Analysis.IsRecognised.absorb {a : Analysis} (h : a.IsRecognised) {s : Signals}
    (hs : s.AreRecognised) : (a.absorb s).IsRecognised := by
  intro scheme hmem
  rcases Analysis.mem_schemes_absorb.mp hmem with hold | hnew
  · exact h scheme hold
  · exact hs scheme hnew

theorem Analysis.IsRecognised.conclude {a : Analysis} (h : a.IsRecognised) : a.conclude.IsRecognised := h

theorem isRecognised_absorb {a : Noted Analysis} (h : a.value.IsRecognised) {s : Noted Signals}
    (hs : s.value.AreRecognised) : (a.absorb s).value.IsRecognised := h.absorb hs

/-- An analysis goes on from what it started with, in a tree that may change on the way. -/
theorem isRecognised_analyseFrom (view : List Log.Note → FileTree) (settings : Settings) (root : Path)
    (executables : List Path) (start : Noted Analysis) (h : start.value.IsRecognised) :
    (analyseFrom view settings root executables start).value.IsRecognised := by
  have hlooked : (executables.foldl (absorbExecutable view settings) start).value.IsRecognised := by
    induction executables generalizing start with
    | nil => exact h
    | cons path rest ih =>
      exact ih _ (isRecognised_absorb h (areRecognised_executableSignalsIn _ settings path))
  have hsteam (t : FileTree) := isRecognised_absorb hlooked (areRecognised_steamSignalsIn t root)
  have hnamed (t : FileTree) := isRecognised_absorb (hsteam t) (areRecognised_nameSignalsIn t root)
  exact (hnamed (view (executables.foldl (absorbExecutable view settings) start).notes)).conclude

/-- A survey that ended early knows nothing, and any other has absorbed what it found. -/
theorem isRecognised_surveyIn {view : List Log.Note → FileTree} {settings : Settings} {game : String}
    {main : Option String} {result : Noted Analysis}
    (h : surveyIn view settings game main = .ok result) : result.value.IsRecognised := by
  have hlost {message : String} : ({ errors := [message] } : Analysis).IsRecognised :=
    List.forall_mem_nil _
  cases hroot : (view []).isDirectory (Path.ofText game).text with
  | error e =>
    rw [surveyIn_of_error view hroot] at h
    cases h
  | ok found =>
    cases found with
    | false =>
      obtain ⟨_, message, hsurvey, hvalue⟩ := surveyIn_of_missing view hroot
      obtain rfl := Except.ok.inj (hsurvey.symm.trans h)
      exact hvalue ▸ hlost
    | true =>
      cases hchoose : chooseExecutables (view []) main
          (findExecutables (view []) settings (Path.ofText game)).value with
      | error e =>
        obtain ⟨_, message, hsurvey, hvalue⟩ := surveyIn_of_lost view hroot hchoose
        obtain rfl := Except.ok.inj (hsurvey.symm.trans h)
        exact hvalue ▸ hlost
      | ok executables =>
        obtain ⟨_, hsurvey, hvalue⟩ := surveyIn_of_directory view hroot hchoose
        obtain rfl := Except.ok.inj (hsurvey.symm.trans h)
        rw [hvalue]
        exact isRecognised_analyseFrom _ settings _ executables _ (List.forall_mem_nil _)

end PeSignals.Protection

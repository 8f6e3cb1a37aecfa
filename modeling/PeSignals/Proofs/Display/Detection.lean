import Mathlib
import PeSignals.Display.Detection
import PeSignals.Proofs.Display.Message

/-!
# Displays of detections

The score of a verdict always has a bar, so a detection is drawn to its end. Among all that is drawn, the
closing line of a hopeless case stands once where the highest severity is critical, and nowhere else:
neither a note nor an error can be taken for it. A terminal does not get to it past evidence that it cannot
read.
-/
namespace PeSignals.Display

open Protection (Adjustment Analysis Facts Score Verdict)

/-! ## Bars -/

def HasBar (s : Score) : Prop := ∃ bar, scoreBar s.toFloat = .ok bar

theorem hasBar_of_isOk {s : Score} (h : (scoreBar s.toFloat).toOption.isSome = true) : HasBar s := by
  cases hbar : scoreBar s.toFloat with
  | ok bar => exact ⟨bar, hbar⟩
  | error e => rw [hbar] at h; cases h

/-- The values that a score can come to by an adjustment or without it. -/
def valuesAfter (values : List Float) : Adjustment → List Float
  | .set n => Protection.hundredthsFloat n :: values
  | .lower n => values ++ values.map (Adjustment.binary · (.lower n))

theorem subset_valuesAfter (values : List Float) (a : Adjustment) : values ⊆ valuesAfter values a := by
  cases a with
  | set n => exact List.subset_cons_self _ _
  | lower n => exact List.subset_append_left _ _

theorem binary_mem_valuesAfter {x : Float} {values : List Float} (h : x ∈ values) (a : Adjustment) :
    Adjustment.binary x a ∈ valuesAfter values a := by
  cases a with
  | set n => exact List.mem_cons_self
  | lower n => exact List.mem_append_right _ (List.mem_map.mpr ⟨x, h, rfl⟩)

/-- Whichever of some adjustments are made, in their order. -/
theorem foldl_mem_valuesAfter {made all : List Adjustment} (h : made.Sublist all) {x : Float}
    {values : List Float} (hx : x ∈ values) :
    made.foldl Adjustment.binary x ∈ all.foldl valuesAfter values := by
  induction h generalizing x values with
  | slnil => exact hx
  | cons a _ ih => exact ih (subset_valuesAfter values a hx)
  | cons_cons a _ ih => exact ih (binary_mem_valuesAfter hx a)

/-- Whichever rules apply, the score has a bar. -/
theorem isOk_scoreBar_rules :
    ∀ x ∈ (Protection.rules.map (·.adjustment)).foldl valuesAfter [0],
      (scoreBar (if x < 0 then 0 else if 1 < x then 1 else x)).toOption.isSome = true := by
  decide

/-- A score has a bar whichever of the rules apply. -/
theorem hasBar_of_sublist {made : List Adjustment} (h : made.Sublist (Protection.rules.map (·.adjustment))) :
    HasBar ⟨made⟩ :=
  hasBar_of_isOk (isOk_scoreBar_rules _ (foldl_mem_valuesAfter h (List.mem_singleton_self 0)))

theorem isOk_scoreBar_blocks :
    ∀ b ∈ Protection.blocks, (scoreBar b.verdict.score.toFloat).toOption.isSome = true := by
  decide

theorem hasBar_empty : HasBar {} := hasBar_of_sublist (List.nil_sublist _)

/-- Every verdict has a score with a bar, so none is lost in the drawing. -/
theorem hasBar_verdict (f : Facts) : HasBar (Verdict.of f).score := by
  rw [Verdict.of]
  split
  · next b hb => exact hasBar_of_isOk (isOk_scoreBar_blocks b (List.mem_of_find?_eq_some hb))
  · exact hasBar_of_sublist (List.filter_sublist.map _)

/-! ## The closing line -/

/-- The letter by which the styles of messages differ. -/
def styleMark : Event → Option Char
  | .print [.text markup] => markup.toList[6]?
  | _ => none

/-- All printed styles start with the same word and a dot, so the character behind them tells the style. -/
theorem styleMark_line (beginning rest : String) (h : 6 < beginning.toList.length) :
    styleMark (line (beginning ++ rest)) = beginning.toList[6]? := by
  change (beginning ++ rest).toList[6]? = _
  rw [String.toList_append, List.getElem?_append_left h]

theorem styleMark_info (message : String) : styleMark (info message) = some 'i' :=
  (styleMark_line "[scan.info][ℹ] INFO:[/scan.info] " message (by decide)).trans
    (by decide)

theorem styleMark_error (message : String) : styleMark (error message) = some 'e' :=
  (styleMark_line "[scan.error][✘] ERROR:[/scan.error] " message (by decide)).trans
    (by decide)

theorem styleMark_nothingDetected : styleMark nothingDetected = some 's' := by
  decide

theorem styleMark_hopelessLine : styleMark hopelessLine = some 'c' := by
  decide

theorem ne_of_unmarked {e : Event} (h : styleMark e = none) : styleMark e ≠ some 'c' := by
  rw [h]
  decide

/-- Whether nothing among events is in the style of the closing line. -/
def NoneCritical (events : List Event) : Prop := ∀ e ∈ events, styleMark e ≠ some 'c'

theorem NoneCritical.append {events more : List Event} (h : NoneCritical events)
    (hmore : NoneCritical more) : NoneCritical (events ++ more) :=
  List.forall_mem_append.mpr ⟨h, hmore⟩

theorem NoneCritical.count {events : List Event} (h : NoneCritical events) :
    events.count hopelessLine = 0 :=
  List.count_eq_zero_of_not_mem fun hmem => h _ hmem styleMark_hopelessLine

theorem noneCritical_map {messages : List String} {f : String → Event} {mark : Char}
    (h : ∀ message, styleMark (f message) = some mark) (hmark : mark ≠ 'c') :
    NoneCritical (messages.map f) := by
  refine List.forall_mem_map.mpr fun message _ => ?_
  rw [h message]
  exact fun heq => hmark (Option.some.inj heq)

theorem noneCritical_schemesEvents (rows : List SchemeRow) : NoneCritical (schemesEvents rows) := by
  rw [schemesEvents]
  split_ifs
  · intro e he
    obtain rfl := List.mem_singleton.mp he
    rw [styleMark_nothingDetected]
    decide
  · intro e he
    rcases List.mem_pair.mp he with rfl | rfl <;> exact ne_of_unmarked rfl

theorem noneCritical_verdictEvents (v : VerdictView) (bar : String) :
    NoneCritical (verdictEvents v bar) := by
  intro e he
  rcases List.mem_pair.mp he with rfl | rfl <;> exact ne_of_unmarked rfl

theorem noneCritical_heading (title : String) : NoneCritical (heading title) := by
  intro e he
  rcases List.mem_pair.mp he with rfl | rfl <;> exact ne_of_unmarked rfl

/-- The line on a hopeless case is asked for once, and only when a finding is critical. -/
theorem count_endingEvents (findings : List Finding) (highest : Option Severity) :
    (endingEvents findings highest).count hopelessLine = if highest = some .critical then 1 else 0 := by
  have htable : NoneCritical (if findings.isEmpty then [] else [findingsTable findings]) := by
    split_ifs
    · exact List.forall_mem_nil _
    · exact List.forall_mem_singleton.mpr (ne_of_unmarked rfl)
  have hdivider : NoneCritical [divider] := List.forall_mem_singleton.mpr (ne_of_unmarked rfl)
  rw [endingEvents, List.append_assoc, List.count_append, (htable.append hdivider).count, Nat.add_zero]
  split_ifs
  · exact List.count_singleton_self
  · rfl

/-- What is drawn of a detection whose score has a bar. -/
theorem displayDetection_eq {s : Scan GameReport} {bar : String}
    (h : scoreBar s.payload.analysis.verdict.score.toFloat = .ok bar) :
    displayDetection s = .of (heading "DRM Detection" ++
      schemesEvents (AnalysisView.of s.payload.analysis).detected ++
      (verdictEvents (AnalysisView.of s.payload.analysis).verdict bar ++
        (s.payload.analysis.notes.map info ++ s.payload.analysis.errors.map error ++
          endingEvents s.findings s.highest?))) := by
  have hbar : scoreBar (AnalysisView.of s.payload.analysis).verdict.score = .ok bar := h
  rw [displayDetection, analysisDrawing, verdictDrawing, hbar]
  simp only [Except.mapError, Drawing.needing, Drawing.given, Drawing.sequence, Drawing.append,
    Drawing.of, Function.comp_apply, List.append_nil]
  rfl

/-- A detection whose score has a bar is drawn to its end, and the closing line of a hopeless case
stands in it once or not at all. -/
theorem count_displayDetection {s : Scan GameReport} (h : HasBar s.payload.analysis.verdict.score) :
    (displayDetection s).fault?.isNone = true ∧
      (displayDetection s).events.count hopelessLine =
        if s.highest? = some .critical then 1 else 0 := by
  obtain ⟨bar, hbar⟩ := h
  rw [displayDetection_eq hbar]
  refine ⟨rfl, ?_⟩
  have hmessages : NoneCritical (s.payload.analysis.notes.map info ++
      s.payload.analysis.errors.map error) :=
    (noneCritical_map styleMark_info (by decide)).append (noneCritical_map styleMark_error (by decide))
  have hbefore := (noneCritical_heading "DRM Detection").append
    (noneCritical_schemesEvents (AnalysisView.of s.payload.analysis).detected)
  simp only [Drawing.of]
  rw [List.count_append, hbefore.count, List.count_append, (noneCritical_verdictEvents _ bar).count,
    List.count_append, hmessages.count, count_endingEvents, Nat.zero_add, Nat.zero_add, Nat.zero_add]

/-! ## What a terminal prints -/

/-- The line itself can always be read; only texts before it can keep it away. -/
theorem check_hopelessLine : hopelessLine.check = .ok () := check_critical (by decide)

/-- One evidence that cannot be read spoils the table of schemes. -/
theorem exists_schemesEvents_ne_ok {rows : List SchemeRow} {r : SchemeRow} (hr : r ∈ rows)
    (h : IsFaulty r.evidence) : ∃ e ∈ schemesEvents rows, e.check ≠ .ok () := by
  have hsome : ¬ rows.isEmpty = true := fun hempty => by
    rw [List.isEmpty_iff.mp hempty] at hr
    exact List.not_mem_nil hr
  rw [schemesEvents, if_neg hsome]
  refine ⟨_, List.mem_cons_self, check_table_ne_ok
    (List.mem_map_of_mem (List.mem_map_of_mem hr)) (List.mem_append_left _ ?_) h⟩
  exact List.mem_cons_of_mem _ (List.mem_cons_of_mem _ List.mem_cons_self)

/-- Evidence in faulty markup hides the closing line, for it is shown before. -/
theorem hopelessLine_notMem_legible {s : Scan GameReport} (hbar : HasBar s.payload.analysis.verdict.score)
    {d : Protection.Detection} (hd : d ∈ s.payload.analysis.detected) (h : IsFaulty d.evidence) :
    hopelessLine ∉ (legible (displayDetection s).events).1 := by
  obtain ⟨bar, hbar⟩ := hbar
  have hrow : SchemeRow.of d ∈ (AnalysisView.of s.payload.analysis).detected := List.mem_map_of_mem hd
  obtain ⟨e, he, hcheck⟩ := exists_schemesEvents_ne_ok hrow h
  have hfault : (legible (heading "DRM Detection" ++
      schemesEvents (AnalysisView.of s.payload.analysis).detected)).2 ≠ none := fun hread =>
    hcheck (fault_eq_none_iff.mp hread e (List.mem_append_right _ he))
  have hbefore := (noneCritical_heading "DRM Detection").append
    (noneCritical_schemesEvents (AnalysisView.of s.payload.analysis).detected)
  rw [displayDetection_eq hbar, Drawing.of, legible_append_of_fault hfault]
  exact fun hmem => hbefore _ ((legible_sublist _).subset hmem) styleMark_hopelessLine

end PeSignals.Display

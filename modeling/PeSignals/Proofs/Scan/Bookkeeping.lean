import Mathlib
import PeSignals.Proofs.Scan.Report

/-!
# Severities of a scan

A scan shows its findings in three ways: counts by severity, the highest severity and a summary. Findings may
be added and the scan ended in any order and as often as one likes. All three views stay true to the list of
findings, and none of them depends on its order.
-/
namespace PeSignals

namespace Severity

/-- The place of a severity, the most severe first. -/
def place (v : Severity) : Nat := all.idxOf v

theorem mem_all (v : Severity) : v ∈ all := by
  cases v <;> decide

/-- A search finds what stands at the least place of all that is sought. -/
theorem find?_eq_some_iff_idxOf {levels : List Severity} {p : Severity → Bool} {v : Severity} :
    levels.find? p = some v ↔
      v ∈ levels ∧ p v = true ∧ ∀ w ∈ levels, p w = true → levels.idxOf v ≤ levels.idxOf w := by
  induction levels with
  | nil => exact iff_of_false nofun fun h => List.not_mem_nil h.1
  | cons first rest ih =>
    cases hfirst : p first with
    | true =>
      rw [List.find?_cons_of_pos hfirst, Option.some_inj]
      constructor
      · rintro rfl
        refine ⟨List.mem_cons_self, hfirst, fun w _ _ => ?_⟩
        rw [List.idxOf_cons_self]
        exact Nat.zero_le _
      · rintro ⟨-, -, hleast⟩
        -- Nothing but the first one stands at place zero.
        by_contra hne
        have hzero := hleast first List.mem_cons_self hfirst
        rw [List.idxOf_cons_self, List.idxOf_cons_ne _ hne] at hzero
        omega
    | false =>
      rw [List.find?_cons_of_neg (by rw [hfirst]; exact Bool.false_ne_true), ih]
      -- What is sought is not the first one, so all places are those in the rest moved by one.
      have hshift {w : Severity} (hw : p w = true) :
          (w ∈ first :: rest ↔ w ∈ rest) ∧ (first :: rest).idxOf w = rest.idxOf w + 1 := by
        have hne : first ≠ w := by
          rintro rfl
          rw [hfirst] at hw
          cases hw
        exact ⟨by rw [List.mem_cons, or_iff_right hne.symm], List.idxOf_cons_ne _ hne⟩
      constructor
      · rintro ⟨hv, hp, hleast⟩
        refine ⟨List.mem_cons_of_mem _ hv, hp, fun w hw hpw => ?_⟩
        rw [(hshift hp).2, (hshift hpw).2]
        exact Nat.succ_le_succ (hleast w ((hshift hpw).1.mp hw) hpw)
      · rintro ⟨hv, hp, hleast⟩
        refine ⟨(hshift hp).1.mp hv, hp, fun w hw hpw => ?_⟩
        have hle := hleast w (List.mem_cons_of_mem _ hw) hpw
        rw [(hshift hp).2, (hshift hpw).2] at hle
        exact Nat.le_of_succ_le_succ hle

end Severity

namespace Scan

open Time (Moment)

variable {α : Type}

/-! ## Histories -/

inductive Change
  | add (f : Finding)
  | finalize (now : Moment) (summary : Option String)

def changed (s : Scan α) : Change → Scan α
  | .add f => s.add f
  | .finalize now summary => s.finalize now summary

def after (s : Scan α) (history : List Change) : Scan α := history.foldl changed s

def Change.finding? : Change → Option Finding
  | .add f => some f
  | .finalize .. => none

def added (history : List Change) : List Finding := history.filterMap Change.finding?

/-- Counts with one more at the severity of a finding. -/
def raised (counts : List (Severity × Nat)) (f : Finding) : List (Severity × Nat) :=
  counts.map fun c => if c.1 = f.severity then (c.1, c.2 + 1) else c

theorem counts_add (s : Scan α) (f : Finding) : (s.add f).counts = raised s.counts f := by
  rw [counts, counts, raised, List.map_map]
  refine List.map_congr_left fun v _ => ?_
  have hcount : (s.add f).count v = s.count v + if f.severity = v then 1 else 0 := by
    rw [count, add, List.countP_append, List.countP_singleton, count]
    simp only [decide_eq_true_eq]
  rw [Function.comp_apply, hcount]
  by_cases hv : v = f.severity
  · rw [if_pos hv, if_pos hv.symm]
  · rw [if_neg hv, if_neg (Ne.symm hv), Nat.add_zero]

theorem findings_after (s : Scan α) (history : List Change) :
    (s.after history).findings = s.findings ++ added history := by
  induction history generalizing s with
  | nil => exact (List.append_nil _).symm
  | cons change rest ih =>
    rw [after, List.foldl_cons, ← after, ih]
    cases change with
    | add f => exact List.append_assoc s.findings [f] (added rest)
    | finalize now summary => rfl

/-- Counting goes on from the counts before, one finding after the other; endings do not show in it. -/
theorem counts_after (s : Scan α) (history : List Change) :
    (s.after history).counts = (added history).foldl raised s.counts := by
  induction history generalizing s with
  | nil => rfl
  | cons change rest ih =>
    rw [after, List.foldl_cons, ← after, ih]
    cases change with
    | add f => exact congrArg (List.foldl raised · (added rest)) (s.counts_add f)
    | finalize now summary => rfl

/-! ## Views -/

def number (s : Scan α) (v : Severity) : Nat := (s.findings.filter fun f => f.severity = v).length

theorem count_eq_number (s : Scan α) (v : Severity) : s.count v = s.number v :=
  List.countP_eq_length_filter

theorem number_ne_zero_iff {s : Scan α} {v : Severity} :
    s.number v ≠ 0 ↔ ∃ f ∈ s.findings, f.severity = v := by
  rw [number, ← Nat.pos_iff_ne_zero, List.length_filter_pos_iff]
  simp only [decide_eq_true_eq]

theorem counts_eq (s : Scan α) : s.counts = Severity.all.map fun v => (v, s.number v) :=
  List.map_congr_left fun v _ => congrArg (v, ·) (s.count_eq_number v)

theorem any_severity_eq (s : Scan α) (v : Severity) :
    (s.findings.any fun f => f.severity = v) = decide (s.number v ≠ 0) := by
  rw [Bool.eq_iff_iff, decide_eq_true_eq, number_ne_zero_iff, List.any_eq_true]
  simp only [decide_eq_true_eq]

/-- The highest severity is the first one with a count. -/
theorem highest?_eq_find? (s : Scan α) :
    s.highest? = (s.counts.find? fun c => c.2 ≠ 0).map (·.1) := by
  rw [counts_eq, List.find?_map, Option.map_map, highest?]
  have hsought : (fun v => s.findings.any fun f => f.severity = v) =
      (fun c : Severity × Nat => decide (c.2 ≠ 0)) ∘ fun v => (v, s.number v) :=
    funext s.any_severity_eq
  rw [hsought]
  exact Option.map_id'.symm

/-- The highest severity is that of a finding, and no finding is more severe. -/
theorem highest?_eq_some_iff {s : Scan α} {v : Severity} :
    s.highest? = some v ↔
      (∃ f ∈ s.findings, f.severity = v) ∧ ∀ f ∈ s.findings, v.place ≤ f.severity.place := by
  rw [highest?, Severity.find?_eq_some_iff_idxOf]
  simp only [List.any_eq_true, decide_eq_true_eq]
  constructor
  · rintro ⟨-, hfound, hleast⟩
    exact ⟨hfound, fun f hf => hleast f.severity (Severity.mem_all _) ⟨f, hf, rfl⟩⟩
  · rintro ⟨hfound, hleast⟩
    refine ⟨Severity.mem_all v, hfound, ?_⟩
    rintro _ - ⟨f, hf, rfl⟩
    exact hleast f hf

theorem highest?_eq_none_iff {s : Scan α} : s.highest? = none ↔ s.findings = [] := by
  rw [highest?, List.find?_eq_none]
  constructor
  · intro h
    refine List.eq_nil_iff_forall_not_mem.mpr fun f hf => h f.severity (Severity.mem_all _) ?_
    exact List.any_eq_true.mpr ⟨f, hf, decide_eq_true rfl⟩
  · intro h v _
    rw [h]
    exact Bool.false_ne_true

theorem number_congr {s t : Scan α} (h : s.findings.Perm t.findings) (v : Severity) :
    s.number v = t.number v :=
  (h.filter _).length_eq

theorem counts_congr {s t : Scan α} (h : s.findings.Perm t.findings) : s.counts = t.counts := by
  rw [counts_eq, counts_eq]
  exact List.map_congr_left fun v _ => congrArg (v, ·) (number_congr h v)

/-- The highest severity does not depend on the order of the findings. -/
theorem highest?_congr {s t : Scan α} (h : s.findings.Perm t.findings) : s.highest? = t.highest? := by
  rw [highest?_eq_find?, highest?_eq_find?, counts_congr h]

/-! ## Summaries -/

/-- The severities that occur among the findings, the most severe first. -/
def present (s : Scan α) : List Severity :=
  Severity.all.filter fun v => v ∈ s.findings.map (·.severity)

/-- How a summary lists severities with their numbers. -/
def listing (s : Scan α) : String :=
  if s.findings = [] then "none"
  else ", ".intercalate (s.present.map fun v => v.label ++ ": " ++ toString (s.number v))

theorem mem_present_iff {s : Scan α} {v : Severity} : v ∈ s.present ↔ s.number v ≠ 0 := by
  rw [present, List.mem_filter, and_iff_right (Severity.mem_all v), decide_eq_true_eq, number_ne_zero_iff,
    List.mem_map]

theorem occurring_eq (s : Scan α) : s.occurring = s.present.map fun v => (v, s.number v) := by
  have hsought : (fun c : Severity × Nat => decide (c.2 ≠ 0)) ∘ (fun v => (v, s.number v)) =
      fun v => decide (v ∈ s.findings.map (·.severity)) := by
    funext v
    rw [Function.comp_apply, decide_eq_decide, number_ne_zero_iff, List.mem_map]
  rw [occurring, counts_eq, List.filter_map, hsought, present]

theorem present_eq_nil_iff {s : Scan α} : s.present = [] ↔ s.findings = [] := by
  rw [List.eq_nil_iff_forall_not_mem, ← highest?_eq_none_iff, highest?, List.find?_eq_none]
  refine forall_congr' fun v => ?_
  rw [mem_present_iff, any_severity_eq, decide_eq_true_eq]
  exact ⟨fun h _ => h, fun h => h (Severity.mem_all v)⟩

theorem countText_eq (v : Severity) (n : Nat) : countText (v, n) = v.label ++ ": " ++ toString n := rfl

theorem parts_eq (s : Scan α) :
    s.occurring.map countText = s.present.map fun v => v.label ++ ": " ++ toString (s.number v) := by
  rw [occurring_eq, List.map_map]
  exact List.map_congr_left fun v _ => countText_eq v (s.number v)

theorem shown_eq_listing (s : Scan α) :
    (if (s.occurring.map countText).isEmpty = true then "none"
      else ", ".intercalate (s.occurring.map countText)) = s.listing := by
  have hempty : (s.occurring.map countText).isEmpty = true ↔ s.findings = [] := by
    rw [List.isEmpty_iff, parts_eq, List.map_eq_nil_iff, present_eq_nil_iff]
  rw [listing, ← parts_eq]
  by_cases hnone : s.findings = []
  · rw [if_pos hnone, if_pos (hempty.mpr hnone)]
  · rw [if_neg hnone, if_neg (mt hempty.mp hnone)]

theorem defaultSummary_eq (s : Scan α) :
    s.defaultSummary =
      "Scan complete. Findings: " ++ toString s.findings.length ++ " (" ++ s.listing ++ ")" := by
  rw [← shown_eq_listing]
  rfl

/-! ## The three views together -/

/-- Whether the views of a scan are true to its findings. -/
structure IsTallied (s : Scan α) : Prop where
  levels : s.counts.map (·.1.label) = ["CRITICAL", "HIGH", "MEDIUM", "LOW", "INFO"]
  counted : ∀ c ∈ s.counts, c.2 = (s.findings.filter fun f => f.severity = c.1).length
  total : (s.counts.map (·.2)).sum = s.findings.length
  none : s.highest? = none ↔ s.findings = []
  first : s.highest? = (s.counts.find? fun c => c.2 ≠ 0).map (·.1)
  mostSevere : ∀ v, s.highest? = some v ↔
    (∃ f ∈ s.findings, f.severity = v) ∧ ∀ f ∈ s.findings, v.place ≤ f.severity.place
  reordered : ∀ t : Scan α, t.findings.Perm s.findings →
    t.counts = s.counts ∧ t.highest? = s.highest? ∧ t.findings.length = s.findings.length
  /-- Without a summary of its own a scan lists the severities that occur, with their numbers. -/
  summary : ∀ now : Moment, (s.finalize now).summary =
    "Scan complete. Findings: " ++ toString s.findings.length ++ " (" ++ s.listing ++ ")"

theorem isTallied (s : Scan α) : s.IsTallied where
  levels := rfl
  counted := by
    rw [counts_eq]
    intro c hc
    obtain ⟨v, -, rfl⟩ := List.mem_map.mp hc
    rfl
  total := by
    rw [counts, List.map_map]
    exact sum_counts s.findings
  none := highest?_eq_none_iff
  first := s.highest?_eq_find?
  mostSevere := fun _ => highest?_eq_some_iff
  reordered := fun _ h => ⟨counts_congr h, highest?_congr h, h.length_eq⟩
  summary := fun _ => s.defaultSummary_eq

/-- After any history a scan holds the findings that were added, in order, the counts have gone up by one for
each of them, and the three views agree. -/
theorem isTallied_after (s : Scan α) (history : List Change) :
    (s.after history).findings = s.findings ++ added history ∧
      (s.after history).counts = (added history).foldl raised s.counts ∧ (s.after history).IsTallied :=
  ⟨s.findings_after history, s.counts_after history, (s.after history).isTallied⟩

end Scan

end PeSignals
